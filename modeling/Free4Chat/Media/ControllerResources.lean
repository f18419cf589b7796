import Free4Chat.Media.Controller

/-!
# What the Media Controller Holds

A lease that is held, and a bridge that is alive, are always somebody's to give up: they are noted
in the controller, where `Stop` will find them, or a reconciliation or `Stop` itself is about to
release or stop them.

* `ControllerRun.HoldsLease`: this instance holds the lease of an epoch.
* `ControllerRun.LeaseKnown`: who will release the lease. It is kept if a reconciliation notes its
  lease before `Stop` looks for it.
* `ControllerRun.BridgeKnown`: who will stop a bridge. It is kept by every step.
-/

namespace Free4Chat

/-! ## Leases -/

/-- Whether `Stop` will still release the lease of an epoch. -/
def StopPhase.releases (epoch : ℤ) : StopPhase → Bool
  | .uncalled => true
  | .releasing => true
  | .unleasing epoch' => epoch' = epoch
  | _ => false

namespace ControllerRun

variable (c : ControllerRun)

/-- The key of the lease that the controller competes for. -/
def leaseKey : String := transcriptProducerKey c.options.roomID c.options.runtimeHostID

/-- This instance holds the lease of an epoch. -/
def HoldsLease (epoch : ℤ) : Prop :=
  c.leases.get? c.leaseKey =
    some (c.leaseKey, { epoch, instanceID := c.options.runtimeInstanceID })

end ControllerRun

namespace TranscriptProducers

variable {leases leases' : TranscriptProducers} {roomID runtimeHostID : String} {epoch : ℤ}
  {instanceID : String} {key : String} {entry : String × TranscriptProducerLease}

lemma get?_acquire (h : leases.acquire? roomID runtimeHostID epoch instanceID = some leases')
    (hget : leases'.get? key = some entry) : leases.get? key = some entry ∨
      entry = (transcriptProducerKey roomID runtimeHostID, { epoch, instanceID }) := by
  have hset : ∀ {lease : String × TranscriptProducerLease},
      (leases.set lease).get? key = some entry → leases.get? key = some entry ∨ entry = lease := by
    intro lease hlease
    rw [KeyedMap.get?_set] at hlease
    split at hlease
    · exact Or.inr (Option.some.inj hlease).symm
    · exact Or.inl hlease
  unfold acquire? at h
  split at h
  · cases h
  · split at h
    · cases h
      exact hset hget
    · split at h
      · cases h
        exact hset hget
      · split at h
        · cases h
          exact Or.inl hget
        · cases h

lemma get?_release
    (hget : (leases.release roomID runtimeHostID epoch instanceID).get? key = some entry) :
    leases.get? key = some entry := by
  unfold release at hget
  split at hget
  · rw [KeyedMap.get?_erase] at hget
    split at hget
    · cases hget
    · exact hget
  · exact hget

lemma get?_release_self : (leases.release roomID runtimeHostID epoch instanceID).get?
      (transcriptProducerKey roomID runtimeHostID) ≠
        some (transcriptProducerKey roomID runtimeHostID, { epoch, instanceID }) := by
  unfold release
  split
  · rw [KeyedMap.get?_erase, if_pos rfl]
    exact (Option.some_ne_none _).symm
  · next hne => exact hne

end TranscriptProducers

/-- Whether a reconciliation is still about the lease. -/
def ReconcilePhase.leases : ReconcilePhase → Bool
  | .acquiring => true
  | .leased => true
  | .releasing => true
  | .unleasing _ => true
  | _ => false

namespace ControllerRun

variable {c c' : ControllerRun} {r : Reconciliation}

/-- A lease that this instance holds will be released by `Stop`, or by the reconciliation. -/
structure LeaseKnown (c : ControllerRun) : Prop where
  owned : ∀ epoch, c.HoldsLease epoch → c.options.releases = true ∧
    ((c.liveLeaseEpoch = some epoch ∧ (c.stopping = .uncalled ∨ c.stopping = .releasing)) ∨
      c.stopping = .unleasing epoch ∨
      ∃ r, c.reconciliation = some r ∧ (r.phase = .leased ∨ r.phase = .unleasing epoch))
  acquired : ∀ r, c.reconciliation = some r → r.phase = .leased → ∀ epoch, c.HoldsLease epoch →
    epoch = r.state.liveTranscriptEpoch

namespace LeaseKnown

lemma congr (h : c.LeaseKnown) (hoptions : c'.options = c.options)
    (hleases : c'.leases = c.leases) (hepoch : c'.liveLeaseEpoch = c.liveLeaseEpoch)
    (hstopping : c'.stopping = c.stopping) (hold : ∀ r, c.reconciliation = some r →
      r.phase ≠ .leased ∧ ∀ epoch, r.phase ≠ .unleasing epoch)
    (hnew : ∀ r, c'.reconciliation = some r → r.phase ≠ .leased) : c'.LeaseKnown where
  owned := by
    intro epoch hholds
    have hholds' : c.HoldsLease epoch := by
      rw [HoldsLease, leaseKey, hoptions, hleases] at hholds
      exact hholds
    obtain ⟨hreleases, howned⟩ := h.owned epoch hholds'
    rw [hoptions, hepoch, hstopping]
    refine ⟨hreleases, ?_⟩
    rcases howned with hnoted | hstop | ⟨r, hr, hphase⟩
    · exact Or.inl hnoted
    · exact Or.inr (Or.inl hstop)
    · obtain ⟨hleased, hunleasing⟩ := hold r hr
      rcases hphase with hphase | hphase
      · exact absurd hphase hleased
      · exact absurd hphase (hunleasing epoch)
  acquired := fun r hr hphase => absurd hphase (hnew r hr)

lemma of_subset (h : c.LeaseKnown) (hoptions : c'.options = c.options)
    (hleases : ∀ epoch, c'.HoldsLease epoch → c.HoldsLease epoch)
    (hepoch : c'.liveLeaseEpoch = c.liveLeaseEpoch) (hstopping : c'.stopping = c.stopping)
    (hreconciliation : c'.reconciliation = c.reconciliation) : c'.LeaseKnown where
  owned := by
    intro epoch hholds
    rw [hoptions, hepoch, hstopping, hreconciliation]
    exact h.owned epoch (hleases epoch hholds)
  acquired := by
    rw [hreconciliation]
    exact fun r hr hphase epoch hholds => h.acquired r hr hphase epoch (hleases epoch hholds)

lemma releases_of_competes {options : ControllerOptions} {state : ResidentMediaState}
    (h : options.competes state = true) : options.releases = true := by
  simp only [ControllerOptions.competes, Bool.and_eq_true, decide_eq_true_eq] at h
  obtain ⟨⟨⟨⟨⟨⟨-, -⟩, -⟩, hne⟩, heq⟩, hinstance⟩, hcoordinated⟩ := h
  rw [heq] at hne
  simp only [ControllerOptions.releases, Bool.and_eq_true, decide_eq_true_eq]
  exact ⟨⟨hcoordinated, hne⟩, hinstance⟩

section

variable (h : c.LeaseKnown) (hr : c.reconciliation = some r)
include h hr

lemma of_acquireLease (hphase : r.phase = .acquiring) : (c.acquireLease r).LeaseKnown := by
  have hold : ∀ r', c.reconciliation = some r' →
      r'.phase ≠ .leased ∧ ∀ epoch, r'.phase ≠ .unleasing epoch := by
    intro r' hr'
    cases hr.symm.trans hr'
    rw [hphase]
    exact ⟨(fun heq => by cases heq), fun epoch heq => by cases heq⟩
  have hnot : (c.goTo r .releasing).LeaseKnown :=
    h.congr rfl rfl rfl rfl hold fun r' hr' => by
      cases hr'
      exact fun heq => by cases heq
  unfold acquireLease
  split
  · next hcompetes =>
    have hreleases := releases_of_competes hcompetes
    cases hacquire : c.leases.acquire? c.options.roomID c.options.runtimeHostID
        r.state.liveTranscriptEpoch c.options.runtimeInstanceID with
    | none => exact hnot
    | some leases =>
      refine ⟨fun epoch _ => ⟨hreleases, Or.inr (Or.inr ⟨_, rfl, Or.inl rfl⟩)⟩, ?_⟩
      intro r' hr' _ epoch hholds
      cases hr'
      -- Either the lease was held before and is acquired again, or it is the new one.
      rcases TranscriptProducers.get?_acquire hacquire hholds with hheld | hnew
      · unfold TranscriptProducers.acquire? at hacquire
        split at hacquire
        · cases hacquire
        · have hget : c.leases.get? (transcriptProducerKey c.options.roomID
              c.options.runtimeHostID) = some (c.leaseKey, ⟨epoch, c.options.runtimeInstanceID⟩) :=
            hheld
          rw [hget] at hacquire
          dsimp only at hacquire
          split at hacquire
          · cases hacquire
            have hset := (KeyedMap.get?_set_self c.leases (c.leaseKey,
              { epoch := r.state.liveTranscriptEpoch
                instanceID := c.options.runtimeInstanceID })).symm.trans hholds
            exact (congrArg (fun lease => lease.2.epoch) (Option.some.inj hset)).symm
          · next heq => exact not_not.mp heq
      · exact congrArg (fun lease => lease.2.epoch) hnew
  · exact hnot

lemma of_noteLease (hphase : r.phase = .leased)
    (hguard : c.stopping.releases r.state.liveTranscriptEpoch = true) :
    (c.noteLease r).LeaseKnown := by
  refine ⟨fun epoch hholds => ?_, fun r' hr' hphase' => ?_⟩
  · have hheld : c.HoldsLease epoch := hholds
    obtain ⟨hreleases, -⟩ := h.owned epoch hheld
    have hepoch := h.acquired r hr hphase epoch hheld
    refine ⟨hreleases, ?_⟩
    show (some r.state.liveTranscriptEpoch = some epoch ∧
      (c.stopping = .uncalled ∨ c.stopping = .releasing)) ∨ c.stopping = .unleasing epoch ∨ _
    rw [hepoch]
    cases hstopping : c.stopping with
    | uncalled => exact Or.inl ⟨rfl, Or.inl rfl⟩
    | releasing => exact Or.inl ⟨rfl, Or.inr rfl⟩
    | unleasing epoch' =>
      rw [hstopping] at hguard
      rw [of_decide_eq_true hguard]
      exact Or.inr (Or.inl rfl)
    | silencing | detaching | closing bridge | returned => rw [hstopping] at hguard; cases hguard
  · cases hr'
    cases hphase'

lemma of_takeLeaseFor (hphase : r.phase = .releasing) : (c.takeLeaseFor r).LeaseKnown := by
  have hnone : ∀ r' epoch, c.reconciliation = some r' →
      ¬(r'.phase = .leased ∨ r'.phase = .unleasing epoch) := by
    intro r' epoch hr'
    cases hr.symm.trans hr'
    rw [hphase]
    rintro (heq | heq) <;> cases heq
  unfold takeLeaseFor takeLease
  split
  · next htaken =>
    refine ⟨fun epoch hholds => ?_, fun r' hr' hphase' => by cases hr'; cases hphase'⟩
    split at hholds
    · next hreleases =>
      rw [if_pos hreleases] at htaken
      have hheld : c.HoldsLease epoch := hholds
      obtain ⟨-, hnoted | hstop | ⟨r', hr', hduty⟩⟩ := h.owned epoch hheld
      · rw [hnoted.1] at htaken
        cases htaken
      · rw [if_pos hreleases]
        exact ⟨hreleases, Or.inr (Or.inl hstop)⟩
      · exact absurd hduty (hnone r' epoch hr')
    · next hreleases =>
      have hheld : c.HoldsLease epoch := hholds
      exact absurd (h.owned epoch hheld).1 hreleases
  · next epoch' htaken =>
    refine ⟨fun epoch hholds => ?_, fun r' hr' hphase' => by cases hr'; cases hphase'⟩
    split at hholds
    · next hreleases =>
      rw [if_pos hreleases] at htaken ⊢
      have hheld : c.HoldsLease epoch := hholds
      obtain ⟨-, hnoted | hstop | ⟨r', hr', hduty⟩⟩ := h.owned epoch hheld
      · cases hnoted.1.symm.trans htaken
        exact ⟨hreleases, Or.inr (Or.inr ⟨_, rfl, Or.inr rfl⟩)⟩
      · exact ⟨hreleases, Or.inr (Or.inl hstop)⟩
      · exact absurd hduty (hnone r' epoch hr')
    · next hreleases =>
      rw [if_neg hreleases] at htaken
      cases htaken

end

lemma holds_releaseLease {epoch epoch' : ℤ} (hholds : (c.releaseLease epoch).HoldsLease epoch') :
    c.HoldsLease epoch' ∧ epoch' ≠ epoch := by
  refine ⟨TranscriptProducers.get?_release hholds, ?_⟩
  rintro rfl
  exact TranscriptProducers.get?_release_self hholds

section

variable (h : c.LeaseKnown)
include h

lemma of_unleasing (hr : c.reconciliation = some r) {epoch : ℤ}
    (hphase : r.phase = .unleasing epoch) : ((c.releaseLease epoch).goTo r .edging).LeaseKnown := by
  refine ⟨fun epoch' hholds => ?_, fun r' hr' hphase' => by cases hr'; cases hphase'⟩
  obtain ⟨hheld, hne⟩ := holds_releaseLease hholds
  obtain ⟨hreleases, hnoted | hstop | ⟨r', hr', hduty⟩⟩ := h.owned epoch' hheld
  · exact ⟨hreleases, Or.inl hnoted⟩
  · exact ⟨hreleases, Or.inr (Or.inl hstop)⟩
  · cases hr.symm.trans hr'
    rw [hphase] at hduty
    rcases hduty with hduty | hduty
    · cases hduty
    · cases hduty
      exact absurd rfl hne

lemma of_acquireOther {roomID runtimeHostID : String} {epoch : ℤ} {instanceID : String}
    (hstep : c.acquireOther? roomID runtimeHostID epoch instanceID = some c') : c'.LeaseKnown := by
  unfold acquireOther? at hstep
  split at hstep
  · cases hstep
  · next hne =>
    cases hstep
    refine h.of_subset rfl (fun epoch' hholds => ?_) rfl rfl rfl
    cases hacquire : c.leases.acquire? roomID runtimeHostID epoch instanceID with
    | none =>
      rw [HoldsLease, hacquire] at hholds
      exact hholds
    | some leases =>
      rw [HoldsLease, hacquire] at hholds
      rcases TranscriptProducers.get?_acquire hacquire hholds with hheld | hnew
      · exact hheld
      · exact absurd (congrArg (fun lease => lease.2.instanceID) hnew).symm hne

lemma of_releaseOther {roomID runtimeHostID : String} {epoch : ℤ} {instanceID : String}
    (hstep : c.releaseOther? roomID runtimeHostID epoch instanceID = some c') : c'.LeaseKnown := by
  unfold releaseOther? at hstep
  split at hstep
  · cases hstep
  · cases hstep
    exact h.of_subset rfl (fun _ hholds => TranscriptProducers.get?_release hholds) rfl rfl rfl

lemma of_stop (hstopped : c.stopped = false → c.stopping = .uncalled) : c.stop.LeaseKnown := by
  unfold stop
  split
  · exact h
  · next hnot =>
    refine ⟨fun epoch hholds => ?_,
      fun r hr hphase epoch hholds => h.acquired r hr hphase epoch hholds⟩
    obtain ⟨hreleases, hnoted | hstop | hduty⟩ := h.owned epoch hholds
    · exact ⟨hreleases, Or.inl ⟨hnoted.1, Or.inr rfl⟩⟩
    · rw [hstopped (Bool.not_eq_true _ ▸ hnot)] at hstop
      cases hstop
    · exact ⟨hreleases, Or.inr (Or.inr hduty)⟩

lemma of_stopTakes (hstopping : c.stopping = .releasing) : LeaseKnown { c.takeLease.1 with
      stopping := (c.takeLease.2.map StopPhase.unleasing).getD .silencing } := by
  unfold takeLease
  by_cases hreleases : c.options.releases = true
  · rw [if_pos hreleases]
    refine ⟨fun epoch hholds => ?_,
      fun r hr hphase epoch hholds => h.acquired r hr hphase epoch hholds⟩
    obtain ⟨-, hnoted | hstop | hduty⟩ := h.owned epoch hholds
    · refine ⟨hreleases, Or.inr (Or.inl ?_)⟩
      show (c.liveLeaseEpoch.map StopPhase.unleasing).getD .silencing = .unleasing epoch
      rw [hnoted.1]
      rfl
    · rw [hstopping] at hstop
      cases hstop
    · exact ⟨hreleases, Or.inr (Or.inr hduty)⟩
  · rw [if_neg hreleases]
    refine ⟨fun epoch hholds => ?_,
      fun r hr hphase epoch hholds => h.acquired r hr hphase epoch hholds⟩
    exact absurd (h.owned epoch hholds).1 hreleases

lemma of_stopReleases {epoch : ℤ} (hstopping : c.stopping = .unleasing epoch) :
    LeaseKnown { c.releaseLease epoch with stopping := .silencing } := by
  refine ⟨fun epoch' hholds => ?_, fun r hr hphase epoch' hholds =>
    h.acquired r hr hphase epoch' (holds_releaseLease hholds).1⟩
  obtain ⟨hheld, hne⟩ := holds_releaseLease hholds
  obtain ⟨hreleases, hnoted | hstop | hduty⟩ := h.owned epoch' hheld
  · rcases hnoted.2 with hphase | hphase <;>
      · rw [hstopping] at hphase
        cases hphase
  · rw [hstopping] at hstop
    cases hstop
    exact absurd rfl hne
  · exact ⟨hreleases, Or.inr (Or.inr hduty)⟩

lemma of_stopped (hoptions : c'.options = c.options)
    (hleases : c'.leases = c.leases) (hreconciliation : c'.reconciliation = c.reconciliation)
    (hstopping : ∀ epoch, c.stopping ≠ .uncalled ∧ c.stopping ≠ .releasing ∧
      c.stopping ≠ .unleasing epoch) : c'.LeaseKnown := by
  have hholds : ∀ epoch, c'.HoldsLease epoch → c.HoldsLease epoch := by
    intro epoch hholds
    rw [HoldsLease, leaseKey, hoptions, hleases] at hholds
    exact hholds
  refine ⟨fun epoch hheld => ?_, ?_⟩
  · obtain ⟨huncalled, hreleasing, hunleasing⟩ := hstopping epoch
    obtain ⟨hreleases, hnoted | hstop | hduty⟩ := h.owned epoch (hholds epoch hheld)
    · rcases hnoted.2 with hphase | hphase
      · exact absurd hphase huncalled
      · exact absurd hphase hreleasing
    · exact absurd hstop hunleasing
    · rw [hoptions, hreconciliation]
      exact ⟨hreleases, Or.inr (Or.inr hduty)⟩
  · rw [hreconciliation]
    exact fun r hr hphase epoch hheld => h.acquired r hr hphase epoch (hholds epoch hheld)

lemma of_stopOn (hstep : c.stopOn? = some c') : c'.LeaseKnown := by
  unfold stopOn? at hstep
  cases hstopping : c.stopping with
  | uncalled | returned => rw [hstopping] at hstep; cases hstep
  | releasing =>
    rw [hstopping] at hstep
    cases hstep
    exact h.of_stopTakes hstopping
  | unleasing epoch =>
    rw [hstopping] at hstep
    cases hstep
    exact h.of_stopReleases hstopping
  | _ =>
    rw [hstopping] at hstep
    cases hstep
    refine h.of_stopped ?_ ?_ ?_ fun epoch => ?_
    · first
        | rfl
        | (unfold close; split <;> rfl)
    · first
        | rfl
        | (unfold close; split <;> rfl)
    · first
        | rfl
        | (unfold close; split <;> rfl)
    · rw [hstopping]
      refine ⟨?_, ?_, ?_⟩ <;> exact fun heq => by cases heq

end

lemma reconcile_eq (c : ControllerRun) (r : Reconciliation) (succeeds : Bool)
    (hphase : r.phase.leases = false) :
    (c.reconcile r succeeds).options = c.options ∧ (c.reconcile r succeeds).leases = c.leases ∧
      (c.reconcile r succeeds).liveLeaseEpoch = c.liveLeaseEpoch ∧
      (c.reconcile r succeeds).stopping = c.stopping ∧
      ∀ r', (c.reconcile r succeeds).reconciliation = some r' → r'.phase.leases = false := by
  unfold reconcile
  cases h : r.phase with
  | acquiring | leased | releasing | unleasing epoch => rw [h] at hphase; cases hphase
  | _ =>
    dsimp only [findEdges, announce, forget, teardownVoice, detach, close, updateBridge,
      compareEpochs, ensureRunning, giveUpBuild, install, giveUpStart, confirm, connect,
      rotateVoice, ensureVoice, goTo, finish]
    repeat' split
    all_goals
      refine ⟨rfl, rfl, rfl, rfl, fun r' hr' => ?_⟩
      first
        | (cases hr'; done)
        | (cases hr'; rfl)

lemma phase_of_leases {phase : ReconcilePhase} (h : phase.leases = false) :
    phase ≠ .leased ∧ ∀ epoch, phase ≠ .unleasing epoch := by
  constructor
  · rintro rfl
    cases h
  · rintro epoch rfl
    cases h

lemma of_reconcile (h : c.LeaseKnown) (hr : c.reconciliation = some r) (succeeds : Bool)
    (hguard : r.phase = .leased → c.stopping.releases r.state.liveTranscriptEpoch = true) :
    (c.reconcile r succeeds).LeaseKnown := by
  by_cases hphase : r.phase.leases = true
  · unfold reconcile
    cases hr' : r.phase with
    | acquiring => exact h.of_acquireLease hr hr'
    | leased => exact h.of_noteLease hr hr' (hguard hr')
    | releasing => exact h.of_takeLeaseFor hr hr'
    | unleasing epoch => exact h.of_unleasing hr hr'
    | _ => rw [hr'] at hphase; cases hphase
  · rw [Bool.not_eq_true] at hphase
    obtain ⟨hoptions, hleases, hepoch, hstopping, hnew⟩ := reconcile_eq c r succeeds hphase
    refine h.congr hoptions hleases hepoch hstopping (fun r' hr' => ?_) fun r' hr' => ?_
    · cases hr.symm.trans hr'
      exact phase_of_leases hphase
    · exact (phase_of_leases (hnew r' hr')).1

end LeaseKnown

end ControllerRun

/-! ## Bridges -/

namespace BridgeStatus

lemma alive_stop (status : BridgeStatus) : status.stop.alive = false := by
  cases status <;> rfl

lemma alive_finish (status : BridgeStatus) : (status.finish false).alive = false := by
  cases status <;> rfl

end BridgeStatus

/-- Whether a reconciliation has yet to stop a bridge, or to find it installed. -/
def ReconcilePhase.closes (id : ℕ) : ReconcilePhase → Bool
  | .closing bridge _ => bridge = some id
  | .connected _ bridge => bridge = id
  | .confirming _ bridge => bridge = id
  | .abandoning bridge => bridge = id
  | _ => false

/-- Whether a section of a reconciliation concerns the bridge. -/
def ReconcilePhase.bridging : ReconcilePhase → Bool
  | .detaching _ => true
  | .closing _ _ => true
  | .starting => true
  | .building _ => true
  | .unbuilt _ => true
  | .installing _ _ => true
  | .connecting _ _ => true
  | .connected _ _ => true
  | .unconnected _ _ => true
  | .confirming _ _ => true
  | .abandoning _ => true
  | _ => false

/-- Whether `Stop` has given up the bridge. -/
def StopPhase.detached : StopPhase → Bool
  | .closing _ => true
  | .returned => true
  | _ => false

namespace ControllerRun

variable {c c' : ControllerRun} {r : Reconciliation}

/-- What is known of the bridge in a phase of a reconciliation. -/
def PhaseBridge (c : ControllerRun) : ReconcilePhase → Prop
  | .closing _ _ => c.bridge = none
  | .building _ => c.bridge = none
  | .unbuilt _ => c.bridge = none
  | .installing _ id => c.bridge = none ∧ ∃ cancelled, c.bridges[id]? = some (.built cancelled)
  | .connecting _ id =>
    (c.bridge = none ∨ c.bridge = some id) ∧ ∃ cancelled, c.bridges[id]? = some (.built cancelled)
  | .connected _ id => c.bridge = none ∨ c.bridge = some id
  | .unconnected _ id => (c.bridge = none ∨ c.bridge = some id) ∧
      ∀ status, c.bridges[id]? = some status → status.alive = false
  | _ => True

/-- A bridge that is alive is installed, or will be stopped. -/
structure BridgeKnown (c : ControllerRun) : Prop where
  idle : c.state = .idle → c.bridge = none
  detached : c.stopping.detached = true → c.bridge = none
  alive : ∀ id status, c.bridges[id]? = some status → status.alive = true →
    c.bridge = some id ∨ c.stopping = .closing (some id) ∨
      ∃ r, c.reconciliation = some r ∧ r.phase.closes id = true
  phase : ∀ r, c.reconciliation = some r → c.PhaseBridge r.phase

lemma getElem?_updateBridge {bridge id : ℕ} {f : BridgeStatus → BridgeStatus}
    {status : BridgeStatus} (h : (c.updateBridge bridge f).bridges[id]? = some status) :
    ∃ old, c.bridges[id]? = some old ∧ status = if bridge = id then f old else old := by
  rw [updateBridge, List.getElem?_modify] at h
  obtain ⟨old, hold, rfl⟩ := Option.map_eq_some_iff.mp h
  exact ⟨old, hold, rfl⟩

lemma PhaseBridge.of_stop {phase : ReconcilePhase} (h : c.PhaseBridge phase)
    (hbridge : c'.bridge = c.bridge ∨ c'.bridge = none)
    (hbuilt : ∀ (id : ℕ) cancelled, c.bridges[id]? = some (BridgeStatus.built cancelled) →
      ∃ cancelled', c'.bridges[id]? = some (BridgeStatus.built cancelled'))
    (hdead : ∀ id : ℕ, (∀ status : BridgeStatus, c.bridges[id]? = some status →
      status.alive = false) →
        ∀ status : BridgeStatus, c'.bridges[id]? = some status → status.alive = false) :
    c'.PhaseBridge phase := by
  have hnone : c.bridge = none → c'.bridge = none := by
    intro heq
    rcases hbridge with hsame | hnone
    · rw [hsame, heq]
    · exact hnone
  have hor : ∀ id, c.bridge = none ∨ c.bridge = some id →
      c'.bridge = none ∨ c'.bridge = some id := by
    intro id heq
    rcases hbridge with hsame | hnone
    · rw [hsame]
      exact heq
    · exact Or.inl hnone
  cases phase with
  | closing bridge rebuild | building generation | unbuilt generation => exact hnone h
  | installing generation id =>
    obtain ⟨hold, cancelled, hget⟩ := h
    exact ⟨hnone hold, hbuilt id cancelled hget⟩
  | connecting generation id =>
    obtain ⟨hold, cancelled, hget⟩ := h
    exact ⟨hor id hold, hbuilt id cancelled hget⟩
  | connected generation id => exact hor id h
  | unconnected generation id => exact ⟨hor id h.1, hdead id h.2⟩
  | _ => exact trivial

namespace BridgeKnown

section

variable (h : c.BridgeKnown)
include h

lemma congr (hstate : c'.state = c.state) (hbridge : c'.bridge = c.bridge)
    (hbridges : c'.bridges = c.bridges) (hstopping : c'.stopping = c.stopping)
    (hold : ∀ r, c.reconciliation = some r → ∀ id, r.phase.closes id = false)
    (hnew : ∀ r, c'.reconciliation = some r → c'.PhaseBridge r.phase) : c'.BridgeKnown where
  idle := by rw [hstate, hbridge]; exact h.idle
  detached := by rw [hstopping, hbridge]; exact h.detached
  alive := by
    rw [hbridges, hbridge, hstopping]
    intro id status hget halive
    rcases h.alive id status hget halive with hinstalled | hstop | ⟨r, hr, hcloses⟩
    · exact Or.inl hinstalled
    · exact Or.inr (Or.inl hstop)
    · rw [hold r hr id] at hcloses
      cases hcloses
  phase := hnew

lemma of_same (hstate : c'.state = c.state) (hbridge : c'.bridge = c.bridge)
    (hbridges : c'.bridges = c.bridges) (hreconciliation : c'.reconciliation = c.reconciliation)
    (hdetached : c'.stopping.detached = c.stopping.detached)
    (hclosing : ∀ id, c.stopping = .closing (some id) → c'.stopping = .closing (some id)) :
    c'.BridgeKnown where
  idle := by rw [hstate, hbridge]; exact h.idle
  detached := by rw [hdetached, hbridge]; exact h.detached
  alive := by
    rw [hbridges, hbridge, hreconciliation]
    intro id status hget halive
    exact (h.alive id status hget halive).imp_right (Or.imp_left (hclosing id))
  phase := by
    rw [hreconciliation]
    intro r hr
    refine PhaseBridge.of_stop (h.phase r hr) (Or.inl hbridge) (fun id cancelled hget => ?_)
      fun id hdead status hget => ?_
    · exact ⟨cancelled, by rw [hbridges]; exact hget⟩
    · rw [hbridges] at hget
      exact hdead status hget

section

variable (hr : c.reconciliation = some r)
include hr

omit h in
lemma closes_of_phase {phase : ReconcilePhase} (hphase : r.phase = phase)
    (hcloses : ∀ id, phase.closes id = false) :
    ∀ r', c.reconciliation = some r' → ∀ id, r'.phase.closes id = false := by
  intro r' hr' id
  cases hr.symm.trans hr'
  rw [hphase, hcloses]

/-- Where a bridge that is alive is, by the phase of the reconciliation. -/
lemma alive_in {phase : ReconcilePhase} (hphase : r.phase = phase) {id : ℕ} {status : BridgeStatus}
    (hget : c.bridges[id]? = some status) (halive : status.alive = true) :
    c.bridge = some id ∨ c.stopping = .closing (some id) ∨ phase.closes id = true := by
  refine (h.alive id status hget halive).imp_right (Or.imp_right ?_)
  rintro ⟨r', hr', hcloses⟩
  cases hr.symm.trans hr'
  rwa [hphase] at hcloses

lemma of_detaching {rebuild : Bool} (hphase : r.phase = .detaching rebuild) :
    (c.detach.goTo r (.closing c.bridge rebuild)).BridgeKnown where
  idle := fun _ => rfl
  detached := fun _ => rfl
  alive := by
    intro id status hget halive
    rcases h.alive_in hr hphase hget halive with hinstalled | hstop | hcloses
    · exact Or.inr (Or.inr ⟨_, rfl, decide_eq_true hinstalled⟩)
    · exact Or.inr (Or.inl hstop)
    · cases hcloses
  phase := by
    intro r' hr'
    cases hr'
    rfl

lemma of_closing {bridge : Option ℕ} {rebuild : Bool} (hphase : r.phase = .closing bridge rebuild)
    (hstate : c'.state = (c.close bridge).state) (hbridge : c'.bridge = (c.close bridge).bridge)
    (hbridges : c'.bridges = (c.close bridge).bridges)
    (hstopping : c'.stopping = (c.close bridge).stopping)
    (hnew : ∀ r, c'.reconciliation = some r → r.phase = .starting) : c'.BridgeKnown := by
  have hnone : c.bridge = none := by
    have hknown := h.phase r hr
    rw [hphase] at hknown
    exact hknown
  have hsame : (c.close bridge).bridge = c.bridge ∧ (c.close bridge).stopping = c.stopping := by
    unfold close
    split <;> exact ⟨rfl, rfl⟩
  refine ⟨fun _ => ?_, fun _ => ?_, fun id status hget halive => ?_, fun r' hr' => ?_⟩
  · rw [hbridge, hsame.1, hnone]
  · rw [hbridge, hsame.1, hnone]
  · rw [hbridges] at hget
    rw [hstopping, hsame.2]
    have hold : c.bridges[id]? = some status ∧ bridge ≠ some id := by
      unfold close at hget
      split at hget
      · exact ⟨hget, fun heq => by cases heq⟩
      · next closed =>
        obtain ⟨old, hold, hstatus⟩ := getElem?_updateBridge hget
        split at hstatus
        · rw [hstatus, BridgeStatus.alive_stop] at halive
          cases halive
        · next hne =>
          rw [hstatus]
          exact ⟨hold, fun heq => hne (Option.some.inj heq)⟩
    rcases h.alive_in hr hphase hold.1 halive with hinstalled | hstop | hcloses
    · rw [hnone] at hinstalled
      cases hinstalled
    · exact Or.inr (Or.inl hstop)
    · exact absurd (of_decide_eq_true hcloses) hold.2
  · rw [hnew r' hr']
    exact trivial

lemma of_ensureRunning (hphase : r.phase = .starting) : (c.ensureRunning r).BridgeKnown := by
  have hold := closes_of_phase hr hphase fun _ => rfl
  unfold ensureRunning
  split
  · refine h.congr rfl rfl rfl rfl hold fun r' hr' => ?_
    cases hr'
    exact trivial
  · next hidle =>
    have hnone := h.idle (not_not.mp hidle)
    refine ⟨(fun heq => by cases heq), h.detached, fun id status hget halive => ?_,
      fun r' hr' => ?_⟩
    · rcases h.alive_in hr hphase hget halive with hinstalled | hstop | hcloses
      · exact Or.inl hinstalled
      · exact Or.inr (Or.inl hstop)
      · cases hcloses
    · cases hr'
      exact hnone

lemma of_building {generation : ℕ}
    (hphase : r.phase = .building generation) (succeeds : Bool) : BridgeKnown (if succeeds then
      { c with bridges := c.bridges ++ [BridgeStatus.built false] }.goTo r
        (.installing generation c.bridges.length)
      else c.goTo r (.unbuilt generation)) := by
  have hold := closes_of_phase hr hphase fun _ => rfl
  have hnone : c.bridge = none := by
    have hknown := h.phase r hr
    rw [hphase] at hknown
    exact hknown
  split
  · refine ⟨h.idle, h.detached, fun id status hget halive => ?_, fun r' hr' => ?_⟩
    · have hget' : c.bridges[id]? = some status := by
        by_cases hlt : id < c.bridges.length
        · rw [← hget]
          exact (List.getElem?_append_left hlt).symm
        · have hnew : (c.bridges ++ [BridgeStatus.built false])[id]? = some status := hget
          rw [List.getElem?_append_right (Nat.le_of_not_lt hlt)] at hnew
          rw [List.mem_singleton.mp (List.mem_of_getElem? hnew)] at halive
          cases halive
      rcases h.alive_in hr hphase hget' halive with hinstalled | hstop | hcloses
      · exact Or.inl hinstalled
      · exact Or.inr (Or.inl hstop)
      · cases hcloses
    · cases hr'
      exact ⟨hnone, false, List.getElem?_concat_length⟩
  · refine h.congr rfl rfl rfl rfl hold fun r' hr' => ?_
    cases hr'
    exact hnone

lemma of_unbuilt {generation : ℕ} (hphase : r.phase = .unbuilt generation) :
    ((c.giveUpBuild generation).goTo r .checking).BridgeKnown := by
  have hnone : c.bridge = none := by
    have hknown := h.phase r hr
    rw [hphase] at hknown
    exact hknown
  have hold := closes_of_phase hr hphase fun _ => rfl
  unfold giveUpBuild
  split
  · refine ⟨fun _ => hnone, h.detached, fun id status hget halive => ?_, fun r' hr' => ?_⟩
    · rcases h.alive_in hr hphase hget halive with hinstalled | hstop | hcloses
      · exact Or.inl hinstalled
      · exact Or.inr (Or.inl hstop)
      · cases hcloses
    · cases hr'
      exact trivial
  · refine h.congr rfl rfl rfl rfl hold fun r' hr' => ?_
    cases hr'
    exact trivial

end

end

lemma isStarting_iff {generation : ℕ} : c.isStarting generation = true ↔
    (c.stopped = false ∧ c.generation = generation) ∧ c.state = .starting := by
  rw [isStarting, Bool.and_eq_true, Bool.and_eq_true, Bool.not_eq_true', decide_eq_true_eq,
    decide_eq_true_eq]

variable {generation bridge : ℕ}

section

variable (h : c.BridgeKnown)
include h

lemma of_install (hstopped : c.stopped = false → c.stopping = .uncalled)
    (hr : c.reconciliation = some r) (hphase : r.phase = .installing generation bridge) :
    (c.install r generation bridge).BridgeKnown := by
  have hknown : c.PhaseBridge (.installing generation bridge) := by
    rw [← hphase]
    exact h.phase r hr
  obtain ⟨hnone, hbuilt⟩ := hknown
  have hold := closes_of_phase hr hphase fun _ => rfl
  unfold install
  split
  · next hstarting =>
    obtain ⟨⟨hrunning, -⟩, hstate⟩ := isStarting_iff.mp hstarting
    refine ⟨fun hidle => ?_, fun hdetached => ?_, fun id status hget halive => ?_,
      fun r' hr' => ?_⟩
    · have hidle' : c.state = .idle := hidle
      rw [hstate] at hidle'
      cases hidle'
    · have hdetached' : c.stopping.detached = true := hdetached
      rw [hstopped hrunning] at hdetached'
      cases hdetached'
    · rcases h.alive_in hr hphase hget halive with hinstalled | hstop | hcloses
      · rw [hnone] at hinstalled
        cases hinstalled
      · exact Or.inr (Or.inl hstop)
      · cases hcloses
    · cases hr'
      exact ⟨Or.inr rfl, hbuilt⟩
  · refine h.congr rfl rfl rfl rfl hold fun r' hr' => ?_
    cases hr'
    exact trivial

section

variable (hr : c.reconciliation = some r)
include hr

lemma of_connect (hphase : r.phase = .connecting generation bridge) :
    (c.connect r generation bridge).BridgeKnown := by
  have hknown : c.PhaseBridge (.connecting generation bridge) := by
    rw [← hphase]
    exact h.phase r hr
  obtain ⟨hbridge, cancelled, hbuilt⟩ := hknown
  unfold connect
  have halive : ∀ id status, (c.updateBridge bridge BridgeStatus.begin).bridges[id]? = some status →
      status.alive = true → (bridge = id ∧ cancelled = false) ∨ c.bridge = some id ∨
        c.stopping = .closing (some id) := by
    intro id status hget halive
    obtain ⟨old, hold, hstatus⟩ := getElem?_updateBridge hget
    split at hstatus
    · next heq =>
      subst heq
      rw [hbuilt] at hold
      cases hold
      rw [hstatus] at halive
      cases cancelled with
      | false => exact Or.inl ⟨rfl, rfl⟩
      | true => cases halive
    · rw [hstatus] at halive
      rcases h.alive_in hr hphase hold halive with hinstalled | hstop | hcloses
      · exact Or.inr (Or.inl hinstalled)
      · exact Or.inr (Or.inr hstop)
      · cases hcloses
  refine ⟨h.idle, h.detached, fun id status hget hstatus => ?_, fun r' hr' => ?_⟩
  · rcases halive id status hget hstatus with ⟨rfl, rfl⟩ | hinstalled | hstop
    · refine Or.inr (Or.inr ⟨_, rfl, ?_⟩)
      rw [if_pos hbuilt]
      exact decide_eq_true rfl
    · exact Or.inl hinstalled
    · exact Or.inr (Or.inl hstop)
  · cases hr'
    dsimp only
    split
    · exact hbridge
    · next hne =>
      refine ⟨hbridge, fun status hget => ?_⟩
      obtain ⟨old, hold, hstatus⟩ := getElem?_updateBridge hget
      rw [if_pos rfl] at hstatus
      rw [hbuilt] at hold
      cases hold
      rw [hstatus]
      cases cancelled with
      | false => exact absurd hbuilt hne
      | true => rfl

lemma of_connected (hphase : r.phase = .connected generation bridge) (succeeds : Bool) :
    ((c.updateBridge bridge (BridgeStatus.finish succeeds)).goTo r
      (if succeeds then .confirming generation bridge
        else .unconnected generation bridge)).BridgeKnown := by
  have hknown : c.PhaseBridge (.connected generation bridge) := by
    rw [← hphase]
    exact h.phase r hr
  refine ⟨h.idle, h.detached, fun id status hget halive => ?_, fun r' hr' => ?_⟩
  · obtain ⟨old, hold, hstatus⟩ := getElem?_updateBridge hget
    split at hstatus
    · next heq =>
      subst heq
      cases succeeds with
      | true => exact Or.inr (Or.inr ⟨_, rfl, decide_eq_true rfl⟩)
      | false =>
        rw [hstatus, BridgeStatus.alive_finish] at halive
        cases halive
    · next hne =>
      rw [hstatus] at halive
      rcases h.alive_in hr hphase hold halive with hinstalled | hstop | hcloses
      · exact Or.inl hinstalled
      · exact Or.inr (Or.inl hstop)
      · exact absurd (of_decide_eq_true hcloses) hne
  · cases hr'
    cases succeeds with
    | true => exact trivial
    | false =>
      refine ⟨hknown, fun status hget => ?_⟩
      obtain ⟨old, -, hstatus⟩ := getElem?_updateBridge hget
      rw [if_pos rfl] at hstatus
      rw [hstatus]
      exact BridgeStatus.alive_finish old

lemma of_unconnected (hphase : r.phase = .unconnected generation bridge) :
    ((c.giveUpStart generation bridge).goTo r .checking).BridgeKnown := by
  have hknown : c.PhaseBridge (.unconnected generation bridge) := by
    rw [← hphase]
    exact h.phase r hr
  obtain ⟨hbridge, hdead⟩ := hknown
  have hnone : (if c.bridge = some bridge then none else c.bridge) = none := by
    rcases hbridge with hnone | hsome
    · rw [hnone]
      rfl
    · rw [if_pos hsome]
  refine ⟨fun _ => hnone, fun _ => hnone, fun id status hget halive => ?_, fun r' hr' => ?_⟩
  · rcases h.alive_in hr hphase hget halive with hinstalled | hstop | hcloses
    · rcases hbridge with hnone | hsome
      · rw [hnone] at hinstalled
        cases hinstalled
      · cases hsome.symm.trans hinstalled
        rw [hdead status hget] at halive
        cases halive
    · exact Or.inr (Or.inl hstop)
    · cases hcloses
  · cases hr'
    exact trivial

lemma of_confirm (hphase : r.phase = .confirming generation bridge) :
    (c.confirm r generation bridge).BridgeKnown := by
  have halive : ∀ id status, c.bridges[id]? = some status → status.alive = true →
      bridge = id ∨ c.bridge = some id ∨ c.stopping = .closing (some id) := by
    intro id status hget halive
    rcases h.alive_in hr hphase hget halive with hinstalled | hstop | hcloses
    · exact Or.inr (Or.inl hinstalled)
    · exact Or.inr (Or.inr hstop)
    · exact Or.inl (of_decide_eq_true hcloses)
  unfold confirm
  split
  · next hconfirm =>
    rw [Bool.and_eq_true, decide_eq_true_eq] at hconfirm
    refine ⟨(fun heq => by cases heq), h.detached, fun id status hget hstatus => ?_,
      fun r' hr' => ?_⟩
    · rcases halive id status hget hstatus with rfl | hinstalled | hstop
      · exact Or.inl hconfirm.2
      · exact Or.inl hinstalled
      · exact Or.inr (Or.inl hstop)
    · cases hr'
      exact trivial
  · refine ⟨h.idle, h.detached, fun id status hget hstatus => ?_, fun r' hr' => ?_⟩
    · rcases halive id status hget hstatus with rfl | hinstalled | hstop
      · exact Or.inr (Or.inr ⟨_, rfl, decide_eq_true rfl⟩)
      · exact Or.inl hinstalled
      · exact Or.inr (Or.inl hstop)
    · cases hr'
      exact trivial

lemma of_abandoning {bridge : ℕ} (hphase : r.phase = .abandoning bridge) :
    ((c.updateBridge bridge BridgeStatus.stop).goTo r .checking).BridgeKnown := by
  refine ⟨h.idle, h.detached, fun id status hget halive => ?_, fun r' hr' => ?_⟩
  · obtain ⟨old, hold, hstatus⟩ := getElem?_updateBridge hget
    split at hstatus
    · rw [hstatus, BridgeStatus.alive_stop] at halive
      cases halive
    · next hne =>
      rw [hstatus] at halive
      rcases h.alive_in hr hphase hold halive with hinstalled | hstop | hcloses
      · exact Or.inl hinstalled
      · exact Or.inr (Or.inl hstop)
      · exact absurd (of_decide_eq_true hcloses) hne
  · cases hr'
    exact trivial

end

lemma of_bridging (hstopped : c.stopped = false → c.stopping = .uncalled)
    (hr : c.reconciliation = some r) (succeeds : Bool) (hphase : r.phase.bridging = true) :
    (c.reconcile r succeeds).BridgeKnown := by
  unfold reconcile
  cases hr' : r.phase with
  | detaching rebuild => exact h.of_detaching hr hr'
  | closing bridge rebuild =>
    dsimp only
    split
    · refine h.of_closing hr hr' rfl rfl rfl rfl fun r'' hr'' => ?_
      cases hr''
      rfl
    · refine h.of_closing hr hr' rfl rfl rfl rfl fun r'' hr'' => ?_
      cases hr''
  | starting => exact h.of_ensureRunning hr hr'
  | building generation => exact h.of_building hr hr' succeeds
  | unbuilt generation => exact h.of_unbuilt hr hr'
  | installing generation bridge => exact h.of_install hstopped hr hr'
  | connecting generation bridge => exact h.of_connect hr hr'
  | connected generation bridge => exact h.of_connected hr hr' succeeds
  | unconnected generation bridge => exact h.of_unconnected hr hr'
  | confirming generation bridge => exact h.of_confirm hr hr'
  | abandoning bridge => exact h.of_abandoning hr hr'
  | _ => rw [hr'] at hphase; cases hphase

end

lemma reconcile_eq (c : ControllerRun) (r : Reconciliation) (succeeds : Bool)
    (hphase : r.phase.bridging = false) :
    (c.reconcile r succeeds).state = c.state ∧ (c.reconcile r succeeds).bridge = c.bridge ∧
      (c.reconcile r succeeds).bridges = c.bridges ∧
      (c.reconcile r succeeds).stopping = c.stopping ∧
      ∀ r', (c.reconcile r succeeds).reconciliation = some r' →
        (c.reconcile r succeeds).PhaseBridge r'.phase := by
  unfold reconcile
  cases h : r.phase with
  | detaching rebuild | closing bridge rebuild | starting | building generation
  | unbuilt generation | installing generation bridge | connecting generation bridge
  | connected generation bridge | unconnected generation bridge | confirming generation bridge
  | abandoning bridge => rw [h] at hphase; cases hphase
  | _ =>
    dsimp only [acquireLease, noteLease, takeLeaseFor, takeLease, releaseLease, findEdges, announce,
      forget, teardownVoice, compareEpochs, rotateVoice, ensureVoice, goTo, finish]
    repeat' split
    all_goals
      refine ⟨rfl, rfl, rfl, rfl, fun r' hr' => ?_⟩
      first
        | (cases hr'; done)
        | (cases hr'; exact trivial)

lemma closes_of_bridging {phase : ReconcilePhase} (h : phase.bridging = false) (id : ℕ) :
    phase.closes id = false := by
  cases phase with
  | closing bridge rebuild | connected generation bridge | confirming generation bridge
  | abandoning bridge => cases h
  | _ => rfl

section

variable (h : c.BridgeKnown)
include h

lemma of_reconcile (hstopped : c.stopped = false → c.stopping = .uncalled)
    (hr : c.reconciliation = some r) (succeeds : Bool) : (c.reconcile r succeeds).BridgeKnown := by
  by_cases hphase : r.phase.bridging = true
  · exact h.of_bridging hstopped hr succeeds hphase
  · rw [Bool.not_eq_true] at hphase
    obtain ⟨hstate, hbridge, hbridges, hstopping, hnew⟩ := reconcile_eq c r succeeds hphase
    refine h.congr hstate hbridge hbridges hstopping (fun r' hr' id => ?_) hnew
    cases hr.symm.trans hr'
    exact closes_of_bridging hphase id

lemma of_stop (hstopped : c.stopped = false → c.stopping = .uncalled) : c.stop.BridgeKnown := by
  unfold stop
  split
  · exact h
  · next hnot =>
    have huncalled := hstopped (Bool.not_eq_true _ ▸ hnot)
    refine h.of_same rfl rfl rfl rfl (by rw [huncalled]; rfl) fun id hclosing => ?_
    rw [huncalled] at hclosing
    cases hclosing

lemma of_stopDetaches (hstopping : c.stopping = .detaching) :
    BridgeKnown { c.detach with stopping := .closing c.bridge } where
  idle := fun _ => rfl
  detached := fun _ => rfl
  alive := by
    intro id status hget halive
    rcases h.alive id status hget halive with hinstalled | hstop | hcloses
    · exact Or.inr (Or.inl (congrArg StopPhase.closing hinstalled))
    · rw [hstopping] at hstop
      cases hstop
    · exact Or.inr (Or.inr hcloses)
  phase := by
    intro r hr
    exact PhaseBridge.of_stop (h.phase r hr) (Or.inr rfl)
      (fun id cancelled hget => ⟨cancelled, hget⟩) fun id hdead => hdead

lemma of_stopCloses {bridge : Option ℕ} (hstopping : c.stopping = .closing bridge) :
    BridgeKnown { c.close bridge with stopping := .returned } := by
  have hnone : c.bridge = none := h.detached (by rw [hstopping]; rfl)
  cases bridge with
  | none =>
    refine h.of_same rfl rfl rfl rfl (by rw [hstopping]; rfl) fun id hclosing => ?_
    rw [hstopping] at hclosing
    cases hclosing
  | some closed =>
    refine ⟨fun _ => hnone, fun _ => hnone, fun id status hget halive => ?_, fun r hr => ?_⟩
    · obtain ⟨old, hold, hstatus⟩ := getElem?_updateBridge hget
      split at hstatus
      · rw [hstatus, BridgeStatus.alive_stop] at halive
        cases halive
      · next hne =>
        rw [hstatus] at halive
        rcases h.alive id old hold halive with hinstalled | hstop | hcloses
        · exact Or.inl hinstalled
        · rw [hstopping] at hstop
          cases hstop
          exact absurd rfl hne
        · exact Or.inr (Or.inr hcloses)
    · refine PhaseBridge.of_stop (h.phase r hr) (Or.inl rfl) (fun id cancelled hget => ?_)
        fun id hdead status hget => ?_
      · -- A bridge that was not started stays so.
        show ∃ cancelled',
          (c.bridges.modify closed BridgeStatus.stop)[id]? = some (.built cancelled')
        rw [List.getElem?_modify, hget]
        by_cases heq : closed = id
        · exact ⟨true, by rw [Option.map_eq_map, Option.map_some, if_pos heq]; rfl⟩
        · exact ⟨cancelled, by rw [Option.map_eq_map, Option.map_some, if_neg heq]⟩
      · obtain ⟨old, hold, hstatus⟩ := getElem?_updateBridge hget
        rw [hstatus]
        split
        · exact BridgeStatus.alive_stop old
        · exact hdead old hold

lemma of_stopOn (hstep : c.stopOn? = some c') : c'.BridgeKnown := by
  unfold stopOn? at hstep
  cases hstopping : c.stopping with
  | uncalled | returned => rw [hstopping] at hstep; cases hstep
  | releasing =>
    rw [hstopping] at hstep
    cases hstep
    have hdetached :
        ((c.takeLease.2.map StopPhase.unleasing).getD .silencing).detached = false := by
      cases c.takeLease.2 <;> rfl
    unfold takeLease at hdetached ⊢
    split at hdetached
    · next hreleases =>
      rw [if_pos hreleases]
      refine h.of_same rfl rfl rfl rfl (by rw [hstopping]; exact hdetached) fun id hclosing => ?_
      rw [hstopping] at hclosing
      cases hclosing
    · next hreleases =>
      rw [if_neg hreleases]
      refine h.of_same rfl rfl rfl rfl (by rw [hstopping]; exact hdetached) fun id hclosing => ?_
      rw [hstopping] at hclosing
      cases hclosing
  | unleasing epoch | silencing =>
    rw [hstopping] at hstep
    cases hstep
    refine h.of_same rfl rfl rfl rfl (by rw [hstopping]; rfl) fun id hclosing => ?_
    rw [hstopping] at hclosing
    cases hclosing
  | detaching =>
    rw [hstopping] at hstep
    cases hstep
    exact h.of_stopDetaches hstopping
  | closing bridge =>
    rw [hstopping] at hstep
    cases hstep
    exact h.of_stopCloses hstopping

end

end BridgeKnown

end ControllerRun

end Free4Chat
