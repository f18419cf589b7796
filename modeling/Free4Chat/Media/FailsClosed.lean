import Free4Chat.Media.ControllerResources

/-!
# The Media Controller Fails Closed

Once `Stop` has returned and no reconciliation is going on, no bridge and no speaker is installed or
running, and this instance holds no lease. While the controller runs, there is a bridge only if the
last reconciliation, or the one that is going on, has a grant, and a speaker only if it grants Agent
Voice. Each grant is announced once for each maximal stretch of confirmed observations of it. This
holds in every run in which a reconciliation notes the epoch of its lease before `Stop` looks for
it, and installs its speaker before `Stop` gives the speaker up.

The source breaks this as `Stop` does not take the lock of the reconciliations. One that has passed
its look at `stopped` acquires the lease for good, and one that has built its speaker installs it.

* `ControllerRun.FailsClosed`: what holds of states.
* `ControllerRun.settlesBeforeStop`: the condition on the steps.
* `failsClosed_of_settlesBeforeStop`: the property, over every run.
* `not_failsClosed_lease` and `not_failsClosed_speaker`: runs in which something is left behind.
-/

namespace Free4Chat

/-! ## The property -/

/-- Which grants are about to be announced. -/
def ReconcilePhase.edges : ReconcilePhase → Bool × Bool
  | .announcing notesEdge voiceEdge => (notesEdge, voiceEdge)
  | _ => (false, false)

/-- Meeting Notes that are about to be announced. -/
def Reconciliation.pendingNotes (r : Reconciliation) : List (Option ℤ) :=
  if r.phase.edges.1 then [r.notesEpoch] else []

/-- Agent Voice that is about to be announced. -/
def Reconciliation.pendingVoice (r : Reconciliation) : List (Option ℤ) :=
  if r.phase.edges.2 then [r.voiceEpoch] else []

/-- Whether `Stop` will still give up the speaker. -/
def StopPhase.silences : StopPhase → Bool
  | .uncalled => true
  | .releasing => true
  | .unleasing _ => true
  | .silencing => true
  | _ => false

namespace ControllerRun

variable (c : ControllerRun)

/-- The last reconciliation, or the one that is going on, meets a condition. -/
def Reconciles (P : Reconciliation → Bool) : Prop :=
  c.reconciled.any P = true ∨ c.reconciliation.any P = true

/-- Nothing is left behind, everything is authorized, and each grant is announced once. -/
structure FailsClosed (c : ControllerRun) : Prop where
  drained : c.stopping = .returned → c.reconciliation = none →
    c.bridge = none ∧ c.speaker = false ∧ (∀ status ∈ c.bridges, status.alive = false) ∧
      ∀ epoch, ¬ c.HoldsLease epoch
  bridge : c.stopped = false → c.bridge ≠ none → c.Reconciles fun r => r.anyGrant c.options
  speaker : c.stopped = false → c.speaker = true →
    c.Reconciles fun r => c.options.voiceAuthorized r.state
  unique : ∀ lease ∈ c.leases.values, ∀ lease' ∈ c.leases.values, lease.1 = lease'.1 →
    lease = lease'
  -- An announcement follows its observation in the same reconciliation.
  notes : c.notes.activated ++ (c.reconciliation.map Reconciliation.pendingNotes).getD [] =
    List.runStarts none c.notes.observed
  voice : c.voice.activated ++ (c.reconciliation.map Reconciliation.pendingVoice).getD [] =
    List.runStarts none c.voice.observed

/-- A reconciliation notes its lease and installs its speaker before `Stop` looks for them, and a
state that grants Meeting Notes without a time does not follow another grant. -/
def settles (r : Reconciliation) : Bool :=
  match r.phase with
  | .leased => c.stopping.releases r.state.liveTranscriptEpoch
  | .speaking => c.stopping.silences
  | .edging =>
    c.stopped || !ControllerOptions.notesAuthorized r.state || r.notesEpoch.isSome ||
      c.notes.epoch = none
  | _ => true

/-- Reconciliations settle before `Stop`. -/
def settlesBeforeStop : ControllerStep → Bool
  | .reconcile _ => c.reconciliation.all c.settles
  | _ => true

end ControllerRun

/-! ## Announcements -/

namespace GrantAnnouncement

variable {a : GrantAnnouncement} {authorized : Bool} {epoch : Option ℤ} {confirmed : Bool}

/-- What was announced is what was observed last. -/
structure Agrees (a : GrantAnnouncement) : Prop where
  seen : a.observed.lastSeen = if a.announced then some a.epoch else none
  rearmed : a.announced = false → a.epoch = none

lemma observed_observe : (a.observe authorized epoch confirmed).observed = a.observed := by
  unfold observe
  repeat' split
  all_goals rfl

lemma observe_unconfirmed : a.isEdge false epoch = false ∧ a.observe false epoch false = a := by
  have hedge : a.isEdge false epoch = false := rfl
  refine ⟨hedge, ?_⟩
  rw [observe, hedge]
  rfl

lemma agrees_inactive : ((a.observe false epoch true).record false epoch true).Agrees := by
  refine ⟨?_, fun _ => rfl⟩
  exact List.lastSeen_append_singleton _ _

lemma observe_active (h : a.Agrees) (hepoch : epoch.isSome = true ∨ a.epoch = none) :
    ((a.observe true epoch true).record true epoch true).Agrees ∧
      (a.isEdge true epoch = true ↔ a.observed.lastSeen ≠ some epoch) := by
  obtain ⟨hseen, hrearmed⟩ := h
  have hiff : a.isEdge true epoch = true ↔ a.observed.lastSeen ≠ some epoch := by
    rw [hseen, isEdge, Bool.true_and, Bool.or_eq_true, Bool.not_eq_true', Bool.and_eq_true,
      decide_eq_true_eq]
    cases hannounced : a.announced with
    | false => exact ⟨(fun _ heq => by cases heq), fun _ => Or.inl rfl⟩
    | true =>
      rw [if_pos rfl]
      constructor
      · rintro (hfalse | ⟨-, hne⟩)
        · cases hfalse
        · exact fun heq => hne (Option.some.inj heq)
      · intro hne
        have hne' : a.epoch ≠ epoch := fun heq => hne (congrArg some heq)
        refine Or.inr ⟨?_, hne'⟩
        -- Without an epoch the grant is the one that was announced without an epoch.
        rcases hepoch with hsome | hnone
        · exact hsome
        · cases epoch with
          | some value => rfl
          | none => exact absurd hnone hne'
  refine ⟨?_, hiff⟩
  by_cases hedge : a.isEdge true epoch = true
  · have hstate : a.observe true epoch true =
        { a with announced := true, epoch := epoch.or a.epoch } := by
      rw [observe, if_pos hedge]
    rw [hstate]
    refine ⟨?_, fun heq => by cases heq⟩
    show (a.observed ++ [some epoch]).lastSeen = some (epoch.or a.epoch)
    rw [List.lastSeen_append_singleton]
    rcases hepoch with hsome | hnone
    · obtain ⟨value, rfl⟩ := Option.isSome_iff_exists.mp hsome
      rfl
    · rw [hnone, Option.or_none]
  · have hsame := not_not.mp fun hne => hedge (hiff.mpr hne)
    have hstate : a.observe true epoch true = a := by
      rw [observe, if_neg hedge]
      rfl
    rw [hstate]
    refine ⟨?_, hrearmed⟩
    show (a.observed ++ [some epoch]).lastSeen = if a.announced then some a.epoch else none
    rw [List.lastSeen_append_singleton, ← hsame, hseen]

lemma observe_record (h : a.Agrees)
    (hepoch : authorized = true → epoch.isSome = true ∨ a.epoch = none)
    (hconfirmed : confirmed = false → authorized = false) :
    ((a.observe authorized epoch confirmed).record authorized epoch confirmed).Agrees ∧
      List.runStarts none
        ((a.observe authorized epoch confirmed).record authorized epoch confirmed).observed =
          List.runStarts none a.observed ++
            (if a.isEdge authorized epoch then [epoch] else []) := by
  cases confirmed with
  | false =>
    rw [hconfirmed rfl]
    obtain ⟨hedge, hsame⟩ := @observe_unconfirmed a epoch
    rw [hsame, hedge]
    exact ⟨h, (List.append_nil _).symm⟩
  | true =>
    cases authorized with
    | false =>
      refine ⟨agrees_inactive, ?_⟩
      show List.runStarts none ((a.observe false epoch true).observed ++ [none]) = _
      rw [observed_observe, List.runStarts_append_singleton, observe_unconfirmed.1]
      split <;> rfl
    | true =>
      obtain ⟨hagrees, hedge⟩ := observe_active h (hepoch rfl)
      refine ⟨hagrees, ?_⟩
      show List.runStarts none ((a.observe true epoch true).observed ++ [some epoch]) = _
      rw [observed_observe, List.runStarts_append_singleton]
      by_cases heq : a.observed.lastSeen = some epoch
      · have hnot : ¬ a.isEdge true epoch = true := fun htrue => hedge.mp htrue heq
        rw [if_pos heq.symm, if_neg hnot]
      · rw [if_neg fun hsame => heq hsame.symm, if_pos (hedge.mpr heq)]
        rfl

lemma activated_observe : (a.observe authorized epoch confirmed).activated = a.activated ∧
    ((a.observe authorized epoch confirmed).record authorized epoch confirmed).activated =
      a.activated := by
  unfold observe record
  constructor <;> repeat' split
  all_goals rfl

end GrantAnnouncement

/-! ## The invariant -/

/-- Whether a reconciliation goes on only with a grant. -/
def ReconcilePhase.granted : ReconcilePhase → Bool
  | .silencing rebuild => rebuild
  | .detaching rebuild => rebuild
  | .closing _ rebuild => rebuild
  | .comparing => true
  | .starting => true
  | .building _ => true
  | .unbuilt _ => true
  | .installing _ _ => true
  | .connecting _ _ => true
  | .connected _ _ => true
  | .unconnected _ _ => true
  | .confirming _ _ => true
  | .abandoning _ => true
  | .checking => true
  | .muting => true
  | .rotating => true
  | .voicing => true
  | .resolving => true
  | .unvoiced => true
  | .speaking => true
  | _ => false

/-- Whether a reconciliation goes on only with Agent Voice. -/
def ReconcilePhase.voiced : ReconcilePhase → Bool
  | .rotating => true
  | .voicing => true
  | .resolving => true
  | .unvoiced => true
  | .speaking => true
  | _ => false

/-- Whether there is no speaker, as the bridge is torn down or started. -/
def ReconcilePhase.silent : ReconcilePhase → Bool
  | .detaching _ => true
  | .closing _ _ => true
  | .building _ => true
  | .unbuilt _ => true
  | .installing _ _ => true
  | .connecting _ _ => true
  | .connected _ _ => true
  | .unconnected _ _ => true
  | .confirming _ _ => true
  | .abandoning _ => true
  | _ => false

/-- Whether the bridge is torn down, to be built anew or not. -/
def ReconcilePhase.rebuilds : ReconcilePhase → Bool
  | .silencing _ => true
  | .detaching _ => true
  | .closing _ _ => true
  | _ => false

/-- Whether a speaker is being built. -/
def ReconcilePhase.speaks : ReconcilePhase → Bool
  | .resolving => true
  | .speaking => true
  | _ => false

namespace ControllerRun

variable {c c' : ControllerRun} {r : Reconciliation}

/-- What is known of the grants in a reconciliation. -/
structure PhaseGrant (c : ControllerRun) (r : Reconciliation) : Prop where
  granted : r.phase.granted = true → r.anyGrant c.options = true
  voiced : r.phase.voiced = true → c.options.voiceAuthorized r.state = true
  silent : r.phase.silent = true → c.stopped = false → c.speaker = false
  speaks : r.phase.speaks = true → c.stopped = false → c.state = .running

/-- There is a bridge or a speaker only with a grant. -/
structure GrantKnown (c : ControllerRun) : Prop where
  stopped : c.stopped = false → c.stopping = .uncalled
  silenced : c.stopping.silences = false → c.speaker = false
  bridge : c.stopped = false → c.bridge ≠ none → c.Reconciles fun r => r.anyGrant c.options
  speaker : c.stopped = false → c.speaker = true →
    c.state = .running ∧ c.Reconciles fun r => c.options.voiceAuthorized r.state
  phase : ∀ r, c.reconciliation = some r → c.PhaseGrant r

lemma PhaseGrant.of_granted (hgranted : r.phase.granted = true → r.anyGrant c.options = true)
    (hvoiced : r.phase.voiced = false) (hsilent : r.phase.silent = false)
    (hspeaks : r.phase.speaks = false) : c.PhaseGrant r where
  granted := hgranted
  voiced := fun h => by rw [hvoiced] at h; cases h
  silent := fun h => by rw [hsilent] at h; cases h
  speaks := fun h => by rw [hspeaks] at h; cases h

namespace GrantKnown

variable {c₁ : ControllerRun} {phase : ReconcilePhase} {r₁ : Reconciliation}

section

variable (h : c.GrantKnown)
include h

lemma of_goTo (hr : c.reconciliation = some r) (hoptions : c₁.options = c.options)
    (hstopped : c₁.stopped = c.stopped) (hstopping : c₁.stopping = c.stopping)
    (hreconciled : c₁.reconciled = c.reconciled) (hstate : r₁.state = r.state)
    (hlive : r.live = true → r₁.live = true)
    (hbridge : c₁.bridge = c.bridge ∨ c₁.bridge = none ∨ r₁.anyGrant c.options = true)
    (hsilenced : c₁.speaker = false ∨ c₁.speaker = c.speaker)
    (hspeaker : c.stopped = false → c₁.speaker = false ∨ c₁.state = c.state)
    (hphase : c₁.PhaseGrant { r₁ with phase }) : (c₁.goTo r₁ phase).GrantKnown := by
  have hany : r.anyGrant c.options = true → r₁.anyGrant c.options = true := by
    intro hany
    simp only [Reconciliation.anyGrant, Bool.or_eq_true] at hany ⊢
    rw [hstate]
    exact hany.imp_right hlive
  refine ⟨fun hrunning => ?_, fun hsilences => ?_, fun hrunning hinstalled => ?_,
    fun hrunning hspeaks => ?_, fun r' hr' => ?_⟩
  · exact hstopping.trans (h.stopped (hstopped.symm.trans hrunning))
  · have hquiet := h.silenced (by rw [← hstopping]; exact hsilences)
    rcases hsilenced with hnone | hsame
    · exact hnone
    · exact hsame.trans hquiet
  · show c₁.reconciled.any (fun r => r.anyGrant c₁.options) = true ∨ r₁.anyGrant c₁.options = true
    rw [hreconciled, hoptions]
    rcases hbridge with hsame | hnone | hnew
    · rcases h.bridge (hstopped.symm.trans hrunning) (by rw [← hsame]; exact hinstalled) with
        hlast | hcurrent
      · exact Or.inl hlast
      · rw [hr] at hcurrent
        exact Or.inr (hany hcurrent)
    · exact absurd hnone hinstalled
    · exact Or.inr hnew
  · have hrunning' : c.stopped = false := hstopped.symm.trans hrunning
    have hspeaks' : c₁.speaker = true := hspeaks
    rcases hsilenced with hnone | hsame
    · rw [hnone] at hspeaks'
      cases hspeaks'
    · obtain ⟨hrun, hvoice⟩ := h.speaker hrunning' (hsame.symm.trans hspeaks')
      have hsameState : c₁.state = c.state := by
        rcases hspeaker hrunning' with hnone | hsameState
        · rw [hnone] at hspeaks'
          cases hspeaks'
        · exact hsameState
      refine ⟨hsameState.trans hrun, ?_⟩
      show c₁.reconciled.any (fun r => c₁.options.voiceAuthorized r.state) = true ∨
        c₁.options.voiceAuthorized r₁.state = true
      rw [hreconciled, hoptions, hstate]
      rcases hvoice with hlast | hcurrent
      · exact Or.inl hlast
      · rw [hr] at hcurrent
        exact Or.inr hcurrent
  · cases hr'
    exact ⟨hphase.granted, hphase.voiced, hphase.silent, hphase.speaks⟩

lemma of_finish (hoptions : c₁.options = c.options)
    (hstopped : c₁.stopped = c.stopped) (hstopping : c₁.stopping = c.stopping)
    (hsilenced : c.stopping.silences = true ∨ c₁.speaker = false ∨ c₁.speaker = c.speaker)
    (hbridge : c.stopped = false → c₁.bridge = none ∨ r.anyGrant c.options = true)
    (hspeaker : c.stopped = false → c₁.speaker = false ∨
      (c₁.state = .running ∧ c.options.voiceAuthorized r.state = true)) :
    (c₁.finish r).GrantKnown := by
  refine ⟨fun hrunning => ?_, fun hsilences => ?_, fun hrunning hinstalled => ?_,
    fun hrunning hspeaks => ?_, fun r' hr' => by cases hr'⟩
  · exact hstopping.trans (h.stopped (hstopped.symm.trans hrunning))
  · have hsilences' : c.stopping.silences = false := by
      rw [← hstopping]
      exact hsilences
    rcases hsilenced with htrue | hnone | hsame
    · rw [hsilences'] at htrue
      cases htrue
    · exact hnone
    · exact hsame.trans (h.silenced hsilences')
  · rcases hbridge (hstopped.symm.trans hrunning) with hnone | hany
    · exact absurd hnone hinstalled
    · refine Or.inl ?_
      show r.anyGrant c₁.options = true
      rw [hoptions]
      exact hany
  · have hspeaks' : c₁.speaker = true := hspeaks
    rcases hspeaker (hstopped.symm.trans hrunning) with hnone | ⟨hrun, hvoice⟩
    · rw [hnone] at hspeaks'
      cases hspeaks'
    · refine ⟨hrun, Or.inl ?_⟩
      show c₁.options.voiceAuthorized r.state = true
      rw [hoptions]
      exact hvoice

section

variable (hr : c.reconciliation = some r)
include hr

section

variable (hoptions : c₁.options = c.options) (hstopped : c₁.stopped = c.stopped)
  (hstopping : c₁.stopping = c.stopping) (hreconciled : c₁.reconciled = c.reconciled)
  (hstate : r₁.state = r.state) (hlive : r.live = true → r₁.live = true)
  (hbridge : c₁.bridge = c.bridge) (hspeaker : c₁.speaker = c.speaker)
  (hrunning : c₁.state = c.state)
include hoptions hstopped hstopping hreconciled hstate hlive hbridge hspeaker hrunning

lemma of_same (hphase : c₁.PhaseGrant { r₁ with phase }) : (c₁.goTo r₁ phase).GrantKnown :=
  h.of_goTo hr hoptions hstopped hstopping hreconciled hstate hlive (Or.inl hbridge)
    (Or.inr hspeaker) (fun _ => Or.inr hrunning) hphase

lemma of_plain (hgranted : phase.granted = false) (hvoiced : phase.voiced = false)
    (hsilent : phase.silent = false) (hspeaks : phase.speaks = false) :
    (c₁.goTo r₁ phase).GrantKnown :=
  h.of_same hr hoptions hstopped hstopping hreconciled hstate hlive hbridge hspeaker hrunning
    (.of_granted (fun h => absurd (hgranted.symm.trans h) Bool.false_ne_true) hvoiced hsilent
      hspeaks)

end

lemma of_acquireLease : (c.acquireLease r).GrantKnown := by
  unfold acquireLease
  split
  · split
    · exact h.of_plain hr rfl rfl rfl rfl rfl id rfl rfl rfl rfl rfl rfl rfl
    · exact h.of_plain hr rfl rfl rfl rfl rfl id rfl rfl rfl rfl rfl rfl rfl
  · exact h.of_plain hr rfl rfl rfl rfl rfl id rfl rfl rfl rfl rfl rfl rfl

lemma of_takeLeaseFor : (c.takeLeaseFor r).GrantKnown := by
  unfold takeLeaseFor takeLease
  by_cases hreleases : c.options.releases = true
  · rw [if_pos hreleases]
    split
    · exact h.of_plain hr rfl rfl rfl rfl rfl id rfl rfl rfl rfl rfl rfl rfl
    · exact h.of_plain hr rfl rfl rfl rfl rfl id rfl rfl rfl rfl rfl rfl rfl
  · rw [if_neg hreleases]
    exact h.of_plain hr rfl rfl rfl rfl rfl id rfl rfl rfl rfl rfl rfl rfl

lemma of_findEdges : (c.findEdges r).GrantKnown := by
  unfold findEdges
  dsimp only
  split
  · next hstopped =>
    have hnot : c.stopped ≠ false := by
      rw [hstopped]
      exact Bool.noConfusion
    exact h.of_finish rfl rfl rfl (Or.inr (Or.inr rfl)) (fun hrunning => absurd hrunning hnot)
      fun hrunning => absurd hrunning hnot
  · exact h.of_plain hr rfl rfl rfl rfl rfl id rfl rfl rfl rfl rfl rfl rfl

lemma of_announce (notesEdge voiceEdge : Bool) : (c.announce r notesEdge voiceEdge).GrantKnown := by
  unfold announce
  split
  · next hany =>
    exact h.of_same hr rfl rfl rfl rfl rfl id rfl rfl rfl (.of_granted (fun _ => hany) rfl rfl rfl)
  · exact h.of_plain hr rfl rfl rfl rfl rfl id rfl rfl rfl rfl rfl rfl rfl

end

end

variable {rebuild : Bool}

lemma of_silencing (h : c.GrantKnown) (hr : c.reconciliation = some r)
    (hphase : r.phase = .silencing rebuild) :
    (c.teardownVoice.goTo r (.detaching rebuild)).GrantKnown := by
  have hknown := (h.phase r hr).granted
  rw [hphase] at hknown
  refine h.of_goTo hr rfl rfl rfl rfl rfl id (Or.inl rfl) (Or.inl rfl) (fun _ => Or.inl rfl)
    ⟨hknown, ?_, fun _ _ => rfl, ?_⟩
  · exact fun heq => by cases heq
  · exact fun heq => by cases heq

lemma of_detaching (h : c.GrantKnown) (hr : c.reconciliation = some r)
    (hphase : r.phase = .detaching rebuild) :
    (c.detach.goTo r (.closing c.bridge rebuild)).GrantKnown := by
  obtain ⟨hgranted, -, hsilent, -⟩ := h.phase r hr
  rw [hphase] at hgranted hsilent
  refine h.of_goTo hr rfl rfl rfl rfl rfl id (Or.inr (Or.inl rfl)) (Or.inr rfl)
    (fun hrunning => Or.inl (hsilent rfl hrunning)) ⟨hgranted, ?_, fun _ => hsilent rfl, ?_⟩
  · exact fun heq => by cases heq
  · exact fun heq => by cases heq

lemma close_eq (c : ControllerRun) (bridge : Option ℕ) :
    ∃ bridges, c.close bridge = { c with bridges } := by
  cases bridge with
  | none => exact ⟨c.bridges, rfl⟩
  | some id => exact ⟨c.bridges.modify id BridgeStatus.stop, rfl⟩

section

variable (h : c.GrantKnown) (hr : c.reconciliation = some r)
include h hr

lemma of_closing {bridge : Option ℕ}
    (hphase : r.phase = .closing bridge rebuild) (hbridge : c.bridge = none) :
    (if rebuild then (c.close bridge).goTo r .starting
      else (c.close bridge).finish r).GrantKnown := by
  obtain ⟨hgranted, -, hsilent, -⟩ := h.phase r hr
  rw [hphase] at hgranted hsilent
  obtain ⟨bridges, hclose⟩ := close_eq c bridge
  rw [hclose]
  split
  · next hrebuild =>
    exact h.of_same hr rfl rfl rfl rfl rfl id rfl rfl rfl
      (.of_granted (fun _ => hgranted hrebuild) rfl rfl rfl)
  · exact h.of_finish rfl rfl rfl (Or.inr (Or.inr rfl)) (fun _ => Or.inl hbridge)
      fun hrunning => Or.inl (hsilent rfl hrunning)

section

variable (hgranted : r.anyGrant c.options = true)
include hgranted

lemma of_compareEpochs : (c.compareEpochs r).GrantKnown := by
  unfold compareEpochs
  refine h.of_same hr rfl rfl rfl rfl rfl id rfl rfl rfl (.of_granted (fun _ => hgranted) ?_ ?_ ?_)
  · split <;> rfl
  · split <;> rfl
  · split <;> rfl

lemma of_silent
    (hsilent : c.stopped = false → c.speaker = false) (hoptions : c₁.options = c.options)
    (hstopped : c₁.stopped = c.stopped) (hstopping : c₁.stopping = c.stopping)
    (hreconciled : c₁.reconciled = c.reconciled) (hspeaker : c₁.speaker = c.speaker)
    (hvoiced : phase.voiced = false) (hspeaks : phase.speaks = false) :
    (c₁.goTo r phase).GrantKnown := by
  refine h.of_goTo hr hoptions hstopped hstopping hreconciled rfl id (Or.inr (Or.inr hgranted))
    (Or.inr hspeaker) (fun hrunning => Or.inl (hspeaker.trans (hsilent hrunning)))
    ⟨fun _ => ?_, fun heq => ?_, fun _ hrunning => ?_, fun heq => ?_⟩
  · rw [hoptions]
    exact hgranted
  · exact absurd (hvoiced.symm.trans heq) Bool.false_ne_true
  · exact hspeaker.trans (hsilent (hstopped.symm.trans hrunning))
  · exact absurd (hspeaks.symm.trans heq) Bool.false_ne_true

lemma of_ensureRunning : (c.ensureRunning r).GrantKnown := by
  unfold ensureRunning
  split
  · exact h.of_same hr rfl rfl rfl rfl rfl id rfl rfl rfl
      (.of_granted (fun _ => hgranted) rfl rfl rfl)
  · next hidle =>
    -- There is a speaker only on a bridge that runs.
    refine h.of_silent hr hgranted (fun hrunning => ?_) rfl rfl rfl rfl rfl rfl rfl
    rw [← Bool.not_eq_true]
    intro hspeaker
    exact hidle (by rw [(h.speaker hrunning hspeaker).1]; exact ControllerState.noConfusion)

end

lemma of_starting (succeeds : Bool)
    (hgranted : r.phase.granted = true) (hsilent : r.phase.silent = true)
    (hcloses : r.phase.rebuilds = false) : (c.reconcile r succeeds).GrantKnown := by
  have hany := (h.phase r hr).granted hgranted
  have hquiet := (h.phase r hr).silent hsilent
  have hon : ∀ {c₁ : ControllerRun} {phase : ReconcilePhase}, c₁.options = c.options →
      c₁.stopped = c.stopped → c₁.stopping = c.stopping → c₁.reconciled = c.reconciled →
      c₁.speaker = c.speaker → phase.voiced = false → phase.speaks = false →
      (c₁.goTo r phase).GrantKnown := h.of_silent hr hany hquiet
  unfold reconcile
  cases hphase : r.phase with
  | building generation =>
    dsimp only
    split
    · exact hon rfl rfl rfl rfl rfl rfl rfl
    · exact hon rfl rfl rfl rfl rfl rfl rfl
  | unbuilt generation =>
    dsimp only [giveUpBuild]
    split
    · exact hon rfl rfl rfl rfl rfl rfl rfl
    · exact hon rfl rfl rfl rfl rfl rfl rfl
  | installing generation bridge =>
    dsimp only [install]
    split
    · exact hon rfl rfl rfl rfl rfl rfl rfl
    · exact hon rfl rfl rfl rfl rfl rfl rfl
  | connecting generation bridge =>
    dsimp only [connect]
    split
    · exact hon rfl rfl rfl rfl rfl rfl rfl
    · exact hon rfl rfl rfl rfl rfl rfl rfl
  | connected generation bridge =>
    cases succeeds with
    | true | false => exact hon rfl rfl rfl rfl rfl rfl rfl
  | unconnected generation bridge | abandoning bridge => exact hon rfl rfl rfl rfl rfl rfl rfl
  | confirming generation bridge =>
    dsimp only [confirm]
    split
    · exact hon rfl rfl rfl rfl rfl rfl rfl
    · exact hon rfl rfl rfl rfl rfl rfl rfl
  | detaching rebuild | closing bridge rebuild => rw [hphase] at hcloses; cases hcloses
  | _ => rw [hphase] at hsilent; cases hsilent

lemma of_checking (hgranted : r.anyGrant c.options = true) : (if c.state ≠ .running then c.finish r
      else if c.options.voiceAuthorized r.state then c.goTo r .rotating
      else c.goTo r .muting).GrantKnown := by
  split
  · next hnot =>
    refine h.of_finish rfl rfl rfl (Or.inr (Or.inr rfl)) (fun _ => Or.inr hgranted)
      fun hrunning => Or.inl ?_
    rw [← Bool.not_eq_true]
    exact fun hspeaker => hnot (h.speaker hrunning hspeaker).1
  · split
    · next hvoice =>
      refine h.of_same hr rfl rfl rfl rfl rfl id rfl rfl rfl
        ⟨fun _ => hgranted, fun _ => hvoice, ?_, ?_⟩
      · exact fun heq => by cases heq
      · exact fun heq => by cases heq
    · exact h.of_same hr rfl rfl rfl rfl rfl id rfl rfl rfl
        (.of_granted (fun _ => hgranted) rfl rfl rfl)

lemma of_rotateVoice (hphase : r.phase = .rotating) : (c.rotateVoice r).GrantKnown := by
  obtain ⟨hgranted, hvoiced, -, -⟩ := h.phase r hr
  rw [hphase] at hgranted hvoiced
  have hnew : ∀ c₁ : ControllerRun, c₁.options = c.options →
      c₁.PhaseGrant { r with phase := .voicing } := by
    intro c₁ hoptions
    refine ⟨fun _ => ?_, fun _ => ?_, (fun heq => by cases heq), fun heq => by cases heq⟩
    · rw [hoptions]
      exact hgranted rfl
    · rw [hoptions]
      exact hvoiced rfl
  unfold rotateVoice
  split
  · exact h.of_same hr rfl rfl rfl rfl rfl id rfl rfl rfl (hnew c rfl)
  · exact h.of_goTo hr rfl rfl rfl rfl rfl id (Or.inl rfl) (Or.inl rfl) (fun _ => Or.inl rfl)
      (hnew _ rfl)

end

section

variable (h : c.GrantKnown)
include h

lemma of_voiced (hgranted : r.anyGrant c.options = true)
    (hvoiced : c.options.voiceAuthorized r.state = true) (hoptions : c₁.options = c.options)
    (hstopped : c₁.stopped = c.stopped) (hstopping : c₁.stopping = c.stopping)
    (hspeaker : c₁.speaker = c.speaker) (hstate : c₁.state = c.state) :
    (c₁.finish r).GrantKnown := by
  refine h.of_finish hoptions hstopped hstopping (Or.inr (Or.inr hspeaker))
    (fun _ => Or.inr hgranted) fun hrunning => ?_
  cases hspeaks : c₁.speaker with
  | false => exact Or.inl rfl
  | true =>
    refine Or.inr ⟨hstate.trans ?_, hvoiced⟩
    exact (h.speaker hrunning (hspeaker.symm.trans hspeaks)).1

section

variable (hr : c.reconciliation = some r)
include hr

lemma of_ensureVoice (hgranted : r.anyGrant c.options = true)
    (hvoiced : c.options.voiceAuthorized r.state = true) : (c.ensureVoice r).GrantKnown := by
  unfold ensureVoice
  split
  · exact h.of_voiced hgranted hvoiced rfl rfl rfl rfl rfl
  · next hnot =>
    refine h.of_same hr rfl rfl rfl rfl rfl id rfl rfl rfl
      ⟨fun _ => hgranted, fun _ => hvoiced, (fun heq => by cases heq), fun _ _ => ?_⟩
    by_contra hidle
    exact hnot (Or.inr (Or.inr (Or.inr hidle)))

lemma of_resolving (succeeds : Bool) (hphase : r.phase = .resolving) :
    (c.goTo r (if succeeds then .speaking else .unvoiced)).GrantKnown := by
  obtain ⟨hgranted, hvoiced, -, hspeaks⟩ := h.phase r hr
  rw [hphase] at hgranted hvoiced hspeaks
  refine h.of_same hr rfl rfl rfl rfl rfl id rfl rfl rfl
    ⟨fun _ => hgranted rfl, fun _ => hvoiced rfl, ?_, fun _ => hspeaks rfl⟩
  cases succeeds with
  | true | false => exact fun heq => by cases heq

lemma of_speaking (hphase : r.phase = .speaking) (hguard : c.stopping.silences = true) :
    ({ c with speaker := true, voiceStarting := false }.finish r).GrantKnown := by
  obtain ⟨hgranted, hvoiced, -, hspeaks⟩ := h.phase r hr
  rw [hphase] at hgranted hvoiced hspeaks
  exact h.of_finish rfl rfl rfl (Or.inl hguard) (fun _ => Or.inr (hgranted rfl))
    fun hrunning => Or.inr ⟨hspeaks rfl hrunning, hvoiced rfl⟩

end

lemma of_reconcile (hknown : c.BridgeKnown) (hr : c.reconciliation = some r) (succeeds : Bool)
    (hguard : r.phase = .speaking → c.stopping.silences = true) :
    (c.reconcile r succeeds).GrantKnown := by
  obtain ⟨hgranted, hvoiced, -, -⟩ := h.phase r hr
  have hbridge := hknown.phase r hr
  by_cases hstart : r.phase.granted = true ∧ r.phase.silent = true ∧ r.phase.rebuilds = false
  · exact h.of_starting hr succeeds hstart.1 hstart.2.1 hstart.2.2
  · unfold reconcile
    cases hphase : r.phase with
    | acquiring => exact h.of_acquireLease hr
    | leased =>
      exact h.of_plain hr rfl rfl rfl rfl rfl (fun _ => rfl) rfl rfl rfl rfl rfl rfl rfl
    | releasing => exact h.of_takeLeaseFor hr
    | unleasing epoch | forgetting =>
      exact h.of_plain hr rfl rfl rfl rfl rfl id rfl rfl rfl rfl rfl rfl rfl
    | edging => exact h.of_findEdges hr
    | announcing notesEdge voiceEdge => exact h.of_announce hr notesEdge voiceEdge
    | silencing rebuild => exact h.of_silencing hr hphase
    | detaching rebuild => exact h.of_detaching hr hphase
    | closing bridge rebuild =>
      rw [hphase] at hbridge
      exact h.of_closing hr hphase hbridge
    | comparing => exact h.of_compareEpochs hr (hgranted (by rw [hphase]; rfl))
    | starting => exact h.of_ensureRunning hr (hgranted (by rw [hphase]; rfl))
    | checking => exact h.of_checking hr (hgranted (by rw [hphase]; rfl))
    | muting =>
      exact h.of_finish rfl rfl rfl (Or.inr (Or.inl rfl))
        (fun _ => Or.inr (hgranted (by rw [hphase]; rfl))) fun _ => Or.inl rfl
    | rotating => exact h.of_rotateVoice hr hphase
    | voicing =>
      exact h.of_ensureVoice hr (hgranted (by rw [hphase]; rfl)) (hvoiced (by rw [hphase]; rfl))
    | resolving => exact h.of_resolving hr succeeds hphase
    | unvoiced =>
      exact h.of_voiced (hgranted (by rw [hphase]; rfl)) (hvoiced (by rw [hphase]; rfl))
        rfl rfl rfl rfl rfl
    | speaking => exact h.of_speaking hr hphase (hguard hphase)
    | _ =>
      -- The bridge is built and connected.
      rw [hphase] at hstart
      exact absurd ⟨rfl, rfl, rfl⟩ hstart

lemma of_stop : c.stop.GrantKnown := by
  unfold stop
  split
  · exact h
  · refine ⟨(fun hrunning => by cases hrunning), (fun hsilences => by cases hsilences),
      (fun hrunning => by cases hrunning), (fun hrunning => by cases hrunning), fun r hr => ?_⟩
    obtain ⟨hgranted, hvoiced, -, -⟩ := h.phase r hr
    exact ⟨hgranted, hvoiced, (fun _ hrunning => by cases hrunning),
      fun _ hrunning => by cases hrunning⟩

lemma of_stopOn (hstep : c.stopOn? = some c') : c'.GrantKnown := by
  have hstopped : c.stopping ≠ .uncalled → c.stopped ≠ false := fun hne heq => hne (h.stopped heq)
  have hkept : ∀ c₁ : ControllerRun, c.stopping ≠ .uncalled → c₁.options = c.options →
      c₁.stopped = c.stopped → c₁.reconciliation = c.reconciliation →
      (c₁.stopping.silences = false → c₁.speaker = false) → c₁.GrantKnown := by
    intro c₁ hcalled hoptions hsame hreconciliation hsilenced
    have hnot : c₁.stopped ≠ false := by
      rw [hsame]
      exact hstopped hcalled
    refine ⟨fun hrunning => absurd hrunning hnot, hsilenced, fun hrunning => absurd hrunning hnot,
      fun hrunning => absurd hrunning hnot, fun r hr => ?_⟩
    obtain ⟨hgranted, hvoiced, -, -⟩ := h.phase r (hreconciliation.symm.trans hr)
    rw [← hoptions] at hgranted hvoiced
    exact ⟨hgranted, hvoiced, (fun _ hrunning => absurd hrunning hnot),
      fun _ hrunning => absurd hrunning hnot⟩
  unfold stopOn? at hstep
  cases hstopping : c.stopping with
  | uncalled | returned => rw [hstopping] at hstep; cases hstep
  | releasing =>
    rw [hstopping] at hstep
    cases hstep
    have hcalled : c.stopping ≠ .uncalled := by
      rw [hstopping]
      exact StopPhase.noConfusion
    have hloud : ((c.takeLease.2.map StopPhase.unleasing).getD .silencing).silences = true := by
      cases c.takeLease.2 <;> rfl
    unfold takeLease at hloud ⊢
    split at hloud
    · next hreleases =>
      rw [if_pos hreleases]
      exact hkept _ hcalled rfl rfl rfl fun hsilences =>
        absurd (hloud.symm.trans hsilences) Bool.noConfusion
    · next hreleases =>
      rw [if_neg hreleases]
      exact hkept _ hcalled rfl rfl rfl fun hsilences =>
        absurd (hloud.symm.trans hsilences) Bool.noConfusion
  | unleasing epoch =>
    rw [hstopping] at hstep
    cases hstep
    exact hkept _ (by rw [hstopping]; exact StopPhase.noConfusion) rfl rfl rfl
      fun hsilences => by cases hsilences
  | silencing =>
    rw [hstopping] at hstep
    cases hstep
    exact hkept _ (by rw [hstopping]; exact StopPhase.noConfusion) rfl rfl rfl fun _ => rfl
  | detaching =>
    rw [hstopping] at hstep
    cases hstep
    exact hkept _ (by rw [hstopping]; exact StopPhase.noConfusion) rfl rfl rfl
      fun _ => h.silenced (by rw [hstopping]; rfl)
  | closing bridge =>
    rw [hstopping] at hstep
    cases hstep
    obtain ⟨bridges, hclose⟩ := close_eq c bridge
    rw [hclose]
    exact hkept _ (by rw [hstopping]; exact StopPhase.noConfusion) rfl rfl rfl
      fun _ => h.silenced (by rw [hstopping]; rfl)

lemma of_leases (leases : TranscriptProducers) : GrantKnown { c with leases } := by
  refine ⟨h.stopped, h.silenced, h.bridge, h.speaker, fun r hr => ?_⟩
  obtain ⟨hgranted, hvoiced, hsilent, hspeaks⟩ := h.phase r hr
  exact ⟨hgranted, hvoiced, hsilent, hspeaks⟩

end

end GrantKnown

/-- What was announced, and is about to be, is what was observed. -/
structure AnnounceKnown (c : ControllerRun) : Prop where
  -- The state that is assumed on a failure grants nothing.
  unconfirmed : ∀ r, c.reconciliation = some r → r.confirmed = false → r.state = {}
  notes : c.notes.activated ++ (c.reconciliation.map Reconciliation.pendingNotes).getD [] =
    List.runStarts none c.notes.observed
  voice : c.voice.activated ++ (c.reconciliation.map Reconciliation.pendingVoice).getD [] =
    List.runStarts none c.voice.observed
  agrees : c.stopped = false → c.notes.Agrees ∧ c.voice.Agrees

namespace AnnounceKnown

lemma pending_eq_nil {reconciliation : Option Reconciliation}
    (h : ∀ r, reconciliation = some r → r.phase.edges = (false, false)) :
    (reconciliation.map Reconciliation.pendingNotes).getD [] = [] ∧
      (reconciliation.map Reconciliation.pendingVoice).getD [] = [] := by
  cases reconciliation with
  | none => exact ⟨rfl, rfl⟩
  | some r =>
    show r.pendingNotes = [] ∧ r.pendingVoice = []
    unfold Reconciliation.pendingNotes Reconciliation.pendingVoice
    rw [h r rfl]
    exact ⟨rfl, rfl⟩

lemma congr (h : c.AnnounceKnown) (hnotes : c'.notes = c.notes) (hvoice : c'.voice = c.voice)
    (hstopped : c'.stopped = false → c.stopped = false)
    (hold : ∀ r, c.reconciliation = some r → r.phase.edges = (false, false))
    (hnew : ∀ r, c'.reconciliation = some r → r.phase.edges = (false, false) ∧
      (r.confirmed = false → r.state = {})) : c'.AnnounceKnown := by
  obtain ⟨hoNotes, hoVoice⟩ := pending_eq_nil hold
  obtain ⟨hnNotes, hnVoice⟩ := pending_eq_nil fun r hr => (hnew r hr).1
  refine ⟨fun r hr => (hnew r hr).2, ?_, ?_, fun hrunning => ?_⟩
  · rw [hnotes, hnNotes, ← hoNotes]
    exact h.notes
  · rw [hvoice, hnVoice, ← hoVoice]
    exact h.voice
  · rw [hnotes, hvoice]
    exact h.agrees (hstopped hrunning)

lemma of_same (h : c.AnnounceKnown) (hnotes : c'.notes = c.notes) (hvoice : c'.voice = c.voice)
    (hstopped : c'.stopped = false → c.stopped = false)
    (hreconciliation : c'.reconciliation = c.reconciliation) : c'.AnnounceKnown := by
  refine ⟨fun r hr => h.unconfirmed r (hreconciliation.symm.trans hr), ?_, ?_, fun hrunning => ?_⟩
  · rw [hnotes, hreconciliation]
    exact h.notes
  · rw [hvoice, hreconciliation]
    exact h.voice
  · rw [hnotes, hvoice]
    exact h.agrees (hstopped hrunning)

lemma authorized_default (options : ControllerOptions) :
    ControllerOptions.notesAuthorized {} = false ∧ options.voiceAuthorized {} = false := by
  refine ⟨rfl, ?_⟩
  unfold ControllerOptions.voiceAuthorized
  rw [Bool.and_false, Bool.false_and]

lemma isSome_voiceEpoch {options : ControllerOptions}
    (h : options.voiceAuthorized r.state = true) : r.voiceEpoch.isSome = true := by
  unfold ControllerOptions.voiceAuthorized at h
  rw [Bool.and_eq_true, decide_eq_true_eq] at h
  rw [Reconciliation.voiceEpoch, positive?, if_pos h.2]
  rfl

/-- What was observed is about to be announced, if it starts a run. -/
lemma of_findEdges (h : c.AnnounceKnown) (hr : c.reconciliation = some r)
    (hphase : r.phase = .edging) (hguard : c.settles r = true) : (c.findEdges r).AnnounceKnown := by
  have hquiet : ∀ r', c.reconciliation = some r' → r'.phase.edges = (false, false) := by
    intro r' hr'
    cases hr.symm.trans hr'
    rw [hphase]
    rfl
  obtain ⟨hpNotes, hpVoice⟩ := pending_eq_nil hquiet
  have hnotes := h.notes
  have hvoice := h.voice
  rw [hpNotes, List.append_nil] at hnotes
  rw [hpVoice, List.append_nil] at hvoice
  unfold findEdges
  dsimp only
  split
  · next hstopped =>
    refine ⟨(fun r' hr' => by cases hr'), ?_, ?_, fun hrunning => ?_⟩
    · show (c.notes.observe _ _ _).activated ++ [] = List.runStarts none
        (c.notes.observe _ _ _).observed
      rw [List.append_nil, GrantAnnouncement.activated_observe.1,
        GrantAnnouncement.observed_observe]
      exact hnotes
    · show (c.voice.observe _ _ _).activated ++ [] = List.runStarts none
        (c.voice.observe _ _ _).observed
      rw [List.append_nil, GrantAnnouncement.activated_observe.1,
        GrantAnnouncement.observed_observe]
      exact hvoice
    · exact absurd (hstopped.symm.trans hrunning) Bool.noConfusion
  · next hrunning =>
    rw [Bool.not_eq_true] at hrunning
    obtain ⟨haNotes, haVoice⟩ := h.agrees hrunning
    have hnotesEpoch : ControllerOptions.notesAuthorized r.state = true →
        r.notesEpoch.isSome = true ∨ c.notes.epoch = none := by
      intro hauthorized
      unfold settles at hguard
      rw [hphase, hrunning, hauthorized] at hguard
      simpa using hguard
    have hvoiceEpoch : c.options.voiceAuthorized r.state = true →
        r.voiceEpoch.isSome = true ∨ c.voice.epoch = none :=
      fun hauthorized => Or.inl (isSome_voiceEpoch hauthorized)
    -- Nothing is authorized without a confirmation.
    have hunconfirmed := h.unconfirmed r hr
    have hnClosed : r.confirmed = false → ControllerOptions.notesAuthorized r.state = false := by
      intro hconfirmed
      rw [hunconfirmed hconfirmed]
      exact (authorized_default c.options).1
    have hvClosed : r.confirmed = false → c.options.voiceAuthorized r.state = false := by
      intro hconfirmed
      rw [hunconfirmed hconfirmed]
      exact (authorized_default c.options).2
    obtain ⟨hnAgrees, hnStarts⟩ := GrantAnnouncement.observe_record haNotes hnotesEpoch hnClosed
    obtain ⟨hvAgrees, hvStarts⟩ := GrantAnnouncement.observe_record haVoice hvoiceEpoch hvClosed
    refine ⟨(fun r' hr' => by cases hr'; exact hunconfirmed), ?_, ?_,
      fun _ => ⟨hnAgrees, hvAgrees⟩⟩
    · refine Eq.trans ?_ hnStarts.symm
      rw [← hnotes]
      exact congrArg (· ++ _) GrantAnnouncement.activated_observe.2
    · refine Eq.trans ?_ hvStarts.symm
      rw [← hvoice]
      exact congrArg (· ++ _) GrantAnnouncement.activated_observe.2

lemma of_announce (h : c.AnnounceKnown) (hr : c.reconciliation = some r)
    {notesEdge voiceEdge : Bool} (hphase : r.phase = .announcing notesEdge voiceEdge) :
    (c.announce r notesEdge voiceEdge).AnnounceKnown := by
  have hnotes := h.notes
  have hvoice := h.voice
  rw [hr] at hnotes hvoice
  have hactivate : ∀ (a : GrantAnnouncement) (epoch : Option ℤ) (edge : Bool),
      (a.activate epoch edge).activated = a.activated ++ (if edge then [epoch] else []) ∧
        (a.activate epoch edge).observed = a.observed ∧
          (a.Agrees → (a.activate epoch edge).Agrees) := by
    intro a epoch edge
    cases edge with
    | true => exact ⟨rfl, rfl, fun hagrees => ⟨hagrees.seen, hagrees.rearmed⟩⟩
    | false => exact ⟨(List.append_nil _).symm, rfl, id⟩
  obtain ⟨hnActivated, hnObserved, hnAgrees⟩ := hactivate c.notes r.notesEpoch notesEdge
  obtain ⟨hvActivated, hvObserved, hvAgrees⟩ := hactivate c.voice r.voiceEpoch voiceEdge
  have hquiet : ∀ r', (c.announce r notesEdge voiceEdge).reconciliation = some r' →
      r'.phase.edges = (false, false) := by
    intro r' hr'
    cases hr'
    show (if r.anyGrant c.options = true then ReconcilePhase.comparing
      else .forgetting).edges = (false, false)
    split <;> rfl
  obtain ⟨hpNotes, hpVoice⟩ := pending_eq_nil hquiet
  refine ⟨(fun r' hr' => by cases hr'; exact h.unconfirmed r hr), ?_, ?_, fun hrunning => ?_⟩
  · rw [hpNotes, List.append_nil]
    show (c.notes.activate r.notesEpoch notesEdge).activated =
      List.runStarts none (c.notes.activate r.notesEpoch notesEdge).observed
    rw [hnActivated, hnObserved, ← hnotes]
    show _ = c.notes.activated ++ (if r.phase.edges.1 = true then [r.notesEpoch] else [])
    rw [hphase]
    rfl
  · rw [hpVoice, List.append_nil]
    show (c.voice.activate r.voiceEpoch voiceEdge).activated =
      List.runStarts none (c.voice.activate r.voiceEpoch voiceEdge).observed
    rw [hvActivated, hvObserved, ← hvoice]
    show _ = c.voice.activated ++ (if r.phase.edges.2 = true then [r.voiceEpoch] else [])
    rw [hphase]
    rfl
  · obtain ⟨haNotes, haVoice⟩ := h.agrees hrunning
    exact ⟨hnAgrees haNotes, hvAgrees haVoice⟩

lemma reconcile_eq (c : ControllerRun) (r : Reconciliation) (succeeds : Bool)
    (hedging : r.phase ≠ .edging)
    (hannouncing : ∀ notesEdge voiceEdge, r.phase ≠ .announcing notesEdge voiceEdge) :
    r.phase.edges = (false, false) ∧ (c.reconcile r succeeds).notes = c.notes ∧
      (c.reconcile r succeeds).voice = c.voice ∧
      (c.reconcile r succeeds).stopped = c.stopped ∧
      ∀ r', (c.reconcile r succeeds).reconciliation = some r' →
        r'.phase.edges = (false, false) ∧ r'.confirmed = r.confirmed ∧ r'.state = r.state := by
  unfold reconcile
  cases h : r.phase with
  | edging => exact absurd h hedging
  | announcing notesEdge voiceEdge => exact absurd h (hannouncing notesEdge voiceEdge)
  | closing bridge rebuild =>
    obtain ⟨bridges, hclose⟩ := GrantKnown.close_eq c bridge
    dsimp only
    rw [hclose]
    cases rebuild with
    | true =>
      refine ⟨rfl, rfl, rfl, rfl, fun r' hr' => ?_⟩
      cases hr'
      exact ⟨rfl, rfl, rfl⟩
    | false => exact ⟨rfl, rfl, rfl, rfl, fun r' hr' => by cases hr'⟩
  | _ =>
    dsimp only [acquireLease, noteLease, takeLeaseFor, takeLease, releaseLease, forget,
      teardownVoice, detach, compareEpochs, ensureRunning, giveUpBuild, install, giveUpStart,
      confirm, connect, updateBridge, rotateVoice, ensureVoice, goTo, finish]
    repeat' split
    all_goals
      refine ⟨rfl, rfl, rfl, rfl, fun r' hr' => ?_⟩
      first
        | (cases hr'; done)
        | (cases hr'; exact ⟨rfl, rfl, rfl⟩)

lemma of_reconcile (h : c.AnnounceKnown) (hr : c.reconciliation = some r) (succeeds : Bool)
    (hguard : c.settles r = true) : (c.reconcile r succeeds).AnnounceKnown := by
  by_cases hedging : r.phase = .edging
  · unfold reconcile
    rw [hedging]
    exact h.of_findEdges hr hedging hguard
  · by_cases hannouncing : ∃ notesEdge voiceEdge, r.phase = .announcing notesEdge voiceEdge
    · obtain ⟨notesEdge, voiceEdge, hphase⟩ := hannouncing
      unfold reconcile
      rw [hphase]
      exact h.of_announce hr hphase
    · obtain ⟨hquiet, hnotes, hvoice, hstopped, hnew⟩ := reconcile_eq c r succeeds hedging
        fun notesEdge voiceEdge hphase => hannouncing ⟨notesEdge, voiceEdge, hphase⟩
      refine h.congr hnotes hvoice (fun hrunning => hstopped.symm.trans hrunning)
        (fun r' hr' => ?_) fun r' hr' => ?_
      · cases hr.symm.trans hr'
        exact hquiet
      · obtain ⟨hedges, hconfirmed, hstate⟩ := hnew r' hr'
        refine ⟨hedges, ?_⟩
        rw [hconfirmed, hstate]
        exact h.unconfirmed r hr

end AnnounceKnown

/-! ## Steps -/

/-- The invariant of a run. -/
structure Invariant (c : ControllerRun) : Prop where
  lease : c.LeaseKnown
  bridge : c.BridgeKnown
  grant : c.GrantKnown
  announce : c.AnnounceKnown

namespace Invariant

lemma failsClosed (h : c.Invariant) : c.FailsClosed where
  drained := by
    intro hstopping hidle
    have hsilences : c.stopping.silences = false := by
      rw [hstopping]
      rfl
    have hdetached : c.stopping.detached = true := by
      rw [hstopping]
      rfl
    have hnone := h.bridge.detached hdetached
    refine ⟨hnone, h.grant.silenced hsilences, fun status hmem => ?_, fun epoch hholds => ?_⟩
    · obtain ⟨id, hget⟩ := List.getElem?_of_mem hmem
      rw [← Bool.not_eq_true]
      intro halive
      rcases h.bridge.alive id status hget halive with hinstalled | hstop | ⟨r, hr, -⟩
      · cases hnone.symm.trans hinstalled
      · cases hstopping.symm.trans hstop
      · cases hidle.symm.trans hr
    · obtain ⟨-, ⟨-, hstop | hstop⟩ | hstop | ⟨r, hr, -⟩⟩ := h.lease.owned epoch hholds
      · cases hstopping.symm.trans hstop
      · cases hstopping.symm.trans hstop
      · cases hstopping.symm.trans hstop
      · cases hidle.symm.trans hr
  bridge := h.grant.bridge
  speaker := fun hrunning hspeaker => (h.grant.speaker hrunning hspeaker).2
  unique := fun lease hmem lease' hmem' heq => c.leases.eq_of_key_eq hmem hmem' heq
  notes := h.announce.notes
  voice := h.announce.voice

lemma of_observeMediaState? (h : c.Invariant) {state : ResidentMediaState} {confirmed : Bool}
    (hstate : confirmed = false → state = {})
    (hstep : c.observeMediaState? state confirmed = some c') : c'.Invariant := by
  unfold observeMediaState? at hstep
  split at hstep
  · cases hstep
  · next hidle =>
    have hnone : c.reconciliation = none := by
      rw [Option.not_isSome_iff_eq_none] at hidle
      exact hidle
    have hno : ∀ {P : Reconciliation → Prop} r, c.reconciliation = some r → P r := by
      intro P r hr
      cases hnone.symm.trans hr
    split at hstep
    · cases hstep
      exact h
    · split at hstep
      · cases hstep
        exact h
      · cases hstep
        obtain ⟨hlease, hbridge, hgrant, hannounce⟩ := h
        refine ⟨?_, ?_, ?_, ?_⟩
        · refine hlease.congr rfl rfl rfl rfl hno fun r hr => ?_
          cases hr
          exact ReconcilePhase.noConfusion
        · refine hbridge.congr rfl rfl rfl rfl hno fun r hr => ?_
          cases hr
          exact trivial
        · refine ⟨hgrant.stopped, hgrant.silenced, fun hrunning hinstalled => ?_,
            fun hrunning hspeaks => ?_, fun r hr => ?_⟩
          · rcases hgrant.bridge hrunning hinstalled with hlast | hcurrent
            · exact Or.inl hlast
            · rw [hnone] at hcurrent
              cases hcurrent
          · obtain ⟨hrun, hlast | hcurrent⟩ := hgrant.speaker hrunning hspeaks
            · exact ⟨hrun, Or.inl hlast⟩
            · rw [hnone] at hcurrent
              cases hcurrent
          · cases hr
            exact .of_granted (fun heq => by cases heq) rfl rfl rfl
        · refine hannounce.congr rfl rfl id hno fun r hr => ?_
          cases hr
          exact ⟨rfl, hstate⟩

lemma of_reconcile (h : c.Invariant) (hr : c.reconciliation = some r) (succeeds : Bool)
    (hguard : c.settles r = true) : (c.reconcile r succeeds).Invariant where
  lease := h.lease.of_reconcile hr succeeds fun hphase => by
    unfold settles at hguard
    rw [hphase] at hguard
    exact hguard
  bridge := h.bridge.of_reconcile h.grant.stopped hr succeeds
  grant := h.grant.of_reconcile h.bridge hr succeeds fun hphase => by
    unfold settles at hguard
    rw [hphase] at hguard
    exact hguard
  announce := h.announce.of_reconcile hr succeeds hguard

lemma of_stop (h : c.Invariant) : c.stop.Invariant where
  lease := h.lease.of_stop h.grant.stopped
  bridge := h.bridge.of_stop h.grant.stopped
  grant := h.grant.of_stop
  announce := by
    unfold stop
    split
    · exact h.announce
    · exact h.announce.of_same rfl rfl (fun hrunning => by cases hrunning) rfl

lemma stopOn_eq (hstep : c.stopOn? = some c') : c'.notes = c.notes ∧ c'.voice = c.voice ∧
    c'.stopped = c.stopped ∧ c'.reconciliation = c.reconciliation := by
  unfold stopOn? at hstep
  split at hstep
  · cases hstep
  · cases hstep
    unfold takeLease
    split <;> exact ⟨rfl, rfl, rfl, rfl⟩
  · cases hstep
    exact ⟨rfl, rfl, rfl, rfl⟩
  · cases hstep
    exact ⟨rfl, rfl, rfl, rfl⟩
  · cases hstep
    exact ⟨rfl, rfl, rfl, rfl⟩
  · next bridge _ =>
    cases hstep
    obtain ⟨bridges, hclose⟩ := GrantKnown.close_eq c bridge
    rw [hclose]
    exact ⟨rfl, rfl, rfl, rfl⟩
  · cases hstep

lemma of_stopOn (h : c.Invariant) (hstep : c.stopOn? = some c') : c'.Invariant := by
  obtain ⟨hnotes, hvoice, hstopped, hreconciliation⟩ := stopOn_eq hstep
  refine ⟨h.lease.of_stopOn hstep, h.bridge.of_stopOn hstep, h.grant.of_stopOn hstep, ?_⟩
  exact h.announce.of_same hnotes hvoice (fun hrunning => hstopped.symm.trans hrunning)
    hreconciliation

lemma of_leases (h : c.Invariant) (leases : TranscriptProducers)
    (hlease : LeaseKnown { c with leases }) : Invariant { c with leases } where
  lease := hlease
  bridge := ⟨h.bridge.idle, h.bridge.detached, h.bridge.alive, h.bridge.phase⟩
  grant := h.grant.of_leases leases
  announce := h.announce.of_same rfl rfl id rfl

lemma of_next {label : ControllerStep} (h : c.Invariant)
    (hguard : c.settlesBeforeStop label = true) (hstep : c.next? label = some c') :
    c'.Invariant := by
  cases label with
  | observeMediaState state =>
    exact h.of_observeMediaState? (fun heq => by cases heq) hstep
  | failClosedMediaState => exact h.of_observeMediaState? (fun _ => rfl) hstep
  | reconcile succeeds =>
    obtain ⟨r, hr, rfl⟩ := Option.map_eq_some_iff.mp hstep
    have hsettles : c.settles r = true := by
      have hall : c.reconciliation.all c.settles = true := hguard
      rw [hr] at hall
      exact hall
    exact h.of_reconcile hr succeeds hsettles
  | stop =>
    cases hstep
    exact h.of_stop
  | stopOn => exact h.of_stopOn hstep
  | acquire roomID runtimeHostID epoch instanceID =>
    have hlease := h.lease.of_acquireOther hstep
    have hstep' : c.acquireOther? roomID runtimeHostID epoch instanceID = some c' := hstep
    unfold acquireOther? at hstep'
    split at hstep'
    · cases hstep'
    · cases hstep'
      exact h.of_leases _ hlease
  | release roomID runtimeHostID epoch instanceID =>
    have hlease := h.lease.of_releaseOther hstep
    have hstep' : c.releaseOther? roomID runtimeHostID epoch instanceID = some c' := hstep
    unfold releaseOther? at hstep'
    split at hstep'
    · cases hstep'
    · cases hstep'
      exact h.of_leases _ hlease

lemma init (options : ControllerOptions) : Invariant { options } where
  lease := by
    refine ⟨fun epoch hholds => ?_, fun r hr => ?_⟩
    · cases hholds
    · cases hr
  bridge := by
    refine ⟨fun _ => rfl, fun _ => rfl, fun id status hget => ?_, fun r hr => ?_⟩
    · cases hget
    · cases hr
  grant := by
    refine ⟨fun _ => rfl, fun _ => rfl, fun _ hinstalled => absurd rfl hinstalled,
      fun _ hspeaks => ?_, fun r hr => ?_⟩
    · cases hspeaks
    · cases hr
  announce := by
    refine ⟨fun r hr => ?_, rfl, rfl, fun _ => ⟨⟨rfl, fun _ => rfl⟩, ⟨rfl, fun _ => rfl⟩⟩⟩
    cases hr

end Invariant

end ControllerRun

/-! ## Runs -/

/-- In every run in which reconciliations settle before `Stop`, the controller fails closed. -/
theorem failsClosed_of_settlesBeforeStop {c : ControllerRun}
    (h : controllerSystem.ReachableWhen (fun c label => c.settlesBeforeStop label = true) c) :
    c.FailsClosed := by
  refine ControllerRun.Invariant.failsClosed (h.invariant ?_ ?_)
  · rintro _ ⟨options, rfl⟩
    exact ControllerRun.Invariant.init options
  · exact fun _ _ _ hinvariant hguard hstep => hinvariant.of_next hguard hstep

/-- A controller that is coordinated and may speak. -/
def coordinatedOptions : ControllerOptions where
  roomID := "room"
  runtimeHostID := "host"
  runtimeInstanceID := "instance"
  coordinated := true
  voice := true

/-- The Room grants everything. -/
def grantedState : ResidentMediaState where
  mediaAvailable := true
  meetingNotesActive := true
  meetingNotesStartedAt := 1
  agentVoiceEnabledAt := 1
  liveTranscriptActive := true
  producerRuntimeHostID := "host"
  liveTranscriptEpoch := 1

/-- `Stop` and all its sections, with a lease to release. -/
def stoppedAt : List ControllerStep :=
  [.stop, .stopOn, .stopOn, .stopOn, .stopOn, .stopOn]

/-- The Room grants everything, and the speaker is installed before `Stop`. -/
theorem failsClosed_stopped : ∃ c,
    TransitionSystem.runWhen? ControllerRun.next? ControllerRun.settlesBeforeStop
      { options := coordinatedOptions }
      (.observeMediaState grantedState :: List.replicate 16 (.reconcile true) ++ stoppedAt) =
        some c ∧
      c.notes.activated = [some 1] ∧ c.voice.activated = [some 1] ∧
        c.bridges = [BridgeStatus.stopped] ∧ c.FailsClosed := by
  have hrun : (TransitionSystem.runWhen? ControllerRun.next? ControllerRun.settlesBeforeStop
      { options := coordinatedOptions }
      (.observeMediaState grantedState :: List.replicate 16 (.reconcile true) ++ stoppedAt)).any
      (fun c => decide (c.notes.activated = [some 1] ∧ c.voice.activated = [some 1] ∧
        c.bridges = [BridgeStatus.stopped])) = true := by
    decide +kernel
  obtain ⟨c, hc, hall⟩ := (Option.any_eq_true _ _).mp hrun
  obtain ⟨hnotes, hvoice, hbridges⟩ := of_decide_eq_true hall
  refine ⟨c, hc, hnotes, hvoice, hbridges, failsClosed_of_settlesBeforeStop ?_⟩
  exact TransitionSystem.reachableWhen_of_runWhen (fun _ _ _ h => h) ⟨_, rfl⟩ hc

/-- The controller does not fail closed in every run. A reconciliation acquires the lease before
`Stop` and notes its epoch after it, and the lease is held for good. -/
theorem not_failsClosed_lease : ¬ ∀ c, controllerSystem.Reachable c → c.FailsClosed := by
  intro hall
  have hrun : (TransitionSystem.runWhen? ControllerRun.next? (fun _ _ => true)
      { options := coordinatedOptions }
      [.observeMediaState grantedState, .reconcile true, .stop, .stopOn, .stopOn, .stopOn,
        .stopOn, .reconcile true, .reconcile true]).any
      (fun c => decide (c.stopping = .returned ∧ c.reconciliation = none ∧
        c.leases.get? c.leaseKey = some (c.leaseKey, ⟨1, c.options.runtimeInstanceID⟩))) =
        true := by
    decide +kernel
  obtain ⟨c, hc, hlease⟩ := (Option.any_eq_true _ _).mp hrun
  obtain ⟨hreturned, hdrained, hholds⟩ := of_decide_eq_true hlease
  have hfails := hall c (TransitionSystem.reachable_of_runWhen (fun _ _ _ h => h) ⟨_, rfl⟩ hc)
  obtain ⟨-, -, -, hnone⟩ := hfails.drained hreturned hdrained
  exact hnone 1 hholds

lemma not_failsClosed_speaker : ∃ c, controllerSystem.Reachable c ∧ c.stopping = .returned ∧
    c.reconciliation = none ∧ c.speaker = true := by
  have hrun : (TransitionSystem.runWhen? ControllerRun.next? (fun _ _ => true)
      { options := coordinatedOptions }
      (.observeMediaState grantedState :: List.replicate 14 (.reconcile true) ++ stoppedAt ++
        [.reconcile true, .reconcile true])).any
      (fun c => decide (c.stopping = .returned ∧ c.reconciliation = none ∧ c.speaker = true)) =
        true := by
    decide +kernel
  obtain ⟨c, hc, hspeaks⟩ := (Option.any_eq_true _ _).mp hrun
  exact ⟨c, TransitionSystem.reachable_of_runWhen (fun _ _ _ h => h) ⟨_, rfl⟩ hc,
    of_decide_eq_true hspeaks⟩

end Free4Chat
