import Free4Chat.Media.Bridge

/-!
# Audio Is Attributed to Its Speaker

A track is bound only to the subscription whose negotiation returned its MID, a frame of audio is
delivered with the identity of the Human whose subscription has its MID, and no two subscriptions
have one MID. This holds in every run in which a track is bound by the MID that is expected, to the
subscription that was reserved for it, and in which no frame without a MID is delivered.

The source breaks this by the fallback of `handleIncomingTrack`. As long as the negotiation of a
track has not returned its MID, any other track that arrives may be bound to it, and from then on
the speech of one Human is delivered under the name of another.

* `BridgeRun.Attributed`: what holds of states.
* `BridgeRun.bindsExpected`: the condition on the steps.
* `attributed_of_bindsExpected`: the property, over every run.
* `not_attributed_fallback`: a run in which a frame is delivered under another name.
-/

namespace Free4Chat

/-! ## The property -/

namespace BridgeRun

/-- Tracks and frames are attributed to the Human whose negotiation returned their MID. -/
structure Attributed (b : BridgeRun) : Prop where
  bound : ∀ bound ∈ b.bound, ∃ track, ⟨bound.call, track, bound.mid⟩ ∈ b.negotiated ∧
    track.source = bound.source
  delivered : ∀ frame ∈ b.delivered, ∃ call track, ⟨call, track, frame.1⟩ ∈ b.negotiated ∧
    track.source = frame.2
  unique : ∀ sub ∈ b.subs.values, ∀ sub' ∈ b.subs.values, sub.mid ≠ "" → sub.mid = sub'.mid →
    sub = sub'

variable (b : BridgeRun)

/-- A track is bound by its expected MID, to the subscription that was reserved for it, and a frame
that is delivered has a MID. -/
def bindsExpected : BridgeStep → Bool
  | .incomingTrack _ (some key) => (b.pending.get? key).all fun pending =>
      pending.expectedMid.isSome && (b.subs.get? key).all fun sub => sub.call = pending.call
  | .audioFrame mid (some _) => mid ≠ ""
  | _ => true

/-! ## The invariant -/

/-- What is known of a pending track. -/
structure PendingKnown (b : BridgeRun) (pending : PendingTrack) : Prop where
  reserved : b.reserved[pending.call]? = some pending.track
  expected : ∀ mid, pending.expectedMid = some mid →
    mid ≠ "" ∧ ⟨pending.call, pending.track, mid⟩ ∈ b.negotiated

/-- What is known of a subscription. -/
structure SubscriptionKnown (b : BridgeRun) (sub : Subscription) : Prop where
  reserved : b.reserved[sub.call]? = some sub.track
  bound : sub.mid ≠ "" → ⟨sub.call, sub.track, sub.mid⟩ ∈ b.negotiated

/-- What is known of a call. The one whose turn it is owns what is pending for its track. -/
structure CallKnown (b : BridgeRun) (call : SubscribeCall) : Prop where
  reserved : b.reserved[call.id]? = some call.track
  answered : ∀ mid, call.phase = .answered mid → ⟨call.id, call.track, mid⟩ ∈ b.negotiated
  owns : call.phase.negotiates = true → ∀ pending,
    b.pending.get? call.track.subscriptionKey = some pending → pending.call = call.id

/-- The invariant. -/
structure Invariant (b : BridgeRun) : Prop where
  calls : ∀ call ∈ b.calls, b.CallKnown call
  pending : ∀ pending ∈ b.pending.values, b.PendingKnown pending
  subs : ∀ sub ∈ b.subs.values, b.SubscriptionKnown sub
  -- The SFU returns each MID once.
  distinct : ∀ n ∈ b.negotiated, ∀ n' ∈ b.negotiated, n.mid ≠ "" → n.mid = n'.mid → n = n'
  bound : ∀ bound ∈ b.bound, ∃ track, ⟨bound.call, track, bound.mid⟩ ∈ b.negotiated ∧
    track.source = bound.source
  delivered : ∀ frame ∈ b.delivered, ∃ call track, ⟨call, track, frame.1⟩ ∈ b.negotiated ∧
    track.source = frame.2

variable {b b' : BridgeRun}

namespace Invariant

lemma attributed (h : b.Invariant) : b.Attributed where
  bound := h.bound
  delivered := h.delivered
  unique := by
    intro sub hsub sub' hsub' hmid heq
    have hmem := (h.subs sub hsub).bound hmid
    have hmem' := (h.subs sub' hsub').bound (by rw [← heq]; exact hmid)
    -- One MID is one negotiation, and so one key.
    have hsame := h.distinct _ hmem _ hmem' hmid heq
    have htrack : sub.track = sub'.track := congrArg NegotiatedMid.track hsame
    refine b.subs.eq_of_key_eq hsub hsub' ?_
    rw [Subscription.key_eq, Subscription.key_eq, htrack]

variable {pending : KeyedMap PendingTrack}

section

variable (h : b.Invariant)
include h

variable {subs : KeyedMap Subscription}

lemma of_tables {stopped : Bool} (hsubs : ∀ sub ∈ subs.values, b.SubscriptionKnown sub)
    (hpending : ∀ p ∈ pending.values, b.PendingKnown p)
    (howns : ∀ call ∈ b.calls, call.phase.negotiates = true → ∀ p,
      pending.get? call.track.subscriptionKey = some p → p.call = call.id) :
    Invariant { b with subs := subs, pending := pending, stopped := stopped } where
  calls := fun call hcall =>
    ⟨(h.calls call hcall).reserved, (h.calls call hcall).answered, howns call hcall⟩
  pending := fun p hp => ⟨(hpending p hp).reserved, (hpending p hp).expected⟩
  subs := fun sub hsub => ⟨(hsubs sub hsub).reserved, (hsubs sub hsub).bound⟩
  distinct := h.distinct
  bound := h.bound
  delivered := h.delivered

lemma of_calls {calls : List SubscribeCall}
    (hcalls : ∀ call ∈ calls, b.CallKnown call) : Invariant { b with calls := calls } where
  calls := fun call hcall =>
    ⟨(hcalls call hcall).reserved, (hcalls call hcall).answered, (hcalls call hcall).owns⟩
  pending := fun p hp => ⟨(h.pending p hp).reserved, (h.pending p hp).expected⟩
  subs := fun sub hsub => ⟨(h.subs sub hsub).reserved, (h.subs sub hsub).bound⟩
  distinct := h.distinct
  bound := h.bound
  delivered := h.delivered

lemma of_heard {bound : List BoundTrack} {delivered : List (String × AudioSource)}
    (hbound : ∀ entry ∈ bound, ∃ track, ⟨entry.call, track, entry.mid⟩ ∈ b.negotiated ∧
      track.source = entry.source)
    (hdelivered : ∀ frame ∈ delivered, ∃ call track, ⟨call, track, frame.1⟩ ∈ b.negotiated ∧
      track.source = frame.2) : Invariant { b with bound := bound, delivered := delivered } where
  calls := fun call hcall =>
    ⟨(h.calls call hcall).reserved, (h.calls call hcall).answered, (h.calls call hcall).owns⟩
  pending := fun p hp => ⟨(h.pending p hp).reserved, (h.pending p hp).expected⟩
  subs := fun sub hsub => ⟨(h.subs sub hsub).reserved, (h.subs sub hsub).bound⟩
  distinct := h.distinct
  bound := hbound
  delivered := hdelivered

lemma owns_of_mem (hmem : ∀ p ∈ pending.values, p ∈ b.pending.values) :
    ∀ call ∈ b.calls, call.phase.negotiates = true → ∀ p,
      pending.get? call.track.subscriptionKey = some p → p.call = call.id := by
  intro call hcall hnegotiates p hget
  obtain ⟨hp, hkey⟩ := KeyedMap.get?_eq_some_iff.mp hget
  exact (h.calls call hcall).owns hnegotiates p
    (KeyedMap.get?_eq_some_iff.mpr ⟨hmem p hp, hkey⟩)

lemma of_forget {stopped : Bool} (hsubs : ∀ sub ∈ subs.values, sub ∈ b.subs.values)
    (hpending : ∀ p ∈ pending.values, p ∈ b.pending.values) :
    Invariant { b with subs := subs, pending := pending, stopped := stopped } :=
  h.of_tables (fun sub hsub => h.subs sub (hsubs sub hsub))
    (fun p hp => h.pending p (hpending p hp)) (h.owns_of_mem hpending)

end

/-! ### Discovery -/

lemma of_reconcileEnded (h : b.Invariant) (live : List AudioTrack) :
    (b.reconcileEnded live).Invariant :=
  h.of_forget (fun _ hsub => (List.mem_filter.mp hsub).1) (fun _ hp => hp)

lemma reserved_append {id : ℕ} {track new : AudioTrack}
    (h : b.reserved[id]? = some track) : (b.reserved ++ [new])[id]? = some track := by
  rw [List.getElem?_append_left (List.getElem?_eq_some_iff.mp h).1]
  exact h

lemma of_subscribe (h : b.Invariant) (track : AudioTrack) : (b.subscribe track).Invariant := by
  unfold subscribe
  split
  · exact h
  · have hnew : (b.reserved ++ [track])[b.reserved.length]? = some track :=
      List.getElem?_concat_length
    refine ⟨fun call hcall => ?_, fun p hp => ?_, fun sub hsub => ?_, h.distinct, h.bound,
      h.delivered⟩
    · rcases List.mem_append.mp hcall with hold | hcall
      · obtain ⟨hreserved, hanswered, howns⟩ := h.calls call hold
        exact ⟨reserved_append hreserved, hanswered, howns⟩
      · rw [List.mem_singleton.mp hcall]
        exact ⟨hnew, (fun mid hphase => by cases hphase), fun hphase => by cases hphase⟩
    · obtain ⟨hreserved, hexpected⟩ := h.pending p hp
      exact ⟨reserved_append hreserved, hexpected⟩
    · rcases KeyedMap.mem_set.mp hsub with rfl | ⟨hold, -⟩
      · exact ⟨hnew, fun hmid => absurd rfl hmid⟩
      · obtain ⟨hreserved, hbound⟩ := h.subs sub hold
        exact ⟨reserved_append hreserved, hbound⟩

/-! ### Negotiation -/

lemma of_dropReservation (h : b.Invariant) (track : AudioTrack) :
    (b.dropReservation track).Invariant :=
  h.of_forget (fun _ hsub => (KeyedMap.mem_erase.mp hsub).1)
    (fun _ hp => (KeyedMap.mem_erase.mp hp).1)

variable {call : SubscribeCall}

lemma of_reserved (h : b.Invariant) (hcall : b.CallKnown call) (hfree : b.negotiating = false) :
    Invariant { b with pending := b.pending.set { track := call.track, call := call.id } } := by
  refine h.of_tables h.subs (fun p hp => ?_) fun other hother hnegotiates => ?_
  · rcases KeyedMap.mem_set.mp hp with rfl | ⟨hold, -⟩
    · exact ⟨hcall.reserved, fun mid hexpected => by cases hexpected⟩
    · exact h.pending p hold
  · -- No other call has its turn.
    have hnot := List.any_eq_false.mp hfree other hother
    exact absurd hnegotiates hnot

variable {mid : String}

lemma of_accepted (h : b.Invariant) (call : SubscribeCall)
    (hfresh : ¬(mid ≠ "" ∧ mid ∈ b.negotiated.map NegotiatedMid.mid)) : Invariant { b with
      negotiated := b.negotiated ++ [{ call := call.id, track := call.track, mid }] } := by
  have hold : ∀ n ∈ b.negotiated,
      n ∈ b.negotiated ++ [{ call := call.id, track := call.track, mid }] :=
    fun n hn => List.mem_append.mpr (Or.inl hn)
  refine ⟨fun c hc => ?_, fun p hp => ?_, fun sub hsub => ?_, ?_, fun bound hbound => ?_,
    fun frame hframe => ?_⟩
  · obtain ⟨hreserved, hanswered, howns⟩ := h.calls c hc
    exact ⟨hreserved, fun mid hphase => hold _ (hanswered mid hphase), howns⟩
  · obtain ⟨hreserved, hexpected⟩ := h.pending p hp
    refine ⟨hreserved, fun mid hmid => ?_⟩
    exact ⟨(hexpected mid hmid).1, hold _ (hexpected mid hmid).2⟩
  · obtain ⟨hreserved, hbound⟩ := h.subs sub hsub
    exact ⟨hreserved, fun hmid => hold _ (hbound hmid)⟩
  · intro n hn n' hn' hmid heq
    rcases List.mem_append.mp hn with hn | hn
    · rcases List.mem_append.mp hn' with hn' | hn'
      · exact h.distinct n hn n' hn' hmid heq
      · rw [List.mem_singleton.mp hn'] at heq
        have hsame : n.mid = mid := heq
        rw [hsame] at hmid
        exact absurd ⟨hmid, List.mem_map.mpr ⟨n, hn, hsame⟩⟩ hfresh
    · rw [List.mem_singleton.mp hn] at hmid heq ⊢
      rcases List.mem_append.mp hn' with hn' | hn'
      · exact absurd ⟨hmid, List.mem_map.mpr ⟨n', hn', heq.symm⟩⟩ hfresh
      · exact (List.mem_singleton.mp hn').symm
  · obtain ⟨track, hmem, hsource⟩ := h.bound bound hbound
    exact ⟨track, hold _ hmem, hsource⟩
  · obtain ⟨id, track, hmem, hsource⟩ := h.delivered frame hframe
    exact ⟨id, track, hold _ hmem, hsource⟩

lemma of_answered (h : b.Invariant) (hcall : b.CallKnown call)
    (hphase : call.phase = .answered mid) : Invariant { b with
      pending := b.pending.modify call.track.subscriptionKey (PendingTrack.expect mid)
        (PendingTrack.key_expect mid) } := by
  have howns := hcall.owns (by rw [hphase]; rfl)
  refine h.of_tables h.subs (fun p hp => ?_) fun other hother hnegotiates p hget => ?_
  · rcases KeyedMap.mem_modify.mp hp with ⟨old, hold, hkey, rfl⟩ | ⟨hold, -⟩
    · have hid : old.call = call.id :=
        howns old (KeyedMap.get?_eq_some_iff.mpr ⟨hold, hkey⟩)
      have hreserved := (h.pending old hold).reserved
      have htrack : old.track = call.track := by
        rw [hid, hcall.reserved] at hreserved
        exact (Option.some.inj hreserved).symm
      refine ⟨hreserved, fun expected hexpected => ?_⟩
      show expected ≠ "" ∧ ⟨old.call, old.track, expected⟩ ∈ b.negotiated
      rw [PendingTrack.expect] at hexpected
      dsimp only at hexpected
      split at hexpected
      · cases hexpected
      · next hne =>
        cases hexpected
        rw [hid, htrack]
        exact ⟨hne, hcall.answered mid hphase⟩
    · exact h.pending p hold
  · rw [KeyedMap.get?_modify] at hget
    split at hget
    · obtain ⟨old, hold, rfl⟩ := Option.map_eq_some_iff.mp hget
      exact (h.calls other hother).owns hnegotiates old hold
    · exact (h.calls other hother).owns hnegotiates p hget

variable {outcome : NegotiationOutcome} {after : BridgeRun × Option SubscribePhase}

lemma of_negotiate (h : b.Invariant) (hcall : b.CallKnown call)
    (hstep : b.negotiate call outcome = some after) : after.1.Invariant := by
  unfold negotiate at hstep
  cases hphase : call.phase with
  | reserved =>
    rw [hphase] at hstep
    dsimp only at hstep
    split at hstep
    · cases hstep
    · next hfree =>
      split at hstep
      · cases hstep
        exact h
      · cases hstep
        exact h.of_reserved hcall (Bool.not_eq_true _ ▸ hfree)
  | requesting =>
    rw [hphase] at hstep
    cases outcome with
    | failed =>
      cases hstep
      exact h.of_dropReservation call.track
    | accepted mid =>
      dsimp only at hstep
      split at hstep
      · cases hstep
      · next hfresh =>
        cases hstep
        exact h.of_accepted call hfresh
  | answered mid =>
    rw [hphase] at hstep
    cases hstep
    exact h.of_answered hcall hphase
  | applying =>
    rw [hphase] at hstep
    cases outcome with
    | failed =>
      cases hstep
      exact h.of_dropReservation call.track
    | accepted mid =>
      cases hstep
      exact h

lemma calls_negotiate (hstep : b.negotiate call outcome = some after) :
    after.1.calls = b.calls := by
  unfold negotiate at hstep
  cases hphase : call.phase with
  | reserved =>
    rw [hphase] at hstep
    dsimp only at hstep
    repeat' split at hstep
    all_goals first
      | cases hstep; rfl
      | cases hstep
  | requesting =>
    rw [hphase] at hstep
    cases outcome with
    | failed => cases hstep; rfl
    | accepted mid =>
      dsimp only at hstep
      split at hstep
      · cases hstep
      · cases hstep; rfl
  | answered mid => rw [hphase] at hstep; cases hstep; rfl
  | applying => rw [hphase] at hstep; cases outcome <;> cases hstep <;> rfl

lemma callKnown_negotiate (hcall : b.CallKnown call)
    (hafter : ∀ other ∈ b.calls, after.1.CallKnown other) (hmem : call ∈ b.calls)
    (hstep : b.negotiate call outcome = some after) {phase : SubscribePhase}
    (hnext : after.2 = some phase) : after.1.CallKnown { call with phase } := by
  have hold := hafter call hmem
  unfold negotiate at hstep
  cases hphase : call.phase with
  | reserved =>
    rw [hphase] at hstep
    dsimp only at hstep
    split at hstep
    · cases hstep
    · split at hstep
      · cases hstep
        cases hnext
      · cases hstep
        cases hnext
        refine ⟨hcall.reserved, (fun mid hanswered => by cases hanswered), fun _ p hget => ?_⟩
        have hset := (KeyedMap.get?_set_self b.pending
          { track := call.track, call := call.id }).symm.trans hget
        cases hset
        rfl
  | requesting =>
    have howns := hold.owns (by rw [hphase]; rfl)
    rw [hphase] at hstep
    cases outcome with
    | failed => cases hstep; cases hnext
    | accepted mid =>
      dsimp only at hstep
      split at hstep
      · cases hstep
      · cases hstep
        cases hnext
        refine ⟨hcall.reserved, fun other hanswered => ?_, fun _ => howns⟩
        cases hanswered
        exact List.mem_append.mpr (Or.inr (List.mem_singleton.mpr rfl))
  | answered mid =>
    have howns := hold.owns (by rw [hphase]; rfl)
    rw [hphase] at hstep
    cases hstep
    cases hnext
    exact ⟨hcall.reserved, (fun other hanswered => by cases hanswered), fun _ => howns⟩
  | applying =>
    rw [hphase] at hstep
    cases outcome with
    | failed | accepted mid => cases hstep; cases hnext

lemma of_negotiate? (h : b.Invariant) {index : ℕ}
    (hstep : b.negotiate? index outcome = some b') : b'.Invariant := by
  unfold negotiate? at hstep
  cases hget : b.calls[index]? with
  | none => rw [hget] at hstep; cases hstep
  | some call =>
    rw [hget] at hstep
    obtain ⟨after, hafter, rfl⟩ := Option.map_eq_some_iff.mp hstep
    have hmem := List.mem_of_getElem? hget
    have hcall := h.calls call hmem
    have hnext := h.of_negotiate hcall hafter
    have hcalls : ∀ other ∈ b.calls, after.1.CallKnown other := by
      rw [← calls_negotiate hafter]
      exact hnext.calls
    refine hnext.of_calls fun other hother => ?_
    rcases List.mem_updateIdx hother with hold | hnew
    · exact hcalls other hold
    · obtain ⟨phase, hphase, rfl⟩ := Option.map_eq_some_iff.mp hnew
      exact callKnown_negotiate hcall hcalls hmem hafter hphase

/-! ### Audio -/

lemma of_bindTrack (h : b.Invariant) {p : PendingTrack}
    (hp : p ∈ b.pending.values) (hexpected : p.expectedMid = some mid)
    (hcall : ∀ sub, b.subs.get? p.track.subscriptionKey = some sub → sub.call = p.call) :
    (b.bindTrack mid p).Invariant := by
  have hpending : ∀ q ∈ (b.pending.erase p.track.subscriptionKey).values, q ∈ b.pending.values :=
    fun q hq => (KeyedMap.mem_erase.mp hq).1
  obtain ⟨hreserved, hknown⟩ := h.pending p hp
  obtain ⟨-, hnegotiated⟩ := hknown mid hexpected
  unfold bindTrack
  dsimp only
  cases hget : b.subs.get? p.track.subscriptionKey with
  | none => exact h.of_forget (fun _ hsub => hsub) hpending
  | some sub =>
    have hsame : sub.call = p.call := hcall sub hget
    -- The call has reserved one track, which is that of the subscription, too.
    have hsub := (h.subs sub (KeyedMap.mem_of_get? hget)).reserved
    have htrack : sub.track = p.track := by
      rw [hsame, hreserved] at hsub
      exact (Option.some.inj hsub).symm
    have hbind : ∀ other ∈ (b.subs.modify p.track.subscriptionKey (Subscription.bind mid)
        (Subscription.key_bind mid)).values, b.SubscriptionKnown other := by
      intro other hother
      rcases KeyedMap.mem_modify.mp hother with ⟨old, hold, hkey, rfl⟩ | ⟨hold, -⟩
      · have hget' : b.subs.get? p.track.subscriptionKey = some old :=
          KeyedMap.get?_eq_some_iff.mpr ⟨hold, hkey⟩
        obtain rfl : old = sub := Option.some.inj (hget'.symm.trans hget)
        refine ⟨(h.subs old hold).reserved, fun _ => ?_⟩
        show ⟨old.call, old.track, mid⟩ ∈ b.negotiated
        rw [hsame, htrack]
        exact hnegotiated
      · exact h.subs other hold
    have htables : Invariant { b with
        subs := b.subs.modify p.track.subscriptionKey (Subscription.bind mid)
          (Subscription.key_bind mid)
        pending := b.pending.erase p.track.subscriptionKey } :=
      h.of_tables hbind (fun q hq => h.pending q (hpending q hq)) (h.owns_of_mem hpending)
    refine htables.of_heard (fun bound hbound => ?_) h.delivered
    rcases List.mem_append.mp hbound with hold | hnew
    · exact h.bound bound hold
    · rw [List.mem_singleton.mp hnew]
      refine ⟨p.track, ?_, rfl⟩
      show ⟨sub.call, p.track, mid⟩ ∈ b.negotiated
      rw [hsame]
      exact hnegotiated

lemma of_handleIncomingTrack (h : b.Invariant) {pick : Option String}
    (hguard : b.bindsExpected (.incomingTrack mid pick) = true)
    (hstep : b.handleIncomingTrack mid pick = some b') : b'.Invariant := by
  cases pick with
  | none =>
    unfold handleIncomingTrack at hstep
    dsimp only at hstep
    split at hstep
    · cases hstep
    · cases hstep
      exact h
  | some key =>
    unfold handleIncomingTrack at hstep
    unfold bindsExpected at hguard
    dsimp only at hstep hguard
    cases hget : b.pending.get? key with
    | none => rw [hget] at hstep; cases hstep
    | some p =>
      rw [hget] at hstep hguard
      dsimp only at hstep
      rw [Option.ite_none_right_eq_some] at hstep
      obtain ⟨haccepts, hstep⟩ := hstep
      cases hstep
      rw [Option.all_some, Bool.and_eq_true] at hguard
      obtain ⟨hsome, hcalls⟩ := hguard
      obtain ⟨expected, hexpected⟩ := Option.isSome_iff_exists.mp hsome
      have hmid : expected = mid := by
        rw [accepts, hexpected, Option.all_some, decide_eq_true_eq] at haccepts
        exact haccepts
      have hkey : p.track.subscriptionKey = key := KeyedMap.key_of_get? hget
      refine h.of_bindTrack (KeyedMap.mem_of_get? hget) (hexpected.trans (by rw [hmid]))
        fun sub hsub => ?_
      rw [hkey] at hsub
      rw [hsub, Option.all_some, decide_eq_true_eq] at hcalls
      exact hcalls

lemma of_handleAudioFrame (h : b.Invariant) {pick : Option String}
    (hguard : b.bindsExpected (.audioFrame mid pick) = true)
    (hstep : b.handleAudioFrame mid pick = some b') : b'.Invariant := by
  cases pick with
  | none =>
    unfold handleAudioFrame at hstep
    dsimp only at hstep
    split at hstep
    · cases hstep
    · cases hstep
      exact h
  | some key =>
    unfold handleAudioFrame at hstep
    dsimp only at hstep
    cases hget : b.subs.get? key with
    | none => rw [hget] at hstep; cases hstep
    | some sub =>
      rw [hget] at hstep
      dsimp only at hstep
      rw [Option.ite_none_right_eq_some] at hstep
      obtain ⟨rfl, hstep⟩ := hstep
      cases hstep
      have hne : sub.mid ≠ "" := of_decide_eq_true hguard
      have hbound := (h.subs sub (KeyedMap.mem_of_get? hget)).bound hne
      refine h.of_heard h.bound fun frame hframe => ?_
      rcases List.mem_append.mp hframe with hold | hnew
      · exact h.delivered frame hold
      · rw [List.mem_singleton.mp hnew]
        exact ⟨sub.call, sub.track, hbound, rfl⟩

lemma of_next (h : b.Invariant) {label : BridgeStep} (hguard : b.bindsExpected label = true)
    (hstep : b.next? label = some b') : b'.Invariant := by
  cases label with
  | reconcileEnded live => cases hstep; exact h.of_reconcileEnded live
  | subscribe track => cases hstep; exact h.of_subscribe track
  | negotiate index outcome => exact h.of_negotiate? hstep
  | incomingTrack mid pick => exact h.of_handleIncomingTrack hguard hstep
  | audioFrame mid pick => exact h.of_handleAudioFrame hguard hstep
  | clearRemoteSubscriptions | stop =>
    cases hstep
    exact h.of_forget (fun _ hsub => absurd hsub List.not_mem_nil)
      (fun _ hp => absurd hp List.not_mem_nil)

lemma init : Invariant {} where
  calls := fun _ h => absurd h List.not_mem_nil
  pending := fun _ h => absurd h List.not_mem_nil
  subs := fun _ h => absurd h List.not_mem_nil
  distinct := fun _ h => absurd h List.not_mem_nil
  bound := fun _ h => absurd h List.not_mem_nil
  delivered := fun _ h => absurd h List.not_mem_nil

end Invariant

end BridgeRun

/-! ## Runs -/

/-- In every run in which tracks are bound as expected, audio is attributed to its speaker. -/
theorem attributed_of_bindsExpected {b : BridgeRun}
    (h : bridgeSystem.ReachableWhen (fun b label => b.bindsExpected label = true) b) :
    b.Attributed := by
  refine BridgeRun.Invariant.attributed (h.invariant ?_ ?_)
  · rintro _ rfl
    exact BridgeRun.Invariant.init
  · exact fun _ _ _ hinvariant hguard hstep => hinvariant.of_next hguard hstep

/-- The track of a Human. -/
def alicesTrack : AudioTrack where
  participantID := "alice"
  participantName := "Alice"
  sessionID := "session"
  trackName := "audio"

/-- The track of another Human. -/
def bobsTrack : AudioTrack where
  participantID := "bob"
  participantName := "Bob"
  sessionID := "session"
  trackName := "audio"

/-- The labels under which both are subscribed to, and the negotiation of the first is over. -/
def negotiatedFirst : List BridgeStep :=
  [.subscribe alicesTrack, .subscribe bobsTrack, .negotiate 0 .failed, .negotiate 0 (.accepted "0"),
    .negotiate 0 .failed, .negotiate 0 (.accepted "")]

/-- A frame of audio is delivered with the identity of its Human. -/
theorem attributed_delivered : ∃ b,
    TransitionSystem.runWhen? BridgeRun.next? BridgeRun.bindsExpected {}
      (negotiatedFirst ++ [.incomingTrack "0" (some "alice:session:audio"),
        .audioFrame "0" (some "alice:session:audio")]) = some b ∧
      b.delivered = [("0", alicesTrack.source)] ∧ b.Attributed := by
  have hrun : (TransitionSystem.runWhen? BridgeRun.next? BridgeRun.bindsExpected {}
      (negotiatedFirst ++ [.incomingTrack "0" (some "alice:session:audio"),
        .audioFrame "0" (some "alice:session:audio")])).any
      (fun b => decide (b.delivered = [("0", alicesTrack.source)])) = true := by
    decide +kernel
  obtain ⟨b, hb, hdelivered⟩ := (Option.any_eq_true _ _).mp hrun
  refine ⟨b, hb, of_decide_eq_true hdelivered, attributed_of_bindsExpected ?_⟩
  exact TransitionSystem.reachableWhen_of_runWhen (fun _ _ _ h => h) rfl hb

/-- The labels of a run in which the track of a silent Human arrives while that of another one is
negotiated. -/
def arrivedLate : List BridgeStep :=
  negotiatedFirst ++ [.negotiate 0 .failed, .incomingTrack "0" (some "bob:session:audio"),
    .audioFrame "0" (some "bob:session:audio")]

/-- Audio is not attributed to its speaker in every run. The track of a Human is bound to the
subscription that is negotiated at this time, and delivered under its name. -/
theorem not_attributed_fallback : ¬ ∀ b, bridgeSystem.Reachable b → b.Attributed := by
  intro hall
  have hrun : (TransitionSystem.runWhen? BridgeRun.next? (fun _ _ => true) {}
      arrivedLate).any (fun b => decide (b.negotiated = [⟨0, alicesTrack, "0"⟩] ∧
        b.delivered = [("0", bobsTrack.source)])) = true := by
    decide +kernel
  obtain ⟨b, hb, hboth⟩ := (Option.any_eq_true _ _).mp hrun
  obtain ⟨hnegotiated, hdelivered⟩ := of_decide_eq_true hboth
  have hattributed := hall b (TransitionSystem.reachable_of_runWhen (fun _ _ _ h => h) rfl hb)
  obtain ⟨call, track, hmem, hsource⟩ := hattributed.delivered ("0", bobsTrack.source)
    (by rw [hdelivered]; exact List.mem_singleton.mpr rfl)
  -- The only MID was returned for the track of the other Human.
  rw [hnegotiated] at hmem
  have htrack : track = alicesTrack :=
    congrArg NegotiatedMid.track (List.mem_singleton.mp hmem)
  rw [htrack] at hsource
  exact absurd hsource (by decide)

end Free4Chat
