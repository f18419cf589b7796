import Free4Chat.Runtime.Advance

/-!
# The Parts of a Ledger Agree

What the three parts of a ledger, its order, its contexts and its watermark, say together. Each
operation on ledgers keeps this, and each step of the Runtime, unless it makes up a context for an
instruction that has already left.

* `LogicalSession.Consistent`: the order, the contexts and the watermark agree.
* `LedgerChange.isDelivered` and `LedgerChange.mem_pendingAddressed`: where marks and instructions
  come from.
* `LedgerChange.leaves`: the ways in which an instruction leaves a ledger.
* `LedgerChange.consistent`: a step that looks up no context in vain keeps a ledger consistent.
* `LogicalSession.Sound` and `LedgerChange.sound`: the part of consistency that every step keeps.
* `LedgerChange.isDelivered_mono`: a mark stays as long as its instruction waits.
-/

namespace Free4Chat

lemma foldl_max_lt_iff {l : List ℕ} {a b : ℕ} : l.foldl max a < b ↔ a < b ∧ ∀ x ∈ l, x < b := by
  induction l generalizing a with
  | nil => simp
  | cons x l ih =>
    rw [List.foldl_cons, ih, Nat.max_lt, List.forall_mem_cons, and_assoc]

/-! ## One ledger -/

/-- The order of a ledger, its contexts and its watermark agree. -/
structure LogicalSession.Consistent (session : LogicalSession) (received : ℕ) : Prop where
  increasing : session.pendingAddressed.Pairwise (· < ·)
  bounded : session.pendingAddressed.length ≤ maxPendingTurns
  contexts : ∀ sequence, sequence ∈ session.pendingContexts.keys ↔
    sequence ∈ session.pendingAddressed
  watermark : ∀ sequence ∈ session.pendingAddressed, session.deliveredThrough < sequence
  received : ∀ sequence ∈ session.pendingAddressed, sequence ≤ received

namespace LogicalSession

variable {session : LogicalSession} {received target : ℕ}

lemma Consistent.of_empty (hpending : session.pendingAddressed = [])
    (hcontexts : session.pendingContexts = .empty) : session.Consistent received := by
  refine ⟨?_, ?_, fun sequence => ?_, ?_, ?_⟩
  · rw [hpending]
    exact List.Pairwise.nil
  · rw [hpending]
    exact Nat.zero_le _
  · rw [hpending, hcontexts]
    rfl
  all_goals
    rw [hpending]
    exact fun _ hmem => absurd hmem List.not_mem_nil

namespace Consistent

section

variable (h : session.Consistent received)
include h

lemma congr {other : LogicalSession} (hpending : other.pendingAddressed = session.pendingAddressed)
    (hcontexts : other.pendingContexts.keys = session.pendingContexts.keys)
    (hwatermark : other.deliveredThrough ≤ session.deliveredThrough) :
    other.Consistent received := by
  refine ⟨hpending ▸ h.increasing, hpending ▸ h.bounded, fun sequence => ?_, ?_,
    hpending ▸ h.received⟩
  · rw [hcontexts, hpending]
    exact h.contexts sequence
  · rw [hpending]
    exact fun sequence hmem => hwatermark.trans_lt (h.watermark sequence hmem)

lemma mono {later : ℕ} (hle : received ≤ later) : session.Consistent later :=
  { h with received := fun sequence hmem => (h.received sequence hmem).trans hle }

lemma accept {scope : String} {buffer : List RoomEvent}
    {event : RoomEvent} (haccepts : session.accepts event = true)
    (hnew : received < event.sequence) :
    (session.accept scope buffer event.sequence).Consistent event.sequence := by
  simp only [LogicalSession.accepts, Bool.and_eq_true, decide_eq_true_iff] at haccepts
  obtain ⟨⟨⟨-, hstart⟩, -⟩, hroom⟩ := haccepts
  have hbelow : session.deliveredThrough < event.sequence := (le_max_left _ _).trans_lt hstart
  have hlast : ∀ sequence ∈ session.pendingAddressed, sequence < event.sequence :=
    fun sequence hmem => (h.received sequence hmem).trans_lt hnew
  refine ⟨?_, ?_, fun sequence => ?_, fun sequence hmem => ?_, fun sequence hmem => ?_⟩
  · show (session.pendingAddressed ++ [event.sequence]).Pairwise (· < ·)
    rw [List.pairwise_append]
    refine ⟨h.increasing, List.pairwise_singleton _ _, fun sequence hmem later hlater => ?_⟩
    rw [List.mem_singleton.mp hlater]
    exact hlast sequence hmem
  · show (session.pendingAddressed ++ [event.sequence]).length ≤ maxPendingTurns
    rw [List.length_append, List.length_singleton]
    exact hroom
  · show sequence ∈ (session.pendingContexts.set _).keys ↔
      sequence ∈ session.pendingAddressed ++ [event.sequence]
    rw [KeyedMap.mem_keys_set, h.contexts, List.mem_append, List.mem_singleton, or_comm]
    rfl
  · rcases List.mem_append.mp hmem with hmem | hmem
    · exact h.watermark sequence hmem
    · rw [List.mem_singleton.mp hmem]
      exact hbelow
  · rcases List.mem_append.mp hmem with hmem | hmem
    · exact (hlast sequence hmem).le
    · exact (List.mem_singleton.mp hmem).le

lemma lookUp_eq {scope : String} {buffer : List RoomEvent}
    (hheld : target ∈ session.pendingAddressed) : session.lookUp scope buffer target = session := by
  have hkey := (h.contexts target).mpr hheld
  rw [KeyedMap.mem_keys_iff] at hkey
  rw [LogicalSession.lookUp, KeyedMap.contains, hkey, if_pos rfl]

lemma recover {events : List RoomEvent} : (session.recover target events).Consistent received :=
  h.congr rfl (by simp [LogicalSession.recover]) le_rfl

lemma markSteerPriority : (session.markSteerPriority target).Consistent received :=
  h.congr rfl (by simp [LogicalSession.markSteerPriority]) le_rfl

lemma observe {generation : ℕ} : (session.observe generation target).Consistent received := by
  unfold LogicalSession.observe
  split_ifs
  · exact h
  · exact h.congr rfl rfl le_rfl
  · exact h
  · exact h.congr rfl rfl le_rfl
  · exact h.congr rfl rfl le_rfl
  · exact h.congr rfl rfl (Nat.zero_le _)
  · exact h.congr rfl rfl le_rfl

lemma ackPending : (session.ackPending target).Consistent received := by
  unfold LogicalSession.ackPending
  split
  next =>
    have hsub : ∀ sequence ∈ session.pendingAddressed.erase target,
        sequence ∈ session.pendingAddressed := fun sequence => List.mem_of_mem_erase
    have hnodup : session.pendingAddressed.Nodup := h.increasing.imp fun hlt => hlt.ne
    refine ⟨h.increasing.sublist List.erase_sublist,
      (List.erase_sublist.length_le).trans h.bounded, fun sequence => ?_,
      fun sequence hmem => h.watermark sequence (hsub sequence hmem),
      fun sequence hmem => h.received sequence (hsub sequence hmem)⟩
    show sequence ∈ (session.pendingContexts.erase target).keys ↔
      sequence ∈ session.pendingAddressed.erase target
    rw [KeyedMap.mem_keys_erase, h.contexts, hnodup.mem_erase_iff, and_comm]
  next => exact h

lemma discard : session.discard.Consistent received := by
  refine ⟨List.Pairwise.nil, Nat.zero_le _, fun sequence => ?_,
    fun _ hmem => absurd hmem List.not_mem_nil, fun _ hmem => absurd hmem List.not_mem_nil⟩
  refine (KeyedMap.mem_keys_filter (q := fun k => decide (k ∉ session.pendingAddressed))
    fun _ => rfl).trans ?_
  rw [h.contexts, decide_eq_true_iff]
  exact ⟨fun hboth => absurd hboth.1 hboth.2, fun hmem => absurd hmem List.not_mem_nil⟩

lemma collapseDeliveredPrefix : session.collapseDeliveredPrefix.Consistent received := by
  have hsplit := List.takeWhile_append_dropWhile
    (p := fun sequence =>
      session.isDelivered sequence || !session.pendingContexts.contains sequence)
    (l := session.pendingAddressed)
  have hincreasing := h.increasing
  rw [← hsplit, List.pairwise_append] at hincreasing
  obtain ⟨-, hrest, hbetween⟩ := hincreasing
  have hsub : ∀ sequence ∈ session.collapseDeliveredPrefix.pendingAddressed,
      sequence ∈ session.pendingAddressed :=
    fun sequence hmem => (List.dropWhile_suffix _).subset hmem
  refine ⟨hrest, ((List.dropWhile_suffix _).length_le).trans h.bounded, fun sequence => ?_,
    fun sequence hmem => ?_, fun sequence hmem => h.received sequence (hsub sequence hmem)⟩
  · refine (KeyedMap.mem_keys_filter (q := fun k => decide (k ∉ session.deliveredPrefix))
      fun _ => rfl).trans ?_
    rw [h.contexts, decide_eq_true_iff]
    constructor
    · rintro ⟨hmem, hnot⟩
      rw [← hsplit, List.mem_append] at hmem
      exact hmem.resolve_left hnot
    · exact fun hmem => ⟨hsub sequence hmem, fun hhead => (hbetween _ hhead _ hmem).false⟩
  · show session.deliveredPrefix.foldl max session.deliveredThrough < sequence
    rw [foldl_max_lt_iff]
    exact ⟨h.watermark sequence (hsub sequence hmem),
      fun earlier hearlier => hbetween earlier hearlier sequence hmem⟩

lemma recordDelivery {through : ℕ} :
    (session.recordDelivery target through).Consistent received := by
  unfold LogicalSession.recordDelivery
  split_ifs with hcontext hempty
  · exact h.congr rfl (by simp [LogicalSession.markDelivered]) le_rfl
  · -- Nothing waits, so the watermark passes nothing.
    have hpending := hempty.1
    exact ⟨h.increasing, h.bounded, h.contexts,
      fun sequence hmem => absurd (hpending ▸ hmem) List.not_mem_nil, h.received⟩
  · exact h

lemma acknowledge {through generation : ℕ} :
    (session.acknowledge target through generation).Consistent received := by
  have hbootstrap : (session.bootstrap generation).Consistent received := by
    unfold LogicalSession.bootstrap
    split
    · exact h.congr rfl rfl le_rfl
    · exact h
  exact hbootstrap.recordDelivery.collapseDeliveredPrefix

end

end Consistent

end LogicalSession

namespace LogicalSession

variable {session : LogicalSession} {scope : String} {sequence target : ℕ}

/-! ## Marks -/

@[simp]
lemma isDelivered_lookUp {buffer : List RoomEvent} :
    (session.lookUp scope buffer target).isDelivered sequence = session.isDelivered sequence := by
  unfold lookUp
  split
  · rfl
  next hmissing =>
    have hnone : session.pendingContexts.get? target = none := by
      rw [KeyedMap.contains, Bool.not_eq_true, Option.isSome_eq_false_iff] at hmissing
      exact Option.isNone_iff_eq_none.mp hmissing
    have hcontext : session.contextOf scope buffer target =
        { after := session.effectiveDeliveryStart, target
          events := eventsForScope buffer scope session.effectiveDeliveryStart target } := by
      rw [contextOf, hnone, Option.getD_none]
    rw [isDelivered, isDelivered, hcontext, KeyedMap.get?_set, PendingTurnContext.key_eq]
    split
    next hsame =>
      rw [← hsame, hnone]
      rfl
    next => rfl

lemma isDelivered_accept {buffer : List RoomEvent} :
    (session.accept scope buffer target).isDelivered sequence =
      (decide (target ≠ sequence) && session.isDelivered sequence) := by
  rw [isDelivered, isDelivered, accept]
  dsimp only
  rw [KeyedMap.get?_set, PendingTurnContext.key_eq]
  by_cases hsame : target = sequence
  · subst hsame
    simp [contextFor]
  · simp [contextFor, hsame]

@[simp]
lemma isDelivered_recover {events : List RoomEvent} :
    (session.recover target events).isDelivered sequence = session.isDelivered sequence := by
  rw [isDelivered, isDelivered, recover]
  dsimp only
  rw [KeyedMap.get?_modify]
  split
  · rw [Option.map_map]
    congr 2
    funext context
    dsimp only [Function.comp]
    split <;> rfl
  · rfl

@[simp]
lemma isDelivered_markSteerPriority :
    (session.markSteerPriority target).isDelivered sequence = session.isDelivered sequence := by
  rw [isDelivered, isDelivered, markSteerPriority]
  dsimp only
  rw [KeyedMap.get?_modify]
  split
  · rw [Option.map_map]
    rfl
  · rfl

@[simp]
lemma isDelivered_observe {generation : ℕ} :
    (session.observe generation target).isDelivered sequence = session.isDelivered sequence := by
  unfold observe
  split_ifs <;> rfl

lemma isDelivered_of_filter {p : PendingTurnContext → Bool} {other : LogicalSession}
    (hcontexts : other.pendingContexts = session.pendingContexts.filter p)
    (h : other.isDelivered sequence = true) : session.isDelivered sequence = true := by
  rw [isDelivered, hcontexts, KeyedMap.get?_filter] at h
  rw [isDelivered]
  cases hcontext : session.pendingContexts.get? sequence with
  | none =>
    rw [hcontext] at h
    exact absurd h Bool.false_ne_true
  | some context =>
    rw [hcontext, Option.filter_some] at h
    split at h
    · exact h
    · exact absurd h Bool.false_ne_true

lemma isDelivered_markDelivered : (session.markDelivered target).isDelivered sequence =
      (session.isDelivered sequence ||
        (decide (target = sequence) && session.pendingContexts.contains sequence)) := by
  rw [isDelivered, isDelivered, markDelivered, KeyedMap.contains]
  dsimp only
  rw [KeyedMap.get?_modify]
  by_cases hsame : target = sequence
  · subst hsame
    cases session.pendingContexts.get? target <;> simp
  · simp [hsame]

lemma isDelivered_of_recordDelivery {through : ℕ}
    (h : (session.recordDelivery target through).isDelivered sequence = true) :
    session.isDelivered sequence = true ∨ sequence = target := by
  unfold recordDelivery at h
  split_ifs at h with hcontext hempty
  · rw [isDelivered_markDelivered, Bool.or_eq_true, Bool.and_eq_true, decide_eq_true_iff] at h
    exact h.imp id fun hboth => hboth.1.symm
  · exact Or.inl h
  · exact Or.inl h

@[simp]
lemma isDelivered_bootstrap {generation : ℕ} :
    (session.bootstrap generation).isDelivered sequence = session.isDelivered sequence := by
  unfold bootstrap
  split <;> rfl

variable {through generation : ℕ}

lemma isDelivered_of_acknowledge
    (h : (session.acknowledge target through generation).isDelivered sequence = true) :
    session.isDelivered sequence = true ∨ sequence = target := by
  have hrecorded := isDelivered_of_filter rfl h
  have hmarked := isDelivered_of_recordDelivery hrecorded
  rwa [isDelivered_bootstrap] at hmarked

lemma isDelivered_of_notMem_acknowledge (hmem : sequence ∈ session.pendingAddressed)
    (hheld : ∀ sequence ∈ session.pendingAddressed, sequence ∈ session.pendingContexts.keys)
    (hleft : sequence ∉ (session.acknowledge target through generation).pendingAddressed) :
    session.isDelivered sequence = true ∨ sequence = target := by
  have hpending : ((session.bootstrap generation).recordDelivery target through).pendingAddressed =
      session.pendingAddressed := by
    unfold recordDelivery bootstrap
    split_ifs <;> rfl
  have hkeys : ((session.bootstrap generation).recordDelivery target through).pendingContexts.keys =
      session.pendingContexts.keys := by
    unfold recordDelivery bootstrap
    split_ifs <;> simp [markDelivered]
  -- The instruction is in the part of the order that is removed.
  rw [acknowledge, collapseDeliveredPrefix] at hleft
  dsimp only at hleft
  have hremoved : ((session.bootstrap generation).recordDelivery target through).isDelivered
      sequence = true := by
    have hsplit := List.takeWhile_append_dropWhile
      (p := fun sequence =>
        ((session.bootstrap generation).recordDelivery target through).isDelivered sequence ||
        !((session.bootstrap generation).recordDelivery target through).pendingContexts.contains
          sequence)
      (l := ((session.bootstrap generation).recordDelivery target through).pendingAddressed)
    rw [← hpending, ← hsplit, List.mem_append] at hmem
    have htaken := List.mem_takeWhile_imp (hmem.resolve_right hleft)
    rw [Bool.or_eq_true] at htaken
    refine htaken.resolve_right fun hmissing => ?_
    have hkey := hheld sequence (hpending ▸ (List.takeWhile_prefix _).subset
      (hmem.resolve_right hleft))
    rw [← hkeys, KeyedMap.mem_keys_iff] at hkey
    rw [KeyedMap.contains, hkey] at hmissing
    exact absurd hmissing Bool.false_ne_true
  have hmarked := isDelivered_of_recordDelivery hremoved
  rwa [isDelivered_bootstrap] at hmarked

lemma mem_of_mem_acknowledge
    (h : sequence ∈ (session.acknowledge target through generation).pendingAddressed) :
    sequence ∈ session.pendingAddressed := by
  have hpending : ((session.bootstrap generation).recordDelivery target through).pendingAddressed =
      session.pendingAddressed := by
    unfold recordDelivery bootstrap
    split_ifs <;> rfl
  rw [← hpending]
  exact (List.dropWhile_suffix _).subset h

end LogicalSession

/-! ## Instructions that wait hold their contexts -/

/-- The instructions of a ledger are in order, and each has a context. Unlike consistency, this does
not ask where contexts without instruction come from. -/
structure LogicalSession.Sound (session : LogicalSession) (received : ℕ) : Prop where
  increasing : session.pendingAddressed.Pairwise (· < ·)
  held : ∀ sequence ∈ session.pendingAddressed, sequence ∈ session.pendingContexts.keys
  received : ∀ sequence ∈ session.pendingAddressed, sequence ≤ received

namespace LogicalSession.Sound

variable {session : LogicalSession} {received target sequence : ℕ}

lemma of_empty (hpending : session.pendingAddressed = []) : session.Sound received := by
  constructor
  all_goals rw [hpending]
  · exact List.Pairwise.nil
  all_goals exact fun _ hmem => absurd hmem List.not_mem_nil

section

variable (h : session.Sound received)
include h

lemma of_sublist {other : LogicalSession}
    (hpending : other.pendingAddressed.Sublist session.pendingAddressed)
    (hcontexts : ∀ sequence ∈ other.pendingAddressed, sequence ∈ session.pendingContexts.keys →
      sequence ∈ other.pendingContexts.keys) : other.Sound received :=
  ⟨h.increasing.sublist hpending,
    fun sequence hmem => hcontexts sequence hmem (h.held sequence (hpending.subset hmem)),
    fun sequence hmem => h.received sequence (hpending.subset hmem)⟩

lemma congr {other : LogicalSession} (hpending : other.pendingAddressed = session.pendingAddressed)
    (hcontexts : session.pendingContexts.keys ⊆ other.pendingContexts.keys) :
    other.Sound received :=
  h.of_sublist (hpending ▸ .refl _) fun _ _ hkey => hcontexts hkey

lemma mono {later : ℕ} (hle : received ≤ later) : session.Sound later :=
  { h with received := fun sequence hmem => (h.received sequence hmem).trans hle }

lemma accept {scope : String} {buffer : List RoomEvent} {later : ℕ}
    (hnew : received < later) : (session.accept scope buffer later).Sound later := by
  have hlast : ∀ sequence ∈ session.pendingAddressed, sequence < later :=
    fun sequence hmem => (h.received sequence hmem).trans_lt hnew
  refine ⟨?_, fun sequence hmem => ?_, fun sequence hmem => ?_⟩
  · show (session.pendingAddressed ++ [later]).Pairwise (· < ·)
    rw [List.pairwise_append]
    refine ⟨h.increasing, List.pairwise_singleton _ _, fun sequence hmem last hmemLast => ?_⟩
    rw [List.mem_singleton.mp hmemLast]
    exact hlast sequence hmem
  · show sequence ∈ (session.pendingContexts.set _).keys
    rw [KeyedMap.mem_keys_set]
    rcases List.mem_append.mp hmem with hmem | hmem
    · exact Or.inr (h.held sequence hmem)
    · exact Or.inl (List.mem_singleton.mp hmem)
  · rcases List.mem_append.mp hmem with hmem | hmem
    · exact (hlast sequence hmem).le
    · exact (List.mem_singleton.mp hmem).le

lemma lookUp {scope : String} {buffer : List RoomEvent} :
    (session.lookUp scope buffer target).Sound received := by
  unfold LogicalSession.lookUp
  split
  · exact h
  · exact h.congr rfl fun _ hkey => KeyedMap.mem_keys_set.mpr (Or.inr hkey)

lemma recover {events : List RoomEvent} : (session.recover target events).Sound received :=
  h.congr rfl (by simp [LogicalSession.recover])

lemma markSteerPriority : (session.markSteerPriority target).Sound received :=
  h.congr rfl (by simp [LogicalSession.markSteerPriority])

lemma observe {generation : ℕ} : (session.observe generation target).Sound received := by
  unfold LogicalSession.observe
  split_ifs
  · exact h
  · exact h.congr rfl fun _ => id
  · exact h
  all_goals exact h.congr rfl fun _ => id

lemma ackPending : (session.ackPending target).Sound received := by
  unfold LogicalSession.ackPending
  split
  next =>
    have hnodup : session.pendingAddressed.Nodup := h.increasing.imp fun hlt => hlt.ne
    refine h.of_sublist List.erase_sublist fun sequence hmem hkey => ?_
    exact KeyedMap.mem_keys_erase.mpr ⟨hkey, (hnodup.mem_erase_iff.mp hmem).1⟩
  next => exact h

lemma notMem_deliveredPrefix (hmem : sequence ∈ session.collapseDeliveredPrefix.pendingAddressed) :
    sequence ∉ session.deliveredPrefix := by
  have hincreasing := h.increasing
  rw [← List.takeWhile_append_dropWhile
    (p := fun sequence =>
      session.isDelivered sequence || !session.pendingContexts.contains sequence)
    (l := session.pendingAddressed), List.pairwise_append] at hincreasing
  exact fun hhead => (hincreasing.2.2 _ hhead _ hmem).false

lemma collapseDeliveredPrefix : session.collapseDeliveredPrefix.Sound received := by
  refine h.of_sublist (List.dropWhile_sublist _) fun sequence hmem hkey => ?_
  refine (KeyedMap.mem_keys_filter (q := fun k => decide (k ∉ session.deliveredPrefix))
    fun _ => rfl).mpr ⟨hkey, ?_⟩
  exact decide_eq_true (h.notMem_deliveredPrefix hmem)

lemma recordDelivery {through generation : ℕ} :
    ((session.bootstrap generation).recordDelivery target through).Sound received := by
  refine h.congr ?_ (fun sequence hkey => ?_)
  · unfold LogicalSession.recordDelivery bootstrap
    split_ifs <;> rfl
  · unfold LogicalSession.recordDelivery bootstrap
    split_ifs <;> simpa [markDelivered] using hkey

lemma isDelivered_acknowledge {through generation : ℕ}
    (hmem : sequence ∈ (session.acknowledge target through generation).pendingAddressed)
    (hmark : session.isDelivered sequence = true ∨ sequence = target) :
    (session.acknowledge target through generation).isDelivered sequence = true := by
  have hheld : sequence ∈ session.pendingContexts.keys :=
    h.held sequence (mem_of_mem_acknowledge hmem)
  have hrecorded : ((session.bootstrap generation).recordDelivery target through).isDelivered
      sequence = true := by
    have hkeys : (session.bootstrap generation).pendingContexts = session.pendingContexts := by
      unfold bootstrap
      split <;> rfl
    unfold LogicalSession.recordDelivery
    rw [hkeys]
    rcases hmark with hmark | rfl
    · split_ifs
      · rw [isDelivered_markDelivered, isDelivered_bootstrap, hmark, Bool.true_or]
      · exact hmark
      · rw [isDelivered_bootstrap]
        exact hmark
    · rw [KeyedMap.mem_keys_iff] at hheld
      rw [KeyedMap.contains, if_pos hheld, isDelivered_markDelivered, hkeys, KeyedMap.contains,
        hheld, decide_eq_true rfl]
      exact Bool.or_true _
  have hsound : ((session.bootstrap generation).recordDelivery target through).Sound received :=
    h.recordDelivery
  have hnot := hsound.notMem_deliveredPrefix hmem
  rw [acknowledge, isDelivered, LogicalSession.collapseDeliveredPrefix]
  dsimp only
  rw [KeyedMap.get?_filter]
  rw [isDelivered] at hrecorded
  cases hcontext : (((session.bootstrap generation).recordDelivery target
      through).pendingContexts.get? sequence) with
  | none =>
    rw [hcontext] at hrecorded
    exact absurd hrecorded Bool.false_ne_true
  | some context =>
    rw [hcontext] at hrecorded
    have hkey : context.target = sequence := KeyedMap.key_of_get? hcontext
    rw [Option.filter_some, if_pos (decide_eq_true (hkey ▸ hnot))]
    exact hrecorded

end

end LogicalSession.Sound

/-! ## The ledgers after a step -/

lemma ResidentRuntime.ensureSession?_cases {r admitted : ResidentRuntime} {scope : String}
    {event : RoomEvent} {session : LogicalSession}
    (h : r.ensureSession? scope event = some (session, admitted)) :
    (∃ before, r.sessionRef? scope = some before ∧
        (session = before ∨ session = before.observeEvent scope r.participantID event)) ∨
      (r.sessionRef? scope = none ∧ session =
        ((r.newSession scope).observeEvent scope r.participantID event).startAt event) := by
  rw [ensureSession?] at h
  split at h
  · cases h
  · split at h
    next before hbefore =>
      obtain ⟨rfl, -⟩ := Prod.mk.inj (Option.some.inj h)
      refine Or.inl ⟨before, hbefore, ?_⟩
      split
      · exact Or.inl rfl
      · exact Or.inr rfl
    next hnone =>
      split at h
      · cases h
      · obtain ⟨rfl, -⟩ := Prod.mk.inj (Option.some.inj h)
        exact Or.inr ⟨hnone, rfl⟩

lemma LogicalSession.startAt_newSession {r : ResidentRuntime} {scope participantID : String}
    {event : RoomEvent} :
    (((r.newSession scope).observeEvent scope participantID event).startAt event).pendingAddressed =
        [] ∧
      (((r.newSession scope).observeEvent scope participantID event).startAt
        event).pendingContexts =
        .empty := by
  unfold startAt observeEvent ResidentRuntime.newSession
  split <;> split <;> exact ⟨rfl, rfl⟩

namespace LedgerChange

variable {wireLength : RoomEvent → ℕ} {s : RuntimeRun} {step : RuntimeStep} {scope : String}
  {sequence : ℕ} {session session' : LogicalSession} {before after : Option LogicalSession}

lemma isDelivered (h : LedgerChange wireLength s step scope before (some session'))
    (hmark : session'.isDelivered sequence = true) :
    (∃ session, before = some session ∧ session.isDelivered sequence = true) ∨
      s.acknowledgedBy? step = some (scope, sequence) := by
  cases h with
  | unchanged => exact Or.inl ⟨session', rfl, hmark⟩
  | @admitted event events cursor session admitted hstep hreader hscope hensured =>
    have hsession : session.isDelivered sequence = true := by
      split at hmark
      · rw [LogicalSession.isDelivered_accept, Bool.and_eq_true] at hmark
        exact hmark.2
      · exact hmark
    rcases ResidentRuntime.ensureSession?_cases hensured with ⟨before, hbefore, hsame⟩ | ⟨-, hnew⟩
    · refine Or.inl ⟨before, hbefore, ?_⟩
      rcases hsame with rfl | rfl <;> exact hsession
    · rw [hnew, LogicalSession.isDelivered, LogicalSession.startAt_newSession.2] at hsession
      exact absurd hsession Bool.false_ne_true
  | looked =>
    rw [LogicalSession.isDelivered_lookUp] at hmark
    exact Or.inl ⟨_, rfl, hmark⟩
  | recovered =>
    rw [LogicalSession.isDelivered_recover] at hmark
    exact Or.inl ⟨_, rfl, hmark⟩
  | acknowledged hacknowledged =>
    rcases LogicalSession.isDelivered_of_acknowledge hmark with hmark | rfl
    · exact Or.inl ⟨_, rfl, hmark⟩
    · exact Or.inr hacknowledged
  | @removed target session =>
    refine Or.inl ⟨session, rfl, ?_⟩
    unfold LogicalSession.ackPending at hmark
    split at hmark
    · exact LogicalSession.isDelivered_of_filter rfl hmark
    · exact hmark
  | discarded =>
    exact Or.inl ⟨_, rfl, LogicalSession.isDelivered_of_filter rfl hmark⟩
  | observed =>
    rw [LogicalSession.isDelivered_observe] at hmark
    exact Or.inl ⟨_, rfl, hmark⟩
  | steered =>
    rw [LogicalSession.isDelivered_markSteerPriority] at hmark
    exact Or.inl ⟨_, rfl, hmark⟩
  | ended =>
    exact Or.inl ⟨_, rfl, hmark⟩
  | stopped =>
    exact absurd hmark Bool.false_ne_true

lemma mem_pendingAddressed (h : LedgerChange wireLength s step scope before (some session'))
    (hmem : sequence ∈ session'.pendingAddressed) :
    (∃ session, before = some session ∧ sequence ∈ session.pendingAddressed) ∨
      ∃ event events cursor, step = .reader .handle ∧
        s.reader = some { events := event :: events, cursor } ∧ sequence = event.sequence := by
  cases h with
  | unchanged => exact Or.inl ⟨session', rfl, hmem⟩
  | @admitted event events cursor session admitted hstep hreader hscope hensured =>
    have hsession : sequence ∈ session.pendingAddressed ∨ sequence = event.sequence := by
      split at hmem
      · exact (List.mem_append.mp hmem).imp id List.mem_singleton.mp
      · exact Or.inl hmem
    rcases hsession with hsession | hnew
    · rcases ResidentRuntime.ensureSession?_cases hensured with ⟨before, hbefore, hsame⟩ | ⟨-, hnew⟩
      · refine Or.inl ⟨before, hbefore, ?_⟩
        rcases hsame with rfl | rfl <;> exact hsession
      · rw [hnew, LogicalSession.startAt_newSession.1] at hsession
        exact absurd hsession List.not_mem_nil
    · exact Or.inr ⟨event, events, cursor, hstep, hreader, hnew⟩
  | looked =>
    unfold LogicalSession.lookUp at hmem
    split at hmem <;> exact Or.inl ⟨_, rfl, hmem⟩
  | acknowledged =>
    exact Or.inl ⟨_, rfl, LogicalSession.mem_of_mem_acknowledge hmem⟩
  | removed =>
    unfold LogicalSession.ackPending at hmem
    split at hmem
    · exact Or.inl ⟨_, rfl, List.mem_of_mem_erase hmem⟩
    · exact Or.inl ⟨_, rfl, hmem⟩
  | discarded | stopped =>
    exact absurd hmem List.not_mem_nil
  | observed =>
    unfold LogicalSession.observe at hmem
    split_ifs at hmem <;> exact Or.inl ⟨_, rfl, hmem⟩
  | recovered | steered | ended =>
    exact Or.inl ⟨_, rfl, hmem⟩

lemma leaves (h : LedgerChange wireLength s step scope (some session) after)
    (hmem : sequence ∈ session.pendingAddressed)
    (hheld : ∀ sequence ∈ session.pendingAddressed, sequence ∈ session.pendingContexts.keys) :
    (∃ session', after = some session' ∧ sequence ∈ session'.pendingAddressed) ∨
      session.isDelivered sequence = true ∨ s.acknowledgedBy? step = some (scope, sequence) ∨
      s.removedBy? step = some (scope, sequence) ∨ s.quarantinedBy? step = some scope ∨
      (step = .stop ∧ scope = roomScope) := by
  generalize hbefore : some session = before at h
  cases h with
  | unchanged => exact Or.inl ⟨session, hbefore.symm, hmem⟩
  | @admitted event events cursor admittedSession admitted hstep hreader hscope hensured =>
    have hsession : sequence ∈ admittedSession.pendingAddressed := by
      rcases ResidentRuntime.ensureSession?_cases hensured with ⟨before, hold, hsame⟩ | ⟨hnone, -⟩
      · rw [← hbefore] at hold
        obtain rfl := Option.some.inj hold
        rcases hsame with rfl | rfl <;> exact hmem
      · rw [← hbefore] at hnone
        cases hnone
    refine Or.inl ⟨_, rfl, ?_⟩
    split
    · exact List.mem_append_left _ hsession
    · exact hsession
  | looked =>
    obtain rfl := Option.some.inj hbefore
    refine Or.inl ⟨_, rfl, ?_⟩
    unfold LogicalSession.lookUp
    split <;> exact hmem
  | @acknowledged target through generation _ hacknowledged =>
    obtain rfl := Option.some.inj hbefore
    by_cases hleft : sequence ∈ (session.acknowledge target through generation).pendingAddressed
    · exact Or.inl ⟨_, rfl, hleft⟩
    · rcases LogicalSession.isDelivered_of_notMem_acknowledge hmem hheld hleft with hmark | rfl
      · exact Or.inr (Or.inl hmark)
      · exact Or.inr (Or.inr (Or.inl hacknowledged))
  | @removed target _ hremoved =>
    obtain rfl := Option.some.inj hbefore
    by_cases hsame : sequence = target
    · rw [hsame]
      exact Or.inr (Or.inr (Or.inr (Or.inl hremoved)))
    · refine Or.inl ⟨_, rfl, ?_⟩
      unfold LogicalSession.ackPending
      split
      · exact (List.mem_erase_of_ne hsame).mpr hmem
      · exact hmem
  | discarded hquarantined => exact Or.inr (Or.inr (Or.inr (Or.inr (Or.inl hquarantined))))
  | observed =>
    obtain rfl := Option.some.inj hbefore
    refine Or.inl ⟨_, rfl, ?_⟩
    unfold LogicalSession.observe
    split_ifs <;> exact hmem
  | released _ hpending =>
    obtain rfl := Option.some.inj hbefore
    rw [hpending] at hmem
    exact absurd hmem List.not_mem_nil
  | stopped hstep hscope => exact Or.inr (Or.inr (Or.inr (Or.inr (Or.inr ⟨hstep, hscope⟩))))
  | recovered | steered | ended =>
    obtain rfl := Option.some.inj hbefore
    exact Or.inl ⟨_, rfl, hmem⟩

/-- A step keeps a ledger consistent, unless it looks up a context that is no longer held. -/
lemma consistent {received received' : ℕ}
    (h : LedgerChange wireLength s step scope before (some session'))
    (hbefore : ∀ session, before = some session → session.Consistent received)
    (hheld : ∀ target session, s.contextReadBy? step = some (scope, target) →
      before = some session → target ∈ session.pendingAddressed) (hle : received ≤ received')
    (hnew : ∀ event events cursor, step = .reader .handle →
      s.reader = some { events := event :: events, cursor } →
      received < event.sequence ∧ received' = event.sequence) :
    session'.Consistent received' := by
  cases h with
  | unchanged => exact (hbefore session' rfl).mono hle
  | @admitted event events cursor session admitted hstep hreader hscope hensured =>
    obtain ⟨hlater, hreceived⟩ := hnew event events cursor hstep hreader
    have hsession : session.Consistent received := by
      rcases ResidentRuntime.ensureSession?_cases hensured with ⟨before, hold, hsame⟩ | ⟨-, hnew⟩
      · have hconsistent := hbefore before hold
        rcases hsame with rfl | rfl
        · exact hconsistent
        · exact hconsistent.congr rfl rfl le_rfl
      · rw [hnew]
        exact .of_empty LogicalSession.startAt_newSession.1 LogicalSession.startAt_newSession.2
    split
    next haccepts =>
      rw [hreceived]
      exact hsession.accept haccepts hlater
    next => exact hsession.mono hle
  | @looked target session hread =>
    have hconsistent := hbefore session rfl
    rw [hconsistent.lookUp_eq (hheld target session hread rfl)]
    exact hconsistent.mono hle
  | recovered =>
    exact ((hbefore _ rfl).recover).mono hle
  | acknowledged =>
    exact ((hbefore _ rfl).acknowledge).mono hle
  | removed =>
    exact ((hbefore _ rfl).ackPending).mono hle
  | discarded =>
    exact ((hbefore _ rfl).discard).mono hle
  | observed =>
    exact ((hbefore _ rfl).observe).mono hle
  | steered =>
    exact ((hbefore _ rfl).markSteerPriority).mono hle
  | @ended session =>
    have hended : ({ session with terminal := true } : LogicalSession).Consistent received :=
      (hbefore session rfl).congr rfl rfl le_rfl
    exact hended.mono hle
  | stopped =>
    exact .of_empty rfl rfl

lemma sound {received received' : ℕ}
    (h : LedgerChange wireLength s step scope before (some session'))
    (hbefore : ∀ session, before = some session → session.Sound received)
    (hle : received ≤ received') (hnew : ∀ event events cursor, step = .reader .handle →
      s.reader = some { events := event :: events, cursor } →
      received < event.sequence ∧ received' = event.sequence) :
    session'.Sound received' := by
  cases h with
  | unchanged => exact (hbefore session' rfl).mono hle
  | @admitted event events cursor session admitted hstep hreader hscope hensured =>
    obtain ⟨hlater, hreceived⟩ := hnew event events cursor hstep hreader
    have hsession : session.Sound received := by
      rcases ResidentRuntime.ensureSession?_cases hensured with ⟨before, hold, hsame⟩ | ⟨-, hnew⟩
      · have hsound := hbefore before hold
        rcases hsame with rfl | rfl
        · exact hsound
        · exact hsound.congr rfl fun _ => id
      · rw [hnew]
        exact .of_empty LogicalSession.startAt_newSession.1
    split
    · rw [hreceived]
      exact hsession.accept hlater
    · exact hsession.mono hle
  | looked =>
    exact ((hbefore _ rfl).lookUp).mono hle
  | recovered =>
    exact ((hbefore _ rfl).recover).mono hle
  | acknowledged =>
    exact ((hbefore _ rfl).recordDelivery.collapseDeliveredPrefix).mono hle
  | removed =>
    exact ((hbefore _ rfl).ackPending).mono hle
  | observed =>
    exact ((hbefore _ rfl).observe).mono hle
  | steered =>
    exact ((hbefore _ rfl).markSteerPriority).mono hle
  | @ended session =>
    have hended : ({ session with terminal := true } : LogicalSession).Sound received :=
      (hbefore session rfl).congr rfl fun _ => id
    exact hended.mono hle
  | discarded | stopped =>
    exact .of_empty rfl

/-- A mark stays as long as its instruction waits. -/
lemma isDelivered_mono {received : ℕ}
    (h : LedgerChange wireLength s step scope (some session) (some session'))
    (hsound : session.Sound received) (hmark : session.isDelivered sequence = true)
    (hold : sequence ∈ session.pendingAddressed) (hmem : sequence ∈ session'.pendingAddressed) :
    session'.isDelivered sequence = true := by
  generalize hbefore : some session = before at h
  cases h with
  | unchanged =>
    obtain rfl := Option.some.inj hbefore
    exact hmark
  | @admitted event events cursor admittedSession admitted hstep hreader hscope hensured =>
    rcases ResidentRuntime.ensureSession?_cases hensured with ⟨before, hfound, hsame⟩ | ⟨hnone, -⟩
    · rw [← hbefore] at hfound
      obtain rfl := Option.some.inj hfound
      have hkept : admittedSession.isDelivered sequence = true := by
        rcases hsame with rfl | rfl <;> exact hmark
      have hwaits : sequence ∈ admittedSession.pendingAddressed := by
        rcases hsame with rfl | rfl <;> exact hold
      split
      next haccepts =>
        rw [LogicalSession.isDelivered_accept, hkept, Bool.and_true, decide_eq_true_iff]
        rintro rfl
        rw [LogicalSession.accepts] at haccepts
        simp only [Bool.and_eq_true, decide_eq_true_iff] at haccepts
        exact haccepts.1.2 hwaits
      next => exact hkept
    · rw [← hbefore] at hnone
      cases hnone
  | looked =>
    obtain rfl := Option.some.inj hbefore
    rw [LogicalSession.isDelivered_lookUp]
    exact hmark
  | recovered =>
    obtain rfl := Option.some.inj hbefore
    rw [LogicalSession.isDelivered_recover]
    exact hmark
  | acknowledged =>
    obtain rfl := Option.some.inj hbefore
    exact hsound.isDelivered_acknowledge hmem (Or.inl hmark)
  | @removed target =>
    obtain rfl := Option.some.inj hbefore
    unfold LogicalSession.ackPending at hmem ⊢
    split at hmem
    next hwaits =>
      have hnodup : session.pendingAddressed.Nodup := hsound.increasing.imp fun hlt => hlt.ne
      have hne : target ≠ sequence := (hnodup.mem_erase_iff.mp hmem).1.symm
      rw [if_pos hwaits, LogicalSession.isDelivered]
      dsimp only
      rw [KeyedMap.get?_erase, if_neg hne]
      exact hmark
    next hwaits =>
      rw [if_neg hwaits]
      exact hmark
  | observed =>
    obtain rfl := Option.some.inj hbefore
    rw [LogicalSession.isDelivered_observe]
    exact hmark
  | steered =>
    obtain rfl := Option.some.inj hbefore
    rw [LogicalSession.isDelivered_markSteerPriority]
    exact hmark
  | ended =>
    obtain rfl := Option.some.inj hbefore
    exact hmark
  | discarded | stopped =>
    exact absurd hmem List.not_mem_nil

end LedgerChange

end Free4Chat
