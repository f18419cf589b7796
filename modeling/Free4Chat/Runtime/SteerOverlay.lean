import Free4Chat.Runtime.LedgerInvariant
import Mathlib.Data.Finset.Card

/-!
# Steering as an Overlay of the Ledger

The instructions of a scope wait in the order in which the Room numbered them. A steered
instruction is delivered before the others, but the order of the ledger stays as it is: only the
choice of the next instruction looks at the mark. An instruction that was delivered early remains
in the ledger, marked, until those before it were delivered too.

* `LogicalSession.markSteerPriorityLocked`, `LogicalSession.nextPendingTargetLocked` and
  `LogicalSession.collapseDeliveredPrefixLocked`: the loops of the source over the ledger.
* `LogicalSession.IsNext`: what should be delivered next, as a property.
* `LogicalSession.ScopeState`: what holds of the ledger of a scope at any time.
* `SteeredLedger.next?`: one operation on the ledger. `steeringSystem`: the transition system.
* `steeringOverlay_of_reachable`: nothing is rewritten, lost or repeated.
-/

namespace Free4Chat

lemma takeWhile_congr_of_mem {l : List ℕ} {p q : ℕ → Bool} (h : ∀ x ∈ l, p x = q x) :
    l.takeWhile p = l.takeWhile q ∧ l.dropWhile p = l.dropWhile q := by
  induction l with
  | nil => exact ⟨rfl, rfl⟩
  | cons x l ih =>
    obtain ⟨htake, hdrop⟩ := ih fun y hy => h y (List.mem_cons_of_mem x hy)
    rw [List.takeWhile_cons, List.takeWhile_cons, List.dropWhile_cons, List.dropWhile_cons,
      h x List.mem_cons_self, htake, hdrop]
    exact ⟨rfl, rfl⟩

namespace LogicalSession

variable (session : LogicalSession)

/-! ## The loops of the source -/

/-- Whether an instruction is steered. -/
def isSteered (sequence : ℕ) : Bool :=
  ((session.pendingContexts.get? sequence).map (·.steer)).getD false

/-- The loop of `nextPendingTargetLocked`, with the head that was found so far. Zero is none. -/
def scanPending (recoveryClosed : ℕ → Bool) : ℕ → List ℕ → Option ℕ
  | head, [] => if head = 0 then none else some head
  | head, sequence :: rest =>
    if session.isDelivered sequence then scanPending recoveryClosed head rest
    else if recoveryClosed sequence then scanPending recoveryClosed head rest
    else if session.isSteered sequence then some sequence
    else scanPending recoveryClosed (if head = 0 then sequence else head) rest

/-- The instruction to deliver next. A Task that waits for a Human delivers none. -/
def nextPendingTargetLocked (blocked : Bool) (recoveryClosed : ℕ → Bool) : Option ℕ :=
  if session.pendingAddressed = [] then none
  else if blocked then none
  else session.scanPending recoveryClosed 0 session.pendingAddressed

/-- Steer an instruction while another one runs, unless it was steered before or does not wait. -/
def markSteerPriorityLocked (running sequence : ℕ) : LogicalSession × SteerPromotion :=
  match session.steerPromotion running sequence with
  | .missing => (session, .missing)
  | .duplicate => (session, .duplicate)
  | .alreadyNext => (session.markSteerPriority sequence, .alreadyNext)
  | .moved => (session.markSteerPriority sequence, .moved)

/-- The loop of `collapseDeliveredPrefixLocked` over the order that is left. -/
def collapseLoop : List ℕ → LogicalSession → LogicalSession
  | [], session => { session with pendingAddressed := [] }
  | head :: rest, session =>
    if session.pendingContexts.contains head && !session.isDelivered head then
      { session with pendingAddressed := head :: rest }
    else collapseLoop rest
      { session with
        pendingContexts := session.pendingContexts.erase head
        deliveredThrough :=
          if session.deliveredThrough < head then head else session.deliveredThrough }

/-- Remove what was delivered from the head of the ledger. -/
def collapseDeliveredPrefixLocked : LogicalSession :=
  collapseLoop session.pendingAddressed session

/-- The Harness consumed an instruction. -/
def acknowledgeLocked (target through generation : ℕ) : LogicalSession :=
  ((session.bootstrap generation).recordDelivery target through).collapseDeliveredPrefixLocked

/-! ## What the operations should do -/

/-- Whether an instruction of the ledger can be delivered. -/
def eligible (recoveryClosed : ℕ → Bool) (sequence : ℕ) : Bool :=
  !session.isDelivered sequence && !recoveryClosed sequence

/-- The instruction to deliver next: the first steered one of those that can be delivered, and the
first of them all where none is steered. -/
def IsNext (recoveryClosed : ℕ → Bool) (target : ℕ) : Prop :=
  ∃ before after, session.pendingAddressed = before ++ target :: after ∧
    session.eligible recoveryClosed target = true ∧
    (∀ sequence ∈ before, session.eligible recoveryClosed sequence = true →
      session.isSteered target = true ∧ session.isSteered sequence = false) ∧
    (session.isSteered target = false → ∀ sequence ∈ session.pendingAddressed,
      session.eligible recoveryClosed sequence = true → session.isSteered sequence = false)

/-- Whether nothing has to wait for an instruction: it was delivered, or has no context. -/
def isDone (sequence : ℕ) : Bool :=
  session.isDelivered sequence || !session.pendingContexts.contains sequence

/-- The ledger of a scope at any time: it is in order, its instructions have contexts, and the
watermark is below all of them. -/
structure ScopeState (session : LogicalSession) (received : ℕ) : Prop
    extends session.Sound received where
  watermark : ∀ sequence ∈ session.pendingAddressed, session.deliveredThrough < sequence

variable {session} {recoveryClosed : ℕ → Bool}

/-! ## The choice of the next instruction -/

lemma scanPending_eq {head : ℕ} {rest : List ℕ} (hpos : ∀ sequence ∈ rest, sequence ≠ 0) :
    session.scanPending recoveryClosed head rest =
      ((rest.filter (session.eligible recoveryClosed)).find? session.isSteered).or
        (if head = 0 then (rest.filter (session.eligible recoveryClosed)).head? else some head) := by
  induction rest generalizing head with
  | nil => rfl
  | cons sequence rest ih =>
    have hrest : ∀ later ∈ rest, later ≠ 0 :=
      fun later hlater => hpos later (List.mem_cons_of_mem sequence hlater)
    have hne : sequence ≠ 0 := hpos sequence List.mem_cons_self
    rw [scanPending, List.filter_cons]
    by_cases hdelivered : session.isDelivered sequence = true
    · have hnot : session.eligible recoveryClosed sequence = false := by
        rw [eligible, hdelivered, Bool.not_true, Bool.false_and]
      rw [if_pos hdelivered, hnot, ih hrest, if_neg Bool.false_ne_true]
    · rw [if_neg hdelivered]
      by_cases hclosed : recoveryClosed sequence = true
      · have hnot : session.eligible recoveryClosed sequence = false := by
          rw [eligible, hclosed, Bool.not_true, Bool.and_false]
        rw [if_pos hclosed, hnot, ih hrest, if_neg Bool.false_ne_true]
      · have heligible : session.eligible recoveryClosed sequence = true := by
          rw [eligible, Bool.eq_false_of_not_eq_true hdelivered,
            Bool.eq_false_of_not_eq_true hclosed]
          rfl
        rw [if_neg hclosed, if_pos heligible, List.find?_cons, List.head?_cons]
        by_cases hsteered : session.isSteered sequence = true
        · rw [if_pos hsteered, hsteered]
          rfl
        · rw [if_neg hsteered, Bool.eq_false_of_not_eq_true hsteered, ih hrest]
          -- The head is this instruction, or one that was found before.
          by_cases hhead : head = 0
          · rw [if_pos hhead, if_neg hne, if_pos hhead]
          · rw [if_neg hhead, if_neg hhead, if_neg hhead]

lemma find?_or_head?_eq_some_iff {l : List ℕ} {p : ℕ → Bool} {target : ℕ} :
    (l.find? p).or l.head? = some target ↔
      ∃ before after, l = before ++ target :: after ∧
        (∀ x ∈ before, p target = true ∧ p x = false) ∧
        (p target = false → ∀ x ∈ l, p x = false) := by
  constructor
  · intro h
    cases hfind : l.find? p with
    | some found =>
      rw [hfind, Option.some_or] at h
      obtain rfl := Option.some.inj h
      obtain ⟨hp, before, after, rfl, hbefore⟩ := List.find?_eq_some_iff_append.mp hfind
      refine ⟨before, after, rfl, fun x hx => ⟨hp, by simpa using hbefore x hx⟩, fun hnot => ?_⟩
      exact absurd hp (by rw [hnot]; exact Bool.false_ne_true)
    | none =>
      rw [hfind, Option.none_or] at h
      have hnone : ∀ x ∈ l, p x = false := fun x hx => by
        simpa using List.find?_eq_none.mp hfind x hx
      obtain ⟨after, rfl⟩ := List.head?_eq_some_iff.mp h
      exact ⟨[], after, rfl, fun x hx => absurd hx List.not_mem_nil, fun _ => hnone⟩
  · rintro ⟨before, after, rfl, hbefore, hnone⟩
    cases htarget : p target with
    | true =>
      have hfind : (before ++ target :: after).find? p = some target :=
        List.find?_eq_some_iff_append.mpr
          ⟨htarget, before, after, rfl, fun x hx => by simp [(hbefore x hx).2]⟩
      rw [hfind, Option.some_or]
    | false =>
      have hfind : (before ++ target :: after).find? p = none :=
        List.find?_eq_none.mpr fun x hx => by simp [hnone htarget x hx]
      -- Nothing comes before a target that is not steered.
      cases before with
      | nil => rw [hfind]; rfl
      | cons x before =>
        exact absurd (htarget.symm.trans (hbefore x List.mem_cons_self).1) Bool.false_ne_true

lemma filter_eq_append_cons {l before after : List ℕ} {p : ℕ → Bool} {target : ℕ}
    (h : l.filter p = before ++ target :: after) :
    ∃ before' after', l = before' ++ target :: after' ∧ before'.filter p = before ∧
      p target = true := by
  obtain ⟨before', rest, rfl, hbefore, hrest⟩ := List.filter_eq_append_iff.mp h
  obtain ⟨skipped, after', rfl, hskipped, htarget, -⟩ := List.filter_eq_cons_iff.mp hrest
  refine ⟨before' ++ skipped, after', by rw [List.append_assoc], ?_, htarget⟩
  rw [List.filter_append, hbefore, List.filter_eq_nil_iff.mpr hskipped, List.append_nil]

lemma nextPendingTargetLocked_eq_some_iff {blocked : Bool} {target : ℕ}
    (hpos : ∀ sequence ∈ session.pendingAddressed, sequence ≠ 0) :
    session.nextPendingTargetLocked blocked recoveryClosed = some target ↔
      blocked = false ∧ session.IsNext recoveryClosed target := by
  have hscan : session.nextPendingTargetLocked blocked recoveryClosed = some target ↔
      blocked = false ∧ ((session.pendingAddressed.filter
        (session.eligible recoveryClosed)).find? session.isSteered).or
          (session.pendingAddressed.filter (session.eligible recoveryClosed)).head? =
            some target := by
    rw [nextPendingTargetLocked, scanPending_eq hpos, if_pos rfl]
    cases blocked with
    | true => simp
    | false =>
      by_cases hempty : session.pendingAddressed = []
      · simp [hempty]
      · simp [hempty]
  rw [hscan, find?_or_head?_eq_some_iff]
  refine and_congr_right fun _ => ⟨?_, ?_⟩
  · rintro ⟨before, after, hfilter, hbefore, hnone⟩
    obtain ⟨before', after', hpending, rfl, htarget⟩ := filter_eq_append_cons hfilter
    refine ⟨before', after', hpending, htarget, fun sequence hmem heligible => ?_,
      fun hsteered sequence hmem heligible => ?_⟩
    · exact hbefore sequence (List.mem_filter.mpr ⟨hmem, heligible⟩)
    · exact hnone hsteered sequence (List.mem_filter.mpr ⟨hmem, heligible⟩)
  · rintro ⟨before, after, hpending, htarget, hbefore, hnone⟩
    refine ⟨before.filter (session.eligible recoveryClosed),
      after.filter (session.eligible recoveryClosed), ?_, fun sequence hmem => ?_,
      fun hsteered sequence hmem => ?_⟩
    · rw [hpending, List.filter_append, List.filter_cons, if_pos htarget]
    · obtain ⟨hmem, heligible⟩ := List.mem_filter.mp hmem
      exact hbefore sequence hmem heligible
    · obtain ⟨hmem, heligible⟩ := List.mem_filter.mp hmem
      exact hnone hsteered sequence hmem heligible

/-! ## What leaves the head of the ledger -/

lemma collapseLoop_eq {rest : List ℕ} (hnodup : rest.Nodup) : collapseLoop rest session =
      { session with
        pendingAddressed := rest.dropWhile session.isDone
        pendingContexts := session.pendingContexts.filter fun context =>
          context.target ∉ rest.takeWhile session.isDone
        deliveredThrough := (rest.takeWhile session.isDone).foldl max session.deliveredThrough } := by
  induction rest generalizing session with
  | nil =>
    have hall : session.pendingContexts.filter (fun context =>
        context.target ∉ ([] : List ℕ).takeWhile session.isDone) = session.pendingContexts :=
      KeyedMap.ext (List.filter_eq_self.mpr fun context _ => by simp)
    rw [collapseLoop, hall]
    rfl
  | cons head rest ih =>
    obtain ⟨hhead, hnodup⟩ := List.nodup_cons.mp hnodup
    have hdone : session.isDone head =
        !(session.pendingContexts.contains head && !session.isDelivered head) := by
      rw [isDone, Bool.not_and, Bool.not_not, Bool.or_comm]
    rw [collapseLoop]
    by_cases hheld : (session.pendingContexts.contains head && !session.isDelivered head) = true
    · have hnot : session.isDone head = false := by rw [hdone, hheld]; rfl
      have hall : session.pendingContexts.filter (fun context =>
          context.target ∉ (head :: rest).takeWhile session.isDone) = session.pendingContexts := by
        rw [List.takeWhile_cons, hnot]
        exact KeyedMap.ext (List.filter_eq_self.mpr fun context _ => by simp)
      rw [if_pos hheld, hall, List.takeWhile_cons, List.dropWhile_cons, hnot]
      rfl
    · have hyes : session.isDone head = true := by
        rw [hdone, Bool.eq_false_of_not_eq_true hheld]; rfl
      rw [if_neg hheld, ih hnodup, List.takeWhile_cons, List.dropWhile_cons, hyes]
      -- The context that is deleted is not that of a later instruction.
      have hsame : ∀ later ∈ rest, ({ session with
          pendingContexts := session.pendingContexts.erase head
          deliveredThrough := if session.deliveredThrough < head then head
            else session.deliveredThrough } : LogicalSession).isDone later =
          session.isDone later := fun later hlater => by
        have hne : head ≠ later := fun h => hhead (h ▸ hlater)
        rw [isDone, isDone, isDelivered, isDelivered, KeyedMap.contains, KeyedMap.contains,
          KeyedMap.get?_erase, if_neg hne]
      obtain ⟨htake, hdrop⟩ := takeWhile_congr_of_mem hsame
      rw [htake, hdrop, if_pos rfl, if_pos rfl]
      congr 1
      · rw [List.foldl_cons]
        have hmax : (if session.deliveredThrough < head then head
            else session.deliveredThrough) = max session.deliveredThrough head := by
          split <;> omega
        rw [← hmax]
      · refine KeyedMap.ext ?_
        rw [KeyedMap.erase, KeyedMap.values_filter, KeyedMap.values_filter, KeyedMap.values_filter,
          List.filter_filter]
        refine List.filter_congr fun context _ => ?_
        simp [not_or, Bool.and_comm]

lemma collapseDeliveredPrefixLocked_eq (hnodup : session.pendingAddressed.Nodup) :
    session.collapseDeliveredPrefixLocked = session.collapseDeliveredPrefix :=
  collapseLoop_eq hnodup

/-! ## Deliveries -/

variable {received target through generation : ℕ}

lemma pendingAddressed_recordDelivery (session : LogicalSession) (target through generation : ℕ) :
    ((session.bootstrap generation).recordDelivery target through).pendingAddressed =
      session.pendingAddressed := by
  unfold recordDelivery bootstrap
  split_ifs <;> rfl

lemma acknowledgeLocked_eq (h : session.ScopeState received) :
    session.acknowledgeLocked target through generation =
      session.acknowledge target through generation := by
  rw [acknowledgeLocked, acknowledge, collapseDeliveredPrefixLocked_eq]
  rw [pendingAddressed_recordDelivery]
  exact h.increasing.imp fun hlt => hlt.ne

namespace ScopeState

section

variable (h : session.ScopeState received)
include h

lemma ne_zero : ∀ sequence ∈ session.pendingAddressed, sequence ≠ 0 :=
  fun sequence hmem => Nat.ne_of_gt (Nat.zero_lt_of_lt (h.watermark sequence hmem))

lemma markSteerPriority : (session.markSteerPriority target).ScopeState received :=
  { toSound := h.toSound.markSteerPriority, watermark := h.watermark }

lemma accept {scope : String} {buffer : List RoomEvent}
    {event : RoomEvent} (haccepts : session.accepts event = true)
    (hnew : received < event.sequence) :
    (session.accept scope buffer event.sequence).ScopeState event.sequence := by
  simp only [LogicalSession.accepts, Bool.and_eq_true, decide_eq_true_iff] at haccepts
  refine { toSound := h.toSound.accept hnew, watermark := fun sequence hmem => ?_ }
  rcases List.mem_append.mp hmem with hmem | hmem
  · exact h.watermark sequence hmem
  · rw [List.mem_singleton.mp hmem]
    exact (le_max_left _ _).trans_lt haccepts.1.1.2

lemma acknowledge : (session.acknowledge target through generation).ScopeState received := by
  have hrecorded : ∀ sequence ∈ session.pendingAddressed,
      ((session.bootstrap generation).recordDelivery target through).deliveredThrough <
        sequence := by
    intro sequence hmem
    unfold recordDelivery bootstrap
    split_ifs
    all_goals first
      | exact h.watermark sequence hmem
      -- Nothing waits, so the watermark passes nothing.
      | next hempty => exact absurd (hempty.1 ▸ hmem) List.not_mem_nil
  refine { toSound := h.toSound.recordDelivery.collapseDeliveredPrefix
           watermark := fun sequence hmem => ?_ }
  have hincreasing := h.increasing
  rw [← pendingAddressed_recordDelivery session target through generation,
    ← List.takeWhile_append_dropWhile
      (p := ((session.bootstrap generation).recordDelivery target through).isDone)
      (l := ((session.bootstrap generation).recordDelivery target through).pendingAddressed),
    List.pairwise_append] at hincreasing
  show List.foldl max _ _ < sequence
  rw [foldl_max_lt_iff]
  exact ⟨hrecorded sequence (mem_of_mem_acknowledge hmem),
    fun earlier hearlier => hincreasing.2.2 earlier hearlier sequence hmem⟩

end

end ScopeState

/-! ## Marks of steered instructions -/

/-- Whether an instruction was steered before. -/
def isSteerRequested (session : LogicalSession) (sequence : ℕ) : Bool :=
  ((session.pendingContexts.get? sequence).map (·.steerRequested)).getD false

variable {sequence : ℕ}

lemma markSteerPriorityLocked_cases (running sequence : ℕ) :
    ((session.markSteerPriorityLocked running sequence).2 ∈ [SteerPromotion.missing, .duplicate] ∧
      (session.markSteerPriorityLocked running sequence).1 = session) ∨
    ((session.markSteerPriorityLocked running sequence).2 ∈
        [SteerPromotion.alreadyNext, .moved] ∧
      (session.markSteerPriorityLocked running sequence).1 = session.markSteerPriority sequence ∧
      sequence ∈ session.pendingAddressed ∧ session.isSteerRequested sequence = false ∧
      (session.markSteerPriority sequence).isSteerRequested sequence = true) := by
  rw [markSteerPriorityLocked]
  cases hpromotion : session.steerPromotion running sequence with
  | missing | duplicate => exact Or.inl ⟨by simp, rfl⟩
  | alreadyNext | moved =>
    refine Or.inr ⟨by simp, rfl, ?_⟩
    rw [steerPromotion] at hpromotion
    rw [isSteerRequested, isSteerRequested, LogicalSession.markSteerPriority]
    dsimp only
    rw [KeyedMap.get?_modify, if_pos rfl]
    cases hcontext : session.pendingContexts.get? sequence with
    | none => rw [hcontext] at hpromotion; cases hpromotion
    | some context =>
      rw [hcontext] at hpromotion
      dsimp only at hpromotion
      split_ifs at hpromotion with hmem hrequested
      all_goals exact ⟨hmem, Bool.eq_false_of_not_eq_true hrequested, rfl⟩

variable {other : ℕ}

lemma get?_markSteerPriority_of_ne (hne : other ≠ sequence) :
    (session.markSteerPriority sequence).pendingContexts.get? other =
      session.pendingContexts.get? other := by
  rw [LogicalSession.markSteerPriority]
  dsimp only
  rw [KeyedMap.get?_modify, if_neg hne.symm]

lemma isSteerRequested_markSteerPriority (h : session.isSteerRequested other = true) :
    (session.markSteerPriority sequence).isSteerRequested other = true := by
  rw [isSteerRequested] at h
  rw [isSteerRequested, LogicalSession.markSteerPriority]
  dsimp only
  rw [KeyedMap.get?_modify]
  split
  · cases hcontext : session.pendingContexts.get? other with
    | none => rw [hcontext] at h; exact absurd h Bool.false_ne_true
    | some context => rfl
  · exact h

lemma isSteerRequested_accept {scope : String} {buffer : List RoomEvent}
    (hne : sequence ≠ other) : (session.accept scope buffer sequence).isSteerRequested other =
      session.isSteerRequested other := by
  rw [isSteerRequested, isSteerRequested, LogicalSession.accept]
  dsimp only
  rw [KeyedMap.get?_set, if_neg]
  exact hne

lemma isSteerRequested_acknowledge (h : session.Sound received)
    (hmem : sequence ∈ (session.acknowledge target through generation).pendingAddressed)
    (hrequested : session.isSteerRequested sequence = true) :
    (session.acknowledge target through generation).isSteerRequested sequence = true := by
  have hrecorded : ((session.bootstrap generation).recordDelivery target through).isSteerRequested
      sequence = true := by
    unfold recordDelivery bootstrap
    split_ifs
    all_goals try exact hrequested
    all_goals
      rw [isSteerRequested, markDelivered]
      dsimp only
      rw [KeyedMap.get?_modify]
      split
      · rw [Option.map_map]
        exact hrequested
      · exact hrequested
  have hsound : ((session.bootstrap generation).recordDelivery target through).Sound received :=
    h.recordDelivery
  have hnot := hsound.notMem_deliveredPrefix hmem
  rw [acknowledge, isSteerRequested, LogicalSession.collapseDeliveredPrefix]
  dsimp only
  rw [KeyedMap.get?_filter]
  rw [isSteerRequested] at hrecorded
  cases hcontext : ((session.bootstrap generation).recordDelivery target
      through).pendingContexts.get? sequence with
  | none => rw [hcontext] at hrecorded; exact absurd hrecorded Bool.false_ne_true
  | some context =>
    have hkey : context.target = sequence := KeyedMap.key_of_get? hcontext
    rw [hcontext] at hrecorded
    rw [Option.filter_some, if_pos (by rw [hkey]; exact decide_eq_true hnot)]
    exact hrecorded

/-! ## Instructions that wait -/

/-- The instructions that wait, without those that were delivered early. -/
def waiting (session : LogicalSession) : List ℕ :=
  session.pendingAddressed.filter fun sequence => !session.isDelivered sequence

lemma mem_waiting : sequence ∈ session.waiting ↔
    sequence ∈ session.pendingAddressed ∧ session.isDelivered sequence = false := by
  rw [waiting, List.mem_filter, Bool.not_eq_true']

lemma mem_waiting_acknowledge (h : session.Sound received) :
    sequence ∈ (session.acknowledge target through generation).waiting ↔
      sequence ∈ session.waiting ∧ sequence ≠ target := by
  rw [mem_waiting, mem_waiting]
  constructor
  · rintro ⟨hmem, hnot⟩
    have hno : ¬ (session.isDelivered sequence = true ∨ sequence = target) := fun hmark =>
      Bool.noConfusion ((h.isDelivered_acknowledge hmem hmark).symm.trans hnot)
    rw [not_or] at hno
    exact ⟨⟨mem_of_mem_acknowledge hmem, Bool.eq_false_of_not_eq_true hno.1⟩, hno.2⟩
  · rintro ⟨⟨hmem, hnot⟩, hne⟩
    have hno : ¬ (session.isDelivered sequence = true ∨ sequence = target) := by
      rw [hnot]
      exact fun hmark => hmark.elim Bool.false_ne_true hne
    have hstays : sequence ∈
        (session.acknowledge target through generation).pendingAddressed := by
      by_contra hleft
      exact hno (isDelivered_of_notMem_acknowledge hmem h.held hleft)
    refine ⟨hstays, Bool.eq_false_of_not_eq_true fun hmark => ?_⟩
    exact hno (isDelivered_of_acknowledge hmark)

/-- Deliver the instruction that is next, while the recovery of no turn is closed. -/
def deliverNext (session : LogicalSession) : LogicalSession :=
  match session.nextPendingTargetLocked false fun _ => false with
  | none => session
  | some target => session.acknowledgeLocked target target 0

lemma exists_isNext (hwaits : session.waiting ≠ []) :
    ∃ target, session.IsNext (fun _ => false) target := by
  have hfilter : session.pendingAddressed.filter (session.eligible fun _ => false) =
      session.waiting := List.filter_congr fun sequence _ => by
    rw [eligible, Bool.not_false, Bool.and_true]
  have hsome : ∃ target, ((session.pendingAddressed.filter
      (session.eligible fun _ => false)).find? session.isSteered).or
        (session.pendingAddressed.filter (session.eligible fun _ => false)).head? =
          some target := by
    rw [hfilter]
    cases hfind : session.waiting.find? session.isSteered with
    | some found => exact ⟨found, rfl⟩
    | none => exact ⟨session.waiting.head hwaits, by
        rw [Option.none_or, List.head?_eq_some_head hwaits]⟩
  obtain ⟨target, htarget⟩ := hsome
  obtain ⟨before, after, hpending, hbefore, hnone⟩ := find?_or_head?_eq_some_iff.mp htarget
  obtain ⟨before', after', hsplit, rfl, heligible⟩ := filter_eq_append_cons hpending
  exact ⟨target, before', after', hsplit, heligible,
    fun sequence hmem hcan => hbefore sequence (List.mem_filter.mpr ⟨hmem, hcan⟩),
    fun hsteered sequence hmem hcan => hnone hsteered sequence (List.mem_filter.mpr ⟨hmem, hcan⟩)⟩

lemma IsNext.mem_waiting (h : session.IsNext recoveryClosed target) : target ∈ session.waiting := by
  obtain ⟨before, after, hpending, heligible, -⟩ := h
  rw [eligible, Bool.and_eq_true, Bool.not_eq_true'] at heligible
  rw [LogicalSession.mem_waiting, hpending]
  exact ⟨List.mem_append_right before List.mem_cons_self, heligible.1⟩

lemma ScopeState.exists_selected (h : session.ScopeState received)
    (hwaits : sequence ∈ session.waiting) :
    ∃ n, (deliverNext^[n] session).nextPendingTargetLocked false (fun _ => false) =
      some sequence := by
  -- By induction on how many instructions wait: each delivery ends the wait of one.
  induction hsize : session.waiting.toFinset.card using Nat.strong_induction_on
    generalizing session with
  | _ size ih =>
    obtain ⟨target, htarget⟩ := exists_isNext (List.ne_nil_of_mem hwaits)
    have hnext : session.nextPendingTargetLocked false (fun _ => false) = some target :=
      (nextPendingTargetLocked_eq_some_iff h.ne_zero).mpr ⟨rfl, htarget⟩
    by_cases hsame : target = sequence
    · exact ⟨0, hsame ▸ hnext⟩
    · have hdeliver : deliverNext session = session.acknowledge target target 0 := by
        rw [deliverNext, hnext]
        exact acknowledgeLocked_eq h
      have hwaits' : sequence ∈ (deliverNext session).waiting := by
        rw [hdeliver, mem_waiting_acknowledge h.toSound]
        exact ⟨hwaits, fun heq => hsame heq.symm⟩
      have hless : (deliverNext session).waiting.toFinset.card < size := by
        rw [← hsize, hdeliver]
        refine Finset.card_lt_card ⟨fun other hother => ?_, fun hsub => ?_⟩
        · rw [List.mem_toFinset, mem_waiting_acknowledge h.toSound] at hother
          exact List.mem_toFinset.mpr hother.1
        · have hgone := hsub (List.mem_toFinset.mpr htarget.mem_waiting)
          rw [List.mem_toFinset, mem_waiting_acknowledge h.toSound] at hgone
          exact hgone.2 rfl
      obtain ⟨n, hn⟩ := ih _ hless (hdeliver ▸ h.acknowledge) hwaits' rfl
      exact ⟨n + 1, by rw [Function.iterate_succ_apply]; exact hn⟩

end LogicalSession

/-! ## Runs -/

/-- The ledger of a scope in a run of operations, and what happened to its instructions. -/
structure SteeredLedger where
  session : LogicalSession
  -- The newest event of the Room that the Runtime received.
  received : ℕ
  -- The instructions that were added in the run.
  appended : List ℕ := []
  -- The instructions of the ledger that the Harness consumed in the run.
  acknowledged : List ℕ := []
  -- What each steering reported.
  reports : List (ℕ × SteerPromotion) := []
deriving DecidableEq

/-- An operation on the ledger of one scope. -/
inductive SteeringStep where
  | steer (running sequence : ℕ)
  | next (blocked : Bool) (recoveryClosed : List ℕ)
  | acknowledge (target through generation : ℕ)
  | append (scope : String) (buffer : List RoomEvent) (event : RoomEvent)

namespace SteeredLedger

/-- One operation. The events of the Room arrive in their order. -/
def next? (s : SteeredLedger) : SteeringStep → Option SteeredLedger
  | .steer running sequence =>
    let marked := s.session.markSteerPriorityLocked running sequence
    some { s with
      session := marked.1
      reports := s.reports ++ [(sequence, marked.2)] }
  -- The choice changes nothing.
  | .next _ _ => some s
  | .acknowledge target through generation =>
    some { s with
      session := s.session.acknowledgeLocked target through generation
      acknowledged :=
        if target ∈ s.session.pendingAddressed then s.acknowledged ++ [target]
        else s.acknowledged }
  | .append scope buffer event =>
    if event.sequence ≤ s.received then none
    else if s.session.accepts event then
      some { s with
        session := s.session.accept scope buffer event.sequence
        received := event.sequence
        appended := s.appended ++ [event.sequence] }
    else some { s with received := event.sequence }

/-- The instructions that were promoted, once for each report that says so. -/
def promoted (s : SteeredLedger) : List ℕ :=
  (s.reports.filter fun report => report.2 ∈ [SteerPromotion.alreadyNext, .moved]).map Prod.fst

end SteeredLedger

/-- Runs of operations on the ledger of a scope. -/
def steeringSystem : TransitionSystem SteeredLedger SteeringStep where
  init s := s.session.ScopeState s.received ∧ s.appended = [] ∧ s.acknowledged = [] ∧
    s.reports = []
  step s operation s' := s.next? operation = some s'

/-! ## What the run says about the ledger -/

/-- The ledger is in order, and the history of the run agrees with its marks. -/
structure OverlayInvariant (s : SteeredLedger) : Prop where
  state : s.session.ScopeState s.received
  once : s.promoted.Nodup
  requested : ∀ sequence ∈ s.promoted, sequence ≤ s.received ∧
    (sequence ∈ s.session.pendingAddressed → s.session.isSteerRequested sequence = true)
  acknowledged : ∀ sequence ∈ s.acknowledged, sequence ≤ s.received ∧ sequence ∉ s.session.waiting
  appended : ∀ sequence ∈ s.appended, sequence ∉ s.acknowledged → sequence ∈ s.session.waiting

namespace OverlayInvariant

open LogicalSession

variable {s s' : SteeredLedger}

lemma promoted_append {report : ℕ × SteerPromotion} {session : LogicalSession} :
    ({ s with session := session, reports := s.reports ++ [report] } : SteeredLedger).promoted =
      s.promoted ++
        if report.2 ∈ [SteerPromotion.alreadyNext, .moved] then [report.1] else [] := by
  rw [SteeredLedger.promoted, SteeredLedger.promoted, List.filter_append, List.map_append,
    List.filter_singleton]
  congr 1
  split <;> simp_all

lemma mem_waiting_markSteerPriority {session : LogicalSession} {sequence other : ℕ} :
    other ∈ (session.markSteerPriority sequence).waiting ↔ other ∈ session.waiting := by
  rw [mem_waiting, mem_waiting, isDelivered_markSteerPriority]
  rfl

lemma steer (h : OverlayInvariant s) {running sequence : ℕ}
    (hnext : s.next? (.steer running sequence) = some s') : OverlayInvariant s' := by
  have hcases := s.session.markSteerPriorityLocked_cases running sequence
  simp only [SteeredLedger.next?] at hnext
  generalize s.session.markSteerPriorityLocked running sequence = marked at hcases hnext
  obtain ⟨session', report⟩ := marked
  obtain rfl := Option.some.inj hnext
  dsimp only at hcases
  obtain ⟨hreport, rfl⟩ | ⟨hreport, rfl, hmem, hbefore, hafter⟩ := hcases
  · have hnot : report ∉ [SteerPromotion.alreadyNext, .moved] := by
      cases report <;> simp_all
    constructor
    · exact h.state
    · rw [promoted_append, if_neg hnot, List.append_nil]
      exact h.once
    · rw [promoted_append, if_neg hnot, List.append_nil]
      exact h.requested
    · exact h.acknowledged
    · exact h.appended
  · -- The mark was not set before, so this is the first promotion of the instruction.
    have hnew : sequence ∉ s.promoted := fun hold =>
      Bool.noConfusion (((h.requested sequence hold).2 hmem).symm.trans hbefore)
    constructor
    · exact h.state.markSteerPriority
    · rw [promoted_append, if_pos hreport]
      refine List.nodup_append.mpr ⟨h.once, List.nodup_singleton _, fun other hother last hlast => ?_⟩
      rw [List.mem_singleton.mp hlast]
      rintro rfl
      exact hnew hother
    · rw [promoted_append, if_pos hreport]
      intro other hother
      rcases List.mem_append.mp hother with hother | hother
      · exact ⟨(h.requested other hother).1,
          fun hwaits => isSteerRequested_markSteerPriority ((h.requested other hother).2 hwaits)⟩
      · rw [List.mem_singleton.mp hother]
        exact ⟨h.state.received sequence hmem, fun _ => hafter⟩
    · intro other hother
      obtain ⟨hle, hnot⟩ := h.acknowledged other hother
      exact ⟨hle, fun hwaits => hnot (mem_waiting_markSteerPriority.mp hwaits)⟩
    · exact fun other hother hnot =>
        mem_waiting_markSteerPriority.mpr (h.appended other hother hnot)

lemma acknowledge (h : OverlayInvariant s) {target through generation : ℕ}
    (hnext : s.next? (.acknowledge target through generation) = some s') : OverlayInvariant s' := by
  obtain rfl := Option.some.inj hnext
  have heq : s.session.acknowledgeLocked target through generation =
      s.session.acknowledge target through generation := acknowledgeLocked_eq h.state
  have hsound := h.state.toSound
  constructor
  · exact heq ▸ h.state.acknowledge
  · exact h.once
  · intro sequence hmem
    refine ⟨(h.requested sequence hmem).1, fun hwaits => ?_⟩
    replace hwaits : sequence ∈
        (s.session.acknowledge target through generation).pendingAddressed := heq ▸ hwaits
    show isSteerRequested (s.session.acknowledgeLocked target through generation) sequence = true
    rw [heq]
    exact isSteerRequested_acknowledge hsound hwaits
      ((h.requested sequence hmem).2 (mem_of_mem_acknowledge hwaits))
  · intro sequence hmem
    show _ ∧ sequence ∉ (s.session.acknowledgeLocked target through generation).waiting
    rw [heq, mem_waiting_acknowledge hsound]
    by_cases hold : sequence ∈ s.acknowledged
    · exact ⟨(h.acknowledged sequence hold).1,
        fun hwaits => (h.acknowledged sequence hold).2 hwaits.1⟩
    · -- Only the target of this delivery is new.
      dsimp only at hmem
      split at hmem
      next htarget =>
        rcases List.mem_append.mp hmem with hmem | hmem
        · exact absurd hmem hold
        · rw [List.mem_singleton.mp hmem]
          exact ⟨hsound.received target htarget, fun hwaits => hwaits.2 rfl⟩
      next => exact absurd hmem hold
  · intro sequence hmem hnot
    show sequence ∈ (s.session.acknowledgeLocked target through generation).waiting
    rw [heq, mem_waiting_acknowledge hsound]
    dsimp only at hnot
    split at hnot
    next =>
      rw [List.mem_append, not_or, List.mem_singleton] at hnot
      exact ⟨h.appended sequence hmem hnot.1, hnot.2⟩
    next hgone =>
      have hwaits := h.appended sequence hmem hnot
      exact ⟨hwaits, fun hsame => hgone (hsame ▸ (mem_waiting.mp hwaits).1)⟩

lemma append (h : OverlayInvariant s) {scope : String} {buffer : List RoomEvent}
    {event : RoomEvent} (hnext : s.next? (.append scope buffer event) = some s') :
    OverlayInvariant s' := by
  rw [SteeredLedger.next?] at hnext
  split at hnext
  next => cases hnext
  next hold =>
    have hnew : s.received < event.sequence := Nat.lt_of_not_le hold
    split at hnext
    next haccepts =>
      obtain rfl := Option.some.inj hnext
      have hwaiting : ∀ sequence,
          sequence ∈ (s.session.accept scope buffer event.sequence).waiting ↔
            sequence ∈ s.session.waiting ∨ sequence = event.sequence := by
        intro sequence
        have hpending : (s.session.accept scope buffer event.sequence).pendingAddressed =
            s.session.pendingAddressed ++ [event.sequence] := rfl
        rw [mem_waiting, mem_waiting, hpending, List.mem_append, List.mem_singleton,
          isDelivered_accept]
        by_cases hsame : sequence = event.sequence
        · simp [hsame]
        · simp [hsame, Ne.symm hsame]
      constructor
      · exact h.state.accept haccepts hnew
      · exact h.once
      · intro sequence hmem
        obtain ⟨hle, hmark⟩ := h.requested sequence hmem
        have hlt := hle.trans_lt hnew
        refine ⟨hlt.le, fun hwaits => ?_⟩
        show isSteerRequested (s.session.accept scope buffer event.sequence) sequence = true
        rw [isSteerRequested_accept hlt.ne']
        refine hmark ((List.mem_append.mp hwaits).resolve_right fun hlast => ?_)
        exact hlt.ne (List.mem_singleton.mp hlast)
      · intro sequence hmem
        obtain ⟨hle, hnot⟩ := h.acknowledged sequence hmem
        have hlt := hle.trans_lt hnew
        refine ⟨hlt.le, fun hwaits => ?_⟩
        exact ((hwaiting sequence).mp hwaits).elim hnot hlt.ne
      · intro sequence hmem hnot
        refine (hwaiting sequence).mpr ?_
        rcases List.mem_append.mp hmem with hmem | hmem
        · exact Or.inl (h.appended sequence hmem hnot)
        · exact Or.inr (List.mem_singleton.mp hmem)
    next =>
      obtain rfl := Option.some.inj hnext
      exact ⟨⟨h.state.toSound.mono hnew.le, h.state.watermark⟩, h.once,
        fun sequence hmem => (h.requested sequence hmem).imp_left fun hle => hle.trans hnew.le,
        fun sequence hmem => (h.acknowledged sequence hmem).imp_left fun hle => hle.trans hnew.le,
        h.appended⟩

lemma of_reachable (hreach : steeringSystem.Reachable s) : OverlayInvariant s := by
  refine TransitionSystem.ReachableWhen.invariant (fun s hinit => ?_)
    (fun s operation s' h _ hnext => ?_) hreach
  · obtain ⟨hstate, happended, hacknowledged, hreports⟩ := hinit
    have hpromoted : s.promoted = [] := by rw [SteeredLedger.promoted, hreports]; rfl
    refine ⟨hstate, ?_, ?_, ?_, ?_⟩
    · rw [hpromoted]
      exact List.nodup_nil
    · rw [hpromoted]
      exact fun _ hmem => absurd hmem List.not_mem_nil
    · rw [hacknowledged]
      exact fun _ hmem => absurd hmem List.not_mem_nil
    · rw [happended]
      exact fun _ hmem => absurd hmem List.not_mem_nil
  · cases operation with
    | steer running sequence => exact h.steer hnext
    | next blocked recoveryClosed => exact Option.some.inj hnext ▸ h
    | acknowledge target through generation => exact h.acknowledge hnext
    | append scope buffer event => exact h.append hnext

end OverlayInvariant

/-! ## The overlay -/

/-- A ledger without the longest part of its head that nothing waits for. The watermark follows what
was removed. -/
def LogicalSession.CollapsesPrefix (before after : LogicalSession) : Prop :=
  ∃ removed rest, before.pendingAddressed = removed ++ rest ∧ after.pendingAddressed = rest ∧
    (∀ sequence ∈ removed, before.isDone sequence = true) ∧
    (∀ sequence ∈ rest.head?, before.isDone sequence = false) ∧
    after.deliveredThrough = removed.foldl max before.deliveredThrough

lemma LogicalSession.collapsesPrefix {session : LogicalSession}
    (hnodup : session.pendingAddressed.Nodup) :
    session.CollapsesPrefix session.collapseDeliveredPrefixLocked := by
  rw [collapseDeliveredPrefixLocked_eq hnodup]
  refine ⟨session.pendingAddressed.takeWhile session.isDone,
    session.pendingAddressed.dropWhile session.isDone, List.takeWhile_append_dropWhile.symm, rfl,
    fun sequence hmem => List.mem_takeWhile_imp hmem, fun sequence hmem => ?_, rfl⟩
  have hhead := List.head?_dropWhile_not session.isDone session.pendingAddressed
  rw [Option.mem_def.mp hmem] at hhead
  exact hhead

/-- Steering is an overlay of the ledger: it rewrites nothing, and no instruction is lost or
delivered twice. -/
structure SteeringOverlay (s : SteeredLedger) : Prop where
  -- The order stays, and only the named instruction is marked.
  keeps : ∀ running sequence,
    (s.session.markSteerPriorityLocked running sequence).1.pendingAddressed =
      s.session.pendingAddressed ∧
    ∀ other ≠ sequence,
      (s.session.markSteerPriorityLocked running sequence).1.pendingContexts.get? other =
        s.session.pendingContexts.get? other
  -- Each instruction is promoted at most once, and otherwise nothing changes.
  once : s.promoted.Nodup
  inert : ∀ running sequence, (s.session.markSteerPriorityLocked running sequence).2 ∉
    [SteerPromotion.alreadyNext, .moved] →
      (s.session.markSteerPriorityLocked running sequence).1 = s.session
  -- The choice is the first steered instruction that can be delivered, or else the first one.
  selects : ∀ blocked recoveryClosed target,
    s.session.nextPendingTargetLocked blocked recoveryClosed = some target ↔
      blocked = false ∧ s.session.IsNext recoveryClosed target
  -- Exactly the delivered head is removed, also when an instruction is delivered.
  collapses : s.session.CollapsesPrefix s.session.collapseDeliveredPrefixLocked
  delivers : ∀ target through generation,
    ((s.session.bootstrap generation).recordDelivery target through).CollapsesPrefix
      (s.session.acknowledgeLocked target through generation)
  watermark : ∀ sequence ∈ s.session.pendingAddressed, s.session.deliveredThrough < sequence
  -- An instruction can be selected until it was consumed, and never after.
  lasts : ∀ sequence ∈ s.appended, sequence ∉ s.acknowledged →
    sequence ∈ s.session.waiting ∧
      ∃ n, (LogicalSession.deliverNext^[n] s.session).nextPendingTargetLocked false
        (fun _ => false) = some sequence
  ends : ∀ sequence ∈ s.acknowledged, ∀ blocked recoveryClosed,
    s.session.nextPendingTargetLocked blocked recoveryClosed ≠ some sequence

/-- Steering is an overlay of the ledger in every run of operations. -/
theorem steeringOverlay_of_reachable {s : SteeredLedger} (hreach : steeringSystem.Reachable s) :
    SteeringOverlay s := by
  have h := OverlayInvariant.of_reachable hreach
  have hnodup : s.session.pendingAddressed.Nodup := h.state.increasing.imp fun hlt => hlt.ne
  have hselects : ∀ {blocked recoveryClosed target},
      s.session.nextPendingTargetLocked blocked recoveryClosed = some target ↔
        blocked = false ∧ s.session.IsNext recoveryClosed target :=
    LogicalSession.nextPendingTargetLocked_eq_some_iff h.state.ne_zero
  refine ⟨fun running sequence => ?_, h.once, fun running sequence hnot => ?_,
    fun _ _ _ => hselects, LogicalSession.collapsesPrefix hnodup,
    fun target through generation => LogicalSession.collapsesPrefix ?_, h.state.watermark,
    fun sequence hmem hnot => ?_, fun sequence hmem blocked recoveryClosed hnext => ?_⟩
  · obtain ⟨-, hsession⟩ | ⟨-, hsession, -⟩ :=
      s.session.markSteerPriorityLocked_cases running sequence
    · rw [hsession]
      exact ⟨rfl, fun _ _ => rfl⟩
    · rw [hsession]
      exact ⟨rfl, fun _ hne => LogicalSession.get?_markSteerPriority_of_ne hne⟩
  · obtain ⟨-, hsession⟩ | ⟨hyes, -⟩ := s.session.markSteerPriorityLocked_cases running sequence
    · exact hsession
    · exact absurd hyes hnot
  · rw [LogicalSession.pendingAddressed_recordDelivery]
    exact hnodup
  · have hwaits := h.appended sequence hmem hnot
    exact ⟨hwaits, h.state.exists_selected hwaits⟩
  · exact (h.acknowledged sequence hmem).2 (hselects.mp hnext).2.mem_waiting

/-- An instruction of a Human. -/
def steeredInstruction (earlier : ℕ) : RoomEvent where
  sequence := earlier + 1
  participantKind := .human
  addressed := true
  sequence_pos := Nat.succ_pos earlier

/-- The second of two instructions is steered twice while the first waits, and delivered early. -/
def steeredLabels : List SteeringStep :=
  [.append roomScope [] (steeredInstruction 2), .append roomScope [] (steeredInstruction 4),
    .steer 0 5, .steer 0 5, .next false [], .acknowledge 5 5 0]

/-- The instruction that was delivered early stays in the ledger behind the first one. -/
theorem steeringOverlay_steered :
    ∃ s, TransitionSystem.runWhen? SteeredLedger.next? (fun _ _ => true)
      { session := {}, received := 0 } steeredLabels = some s ∧
      s.session.pendingAddressed = [3, 5] ∧ SteeringOverlay s := by
  have hrun : (TransitionSystem.runWhen? SteeredLedger.next? (fun _ _ => true)
      { session := {}, received := 0 } steeredLabels).map (·.session.pendingAddressed) =
        some [3, 5] := by decide +kernel
  obtain ⟨s, hs, hpending⟩ := Option.map_eq_some_iff.mp hrun
  refine ⟨s, hs, hpending, steeringOverlay_of_reachable ?_⟩
  refine TransitionSystem.reachable_of_runWhen (fun _ _ _ hnext => hnext) ⟨?_, rfl, rfl, rfl⟩ hs
  exact { toSound := .of_empty rfl, watermark := fun _ hmem => absurd hmem List.not_mem_nil }

/-- An instruction that was promoted and delivered is missing when it is steered again, and this is
no report of a duplicate. -/
theorem not_reportedOnce_steered :
    ¬ ∀ s, steeringSystem.Reachable s → ∀ sequence, (s.reports.filter fun report =>
      report.1 = sequence ∧ report.2 ≠ .duplicate).length ≤ 1 := by
  intro honce
  have hrun : (TransitionSystem.runWhen? SteeredLedger.next? (fun _ _ => true)
      { session := {}, received := 0 } [.append roomScope [] (steeredInstruction 4), .steer 0 5,
        .acknowledge 5 5 0, .steer 0 5]).map (·.reports) =
        some [(5, .alreadyNext), (5, .missing)] := by decide +kernel
  obtain ⟨s, hs, hreports⟩ := Option.map_eq_some_iff.mp hrun
  have hle := honce s (TransitionSystem.reachable_of_runWhen (fun _ _ _ hnext => hnext)
    ⟨{ toSound := .of_empty rfl, watermark := fun _ hmem => absurd hmem List.not_mem_nil },
      rfl, rfl, rfl⟩ hs) 5
  rw [hreports] at hle
  exact absurd hle (by decide)

end Free4Chat
