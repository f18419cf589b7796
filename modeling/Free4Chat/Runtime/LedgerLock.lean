import Free4Chat.Runtime.ScopeTable

/-!
# The Lock of the Ledger Operations

The turns of all Tasks read and write the ledgers of their scopes through a few small operations of
the Runtime. Each of them takes the lock of the Runtime first, and looks its scope up only then,
because a scope may have been given back since the turn was started. An operation that finds no
ledger must leave everything as it is, and in any case it must give the lock back.

The source breaks this in one place: `ackPendingFor` returns with the lock held when its scope has
no ledger. Every later operation then waits for ever.

* `LogicalSessionRef`: the ledger and the transcript markers of a scope.
* `LedgerRuntime`: what the lock guards, and whether it is held.
* `LedgerRuntime.ackPendingFor?` and `LedgerRuntime.acknowledgeHarnessDeliveryFor?` among others:
  the operations, which have no result while the lock is held.
* `LedgerRuntime.ReleasesLock`: what an operation must do.
* `LedgerRuntime.releasesLock_iff`: when the operations do so.
-/

namespace Free4Chat

/-! ## State -/

/-- What `sessionRefLocked` gives access to. -/
structure LogicalSessionRef where
  session : LogicalSession
  transcripts : TranscriptMarkers
deriving DecidableEq

/-- The part of the Runtime that the ledger operations work on. -/
structure LedgerRuntime where
  -- The lock `r.mu` is held.
  muHeld : Bool := false
  room : LogicalSessionRef
  scopedSessions : KeyedMap LogicalSessionState := .empty
  closedTurnRecovery : List (String × ℕ) := []

namespace LedgerRuntime

variable (r : LedgerRuntime) (scope : String)

/-! ## Access to the ledgers -/

/-- The ledger of a scope. No ledger is created. -/
def sessionRefLocked? : Option LogicalSessionRef :=
  if normalizeScope scope = "" then none
  else if normalizeScope scope = roomScope then some r.room
  else (r.scopedSessions.get? (normalizeScope scope)).map fun state =>
    { session := state.session, transcripts := state.transcripts }

/-- Write the ledger that `sessionRefLocked?` found. -/
def writeSessionRef (ref : LogicalSessionRef) : LedgerRuntime :=
  if normalizeScope scope = roomScope then { r with room := ref }
  else { r with
    scopedSessions := r.scopedSessions.modify (normalizeScope scope)
      (fun state => { state with session := ref.session, transcripts := ref.transcripts })
      fun _ => rfl }

/-- Forget that recovery is over for the turns that left the ledger. -/
def forgetTurnRecoveryLocked (targets : List ℕ) : LedgerRuntime :=
  { r with
    closedTurnRecovery := r.closedTurnRecovery.filter fun key =>
      !(key.1 = normalizeScope scope && targets.contains key.2) }

/-! ## The lock -/

/-- The state after the lock was taken. -/
def taken : LedgerRuntime := { r with muHeld := true }

/-- Take the lock. Who finds it held waits. -/
def lock? : Option LedgerRuntime :=
  if r.muHeld then none else some r.taken

/-- Give the lock back. -/
def unlock : LedgerRuntime := { r with muHeld := false }

/-- The state of a Task is published after its ledger changed: the ledger and the name of the
participant are read, each under the lock. -/
def publishTaskExecution? : Option LedgerRuntime :=
  if taskExecutionScope (normalizeScope scope) then
    (r.lock?.map unlock).bind fun snapshot => snapshot.lock?.map unlock
  else some r

/-! ## The operations -/

/-- An operation that reads one ledger, and what it returns where there is none. -/
def readLocked? {α : Type} (missing : α) (read : LogicalSessionRef → α) :
    Option (α × LedgerRuntime) :=
  r.lock?.map fun held =>
    (((held.sessionRefLocked? scope).map read).getD missing, held.unlock)

/-- The next addressed instruction of a scope. -/
def peekPendingFor? : Option (Option ℕ × LedgerRuntime) :=
  r.readLocked? scope none fun ref => ref.session.pendingAddressed.head?

/-- Remove one instruction. -/
def ackPendingFor? (sequence : ℕ) : Option LedgerRuntime :=
  r.lock?.bind fun held =>
    match held.sessionRefLocked? scope with
    -- The early return does not give the lock back.
    | none => some held
    | some ref =>
      if sequence ∈ ref.session.pendingAddressed then
        ((held.writeSessionRef scope { ref with
          session := ref.session.ackPending sequence }).forgetTurnRecoveryLocked scope
            [sequence]).unlock.publishTaskExecution? scope
      else some held.unlock

/-- Through where the Harness consumed the instructions of a scope. -/
def deliveredSeqFor? : Option (ℕ × LedgerRuntime) :=
  r.readLocked? scope 0 fun ref => ref.session.deliveredThrough

/-- From where the instructions of a scope are delivered by themselves. -/
def effectiveDeliveryStartFor? : Option (ℕ × LedgerRuntime) :=
  r.readLocked? scope 0 fun ref => ref.session.effectiveDeliveryStart

/-- The Harness consumed an instruction. -/
def acknowledgeHarnessDeliveryFor? (target through generation : ℕ) : Option LedgerRuntime :=
  r.lock?.bind fun held =>
    match held.sessionRefLocked? scope with
    | none => some held.unlock
    | some ref =>
      let recorded := (ref.session.bootstrap generation).recordDelivery target through
      let written := ((held.writeSessionRef scope { ref with
        session := ref.session.acknowledge target through generation }).forgetTurnRecoveryLocked
          scope recorded.deliveredPrefix).unlock
      let marked := ref.session.pendingContexts.contains target && !ref.session.isDelivered target
      if recorded.deliveredPrefix ≠ [] ∨ marked then written.publishTaskExecution? scope
      else some written

/-- Through where the transcripts were delivered to a scope. -/
def transcriptDeliveryMarkersFor? : Option ((ℕ × ℕ) × LedgerRuntime) :=
  r.readLocked? scope (0, 0) fun ref =>
    (max ref.transcripts.meetingDeliveryFloor ref.transcripts.meetingDeliveredThrough,
      max ref.transcripts.liveTranscriptDeliveryFloor
        ref.transcripts.liveTranscriptDeliveredThrough)

/-- The Harness consumed transcripts. -/
def acknowledgeTranscriptDeliveryFor? (meeting live : ℕ) : Option LedgerRuntime :=
  r.lock?.map fun held =>
    match held.sessionRefLocked? scope with
    | none => held.unlock
    | some ref =>
      (held.writeSessionRef scope { ref with
        transcripts :=
          { ref.transcripts with
            meetingDeliveredThrough := max ref.transcripts.meetingDeliveredThrough meeting
            liveTranscriptDeliveredThrough :=
              max ref.transcripts.liveTranscriptDeliveredThrough live } }).unlock

/-- A call of one of the operations, with its arguments. -/
inductive Operation where
  | peekPending
  | ackPending (sequence : ℕ)
  | deliveredSeq
  | effectiveDeliveryStart
  | acknowledgeHarnessDelivery (target through generation : ℕ)
  | transcriptDeliveryMarkers
  | acknowledgeTranscriptDelivery (meeting live : ℕ)
deriving DecidableEq

/-- The state in which an operation returns. -/
def perform? : Operation → Option LedgerRuntime
  | .peekPending => (r.peekPendingFor? scope).map Prod.snd
  | .ackPending sequence => r.ackPendingFor? scope sequence
  | .deliveredSeq => (r.deliveredSeqFor? scope).map Prod.snd
  | .effectiveDeliveryStart => (r.effectiveDeliveryStartFor? scope).map Prod.snd
  | .acknowledgeHarnessDelivery target through generation =>
    r.acknowledgeHarnessDeliveryFor? scope target through generation
  | .transcriptDeliveryMarkers => (r.transcriptDeliveryMarkersFor? scope).map Prod.snd
  | .acknowledgeTranscriptDelivery meeting live =>
    r.acknowledgeTranscriptDeliveryFor? scope meeting live

/-! ## What an operation must do -/

/-- Two states have the same ledger for a scope, and the same turns of it are recovered. -/
structure SameLedger (r' : LedgerRuntime) (scope : String) : Prop where
  session : r'.sessionRefLocked? scope = r.sessionRefLocked? scope
  recovery : ∀ target, (normalizeScope scope, target) ∈ r'.closedTurnRecovery ↔
    (normalizeScope scope, target) ∈ r.closedTurnRecovery

/-- An operation returns with the lock free. Without a ledger for its scope it changes no ledger,
and else only that of its scope. -/
def ReleasesLock (operation : Operation) : Prop :=
  ∃ r', r.perform? scope operation = some r' ∧ r'.muHeld = false ∧
    (r.sessionRefLocked? scope = none → ∀ other, r.SameLedger r' other) ∧
    ∀ other, normalizeScope other ≠ normalizeScope scope → r.SameLedger r' other

/-- Whether an operation removes an instruction of a scope that has no ledger. -/
def ackWithoutSession : Operation → Bool
  | .ackPending _ => (r.sessionRefLocked? scope).isNone
  | _ => false

variable {r scope} {r' : LedgerRuntime}

/-! ## What the changes leave alone -/

lemma SameLedger.refl (r : LedgerRuntime) (other : String) : r.SameLedger r other :=
  ⟨rfl, fun _ => Iff.rfl⟩

variable {other : String}

lemma SameLedger.trans {r'' : LedgerRuntime} (h : r.SameLedger r' other)
    (h' : r'.SameLedger r'' other) : r.SameLedger r'' other :=
  ⟨h'.session.trans h.session, fun target => (h'.recovery target).trans (h.recovery target)⟩

lemma sameLedger_taken (other : String) : r.SameLedger r.taken other :=
  ⟨rfl, fun _ => Iff.rfl⟩

lemma sameLedger_unlock (other : String) : r.SameLedger r.unlock other :=
  ⟨rfl, fun _ => Iff.rfl⟩

lemma lock?_of_free (hfree : r.muHeld = false) : r.lock? = some r.taken := by
  rw [lock?, hfree]
  rfl

lemma unlock_taken (hfree : r.muHeld = false) : r.taken.unlock = r := by
  rw [unlock, taken, ← hfree]

lemma sameLedger_writeSessionRef (ref : LogicalSessionRef)
    (hne : normalizeScope other ≠ normalizeScope scope) :
    r.SameLedger (r.writeSessionRef scope ref) other := by
  constructor
  · rw [sessionRefLocked?, sessionRefLocked?, writeSessionRef]
    by_cases hroom : normalizeScope scope = roomScope
    · rw [if_pos hroom]
      -- The other scope is not the Room, so its ledger is that of a Task.
      have hother : normalizeScope other ≠ roomScope := fun h => hne (h.trans hroom.symm)
      rw [if_neg hother, if_neg hother]
    · rw [if_neg hroom]
      simp only [KeyedMap.get?_modify, if_neg hne.symm]
  · intro target
    rw [writeSessionRef]
    split <;> rfl

lemma sameLedger_forgetTurnRecoveryLocked (targets : List ℕ)
    (hne : normalizeScope other ≠ normalizeScope scope) :
    r.SameLedger (r.forgetTurnRecoveryLocked scope targets) other := by
  refine ⟨rfl, fun target => ?_⟩
  rw [forgetTurnRecoveryLocked, List.mem_filter]
  simp [hne]

lemma publishTaskExecution?_of_free (hfree : r.muHeld = false) :
    r.publishTaskExecution? scope = some r := by
  have hborrow : r.lock?.map unlock = some r := by
    rw [lock?_of_free hfree, Option.map_some, unlock_taken hfree]
  rw [publishTaskExecution?, hborrow, Option.bind_some, hborrow, ite_self]

/-! ## The operations one by one -/

lemma ReleasesLock.of_sameLedger {operation : Operation}
    (hperform : r.perform? scope operation = some r') (hfree : r'.muHeld = false)
    (hsame : ∀ other, r.SameLedger r' other) : r.ReleasesLock scope operation :=
  ⟨r', hperform, hfree, fun _ => hsame, fun other _ => hsame other⟩

lemma ReleasesLock.of_found {operation : Operation} {ref : LogicalSessionRef}
    (hfound : r.sessionRefLocked? scope = some ref)
    (hperform : r.perform? scope operation = some r') (hfree : r'.muHeld = false)
    (hsame : ∀ other, normalizeScope other ≠ normalizeScope scope → r.SameLedger r' other) :
    r.ReleasesLock scope operation :=
  ⟨r', hperform, hfree, fun hnone => absurd (hfound.symm.trans hnone) (Option.some_ne_none ref),
    hsame⟩

lemma readLocked?_of_free {α : Type} {missing : α} {read : LogicalSessionRef → α}
    (hfree : r.muHeld = false) : (r.readLocked? scope missing read).map Prod.snd = some r := by
  rw [readLocked?, lock?_of_free hfree, Option.map_some, Option.map_some, unlock_taken hfree]


variable {sequence : ℕ}

section

variable (hfree : r.muHeld = false)
include hfree

lemma releasesLock_ackPending {ref : LogicalSessionRef}
    (hfound : r.sessionRefLocked? scope = some ref) :
    r.ReleasesLock scope (.ackPending sequence) := by
  have hheld : r.taken.sessionRefLocked? scope = some ref :=
    hfound
  have hperform : r.perform? scope (.ackPending sequence) =
      if sequence ∈ ref.session.pendingAddressed then
        some ((r.taken.writeSessionRef scope
          { ref with session := ref.session.ackPending sequence }).forgetTurnRecoveryLocked scope
            [sequence]).unlock
      else some r := by
    rw [perform?, ackPendingFor?, lock?_of_free hfree, Option.bind_some]
    simp only [hheld]
    rw [publishTaskExecution?_of_free rfl]
    split
    · rfl
    · rw [unlock_taken hfree]
  by_cases hmem : sequence ∈ ref.session.pendingAddressed
  · rw [if_pos hmem] at hperform
    refine .of_found hfound hperform rfl fun other hne => ?_
    exact (((sameLedger_taken other).trans (sameLedger_writeSessionRef _ hne)).trans
      (sameLedger_forgetTurnRecoveryLocked _ hne)).trans (sameLedger_unlock other)
  · rw [if_neg hmem] at hperform
    exact .of_sameLedger hperform hfree (SameLedger.refl r)

lemma releasesLock_acknowledgeHarnessDelivery {target through generation : ℕ} :
    r.ReleasesLock scope (.acknowledgeHarnessDelivery target through generation) := by
  cases hfound : r.sessionRefLocked? scope with
  | none =>
    have hheld : r.taken.sessionRefLocked? scope = none :=
      hfound
    refine .of_sameLedger ?_ hfree (SameLedger.refl r)
    rw [perform?, acknowledgeHarnessDeliveryFor?, lock?_of_free hfree, Option.bind_some]
    simp only [hheld]
    rw [unlock_taken hfree]
  | some ref =>
    have hheld : r.taken.sessionRefLocked? scope = some ref :=
      hfound
    have hperform : r.perform? scope (.acknowledgeHarnessDelivery target through generation) =
        some ((r.taken.writeSessionRef
          scope { ref with session := ref.session.acknowledge target through generation
            }).forgetTurnRecoveryLocked scope
              ((ref.session.bootstrap generation).recordDelivery target
                through).deliveredPrefix).unlock := by
      rw [perform?, acknowledgeHarnessDeliveryFor?, lock?_of_free hfree, Option.bind_some]
      simp only [hheld]
      rw [publishTaskExecution?_of_free rfl, ite_self]
    refine .of_found hfound hperform rfl fun other hne => ?_
    exact (((sameLedger_taken other).trans (sameLedger_writeSessionRef _ hne)).trans
        (sameLedger_forgetTurnRecoveryLocked _ hne)).trans (sameLedger_unlock other)

lemma releasesLock_acknowledgeTranscriptDelivery {meeting live : ℕ} :
    r.ReleasesLock scope (.acknowledgeTranscriptDelivery meeting live) := by
  cases hfound : r.sessionRefLocked? scope with
  | none =>
    have hheld : r.taken.sessionRefLocked? scope = none :=
      hfound
    refine .of_sameLedger ?_ hfree (SameLedger.refl r)
    rw [perform?, acknowledgeTranscriptDeliveryFor?, lock?_of_free hfree, Option.map_some]
    simp only [hheld]
    rw [unlock_taken hfree]
  | some ref =>
    have hheld : r.taken.sessionRefLocked? scope = some ref :=
      hfound
    have hperform : ∃ ref', r.perform? scope (.acknowledgeTranscriptDelivery meeting live) =
        some (r.taken.writeSessionRef scope ref').unlock := by
      rw [perform?, acknowledgeTranscriptDeliveryFor?, lock?_of_free hfree, Option.map_some]
      simp only [hheld]
      exact ⟨_, rfl⟩
    obtain ⟨ref', hperform⟩ := hperform
    refine .of_found hfound hperform rfl fun other hne => ?_
    exact ((sameLedger_taken other).trans (sameLedger_writeSessionRef ref' hne)).trans
      (sameLedger_unlock other)

lemma perform?_ackPending_of_none (hnone : r.sessionRefLocked? scope = none) :
    r.perform? scope (.ackPending sequence) = some r.taken := by
  have hheld : r.taken.sessionRefLocked? scope = none := hnone
  rw [perform?, ackPendingFor?, lock?_of_free hfree, Option.bind_some]
  simp only [hheld]

lemma not_releasesLock_ackPending
    (hnone : r.sessionRefLocked? scope = none) : ¬ r.ReleasesLock scope (.ackPending sequence) := by
  rintro ⟨r', hperform, hfree', -⟩
  -- The only state in which the call returns has the lock held.
  rw [perform?_ackPending_of_none hfree hnone] at hperform
  obtain rfl := Option.some.inj hperform
  exact Bool.noConfusion hfree'

end

/-! ## The lock is given back -/

/-- The operations give the lock back and touch no other ledger, except that removing an
instruction of a scope without ledger keeps the lock. -/
theorem releasesLock_iff (r : LedgerRuntime) (scope : String) (operation : Operation)
    (hfree : r.muHeld = false) :
    r.ReleasesLock scope operation ↔ r.ackWithoutSession scope operation = false := by
  have hread : ∀ {operation}, r.perform? scope operation = some r →
      r.ReleasesLock scope operation :=
    fun hperform => .of_sameLedger hperform hfree (SameLedger.refl r)
  cases operation with
  | ackPending sequence =>
    rw [ackWithoutSession]
    cases hfound : r.sessionRefLocked? scope with
    | none => exact iff_of_false (not_releasesLock_ackPending hfree hfound) Bool.noConfusion
    | some ref => exact iff_of_true (releasesLock_ackPending hfree hfound) rfl
  | acknowledgeHarnessDelivery target through generation =>
    exact iff_of_true (releasesLock_acknowledgeHarnessDelivery hfree) rfl
  | acknowledgeTranscriptDelivery meeting live =>
    exact iff_of_true (releasesLock_acknowledgeTranscriptDelivery hfree) rfl
  | peekPending | deliveredSeq | effectiveDeliveryStart | transcriptDeliveryMarkers =>
    exact iff_of_true (hread (readLocked?_of_free hfree)) rfl

/-- The Runtime serves the Room only. -/
def servingRoom : LedgerRuntime where
  room := { session := {}, transcripts := {} }

/-- A Task whose scope was given back has no ledger when its last turn is settled. -/
theorem not_releasesLock_reclaimed :
    ¬ servingRoom.ReleasesLock "task:report" (.ackPending 7) :=
  not_releasesLock_ackPending rfl (by decide +kernel)

/-- The instruction that waits in the Room is removed. -/
theorem releasesLock_room :
    ({ servingRoom with room := { session := { pendingAddressed := [7] }, transcripts := {} } } :
      LedgerRuntime).ReleasesLock roomScope (.ackPending 7) :=
  (releasesLock_iff _ roomScope (.ackPending 7) rfl).mpr (by decide +kernel)

end LedgerRuntime

end Free4Chat
