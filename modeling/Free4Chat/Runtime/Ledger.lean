import Free4Chat.Room.Types
import Mathlib.Data.List.Sort

/-!
# The Delivery Ledger of One Scope

The resident Runtime of an Agent keeps, for each logical scope, the addressed Room events that the
Harness has not consumed: their order, a frozen context for each, and the watermark below which
everything was delivered. This module models the record of one scope and what each critical
section of the Runtime does to it.

* `RoomEvent` and `scopeForRoomEvent`: the events of the Room, and the scope they belong to.
* `PendingTurnContext` and `LogicalSession`: the ledger of one scope.
* `LogicalSession.accept`: a new addressed event.
* `LogicalSession.lookUp` and `LogicalSession.recover`: the two halves of `pendingContextFor`.
* `LogicalSession.acknowledge`, `LogicalSession.ackPending` and `LogicalSession.discard`: the ways
  an entry leaves.
* `LogicalSession.observe`: the Harness serves the scope from another session.
* `LogicalSession.markSteerPriority`: a steered instruction goes first.
-/

namespace Free4Chat

/-! ## Events and scopes -/

/-- An event of the Room, as the Runtime reads it. -/
structure RoomEvent where
  sequence : ℕ
  participantKind : ParticipantKind
  scopeID : String := ""
  actionPayload : List (String × String) := []
  collab : Option CollabEvent := none
  -- Whether the event belongs to the life of a permission request.
  permission : Bool := false
  addressed : Bool
  -- The Room numbers its events from one.
  sequence_pos : 0 < sequence
deriving DecidableEq

/-- The scope of the ordinary Room conversation. -/
def roomScope : String := "room"

/-- Most bytes of the name of a scope. -/
def maxLogicalScopeLength : ℕ := 128

/-- Most scopes of Tasks that one Agent serves at a time. -/
def maxLogicalTaskScopes : ℕ := 8

/-- Most addressed events that wait in one scope. -/
def maxPendingTurns : ℕ := 8

/-- The characters that `strings.TrimSpace` removes. -/
def isSpace (c : Char) : Bool :=
  (0x09 ≤ c.toNat && c.toNat ≤ 0x0D) || c.toNat == 0x20 || c.toNat == 0x85 || c.toNat == 0xA0 ||
  c.toNat == 0x1680 || (0x2000 ≤ c.toNat && c.toNat ≤ 0x200A) || c.toNat == 0x2028 ||
  c.toNat == 0x2029 || c.toNat == 0x202F || c.toNat == 0x205F || c.toNat == 0x3000

/-- `strings.TrimSpace`. -/
def trimSpace (s : String) : String :=
  String.ofList ((s.toList.dropWhile isSpace).reverse.dropWhile isSpace).reverse

/-- The name of a scope without surrounding white space. A name that is too long is none. -/
def normalizeScope (scope : String) : String :=
  if maxLogicalScopeLength < (trimSpace scope).utf8ByteSize then "" else trimSpace scope

/-- The scope an event belongs to: the one it names, else the Task that its action names, else the
Room. An event whose scope has no valid name belongs to none. -/
def scopeForRoomEvent (event : RoomEvent) : String :=
  let payload := fun field => trimSpace ((event.actionPayload.lookup field).getD "")
  if trimSpace event.scopeID ≠ "" then normalizeScope (trimSpace event.scopeID)
  else if payload "scopeId" ≠ "" then normalizeScope ("task:" ++ payload "scopeId")
  else if payload "taskId" ≠ "" then normalizeScope ("task:" ++ payload "taskId")
  else roomScope

/-- The request of the Task of a scope, or nothing. -/
def taskRequestIDForScope (scope : String) : String :=
  if "task:".toList.isPrefixOf (normalizeScope scope).toList then
    String.ofList ((normalizeScope scope).toList.drop 5)
  else ""

/-- Whether a scope is that of a Task. -/
def taskExecutionScope (scope : String) : Bool :=
  taskRequestIDForScope scope ≠ ""

/-- The scope of the Task of a request. A request whose id cannot name a scope has none. -/
def taskScopeForRequestID (taskRequestID : String) : String :=
  let scope := "task:" ++ taskRequestID
  if taskRequestID = "" ∨ taskRequestID.toList.any (" \t\r\n".toList.contains ·) then ""
  else if (taskRequestIDForScope scope).utf8ByteSize < 4 then ""
  else scope

/-- The request of a Human for a Task of an Agent, if an event is one. -/
def humanTaskRequest? (participantID : String) (event : RoomEvent) : Option CollabEvent :=
  event.collab.filter fun collab =>
    event.addressed && event.participantKind = .human && collab.kind = .request &&
      collab.targetParticipantId = participantID && taskExecutionScope (scopeForRoomEvent event)

/-- The newest request of a Human for a Task among some events. -/
def humanTaskRequestFor (participantID : String) (events : List RoomEvent) : Option CollabEvent :=
  (events.foldl (fun newest event =>
    match humanTaskRequest? participantID event, newest with
    | some collab, none => some (event.sequence, collab)
    | some collab, some (sequence, old) =>
      if sequence ≤ event.sequence then some (event.sequence, collab) else some (sequence, old)
    | none, newest => newest) none).map Prod.snd

/-- The buffered events of a scope after one sequence and through another. -/
def eventsForScope (buffer : List RoomEvent) (scope : String) (after through : ℕ) :
    List RoomEvent :=
  buffer.filter fun event =>
    after < event.sequence && event.sequence ≤ through && scopeForRoomEvent event == scope

/-! ## The record of one scope -/

/-- The frozen context of an addressed event that waits to be delivered. -/
structure PendingTurnContext where
  after : ℕ
  target : ℕ
  events : List RoomEvent
  -- A steered instruction goes before ordinary ones.
  steer : Bool := false
  steerRequested : Bool := false
  -- Consumed by the Harness, although an earlier instruction was not.
  delivered : Bool := false
deriving DecidableEq

instance : Keyed PendingTurnContext ℕ where
  key := PendingTurnContext.target

@[simp]
lemma PendingTurnContext.key_eq (context : PendingTurnContext) :
    Keyed.key context = context.target := rfl

/-- The delivery state of one logical scope. -/
structure LogicalSession where
  deliveredThrough : ℕ := 0
  -- What the current conversation of the Harness is not told by itself.
  roomDeliveryFloor : ℕ := 0
  pendingAddressed : List ℕ := []
  pendingContexts : KeyedMap PendingTurnContext := .empty
  observedHarnessGeneration : ℕ := 0
  bootstrappedHarnessGeneration : ℕ := 0
  -- The conversation was given back, and is about to be loaded again.
  rematerializing : Bool := false
  -- The request of the Task, without its content.
  taskRequest : Option CollabEvent := none
  -- The Task of the scope has its final result.
  terminal : Bool := false
deriving DecidableEq

/-- What came of the priority of a steered instruction. -/
inductive SteerPromotion where
  | missing
  | alreadyNext
  | moved
  | duplicate
deriving DecidableEq

namespace LogicalSession

variable (session : LogicalSession)

/-! ## Reading -/

/-- What lies at or below this sequence is not delivered by itself. -/
def effectiveDeliveryStart : ℕ := max session.deliveredThrough session.roomDeliveryFloor

/-- Whether a context says that its instruction was delivered. -/
def isDelivered (sequence : ℕ) : Bool :=
  ((session.pendingContexts.get? sequence).map (·.delivered)).getD false

/-- Whether an instruction still waits to be delivered. -/
def pendingUndelivered (sequence : ℕ) : Bool :=
  decide (sequence ∈ session.pendingAddressed) && session.pendingContexts.contains sequence &&
    !session.isDelivered sequence

/-- The instruction to deliver next, where some wait for an explicit recovery: the first steered
one, or else the first one. -/
def nextPendingTarget (recoveryClosed : ℕ → Bool) : Option ℕ :=
  let waiting := session.pendingAddressed.filter fun sequence =>
    !session.isDelivered sequence && !recoveryClosed sequence
  let steered := waiting.find? fun sequence =>
    ((session.pendingContexts.get? sequence).map (·.steer)).getD false
  steered.or waiting.head?

/-- Whether a steered instruction would be next without its priority. -/
def steerWouldBeNext (running sequence : ℕ) : Bool :=
  (session.pendingAddressed.find? fun candidate =>
    candidate ≠ running && !session.isDelivered candidate) == some sequence

/-- The request of the Task of a scope that a turn over some events serves. A finished Task has
none, unless the events hold it. -/
def humanTaskRequestForScope (participantID : String) (events : List RoomEvent) :
    Option CollabEvent :=
  (humanTaskRequestFor participantID events).or
    (if session.terminal then none
      else session.taskRequest.filter fun request => request.targetParticipantId = participantID)

/-! ## Changing -/

/-- Remember the request of the Task of a scope, and whether the Task has its final result. -/
def observeEvent (scope participantID : String) (event : RoomEvent) : LogicalSession :=
  let request := (humanTaskRequest? participantID event).filter fun collab =>
    collab.requestId = taskRequestIDForScope scope
  let ends := event.collab.any fun collab =>
    (collab.kind = .declined || collab.kind = .completed || collab.kind = .failed) &&
      taskScopeForRequestID (trimSpace collab.requestId) = scope
  { session with
    taskRequest := session.taskRequest.or request
    terminal := session.terminal || ends }

/-- A scope that is new to the Runtime starts at its first event, unless it resumes a
conversation. -/
def startAt (event : RoomEvent) : LogicalSession :=
  if session.rematerializing then session
  else { session with
    deliveredThrough := event.sequence - 1
    roomDeliveryFloor := event.sequence - 1 }

/-- Whether an event becomes an instruction that waits to be delivered. -/
def accepts (event : RoomEvent) : Bool :=
  event.addressed && decide (session.effectiveDeliveryStart < event.sequence) &&
    decide (event.sequence ∉ session.pendingAddressed) &&
    decide (session.pendingAddressed.length < maxPendingTurns)

/-- The context frozen for a new instruction: what came after the last one that waits, or after
what was delivered. -/
def contextFor (scope : String) (buffer : List RoomEvent) (sequence : ℕ) : PendingTurnContext :=
  let after := session.pendingAddressed.getLast?.getD session.effectiveDeliveryStart
  { after, target := sequence, events := eventsForScope buffer scope after sequence }

/-- A new instruction waits to be delivered. -/
def accept (scope : String) (buffer : List RoomEvent) (sequence : ℕ) : LogicalSession :=
  { session with
    pendingAddressed := session.pendingAddressed ++ [sequence]
    pendingContexts := session.pendingContexts.set (session.contextFor scope buffer sequence) }

/-- The context that `pendingContextFor` reads. A context that is missing is made up from what the
buffer holds. -/
def contextOf (scope : String) (buffer : List RoomEvent) (target : ℕ) : PendingTurnContext :=
  (session.pendingContexts.get? target).getD
    { after := session.effectiveDeliveryStart
      target
      events := eventsForScope buffer scope session.effectiveDeliveryStart target }

/-- The first half of `pendingContextFor`: a context that was made up is stored. -/
def lookUp (scope : String) (buffer : List RoomEvent) (target : ℕ) : LogicalSession :=
  if session.pendingContexts.contains target then session
  else { session with
    pendingContexts := session.pendingContexts.set (session.contextOf scope buffer target) }

/-- The second half of `pendingContextFor`: a context without events keeps those that were read
from the Room. -/
def recover (target : ℕ) (events : List RoomEvent) : LogicalSession :=
  { session with
    pendingContexts := session.pendingContexts.modify target
      (fun context => if context.events = [] then { context with events } else context)
      fun context => by split <;> rfl }

/-- The instructions at the head of the ledger that nothing waits for. -/
def deliveredPrefix : List ℕ :=
  session.pendingAddressed.takeWhile fun sequence =>
    session.isDelivered sequence || !session.pendingContexts.contains sequence

/-- Remove what was delivered from the head of the ledger, and advance the watermark over it. -/
def collapseDeliveredPrefix : LogicalSession :=
  { session with
    pendingAddressed := session.pendingAddressed.dropWhile fun sequence =>
      session.isDelivered sequence || !session.pendingContexts.contains sequence
    pendingContexts := session.pendingContexts.filter fun context =>
      context.target ∉ session.deliveredPrefix
    deliveredThrough := session.deliveredPrefix.foldl max session.deliveredThrough }

/-- Mark the context of an instruction as delivered. -/
def markDelivered (target : ℕ) : LogicalSession :=
  { session with
    pendingContexts := session.pendingContexts.modify target
      (fun context => { context with delivered := true }) fun _ => rfl }

/-- The current conversation of the Harness has had a delivery. -/
def bootstrap (generation : ℕ) : LogicalSession :=
  if 0 < generation ∧ generation = session.observedHarnessGeneration then
    { session with bootstrappedHarnessGeneration := generation }
  else session

/-- Record that an instruction was delivered, without removing anything. An instruction without
context only moves the watermark of a ledger in which nothing waits. -/
def recordDelivery (target through : ℕ) : LogicalSession :=
  if session.pendingContexts.contains target then session.markDelivered target
  else if session.pendingAddressed = [] ∧ session.deliveredThrough < through then
    { session with deliveredThrough := through }
  else session

/-- The Harness consumed an instruction. -/
def acknowledge (target through generation : ℕ) : LogicalSession :=
  ((session.bootstrap generation).recordDelivery target through).collapseDeliveredPrefix

/-- Remove one instruction, wherever it stands. -/
def ackPending (sequence : ℕ) : LogicalSession :=
  if sequence ∈ session.pendingAddressed then
    { session with
      pendingAddressed := session.pendingAddressed.erase sequence
      pendingContexts := session.pendingContexts.erase sequence }
  else session

/-- Give up all instructions of a Task. -/
def discard : LogicalSession :=
  { session with
    pendingAddressed := []
    pendingContexts := session.pendingContexts.filter fun context =>
      context.target ∉ session.pendingAddressed
    deliveredThrough := session.pendingAddressed.foldl max session.deliveredThrough }

/-- The Harness serves a scope from a session. A session that replaces another starts at the
instruction it is asked for, unless it is the same conversation, loaded again. -/
def observe (generation target : ℕ) : LogicalSession :=
  if generation = 0 then session
  else if session.observedHarnessGeneration = 0 then
    { session with observedHarnessGeneration := generation }
  else if session.observedHarnessGeneration = generation then session
  else if session.rematerializing then
    { session with
      observedHarnessGeneration := generation
      bootstrappedHarnessGeneration :=
        if session.bootstrappedHarnessGeneration = session.observedHarnessGeneration then generation
        else session.bootstrappedHarnessGeneration
      rematerializing := false }
  else if 0 < target then
    { session with
      observedHarnessGeneration := generation
      deliveredThrough := 0
      roomDeliveryFloor := target - 1 }
  else { session with observedHarnessGeneration := generation }

/-- What came of steering an instruction while another one runs. -/
def steerPromotion (running sequence : ℕ) : SteerPromotion :=
  match session.pendingContexts.get? sequence with
  | none => .missing
  | some context =>
    if sequence ∉ session.pendingAddressed then .missing
    else if context.steerRequested then .duplicate
    else if session.steerWouldBeNext running sequence then .alreadyNext
    else .moved

/-- Steer an instruction that waits: it is delivered before the ordinary ones. -/
def markSteerPriority (sequence : ℕ) : LogicalSession :=
  { session with
    pendingContexts := session.pendingContexts.modify sequence
      (fun context => { context with steer := true, steerRequested := true }) fun _ => rfl }

end LogicalSession

end Free4Chat
