import Free4Chat.Data.KeyedFlow
import Free4Chat.Data.ListFilterMap
import Free4Chat.Transition.Reachable
import Mathlib.Data.Int.Notation

/-!
# Media Engine

The media engine publishes the voice of an agent. Callers pass PCM under the token of their turn; it
waits in a bounded queue, and a paced writer cuts it into frames of 20 ms. What does not fill a
frame is carried over to the next chunk, and a flush marker emits it with padding. A turn is
cancelled, and publishing is deactivated, by raising a generation in one critical section and
clearing the queue and the carry in a later one. The writer looks at each generation in a critical
section of its own.

* `TurnTag`, `PcmByte`, `QueueItem`: what is queued.
* `Producer`: a call of `WritePCM` or `FlushAudio`, between its critical sections.
* `WriterPhase`: the paced writer.
* `EngineRun`: the engine, the calls that are going on, and what happened so far.
* `EngineRun.admitTurn?`, `EngineRun.enqueueItem`, `EngineRun.cancelTurn`, `EngineRun.take`: the
  critical sections.
* `EngineRun.next?`: one critical section. `engineSystem`: the transition system.
-/

namespace Free4Chat

/-! ## The queue -/

/-- The generations under which PCM was written, and the token of its turn. -/
structure TurnTag where
  generation : ℕ
  turnGeneration : ℕ
  token : ℕ
deriving DecidableEq

/-- A byte of PCM. Its publication generation is the one in which `WritePCM` was called. -/
structure PcmByte where
  value : UInt8
  turn : TurnTag
deriving DecidableEq

/-- A queued chunk of PCM, or a flush marker. -/
structure QueueItem where
  turn : TurnTag
  data : Option (List PcmByte)
deriving DecidableEq

/-- The PCM of a queued item. -/
def QueueItem.bytes (item : QueueItem) : List PcmByte := item.data.getD []

/-! ## Callers -/

/-- Where a call of `WritePCM` or `FlushAudio` is. -/
inductive WritePhase where
  -- Publishing was found active.
  | admitting
  | admitted
  -- The generations were read.
  | enqueueing (turn : TurnTag)
  -- The queue was full.
  | waiting (turn : TurnTag)
  -- There is space, and the turn generation is the same.
  | rechecking (turn : TurnTag)
deriving DecidableEq

/-- The generations that a call has read. -/
def WritePhase.turn? : WritePhase → Option TurnTag
  | .admitting => none
  | .admitted => none
  | .enqueueing turn => some turn
  | .waiting turn => some turn
  | .rechecking turn => some turn

/-- A call of `WritePCM`, or of `FlushAudio`, which has no chunk. -/
structure Producer where
  -- The publication generation in which it was called.
  generation : ℕ
  token : ℕ
  chunk : Option (List UInt8)
  phase : WritePhase
deriving DecidableEq

/-- What a call enqueues under the generations that it has read. -/
def Producer.item (p : Producer) (turn : TurnTag) : QueueItem where
  turn := turn
  data := p.chunk.map fun chunk =>
    chunk.map fun value => { value, turn := { turn with generation := p.generation } }

/-! ## The writer -/

/-- A look at the state of the engine, in a critical section of its own. -/
inductive EngineCheck where
  | active
  | generation
  | turn
  | admitted
  | valid
deriving DecidableEq

/-- What the writer does once its checks have passed. -/
inductive WriterWork where
  -- It takes the item, with the carry.
  | take
  -- It emits the next frame.
  | frames (rest : List PcmByte)
  -- It emits the carry that a flush marker has taken.
  | tail (bytes : List PcmByte)
deriving DecidableEq

/-- Where the writer is. -/
inductive WriterPhase where
  | idle
  | working (item : QueueItem) (checks : List EngineCheck) (work : WriterWork)
deriving DecidableEq

/-- The checks before a kind of work. -/
def WriterWork.checks : WriterWork → List EngineCheck
  | .take => [.generation, .turn, .admitted]
  | .frames _ => [.active, .generation, .turn, .admitted]
  | .tail _ => [.active, .generation, .turn, .valid]

/-- The PCM that the writer has taken. -/
def WriterPhase.taken : WriterPhase → List PcmByte
  | .idle => []
  | .working _ _ .take => []
  | .working _ _ (.frames rest) => rest
  | .working _ _ (.tail bytes) => bytes

/-- The PCM of the item that the writer is about to take. -/
def WriterPhase.held : WriterPhase → List PcmByte
  | .idle => []
  | .working item _ .take => item.bytes
  | .working _ _ (.frames _) => []
  | .working _ _ (.tail _) => []

/-! ## Runs -/

/-- A frame that was emitted. Padding is left out. -/
structure EmittedFrame where
  bytes : List PcmByte
  -- The publication generation.
  generation : ℕ
  -- The tokens of the calls of `CancelTurn` that had returned.
  cancelled : List ℕ
deriving DecidableEq

/-- What a call of `CancelTurn`, or of `DeactivatePublish`, which has no token, has cleared. -/
structure ClearedAudio where
  token : Option ℕ
  -- The turn that was admitted at this time.
  admitted : TurnTag
  bytes : List PcmByte
deriving DecidableEq

/-- The number of bytes in a frame. -/
def frame24kBytes : ℕ := 960

/-- The number of bytes in the queue. -/
def maxQueuePcmBytes : ℕ := 1048576

/-- The engine, the calls that are going on, and what happened so far. -/
structure EngineRun where
  publishOn : Bool := false
  pubGeneration : ℕ := 0
  turnGeneration : ℕ := 0
  highestAdmitted : ℕ := 0
  cancelledThrough : ℕ := 0
  queueRing : List QueueItem := []
  queueBytes : ℤ := 0
  carry : List PcmByte := []
  writer : WriterPhase := .idle
  producers : List Producer := []
  -- Calls of `CancelTurn` and of `DeactivatePublish` that are about to clear the queue.
  clearing : List (Option ℕ) := []
  accepted : List PcmByte := []
  frames : List EmittedFrame := []
  -- The tokens of the calls of `CancelTurn`, and of those that have returned.
  cancelled : List ℕ := []
  returned : List ℕ := []
  cleared : List ClearedAudio := []
  -- The turns of chunks that were given up as the queue was full, and the turns of that time.
  dropped : List (TurnTag × TurnTag) := []
deriving DecidableEq

/-- One critical section. -/
inductive EngineStep where
  | activatePublish
  | deactivatePublish
  | writePCM (chunk : List UInt8) (token : ℕ)
  | flushAudio (token : ℕ)
  -- A call of `WritePCM` or of `FlushAudio` goes on.
  | produce (index : ℕ)
  | cancelTurn (token : ℕ)
  | clearQueueAndCarry (index : ℕ)
  -- The writer goes on. A frame is emitted, or it cannot be encoded or written.
  | write (emits : Bool)
deriving DecidableEq

namespace EngineRun

variable (s : EngineRun)

/-- The turn that is admitted. -/
def admittedTurn : TurnTag :=
  { generation := s.pubGeneration, turnGeneration := s.turnGeneration, token := s.highestAdmitted }

/-- Whether a turn belongs to the current generations. -/
def isCurrent (turn : TurnTag) : Bool :=
  turn.generation = s.pubGeneration && turn.turnGeneration = s.turnGeneration

/-! ### Publication -/

/-- Publishing is activated. -/
def activatePublish : EngineRun :=
  { s with publishOn := true, pubGeneration := s.pubGeneration + 1 }

/-- Publishing is deactivated, and the queue is cleared next. -/
def deactivatePublish : EngineRun :=
  { s with
    publishOn := false
    pubGeneration := s.pubGeneration + 1
    turnGeneration := s.turnGeneration + 1
    highestAdmitted := 0
    cancelledThrough := 0
    clearing := s.clearing ++ [none] }

/-! ### Turns -/

/-- Whether a token belongs to a turn that is not stale. -/
def validateTurn (token : ℕ) : Bool :=
  token = 0 || (s.cancelledThrough < token && s.highestAdmitted ≤ token)

/-- A turn is admitted, unless it is stale. -/
def admitTurn? (token : ℕ) : Option EngineRun :=
  if token = 0 then some s
  else if token ≤ s.cancelledThrough then none
  else if token < s.highestAdmitted then none
  else some { s with highestAdmitted := token }

/-- A turn is cancelled, and the queue is cleared next. A late call for an older turn than the
admitted one returns. -/
def cancelTurn (token : ℕ) : EngineRun :=
  let marked := { s with
    cancelledThrough := if token ≠ 0 then max token s.cancelledThrough else s.cancelledThrough
    cancelled := s.cancelled ++ [token] }
  if token ≠ 0 ∧ s.highestAdmitted ≠ 0 ∧ token < s.highestAdmitted then
    { marked with returned := s.returned ++ [token] }
  else
    { marked with
      turnGeneration := s.turnGeneration + 1
      clearing := s.clearing ++ [some token] }

/-- What waits in the queue. -/
def queued : List PcmByte := s.queueRing.flatMap QueueItem.bytes

/-- The queue and the carry are cleared, and the call that does so returns. -/
def clearQueueAndCarry (index : ℕ) (token : Option ℕ) : EngineRun :=
  { s with
    carry := []
    queueBytes := s.queueBytes - s.queued.length
    queueRing := []
    clearing := s.clearing.eraseIdx index
    returned := s.returned ++ token.toList
    cleared := s.cleared ++
      [{ token, admitted := s.admittedTurn, bytes := s.carry ++ s.queued }] }

/-- A call that is about to clear the queue goes on. -/
def clear? (index : ℕ) : Option EngineRun :=
  match s.clearing[index]? with
  | none => none
  | some token => some (s.clearQueueAndCarry index token)

/-! ### Callers -/

/-- PCM is passed under a token, while publishing is active. -/
def writePCM (chunk : List UInt8) (token : ℕ) : EngineRun :=
  if s.publishOn = false ∨ chunk = [] then s
  else { s with
    producers := s.producers ++
      [{ generation := s.pubGeneration, token, chunk := some chunk, phase := .admitting }] }

/-- A flush marker is passed under a token, while publishing is active. -/
def flushAudio (token : ℕ) : EngineRun :=
  if s.publishOn = false then s
  else { s with
    producers := s.producers ++
      [{ generation := s.pubGeneration, token, chunk := none, phase := .admitted }] }

/-- An item is enqueued. -/
def enqueueItem (item : QueueItem) : EngineRun :=
  { s with
    queueRing := s.queueRing ++ [item]
    queueBytes := s.queueBytes + item.bytes.length
    accepted := s.accepted ++ item.bytes }

/-- Whether there is space for an item. -/
def hasSpace (item : QueueItem) : Bool :=
  item.data = none || s.queueBytes + item.bytes.length ≤ maxQueuePcmBytes

/-- A chunk that waited for space is given up. -/
def drop (turn : TurnTag) : EngineRun :=
  { s with dropped := s.dropped ++ [(turn, s.admittedTurn)] }

/-- What is changed in the section of a call, and where the call is afterwards. -/
def produce (p : Producer) : EngineRun × Option WritePhase :=
  match p.phase with
  | .admitting =>
    match s.admitTurn? p.token with
    | none => (s, none)
    | some admitted => (admitted, some .admitted)
  | .admitted =>
    (s, some (.enqueueing
      { generation := s.pubGeneration, turnGeneration := s.turnGeneration, token := p.token }))
  | .enqueueing turn =>
    if s.hasSpace (p.item turn) then (s.enqueueItem (p.item turn), none)
    else (s, some (.waiting turn))
  | .waiting turn =>
    if turn.turnGeneration = s.turnGeneration then (s, some (.rechecking turn))
    else (s.drop turn, none)
  | .rechecking turn =>
    if turn.token = 0 ∨ turn.token = s.highestAdmitted then (s, some (.enqueueing turn))
    else (s.drop turn, none)

/-- A call goes on. -/
def produce? (index : ℕ) : Option EngineRun :=
  match s.producers[index]? with
  | none => none
  | some p =>
    some { (s.produce p).1 with
      producers := s.producers.updateIdx index
        ((s.produce p).2.map fun phase => { p with phase }) }

/-! ### The writer -/

/-- Whether an item of a turn passes a check. -/
def passes (turn : TurnTag) : EngineCheck → Bool
  | .active => s.publishOn
  | .generation => turn.generation = s.pubGeneration
  | .turn => turn.turnGeneration = s.turnGeneration
  | .admitted => turn.token = 0 || turn.token = s.highestAdmitted
  | .valid => s.validateTurn turn.token

/-- The writer takes up some work, beginning with the checks. -/
def workOn (item : QueueItem) (work : WriterWork) : EngineRun :=
  { s with writer := .working item work.checks work }

/-- The first item leaves the queue. -/
def popItem? : Option EngineRun :=
  match s.queueRing with
  | [] => none
  | item :: rest =>
    some { s with
      queueRing := rest
      queueBytes := s.queueBytes - item.bytes.length
      writer := .working item WriterWork.take.checks .take }

/-- The writer goes on with the frames that are left, or with the next item. -/
def writeFrames (item : QueueItem) (rest : List PcmByte) : EngineRun :=
  if rest = [] then { s with writer := .idle } else s.workOn item (.frames rest)

/-- How many of some bytes fill whole frames. -/
def wholeFrames (data : List PcmByte) : ℕ := data.length / frame24kBytes * frame24kBytes

/-- The writer takes the carry, with the chunk of an item behind it. What does not fill a frame is
carried over. -/
def take (item : QueueItem) : EngineRun :=
  match item.data with
  | none =>
    if s.carry = [] then { s with writer := .idle }
    else { s with carry := [] }.workOn item (.tail s.carry)
  | some chunk =>
    let data := s.carry ++ chunk
    { s with carry := data.drop (wholeFrames data) }.writeFrames item
      (data.take (wholeFrames data))

/-- A frame is emitted. -/
def emitFrame (bytes : List PcmByte) : EngineRun :=
  { s with
    frames := s.frames ++
      [{ bytes, generation := s.pubGeneration, cancelled := s.returned }] }

/-- The work of the writer after its checks. -/
def work (item : QueueItem) (emits : Bool) : WriterWork → EngineRun
  | .take => s.take item
  | .frames rest =>
    if emits then
      (s.emitFrame (rest.take frame24kBytes)).writeFrames item (rest.drop frame24kBytes)
    else { s with writer := .idle }
  | .tail bytes =>
    if emits then { s.emitFrame bytes with writer := .idle } else { s with writer := .idle }

/-- The writer goes on. -/
def write? (emits : Bool) : Option EngineRun :=
  match s.writer with
  | .idle => s.popItem?
  | .working item (check :: checks) work =>
    some (if s.passes item.turn check then { s with writer := .working item checks work }
      else { s with writer := .idle })
  | .working item [] work => some (s.work item emits work)

/-! ### Steps -/

/-- One critical section. -/
def next? : EngineStep → Option EngineRun
  | .activatePublish => some s.activatePublish
  | .deactivatePublish => some s.deactivatePublish
  | .writePCM chunk token => some (s.writePCM chunk token)
  | .flushAudio token => some (s.flushAudio token)
  | .produce index => s.produce? index
  | .cancelTurn token => some (s.cancelTurn token)
  | .clearQueueAndCarry index => s.clear? index
  | .write emits => s.write? emits

/-! ### What is on its way -/

/-- The PCM that was accepted and may still be emitted, in order. -/
def pending : List PcmByte :=
  s.writer.taken ++ (s.carry ++ (s.writer.held ++ s.queued))

/-- The PCM that was emitted, in order. -/
def emitted : List PcmByte := s.frames.flatMap EmittedFrame.bytes

end EngineRun

/-- Runs of an engine. -/
def engineSystem : TransitionSystem EngineRun EngineStep where
  init s := s = {}
  step s label s' := s.next? label = some s'

end Free4Chat
