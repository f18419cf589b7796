import Free4Chat.Data.LongestSuffix
import Free4Chat.Media.Bridge
import Free4Chat.Media.CapabilityRequests
import Free4Chat.Transition.Fairness

/-!
# Transcript Store

The notes of a meeting: what was said last is kept in memory and written to a file. Calls change
the memory under a lock. The file is written by a goroutine of its own, to which they send the
writes through a channel with 256 slots. A write that finds the channel full is dropped. Disposal
sends the removal of the file and waits for a slot with the lock held.

* `TranscriptSegment` and `renderLocked`: what was said, and how it is written.
* `TranscriptStore`: the store, its file, and the calls that have begun.
* `TranscriptStore.next?`: one critical section, or one step of the writer. `transcriptStoreSystem`: the
  transition system.
-/

namespace Free4Chat

/-! ## Segments -/

/-- Most segments in memory. -/
def maxTranscriptSegments : ℕ := 500

/-- Most text in memory, in bytes. -/
def maxTranscriptChars : ℕ := 64000

/-- An utterance that was committed. -/
structure TranscriptSegment where
  sequence : ℕ
  participantID : String
  speaker : String
  text : String
deriving DecidableEq

/-- The memory as it is handed out, with the path of the file. -/
structure TranscriptSnapshot where
  path : String
  segments : List TranscriptSegment
deriving DecidableEq

/-- The path that is handed out. -/
def harnessTranscriptPath : String := ".meeting-notes/transcript.jsonl"

/-- How much text there is. -/
def totalChars (segments : List TranscriptSegment) : ℕ :=
  (segments.map (·.text.utf8ByteSize)).sum

/-- Whether segments fit into memory. -/
def TranscriptFits (segments : List TranscriptSegment) : Prop :=
  segments.length ≤ maxTranscriptSegments ∧ totalChars segments ≤ maxTranscriptChars

instance : DecidablePred TranscriptFits := fun _ => inferInstanceAs (Decidable (_ ∧ _))

/-- A segment as `json.Marshal` writes it. -/
def TranscriptSegment.marshal (segment : TranscriptSegment) : String :=
  JsonText.object
    [("sequence", toString segment.sequence), ("participantId", goString segment.participantID),
      ("speaker", goString segment.speaker), ("text", goString segment.text)]

/-- The contents of the file. -/
def renderLocked (segments : List TranscriptSegment) : String :=
  if segments = [] then ""
  else "\n".intercalate (segments.map TranscriptSegment.marshal) ++ "\n"

/-! ## State -/

/-- What the writer is asked for. -/
inductive WriterTask where
  | write (contents : String)
  -- A call of `Flush` is told that its turn has come.
  | flush (call : ℕ)
  -- The file is removed, and a call of `Dispose` is told so.
  | remove (call : ℕ)
deriving DecidableEq

/-- The call that a task tells. -/
def WriterTask.tells : WriterTask → Option ℕ
  | write _ => none
  | flush call => some call
  | remove call => some call

/-- A call of the store. -/
inductive TranscriptCall where
  | record (source : AudioSource) (text : String)
  | snapshot
  | flush
  | dispose
deriving DecidableEq

/-- Where a call is. -/
inductive CallPhase where
  -- It was not made.
  | unmade
  | entering
  -- `Dispose` waits for a slot, with the lock held.
  | sending
  -- `Dispose` got a slot and still holds the lock.
  | sent
  -- It waits until the writer has told some call.
  | awaiting (call : ℕ)
  | returned (snapshot : Option TranscriptSnapshot)
deriving DecidableEq

/-- A store with its file and its calls. -/
structure TranscriptStore where
  segments : List TranscriptSegment := []
  nextSequence : ℕ := 0
  disposed : Bool := false
  -- The call whose channel is closed when the file is removed.
  disposeDone : Option ℕ := none
  -- The call that holds the lock between two steps.
  lock : Option ℕ := none
  -- The tasks in the channel, and the task that the writer is at.
  writeQ : List WriterTask := []
  task : Option WriterTask := none
  -- The contents of the file, if there is one.
  file : Option String := none
  calls : ℕ → TranscriptCall × CallPhase := fun _ => (.snapshot, .unmade)
  -- The calls whose channels are closed.
  closed : List ℕ := []
  -- The segments that were recorded, and the writes that reached the file.
  accepted : List TranscriptSegment := []
  writes : List String := []

/-- One step. -/
inductive TranscriptStep where
  | call (id : ℕ) (call : TranscriptCall)
  -- A call goes on.
  | goOn (id : ℕ)
  -- The writer takes a task.
  | receive
  -- The writer does its task. A write may fail.
  | doTask (ok : Bool)
deriving DecidableEq

namespace TranscriptStore

variable (s : TranscriptStore)

/-- Slots of the channel. -/
def writeSlots : ℕ := 256

/-- The phase of a call. -/
def phase (id : ℕ) : CallPhase := (s.calls id).2

/-- A call is at a phase. -/
def setPhase (id : ℕ) (phase : CallPhase) : TranscriptStore :=
  { s with calls := Function.update s.calls id ((s.calls id).1, phase) }

/-- A task is sent. -/
def send (task : WriterTask) : TranscriptStore :=
  { s with writeQ := s.writeQ ++ [task] }

/-- `scheduleWrite`: a write is sent, if there is a slot. -/
def scheduleWrite (contents : String) : TranscriptStore :=
  if s.writeQ.length < writeSlots then s.send (.write contents) else s

/-! ## Calls -/

/-- `Record`, with the lock. -/
def record (source : AudioSource) (text : String) : TranscriptStore :=
  let normalized := trimSpace text
  if normalized = "" ∨ s.disposed = true then s
  else
    let segment : TranscriptSegment := {
      sequence := s.nextSequence + 1
      participantID := source.participantID
      speaker := source.participantName
      text := normalized }
    let segments := (s.segments ++ [segment]).longestSuffix TranscriptFits
    { s with
      nextSequence := s.nextSequence + 1
      segments
      accepted := s.accepted ++ [segment] }.scheduleWrite (renderLocked segments)

/-- `Snapshot`, with the lock. -/
def snapshot : TranscriptSnapshot where
  path := harnessTranscriptPath
  segments := s.segments

/-- `Flush`. It does not wait for a slot. -/
def flush (id : ℕ) : TranscriptStore :=
  if s.writeQ.length < writeSlots then
    (s.send (.flush id)).setPhase id (.awaiting id)
  else s.setPhase id (.returned none)

/-- `Dispose`, up to where it may wait. Another disposal is waited for. -/
def dispose (id : ℕ) : TranscriptStore :=
  if s.disposed then
    match s.disposeDone with
    | some done => s.setPhase id (.awaiting done)
    | none => s.setPhase id (.returned none)
  else
    let disposed := { s with disposed := true, disposeDone := some id }
    if s.writeQ.length < writeSlots then
      (disposed.send (.remove id)).setPhase id (.awaiting id)
    else ({ disposed with lock := some id } : TranscriptStore).setPhase id .sending

/-- Whether a call needs the lock. -/
def needsLock : TranscriptCall → Bool
  | .record _ text => trimSpace text ≠ ""
  | .snapshot => true
  | .flush => false
  | .dispose => true

/-- A call enters. -/
def enter (id : ℕ) : TranscriptCall → TranscriptStore
  | .record source text => (s.record source text).setPhase id (.returned none)
  | .snapshot => s.setPhase id (.returned (some s.snapshot))
  | .flush => s.flush id
  | .dispose => s.dispose id

/-- A call goes on, unless it has to wait. -/
def goOn? (id : ℕ) : Option TranscriptStore :=
  match s.phase id with
  | .unmade => none
  | .entering =>
    if needsLock (s.calls id).1 = true ∧ s.lock ≠ none then none
    else some (s.enter id (s.calls id).1)
  | .sending => none
  | .sent => some ({ s with lock := none }.setPhase id (.awaiting id))
  | .awaiting call => if call ∈ s.closed then some (s.setPhase id (.returned none)) else none
  | .returned _ => none

/-! ## The writer -/

/-- A call that waits for a slot gets the one that has become free. -/
def serveSender : TranscriptStore :=
  match s.lock with
  | some id =>
    if s.phase id = .sending then (s.send (.remove id)).setPhase id .sent else s
  | none => s

/-- The writer takes a task. Its slot goes to the call that waits for one, if there is one. -/
def receive? : Option TranscriptStore :=
  match s.task, s.writeQ with
  | none, task :: rest =>
    some ({ s with task := some task, writeQ := rest } : TranscriptStore).serveSender
  | _, _ => none

/-- The writer does its task. A write that fails does not reach the file. -/
def doTask? (ok : Bool) : Option TranscriptStore :=
  s.task.map fun task =>
    let s := { s with task := none }
    match task with
    | .write contents =>
      if ok then { s with file := some contents, writes := s.writes ++ [contents] } else s
    | .flush call => { s with closed := call :: s.closed }
    | .remove call => { s with file := none, closed := call :: s.closed }

/-! ## Steps -/

/-- One step. -/
def next? : TranscriptStep → Option TranscriptStore
  | .call id call =>
    if s.phase id = .unmade then
      some { s with calls := Function.update s.calls id (call, .entering) }
    else none
  | .goOn id => s.goOn? id
  | .receive => s.receive?
  | .doTask ok => s.doTask? ok

end TranscriptStore

/-- Runs of a store that is empty. There may be a file already. -/
def transcriptStoreSystem : TransitionSystem TranscriptStore TranscriptStep where
  init s := ∃ file, s = { file }
  step s step s' := s.next? step = some s'

end Free4Chat
