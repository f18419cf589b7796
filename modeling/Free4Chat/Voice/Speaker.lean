import Free4Chat.Transition.Reachable
import Free4Chat.Voice.Chunker

/-!
# Speaking Turns

A response is spoken as a turn: its chunks are queued, and a drain takes them one by one, has the
provider synthesize them, and writes the audio to a sink of the turn. A new turn cancels the one
that is being spoken. Every turn that starts should end once, be it finished, cancelled or failed.

The source breaks this in several places. Between two critical sections of a drain a turn may be
cancelled or replaced, and the drain goes on to speak a chunk or to report an end, even of the new
turn. A drain that is cancelled counts as draining until it has unwound, so that another `Cancel`
cancels the same turn again. And a drain that fails leaves the other chunks of its turn in the
queue, which the next drain speaks.

* `Drain` and `Speaker`: a drain between its critical sections, the Speaker, and its history.
* `Speaker.next?`: one step of a call or of the drain.
* `Speaker.TurnsEndOnce`: what should hold in every state that is reached.
* `Speaker.inTime`: the condition under which it does.
-/

namespace Free4Chat

/-! ## State -/

/-- A chunk in the queue. The history says of which turn it is. -/
structure TurnChunk where
  turn : ℕ
  text : String
deriving DecidableEq

/-- Kinds of events. -/
inductive SpeakerEventType where
  | turnStarted
  | turnFinished
  | turnCancelled
  | turnTruncated
  | turnFailed
deriving DecidableEq

/-- Whether a turn ends with an event. -/
def SpeakerEventType.terminal : SpeakerEventType → Bool
  | .turnFinished => true
  | .turnCancelled => true
  | .turnFailed => true
  | _ => false

/-- An event. -/
structure SpeakerEvent where
  type : SpeakerEventType
  turn : ℕ
  chunks : ℕ := 0
  frames : ℕ := 0
  droppedChunks : ℕ := 0
  -- The code of a failure, in bytes.
  code : List UInt8 := []
deriving DecidableEq

/-- What a drain does next: it waits at the gate, reads the epoch, takes a chunk, creates a session,
looks whether it is still current, calls the provider, and waits for it, which hands audio over
until it returns. It then looks again, reads what it has to report, ends the turn at the sink,
reports, and unwinds. -/
inductive DrainStage where
  | acquire
  | readEpoch
  | next
  | create (chunk : TurnChunk)
  | recheck (chunk : TurnChunk)
  | call (chunk : TurnChunk)
  | synthesize (chunk : TurnChunk)
  | ensureSink (chunk : TurnChunk)
  | createSink (chunk : TurnChunk)
  | write (chunk : TurnChunk) (sink : ℕ)
  | settle
  | report
  | endTurn (sink : Option ℕ) (started : Bool) (turn : ℕ)
  | finish (turn : ℕ)
  | fail
  | failed (turn : ℕ)
  | unwind
deriving DecidableEq

/-- A drain at work. -/
structure Drain where
  id : ℕ
  -- The context of the drain was cancelled.
  cancelled : Bool := false
  stage : DrainStage := .acquire
  epoch : ℕ := 0
  session : Bool := false
  chunks : ℕ := 0
  frames : ℕ := 0
  failed : Bool := false
  code : List UInt8 := []
  turnToken : ℕ := 0
  -- Audio was refused because the turn is stale.
  stale : Bool := false
  -- The turn of the chunk that was taken last.
  turn : Option ℕ := none
deriving DecidableEq

/-- Whether a drain is about to call the provider or to report an end. -/
def Drain.committed (d : Drain) : Bool :=
  match d.stage with
  | .call _ => true
  | .settle => d.failed
  | .report => true
  | .endTurn _ _ _ => true
  | .finish _ => true
  | .fail => true
  | .failed _ => true
  | _ => false

/-- What `cancelLocked` leaves to be done outside the lock: the context of a drain to be cancelled,
and a token that the sinks are to refuse. -/
structure CancelAction where
  drain : Option ℕ
  token : Option ℕ
deriving DecidableEq

/-- What a call has still to do: a cancellation, and to start a drain. -/
structure SpeakerCall where
  action : Option CancelAction
  starts : Bool
deriving DecidableEq

/-- A turn that was started, with its chunks. -/
structure StartedTurn where
  turn : ℕ
  chunks : List String
deriving DecidableEq

/-- A chunk that was given to the provider, and whether its turn had ended. -/
structure SpokenChunk where
  chunk : TurnChunk
  late : Bool
deriving DecidableEq

/-- An event that was emitted, and the turn of which the drain at work had taken chunks. -/
structure EmittedEvent where
  event : SpeakerEvent
  spoke : Option ℕ
deriving DecidableEq

/-- Whether an event that ends a turn carries the number of the turn that was spoken. A turn may be
cancelled before any of its chunks was taken. -/
def EmittedEvent.Attributed (entry : EmittedEvent) : Prop :=
  if entry.event.type = .turnCancelled then ∀ turn ∈ entry.spoke, turn = entry.event.turn
  else entry.spoke = some entry.event.turn

/-- The Speaker. A sink is known by the token it was created for. -/
structure Speaker where
  maxQueuedChunks : ℕ
  maxQueuedChunks_pos : 0 < maxQueuedChunks
  maxChunkChars : ℤ
  pending : List TurnChunk := []
  epoch : ℕ := 0
  turnCounter : ℕ := 0
  lastStarted : ℕ := 0
  lastStartedSet : Bool := false
  stopped : Bool := false
  sink : Option ℕ := none
  sinkTurn : ℕ := 0
  sinkBroken : Bool := false
  -- The drain at work. There is one while `draining` is set.
  drain : Option Drain := none
  -- The calls that left their critical section.
  calls : List SpeakerCall := []
  -- What happened so far.
  drains : ℕ := 0
  turns : List StartedTurn := []
  spoken : List SpokenChunk := []
  -- The audio that was written: of which turn it is, and the sink.
  writes : List (ℕ × ℕ) := []
  events : List EmittedEvent := []
  cancelledTokens : List ℕ := []

/-- How a call of the provider ends. -/
inductive SynthesisOutcome where
  | done
  | stale
  | failed (code : List UInt8)
deriving DecidableEq

/-- A step of the Speaker. -/
inductive SpeakerStep where
  | speak (text : String)
  | cancel
  | close
  -- A call goes on outside the lock.
  | act (index : ℕ)
  | startDrain (index : ℕ)
  -- The drain goes on. What the gate, the provider and the sinks do is part of the step.
  | acquire (acquired : Bool)
  | readEpoch
  | next
  | create (failure : Option (List UInt8))
  | recheck
  | call
  | audio
  | ensureSink
  | createSink (created : Bool)
  | write (written : Bool)
  | synthesized (outcome : SynthesisOutcome)
  | settle
  | report
  | endTurn (failure : Option (List UInt8))
  | finish
  | fail
  | failed
  | unwind
deriving DecidableEq

/-- The first bytes of the code of a failure. -/
def trim160 (code : List UInt8) : List UInt8 := code.take 160

namespace Speaker

variable (s : Speaker)

/-! ## Calls -/

/-- Emit an event. -/
def emit (event : SpeakerEvent) (spoke : Option ℕ) : Speaker :=
  { s with events := s.events ++ [⟨event, spoke⟩] }

/-- The turns that have ended, in this order. -/
def endings : List ℕ :=
  (s.events.filter fun entry => entry.event.type.terminal).map (·.event.turn)

/-- Whether a drain is current: neither the Speaker was closed nor the turn was cancelled. -/
def current (d : Drain) : Bool := !s.stopped && s.epoch = d.epoch

/-- The turn of which the current drain has taken chunks. -/
def speaking : Option ℕ :=
  (s.drain.filter fun d => s.current d).bind (·.turn)

/-- Whether `cancelLocked` finds something to cancel. -/
def busy : Bool := !s.pending.isEmpty || s.drain.isSome

/-- The token of the turn that was started last. -/
def token : ℕ := if s.lastStartedSet then s.lastStarted else 0

/-- What `cancelLocked` leaves to be done. -/
def cancelAction : Option CancelAction :=
  let token := if s.sink.isSome && s.sinkTurn = s.token || s.token ≠ 0 then some s.token else none
  match s.drain, token with
  | none, none => none
  | drain, token => some { drain := drain.map (·.id), token }

/-- `cancelLocked`. -/
def cancelLocked : Speaker :=
  if s.busy then
    let cancelled := { s with epoch := s.epoch + 1, pending := [] }
    if s.lastStartedSet then
      cancelled.emit { type := .turnCancelled, turn := s.lastStarted } s.speaking
    else cancelled
  else s

/-- The action of `cancelLocked`. -/
def cancelledAction : Option CancelAction := if s.busy then s.cancelAction else none

/-- Leave something to be done outside the lock. -/
def leave (action : Option CancelAction) (starts : Bool) : Speaker :=
  if action = none ∧ starts = false then s else { s with calls := s.calls ++ [⟨action, starts⟩] }

/-- The chunks of a text that can be read. -/
def readableChunks (isReadable : Char → Bool) (text : String) : List String :=
  let chunker := Chunker.new s.maxChunkChars
  ((chunker.push text).1 ++ (chunker.push text).2.flush.1).filter fun chunk =>
    chunk ≠ "" && chunk.toList.any isReadable

/-- Queue the chunks of a new turn. -/
def startTurn (turn : ℕ) (chunks : List String) : Speaker :=
  let kept := chunks.take s.maxQueuedChunks
  let dropped := chunks.length - s.maxQueuedChunks
  let truncated :=
    if s.maxQueuedChunks < chunks.length then
      s.emit { type := .turnTruncated, turn, droppedChunks := dropped } none
    else s
  { truncated with
    pending := truncated.pending ++ kept.map fun text => ⟨turn, text⟩
    lastStarted := turn
    lastStartedSet := true
    turns := truncated.turns ++ [⟨turn, kept⟩]
    events := truncated.events ++ [⟨{ type := .turnStarted, turn }, none⟩] }

/-- The critical section of `Speak`. A text that cannot be read starts no turn, and the action of
`cancelLocked` is dropped. -/
def speak (isReadable : Char → Bool) (text : String) : Speaker :=
  if s.stopped then s
  else
    let cancelled := { s.cancelLocked with turnCounter := s.turnCounter + 1 }
    let chunks := s.readableChunks isReadable text
    if chunks = [] then cancelled
    else (cancelled.startTurn (s.turnCounter + 1) chunks).leave s.cancelledAction true

/-- The critical section of `Cancel`. -/
def cancel : Speaker := s.cancelLocked.leave s.cancelledAction false

/-- The critical section of `Close`. It then cancels the drain, waits for it, and closes the
sink. -/
def close : Speaker :=
  { s with
    stopped := true
    epoch := s.epoch + 1
    pending := []
    sink := none
    calls :=
      match s.drain with
      | some d => s.calls ++ [⟨some { drain := some d.id, token := none }, false⟩]
      | none => s.calls }

/-- Cancel the context of a drain, if it is the one at work. -/
def cancelDrain (id : Option ℕ) : Speaker :=
  { s with
    drain := s.drain.map fun d => if some d.id = id then { d with cancelled := true } else d }

/-- A call does what `cancelLocked` left. -/
def act (index : ℕ) (call : SpeakerCall) (action : CancelAction) : Speaker :=
  { s.cancelDrain action.drain with
    cancelledTokens := s.cancelledTokens ++ action.token.toList
    calls :=
      if call.starts then s.calls.set index { call with action := none }
      else s.calls.eraseIdx index }

/-- `startDrain`, unless there is a drain. -/
def startDrain (index : ℕ) : Speaker :=
  let called := { s with calls := s.calls.eraseIdx index }
  if s.drain.isSome then called
  else { called with drain := some { id := s.drains }, drains := s.drains + 1 }

/-! ## The drain -/

/-- The drain goes on. -/
def goOn (d : Drain) (stage : DrainStage) : Speaker := { s with drain := some { d with stage } }

/-- The drain takes the next chunk, or stops. -/
def takeNext (d : Drain) : Speaker :=
  if s.current d then
    match s.pending with
    | [] => s.goOn d .settle
    | chunk :: pending =>
      ({ s with pending } : Speaker).goOn
        { d with turnToken := s.turnCounter, turn := some chunk.turn }
        (if d.session then .recheck chunk else .create chunk)
  else s.goOn d .settle

/-- The provider created a session, or failed. -/
def createSession (d : Drain) (chunk : TurnChunk) : Option (List UInt8) → Speaker
  | some code => s.goOn { d with failed := true, code := trim160 code } .settle
  | none => s.goOn { d with session := true } (.recheck chunk)

/-- The provider is called with a chunk. -/
def call (d : Drain) (chunk : TurnChunk) : Speaker :=
  ({ s with spoken := s.spoken ++ [⟨chunk, chunk.turn ∈ s.endings⟩] } : Speaker).goOn d
    (.synthesize chunk)

/-- The provider hands audio over. -/
def audio (d : Drain) (chunk : TurnChunk) : Speaker :=
  if s.current d then s.goOn d (.ensureSink chunk)
  else s.goOn { d with stale := true } (.synthesize chunk)

/-- `ensureSink` looks for the sink of the turn. -/
def ensureSink (d : Drain) (chunk : TurnChunk) : Speaker :=
  match s.sink with
  | some sink =>
    if !s.sinkBroken && s.sinkTurn = d.turnToken then s.goOn d (.write chunk sink)
    else s.goOn d (.createSink chunk)
  | none => s.goOn d (.createSink chunk)

/-- `ensureSink` stores a new sink, if it was created. -/
def createSink (d : Drain) (chunk : TurnChunk) (created : Bool) : Speaker :=
  if created then
    ({ s with sink := some d.turnToken, sinkTurn := d.turnToken, sinkBroken := false } :
      Speaker).goOn d (.write chunk d.turnToken)
  else s.goOn d (.synthesize chunk)

/-- Audio is written to the sink. -/
def write (d : Drain) (chunk : TurnChunk) (sink : ℕ) (written : Bool) : Speaker :=
  ({ s with writes := s.writes ++ [(chunk.turn, sink)] } : Speaker).goOn
    { d with frames := if written then d.frames + 1 else d.frames } (.synthesize chunk)

/-- The provider returns. -/
def synthesized (d : Drain) : SynthesisOutcome → Option Speaker
  | .done => some (s.goOn { d with chunks := d.chunks + 1, stale := false } .next)
  | .stale => if d.stale then some (s.goOn d .settle) else none
  | .failed code =>
    some (({ s with sinkBroken := true } : Speaker).goOn
      { d with failed := true, code := trim160 code } .settle)

/-- The drain looks whether it has something to report. -/
def settle (d : Drain) : Speaker :=
  s.goOn d (if d.failed then .fail else if s.current d then .report else .unwind)

/-- The drain ends the turn at the sink, which may fail. -/
def endTurn (d : Drain) (sink : Option ℕ) (started : Bool) (turn : ℕ)
    (failure : Option (List UInt8)) : Speaker :=
  match sink, failure with
  | some _, some code =>
    if 0 < d.frames then s.goOn { d with failed := true, code := trim160 code } .fail
    else s.goOn d (if started then .finish turn else .unwind)
  | _, _ => s.goOn d (if started then .finish turn else .unwind)

/-- The drain is over. Another one is started if something is left. -/
def unwind : Speaker :=
  let unwound := { s with drain := none }
  if !s.stopped && !s.pending.isEmpty then unwound.leave none true else unwound

/-! ## Steps -/

/-- A step of the drain at work. -/
def drainStep? (d : Drain) : SpeakerStep → Option Speaker
  | .acquire acquired =>
    -- The gate refuses only a context that was cancelled.
    if d.stage = .acquire ∧ (acquired = false → d.cancelled = true) then
      some (s.goOn d (if acquired then .readEpoch else .unwind))
    else none
  | .readEpoch =>
    if d.stage = .readEpoch then some (s.goOn { d with epoch := s.epoch } .next) else none
  | .next => if d.stage = .next then some (s.takeNext d) else none
  | .create failure =>
    match d.stage with
    | .create chunk => some (s.createSession d chunk failure)
    | _ => none
  | .recheck =>
    match d.stage with
    | .recheck chunk => some (s.goOn d (if s.current d then .call chunk else .settle))
    | _ => none
  | .call =>
    match d.stage with
    | .call chunk => some (s.call d chunk)
    | _ => none
  | .audio =>
    match d.stage with
    | .synthesize chunk => some (s.audio d chunk)
    | _ => none
  | .ensureSink =>
    match d.stage with
    | .ensureSink chunk => some (s.ensureSink d chunk)
    | _ => none
  | .createSink created =>
    match d.stage with
    | .createSink chunk => some (s.createSink d chunk created)
    | _ => none
  | .write written =>
    match d.stage with
    | .write chunk sink => some (s.write d chunk sink written)
    | _ => none
  | .synthesized outcome =>
    match d.stage with
    | .synthesize _ => s.synthesized d outcome
    | _ => none
  | .settle => if d.stage = .settle then some (s.settle d) else none
  | .report =>
    if d.stage = .report then
      some (s.goOn d (.endTurn s.sink s.lastStartedSet s.lastStarted))
    else none
  | .endTurn failure =>
    match d.stage with
    | .endTurn sink started turn => some (s.endTurn d sink started turn failure)
    | _ => none
  | .finish =>
    match d.stage with
    | .finish turn =>
      some ((s.emit { type := .turnFinished, turn, chunks := d.chunks, frames := d.frames }
        d.turn).goOn d .unwind)
    | _ => none
  | .fail => if d.stage = .fail then some (s.goOn d (.failed s.lastStarted)) else none
  | .failed =>
    match d.stage with
    | .failed turn =>
      some ((s.emit { type := .turnFailed, turn, code := d.code } d.turn).goOn d .unwind)
    | _ => none
  | .unwind => if d.stage = .unwind then some s.unwind else none
  | _ => none

/-- One step. -/
def next? (isReadable : Char → Bool) : SpeakerStep → Option Speaker
  | .speak text => some (s.speak isReadable text)
  | .cancel => some s.cancel
  | .close => some s.close
  | .act index =>
    match s.calls[index]? with
    | some ⟨some action, starts⟩ => some (s.act index ⟨some action, starts⟩ action)
    | _ => none
  | .startDrain index =>
    if s.calls[index]? = some ⟨none, true⟩ then some (s.startDrain index) else none
  | step => s.drain.bind fun d => s.drainStep? d step

/-! ## What should hold -/

/-- The chunks of a turn that were given to the provider, in this order. -/
def spokenOf (turn : ℕ) : List String :=
  (s.spoken.filter fun entry => entry.chunk.turn = turn).map (·.chunk.text)

/-- Turns end once: at most once at any time, and by the time that nothing is left to do unless the
Speaker was closed. They are reported under their own numbers, nothing is spoken of a turn that has
ended, what is spoken of a turn are its first chunks in their order, and its audio goes to its own
sinks. -/
structure TurnsEndOnce : Prop where
  endedOnce : s.endings.Nodup
  allEnded : s.stopped = false → s.drain = none → s.pending = [] →
    ∀ started ∈ s.turns, started.turn ∈ s.endings
  attributed : ∀ entry ∈ s.events, entry.event.type.terminal = true →
    entry.Attributed
  silent : ∀ entry ∈ s.spoken, entry.late = false
  inOrder : ∀ started ∈ s.turns, s.spokenOf started.turn <+: started.chunks
  ownToken : ∀ entry ∈ s.writes, entry.2 = entry.1

/-! ## The runs in which it holds -/

/-- Whether the turn that was started last has not ended. -/
def live : Bool := s.lastStarted ∉ s.endings

/-- Whether a cancellation comes in time: the turn has not ended, and no drain is about to speak or
to report an end. -/
def mayCancel : Bool := !s.busy || s.live && s.drain.all fun d => !d.committed

/-- The condition: a turn is cancelled only in time, a drain reads the epoch only if something is
queued, it takes a chunk only of a turn that has not ended, and the provider fails only for the turn
that was started last and has not ended. -/
def inTime : SpeakerStep → Bool
  | .speak _ => s.stopped || s.mayCancel
  | .cancel => s.mayCancel
  | .readEpoch => s.stopped || !s.pending.isEmpty
  | .next => s.live || s.pending.isEmpty || !s.drain.any fun d => s.current d
  | .create (some _) => s.live && s.drain.all fun d => d.turnToken = s.lastStarted
  | .synthesized (.failed _) => s.live && s.drain.all fun d => d.turnToken = s.lastStarted
  | _ => true

end Speaker

/-- The Speaker as a transition system, with any bounds. -/
def speakerSystem (isReadable : Char → Bool) : TransitionSystem Speaker SpeakerStep where
  init s := ∃ maxQueuedChunks maxQueuedChunks_pos maxChunkChars,
    s = { maxQueuedChunks, maxQueuedChunks_pos, maxChunkChars }
  step s step s' := s.next? isReadable step = some s'

end Free4Chat
