import Free4Chat.Capability.Protocol
import Free4Chat.Transition.Reachable
import Mathlib.Algebra.Order.Group.Nat

/-!
# Process Adapters

Exchanges with an adapter hold a lock one after the other. Each writes a request and has a goroutine
read a line, which it may not wait for: the goroutine then stays behind.

* `AdapterCall`: an exchange, or a call of `Close`, and its goroutine.
* `ProcessAdapter.next?`: one critical section, one call or one event of the process.
* `ProcessAdapter.WellPaired`: what holds in every state that is reached.
-/

namespace Free4Chat

/-! ## Calls -/

/-- Where a call is. -/
inductive CallStage where
  | waiting
  -- The lock is held from here on.
  | checkingExit
  | checkingClosed
  | numbering
  | marshalling
  | writing (wire : List UInt8)
  | awaiting
  | failing (how : ExchangeEnd)
  | reaping (how : ExchangeEnd)
  -- The stages of `Close`.
  | closing
  | exiting
  | killing
  -- The lock was given back.
  | ended (how : ExchangeEnd)
  | closeEnded
deriving DecidableEq

/-- Whether the lock is held. -/
def CallStage.holds : CallStage → Bool
  | waiting | ended _ | closeEnded => false
  | _ => true

/-- Whether a request is on the pipe. -/
def CallStage.outstanding : CallStage → Bool
  | writing _ | awaiting | failing _ | reaping _ => true
  | _ => false

/-- A goroutine that reads a line, and what it read. -/
inductive LineReader where
  | reading
  | read (line : Except FrameError (List UInt8))

/-- A call. -/
structure AdapterCall where
  -- A call of `Close` has none.
  request : Option AdapterRequest
  id : String := ""
  stage : CallStage := .waiting
  reader : Option LineReader := none

/-- What happened. -/
inductive AdapterEvent where
  | wrote (index : ℕ) (wire : List UInt8)
  | ended (index : ℕ) (how : ExchangeEnd)
deriving DecidableEq

/-! ## State -/

/-- An adapter process. -/
structure ProcessAdapter where
  request : ℕ := 0
  closed : Bool := false
  killOnce : Bool := false
  -- Whether the process was waited for.
  done : Bool := false
  -- The call that holds the lock.
  callMu : Option ℕ := none
  stdout : BufferedReader UInt8
  calls : List AdapterCall := []
  -- All that the process wrote, and what happened.
  output : List UInt8 := []
  log : List AdapterEvent := []

/-- What a call meets in a step. -/
inductive CallChoice where
  | run
  -- A write fails.
  | failed
  -- A context or a timer ends.
  | timeout
  -- The process was waited for.
  | exited
deriving DecidableEq

/-- One step. -/
inductive AdapterStep where
  | call (request : Option AdapterRequest)
  | go (index : ℕ) (choice : CallChoice)
  | read (index : ℕ)
  -- Reading fails, since the output was closed here.
  | readFails (index : ℕ)
  -- The process writes, closes its output or ends.
  | writes (piece : List UInt8)
  | endsOutput
  | exits

namespace ProcessAdapter

variable (s : ProcessAdapter) (rules : AdapterRules)

/-- A call is replaced. -/
def setCall (index : ℕ) (call : AdapterCall) : ProcessAdapter :=
  { s with calls := s.calls.set index call }

/-- An exchange ends, and gives the lock back. -/
def endCall (index : ℕ) (call : AdapterCall) (how : ExchangeEnd) : ProcessAdapter :=
  { s with
    calls := s.calls.set index { call with stage := .ended how }
    callMu := none
    log := s.log ++ [.ended index how] }

/-- A call of `Close` ends, and gives the lock back. -/
def endClose (index : ℕ) (call : AdapterCall) : ProcessAdapter :=
  { s.setCall index { call with stage := .closeEnded } with callMu := none }

/-- A call waits for the lock, and takes it if it is free. -/
def acquire? (index : ℕ) (call : AdapterCall) : Option ProcessAdapter :=
  if s.callMu = none then
    let stage := if call.request.isSome then CallStage.checkingExit else .closing
    some { s.setCall index { call with stage } with callMu := some index }
  else none

/-- An exchange takes a number. -/
def number (index : ℕ) (call : AdapterCall) : ProcessAdapter :=
  let request := (s.request + 1) % 2 ^ 64
  { s.setCall index { call with stage := .marshalling, id := toString request } with request }

/-- An exchange starts to write, unless its request is too large. -/
def marshal (index : ℕ) (call : AdapterCall) : ProcessAdapter :=
  match call.request.bind fun request => rules.marshal request call.id with
  | none => s.endCall index call .largeRequest
  | some wire =>
    if maxFrameBytes < wire.length + 1 then s.endCall index call .largeRequest
    else
      { s.setCall index { call with stage := .writing (wire ++ [10]) } with
        log := s.log ++ [.wrote index (wire ++ [10])] }

/-- An exchange ends, and fails the process if it has to. -/
def finish (index : ℕ) (call : AdapterCall) (how : ExchangeEnd) : ProcessAdapter :=
  if how.fails then s.setCall index { call with stage := .failing how }
  else s.endCall index call how

/-- `fail`, up to the wait for the process. -/
def fail (index : ℕ) (call : AdapterCall) (how : ExchangeEnd) : ProcessAdapter :=
  if s.killOnce then s.endCall index call how
  else
    { s.setCall index { call with stage := .reaping how } with closed := true, killOnce := true }

/-- `Close`, up to the wait for the process. -/
def close (index : ℕ) (call : AdapterCall) : ProcessAdapter :=
  if s.closed then s.endClose index call
  else { s.setCall index { call with stage := .exiting } with closed := true }

/-- A step of a call. -/
def go? (index : ℕ) (call : AdapterCall) : CallStage → CallChoice → Option ProcessAdapter
  | .waiting, .run => s.acquire? index call
  | .checkingExit, .run =>
    if s.done then some (s.endCall index call .notAlive)
    else some (s.setCall index { call with stage := .checkingClosed })
  | .checkingClosed, .run =>
    if s.closed then some (s.endCall index call .notAlive)
    else some (s.setCall index { call with stage := .numbering })
  | .numbering, .run => some (s.number index call)
  | .marshalling, .run => some (s.marshal rules index call)
  | .writing _, .run =>
    some (s.setCall index { call with stage := .awaiting, reader := some .reading })
  | .writing _, .failed => some (s.finish index call .writeFailed)
  | .awaiting, .timeout => some (s.finish index call .timeout)
  | .awaiting, .exited => if s.done then some (s.finish index call .exited) else none
  | .awaiting, .run =>
    match call.reader with
    | some (.read line) => some (s.finish index call (rules.judge call.id line))
    | _ => none
  | .failing how, .run => some (s.fail index call how)
  -- The process has ended, or it has not in time.
  | .reaping how, _ => some (s.endCall index call how)
  | .closing, .run => some (s.close index call)
  | .exiting, .exited => if s.done then some (s.endClose index call) else none
  | .exiting, .timeout =>
    some { s.setCall index { call with stage := .killing } with killOnce := true }
  | .killing, _ => some (s.endClose index call)
  | _, _ => none

/-- The goroutine of a call reads a line, unless reading blocks. -/
def read? (index : ℕ) (call : AdapterCall) : Option ProcessAdapter :=
  match call.reader with
  | some .reading =>
    (readProtocolFrame s.stdout).map fun line =>
      { s.setCall index { call with reader := some (.read line.1) } with stdout := line.2 }
  | _ => none

/-- One step. -/
def next? : AdapterStep → Option ProcessAdapter
  | .call request => some { s with calls := s.calls ++ [{ request }] }
  | .go index choice => s.calls[index]?.bind fun call => s.go? rules index call call.stage choice
  | .read index => s.calls[index]?.bind fun call => s.read? index call
  | .readFails index =>
    s.calls[index]?.bind fun call =>
      match call.reader with
      | some .reading =>
        some (s.setCall index { call with reader := some (.read (.error .ended)) })
      | _ => none
  | .writes piece =>
    if s.stdout.ended then none
    else
      some
        { s with
          stdout := { s.stdout with pieces := s.stdout.pieces ++ [piece] }
          output := s.output ++ piece }
  | .endsOutput => some { s with stdout := { s.stdout with ended := true } }
  | .exits => some { s with done := true }

end ProcessAdapter

/-- Runs of an adapter, whose buffer has any size. -/
def adapterSystem (rules : AdapterRules) : TransitionSystem ProcessAdapter AdapterStep where
  init s := ∃ size, ∃ hpos : 0 < size, s = { stdout := ⟨size, hpos, [], [], false⟩ }
  step s step s' := s.next? rules step = some s'

/-! ## What should hold -/

/-- A line of what was written. -/
def IsLineOf (output line : List UInt8) : Prop :=
  ∃ before behind, output = before ++ line ++ 10 :: behind ∧ 10 ∉ line ∧
    (before = [] ∨ before.getLast? = some 10)

/-- The value of a string. -/
def GoJson.string? : GoJson → Option String
  | .string value => some value
  | _ => none

/-- The id of a frame: the last one, if there are several. -/
def frameID (members : List (String × List UInt8 × GoJson)) : Option String :=
  ((members.filter (·.1 = "id")).filterMap (·.2.2.string?)).getLast?

/-- A frame is a response to a request, with a result. -/
structure Answers (rules : AdapterRules) (frame : List UInt8) (id : String) (result : List UInt8) :
    Prop where
  answers : ∃ members, rules.parse frame = some (.object members) ∧
    (∀ name, name ∈ members.map Prod.fst ↔ name ∈ ["protocolVersion", "id", "result"]) ∧
    frameID members = some id ∧ fieldOf members "result" = some result
  bounded : result.length ≤ maxResultBytes
  harmless : rules.unsafeAdapterPayloadPattern result = false

/-- Exchanges after which nothing is written, and every call fails. -/
def ExchangeEnd.breaks : ExchangeEnd → Bool
  | timeout | exited | writeFailed | readFailed _ | malformed | largeResult | unsafeResult => true
  | _ => false

/-- What may happen once the process was ended. -/
def AdapterEvent.fails : AdapterEvent → Bool
  | wrote _ _ => false
  | ended _ how => how.outcome.toOption.isNone

/-- Whether the process was ended with an exchange. -/
def AdapterEvent.breaks : AdapterEvent → Bool
  | wrote _ _ => false
  | ended _ how => how.breaks

/-- What holds of an adapter. -/
structure ProcessAdapter.WellPaired (rules : AdapterRules) (s : ProcessAdapter) : Prop where
  -- A result is that of a line with the id of the request.
  paired : ∀ call ∈ s.calls, ∀ value, call.stage = .ended (.result value) →
    ∃ line, IsLineOf s.output line ∧ Answers rules line call.id value
  -- One request at most is on the pipe.
  single : ∀ (i j : ℕ) (call other : AdapterCall), s.calls[i]? = some call →
    s.calls[j]? = some other → call.stage.outstanding = true → other.stage.outstanding = true →
      i = j
  -- Once an exchange has failed, nothing is written and every call fails.
  broken : s.log.Pairwise fun event later => event.breaks = true → later.fails = true

/-- An adapter never pairs a response with another request, and lines are read as they are. -/
structure NeverMispairs (rules : AdapterRules) : Prop where
  wellPaired : ∀ s, (adapterSystem rules).Reachable s → s.WellPaired rules
  -- A line is read exactly if it is not empty, and fits with its end.
  readsLine : ∀ (reader : BufferedReader UInt8) (line : List UInt8),
    (∃ rest, readProtocolFrame reader = some (.ok line, rest)) ↔
      ∃ behind, reader.content = line ++ 10 :: behind ∧ 10 ∉ line ∧ line ≠ [] ∧
        line.length + 1 ≤ maxFrameBytes
  -- What is behind the line is left.
  leavesRest : ∀ (reader rest : BufferedReader UInt8) (line : List UInt8),
    readProtocolFrame reader = some (.ok line, rest) → reader.content = line ++ 10 :: rest.content
  -- Reading blocks only while there is no end of a line, and there may be one.
  completes : ∀ reader : BufferedReader UInt8, 10 ∈ reader.content ∨ reader.ended = true →
    readProtocolFrame reader ≠ none

end Free4Chat
