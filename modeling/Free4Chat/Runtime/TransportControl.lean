import Free4Chat.Media.ParticipantTransport

/-!
# Control of the Participant Transport

The part of the Runtime that decides which transport there is: goroutines that create, start and
update transports, and timers that retry. They run between the critical sections of the Runtime, so
that each looks again whether it is still the one that is wanted. What a transport does is left to
the outcomes of its start and of its updates.

* `TransportControl`: the Runtime, the transports, the timers and the goroutines.
* `TransportControl.next?`: one critical section, or one operation of a goroutine.
  `transportControlSystem`: the transition system.
-/

namespace Free4Chat

/-! ## State -/

/-- How the Runtime is set up. -/
structure TransportSetup where
  -- The JSON of a projection.
  signature : TransportProjection → String
  valid : TransportProjection → Bool
  -- Whether there is a handler of capabilities and a site to connect to.
  handled : Bool
  -- Whether transports can be updated.
  updatable : Bool

/-- What a goroutine was started for. -/
structure TransportWork where
  projection : TransportProjection
  generation : ℕ
deriving DecidableEq

/-- Where a goroutine is. -/
inductive TransportPhase where
  -- An observation closes what it detached, and starts another transport or not.
  | closing (old : Option ℕ) (start : Bool)
  -- `startRuntimeParticipantTransport`, before and after its first look.
  | starting
  | building
  -- The factory has returned a transport.
  | installing (transport : ℕ)
  -- It is not wanted any more.
  | refusing (transport : ℕ)
  -- `Start` is at work, and has returned.
  | running (transport : ℕ)
  | startFailed (transport : ℕ)
  | failed (transport : ℕ)
  | succeeded (transport : ℕ)
  -- `updateRuntimeParticipantTransport`, before and after it got its lock.
  | waiting (transport : ℕ)
  | checking (transport : ℕ)
  -- `Update` is at work, and has returned.
  | updating (transport : ℕ)
  | updateFailed (transport : ℕ)
  | updateSucceeded (transport : ℕ)
deriving DecidableEq

namespace TransportPhase

/-- The transport that a goroutine is about to close. -/
def closes : TransportPhase → Option ℕ
  | closing old _ => old
  | refusing transport => some transport
  | startFailed transport => some transport
  | _ => none

/-- Whether a goroutine holds the lock of updates. -/
def locks : TransportPhase → Bool
  | checking _ | updating _ | updateFailed _ | updateSucceeded _ => true
  | _ => false

/-- Whether a goroutine updates a transport. -/
def updates : TransportPhase → Bool
  | waiting _ => true
  | phase => phase.locks

end TransportPhase

/-- A goroutine. -/
structure TransportGoroutine where
  work : TransportWork
  phase : TransportPhase
deriving DecidableEq

/-- What has become of a timer. -/
inductive TimerStatus where
  | armed
  -- Its callback waits for the lock of the Runtime.
  | fired
  -- It was stopped, or its callback has run.
  | over
deriving DecidableEq

/-- A timer that retries, with an update or with another start. -/
structure RetryTimer where
  work : TransportWork
  update : Option ℕ
  status : TimerStatus := .armed
deriving DecidableEq

/-- The Runtime, the transports, the timers and the goroutines. -/
structure TransportControl where
  setup : TransportSetup
  stopped : Bool := false
  generation : ℕ := 0
  -- The signature of the projection, or nothing.
  projection : String := ""
  transport : Option ℕ := none
  started : Bool := false
  retryTimer : Option ℕ := none
  retryCount : ℕ := 0
  -- Whether the transports that the factory has returned are closed.
  made : List Bool := []
  timers : List RetryTimer := []
  goroutines : List TransportGoroutine := []
  -- The transports that were updated, with the generations of the updates.
  updated : List (ℕ × ℕ) := []

/-- A critical section, or an operation of a goroutine. -/
inductive TransportControlStep where
  | observe (projection : TransportProjection)
  | setResidentStream
  | beginStop
  | releaseResources
  -- A goroutine goes on. The factory, a start or an update may fail.
  | goOn (index : ℕ) (succeeds : Bool)
  -- A timer fires, and its callback gets the lock of the Runtime.
  | fire (timer : ℕ)
  | callback (timer : ℕ)

namespace TransportControl

variable (c : TransportControl)

/-! ## Generations -/

/-- A timer is stopped, unless it has fired. -/
def stopTimer (timer : RetryTimer) : RetryTimer :=
  if timer.status = .armed then { timer with status := .over } else timer

/-- The Runtime begins with another generation, and the timer is stopped. -/
def renew : TransportControl :=
  { c with
    generation := c.generation + 1
    timers := match c.retryTimer with
      | none => c.timers
      | some timer => c.timers.modify timer stopTimer
    retryTimer := none
    retryCount := 0 }

/-- A goroutine is started. -/
def spawn (work : TransportWork) (phase : TransportPhase) : TransportControl :=
  { c with goroutines := c.goroutines ++ [⟨work, phase⟩] }

/-- A goroutine goes on, or ends. -/
def become (index : ℕ) (goroutine : Option TransportGoroutine) : TransportControl :=
  { c with goroutines := c.goroutines.updateIdx index goroutine }

/-- A transport is closed. -/
def close (transport : ℕ) : TransportControl :=
  { c with made := c.made.set transport true }

/-- Whether a goroutine or a timer was started for the projection that there is. -/
def isCurrent (work : TransportWork) : Bool :=
  !c.stopped && c.generation = work.generation && c.projection = c.setup.signature work.projection

/-! ## Projections -/

/-- `observeRuntimeParticipantTransport`, its critical section. -/
def observe (projection : TransportProjection) : TransportControl :=
  if c.stopped = true ∨ c.setup.signature projection = c.projection then c
  else
    let renewed := { c.renew with projection := c.setup.signature projection }
    let work : TransportWork := ⟨projection, c.generation + 1⟩
    let starts := c.setup.valid projection && projection.routes ≠ [] && c.setup.handled
    match c.transport with
    | some old =>
      if c.started && starts && c.setup.updatable then renewed.spawn work (.waiting old)
      else
        ({ renewed with transport := none, started := false } : TransportControl).spawn work
          (.closing (some old) starts)
    | none =>
      ({ renewed with started := false } : TransportControl).spawn work (.closing none starts)

/-- The transport that there is is detached, and is going to be closed. -/
def detach : TransportControl :=
  ({ c.renew with transport := none, started := false, projection := "" } :
    TransportControl).spawn ⟨⟨[], []⟩, c.generation + 1⟩ (.closing c.transport false)

/-! ## Retries -/

/-- `scheduleRuntimeParticipantTransportRetryLocked`. -/
def scheduleRetry (work : TransportWork) (update : Option ℕ) : TransportControl :=
  if c.isCurrent work = false ∨ c.retryTimer ≠ none then c
  else if c.transport ≠ update then c
  else if participantTransportRetryLimit ≤ c.retryCount then { c with projection := "" }
  else
    { c with
      retryCount := c.retryCount + 1
      timers := c.timers ++ [{ work, update }]
      retryTimer := some c.timers.length }

/-- The callback of a timer. -/
def callback? (index : ℕ) : Option TransportControl :=
  match c.timers[index]? with
  | none => none
  | some timer =>
    if timer.status ≠ .fired then none
    else
      let c' := { c with timers := c.timers.set index { timer with status := .over } }
      if c.isCurrent timer.work = false ∨ c.transport ≠ timer.update then some c'
      else
        some <| ({ c' with retryTimer := none } : TransportControl).spawn timer.work <|
          match timer.update with
          | some transport => .waiting transport
          | none => .starting

/-- A timer fires. -/
def fire? (index : ℕ) : Option TransportControl :=
  match c.timers[index]? with
  | none => none
  | some timer =>
    if timer.status = .armed then
      some { c with timers := c.timers.set index { timer with status := .fired } }
    else none

/-! ## Goroutines -/

/-- Whether a goroutine works for the projection and the transport that there are. -/
def owns (work : TransportWork) (transport : ℕ) : Bool :=
  c.isCurrent work && c.transport = some transport

/-- Whether another transport may be installed. -/
def mayInstall (work : TransportWork) : Bool :=
  c.isCurrent work && c.transport = none

/-- A goroutine goes on, unless it waits for the lock of updates. -/
def goOn? (index : ℕ) (succeeds : Bool) : Option TransportControl :=
  match c.goroutines[index]? with
  | none => none
  | some ⟨work, phase⟩ =>
    match phase with
    | .closing old start =>
      let closed := match old with
        | some transport => c.close transport
        | none => c
      some (closed.become index (if start then some ⟨work, .starting⟩ else none))
    | .starting =>
      some (c.become index (if c.mayInstall work then some ⟨work, .building⟩ else none))
    | .building =>
      if succeeds then
        some <| ({ c with made := c.made ++ [false] } : TransportControl).become index
          (some ⟨work, .installing c.made.length⟩)
      else some (c.become index none)
    | .installing transport =>
      if c.mayInstall work then
        some <| ({ c with transport := some transport } : TransportControl).become index
          (some ⟨work, .running transport⟩)
      else some (c.become index (some ⟨work, .refusing transport⟩))
    | .refusing transport => some ((c.close transport).become index none)
    | .running transport =>
      some (c.become index
        (some ⟨work, if succeeds then .succeeded transport else .startFailed transport⟩))
    | .startFailed transport =>
      some ((c.close transport).become index (some ⟨work, .failed transport⟩))
    | .failed transport =>
      let ended := c.become index none
      if c.owns work transport then
        some <| ({ ended with transport := none, started := false } :
          TransportControl).scheduleRetry work none
      else some ended
    | .succeeded transport =>
      let ended := c.become index none
      some (if c.owns work transport then { ended with started := true } else ended)
    | .waiting transport =>
      if c.goroutines.any fun goroutine => goroutine.phase.locks then none
      else some (c.become index (some ⟨work, .checking transport⟩))
    | .checking transport =>
      if c.owns work transport then
        some <| ({ c with updated := c.updated ++ [(transport, work.generation)] } :
          TransportControl).become index (some ⟨work, .updating transport⟩)
      else some (c.become index none)
    | .updating transport =>
      some (c.become index
        (some ⟨work, if succeeds then .updateSucceeded transport else .updateFailed transport⟩))
    | .updateFailed transport =>
      let ended := c.become index none
      some (if c.owns work transport then ended.scheduleRetry work (some transport) else ended)
    | .updateSucceeded transport =>
      let ended := c.become index none
      some (if c.owns work transport then { ended with retryCount := 0 } else ended)

/-! ## Steps -/

/-- One step. -/
def next? : TransportControlStep → Option TransportControl
  | .observe projection => some (c.observe projection)
  | .setResidentStream => if c.stopped then none else some c.detach
  | .beginStop => if c.stopped then none else some { c.renew with stopped := true }
  | .releaseResources => some c.detach
  | .goOn index succeeds => c.goOn? index succeeds
  | .fire timer => c.fire? timer
  | .callback timer => c.callback? timer

end TransportControl

/-- Runs of a Runtime. -/
def transportControlSystem : TransitionSystem TransportControl TransportControlStep where
  init c := ∃ setup, c = { setup }
  step c step c' := c.next? step = some c'

end Free4Chat
