import Free4Chat.Data.KeyedMap
import Free4Chat.Data.ListFilterMap
import Free4Chat.Transition.Reachable
import Mathlib.Data.Int.Notation

/-!
# Participant Transport

The Room projects which Humans may request which capabilities of the Runtime, and under which
sessions these Humans can be reached. The Runtime keeps one transport for the last projection: it
starts one, updates it in place, retries with what fails, or closes it.

* `TransportProjection`: the routes and the sources that the Room projects.
* `ParticipantTransport`: the routes and the lanes of one transport, and `receive?`.
* `StartPhase` and `UpdatePhase`: where a start and an update are.
* `TransportRun`: the Runtime, its transports, and the goroutines at work on them.
* `TransportRun.next?`: one critical section. `transportSystem`: the transition system.

The allocations of channels at the SFU, the bound on requests at a time, and the requests that were
seen are left out: they only refuse what is received.
-/

namespace Free4Chat

/-! ## Projections -/

/-- A route: a Human may request capabilities of an agent for an App. -/
structure CapabilityRoute where
  appInstanceID : String
  bundleRevision : ℤ
  taskRequestID : String
  agentParticipantID : String
  humanParticipantID : String
  runtimeHostID : String
  capabilityIDs : List String
deriving DecidableEq

/-- A Human that can be reached. -/
structure ParticipantSource where
  participantID : String
  sessionID : String
deriving DecidableEq

/-- What the Room projects. -/
structure TransportProjection where
  routes : List CapabilityRoute
  sources : List ParticipantSource
deriving DecidableEq

/-- What a Human requests. -/
structure CapabilityFrame where
  requestID : String
  appInstanceID : String
  bundleRevision : ℤ
  taskRequestID : String
  agentID : String
  capabilityID : String
deriving DecidableEq

/-- How the Runtime is set up. -/
structure TransportOptions where
  -- The participant that the Runtime is in the Room.
  participantID : String
  -- The shape of a projection: its bounds, its texts, and that its keys are unique.
  valid : TransportProjection → Bool
  -- Whether there is a handler of capabilities and a site to connect to.
  handled : Bool

namespace CapabilityRoute

variable (route : CapabilityRoute)

/-- A route is looked up by its App and its Human. -/
abbrev key : String × String := (route.appInstanceID, route.humanParticipantID)

/-- Only the capabilities that there are locally are routed to. -/
def restrict (available : List String) : CapabilityRoute :=
  { route with capabilityIDs := route.capabilityIDs.filter available.contains }

/-- Whether a route is for what is requested. -/
def accepts (frame : CapabilityFrame) : Bool :=
  frame.bundleRevision = route.bundleRevision && frame.taskRequestID = route.taskRequestID &&
    frame.agentID = route.agentParticipantID && route.capabilityIDs.contains frame.capabilityID

end CapabilityRoute

instance : Keyed CapabilityRoute (String × String) := ⟨CapabilityRoute.key⟩

/-- The routes by their keys. -/
def routesByKey (routes : List CapabilityRoute) : KeyedMap CapabilityRoute :=
  routes.foldl KeyedMap.set .empty

/-! ## Transports -/

/-- The channel to a Human. -/
structure ParticipantLane where
  human : String
  peerSession : String
  channel : ℕ
deriving DecidableEq

instance : Keyed ParticipantLane String := ⟨ParticipantLane.human⟩

/-- A transport. -/
structure ParticipantTransport where
  closed : Bool := false
  starting : Bool := false
  session : Bool := false
  engine : Bool := false
  routes : KeyedMap CapabilityRoute := .empty
  lanes : KeyedMap ParticipantLane := .empty

namespace ParticipantTransport

variable (t : ParticipantTransport)

/-- A transport is closed. -/
def close (_ : ParticipantTransport) : ParticipantTransport := { closed := true }

/-- What a failed start left is given up. -/
def finishStartFailure : ParticipantTransport :=
  if t.closed then t
  else { t with
    session := false, engine := false, routes := .empty, lanes := .empty, starting := false }

/-- A frame is received from a Human on a channel. What is returned is the route under which it is
handed to the handler. -/
def receive? (ready : List ℕ) (human : String) (channel : ℕ) (frame : CapabilityFrame) :
    Option CapabilityRoute :=
  match t.lanes.get? human with
  | none => none
  | some lane =>
    if t.closed = true ∨ lane.channel ∉ ready ∨ lane.channel ≠ channel then none
    else (t.routes.get? (frame.appInstanceID, human)).filter fun route => route.accepts frame

/-- Whether the lane of a source is kept. -/
def keeps (ready : List ℕ) (lane : ParticipantLane) (sources : List ParticipantSource) : Bool :=
  sources.any (fun source =>
    source.participantID = lane.human && source.sessionID = lane.peerSession) &&
    ready.contains lane.channel

/-- What is not projected any more is taken away. -/
def deauthorize (ready : List ℕ) (sources : List ParticipantSource)
    (desired : KeyedMap CapabilityRoute) : ParticipantTransport :=
  { t with
    routes := t.routes.filter fun route =>
      desired.get? route.key = some route &&
        !t.lanes.values.any fun lane =>
          lane.human = route.humanParticipantID && !keeps ready lane sources
    lanes := t.lanes.filter fun lane => keeps ready lane sources }

/-- Whether a source needs a new channel. -/
def needsChannel (ready : List ℕ) (source : ParticipantSource) : Bool :=
  match t.lanes.get? source.participantID with
  | none => true
  | some lane => lane.peerSession ≠ source.sessionID || !ready.contains lane.channel

/-- The lanes to the sources, with new channels where they are needed. -/
def assignLanes (ready : List ℕ) (channels : ℕ) (sources : List ParticipantSource) :
    List ParticipantLane :=
  sources.zipIdx.map fun entry =>
    { human := entry.1.participantID
      peerSession := entry.1.sessionID
      channel :=
        if t.needsChannel ready entry.1 then channels + entry.2
        else ((t.lanes.get? entry.1.participantID).map ParticipantLane.channel).getD 0 }

end ParticipantTransport

/-! ## Goroutines -/

/-- What a goroutine works on. -/
structure TransportTask where
  projection : TransportProjection
  generation : ℕ
  transport : ℕ
deriving DecidableEq

/-- Where the observation of a projection is. -/
inductive ObservePhase where
  -- The transport that there was is closed, and another one is started or not.
  | closing (old : Option ℕ) (start : Bool)
  | starting
  | building
deriving DecidableEq

/-- An observation. -/
structure ObserveTask where
  projection : TransportProjection
  generation : ℕ
  phase : ObservePhase
deriving DecidableEq

/-- Where the start of a transport is. -/
inductive StartPhase where
  | preparing
  | creating (routes : List CapabilityRoute)
  | bootstrapping (routes : List CapabilityRoute)
  | committing (routes : List CapabilityRoute)
  | publishing
  | failing
  | closing
  | failed
  | succeeded
deriving DecidableEq

/-- A start. Each transport is started once. -/
structure StartTask where
  task : TransportTask
  phase : StartPhase
deriving DecidableEq

instance : Keyed StartTask ℕ := ⟨fun start => start.task.transport⟩

/-- Where an update is. -/
inductive UpdatePhase where
  | validating
  | deauthorizing (routes : List CapabilityRoute)
  | allocating (routes : List CapabilityRoute)
  | committing (routes : List CapabilityRoute) (lanes : List ParticipantLane)
  | failed
  | succeeded
deriving DecidableEq

/-- A retry that a timer will make, with an update or with another start. -/
structure TransportRetry where
  projection : TransportProjection
  generation : ℕ
  update : Option ℕ
deriving DecidableEq

/-! ## Runs -/

/-- How often the Runtime retries. -/
def participantTransportRetryLimit : ℕ := 5

/-- The Runtime, its transports, and the goroutines at work on them. -/
structure TransportRun where
  options : TransportOptions
  transports : List ParticipantTransport := []
  -- The channels that were created.
  channels : ℕ := 0
  current : Option ℕ := none
  started : Bool := false
  generation : ℕ := 0
  -- The projection that is not observed again.
  projection : Option TransportProjection := none
  retryCount : ℕ := 0
  retry : Option TransportRetry := none
  stopped : Bool := false
  observing : List ObserveTask := []
  starts : KeyedMap StartTask := .empty
  -- The updates that wait for their lock, and the one that holds it.
  waiting : List TransportTask := []
  updating : Option (TransportTask × UpdatePhase) := none
  -- The projection that was observed last.
  latest : Option TransportProjection := none

/-- One critical section. -/
inductive TransportStep where
  | observe (projection : TransportProjection)
  -- The stream is replaced, or the Runtime stops.
  | reset (stop : Bool)
  | observeOn (index : ℕ) (succeeds : Bool)
  | startOn (transport : ℕ) (available : List String) (succeeds : Bool)
  -- A waiting update gets its lock, and the one that has it goes on.
  | lock (index : ℕ)
  | updateOn (available : List String) (ready : List ℕ) (succeeds : Bool)
  | retry

namespace TransportRun

variable (c : TransportRun)

/-- A transport changes. -/
def updateTransport (transport : ℕ) (f : ParticipantTransport → ParticipantTransport) :
    TransportRun :=
  { c with transports := c.transports.modify transport f }

/-- A transport. -/
def transport (index : ℕ) : ParticipantTransport := c.transports[index]?.getD { closed := true }

/-- The routes of a projection that the agent can honour, if it is for the agent. -/
def filterRoutes? (available : List String) (routes : List CapabilityRoute) :
    Option (List CapabilityRoute) :=
  if routes.any fun route => route.agentParticipantID ≠ c.options.participantID then none
  else some ((routes.map fun route => route.restrict available).filter
    fun route => route.capabilityIDs ≠ [])

/-! ### Observing -/

/-- The Runtime begins with another generation, and the timer is stopped. -/
def renew : TransportRun :=
  { c with generation := c.generation + 1, retry := none, retryCount := 0 }

/-- A projection is observed: the transport that there is is updated, or else closed. -/
def observe (projection : TransportProjection) : TransportRun :=
  if c.stopped = true ∨ c.projection = some projection then c
  else
    let c' := { c.renew with projection := some projection, latest := some projection }
    let starts := projection.routes ≠ [] && c.options.valid projection && c.options.handled
    match c.current with
    | some old =>
      if c.started && starts then
        { c' with
          waiting := c.waiting ++ [⟨projection, c.generation + 1, old⟩] }
      else
        { c' with
          current := none
          started := false
          observing := c.observing ++
            [⟨projection, c.generation + 1, .closing (some old) starts⟩] }
    | none =>
      { c' with
        started := false
        observing := c.observing ++ [⟨projection, c.generation + 1, .closing none starts⟩] }

/-- The transport that there is is given up. -/
def reset (stop : Bool) : TransportRun :=
  { c.renew with
    current := none
    started := false
    projection := none
    stopped := c.stopped || stop
    observing := c.observing ++
      [⟨⟨[], []⟩, c.generation + 1, .closing c.current false⟩] }

/-- Whether a transport may be installed. -/
def mayInstall (task : ObserveTask) : Bool :=
  !c.stopped && c.generation = task.generation && c.projection = some task.projection &&
    c.current = none

/-- An observation goes on. -/
def observeOn? (index : ℕ) (succeeds : Bool) : Option TransportRun :=
  match c.observing[index]? with
  | none => none
  | some task =>
    match task.phase with
    | .closing old start =>
      let c' := match old with
        | none => c
        | some i => c.updateTransport i ParticipantTransport.close
      some { c' with
        observing := c.observing.updateIdx index
          (if start then some { task with phase := .starting } else none) }
    | .starting =>
      some { c with
        observing := c.observing.updateIdx index
          (if c.mayInstall task then some { task with phase := .building } else none) }
    | .building =>
      -- The transport may not be built.
      if succeeds && c.mayInstall task then
        some { c with
          transports := c.transports ++ [{}]
          current := some c.transports.length
          observing := c.observing.updateIdx index none
          starts := c.starts.set
            ⟨⟨task.projection, task.generation, c.transports.length⟩, .preparing⟩ }
      else some { c with observing := c.observing.updateIdx index none }

/-! ### Retrying -/

/-- A retry is scheduled, up to a limit. -/
def scheduleRetry (task : TransportTask) (update : Option ℕ) : TransportRun :=
  if c.stopped = true ∨ c.generation ≠ task.generation ∨
      c.projection ≠ some task.projection ∨ c.retry.isSome then c
  else if c.current ≠ update then c
  else if participantTransportRetryLimit ≤ c.retryCount then { c with projection := none }
  else { c with
    retryCount := c.retryCount + 1
    retry := some ⟨task.projection, task.generation, update⟩ }

/-- The timer fires. -/
def fireRetry? : Option TransportRun :=
  match c.retry with
  | none => none
  | some retry =>
    if c.stopped = true ∨ c.generation ≠ retry.generation ∨
        c.projection ≠ some retry.projection ∨ c.current ≠ retry.update then some c
    else
      match retry.update with
      | some i =>
        some { c with
          retry := none
          waiting := c.waiting ++ [⟨retry.projection, retry.generation, i⟩] }
      | none =>
        some { c with
          retry := none
          observing := c.observing ++ [⟨retry.projection, retry.generation, .starting⟩] }

/-- Whether a goroutine works on the current projection and transport. -/
def isCurrent (task : TransportTask) : Bool :=
  !c.stopped && c.current = some task.transport && c.generation = task.generation &&
    c.projection = some task.projection

/-! ### Starting -/

/-- A start goes on in another phase. -/
def startGoesTo (task : TransportTask) (phase : StartPhase) : TransportRun :=
  { c with starts := c.starts.set { task, phase } }

/-- The routes are prepared. -/
def prepareStart (task : TransportTask) (available : List String) : TransportRun :=
  match c.filterRoutes? available task.projection.routes with
  | none => c.startGoesTo task .closing
  | some routes =>
    if routes.length ≠ task.projection.routes.length ∨ task.projection.routes = [] ∨
        c.options.valid task.projection = false then c.startGoesTo task .closing
    else if (c.transport task.transport).closed = true ∨
        (c.transport task.transport).starting = true ∨
        (c.transport task.transport).session = true then
      c.startGoesTo task .closing
    else
      (c.updateTransport task.transport fun t => { t with starting := true }).startGoesTo task
        (.creating routes)

/-- The session is created. -/
def createSession (task : TransportTask) (routes : List CapabilityRoute) (succeeds : Bool) :
    TransportRun :=
  if succeeds = false then
    (c.updateTransport task.transport ParticipantTransport.finishStartFailure).startGoesTo
      task .closing
  else if (c.transport task.transport).closed then c.startGoesTo task .closing
  else
    (c.updateTransport task.transport fun t => { t with session := true }).startGoesTo task
      (.bootstrapping routes)

/-- The routes and the lanes are set. -/
def commitStart (task : TransportTask) (routes : List CapabilityRoute) : TransportRun :=
  if (c.transport task.transport).closed = true ∨ (c.transport task.transport).session = false then
    c.startGoesTo task .failing
  else
    let t := c.transport task.transport
    { (c.updateTransport task.transport fun _ => { t with
        engine := true
        routes := routesByKey routes
        lanes := (({} : ParticipantTransport).assignLanes [] c.channels
          task.projection.sources).foldl KeyedMap.set .empty }).startGoesTo task
            .publishing with
      channels := c.channels + task.projection.sources.length }

/-- The start is published. -/
def publishStart (task : TransportTask) (succeeds : Bool) : TransportRun :=
  if succeeds = false ∨ (c.transport task.transport).closed = true then
    c.startGoesTo task .failing
  else
    (c.updateTransport task.transport fun t => { t with starting := false }).startGoesTo task
      .succeeded

/-- A start is over. -/
def endStart (task : TransportTask) (succeeded : Bool) : TransportRun :=
  let c' := { c with starts := c.starts.erase task.transport }
  if c.isCurrent task then
    if succeeded then { c' with started := true }
    else { c' with current := none, started := false }.scheduleRetry task none
  else c'

/-- A start goes on. -/
def startOn? (transport : ℕ) (available : List String) (succeeds : Bool) :
    Option TransportRun :=
  match c.starts.get? transport with
  | none => none
  | some ⟨task, phase⟩ =>
    match phase with
    | .preparing => some (c.prepareStart task available)
    | .creating routes => some (c.createSession task routes succeeds)
    | .bootstrapping routes =>
      some (c.startGoesTo task (if succeeds then .committing routes else .failing))
    | .committing routes => some (c.commitStart task routes)
    | .publishing => some (c.publishStart task succeeds)
    | .failing =>
      some ((c.updateTransport task.transport
        ParticipantTransport.finishStartFailure).startGoesTo task .closing)
    | .closing =>
      some ((c.updateTransport task.transport ParticipantTransport.close).startGoesTo task
        .failed)
    | .failed => some (c.endStart task false)
    | .succeeded => some (c.endStart task true)

/-! ### Updating -/

/-- A waiting update gets the lock, and looks whether it is still wanted. -/
def lock? (index : ℕ) : Option TransportRun :=
  match c.waiting[index]? with
  | none => none
  | some task =>
    if c.updating.isSome then none
    else some { c with
      waiting := c.waiting.eraseIdx index
      updating := if c.isCurrent task then some (task, .validating) else none }

/-- The update goes on in another phase. -/
def updateGoesTo (task : TransportTask) (phase : UpdatePhase) : TransportRun :=
  { c with updating := some (task, phase) }

/-- The routes of an update, if it passes what is looked at before anything is taken away. -/
def updateRoutes? (task : TransportTask) (available : List String) :
    Option (List CapabilityRoute) :=
  if task.projection.routes = [] ∨ c.options.valid task.projection = false then none
  else
    match c.filterRoutes? available task.projection.routes with
    | none => none
    | some routes =>
      let t := c.transport task.transport
      if routes = [] ∨ t.closed = true ∨ t.starting = true ∨ t.session = false ∨
          t.engine = false then none
      else some routes

/-- The projection is looked at. -/
def validateUpdate (task : TransportTask) (available : List String) : TransportRun :=
  match c.updateRoutes? task available with
  | none => c.updateGoesTo task .failed
  | some routes => c.updateGoesTo task (.deauthorizing routes)

/-- The channels are allocated. -/
def allocateLanes (task : TransportTask) (routes : List CapabilityRoute) (ready : List ℕ)
    (succeeds : Bool) : TransportRun :=
  let t := c.transport task.transport
  if t.closed = true ∨ succeeds = false then c.updateGoesTo task .failed
  else
    { c.updateGoesTo task
        (.committing routes (t.assignLanes ready c.channels task.projection.sources)) with
      channels := c.channels + task.projection.sources.length }

/-- The routes and the lanes are replaced. -/
def commitUpdate (task : TransportTask) (routes : List CapabilityRoute)
    (lanes : List ParticipantLane) : TransportRun :=
  let t := c.transport task.transport
  if t.closed then c.updateGoesTo task .failed
  else
    (c.updateTransport task.transport fun _ => { t with
      routes := routesByKey
        (routes.filter fun route => lanes.any fun lane => lane.human = route.humanParticipantID)
      lanes := lanes.foldl KeyedMap.set .empty }).updateGoesTo task .succeeded

/-- An update is over. -/
def endUpdate (task : TransportTask) (succeeded : Bool) : TransportRun :=
  let c' := { c with updating := none }
  if c.isCurrent task then
    if succeeded then { c' with retryCount := 0 }
    else c'.scheduleRetry task (some task.transport)
  else c'

/-- The update that holds the lock goes on. -/
def updateOn? (available : List String) (ready : List ℕ) (succeeds : Bool) :
    Option TransportRun :=
  match c.updating with
  | none => none
  | some (task, phase) =>
    match phase with
    | .validating => some (c.validateUpdate task available)
    | .deauthorizing routes =>
      some ((c.updateTransport task.transport fun t =>
        t.deauthorize ready task.projection.sources (routesByKey routes)).updateGoesTo task
          (.allocating routes))
    | .allocating routes => some (c.allocateLanes task routes ready succeeds)
    | .committing routes lanes => some (c.commitUpdate task routes lanes)
    | .failed => some (c.endUpdate task false)
    | .succeeded => some (c.endUpdate task true)

/-! ### Steps -/

/-- One critical section. -/
def next? : TransportStep → Option TransportRun
  | .observe projection => some (c.observe projection)
  | .reset stop => some (c.reset stop)
  | .observeOn index succeeds => c.observeOn? index succeeds
  | .startOn transport available succeeds => c.startOn? transport available succeeds
  | .lock index => c.lock? index
  | .updateOn available ready succeeds => c.updateOn? available ready succeeds
  | .retry => c.fireRetry?

end TransportRun

/-- Runs of a Runtime with its transports. -/
def transportSystem : TransitionSystem TransportRun TransportStep where
  init c := ∃ options, c = { options }
  step c label c' := c.next? label = some c'

end Free4Chat
