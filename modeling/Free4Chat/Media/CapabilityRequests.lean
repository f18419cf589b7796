import Free4Chat.Data.JsonText
import Free4Chat.Media.ChannelAllocations
import Free4Chat.Runtime.Ledger

/-!
# Capability Requests

A Human requests a capability of the Runtime in a frame on its channel. The Runtime looks whether
the channel is the current one of the Human, whether the projected route and the handler allow the
request, whether its id was seen, and whether there are too many requests; it then executes it and
returns one frame. What the channels deliver is not trusted: ids may be repeated on any channel, and
channels and routes are replaced at any time.

* `CapabilityCall`, `CapabilityRequest`, `CapabilityResult`: what is received, handled and returned.
* `CapabilityResult.wire`: the text of a result as it is sent.
* `RequestTransport` and `RequestTransport.next?`: the transport, and one critical section, one
  check or one call.
* `RequestTransport.WellAdmitted` and `RequestTransport.CanRelease`: what holds in every state that
  is reached.
-/

namespace Free4Chat

/-! ## Frames -/

/-- A frame that is received: the request for a capability, and how it is to be used. -/
structure CapabilityCall extends CapabilityFrame where
  type : String
  operation : String
  action : String
  -- The arguments in JSON.
  args : Option String
deriving DecidableEq

/-- The envelope of a frame. -/
structure RoomAppEnvelope where
  protocolVersion : ℤ
  appInstanceID : String
  lane : String
  payload : List UInt8
deriving DecidableEq

/-- What the handler is asked. -/
structure CapabilityRequest where
  requestID : String
  runtimeHostID : String
  capabilityID : String
  operation : String
  action : String
  args : Option String
deriving DecidableEq

/-- A capability that the handler describes. -/
structure CapabilityDescriptor where
  capabilityID : String
  valid : Bool
  observe : Bool
  -- Whether one of its actions takes a request.
  invokes : CapabilityRequest → Bool

/-- How the Runtime reads frames, and how it checks what it handles. -/
structure CapabilityRules where
  envelope : List UInt8 → Option RoomAppEnvelope
  call : List UInt8 → Option CapabilityCall
  -- The texts of a request, and the action and the arguments of one that invokes.
  texts : CapabilityRequest → Bool
  invocation : CapabilityRequest → Bool
  -- `ResidentCapabilityResultPayloadValid`, of a result in JSON.
  resultValid : String → Bool
  -- Whether there is a handler.
  handled : Bool

/-- `Valid`, of a request. -/
def CapabilityRequest.valid (rules : CapabilityRules) (request : CapabilityRequest) : Bool :=
  rules.texts request &&
    if request.operation = "observe" then request.action = "" && request.args = none
    else request.operation = "invoke" && rules.invocation request

/-- `AllowsRequest`. -/
def CapabilityDescriptor.allowsRequest (descriptor : CapabilityDescriptor)
    (rules : CapabilityRules) (request : CapabilityRequest) : Bool :=
  descriptor.valid && request.capabilityID = descriptor.capabilityID && request.valid rules &&
    if request.operation = "observe" then descriptor.observe
    else request.operation = "invoke" && descriptor.invokes request

/-- `capabilityRequestAllowed`. -/
def CapabilityRules.allowed (rules : CapabilityRules) (descriptors : List CapabilityDescriptor)
    (route : CapabilityRoute) (request : CapabilityRequest) : Bool :=
  route.capabilityIDs.contains request.capabilityID && rules.handled &&
    descriptors.any fun descriptor => descriptor.capabilityID = request.capabilityID &&
      descriptor.allowsRequest rules request

/-- The request of a frame under a route. -/
def CapabilityCall.request (call : CapabilityCall) (route : CapabilityRoute) :
    CapabilityRequest where
  requestID := call.requestID
  runtimeHostID := route.runtimeHostID
  capabilityID := call.capabilityID
  operation := call.operation
  action := call.action
  args := call.args

/-! ## Results -/

/-- A frame that is returned. -/
structure CapabilityResult where
  requestID : String
  appInstanceID : String
  bundleRevision : ℤ
  taskRequestID : String
  agentID : String
  capabilityID : String
  operation : String
  ok : Bool
  -- What the handler returned, in JSON.
  result : Option String
  error : String
deriving DecidableEq

/-- A character of a string as `json.Marshal` writes it. -/
def goEscapeChar (c : Char) : String :=
  if c = '<' then "\\u003c"
  else if c = '>' then "\\u003e"
  else if c = '&' then "\\u0026"
  else if c.toNat = 0x2028 then "\\u2028"
  else if c.toNat = 0x2029 then "\\u2029"
  else JsonText.escapeChar c

/-- The characters of a string. -/
def goEscapeChars : List Char → String
  | [] => ""
  | c :: cs => goEscapeChar c ++ goEscapeChars cs

/-- A string as `json.Marshal` writes it. -/
def goString (s : String) : String := "\"" ++ goEscapeChars s.toList ++ "\""

/-- The largest payload that is received or sent, in bytes. -/
def capabilityPayloadLimit : ℕ := 16384

namespace CapabilityResult

variable (r : CapabilityResult)

/-- The frame of a result. Empty fields are omitted. -/
def frame : String :=
  JsonText.object
    ([("type", goString "runtime-capability-result"), ("requestId", goString r.requestID),
      ("appInstanceId", goString r.appInstanceID), ("bundleRevision", toString r.bundleRevision),
      ("taskRequestId", goString r.taskRequestID), ("agentParticipantId", goString r.agentID),
      ("capabilityId", goString r.capabilityID), ("operation", goString r.operation)] ++
    (if r.ok then [("ok", "true")] else []) ++
    (r.result.filter fun text => text ≠ "\x7b\x7d").toList.map (fun text => ("result", text)) ++
    if r.error = "" then [] else [("error", goString r.error)])

/-- The envelope of the frame of a result. -/
def wire : String :=
  JsonText.object
    [("protocolVersion", "1"), ("appInstanceId", goString r.appInstanceID),
      ("lane", goString "reliable"), ("payload", r.frame)]

/-- A failure in place of a result that is too large. -/
def bounded : CapabilityResult :=
  { r with ok := false, result := none, error := "controller_error" }

/-- What is sent of a result. One that is too large is not sent, unless it can be replaced. -/
def fitted? : Option CapabilityResult :=
  if r.wire.utf8ByteSize ≤ capabilityPayloadLimit then some r
  else if r.ok = true ∧ r.bounded.wire.utf8ByteSize ≤ capabilityPayloadLimit then some r.bounded
  else none

end CapabilityResult

/-- The result of a request: it carries a value, or a failure. -/
def CapabilityCall.result (call : CapabilityCall) (route : CapabilityRoute) (failure : String)
    (value : Option String) : CapabilityResult where
  requestID := call.requestID
  appInstanceID := route.appInstanceID
  bundleRevision := route.bundleRevision
  taskRequestID := route.taskRequestID
  agentID := route.agentParticipantID
  capabilityID := call.capabilityID
  operation := call.operation
  ok := failure = ""
  result := value
  error := failure

/-- The bounds that a projection keeps. -/
def CapabilityRoute.bounded (route : CapabilityRoute) : Bool :=
  route.appInstanceID.toList.length ≤ 74 && 1 ≤ route.bundleRevision &&
    route.bundleRevision < 2 ^ 63 && route.taskRequestID.toList.length ≤ 64 &&
    route.agentParticipantID.toList.length ≤ 128 &&
    route.capabilityIDs.all fun id => id.toList.length ≤ 64

/-! ## State -/

/-- The lane to a Human. -/
structure TransportLane where
  label : String
  human : String
  channel : ℕ
deriving DecidableEq

/-- A request that was admitted, with the time. -/
structure RequestAdmission where
  number : ℕ
  requestID : String
  time : ℕ
deriving DecidableEq

/-- Where the goroutine of a request is. -/
inductive RequestStage where
  | checking
  | handling
  | sending (failure : String) (value : Option String)
  | releasing
deriving DecidableEq

/-- A goroutine that works on a request, or refuses it. -/
structure RequestTask where
  -- The number of the frame among those that were received.
  number : ℕ
  out : ℕ
  route : CapabilityRoute
  call : CapabilityCall
  -- A request that was admitted holds a token.
  admission : Option RequestAdmission
  stage : RequestStage
deriving DecidableEq

/-- A frame that was received, and the channel. -/
structure ReceivedCall where
  channel : ℕ
  call : CapabilityCall
deriving DecidableEq

/-- A result that was to be sent. -/
structure SendRecord where
  number : ℕ
  channel : ℕ
  result : CapabilityResult
  ready : Bool
  sent : Option CapabilityResult
deriving DecidableEq

/-- The requests of a transport. -/
structure RequestTransport where
  closed : Bool := false
  -- Whether there is a context to execute requests in.
  ctx : Bool := false
  routes : KeyedMap CapabilityRoute := .empty
  sources : LaneMap String := .empty
  outbound : LaneMap ℕ := .empty
  channelTokens : LaneMap ℕ := .empty
  now : ℕ := 0
  -- When the ids expire that were seen.
  seen : LaneMap ℕ := .empty
  inflight : ℕ := 0
  tasks : List RequestTask := []
  -- What happened so far.
  received : List ReceivedCall := []
  admissions : List RequestAdmission := []
  executed : List RequestAdmission := []
  released : List ℕ := []
  sends : List SendRecord := []

/-- What the handler returns. -/
inductive HandlerOutcome where
  | value (text : String)
  | failed (timeout : Bool)
deriving DecidableEq

/-- One step. -/
inductive RequestStep where
  | tick (duration : ℕ)
  -- The projection is replaced, or taken away, with the context or without it.
  | project (ctx : Bool) (lanes : List TransportLane) (routes : List CapabilityRoute)
  | close
  | receive (label : String) (channel : ℕ) (payload : List UInt8) (ready : List ℕ)
    (descriptors : List CapabilityDescriptor)
  | check (index : ℕ) (descriptors : List CapabilityDescriptor)
  | handled (index : ℕ) (outcome : HandlerOutcome)
  | send (index : ℕ) (ready : Bool)
  | release (index : ℕ)

/-- How many requests are executed at a time. -/
def capabilityRequestLimit : ℕ := 4

/-- How many ids are remembered. -/
def capabilitySeenLimit : ℕ := 64

/-- How long an id is remembered, in nanoseconds. -/
def capabilityWindow : ℕ := 30000000000

namespace RequestTransport

variable (s : RequestTransport) (rules : CapabilityRules)

/-! ## Receiving -/

/-- The channel, the route and the frame of a payload, if it comes on the current channel of a Human
and there is a route for it. -/
def recognize? (label : String) (channel : ℕ) (payload : List UInt8) (ready : List ℕ) :
    Option (ℕ × CapabilityRoute × CapabilityCall) :=
  if payload = [] ∨ capabilityPayloadLimit < payload.length then none
  else do
    let human ← s.sources.at? label
    let out ← s.outbound.at? human
    if s.closed = true ∨ human = "" ∨ out ∉ ready ∨ s.channelTokens.at? human ≠ some channel then
      none
    else
      let envelope ← rules.envelope payload
      let call ← rules.call envelope.payload
      if envelope.protocolVersion ≠ 1 ∨ envelope.lane ≠ "reliable" ∨
          call.type ≠ "runtime-capability-request" ∨
          envelope.appInstanceID ≠ call.appInstanceID then none
      else
        let route ← s.routes.get? (call.appInstanceID, human)
        if route.accepts call.toCapabilityFrame = true ∧ call.requestID ≠ "" ∧
            call.requestID.utf8ByteSize ≤ 64 ∧ trimSpace call.requestID = call.requestID then
          some (out, route, call)
        else none

/-- A request is refused, and its result is sent. -/
def refuse (channel out : ℕ) (route : CapabilityRoute) (call : CapabilityCall) : RequestTransport :=
  { s with
    tasks := s.tasks ++
      [⟨s.received.length, out, route, call, none, .sending "unauthorized" none⟩]
    received := s.received ++ [⟨channel, call⟩] }

/-- The ids that have expired are forgotten. -/
def prune : RequestTransport := { s with seen := s.seen.filter fun entry => s.now ≤ entry.2 }

/-- The admission of a request that is received now. -/
def admission (call : CapabilityCall) : RequestAdmission :=
  ⟨s.received.length, call.requestID, s.now⟩

/-- A request is admitted. Without a context its token is released at once. -/
def admitRequest (channel out : ℕ) (route : CapabilityRoute) (call : CapabilityCall) :
    RequestTransport :=
  { s with
    seen := s.seen.set (call.requestID, s.now + capabilityWindow)
    inflight := s.inflight + 1
    tasks := s.tasks ++
      [⟨s.received.length, out, route, call, some (s.admission call),
        if s.ctx then .checking else .releasing⟩]
    received := s.received ++ [⟨channel, call⟩]
    admissions := s.admissions ++ [s.admission call] }

/-- A payload is received. -/
def receive (label : String) (channel : ℕ) (payload : List UInt8) (ready : List ℕ)
    (descriptors : List CapabilityDescriptor) : RequestTransport :=
  match s.recognize? rules label channel payload ready with
  | none => s
  | some (out, route, call) =>
    if rules.allowed descriptors route (call.request route) then
      if s.prune.seen.contains call.requestID then s.prune
      else if capabilitySeenLimit ≤ s.prune.seen.size then s.prune
      else if capabilityRequestLimit ≤ s.inflight then s.prune
      else s.prune.admitRequest channel out route call
    else s.refuse channel out route call

/-! ## Executing -/

/-- A task goes on in another stage. -/
def goOn (index : ℕ) (task : RequestTask) (stage : RequestStage) : RequestTransport :=
  { s with tasks := s.tasks.set index { task with stage } }

/-- The request is checked once more, and handed to the handler. -/
def check (index : ℕ) (task : RequestTask) (descriptors : List CapabilityDescriptor) :
    RequestTransport :=
  let request := task.call.request task.route
  if request.valid rules = false ∨ rules.allowed descriptors task.route request = false then
    s.goOn index task (.sending "unauthorized" none)
  else if rules.handled = false then s.goOn index task (.sending "unavailable" none)
  else { s.goOn index task .handling with executed := s.executed ++ task.admission.toList }

/-- The handler returns. -/
def handled (index : ℕ) (task : RequestTask) : HandlerOutcome → RequestTransport
  | .value text =>
    if rules.resultValid text then s.goOn index task (.sending "" (some text))
    else s.goOn index task (.sending "controller_error" none)
  | .failed timeout =>
    s.goOn index task (.sending (if timeout then "timeout" else "unavailable") none)

/-- `sendResult`. The token of a request that was admitted is released next. -/
def send (index : ℕ) (task : RequestTask) (failure : String) (value : Option String)
    (ready : Bool) : RequestTransport :=
  let result := task.call.result task.route failure value
  { s with
    tasks :=
      match task.admission with
      | some _ => s.tasks.set index { task with stage := .releasing }
      | none => s.tasks.eraseIdx index
    sends := s.sends ++
      [⟨task.number, task.out, result, ready, if ready then result.fitted? else none⟩] }

/-- A token is released. -/
def release (index : ℕ) (task : RequestTask) : RequestTransport :=
  { s with
    tasks := s.tasks.eraseIdx index
    inflight := s.inflight - 1
    released := s.released ++ [task.number] }

/-- A step of a task. -/
def taskStep? (index : ℕ) (task : RequestTask) : RequestStep → Option RequestTransport
  | .check _ descriptors =>
    if task.stage = .checking then some (s.check rules index task descriptors) else none
  | .handled _ outcome =>
    if task.stage = .handling then some (s.handled rules index task outcome) else none
  | .send _ ready =>
    match task.stage with
    | .sending failure value => some (s.send index task failure value ready)
    | _ => none
  | .release _ => if task.stage = .releasing then some (s.release index task) else none
  | _ => none

/-! ## Steps -/

/-- The projection is replaced, or taken away. Its routes are within their bounds. -/
def project? (ctx : Bool) (lanes : List TransportLane) (routes : List CapabilityRoute) :
    Option RequestTransport :=
  if s.closed = false ∧ routes.all CapabilityRoute.bounded = true then
    some { s with
      ctx
      routes := routesByKey routes
      sources := .ofList (lanes.map fun lane => (lane.label, lane.human))
      outbound := .ofList (lanes.map fun lane => (lane.human, lane.channel))
      channelTokens := .ofList (lanes.map fun lane => (lane.human, lane.channel)) }
  else none

/-- The transport is closed. -/
def close : RequestTransport :=
  { s with
    closed := true
    ctx := false
    routes := .empty
    sources := .empty
    outbound := .empty
    channelTokens := .empty }

/-- One step. -/
def next? : RequestStep → Option RequestTransport
  | .tick duration => some { s with now := s.now + duration }
  | .project ctx lanes routes => s.project? ctx lanes routes
  | .close => some s.close
  | .receive label channel payload ready descriptors =>
    some (s.receive rules label channel payload ready descriptors)
  | .check index descriptors =>
    s.tasks[index]?.bind fun task => s.taskStep? rules index task (.check index descriptors)
  | .handled index outcome =>
    s.tasks[index]?.bind fun task => s.taskStep? rules index task (.handled index outcome)
  | .send index ready =>
    s.tasks[index]?.bind fun task => s.taskStep? rules index task (.send index ready)
  | .release index =>
    s.tasks[index]?.bind fun task => s.taskStep? rules index task (.release index)

/-! ## What should hold -/

/-- The numbers of the tasks that hold a token. -/
def holding : List ℕ := s.tasks.filterMap fun task => task.admission.map fun _ => task.number

/-- Requests are well admitted: of one id at most one request is executed within a window, whatever
channel it comes on; the requests at work and the ids that are remembered are bounded; each token is
held by one request or was released once; and what is sent goes to the channel on which its request
was received, with its id and its capability, and is bounded. A value that is too large is replaced
by a failure. -/
structure WellAdmitted : Prop where
  executedOnce : s.executed.Pairwise fun a b => a.requestID = b.requestID →
    a.time + capabilityWindow < b.time ∨ b.time + capabilityWindow < a.time
  inflightBound : s.holding.length = s.inflight ∧ s.inflight ≤ capabilityRequestLimit
  seenBound : s.seen.size ≤ capabilitySeenLimit
  tokens : (s.released ++ s.holding).Perm (s.admissions.map (·.number)) ∧
    (s.admissions.map (·.number)).Nodup
  echoed : ∀ send ∈ s.sends, ∀ result ∈ send.sent, ∃ received,
    s.received[send.number]? = some received ∧ send.channel = received.channel ∧
      result.requestID = received.call.requestID ∧
      result.capabilityID = received.call.capabilityID ∧
      result.wire.utf8ByteSize ≤ capabilityPayloadLimit
  answered : ∀ send ∈ s.sends, send.ready = true → send.result.ok = true →
    ∃ result, send.sent = some result ∧
      (result = send.result ∨ capabilityPayloadLimit < send.result.wire.utf8ByteSize ∧
        result = send.result.bounded)

/-- The token of a request can be released. -/
def CanRelease (number : ℕ) : Prop :=
  ∃ (labels : List RequestStep) (s' : RequestTransport),
    labels.foldlM (fun s step => next? s rules step) s = some s' ∧ number ∈ s'.released

end RequestTransport

/-- Runs of a transport. -/
def requestSystem (rules : CapabilityRules) : TransitionSystem RequestTransport RequestStep where
  init s := s = {}
  step s step s' := s.next? rules step = some s'

end Free4Chat
