import Free4Chat.Media.ParticipantTransport

/-!
# Channel Allocations

A transport keeps a channel to each Human that the Room projects. A channel is allocated at the SFU,
and its allocation is held until the SFU has confirmed that it is closed: either it belongs to the
lane of a Human, or it is pending to be closed. An update of the projection first retires the lanes
that are not projected any more or are not ready, then allocates channels for the sources that need
one, and then replaces all lanes at once. No allocation should be lost on the way.

The source breaks this. Whether a lane is ready is looked at when lanes are retired, and once more
when the sources that need a channel are chosen. A lane that was kept and is not ready any more is
given a new channel, and its old allocation is overwritten without being pending.

* `ChannelUpdate` and `ChannelTransport`: an update between its critical sections, the lanes of the
  transport, and what happened so far.
* `ChannelTransport.next?`: one critical section of an update, or one call of the SFU.
* `ChannelTransport.Conserved`: what should hold in every state that is reached.
* `ChannelTransport.keepsOwners`: the condition under which it does.

The routes of the transport are modelled with the transport itself.
-/

namespace Free4Chat

/-! ## State -/

/-- A map by the ids of the Humans. -/
abbrev LaneMap (α : Type) := KeyedMap (String × α)

namespace LaneMap

variable {α : Type}

/-- What is stored for a Human. -/
def at? (m : LaneMap α) (human : String) : Option α := (m.get? human).map Prod.snd

/-- The map of some entries. -/
def ofList (entries : List (String × α)) : LaneMap α := entries.foldl KeyedMap.set .empty

/-- The entries of some Humans are deleted. -/
def without (m : LaneMap α) (humans : List String) : LaneMap α :=
  m.filter fun entry => entry.1 ∉ humans

end LaneMap

/-- The keys of the maps of the lanes. -/
structure LaneKeys where
  outbound : List String
  peerSessions : List String
  channelTokens : List String
  channelAllocations : List String
deriving DecidableEq

/-- Where an update is. -/
inductive ChannelUpdateStage where
  | deauthorize
  | snapshot
  | choose
  -- What is pending is closed before anything is allocated.
  | clean
  | allocate
  | create (rest : List ParticipantSource)
  | wait
  | commit
  -- What is pending is closed behind an update that needed no channel.
  | tidy
  -- The update has failed, and gives up what it has allocated.
  | rollBack
  | tidyBack
deriving DecidableEq

/-- An update at work. -/
structure ChannelUpdate where
  sources : List ParticipantSource
  stage : ChannelUpdateStage := .deauthorize
  currentOutbound : LaneMap ℕ := .empty
  currentPeerSessions : LaneMap String := .empty
  currentAllocations : LaneMap UInt16 := .empty
  newSources : List ParticipantSource := []
  -- What is allocated and neither committed nor given up.
  allocatedIDs : List UInt16 := []
  newOutbound : LaneMap ℕ := .empty
  -- The keys when the update began.
  before : LaneKeys

/-- An update that is over. -/
structure FinishedUpdate where
  projected : List String
  succeeded : Bool
  before : LaneKeys
  after : LaneKeys
deriving DecidableEq

/-- The lane of a source. -/
structure AssignedLane where
  source : ParticipantSource
  channel : ℕ
  allocation : UInt16
deriving DecidableEq

/-- The lanes of a transport on one session. -/
structure ChannelTransport where
  outbound : LaneMap ℕ := .empty
  peerSessions : LaneMap String := .empty
  -- The channel object that messages are accepted from.
  channelTokens : LaneMap ℕ := .empty
  channelAllocations : LaneMap UInt16 := .empty
  pendingCloseIDs : List UInt16 := []
  -- The channels that were created.
  channels : ℕ := 0
  -- The update that holds the lock.
  update : Option ChannelUpdate := none
  -- The allocations that the SFU has returned, and has not confirmed to be closed.
  openIDs : List UInt16 := []
  finished : List FinishedUpdate := []

/-- One critical section, or one call. Channels may become ready, or not, at any time. -/
inductive ChannelStep where
  | update (sources : List ParticipantSource)
  | deauthorize (ready : List ℕ)
  | snapshot (cancelled : Bool)
  | choose (ready : List ℕ)
  | clean (closes : Bool)
  -- The SFU may return some ids even if it fails.
  | allocate (ids : List UInt16) (succeeds : Bool)
  | create (created : Bool)
  | wait (ready : Bool)
  -- The transport may have been cancelled.
  | commit (current : Bool)
  | tidy (closes : Bool)
  | rollBack
  | tidyBack (closes : Bool)
deriving DecidableEq

namespace ChannelUpdate

variable (u : ChannelUpdate)

/-- Whether a source needs a new channel. -/
def needsChannel (ready : List ℕ) (source : ParticipantSource) : Bool :=
  (u.currentPeerSessions.at? source.participantID).getD "" ≠ source.sessionID ||
    !(u.currentOutbound.at? source.participantID).any ready.contains

/-- The id that was allocated for a Human. -/
def allocated? (human : String) : Option UInt16 :=
  ((u.newSources.zip u.allocatedIDs).find? fun entry => entry.1.participantID = human).map Prod.snd

/-- The lane of a source: it is new, or there is one under the same session. -/
def assignLane? (source : ParticipantSource) : Option AssignedLane :=
  match u.newOutbound.at? source.participantID with
  | some channel =>
    (u.allocated? source.participantID).map fun allocation => { source, channel, allocation }
  | none =>
    if (u.currentPeerSessions.at? source.participantID).getD "" = source.sessionID then
      (u.currentOutbound.at? source.participantID).bind fun channel =>
        (u.currentAllocations.at? source.participantID).map fun allocation =>
          { source, channel, allocation }
    else none

/-- The lanes of the sources, if there is one for each of them. -/
def assignLanes? : Option (List AssignedLane) :=
  if u.sources.all fun source => (u.assignLane? source).isSome then
    some (u.sources.filterMap u.assignLane?)
  else none

end ChannelUpdate

namespace ChannelTransport

variable (s : ChannelTransport)

/-! ## Steps -/

/-- How many channels the SFU closes at once. -/
def closeLimit : ℕ := 32

/-- The keys of the maps. -/
def laneKeys : LaneKeys where
  outbound := s.outbound.keys
  peerSessions := s.peerSessions.keys
  channelTokens := s.channelTokens.keys
  channelAllocations := s.channelAllocations.keys

/-- Some lanes replace all others. -/
def withLanes (lanes : List AssignedLane) : ChannelTransport :=
  { s with
    outbound := .ofList (lanes.map fun lane => (lane.source.participantID, lane.channel))
    peerSessions :=
      .ofList (lanes.map fun lane => (lane.source.participantID, lane.source.sessionID))
    channelTokens := .ofList (lanes.map fun lane => (lane.source.participantID, lane.channel))
    channelAllocations :=
      .ofList (lanes.map fun lane => (lane.source.participantID, lane.allocation)) }

/-- An update goes on. -/
def goOn (u : ChannelUpdate) (stage : ChannelUpdateStage) : ChannelTransport :=
  { s with update := some { u with stage } }

/-- An update is over. -/
def finish (u : ChannelUpdate) (succeeded : Bool) : ChannelTransport :=
  { s with
    update := none
    finished := s.finished ++
      [⟨u.sources.map (·.participantID), succeeded, u.before, s.laneKeys⟩] }

/-- Whether the sources of a projection are valid. -/
def validSources (sources : List ParticipantSource) : Bool :=
  sources.length ≤ 32 && (sources.map (·.participantID)).Nodup

/-- An update gets the lock. One that is not valid changes nothing. -/
def begin (sources : List ParticipantSource) : ChannelTransport :=
  if validSources sources then
    { s with update := some { sources, before := s.laneKeys } }
  else s

/-- Whether a lane is kept: its Human is projected under the same session, and its channel is
ready. -/
def keeps (ready : List ℕ) (sources : List ParticipantSource) (lane : String × String) : Bool :=
  sources.contains ⟨lane.1, lane.2⟩ && (s.outbound.at? lane.1).any ready.contains

/-- The Humans whose lanes are retired. -/
def retired (ready : List ℕ) (sources : List ParticipantSource) : List String :=
  (s.peerSessions.values.filter fun lane => !s.keeps ready sources lane).map Prod.fst

/-- The lanes of some Humans are retired, and their allocations are pending. -/
def retire (humans : List String) : ChannelTransport :=
  { s with
    outbound := s.outbound.without humans
    peerSessions := s.peerSessions.without humans
    channelTokens := s.channelTokens.without humans
    channelAllocations := s.channelAllocations.without humans
    pendingCloseIDs := s.pendingCloseIDs ++ humans.filterMap s.channelAllocations.at? }

/-- `closePendingParticipantDataChannels`: what is pending is closed, if the SFU confirms it. -/
def closePending (closes : Bool) : ChannelTransport × Bool :=
  let ids := s.pendingCloseIDs
  if ids = [] then (s, true)
  else if closes = true ∧ ids.length ≤ closeLimit then
    ({ s with
        pendingCloseIDs := s.pendingCloseIDs.filter fun id => id ∉ ids
        openIDs := s.openIDs.filter fun id => id ∉ ids }, true)
  else (s, false)

/-- The sources that need a channel are chosen. -/
def choose (u : ChannelUpdate) (ready : List ℕ) : ChannelTransport :=
  s.goOn { u with newSources := u.sources.filter (u.needsChannel ready) } .clean

/-- What is pending is closed, unless no channel is needed. -/
def clean (u : ChannelUpdate) (closes : Bool) : ChannelTransport :=
  if u.newSources = [] then s.goOn u .commit
  else if (s.closePending closes).2 then (s.closePending closes).1.goOn u .allocate
  else s.finish u false

/-- Channels are allocated. -/
def allocate (u : ChannelUpdate) (ids : List UInt16) (succeeds : Bool) : ChannelTransport :=
  ({ s with openIDs := s.openIDs ++ ids } : ChannelTransport).goOn { u with allocatedIDs := ids }
    (if succeeds = true ∧ ids.length = u.newSources.length then .create u.newSources
      else .rollBack)

/-- A channel is created for the next source. -/
def create (u : ChannelUpdate) (source : ParticipantSource) (rest : List ParticipantSource)
    (created : Bool) : ChannelTransport :=
  if created then
    ({ s with channels := s.channels + 1 } : ChannelTransport).goOn
      { u with newOutbound := u.newOutbound.set (source.participantID, s.channels) }
      (if rest = [] then .wait else .create rest)
  else s.goOn u .rollBack

/-- The lanes are replaced, unless one is missing or the transport was cancelled. -/
def commit (u : ChannelUpdate) (current : Bool) : ChannelTransport :=
  match u.assignLanes? with
  | some lanes =>
    if current then (s.withLanes lanes).goOn { u with allocatedIDs := [] } .tidy
    else s.goOn u .rollBack
  | none => s.goOn u .rollBack

/-- What is pending is closed behind an update that needed no channel. -/
def tidy (u : ChannelUpdate) (closes : Bool) : ChannelTransport :=
  if u.newSources = [] then (s.closePending closes).1.finish u true else s.finish u true

/-- What was allocated is pending. -/
def rollBack (u : ChannelUpdate) : ChannelTransport :=
  if u.allocatedIDs = [] then s.finish u false
  else
    ({ s with pendingCloseIDs := s.pendingCloseIDs ++ u.allocatedIDs } : ChannelTransport).goOn
      { u with allocatedIDs := [] } .tidyBack

/-- A step of the update at work. -/
def updateStep? (u : ChannelUpdate) : ChannelStep → Option ChannelTransport
  | .deauthorize ready =>
    if u.stage = .deauthorize then
      some ((s.retire (s.retired ready u.sources)).goOn u .snapshot)
    else none
  | .snapshot cancelled =>
    if u.stage = .snapshot then
      some (if cancelled then s.finish u false
        else s.goOn { u with
          currentOutbound := s.outbound
          currentPeerSessions := s.peerSessions
          currentAllocations := s.channelAllocations } .choose)
    else none
  | .choose ready => if u.stage = .choose then some (s.choose u ready) else none
  | .clean closes => if u.stage = .clean then some (s.clean u closes) else none
  | .allocate ids succeeds =>
    if u.stage = .allocate then some (s.allocate u ids succeeds) else none
  | .create created =>
    match u.stage with
    | .create (source :: rest) => some (s.create u source rest created)
    | _ => none
  | .wait ready =>
    if u.stage = .wait then some (s.goOn u (if ready then .commit else .rollBack)) else none
  | .commit current => if u.stage = .commit then some (s.commit u current) else none
  | .tidy closes => if u.stage = .tidy then some (s.tidy u closes) else none
  | .rollBack => if u.stage = .rollBack then some (s.rollBack u) else none
  | .tidyBack closes =>
    if u.stage = .tidyBack then some ((s.closePending closes).1.finish u false) else none
  | .update _ => none

/-- One step. -/
def next? : ChannelStep → Option ChannelTransport
  | .update sources => if s.update.isSome then none else some (s.begin sources)
  | step => s.update.bind fun u => s.updateStep? u step

/-! ## What should hold -/

/-- What the update at work has allocated, and is about to commit or to give up. -/
def inHand : List UInt16 := s.update.elim [] (·.allocatedIDs)

/-- The allocations that have an owner, each as often as it is held. -/
def held : List UInt16 :=
  s.channelAllocations.values.map Prod.snd ++ s.pendingCloseIDs ++ s.inHand

end ChannelTransport

/-- All maps have the same keys. -/
structure LaneKeys.Are (keys : LaneKeys) (humans : List String) : Prop where
  outbound : ∀ human, human ∈ keys.outbound ↔ human ∈ humans
  peerSessions : ∀ human, human ∈ keys.peerSessions ↔ human ∈ humans
  channelTokens : ∀ human, human ∈ keys.channelTokens ↔ human ∈ humans
  channelAllocations : ∀ human, human ∈ keys.channelAllocations ↔ human ∈ humans

/-- No map has more keys. -/
structure LaneKeys.Within (keys keys' : LaneKeys) : Prop where
  outbound : keys.outbound ⊆ keys'.outbound
  peerSessions : keys.peerSessions ⊆ keys'.peerSessions
  channelTokens : keys.channelTokens ⊆ keys'.channelTokens
  channelAllocations : keys.channelAllocations ⊆ keys'.channelAllocations

/-- Allocations are conserved: one that the SFU has returned is held exactly once until it is
closed, by a lane or as pending, or by the update that has just allocated it. An update that
succeeds leaves the lanes of the projected Humans, and one that fails adds no lane. -/
structure ChannelTransport.Conserved (s : ChannelTransport) : Prop where
  heldOnce : ∀ id ∈ s.openIDs, s.held.count id = 1
  succeeded : ∀ done ∈ s.finished, done.succeeded = true → done.after.Are done.projected
  failed : ∀ done ∈ s.finished, done.succeeded = false → done.after.Within done.before

/-! ## The runs in which it holds -/

/-- The condition: the SFU allocates ids that are distinct and not open, and no update commits a new
channel for a Human whose lane it has kept. -/
def ChannelTransport.keepsOwners (s : ChannelTransport) : ChannelStep → Bool
  | .allocate ids _ => ids.Nodup && ids.all fun id => id ∉ s.openIDs
  | .commit current =>
    !current || s.update.all fun u =>
      u.newSources.all fun source => source.participantID ∉ s.channelAllocations.keys
  | _ => true

/-- Updates of a transport that was started with some lanes. -/
def channelSystem : TransitionSystem ChannelTransport ChannelStep where
  init s := ∃ lanes : List AssignedLane,
    (lanes.map (·.source.participantID)).Nodup ∧ (lanes.map (·.allocation)).Nodup ∧
      s = { ({} : ChannelTransport).withLanes lanes with
        channels := lanes.length
        openIDs := lanes.map (·.allocation) }
  step s step s' := s.next? step = some s'

end Free4Chat
