import Free4Chat.Data.KeyedMap
import Free4Chat.Data.RunStarts
import Free4Chat.Transition.Reachable
import Mathlib.Data.Int.Notation

/-!
# Media Controller

The media controller reconciles what the Room grants to an agent (Meeting Notes, Agent Voice and the
production of the Live Transcript) with one media bridge and one speaker. The producer of the Live
Transcript holds a lease, for which the residents of a host compete. Reconciliations take a lock, so
that there is one at a time, but `Stop` does not take it.

* `ResidentMediaState`: what the Room grants.
* `TranscriptProducers`: the leases of the residents of a host, with `acquire` and `release`.
* `GrantAnnouncement`: which grant was announced.
* `ReconcilePhase` and `StopPhase`: where the reconciliation and `Stop` are.
* `ControllerRun`: the controller, its bridges, the leases, and what happened so far.
* `ControllerRun.reconcile`: the next section of a reconciliation.
* `ControllerRun.next?`: one critical section. `controllerSystem`: the transition system.
-/

namespace Free4Chat

/-! ## Grants -/

/-- How the controller is set up. -/
structure ControllerOptions where
  roomID : String
  runtimeHostID : String
  runtimeInstanceID : String
  -- Whether there is a coordinator of the residents.
  coordinated : Bool
  -- Whether Agent Voice is set up.
  voice : Bool
deriving DecidableEq

/-- What the Room grants. -/
structure ResidentMediaState where
  mediaAvailable : Bool := false
  meetingNotesActive : Bool := false
  meetingNotesStartedAt : ℤ := 0
  agentVoiceEnabledAt : ℤ := 0
  liveTranscriptActive : Bool := false
  producerRuntimeHostID : String := ""
  liveTranscriptEpoch : ℤ := 0
deriving DecidableEq

/-- A time, or an epoch, that is set. -/
def positive? (value : ℤ) : Option ℤ := if 0 < value then some value else none

namespace ControllerOptions

variable (options : ControllerOptions) (state : ResidentMediaState)

/-- Whether Meeting Notes are granted. -/
def notesAuthorized : Bool := state.mediaAvailable && state.meetingNotesActive

/-- Whether Agent Voice is granted. -/
def voiceAuthorized : Bool :=
  options.voice && state.mediaAvailable && 0 < state.agentVoiceEnabledAt

/-- Whether the residents of this host compete for the lease. -/
def competes : Bool :=
  state.mediaAvailable && state.liveTranscriptActive && 0 < state.liveTranscriptEpoch &&
    state.producerRuntimeHostID ≠ "" && state.producerRuntimeHostID = options.runtimeHostID &&
    options.runtimeInstanceID ≠ "" && options.coordinated

/-- Whether there may be a lease to release. -/
def releases : Bool :=
  options.coordinated && options.runtimeHostID ≠ "" && options.runtimeInstanceID ≠ ""

end ControllerOptions

/-! ## Leases -/

/-- The lease of the producer of a Live Transcript. -/
structure TranscriptProducerLease where
  epoch : ℤ
  instanceID : String
deriving DecidableEq

/-- The leases, by Room and host. -/
abbrev TranscriptProducers := KeyedMap (String × TranscriptProducerLease)

/-- The key of the lease for a Room and a host. -/
def transcriptProducerKey (roomID runtimeHostID : String) : String :=
  roomID ++ "\x00" ++ runtimeHostID

namespace TranscriptProducers

variable (leases : TranscriptProducers) (roomID runtimeHostID : String) (epoch : ℤ)
  (instanceID : String)

/-- An instance takes the lease of an epoch, unless another one holds it. -/
def acquire? : Option TranscriptProducers :=
  if roomID = "" ∨ runtimeHostID = "" ∨ epoch ≤ 0 ∨ instanceID = "" then none
  else
    match leases.get? (transcriptProducerKey roomID runtimeHostID) with
    | none => some (leases.set (transcriptProducerKey roomID runtimeHostID, { epoch, instanceID }))
    | some (_, current) =>
      if current.epoch ≠ epoch then
        some (leases.set (transcriptProducerKey roomID runtimeHostID, { epoch, instanceID }))
      else if current.instanceID = instanceID then some leases
      else none

/-- An instance gives up the lease of an epoch that it holds. -/
def release : TranscriptProducers :=
  if leases.get? (transcriptProducerKey roomID runtimeHostID) =
      some (transcriptProducerKey roomID runtimeHostID, { epoch, instanceID }) then
    leases.erase (transcriptProducerKey roomID runtimeHostID)
  else leases

end TranscriptProducers

/-! ## Announcements -/

/-- Which grant of a kind was announced, by its epoch. -/
structure GrantAnnouncement where
  announced : Bool := false
  epoch : Option ℤ := none
  -- The confirmed observations, and the announcements that were made.
  observed : List (Option (Option ℤ)) := []
  activated : List (Option ℤ) := []
deriving DecidableEq

namespace GrantAnnouncement

variable (a : GrantAnnouncement) (authorized : Bool) (epoch : Option ℤ) (confirmed : Bool)

/-- Whether a grant is to be announced. -/
def isEdge : Bool := authorized && (!a.announced || (epoch.isSome && a.epoch ≠ epoch))

/-- The state of a grant is observed. -/
def observe : GrantAnnouncement :=
  if a.isEdge authorized epoch then { a with announced := true, epoch := epoch.or a.epoch }
  else if confirmed && !authorized then { a with announced := false, epoch := none }
  else a

/-- The confirmed observation is remembered. -/
def record : GrantAnnouncement :=
  if confirmed then { a with observed := a.observed ++ [if authorized then some epoch else none] }
  else a

/-- The grant is announced. -/
def activate (edge : Bool) : GrantAnnouncement :=
  if edge then { a with activated := a.activated ++ [epoch] } else a

end GrantAnnouncement

/-! ## Goroutines -/

/-- The state of a controller. -/
inductive ControllerState where
  | idle
  | starting
  | running
deriving DecidableEq

/-- The state of a bridge. -/
inductive BridgeStatus where
  -- It was not started, and its context may be cancelled.
  | built (cancelled : Bool)
  | starting
  | running
  | stopped
deriving DecidableEq

namespace BridgeStatus

/-- Whether a bridge is connected or about to be. -/
def alive : BridgeStatus → Bool
  | .built _ => false
  | .starting => true
  | .running => true
  | .stopped => false

/-- The context of a bridge is cancelled, and the bridge is stopped. A bridge that was not started
need not be. -/
def stop : BridgeStatus → BridgeStatus
  | .built _ => .built true
  | .starting => .stopped
  | .running => .stopped
  | .stopped => .stopped

/-- The start of a bridge begins, and fails if its context is cancelled. -/
def begin : BridgeStatus → BridgeStatus
  | .built cancelled => if cancelled then .stopped else .starting
  | .starting => .starting
  | .running => .running
  | .stopped => .stopped

/-- The start of a bridge ends. -/
def finish (succeeds : Bool) : BridgeStatus → BridgeStatus
  | .starting => if succeeds then .running else .stopped
  | .running => if succeeds then .running else .stopped
  | .built cancelled => .built cancelled
  | .stopped => .stopped

end BridgeStatus

/-- Where a reconciliation is. -/
inductive ReconcilePhase where
  | acquiring
  -- The lease was acquired, and its epoch is to be noted.
  | leased
  | releasing
  | unleasing (epoch : ℤ)
  | edging
  | announcing (notesEdge voiceEdge : Bool)
  -- No grant is left.
  | forgetting
  -- The bridge is torn down, to be built anew or not.
  | silencing (rebuild : Bool)
  | detaching (rebuild : Bool)
  | closing (bridge : Option ℕ) (rebuild : Bool)
  | comparing
  -- The bridge is built and started, if there is none.
  | starting
  | building (generation : ℕ)
  | unbuilt (generation : ℕ)
  | installing (generation bridge : ℕ)
  | connecting (generation bridge : ℕ)
  | connected (generation bridge : ℕ)
  | unconnected (generation bridge : ℕ)
  | confirming (generation bridge : ℕ)
  | abandoning (bridge : ℕ)
  | checking
  -- The speaker is given up, or built.
  | muting
  | rotating
  | voicing
  | resolving
  | unvoiced
  | speaking
deriving DecidableEq

/-- A reconciliation. -/
structure Reconciliation where
  state : ResidentMediaState
  confirmed : Bool
  -- Whether the lease is held.
  live : Bool := false
  phase : ReconcilePhase := .acquiring
deriving DecidableEq

/-- Where `Stop` is. -/
inductive StopPhase where
  | uncalled
  | releasing
  | unleasing (epoch : ℤ)
  | silencing
  | detaching
  | closing (bridge : Option ℕ)
  | returned
deriving DecidableEq

/-! ## Runs -/

/-- The controller, its bridges, the leases, and what happened so far. -/
structure ControllerRun where
  options : ControllerOptions
  state : ControllerState := .idle
  generation : ℕ := 0
  grantEpoch : Option ℤ := none
  voiceEpoch : Option ℤ := none
  liveEpoch : Option ℤ := none
  liveLeaseEpoch : Option ℤ := none
  notes : GrantAnnouncement := {}
  voice : GrantAnnouncement := {}
  bridge : Option ℕ := none
  speaker : Bool := false
  voiceStarting : Bool := false
  stopped : Bool := false
  lastMediaState : Option (ResidentMediaState × Bool) := none
  leases : TranscriptProducers := .empty
  -- The bridges that were built, by their index.
  bridges : List BridgeStatus := []
  reconciliation : Option Reconciliation := none
  stopping : StopPhase := .uncalled
  -- The last reconciliation that is over.
  reconciled : Option Reconciliation := none

/-- One critical section. -/
inductive ControllerStep where
  | observeMediaState (state : ResidentMediaState)
  -- The state of the Room is not known any more.
  | failClosedMediaState
  -- The reconciliation goes on. What it calls succeeds or fails.
  | reconcile (succeeds : Bool)
  | stop
  | stopOn
  -- Another instance acquires or releases a lease.
  | acquire (roomID runtimeHostID : String) (epoch : ℤ) (instanceID : String)
  | release (roomID runtimeHostID : String) (epoch : ℤ) (instanceID : String)

namespace Reconciliation

variable (r : Reconciliation) (options : ControllerOptions)

/-- Whether any grant is authorized. -/
def anyGrant : Bool :=
  ControllerOptions.notesAuthorized r.state || options.voiceAuthorized r.state || r.live

/-- The epoch of Meeting Notes. -/
def notesEpoch : Option ℤ := positive? r.state.meetingNotesStartedAt

/-- The epoch of Agent Voice. -/
def voiceEpoch : Option ℤ := positive? r.state.agentVoiceEnabledAt

end Reconciliation

namespace ControllerRun

variable (c : ControllerRun)

/-! ### Observations -/

/-- A state is observed: it is reconciled, unless it was observed before. -/
def observeMediaState? (state : ResidentMediaState) (confirmed : Bool) : Option ControllerRun :=
  if c.reconciliation.isSome then none
  else if c.stopped then some c
  else if c.lastMediaState.any fun last => last.1 = state && (!confirmed || last.2) then some c
  else some { c with
    lastMediaState := some (state, confirmed)
    reconciliation := some { state, confirmed } }

/-- A reconciliation goes on in another phase. -/
def goTo (r : Reconciliation) (phase : ReconcilePhase) : ControllerRun :=
  { c with reconciliation := some { r with phase } }

/-- A reconciliation is over. -/
def finish (r : Reconciliation) : ControllerRun :=
  { c with reconciliation := none, reconciled := some r }

/-! ### The lease -/

/-- The lease is acquired, or else the one that is held is released. -/
def acquireLease (r : Reconciliation) : ControllerRun :=
  if c.options.competes r.state then
    match c.leases.acquire? c.options.roomID c.options.runtimeHostID r.state.liveTranscriptEpoch
        c.options.runtimeInstanceID with
    | none => c.goTo r .releasing
    | some leases => { c with leases }.goTo r .leased
  else c.goTo r .releasing

/-- The epoch of the lease is noted. -/
def noteLease (r : Reconciliation) : ControllerRun :=
  { c with liveLeaseEpoch := some r.state.liveTranscriptEpoch }.goTo { r with live := true } .edging

/-- The epoch of the lease is taken, to release it. -/
def takeLease : ControllerRun × Option ℤ :=
  if c.options.releases then ({ c with liveLeaseEpoch := none }, c.liveLeaseEpoch) else (c, none)

/-- The lease of an epoch is released. -/
def releaseLease (epoch : ℤ) : ControllerRun :=
  { c with
    leases := c.leases.release c.options.roomID c.options.runtimeHostID epoch
      c.options.runtimeInstanceID }

/-- The lease is released in a reconciliation. -/
def takeLeaseFor (r : Reconciliation) : ControllerRun :=
  match c.takeLease.2 with
  | none => c.takeLease.1.goTo r .edging
  | some epoch => c.takeLease.1.goTo r (.unleasing epoch)

/-! ### Announcements -/

/-- What is to be announced. A controller that was stopped announces nothing. -/
def findEdges (r : Reconciliation) : ControllerRun :=
  let notesAuthorized := ControllerOptions.notesAuthorized r.state
  let voiceAuthorized := c.options.voiceAuthorized r.state
  let notes := c.notes.observe notesAuthorized r.notesEpoch r.confirmed
  let voice := c.voice.observe voiceAuthorized r.voiceEpoch r.confirmed
  if c.stopped then { c with notes, voice }.finish r
  else
    { c with
      notes := notes.record notesAuthorized r.notesEpoch r.confirmed
      voice := voice.record voiceAuthorized r.voiceEpoch r.confirmed }.goTo r
        (.announcing (c.notes.isEdge notesAuthorized r.notesEpoch)
          (c.voice.isEdge voiceAuthorized r.voiceEpoch))

/-- The grants are announced. -/
def announce (r : Reconciliation) (notesEdge voiceEdge : Bool) : ControllerRun :=
  { c with
    notes := c.notes.activate r.notesEpoch notesEdge
    voice := c.voice.activate r.voiceEpoch voiceEdge }.goTo r
      (if r.anyGrant c.options then .comparing else .forgetting)

/-! ### The bridge -/

/-- No grant is left. -/
def forget (r : Reconciliation) : ControllerRun :=
  { c with grantEpoch := none, liveEpoch := none }.goTo r (.silencing false)

/-- The speaker is given up. -/
def teardownVoice : ControllerRun := { c with speaker := false, voiceEpoch := none }

/-- The bridge is given up. -/
def detach : ControllerRun :=
  { c with generation := c.generation + 1, bridge := none, state := .idle }

/-- A bridge changes its status. -/
def updateBridge (bridge : ℕ) (f : BridgeStatus → BridgeStatus) : ControllerRun :=
  { c with bridges := c.bridges.modify bridge f }

/-- The bridge that was given up is stopped. -/
def close (bridge : Option ℕ) : ControllerRun :=
  match bridge with
  | none => c
  | some id => c.updateBridge id BridgeStatus.stop

/-- Whether the grants have changed so that the bridge has to be built anew. -/
def rebuilds (r : Reconciliation) : Bool :=
  let notesAuthorized := ControllerOptions.notesAuthorized r.state
  let voiceAuthorized := c.options.voiceAuthorized r.state
  (notesAuthorized && c.state ≠ .idle && c.grantEpoch ≠ r.notesEpoch) ||
    (voiceAuthorized && c.state ≠ .idle && c.voiceEpoch ≠ r.voiceEpoch) ||
    (r.live && c.liveEpoch.isSome && c.liveEpoch ≠ some r.state.liveTranscriptEpoch &&
      !notesAuthorized && !voiceAuthorized)

/-- The epochs of the grants are compared with those of the bridge. -/
def compareEpochs (r : Reconciliation) : ControllerRun :=
  { c with
    liveEpoch :=
      if r.live then some r.state.liveTranscriptEpoch
      else if r.confirmed then none
      else c.liveEpoch
    grantEpoch := if ControllerOptions.notesAuthorized r.state then r.notesEpoch else c.grantEpoch
  }.goTo r (if c.rebuilds r then .silencing true else .starting)

/-- The bridge is started, unless it is. -/
def ensureRunning (r : Reconciliation) : ControllerRun :=
  if c.state ≠ .idle then c.goTo r .checking
  else
    { c with state := .starting, generation := c.generation + 1 }.goTo r
      (.building (c.generation + 1))

/-- The bridge could not be built. -/
def giveUpBuild (generation : ℕ) : ControllerRun :=
  if c.generation = generation then { c with state := .idle } else c

/-- Whether the bridge that is starting is still wanted. -/
def isStarting (generation : ℕ) : Bool :=
  !c.stopped && c.generation = generation && c.state = .starting

/-- The bridge that was built is installed. -/
def install (r : Reconciliation) (generation bridge : ℕ) : ControllerRun :=
  if c.isStarting generation then
    { c with bridge := some bridge }.goTo r (.connecting generation bridge)
  else c.goTo r (.abandoning bridge)

/-- The bridge could not be started. -/
def giveUpStart (generation bridge : ℕ) : ControllerRun :=
  { c with
    bridge := if c.bridge = some bridge then none else c.bridge
    state :=
      if c.generation = generation ∧ c.state = .starting then .idle else c.state }

/-- The bridge was started. -/
def confirm (r : Reconciliation) (generation bridge : ℕ) : ControllerRun :=
  if c.isStarting generation && c.bridge = some bridge then
    { c with state := .running }.goTo r .checking
  else c.goTo r (.abandoning bridge)

/-- The start of a bridge begins. -/
def connect (r : Reconciliation) (generation bridge : ℕ) : ControllerRun :=
  (c.updateBridge bridge BridgeStatus.begin).goTo r
    (if c.bridges[bridge]? = some (BridgeStatus.built false) then .connected generation bridge
      else .unconnected generation bridge)

/-! ### The speaker -/

/-- The speaker is given up if its grant has changed. -/
def rotateVoice (r : Reconciliation) : ControllerRun :=
  if c.voiceEpoch = r.voiceEpoch then c.goTo r .voicing
  else { c with speaker := false, voiceEpoch := r.voiceEpoch }.goTo r .voicing

/-- The speaker is built, unless it is. -/
def ensureVoice (r : Reconciliation) : ControllerRun :=
  if c.bridge = none ∨ c.voiceStarting = true ∨ c.speaker = true ∨ c.state ≠ .running then
    c.finish r
  else { c with voiceStarting := true }.goTo r .resolving

/-! ### Steps -/

/-- The next section of a reconciliation. -/
def reconcile (r : Reconciliation) (succeeds : Bool) : ControllerRun :=
  match r.phase with
  | .acquiring => c.acquireLease r
  | .leased => c.noteLease r
  | .releasing => c.takeLeaseFor r
  | .unleasing epoch => (c.releaseLease epoch).goTo r .edging
  | .edging => c.findEdges r
  | .announcing notesEdge voiceEdge => c.announce r notesEdge voiceEdge
  | .forgetting => c.forget r
  | .silencing rebuild => c.teardownVoice.goTo r (.detaching rebuild)
  | .detaching rebuild => c.detach.goTo r (.closing c.bridge rebuild)
  | .closing bridge rebuild =>
    if rebuild then (c.close bridge).goTo r .starting else (c.close bridge).finish r
  | .comparing => c.compareEpochs r
  | .starting => c.ensureRunning r
  | .building generation =>
    if succeeds then
      { c with bridges := c.bridges ++ [BridgeStatus.built false] }.goTo r
        (.installing generation c.bridges.length)
    else c.goTo r (.unbuilt generation)
  | .unbuilt generation => (c.giveUpBuild generation).goTo r .checking
  | .installing generation bridge => c.install r generation bridge
  | .connecting generation bridge => c.connect r generation bridge
  | .connected generation bridge =>
    (c.updateBridge bridge (BridgeStatus.finish succeeds)).goTo r
      (if succeeds then .confirming generation bridge else .unconnected generation bridge)
  | .unconnected generation bridge => (c.giveUpStart generation bridge).goTo r .checking
  | .confirming generation bridge => c.confirm r generation bridge
  | .abandoning bridge => (c.updateBridge bridge BridgeStatus.stop).goTo r .checking
  | .checking =>
    if c.state ≠ .running then c.finish r
    else if c.options.voiceAuthorized r.state then c.goTo r .rotating
    else c.goTo r .muting
  | .muting => c.teardownVoice.finish r
  | .rotating => c.rotateVoice r
  | .voicing => c.ensureVoice r
  | .resolving => c.goTo r (if succeeds then .speaking else .unvoiced)
  | .unvoiced => { c with voiceStarting := false }.finish r
  | .speaking => { c with speaker := true, voiceStarting := false }.finish r

/-- The controller is stopped. -/
def stop : ControllerRun :=
  if c.stopped then c
  else { c with stopped := true, lastMediaState := none, stopping := .releasing }

/-- `Stop` goes on. -/
def stopOn? : Option ControllerRun :=
  match c.stopping with
  | .uncalled => none
  | .releasing =>
    some { c.takeLease.1 with
      stopping := (c.takeLease.2.map StopPhase.unleasing).getD .silencing }
  | .unleasing epoch => some { c.releaseLease epoch with stopping := .silencing }
  | .silencing => some { c.teardownVoice with stopping := .detaching }
  | .detaching => some { c.detach with stopping := .closing c.bridge }
  | .closing bridge => some { c.close bridge with stopping := .returned }
  | .returned => none

/-- Another instance acquires a lease, or fails to. -/
def acquireOther? (roomID runtimeHostID : String) (epoch : ℤ) (instanceID : String) :
    Option ControllerRun :=
  if instanceID = c.options.runtimeInstanceID then none
  else some { c with
    leases := (c.leases.acquire? roomID runtimeHostID epoch instanceID).getD c.leases }

/-- Another instance releases a lease. -/
def releaseOther? (roomID runtimeHostID : String) (epoch : ℤ) (instanceID : String) :
    Option ControllerRun :=
  if instanceID = c.options.runtimeInstanceID then none
  else some { c with leases := c.leases.release roomID runtimeHostID epoch instanceID }

/-- One critical section. -/
def next? : ControllerStep → Option ControllerRun
  | .observeMediaState state => c.observeMediaState? state true
  | .failClosedMediaState => c.observeMediaState? {} false
  | .reconcile succeeds => c.reconciliation.map fun r => c.reconcile r succeeds
  | .stop => some c.stop
  | .stopOn => c.stopOn?
  | .acquire roomID runtimeHostID epoch instanceID =>
    c.acquireOther? roomID runtimeHostID epoch instanceID
  | .release roomID runtimeHostID epoch instanceID =>
    c.releaseOther? roomID runtimeHostID epoch instanceID

end ControllerRun

/-- Runs of a controller that was started. -/
def controllerSystem : TransitionSystem ControllerRun ControllerStep where
  init c := ∃ options, c = { options }
  step c label c' := c.next? label = some c'

end Free4Chat
