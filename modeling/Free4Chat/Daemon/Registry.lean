import Free4Chat.Data.KeyedMap
import Free4Chat.Data.ListFilterMap
import Free4Chat.Transition.Reachable

/-!
# The Registry of the Daemon

The daemon hosts residents, each with a Runtime and a workspace. Requests to join or to create a
Room, to leave, and to stop the daemon are served at once, each by a goroutine of its own, and so
are the residents that find their Room expired or that left it themselves.

Admission is checked when a request arrives. The Runtime of a join is registered before it starts,
that of a create after it was adopted by its Room.

* `ResidentInstance`: a Runtime, and its workspace.
* `RegistryHandler`: where a goroutine is.
* `DaemonRun`: the registry, the Runtimes and the goroutines.
* `DaemonRun.advance?`: one critical section of a goroutine.
* `DaemonRun.next?`: one step. `daemonSystem`: the transition system.
-/

namespace Free4Chat

/-! ## Residents and goroutines -/

/-- A Runtime that the daemon built, and its workspace. -/
structure ResidentInstance where
  instanceID : ℕ
  -- It was registered, or its start was given up.
  launched : Bool := false
  -- Its wait loop was started.
  loop : Bool := false
  stopped : Bool := false
  workspace : Bool := true
deriving DecidableEq

instance : Keyed ResidentInstance ℕ where
  key := ResidentInstance.instanceID

@[simp]
lemma ResidentInstance.key_eq (resident : ResidentInstance) : Keyed.key resident = resident.instanceID := rfl

namespace ResidentInstance

variable (resident : ResidentInstance)

/-- Whether the wait loop is at work. -/
def running : Bool := resident.loop && !resident.stopped

/-- The Runtime belongs to its instance from now on. -/
def launch : ResidentInstance := { resident with launched := true }

/-- The wait loop is started. It ends at once if the Runtime is stopped. -/
def startLoop : ResidentInstance := { resident with loop := true }

/-- The Runtime is stopped. -/
def stop : ResidentInstance := { resident with stopped := true }

/-- The workspace is removed. -/
def removeWorkspace : ResidentInstance := { resident with workspace := false }

lemma key_launch : Keyed.key resident.launch = Keyed.key resident := rfl

lemma key_startLoop : Keyed.key resident.startLoop = Keyed.key resident := rfl

lemma key_stop : Keyed.key resident.stop = Keyed.key resident := rfl

lemma key_removeWorkspace : Keyed.key resident.removeWorkspace = Keyed.key resident := rfl

end ResidentInstance

/-- Where a goroutine of the daemon is: what it does next. -/
inductive RegistryHandler where
  -- A join or a create passed `rejectIfStopping`.
  | admitted (isCreate : Bool)
  -- Its Runtime is built: a join registers it, a create has it adopted by a new Room.
  | prepared (isCreate : Bool) (instanceID : ℕ)
  -- The new Room adopted the Runtime, which is registered next.
  | adopted (instanceID : ℕ)
  -- A Runtime is registered, and starts.
  | starting (instanceID : ℕ)
  | startFailed (instanceID : ℕ)
  -- An adopted Runtime is registered, and its wait loop is started next.
  | registered (instanceID : ℕ)
  -- `Stop` is called next.
  | stopping (instanceID : ℕ)
  -- The workspace is removed next.
  | removing (instanceID : ℕ)
  -- A wait loop found its Room expired, stopped its Runtime, and unregisters it next.
  | expired (instanceID : ℕ)
  -- A Runtime left its Room and stopped. Its instance is taken from the registry next.
  | selfLeft (instanceID : ℕ)
deriving DecidableEq

namespace RegistryHandler

/-- The instance that a goroutine works for. -/
def instanceID? : RegistryHandler → Option ℕ
  | admitted _ => none
  | prepared _ id | adopted id | starting id | startFailed id | registered id | stopping id
  | removing id | expired id | selfLeft id => some id

/-- The instance that a goroutine is going to register, or to give up. -/
def admits? : RegistryHandler → Option ℕ
  | prepared _ id | adopted id => some id
  | _ => none

/-- Whether a goroutine registers an instance next. -/
def registers : RegistryHandler → Bool
  | prepared false _ | adopted _ => true
  | _ => false

end RegistryHandler

/-! ## Runs -/

/-- The registry of the daemon, the Runtimes that it built, and its goroutines. -/
structure DaemonRun where
  stopping : Bool := false
  finalized : Bool := false
  instances : List ℕ := []
  residents : KeyedMap ResidentInstance := .empty
  handlers : List RegistryHandler := []
  nextID : ℕ := 0

/-- One step. -/
inductive DaemonStep where
  -- A request to join or to create a Room arrives.
  | dispatch (isCreate : Bool)
  -- A goroutine goes on, and what it tries succeeds or not.
  | advance (index : ℕ) (succeeds : Bool)
  | leave (instanceID : ℕ)
  -- A wait loop finds its Room expired.
  | expire (instanceID : ℕ)
  -- A turn of a Runtime left the Room.
  | selfLeave (instanceID : ℕ)
  | beginStop
  | finishStop
deriving DecidableEq

namespace DaemonRun

variable (d : DaemonRun)

/-- Add an instance to the registry. -/
def register (instanceID : ℕ) : DaemonRun :=
  { d with
    instances := d.instances.filter (· ≠ instanceID) ++ [instanceID]
    residents := d.residents.modify instanceID ResidentInstance.launch ResidentInstance.key_launch }

/-- Remove an instance from the registry. -/
def unregister (instanceID : ℕ) : DaemonRun :=
  { d with instances := d.instances.filter (· ≠ instanceID) }

/-- Build a Runtime. -/
def prepareRuntime : DaemonRun :=
  { d with
    residents := d.residents.set { instanceID := d.nextID }
    nextID := d.nextID + 1 }

/-- The start of a Runtime that was never registered is given up. -/
def giveUp (instanceID : ℕ) : DaemonRun :=
  { d with residents := d.residents.modify instanceID ResidentInstance.launch ResidentInstance.key_launch }

/-- Start the wait loop of a Runtime. -/
def startLoop (instanceID : ℕ) : DaemonRun :=
  { d with residents := d.residents.modify instanceID ResidentInstance.startLoop ResidentInstance.key_startLoop }

/-- Stop a Runtime. -/
def stopRuntime (instanceID : ℕ) : DaemonRun :=
  { d with residents := d.residents.modify instanceID ResidentInstance.stop ResidentInstance.key_stop }

/-- Remove the workspace of a Runtime. -/
def removeWorkspace (instanceID : ℕ) : DaemonRun :=
  { d with
    residents :=
      d.residents.modify instanceID ResidentInstance.removeWorkspace ResidentInstance.key_removeWorkspace }

/-- Whether the wait loop of an instance is at work. -/
def isRunning (instanceID : ℕ) : Bool :=
  (d.residents.get? instanceID).any ResidentInstance.running

/-- A new goroutine. -/
def spawn (handler : RegistryHandler) : DaemonRun :=
  { d with handlers := d.handlers ++ [handler] }

/-- One critical section of a goroutine, and where it is afterwards. -/
def advance (handler : RegistryHandler) (succeeds : Bool) : DaemonRun × Option RegistryHandler :=
  match handler with
  | .admitted isCreate =>
    if succeeds then (d.prepareRuntime, some (.prepared isCreate d.nextID)) else (d, none)
  | .prepared false id => (d.register id, some (.starting id))
  | .prepared true id =>
    if succeeds then (d, some (.adopted id)) else (d.giveUp id, some (.stopping id))
  | .adopted id => (d.register id, some (.registered id))
  | .starting id => if succeeds then (d.startLoop id, none) else (d, some (.startFailed id))
  | .startFailed id => (d.unregister id, some (.stopping id))
  | .registered id => (d.startLoop id, none)
  | .stopping id => (d.stopRuntime id, some (.removing id))
  | .removing id => (d.removeWorkspace id, none)
  | .expired id => (d.unregister id, some (.removing id))
  | .selfLeft id =>
    if id ∈ d.instances then (d.unregister id, some (.stopping id)) else (d, none)

/-- A goroutine goes on. -/
def advance? (index : ℕ) (succeeds : Bool) : Option DaemonRun :=
  d.handlers[index]?.map fun handler =>
    { (d.advance handler succeeds).1 with
      handlers := d.handlers.updateIdx index (d.advance handler succeeds).2 }

/-- Serve a request to join or to create a Room, unless the daemon is stopping. -/
def dispatch (isCreate : Bool) : DaemonRun :=
  if d.stopping || d.finalized then d else d.spawn (.admitted isCreate)

/-- Stop an instance and remove its workspace. An unknown id is ignored. -/
def leave (instanceID : ℕ) : DaemonRun :=
  if instanceID ∈ d.instances then (d.unregister instanceID).spawn (.stopping instanceID) else d

/-- Stop every instance, and serve no more of them. -/
def beginStop : DaemonRun :=
  { d with
    stopping := true
    instances := []
    handlers := d.handlers ++ d.instances.map .stopping }

/-- One step. -/
def next? : DaemonStep → Option DaemonRun
  | .dispatch isCreate => some (d.dispatch isCreate)
  | .advance index succeeds => d.advance? index succeeds
  | .leave instanceID => some (d.leave instanceID)
  | .expire instanceID =>
    if d.isRunning instanceID then
      some ((d.stopRuntime instanceID).spawn (.expired instanceID))
    else none
  | .selfLeave instanceID =>
    if d.isRunning instanceID then
      some ((d.stopRuntime instanceID).spawn (.selfLeft instanceID))
    else none
  | .beginStop => some d.beginStop
  | .finishStop => if d.stopping then some { d with finalized := true } else none

end DaemonRun

/-- Runs of the daemon. -/
def daemonSystem : TransitionSystem DaemonRun DaemonStep where
  init d := d = {}
  step d label d' := d.next? label = some d'

end Free4Chat
