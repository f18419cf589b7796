import Free4Chat.Data.JsValue
import Free4Chat.Data.OrderedSet
import Free4Chat.Room.Types

/-!
# Runtime Hosts

The Room keeps one readiness projection per Runtime Host, shared by all Agents of that host and
dropped with the last Agent that refers to it.

* `normalizeRuntimeHosts`: storage repair of the projections and of dangling references.
* `registerRuntimeHost` and `updateRuntimeHost`: a new projection of a host.
* `garbageCollectRuntimeHosts`: drops the hosts that no Agent refers to.
* `runtimeHostForParticipant`: the projection behind an Agent.
-/

namespace Free4Chat

/-- Opaque host ids: `^[A-Za-z0-9._:-]{8,64}$`. -/
def isValidRuntimeHostId (runtimeHostId : String) : Bool :=
  JsString.ofCharClass JsString.isTokenChar 8 64 runtimeHostId

/-- What storage repair finds in the Runtime Hosts of a Room. -/
structure RuntimeHostNormalization where
  runtimeHosts : RuntimeHostMap
  -- Participants whose reference resolves to no valid projection.
  danglingParticipantIds : List String
  changed : Bool

/-- Drops the projections with a malformed id. -/
def sanitizeStoredRuntimeHosts (runtimeHosts : RuntimeHostMap) : RuntimeHostMap :=
  runtimeHosts.filter fun host => isValidRuntimeHostId host.runtimeHostId

/-- Whether a participant refers to a Runtime Host that is not among the given ones. -/
def hasDanglingHost (runtimeHosts : RuntimeHostMap) (participant : RoomParticipant) : Bool :=
  participant.runtimeHostId.any fun hostId =>
    !isValidRuntimeHostId hostId || !runtimeHosts.contains hostId

/-- Sanitizes the projections and finds the participants that refer to none of them. -/
def normalizeRuntimeHosts (input : RuntimeHostMap) (participants : List RoomParticipant) :
    RuntimeHostNormalization :=
  let runtimeHosts := sanitizeStoredRuntimeHosts input
  let dangling := participants.filter (hasDanglingHost runtimeHosts)
  { runtimeHosts
    danglingParticipantIds := dangling.map (·.id)
    changed := runtimeHosts.size ≠ input.size || !dangling.isEmpty }

/-- Registers or replaces the projection of a host. -/
def registerRuntimeHost (runtimeHosts : RuntimeHostMap) (runtimeHost : RuntimeHostProjection) :
    RuntimeHostMap :=
  runtimeHosts.set runtimeHost

/-- The outcome of an Agent's hot update of its Runtime Host. -/
structure RuntimeHostUpdate where
  runtimeHosts : RuntimeHostMap
  previousHostId : Option String
  previousProjection : Option RuntimeHostProjection

/-- Applies an Agent's hot Runtime Host projection. -/
def updateRuntimeHost (runtimeHosts : RuntimeHostMap) (participants : Participants)
    (participantId : String) (runtimeHost : RuntimeHostProjection) : RuntimeHostUpdate :=
  { runtimeHosts := registerRuntimeHost runtimeHosts runtimeHost
    previousHostId := (participants.get? participantId).bind (·.runtimeHostId)
    previousProjection := runtimeHosts.get? runtimeHost.runtimeHostId }

/-- The Agents of a Runtime Host, with one participant counted in. -/
def runtimeHostParticipantIds (participants : List RoomParticipant) (runtimeHostId : String)
    (includeParticipantId : String) : List String :=
  ((participants.filter fun participant =>
    participant.kind = .agent &&
      (participant.runtimeHostId = some runtimeHostId ||
        participant.id = includeParticipantId)).map (·.id)).distinct

/-- Drops the projections of hosts that no participant refers to. -/
def garbageCollectRuntimeHosts (runtimeHosts : RuntimeHostMap) (participants : Participants) :
    RuntimeHostMap :=
  runtimeHosts.filter fun host =>
    participants.values.any fun participant =>
      participant.runtimeHostId = some host.runtimeHostId

/-- The projection behind a participant, if its reference resolves. -/
def runtimeHostForParticipant (runtimeHosts : RuntimeHostMap) (participant : RoomParticipant) :
    Option RuntimeHostProjection :=
  (JsString.nonempty? participant.runtimeHostId).bind runtimeHosts.get?

end Free4Chat
