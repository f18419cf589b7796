import Free4Chat.Room.RuntimeHost

/-!
# Live Transcript Authorization

The live transcript of a Room is produced by one Runtime Host. It is valid while the host is
ready for speech recognition and a connected Agent of that host is present. Epochs and times are
natural numbers; the source's bound of `2^53 - 1` on them is never reached.

* `isLiveTranscriptHostReady`: whether a host can produce the transcript.
* `normalizeLiveTranscriptProducer`: stops a transcript whose producer is not valid.
* `canAgentAppendLiveTranscript`: whether an Agent is a producer of the transcript.
-/

namespace Free4Chat

/-- Whether a stored transcript state is well formed. -/
def isLiveTranscriptState (liveTranscript : LiveTranscriptState) : Bool :=
  match liveTranscript with
  | .inactive => true
  | .active producerRuntimeHostId epoch startedAt =>
    isValidRuntimeHostId producerRuntimeHostId && 0 < epoch && 0 < startedAt

/-- A host is ready while it recognises speech and a connected Agent of it is present. -/
def isLiveTranscriptHostReady (participants : Participants) (runtimeHosts : RuntimeHostMap)
    (runtimeHostId : String) : Bool :=
  isValidRuntimeHostId runtimeHostId &&
    ((runtimeHosts.get? runtimeHostId).any fun host => host.speech.stt) &&
    participants.values.any fun participant =>
      participant.kind = .agent && participant.connected &&
        participant.runtimeHostId = some runtimeHostId

/-- Whether a Human may start the transcript on a host. -/
def canHumanStartLiveTranscript (participants : Participants) (runtimeHosts : RuntimeHostMap)
    (humanParticipantId runtimeHostId : String) : Bool :=
  (participants.values.any fun participant =>
      participant.id = humanParticipantId && participant.kind = .human &&
        participant.connected) &&
    isLiveTranscriptHostReady participants runtimeHosts runtimeHostId

/-- The stored transcript state with malformed data repaired, the next epoch, and whether
anything was repaired. -/
def normalizeStoredLiveTranscript (liveTranscript : LiveTranscriptState)
    (nextLiveTranscriptEpoch : ℕ) : LiveTranscriptState × ℕ × Bool :=
  let state := if isLiveTranscriptState liveTranscript then liveTranscript else .inactive
  let maxEpoch := match state with
    | .inactive => 0
    | .active _ epoch _ => epoch
  let normalizedNextEpoch :=
    if 0 < nextLiveTranscriptEpoch then max nextLiveTranscriptEpoch (maxEpoch + 1)
    else max 1 (maxEpoch + 1)
  (state, normalizedNextEpoch,
    state ≠ liveTranscript || nextLiveTranscriptEpoch ≠ normalizedNextEpoch)

/-- Whether the producer of a transcript is valid. -/
def isLiveTranscriptProducerValid (liveTranscript : LiveTranscriptState)
    (participants : Participants) (runtimeHosts : RuntimeHostMap) (mediaAvailable : Bool) :
    Bool :=
  match liveTranscript with
  | .inactive => true
  | .active hostId _ _ =>
    mediaAvailable && ((runtimeHosts.get? hostId).any fun host => host.speech.stt) &&
      isLiveTranscriptHostReady participants runtimeHosts hostId

/-- Stops a transcript whose producer is not valid. -/
def normalizeLiveTranscriptProducer (liveTranscript : LiveTranscriptState)
    (participants : Participants) (runtimeHosts : RuntimeHostMap) (mediaAvailable : Bool) :
    LiveTranscriptState × Bool :=
  if isLiveTranscriptProducerValid liveTranscript participants runtimeHosts mediaAvailable then
    (liveTranscript, false)
  else (.inactive, true)

/-- Starts the transcript unless it is active. -/
def startLiveTranscript (liveTranscript : LiveTranscriptState) (nextLiveTranscriptEpoch : ℕ)
    (runtimeHostId : String) (now : ℕ) : LiveTranscriptState × ℕ :=
  match liveTranscript with
  | .active .. => (liveTranscript, nextLiveTranscriptEpoch)
  | .inactive =>
    (.active runtimeHostId nextLiveTranscriptEpoch now, nextLiveTranscriptEpoch + 1)

/-- Whether an Agent is a connected member of the host that produces the transcript. -/
def canAgentAppendLiveTranscript (liveTranscript : LiveTranscriptState)
    (caller : RoomParticipant) (participants : Participants) (runtimeHosts : RuntimeHostMap)
    (mediaAvailable : Bool) : Bool :=
  match liveTranscript with
  | .inactive => false
  | .active hostId _ _ =>
    caller.kind = .agent && caller.runtimeHostId = some hostId &&
      (participants.values.any fun participant =>
        participant.id = caller.id && participant.kind = .agent && participant.connected &&
          participant.runtimeHostId = some hostId) &&
      isLiveTranscriptProducerValid liveTranscript participants runtimeHosts mediaAvailable

end Free4Chat
