import Free4Chat.Data.Fallible
import Free4Chat.Data.JsonText
import Free4Chat.Room.LiveTranscript
import Free4Chat.Transition.Reachable

/-!
# The Stored Live Transcript

The live transcript is stored in a value of its own: its state, its segments and two counters. The
value is bounded in bytes. The oldest segments are dropped when one is appended; a load drops them
too, and repairs what is malformed.

* `StoredLiveTranscript` and `liveTranscriptStorageByteLength`: the value and its size.
* `boundLiveTranscriptSegments`, `appendLiveTranscriptSegment` and
  `StoredLiveTranscript.normalize`: the operations.
* `TranscriptStable`: the value is within its bound, and a load leaves it alone.
* `transcriptStable_of_startFits`: it is, in every run whose starts leave the value within its
  bound.
-/

namespace Free4Chat

def MAX_LIVE_TRANSCRIPT_SEGMENTS : ℕ := 500
def MAX_LIVE_TRANSCRIPT_STORAGE_BYTES : ℕ := 96 * 1024
def MAX_LIVE_TRANSCRIPT_SEGMENT_TEXT_CHARS : ℕ := 4000
def MAX_LIVE_TRANSCRIPT_SEGMENT_ID_LENGTH : ℕ := 128
def MAX_PARTICIPANT_ID_LENGTH : ℕ := 256
def MAX_SPEAKER_LENGTH : ℕ := 256

/-! ## The value -/

/-- A committed segment. -/
structure LiveTranscriptSegment where
  segmentId : String
  epoch : ℕ
  sequence : ℕ
  participantId : String
  speaker : String
  text : String
  createdAt : ℕ
deriving DecidableEq, Repr

/-- The value under which the transcript is stored. -/
structure StoredLiveTranscript where
  liveTranscript : LiveTranscriptState := .inactive
  liveTranscriptSegments : List LiveTranscriptSegment := []
  nextLiveTranscriptEpoch : ℕ := 1
  nextTranscriptSequence : ℕ := 1
deriving DecidableEq, Repr

/-- The JSON text of a transcript state. -/
def LiveTranscriptState.json : LiveTranscriptState → String
  | .inactive => JsonText.object [("active", "false")]
  | .active producerRuntimeHostId epoch startedAt =>
    JsonText.object
      [("active", "true"), ("producerRuntimeHostId", JsonText.string producerRuntimeHostId),
        ("epoch", JsonText.number epoch), ("startedAt", JsonText.number startedAt)]

/-- The JSON text of a segment. -/
def LiveTranscriptSegment.json (segment : LiveTranscriptSegment) : String :=
  JsonText.object
    [("segmentId", JsonText.string segment.segmentId), ("epoch", JsonText.number segment.epoch),
      ("sequence", JsonText.number segment.sequence),
      ("participantId", JsonText.string segment.participantId),
      ("speaker", JsonText.string segment.speaker), ("text", JsonText.string segment.text),
      ("createdAt", JsonText.number segment.createdAt)]

/-- The JSON text of the stored value. -/
def StoredLiveTranscript.json (transcript : StoredLiveTranscript) : String :=
  JsonText.object
    [("liveTranscript", transcript.liveTranscript.json),
      ("liveTranscriptSegments",
        JsonText.array (transcript.liveTranscriptSegments.map LiveTranscriptSegment.json)),
      ("nextLiveTranscriptEpoch", JsonText.number transcript.nextLiveTranscriptEpoch),
      ("nextTranscriptSequence", JsonText.number transcript.nextTranscriptSequence)]

/-- The size of the stored value. -/
def liveTranscriptStorageByteLength (transcript : StoredLiveTranscript) : ℕ :=
  transcript.json.utf8ByteSize

/-! ## Operations -/

/-- A string that is not empty and has a bounded length. -/
def isBoundedString (s : String) (maxLength : ℕ) : Bool :=
  s ≠ "" && JsString.utf16Length s ≤ maxLength

/-- Segment ids: `^[A-Za-z0-9._:-]+$`, of a bounded length. -/
def isValidLiveTranscriptSegmentId (segmentId : String) : Bool :=
  JsString.ofCharClass JsString.isTokenChar 1 MAX_LIVE_TRANSCRIPT_SEGMENT_ID_LENGTH segmentId

/-- Whether a stored segment is well formed. -/
def isLiveTranscriptSegment (segment : LiveTranscriptSegment) : Bool :=
  isValidLiveTranscriptSegmentId segment.segmentId && 0 < segment.epoch &&
    0 < segment.sequence && isBoundedString segment.participantId MAX_PARTICIPANT_ID_LENGTH &&
    isBoundedString segment.speaker MAX_SPEAKER_LENGTH &&
    isBoundedString segment.text MAX_LIVE_TRANSCRIPT_SEGMENT_TEXT_CHARS && 0 < segment.createdAt

/-- Drops the oldest segments until their number and the size of the value are within bounds. -/
def boundLiveTranscriptSegments (liveTranscript : LiveTranscriptState)
    (nextLiveTranscriptEpoch nextTranscriptSequence : ℕ) :
    List LiveTranscriptSegment → List LiveTranscriptSegment
  | [] => []
  | segment :: segments =>
    if MAX_LIVE_TRANSCRIPT_SEGMENTS < (segment :: segments).length ∨
        MAX_LIVE_TRANSCRIPT_STORAGE_BYTES < liveTranscriptStorageByteLength
          { liveTranscript, liveTranscriptSegments := segment :: segments,
            nextLiveTranscriptEpoch, nextTranscriptSequence } then
      boundLiveTranscriptSegments liveTranscript nextLiveTranscriptEpoch nextTranscriptSequence
        segments
    else segment :: segments

/-- Drops the segments whose key or sequence occurred before. -/
def deduplicateSegments (seenSegments : List (ℕ × String)) (seenSequences : List ℕ) :
    List LiveTranscriptSegment → List LiveTranscriptSegment
  | [] => []
  | segment :: segments =>
    if (segment.epoch, segment.segmentId) ∈ seenSegments ∨ segment.sequence ∈ seenSequences then
      deduplicateSegments seenSegments seenSequences segments
    else
      segment :: deduplicateSegments ((segment.epoch, segment.segmentId) :: seenSegments)
        (segment.sequence :: seenSequences) segments

/-- Stops the transcript. -/
def stopLiveTranscript (liveTranscript : LiveTranscriptState) : LiveTranscriptState :=
  match liveTranscript with
  | .active .. => .inactive
  | .inactive => .inactive

/-- What appending a segment yields. -/
inductive TranscriptAppend where
  | duplicate
  | appended (segment : LiveTranscriptSegment) (transcript : StoredLiveTranscript)
deriving DecidableEq

/-- Whether a participant may be the source of a segment. -/
def isSegmentSource (participant : RoomParticipant) : Bool :=
  participant.kind = .human && isBoundedString participant.id MAX_PARTICIPANT_ID_LENGTH &&
    isBoundedString participant.name MAX_SPEAKER_LENGTH

/-- Appends a segment to the active transcript. The value is bounded with the counters that are
stored with the segment. -/
def appendLiveTranscriptSegment (transcript : StoredLiveTranscript) (epoch segmentId : JsValue)
    (sourceParticipant : Option RoomParticipant) (text : JsValue) (now : ℕ) :
    Except String TranscriptAppend :=
  match transcript.liveTranscript with
  | .inactive => .error "live_transcript_inactive"
  | .active _ activeEpoch _ => do
    Except.rejectWhen (epoch.asSafeInteger? ≠ some (activeEpoch : ℤ))
      "live_transcript_epoch_mismatch"
    let segmentId ← Except.require (segmentId.asString?.filter isValidLiveTranscriptSegmentId)
      "invalid_live_transcript_segment_id"
    if transcript.liveTranscriptSegments.any fun segment =>
        segment.epoch = activeEpoch && segment.segmentId = segmentId then
      return .duplicate
    else do
      let source ← Except.require (sourceParticipant.filter isSegmentSource)
        "invalid_live_transcript_source"
      let normalizedText ← Except.require ((text.asString?.map JsString.trim).filter fun text =>
        isBoundedString text MAX_LIVE_TRANSCRIPT_SEGMENT_TEXT_CHARS) "invalid_live_transcript_text"
      let segment : LiveTranscriptSegment :=
        { segmentId
          epoch := activeEpoch
          sequence := transcript.nextTranscriptSequence
          participantId := source.id
          speaker := source.name
          text := normalizedText
          createdAt := now }
      return .appended segment { transcript with
        liveTranscriptSegments := boundLiveTranscriptSegments transcript.liveTranscript
          (activeEpoch + 1) (transcript.nextTranscriptSequence + 1)
          (transcript.liveTranscriptSegments ++ [segment])
        nextTranscriptSequence := transcript.nextTranscriptSequence + 1 }

/-- The value as a load repairs it, and whether it repaired anything. -/
def StoredLiveTranscript.normalize (transcript : StoredLiveTranscript) :
    StoredLiveTranscript × Bool :=
  let (state, normalizedNextEpoch, stateChanged) := normalizeStoredLiveTranscript
    transcript.liveTranscript transcript.nextLiveTranscriptEpoch
  let rawSegments := transcript.liveTranscriptSegments
  let sorted := (rawSegments.filter isLiveTranscriptSegment).mergeSort fun left right =>
    left.sequence ≤ right.sequence
  let deduplicated := deduplicateSegments [] [] sorted
  let maxSequence := (deduplicated.getLast?.map (·.sequence)).getD 0
  let normalizedNextSequence :=
    if 0 < transcript.nextTranscriptSequence then
      max transcript.nextTranscriptSequence (maxSequence + 1)
    else max 1 (maxSequence + 1)
  let bounded := boundLiveTranscriptSegments state normalizedNextEpoch normalizedNextSequence
    deduplicated
  ({ liveTranscript := state
     liveTranscriptSegments := bounded
     nextLiveTranscriptEpoch := normalizedNextEpoch
     nextTranscriptSequence := normalizedNextSequence },
    stateChanged || sorted.length ≠ rawSegments.length ||
      deduplicated.length ≠ sorted.length ||
      transcript.nextTranscriptSequence ≠ normalizedNextSequence || bounded ≠ rawSegments)

/-! ## Runs -/

/-- What happens to a stored transcript. -/
inductive TranscriptOp where
  -- A Human starts the transcript on a ready host.
  | start (runtimeHostId : String) (now : ℕ)
  | stop
  | append (epoch segmentId : JsValue) (sourceParticipant : Option RoomParticipant)
    (text : JsValue) (now : ℕ)
  -- The producer is no longer valid.
  | producerLost
  | load
  -- The Room expires, and is created again.
  | recreate

namespace StoredLiveTranscript

/-- The value after a start. -/
def started (transcript : StoredLiveTranscript) (runtimeHostId : String) (now : ℕ) :
    StoredLiveTranscript :=
  let transition := startLiveTranscript transcript.liveTranscript
    transcript.nextLiveTranscriptEpoch runtimeHostId now
  { transcript with
    liveTranscript := transition.1
    nextLiveTranscriptEpoch := transition.2 }

/-- The value after an operation. -/
def step (transcript : StoredLiveTranscript) : TranscriptOp → StoredLiveTranscript
  | .start runtimeHostId now => transcript.started runtimeHostId now
  | .stop => { transcript with liveTranscript := stopLiveTranscript transcript.liveTranscript }
  | .append epoch segmentId sourceParticipant text now =>
    match appendLiveTranscriptSegment transcript epoch segmentId sourceParticipant text now with
    | .ok (.appended _ appended) => appended
    | _ => transcript
  | .producerLost => { transcript with liveTranscript := .inactive }
  | .load => transcript.normalize.1
  | .recreate => {}

/-- When an operation may happen. Hosts are valid, and counters and times are safe integers. -/
def Enabled (transcript : StoredLiveTranscript) : TranscriptOp → Prop
  | .start runtimeHostId now => isValidRuntimeHostId runtimeHostId = true ∧ 0 < now ∧
      (now : ℤ) ≤ JsValue.maxSafeInteger ∧
      (transcript.nextLiveTranscriptEpoch : ℤ) < JsValue.maxSafeInteger
  | .append _ _ _ _ now =>
    0 < now ∧ (transcript.nextTranscriptSequence : ℤ) < JsValue.maxSafeInteger
  | _ => True

/-- A start leaves the value within its bound. -/
def StartFits (transcript : StoredLiveTranscript) : TranscriptOp → Prop
  | .start runtimeHostId now =>
    liveTranscriptStorageByteLength (transcript.started runtimeHostId now) ≤
      MAX_LIVE_TRANSCRIPT_STORAGE_BYTES
  | _ => True

end StoredLiveTranscript

/-- The runs of a stored transcript. -/
def transcriptSystem : TransitionSystem StoredLiveTranscript TranscriptOp where
  init transcript := transcript = {}
  step transcript op transcript' := transcript.Enabled op ∧ transcript' = transcript.step op

/-- A stored transcript is within its bound, and a load leaves it alone. -/
structure TranscriptStable (transcript : StoredLiveTranscript) : Prop where
  bounded : liveTranscriptStorageByteLength transcript ≤ MAX_LIVE_TRANSCRIPT_STORAGE_BYTES
  loaded : transcript.normalize = (transcript, false)

/-! ## Sizes -/

/-- The size of a value without its state, its segments and its counters. -/
def transcriptOverhead : ℕ := 100

lemma liveTranscriptStorageByteLength_eq (transcript : StoredLiveTranscript) :
    liveTranscriptStorageByteLength transcript = transcriptOverhead +
      transcript.liveTranscript.json.utf8ByteSize +
      JsonText.separatedSize (transcript.liveTranscriptSegments.map fun segment =>
        segment.json.utf8ByteSize) +
      (JsonText.number transcript.nextLiveTranscriptEpoch).utf8ByteSize +
      (JsonText.number transcript.nextTranscriptSequence).utf8ByteSize := by
  have hstate : (JsonText.string "liveTranscript").utf8ByteSize = 16 := by decide
  have hsegments : (JsonText.string "liveTranscriptSegments").utf8ByteSize = 24 := by decide
  have hepoch : (JsonText.string "nextLiveTranscriptEpoch").utf8ByteSize = 25 := by decide
  have hsequence : (JsonText.string "nextTranscriptSequence").utf8ByteSize = 24 := by decide
  rw [liveTranscriptStorageByteLength, StoredLiveTranscript.json, JsonText.utf8ByteSize_object]
  simp only [List.map_cons, List.map_nil, JsonText.separatedSize, List.sum_cons, List.sum_nil,
    List.length_cons, List.length_nil, JsonText.utf8ByteSize_array, hstate, hsegments, hepoch,
    hsequence, List.map_map, Function.comp_def, List.length_map, transcriptOverhead]
  omega

lemma utf8ByteSize_json_inactive : LiveTranscriptState.inactive.json.utf8ByteSize = 16 := by
  decide

lemma utf8ByteSize_json_active (hostId : String) (epoch startedAt : ℕ) :
    (LiveTranscriptState.active hostId epoch startedAt).json.utf8ByteSize = 62 +
      (JsonText.string hostId).utf8ByteSize + (JsonText.number epoch).utf8ByteSize +
      (JsonText.number startedAt).utf8ByteSize := by
  have hactive : (JsonText.string "active").utf8ByteSize = 8 := by decide
  have htrue : "true".utf8ByteSize = 4 := by decide
  have hhost : (JsonText.string "producerRuntimeHostId").utf8ByteSize = 23 := by decide
  have hepoch : (JsonText.string "epoch").utf8ByteSize = 7 := by decide
  have hstarted : (JsonText.string "startedAt").utf8ByteSize = 11 := by decide
  rw [LiveTranscriptState.json, JsonText.utf8ByteSize_object]
  simp only [List.map_cons, List.map_nil, JsonText.separatedSize, List.sum_cons, List.sum_nil,
    List.length_cons, List.length_nil, hactive, htrue, hhost, hepoch, hstarted]
  omega

/-! ## Bounding the segments -/

section Bounding

variable (liveTranscript : LiveTranscriptState) (nextEpoch nextSequence : ℕ)
  (segments : List LiveTranscriptSegment)

variable {liveTranscript nextEpoch nextSequence segments} in
lemma boundLiveTranscriptSegments_eq_self (hlength : segments.length ≤ MAX_LIVE_TRANSCRIPT_SEGMENTS)
    (hsize : liveTranscriptStorageByteLength ⟨liveTranscript, segments, nextEpoch, nextSequence⟩ ≤
      MAX_LIVE_TRANSCRIPT_STORAGE_BYTES) :
    boundLiveTranscriptSegments liveTranscript nextEpoch nextSequence segments = segments := by
  cases segments with
  | nil => rfl
  | cons segment segments =>
    rw [boundLiveTranscriptSegments, if_neg]
    rintro (h | h)
    · exact absurd hlength (by omega)
    · exact absurd hsize (by omega)

lemma boundLiveTranscriptSegments_suffix :
    boundLiveTranscriptSegments liveTranscript nextEpoch nextSequence segments <:+ segments := by
  induction segments with
  | nil => exact List.suffix_refl []
  | cons segment segments ih =>
    rw [boundLiveTranscriptSegments]
    split_ifs
    · exact ih.trans (List.suffix_cons segment segments)
    · exact List.suffix_refl _

lemma boundLiveTranscriptSegments_bounded
    (hempty : liveTranscriptStorageByteLength ⟨liveTranscript, [], nextEpoch, nextSequence⟩ ≤
      MAX_LIVE_TRANSCRIPT_STORAGE_BYTES) :
    (boundLiveTranscriptSegments liveTranscript nextEpoch nextSequence segments).length ≤
        MAX_LIVE_TRANSCRIPT_SEGMENTS ∧
      liveTranscriptStorageByteLength ⟨liveTranscript,
          boundLiveTranscriptSegments liveTranscript nextEpoch nextSequence segments,
          nextEpoch, nextSequence⟩ ≤ MAX_LIVE_TRANSCRIPT_STORAGE_BYTES := by
  induction segments with
  | nil => exact ⟨Nat.zero_le _, hempty⟩
  | cons segment segments ih =>
    rw [boundLiveTranscriptSegments]
    split_ifs with h
    · exact ih
    · rw [not_or, not_lt, not_lt] at h
      exact h

end Bounding

/-! ## Repair on load -/

lemma deduplicateSegments_eq_self {seenSegments : List (ℕ × String)} {seenSequences : List ℕ}
    {segments : List LiveTranscriptSegment}
    (hkeys : ∀ segment ∈ segments, (segment.epoch, segment.segmentId) ∉ seenSegments)
    (hsequences : ∀ segment ∈ segments, segment.sequence ∉ seenSequences)
    (hnodup : segments.Pairwise fun left right =>
      (left.epoch, left.segmentId) ≠ (right.epoch, right.segmentId) ∧
        left.sequence ≠ right.sequence) :
    deduplicateSegments seenSegments seenSequences segments = segments := by
  induction segments generalizing seenSegments seenSequences with
  | nil => rfl
  | cons segment segments ih =>
    rw [List.pairwise_cons] at hnodup
    rw [deduplicateSegments, if_neg (not_or.mpr ⟨hkeys segment List.mem_cons_self,
      hsequences segment List.mem_cons_self⟩)]
    -- The first segment is seen from here on; it differs from all that follow.
    have hkeys' : ∀ other ∈ segments, (other.epoch, other.segmentId) ∉
        (segment.epoch, segment.segmentId) :: seenSegments := by
      intro other hother
      rw [List.mem_cons, not_or]
      exact ⟨(hnodup.1 other hother).1.symm, hkeys other (List.mem_cons_of_mem _ hother)⟩
    have hsequences' : ∀ other ∈ segments,
        other.sequence ∉ segment.sequence :: seenSequences := by
      intro other hother
      rw [List.mem_cons, not_or]
      exact ⟨(hnodup.1 other hother).2.symm, hsequences other (List.mem_cons_of_mem _ hother)⟩
    rw [ih hkeys' hsequences' hnodup.2]

/-- The well-formed values: the segments are in order, their keys are distinct and the counters
are ahead of them. -/
structure TranscriptValid (transcript : StoredLiveTranscript) : Prop where
  state : isLiveTranscriptState transcript.liveTranscript = true
  -- The epoch of an active transcript is the last one that was given out.
  active : ∀ hostId epoch startedAt, transcript.liveTranscript = .active hostId epoch startedAt →
    transcript.nextLiveTranscriptEpoch = epoch + 1 ∧
      (startedAt : ℤ) ≤ JsValue.maxSafeInteger
  epochPos : 0 < transcript.nextLiveTranscriptEpoch
  epochSafe : (transcript.nextLiveTranscriptEpoch : ℤ) ≤ JsValue.maxSafeInteger
  sequencePos : 0 < transcript.nextTranscriptSequence
  sequenceSafe : (transcript.nextTranscriptSequence : ℤ) ≤ JsValue.maxSafeInteger
  segments : ∀ segment ∈ transcript.liveTranscriptSegments, isLiveTranscriptSegment segment = true
  distinct : transcript.liveTranscriptSegments.Pairwise fun left right =>
    (left.epoch, left.segmentId) ≠ (right.epoch, right.segmentId) ∧
      left.sequence < right.sequence
  below : ∀ segment ∈ transcript.liveTranscriptSegments,
    segment.sequence < transcript.nextTranscriptSequence
  length : transcript.liveTranscriptSegments.length ≤ MAX_LIVE_TRANSCRIPT_SEGMENTS

section Repair

variable {transcript : StoredLiveTranscript}

section

variable (h : TranscriptValid transcript)
include h

lemma TranscriptValid.normalizeState :
    normalizeStoredLiveTranscript transcript.liveTranscript transcript.nextLiveTranscriptEpoch =
      (transcript.liveTranscript, transcript.nextLiveTranscriptEpoch, false) := by
  have hpos := h.epochPos
  rw [normalizeStoredLiveTranscript]
  simp only [h.state, if_true, hpos]
  cases hstate : transcript.liveTranscript with
  | inactive =>
    have hmax : max transcript.nextLiveTranscriptEpoch (0 + 1) =
      transcript.nextLiveTranscriptEpoch := by omega
    simp [hmax]
  | active hostId epoch startedAt =>
    have hmax : max transcript.nextLiveTranscriptEpoch (epoch + 1) =
        transcript.nextLiveTranscriptEpoch := by
      rw [(h.active hostId epoch startedAt hstate).1, max_self]
    simp [hmax]

lemma TranscriptValid.maxSequence : max transcript.nextTranscriptSequence
        ((transcript.liveTranscriptSegments.getLast?.map (·.sequence)).getD 0 + 1) =
      transcript.nextTranscriptSequence := by
  have hpos := h.sequencePos
  cases hlast : transcript.liveTranscriptSegments.getLast? with
  | none =>
    show max transcript.nextTranscriptSequence (0 + 1) = _
    omega
  | some segment =>
    have hbelow := h.below segment (List.mem_of_getLast? hlast)
    show max transcript.nextTranscriptSequence (segment.sequence + 1) = _
    omega

lemma TranscriptValid.normalize : transcript.normalize =
      ({ transcript with
          liveTranscriptSegments := boundLiveTranscriptSegments transcript.liveTranscript
            transcript.nextLiveTranscriptEpoch transcript.nextTranscriptSequence
            transcript.liveTranscriptSegments },
        decide (boundLiveTranscriptSegments transcript.liveTranscript
          transcript.nextLiveTranscriptEpoch transcript.nextTranscriptSequence
          transcript.liveTranscriptSegments ≠ transcript.liveTranscriptSegments)) := by
  have hfilter : transcript.liveTranscriptSegments.filter isLiveTranscriptSegment =
      transcript.liveTranscriptSegments := List.filter_eq_self.mpr h.segments
  have hsorted : (transcript.liveTranscriptSegments.mergeSort fun left right =>
      decide (left.sequence ≤ right.sequence)) = transcript.liveTranscriptSegments :=
    List.mergeSort_of_pairwise (h.distinct.imp fun hlt => decide_eq_true hlt.2.le)
  have hdedup : deduplicateSegments [] [] transcript.liveTranscriptSegments =
      transcript.liveTranscriptSegments :=
    deduplicateSegments_eq_self (fun _ _ => List.not_mem_nil) (fun _ _ => List.not_mem_nil)
      (h.distinct.imp fun hne => ⟨hne.1, hne.2.ne⟩)
  rw [StoredLiveTranscript.normalize, h.normalizeState]
  simp only [hfilter, hsorted, hdedup, h.sequencePos, if_true, h.maxSequence]
  simp

lemma TranscriptValid.stable_iff : TranscriptStable transcript ↔
      liveTranscriptStorageByteLength transcript ≤ MAX_LIVE_TRANSCRIPT_STORAGE_BYTES := by
  refine ⟨fun hstable => hstable.bounded, fun hsize => ⟨hsize, ?_⟩⟩
  have hself := boundLiveTranscriptSegments_eq_self h.length hsize
  rw [h.normalize, hself]
  simp

end

end Repair

/-! ## Steps -/

lemma utf8ByteSize_number_safe {n : ℕ} (h : (n : ℤ) ≤ JsValue.maxSafeInteger) :
    (JsonText.number n).utf8ByteSize ≤ 16 := by
  rw [JsValue.maxSafeInteger] at h
  exact JsonText.utf8ByteSize_number_le (by decide) (by omega)

section Steps

variable {transcript : StoredLiveTranscript}

lemma TranscriptValid.utf8ByteSize_state (h : TranscriptValid transcript) :
    transcript.liveTranscript.json.utf8ByteSize ≤ 500 := by
  cases hstate : transcript.liveTranscript with
  | inactive =>
    rw [utf8ByteSize_json_inactive]
    decide
  | active hostId epoch startedAt =>
    obtain ⟨hnext, hstarted⟩ := h.active hostId epoch startedAt hstate
    have hsafe := h.epochSafe
    have hepoch := utf8ByteSize_number_safe (n := epoch) (by omega)
    have hstartedAt := utf8ByteSize_number_safe hstarted
    -- A host id has 64 characters at most, none of which takes more than six bytes.
    have hstring := JsonText.utf8ByteSize_string_le hostId
    have hhost : hostId.toList.length ≤ 64 := by
      have hvalid := h.state
      rw [hstate, isLiveTranscriptState, Bool.and_eq_true, Bool.and_eq_true,
        isValidRuntimeHostId, JsString.ofCharClass, Bool.and_eq_true] at hvalid
      exact of_decide_eq_true hvalid.1.1.2
    rw [utf8ByteSize_json_active]
    omega

lemma TranscriptValid.empty_bounded (h : TranscriptValid transcript) {nextSequence : ℕ}
    (hsafe : (nextSequence : ℤ) ≤ JsValue.maxSafeInteger) :
    liveTranscriptStorageByteLength ⟨transcript.liveTranscript, [],
      transcript.nextLiveTranscriptEpoch, nextSequence⟩ ≤ MAX_LIVE_TRANSCRIPT_STORAGE_BYTES := by
  have hstate := h.utf8ByteSize_state
  have hepoch := utf8ByteSize_number_safe h.epochSafe
  have hsequence := utf8ByteSize_number_safe hsafe
  rw [liveTranscriptStorageByteLength_eq, transcriptOverhead, List.map_nil,
    JsonText.separatedSize, List.sum_nil, List.length_nil, MAX_LIVE_TRANSCRIPT_STORAGE_BYTES]
  dsimp only
  omega

lemma liveTranscriptStorageByteLength_le {state state' : LiveTranscriptState}
    {segments segments' : List LiveTranscriptSegment} {nextEpoch nextSequence : ℕ}
    (hstate : state.json.utf8ByteSize ≤ state'.json.utf8ByteSize)
    (hsegments : segments.Sublist segments') :
    liveTranscriptStorageByteLength ⟨state, segments, nextEpoch, nextSequence⟩ ≤
      liveTranscriptStorageByteLength ⟨state', segments', nextEpoch, nextSequence⟩ := by
  have hsize := JsonText.separatedSize_le_of_sublist
    (hsegments.map fun segment : LiveTranscriptSegment => segment.json.utf8ByteSize)
  rw [liveTranscriptStorageByteLength_eq, liveTranscriptStorageByteLength_eq]
  dsimp only
  omega

lemma utf8ByteSize_json_inactive_le (state : LiveTranscriptState) :
    LiveTranscriptState.inactive.json.utf8ByteSize ≤ state.json.utf8ByteSize := by
  cases state with
  | inactive => exact le_rfl
  | active hostId epoch startedAt =>
    rw [utf8ByteSize_json_inactive, utf8ByteSize_json_active]
    omega

lemma TranscriptValid.inactive (h : TranscriptValid transcript) :
    TranscriptValid { transcript with liveTranscript := .inactive } :=
  { h with
    state := rfl
    active := fun _ _ _ hactive => nomatch hactive }

lemma TranscriptValid.started (h : TranscriptValid transcript) {hostId : String} {now : ℕ}
    (henabled : transcript.Enabled (.start hostId now)) :
    TranscriptValid (transcript.started hostId now) := by
  obtain ⟨hhost, hnow, hsafe, hepoch⟩ := henabled
  rw [StoredLiveTranscript.started]
  cases hstate : transcript.liveTranscript with
  | active hostId epoch startedAt =>
    -- The transcript that is active is kept.
    have hself : ({ transcript with
        liveTranscript := .active hostId epoch startedAt
        nextLiveTranscriptEpoch := transcript.nextLiveTranscriptEpoch } :
          StoredLiveTranscript) = transcript := by rw [← hstate]
    rw [startLiveTranscript, hself]
    exact h
  | inactive =>
    rw [startLiveTranscript]
    refine { h with state := ?_, active := ?_, epochPos := Nat.succ_pos _, epochSafe := ?_ }
    · rw [isLiveTranscriptState, hhost, decide_eq_true h.epochPos, decide_eq_true hnow]
      rfl
    · intro hostId' epoch startedAt hactive
      cases hactive
      exact ⟨rfl, hsafe⟩
    · show ((transcript.nextLiveTranscriptEpoch + 1 : ℕ) : ℤ) ≤ _
      omega

variable {sourceParticipant : Option RoomParticipant} {segment : LiveTranscriptSegment}
  {appended : StoredLiveTranscript} {epoch segmentId text : JsValue}

lemma appendLiveTranscriptSegment_ok {now : ℕ}
    (happend : appendLiveTranscriptSegment transcript epoch segmentId sourceParticipant text now =
      .ok (.appended segment appended)) : ∃ hostId activeEpoch startedAt,
      transcript.liveTranscript = .active hostId activeEpoch startedAt ∧
      segment.epoch = activeEpoch ∧ segment.sequence = transcript.nextTranscriptSequence ∧
      (0 < activeEpoch → 0 < transcript.nextTranscriptSequence → 0 < now →
        isLiveTranscriptSegment segment = true) ∧
      (∀ other ∈ transcript.liveTranscriptSegments,
        (other.epoch, other.segmentId) ≠ (segment.epoch, segment.segmentId)) ∧
      appended = { transcript with
        liveTranscriptSegments := boundLiveTranscriptSegments transcript.liveTranscript
          (activeEpoch + 1) (transcript.nextTranscriptSequence + 1)
          (transcript.liveTranscriptSegments ++ [segment])
        nextTranscriptSequence := transcript.nextTranscriptSequence + 1 } := by
  rw [appendLiveTranscriptSegment] at happend
  cases hstate : transcript.liveTranscript with
  | inactive =>
    rw [hstate] at happend
    cases happend
  | active hostId activeEpoch startedAt =>
    rw [hstate] at happend
    dsimp only at happend
    obtain ⟨-, -, happend⟩ := Except.bind_eq_ok.mp happend
    obtain ⟨id, hid, happend⟩ := Except.bind_eq_ok.mp happend
    rw [Except.require_eq_ok, Option.filter_eq_some_iff] at hid
    split_ifs at happend with hduplicate
    · cases happend
    · obtain ⟨source, hsource, happend⟩ := Except.bind_eq_ok.mp happend
      obtain ⟨normalizedText, htext, happend⟩ := Except.bind_eq_ok.mp happend
      rw [Except.require_eq_ok, Option.filter_eq_some_iff] at hsource htext
      cases happend
      refine ⟨hostId, activeEpoch, startedAt, rfl, rfl, rfl, ?_, ?_, rfl⟩
      · intro hepoch hsequence hnow
        have hparticipant := hsource.2
        rw [isSegmentSource, Bool.and_eq_true, Bool.and_eq_true] at hparticipant
        rw [isLiveTranscriptSegment, hid.2, decide_eq_true hepoch, decide_eq_true hsequence,
          hparticipant.1.2, hparticipant.2, htext.2, decide_eq_true hnow]
        rfl
      · -- A segment with the same key would have been reported as a duplicate.
        intro other hother heq
        obtain ⟨hepoch, hsegmentId⟩ := Prod.mk.inj heq
        refine hduplicate (List.any_eq_true.mpr ⟨other, hother, ?_⟩)
        rw [Bool.and_eq_true]
        exact ⟨decide_eq_true hepoch, decide_eq_true hsegmentId⟩

lemma TranscriptValid.append (h : TranscriptValid transcript) {now : ℕ}
    (henabled : transcript.Enabled (.append epoch segmentId sourceParticipant text now))
    (happend : appendLiveTranscriptSegment transcript epoch segmentId sourceParticipant text now =
      .ok (.appended segment appended)) : TranscriptValid appended ∧
      liveTranscriptStorageByteLength appended ≤ MAX_LIVE_TRANSCRIPT_STORAGE_BYTES := by
  obtain ⟨hnow, hsafe⟩ := henabled
  obtain ⟨hostId, activeEpoch, startedAt, hstate, -, hsequence, hvalid, hfresh, rfl⟩ :=
    appendLiveTranscriptSegment_ok happend
  have hnext := (h.active hostId activeEpoch startedAt hstate).1
  have hactive : 0 < activeEpoch := by
    have hstateValid := h.state
    rw [hstate, isLiveTranscriptState, Bool.and_eq_true, Bool.and_eq_true] at hstateValid
    exact of_decide_eq_true hstateValid.1.2
  -- The counter against which the segments are bounded is the one that is stored.
  rw [← hnext]
  have hsafe' : ((transcript.nextTranscriptSequence + 1 : ℕ) : ℤ) ≤ JsValue.maxSafeInteger := by
    omega
  obtain ⟨hlength, hsize⟩ := boundLiveTranscriptSegments_bounded _ _ _
    (transcript.liveTranscriptSegments ++ [segment]) (h.empty_bounded hsafe')
  have hsuffix := boundLiveTranscriptSegments_suffix transcript.liveTranscript
    transcript.nextLiveTranscriptEpoch (transcript.nextTranscriptSequence + 1)
    (transcript.liveTranscriptSegments ++ [segment])
  have hdistinct : (transcript.liveTranscriptSegments ++ [segment]).Pairwise fun left right =>
      (left.epoch, left.segmentId) ≠ (right.epoch, right.segmentId) ∧
        left.sequence < right.sequence := by
    rw [List.pairwise_append]
    refine ⟨h.distinct, List.pairwise_singleton _ _, fun other hother last hlast => ?_⟩
    rw [List.mem_singleton.mp hlast, hsequence]
    exact ⟨hfresh other hother, h.below other hother⟩
  have hmem : ∀ other ∈ transcript.liveTranscriptSegments ++ [segment],
      isLiveTranscriptSegment other = true ∧
        other.sequence < transcript.nextTranscriptSequence + 1 := by
    intro other hother
    rcases List.mem_append.mp hother with hold | hlast
    · exact ⟨h.segments other hold, (h.below other hold).trans (Nat.lt_succ_self _)⟩
    · rw [List.mem_singleton.mp hlast, hsequence]
      exact ⟨hvalid hactive h.sequencePos hnow, Nat.lt_succ_self _⟩
  exact ⟨{ h with
    sequencePos := Nat.succ_pos _
    sequenceSafe := hsafe'
    segments := fun other hother => (hmem other (hsuffix.subset hother)).1
    distinct := hdistinct.sublist hsuffix.sublist
    below := fun other hother => (hmem other (hsuffix.subset hother)).2
    length := hlength }, hsize⟩

/-- The invariant of the runs: the value is well formed and within its bound. -/
structure TranscriptInvariant (transcript : StoredLiveTranscript) : Prop where
  valid : TranscriptValid transcript
  bounded : liveTranscriptStorageByteLength transcript ≤ MAX_LIVE_TRANSCRIPT_STORAGE_BYTES

lemma TranscriptInvariant.inactive (h : TranscriptInvariant transcript) :
    TranscriptInvariant { transcript with liveTranscript := .inactive } :=
  ⟨h.valid.inactive, (liveTranscriptStorageByteLength_le
    (utf8ByteSize_json_inactive_le transcript.liveTranscript) (List.Sublist.refl _)).trans
      h.bounded⟩

lemma transcriptValid_empty : TranscriptValid {} where
  state := rfl
  active := fun _ _ _ hactive => nomatch hactive
  epochPos := by decide
  epochSafe := by decide
  sequencePos := by decide
  sequenceSafe := by decide
  segments := fun _ hmem => nomatch hmem
  distinct := List.Pairwise.nil
  below := fun _ hmem => nomatch hmem
  length := Nat.zero_le _

lemma transcriptInvariant_empty : TranscriptInvariant {} :=
  ⟨transcriptValid_empty, transcriptValid_empty.empty_bounded (by decide)⟩

lemma TranscriptInvariant.step_valid (h : TranscriptInvariant transcript) {op : TranscriptOp}
    (henabled : transcript.Enabled op) : TranscriptValid (transcript.step op) := by
  cases op with
  | start hostId now => exact h.valid.started henabled
  | stop =>
    have hstop : stopLiveTranscript transcript.liveTranscript = .inactive := by
      cases transcript.liveTranscript <;> rfl
    rw [StoredLiveTranscript.step, hstop]
    exact h.valid.inactive
  | append epoch segmentId sourceParticipant text now =>
    rw [StoredLiveTranscript.step]
    split
    next segment appended happend => exact (h.valid.append henabled happend).1
    next => exact h.valid
  | producerLost => exact h.valid.inactive
  | load =>
    rw [StoredLiveTranscript.step, (h.valid.stable_iff.mpr h.bounded).loaded]
    exact h.valid
  | recreate => exact transcriptInvariant_empty.valid

lemma TranscriptInvariant.step_bounded (h : TranscriptInvariant transcript) {op : TranscriptOp}
    (henabled : transcript.Enabled op) :
    liveTranscriptStorageByteLength (transcript.step op) ≤ MAX_LIVE_TRANSCRIPT_STORAGE_BYTES ↔
      transcript.StartFits op := by
  cases op with
  | start hostId now => exact Iff.rfl
  | stop =>
    have hstop : stopLiveTranscript transcript.liveTranscript = .inactive := by
      cases transcript.liveTranscript <;> rfl
    rw [StoredLiveTranscript.step, hstop]
    exact iff_of_true h.inactive.bounded trivial
  | append epoch segmentId sourceParticipant text now =>
    refine iff_of_true ?_ trivial
    rw [StoredLiveTranscript.step]
    split
    next segment appended happend => exact (h.valid.append henabled happend).2
    next => exact h.bounded
  | producerLost => exact iff_of_true h.inactive.bounded trivial
  | load =>
    rw [StoredLiveTranscript.step, (h.valid.stable_iff.mpr h.bounded).loaded]
    exact iff_of_true h.bounded trivial
  | recreate => exact iff_of_true transcriptInvariant_empty.bounded trivial

end Steps

/-! ## Every run -/

lemma transcriptInvariant_of_reachable {transcript : StoredLiveTranscript}
    (hreach : transcriptSystem.ReachableWhen StoredLiveTranscript.StartFits transcript) :
    TranscriptInvariant transcript := by
  refine hreach.invariant (P := TranscriptInvariant) ?_ ?_
  · rintro s rfl
    exact transcriptInvariant_empty
  · rintro s op s' h hfits ⟨henabled, rfl⟩
    exact ⟨h.step_valid henabled, (h.step_bounded henabled).mpr hfits⟩

/-- In a run in which every start leaves the value within its bound, the stored transcript is
within its bound and a load leaves it alone. A further step keeps it so exactly when it is no
start that exceeds the bound. -/
theorem transcriptStable_of_startFits {transcript : StoredLiveTranscript}
    (hreach : transcriptSystem.ReachableWhen StoredLiveTranscript.StartFits transcript) :
    TranscriptStable transcript ∧ ∀ op, transcript.Enabled op →
      (TranscriptStable (transcript.step op) ↔ transcript.StartFits op) := by
  have h := transcriptInvariant_of_reachable hreach
  refine ⟨h.valid.stable_iff.mpr h.bounded, fun op henabled => ?_⟩
  rw [(h.step_valid henabled).stable_iff]
  exact h.step_bounded henabled

/-! ### A run that exceeds the bound -/

/-- A text of control characters, each of which takes six bytes. -/
def controlText (n : ℕ) : String := String.ofList (List.replicate n '\x01')

lemma trim_controlText (n : ℕ) : JsString.trim (controlText n) = controlText n := by
  have hcontrol : JsString.isTrimmed '\x01' = false := by decide
  have hdrop : (List.replicate n '\x01').dropWhile JsString.isTrimmed =
      List.replicate n '\x01' := by
    rw [List.dropWhile_replicate, hcontrol]
    simp
  rw [JsString.trim, controlText, String.toList_ofList, hdrop, List.reverse_replicate, hdrop,
    List.reverse_replicate]

lemma utf16Length_controlText (n : ℕ) : JsString.utf16Length (controlText n) = n := by
  rw [JsString.utf16Length, controlText, String.toList_ofList, List.map_replicate,
    List.sum_replicate]
  have hunit : JsString.utf16Units '\x01' = 1 := by decide
  simp [hunit]

lemma utf8ByteSize_string_controlText (n : ℕ) :
    (JsonText.string (controlText n)).utf8ByteSize = 6 * n + 2 := by
  have hescape : (JsonText.escapeChar '\x01').utf8ByteSize = 6 := by decide
  rw [JsonText.utf8ByteSize_string, controlText, String.toList_ofList, List.map_replicate,
    List.sum_replicate, hescape, nsmul_eq_mul, Nat.cast_id, Nat.mul_comm]

/-- A Human who speaks. -/
def exampleSpeaker : RoomParticipant :=
  { id := "h", name := "h", kind := .human, connected := true, joinedAt := 1, lastSeenAt := 1,
    token := "t" }

/-- A segment of the first epoch. -/
def exampleSegment (segmentId : String) (sequence n : ℕ) : LiveTranscriptSegment :=
  { segmentId, epoch := 1, sequence, participantId := "h", speaker := "h", text := controlText n,
    createdAt := 1 }

lemma utf8ByteSize_json_exampleSegment {segmentId : String} {sequence : ℕ} (n : ℕ)
    (hid : (JsonText.string segmentId).utf8ByteSize = 3)
    (hsequence : (JsonText.number sequence).utf8ByteSize = 1) :
    (exampleSegment segmentId sequence n).json.utf8ByteSize = 6 * n + 98 := by
  have hnames : ["segmentId", "epoch", "sequence", "participantId", "speaker", "text",
      "createdAt"].map (fun name => (JsonText.string name).utf8ByteSize) =
      [11, 7, 10, 15, 9, 6, 11] := by decide
  simp only [List.map_cons, List.map_nil, List.cons.injEq] at hnames
  have hone : (JsonText.number 1).utf8ByteSize = 1 := by decide
  have hspeaker : (JsonText.string "h").utf8ByteSize = 3 := by decide
  rw [LiveTranscriptSegment.json, JsonText.utf8ByteSize_object]
  simp only [exampleSegment, List.map_cons, List.map_nil, JsonText.separatedSize, List.sum_cons,
    List.sum_nil, List.length_cons, List.length_nil, hnames, hid, hsequence, hone, hspeaker,
    utf8ByteSize_string_controlText]
  omega

/-- The first transcript of a Room, with some segments. -/
def exampleTranscript (segments : List LiveTranscriptSegment) : StoredLiveTranscript :=
  { liveTranscript := .active "host-aaa" 1 1
    liveTranscriptSegments := segments
    nextLiveTranscriptEpoch := 2
    nextTranscriptSequence := segments.length + 1 }

/-- An append of the example. -/
def exampleAppend (segmentId : String) (n : ℕ) : TranscriptOp :=
  .append (.int 1) (.str segmentId) (some exampleSpeaker) (.str (controlText n)) 1

lemma step_exampleAppend {segments : List LiveTranscriptSegment} {segmentId : String} {n : ℕ}
    (hid : isValidLiveTranscriptSegmentId segmentId = true)
    (hfresh : (segments.any fun segment => segment.epoch = 1 && segment.segmentId = segmentId) =
      false) (hn : 0 < n ∧ n ≤ MAX_LIVE_TRANSCRIPT_SEGMENT_TEXT_CHARS)
    (hlength : segments.length < MAX_LIVE_TRANSCRIPT_SEGMENTS)
    (hsize : liveTranscriptStorageByteLength (exampleTranscript
      (segments ++ [exampleSegment segmentId (segments.length + 1) n])) ≤
        MAX_LIVE_TRANSCRIPT_STORAGE_BYTES) :
    (exampleTranscript segments).step (exampleAppend segmentId n) =
      exampleTranscript (segments ++ [exampleSegment segmentId (segments.length + 1) n]) := by
  have htext : isBoundedString (controlText n) MAX_LIVE_TRANSCRIPT_SEGMENT_TEXT_CHARS = true := by
    have hne : controlText n ≠ "" := by
      intro hempty
      have hzero := utf16Length_controlText n
      rw [hempty] at hzero
      exact absurd hzero (Nat.ne_of_lt hn.1)
    rw [isBoundedString, utf16Length_controlText, decide_eq_true hne, decide_eq_true hn.2]
    rfl
  have hspeaker : isSegmentSource exampleSpeaker = true := by decide
  have hlength' : (segments ++ [exampleSegment segmentId (segments.length + 1) n]).length ≤
      MAX_LIVE_TRANSCRIPT_SEGMENTS := by
    rw [List.length_append, List.length_singleton]
    omega
  have hbound := boundLiveTranscriptSegments_eq_self hlength' hsize
  have happend : appendLiveTranscriptSegment (exampleTranscript segments) (.int 1)
      (.str segmentId) (some exampleSpeaker) (.str (controlText n)) 1 =
      .ok (.appended (exampleSegment segmentId (segments.length + 1) n) (exampleTranscript
        (segments ++ [exampleSegment segmentId (segments.length + 1) n]))) := by
    have hok : ∀ {α β : Type} (a : α) (f : α → Except String β), (Except.ok a >>= f) = f a :=
      fun _ _ => rfl
    have hepoch : (JsValue.int 1).asSafeInteger? = some ((1 : ℕ) : ℤ) := by decide
    have hfilter : (some segmentId).filter isValidLiveTranscriptSegmentId = some segmentId := by
      rw [Option.filter_some, if_pos hid]
    have hsource : (some exampleSpeaker).filter isSegmentSource = some exampleSpeaker := by
      rw [Option.filter_some, if_pos hspeaker]
    have hnormalized : ((some (controlText n)).map JsString.trim).filter
        (fun text => isBoundedString text MAX_LIVE_TRANSCRIPT_SEGMENT_TEXT_CHARS) =
          some (controlText n) := by
      rw [Option.map_some, trim_controlText, Option.filter_some, if_pos htext]
    simp only [appendLiveTranscriptSegment, exampleTranscript, hepoch, JsValue.asString?, hfilter,
      hsource, hnormalized, Except.require, Except.rejectWhen, ne_eq, not_true_eq_false, if_false,
      hok, hfresh, Bool.false_eq_true]
    rw [List.length_append, List.length_singleton] at hbound ⊢
    exact congrArg (fun kept => Except.ok (TranscriptAppend.appended _
      ⟨.active "host-aaa" 1 1, kept, 2, segments.length + 1 + 1⟩)) hbound
  rw [exampleAppend, StoredLiveTranscript.step, happend]

/-- The segments of the run: four long ones, and one that leaves two bytes. -/
def exampleSegments : List LiveTranscriptSegment :=
  [exampleSegment "a" 1 4000, exampleSegment "b" 2 4000, exampleSegment "c" 3 4000,
    exampleSegment "d" 4 4000, exampleSegment "e" 5 272]

lemma utf8ByteSize_json_exampleSegments :
    exampleSegments.map (fun segment => segment.json.utf8ByteSize) =
      [24098, 24098, 24098, 24098, 1730] := by
  have hid : ∀ id ∈ ["a", "b", "c", "d", "e"], (JsonText.string id).utf8ByteSize = 3 := by decide
  have hsequence : ∀ n ∈ [1, 2, 3, 4, 5], (JsonText.number n).utf8ByteSize = 1 := by decide
  simp only [List.forall_mem_cons] at hid hsequence
  rw [exampleSegments, List.map_cons, List.map_cons, List.map_cons, List.map_cons, List.map_cons,
    List.map_nil,
    utf8ByteSize_json_exampleSegment 4000 hid.1 hsequence.1,
    utf8ByteSize_json_exampleSegment 4000 hid.2.1 hsequence.2.1,
    utf8ByteSize_json_exampleSegment 4000 hid.2.2.1 hsequence.2.2.1,
    utf8ByteSize_json_exampleSegment 4000 hid.2.2.2.1 hsequence.2.2.2.1,
    utf8ByteSize_json_exampleSegment 272 hid.2.2.2.2.1 hsequence.2.2.2.2.1]

lemma exampleSegments_bounded (n : ℕ) :
    liveTranscriptStorageByteLength (exampleTranscript (exampleSegments.take n)) ≤
      MAX_LIVE_TRANSCRIPT_STORAGE_BYTES := by
  have hsize := JsonText.separatedSize_le_of_sublist (List.take_sublist n
    (exampleSegments.map fun segment => segment.json.utf8ByteSize))
  rw [← List.map_take, utf8ByteSize_json_exampleSegments] at hsize
  have htotal : JsonText.separatedSize [24098, 24098, 24098, 24098, 1730] = 98126 := by decide
  have hlength : (exampleSegments.take n).length ≤ 5 := List.length_take_le' n exampleSegments
  have hsequence := JsonText.utf8ByteSize_number_le (n := (exampleSegments.take n).length + 1)
    (k := 1) (by decide) (by omega)
  have hepoch : (JsonText.number 2).utf8ByteSize = 1 := by decide
  have hone : (JsonText.number 1).utf8ByteSize = 1 := by decide
  have hhost : (JsonText.string "host-aaa").utf8ByteSize = 10 := by decide
  rw [liveTranscriptStorageByteLength_eq, exampleTranscript, MAX_LIVE_TRANSCRIPT_STORAGE_BYTES,
    transcriptOverhead]
  dsimp only
  rw [utf8ByteSize_json_active, hepoch, hone, hhost]
  omega

lemma reachable_exampleTranscript : transcriptSystem.ReachableWhen StoredLiveTranscript.StartFits
      (exampleTranscript exampleSegments) := by
  have happend : ∀ (n : ℕ) (segmentId : String) (size : ℕ), n < 5 →
      transcriptSystem.ReachableWhen StoredLiveTranscript.StartFits
        (exampleTranscript (exampleSegments.take n)) →
      isValidLiveTranscriptSegmentId segmentId = true → 0 < size ∧ size ≤ 4000 →
      ((exampleSegments.take n).any fun segment =>
        segment.epoch = 1 && segment.segmentId = segmentId) = false →
      exampleSegments.take (n + 1) =
        exampleSegments.take n ++ [exampleSegment segmentId (n + 1) size] →
      transcriptSystem.ReachableWhen StoredLiveTranscript.StartFits
        (exampleTranscript (exampleSegments.take (n + 1))) := by
    intro n segmentId size hn hreach hid hsize hfresh htake
    have hlength : (exampleSegments.take n).length = n := by
      rw [List.length_take]
      exact Nat.min_eq_left hn.le
    have hbounded := exampleSegments_bounded (n + 1)
    rw [htake] at hbounded ⊢
    have hstep := step_exampleAppend (n := size) hid hfresh hsize
      (by rw [hlength]; exact hn.trans (by decide)) (by rw [hlength]; exact hbounded)
    rw [hlength] at hstep
    refine hreach.step (a := exampleAppend segmentId size) trivial ⟨⟨by decide, ?_⟩, hstep.symm⟩
    show (((exampleSegments.take n).length + 1 : ℕ) : ℤ) < JsValue.maxSafeInteger
    rw [hlength, JsValue.maxSafeInteger]
    omega
  have hfits : StoredLiveTranscript.StartFits {} (.start "host-aaa" 1) := by
    show liveTranscriptStorageByteLength (exampleTranscript (exampleSegments.take 0)) ≤ _
    exact exampleSegments_bounded 0
  have hstart : transcriptSystem.ReachableWhen StoredLiveTranscript.StartFits
        (exampleTranscript (exampleSegments.take 0)) :=
    (TransitionSystem.ReachableWhen.init rfl).step (a := .start "host-aaa" 1) hfits
      ⟨⟨by decide, by decide, by decide, by decide⟩, rfl⟩
  have ha := happend 0 "a" 4000 (by decide) hstart (by decide) (by decide) rfl rfl
  have hb := happend 1 "b" 4000 (by decide) ha (by decide) (by decide) rfl rfl
  have hc := happend 2 "c" 4000 (by decide) hb (by decide) (by decide) rfl rfl
  have hd := happend 3 "d" 4000 (by decide) hc (by decide) (by decide) rfl rfl
  exact happend 4 "e" 272 (by decide) hd (by decide) (by decide) rfl rfl

/-- A host id of the greatest length. -/
def exampleHostId : String := "hhhhhhhhhhhhhhhhhhhhhhhhhhhhhhhhhhhhhhhhhhhhhhhhhhhhhhhhhhhhhhhh"

lemma storageByteLength_restarted (segments : List LiveTranscriptSegment) :
    230 + JsonText.separatedSize (segments.map fun segment => segment.json.utf8ByteSize) ≤
      liveTranscriptStorageByteLength
        (((exampleTranscript segments).step .stop).step (.start exampleHostId 1)) := by
  have hrestarted : ((exampleTranscript segments).step .stop).step (.start exampleHostId 1) =
      ⟨.active exampleHostId 2 1, segments, 3, segments.length + 1⟩ := rfl
  have hhost : (JsonText.string exampleHostId).utf8ByteSize = 66 := by decide +kernel
  have hone : (JsonText.number 1).utf8ByteSize = 1 := by decide
  have htwo : (JsonText.number 2).utf8ByteSize = 1 := by decide
  rw [hrestarted, liveTranscriptStorageByteLength_eq, transcriptOverhead]
  dsimp only
  rw [utf8ByteSize_json_active]
  omega

/-- A stopped transcript that starts again on a host with a longer id exceeds its bound. -/
theorem not_transcriptStable_restarted :
    ¬∀ transcript, transcriptSystem.Reachable transcript → TranscriptStable transcript := by
  intro hall
  have hstop : transcriptSystem.Reachable ((exampleTranscript exampleSegments).step .stop) :=
    reachable_exampleTranscript.reachable.step (a := TranscriptOp.stop) trivial ⟨trivial, rfl⟩
  have hstart : transcriptSystem.Reachable
      (((exampleTranscript exampleSegments).step .stop).step (.start exampleHostId 1)) :=
    hstop.step (a := TranscriptOp.start exampleHostId 1) trivial
      ⟨⟨by decide, by decide, by decide, by decide⟩, rfl⟩
  have hbounded := (hall _ hstart).bounded
  have hsize := storageByteLength_restarted exampleSegments
  have htotal : JsonText.separatedSize [24098, 24098, 24098, 24098, 1730] = 98126 := by decide
  rw [utf8ByteSize_json_exampleSegments, htotal] at hsize
  rw [MAX_LIVE_TRANSCRIPT_STORAGE_BYTES] at hbounded
  exact absurd (hsize.trans hbounded) (by decide)

/-- The filled transcript is stable, since the start of its run fits. -/
theorem transcriptStable_filled : TranscriptStable (exampleTranscript exampleSegments) :=
  (transcriptStable_of_startFits reachable_exampleTranscript).1

end Free4Chat
