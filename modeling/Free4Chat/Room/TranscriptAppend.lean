import Free4Chat.Data.LongestSuffix
import Free4Chat.Room.TranscriptLog

/-!
# What an Append Keeps

An append to the live transcript keeps the newest segments that fit, the new one among them. A retry
of a segment that is still there changes nothing, and neither does an append that is refused.

* `KeepsNewest`: what an accepted append leaves.
* `AppendExact`: what any append does.
* `boundLiveTranscriptSegments_longest`: the trimming keeps the longest suffix that fits.
* `appendExact_of_reachable`: appends do so in every run.
-/

namespace Free4Chat

variable {transcript : StoredLiveTranscript}

/-- Whether a value may be stored with some segments. -/
def StoredLiveTranscript.Fits (transcript : StoredLiveTranscript)
    (segments : List LiveTranscriptSegment) : Prop :=
  segments.length ≤ MAX_LIVE_TRANSCRIPT_SEGMENTS ∧
    liveTranscriptStorageByteLength { transcript with liveTranscriptSegments := segments } ≤
      MAX_LIVE_TRANSCRIPT_STORAGE_BYTES

instance (transcript : StoredLiveTranscript) : DecidablePred transcript.Fits := fun _ =>
  inferInstanceAs (Decidable (_ ∧ _))

/-- An accepted append keeps the newest segments. -/
structure KeepsNewest (transcript : StoredLiveTranscript) (segment : LiveTranscriptSegment)
    (appended : StoredLiveTranscript) : Prop where
  -- The new segment has the next sequence and is retained last.
  sequence : segment.sequence = transcript.nextTranscriptSequence
  last : appended.liveTranscriptSegments.getLast? = some segment
  longest : List.IsLongestSuffix appended.Fits (transcript.liveTranscriptSegments ++ [segment])
    appended.liveTranscriptSegments
  increasing : appended.liveTranscriptSegments.Pairwise fun left right =>
    left.sequence < right.sequence
  below : ∀ other ∈ appended.liveTranscriptSegments,
    other.sequence < appended.nextTranscriptSequence
  distinct : (appended.liveTranscriptSegments.map fun other =>
    (other.epoch, other.segmentId)).Nodup

/-- An append that is accepted keeps the newest segments, and one that is not changes nothing. -/
structure AppendExact (transcript : StoredLiveTranscript) (epoch segmentId : JsValue)
    (sourceParticipant : Option RoomParticipant) (text : JsValue) (now : ℕ) : Prop where
  accepted : ∀ segment appended,
    appendLiveTranscriptSegment transcript epoch segmentId sourceParticipant text now =
      .ok (.appended segment appended) → KeepsNewest transcript segment appended
  -- A retry of a segment that is retained, in the epoch of that segment.
  retried : ∀ segment ∈ transcript.liveTranscriptSegments,
    epoch.asSafeInteger? = some (segment.epoch : ℤ) → segmentId = .str segment.segmentId →
      transcript.step (.append epoch segmentId sourceParticipant text now) = transcript
  refused : ∀ error,
    appendLiveTranscriptSegment transcript epoch segmentId sourceParticipant text now =
      .error error →
      transcript.step (.append epoch segmentId sourceParticipant text now) = transcript

/-! ## Trimming -/

lemma boundLiveTranscriptSegments_eq (transcript : StoredLiveTranscript)
    (segments : List LiveTranscriptSegment) :
    boundLiveTranscriptSegments transcript.liveTranscript transcript.nextLiveTranscriptEpoch
      transcript.nextTranscriptSequence segments = List.longestSuffix transcript.Fits segments := by
  induction segments with
  | nil => rfl
  | cons segment segments ih =>
    rw [boundLiveTranscriptSegments, List.longestSuffix, ih]
    by_cases hfits : transcript.Fits (segment :: segments)
    · rw [if_pos hfits, if_neg]
      rw [not_or, not_lt, not_lt]
      exact hfits
    · rw [if_neg hfits, if_pos]
      by_contra h
      rw [not_or, not_lt, not_lt] at h
      exact hfits h

lemma utf8ByteSize_string_le_of_utf16Length {s : String} {n : ℕ}
    (h : JsString.utf16Length s ≤ n) : (JsonText.string s).utf8ByteSize ≤ 6 * n + 2 := by
  have hbytes := JsonText.utf8ByteSize_string_le s
  have hlength : s.toList.length ≤ JsString.utf16Length s := by
    unfold JsString.utf16Length
    induction s.toList with
    | nil => exact Nat.le_refl _
    | cons c cs ih =>
      have hunits : 1 ≤ JsString.utf16Units c := by
        unfold JsString.utf16Units
        split <;> omega
      rw [List.length_cons, List.map_cons, List.sum_cons]
      omega
  omega

variable {segment : LiveTranscriptSegment}

lemma utf8ByteSize_json_segment_le (h : isLiveTranscriptSegment segment = true)
    (hepoch : (segment.epoch : ℤ) ≤ JsValue.maxSafeInteger)
    (hsequence : (segment.sequence : ℤ) ≤ JsValue.maxSafeInteger)
    (hcreated : (segment.createdAt : ℤ) ≤ JsValue.maxSafeInteger) :
    segment.json.utf8ByteSize ≤ 30000 := by
  simp only [isLiveTranscriptSegment, isValidLiveTranscriptSegmentId, JsString.ofCharClass,
    isBoundedString, Bool.and_eq_true, decide_eq_true_eq] at h
  obtain ⟨⟨⟨⟨⟨⟨hid, -⟩, -⟩, hparticipant⟩, hspeaker⟩, htext⟩, -⟩ := h
  -- Each text takes six bytes for a character at most, each number sixteen.
  have hid' := JsonText.utf8ByteSize_string_le segment.segmentId
  have hparticipant' := utf8ByteSize_string_le_of_utf16Length hparticipant.2
  have hspeaker' := utf8ByteSize_string_le_of_utf16Length hspeaker.2
  have htext' := utf8ByteSize_string_le_of_utf16Length htext.2
  have hepoch' := utf8ByteSize_number_safe hepoch
  have hsequence' := utf8ByteSize_number_safe hsequence
  have hcreated' := utf8ByteSize_number_safe hcreated
  have hidLength := hid.2
  have hnames : (JsonText.string "segmentId").utf8ByteSize = 11 ∧
      (JsonText.string "epoch").utf8ByteSize = 7 ∧
      (JsonText.string "sequence").utf8ByteSize = 10 ∧
      (JsonText.string "participantId").utf8ByteSize = 15 ∧
      (JsonText.string "speaker").utf8ByteSize = 9 ∧
      (JsonText.string "text").utf8ByteSize = 6 ∧
      (JsonText.string "createdAt").utf8ByteSize = 11 := by decide
  obtain ⟨h1, h2, h3, h4, h5, h6, h7⟩ := hnames
  rw [LiveTranscriptSegment.json, JsonText.utf8ByteSize_object]
  simp only [List.map_cons, List.map_nil, JsonText.separatedSize, List.sum_cons, List.sum_nil,
    List.length_cons, List.length_nil, h1, h2, h3, h4, h5, h6, h7]
  unfold MAX_LIVE_TRANSCRIPT_SEGMENT_ID_LENGTH at hidLength
  unfold MAX_PARTICIPANT_ID_LENGTH at hparticipant'
  unfold MAX_SPEAKER_LENGTH at hspeaker'
  unfold MAX_LIVE_TRANSCRIPT_SEGMENT_TEXT_CHARS at htext'
  omega

/-! ## Runs -/

lemma TranscriptValid.load (h : TranscriptValid transcript) :
    TranscriptValid transcript.normalize.1 := by
  have hsuffix := boundLiveTranscriptSegments_suffix transcript.liveTranscript
    transcript.nextLiveTranscriptEpoch transcript.nextTranscriptSequence
    transcript.liveTranscriptSegments
  rw [h.normalize]
  exact { h with
    segments := fun other hother => h.segments other (hsuffix.subset hother)
    distinct := h.distinct.sublist hsuffix.sublist
    below := fun other hother => h.below other (hsuffix.subset hother)
    length := hsuffix.length_le.trans h.length }

lemma TranscriptValid.step (h : TranscriptValid transcript) {op : TranscriptOp}
    (henabled : transcript.Enabled op) : TranscriptValid (transcript.step op) := by
  cases op with
  | start hostId now => exact h.started henabled
  | stop =>
    have hstop : stopLiveTranscript transcript.liveTranscript = .inactive := by
      cases transcript.liveTranscript <;> rfl
    rw [StoredLiveTranscript.step, hstop]
    exact h.inactive
  | append epoch segmentId sourceParticipant text now =>
    rw [StoredLiveTranscript.step]
    split
    next segment appended happend => exact (h.append henabled happend).1
    next => exact h
  | producerLost => exact h.inactive
  | load => exact h.load
  | recreate => exact transcriptValid_empty

lemma transcriptValid_of_reachable (hreach : transcriptSystem.Reachable transcript) :
    TranscriptValid transcript := by
  refine hreach.invariant (P := TranscriptValid) ?_ ?_
  · rintro s rfl
    exact transcriptValid_empty
  · rintro s op s' h - ⟨henabled, rfl⟩
    exact h.step henabled

variable {sourceParticipant : Option RoomParticipant} {epoch segmentId text : JsValue}
  {appended : StoredLiveTranscript}

lemma createdAt_of_appended {now : ℕ}
    (happend : appendLiveTranscriptSegment transcript epoch segmentId sourceParticipant text now =
      .ok (.appended segment appended)) : segment.createdAt = now := by
  rw [appendLiveTranscriptSegment] at happend
  split at happend
  · cases happend
  · obtain ⟨-, -, happend⟩ := Except.bind_eq_ok.mp happend
    obtain ⟨id, -, happend⟩ := Except.bind_eq_ok.mp happend
    split_ifs at happend
    · cases happend
    · obtain ⟨source, -, happend⟩ := Except.bind_eq_ok.mp happend
      obtain ⟨normalizedText, -, happend⟩ := Except.bind_eq_ok.mp happend
      cases happend
      rfl

lemma TranscriptValid.keepsNewest (h : TranscriptValid transcript) {now : ℕ}
    (henabled : transcript.Enabled (.append epoch segmentId sourceParticipant text now))
    (hsafe : (now : ℤ) ≤ JsValue.maxSafeInteger)
    (happend : appendLiveTranscriptSegment transcript epoch segmentId sourceParticipant text now =
      .ok (.appended segment appended)) : KeepsNewest transcript segment appended := by
  have hcreated := createdAt_of_appended happend
  obtain ⟨hvalid, -⟩ := h.append henabled happend
  obtain ⟨hnow, hnext⟩ := henabled
  obtain ⟨hostId, activeEpoch, startedAt, hstate, hepoch, hsequence, hsegment, -, happended⟩ :=
    appendLiveTranscriptSegment_ok happend
  have hactive := h.active hostId activeEpoch startedAt hstate
  have hepochSafe := h.epochSafe
  have hepochPos : 0 < activeEpoch := by
    have hstateValid := h.state
    rw [hstate, isLiveTranscriptState, Bool.and_eq_true, Bool.and_eq_true] at hstateValid
    exact of_decide_eq_true hstateValid.1.2
  -- The value without segments fits, and so it does with the new segment alone.
  have hempty : appended.Fits [] := by
    refine ⟨Nat.zero_le _, ?_⟩
    have hnextSafe : ((transcript.nextTranscriptSequence + 1 : ℕ) : ℤ) ≤
        JsValue.maxSafeInteger := by omega
    rw [happended]
    exact h.empty_bounded hnextSafe
  have hsingle : appended.Fits [segment] := by
    have hone : 1 ≤ MAX_LIVE_TRANSCRIPT_SEGMENTS := by decide
    refine ⟨hone, ?_⟩
    have hsize := utf8ByteSize_json_segment_le
      (hsegment hepochPos h.sequencePos hnow) (by rw [hepoch]; omega) (by rw [hsequence]; omega)
      (by rw [hcreated]; exact hsafe)
    have hstateSize := hvalid.utf8ByteSize_state
    have hepochSize := utf8ByteSize_number_safe hvalid.epochSafe
    have hsequenceSize := utf8ByteSize_number_safe hvalid.sequenceSafe
    rw [liveTranscriptStorageByteLength_eq, transcriptOverhead, List.map_cons, List.map_nil,
      JsonText.separatedSize, List.sum_cons, List.sum_nil, List.length_cons, List.length_nil,
      MAX_LIVE_TRANSCRIPT_STORAGE_BYTES]
    dsimp only
    omega
  have hlongest : List.IsLongestSuffix appended.Fits
      (transcript.liveTranscriptSegments ++ [segment]) appended.liveTranscriptSegments := by
    have hsegments : appended.liveTranscriptSegments =
        List.longestSuffix appended.Fits (transcript.liveTranscriptSegments ++ [segment]) := by
      rw [← boundLiveTranscriptSegments_eq, happended]
      dsimp only
      rw [hactive.1]
    rw [hsegments]
    exact List.isLongestSuffix_longestSuffix hempty _
  refine ⟨hsequence, hlongest.getLast? List.getLast?_concat hsingle, hlongest,
    hvalid.distinct.imp fun hne => hne.2, hvalid.below, ?_⟩
  rw [List.Nodup, List.pairwise_map]
  exact hvalid.distinct.imp fun hne => hne.1

lemma appendLiveTranscriptSegment_ne_appended {now : ℕ}
    (hmem : segment ∈ transcript.liveTranscriptSegments)
    (hepoch : epoch.asSafeInteger? = some (segment.epoch : ℤ))
    (hid : segmentId = .str segment.segmentId) (new : LiveTranscriptSegment)
    (appended : StoredLiveTranscript) :
    appendLiveTranscriptSegment transcript epoch segmentId sourceParticipant text now ≠
      .ok (.appended new appended) := by
  intro happend
  rw [appendLiveTranscriptSegment] at happend
  split at happend
  · cases happend
  · rename_i activeEpoch _ _
    obtain ⟨_, hactive, happend⟩ := Except.bind_eq_ok.mp happend
    rw [Except.rejectWhen_eq_ok, not_not, hepoch, Option.some.injEq] at hactive
    have hactive := Int.ofNat_inj.mp hactive
    obtain ⟨id, hsome, happend⟩ := Except.bind_eq_ok.mp happend
    rw [Except.require_eq_ok, Option.filter_eq_some_iff, hid] at hsome
    obtain rfl := Option.some.inj hsome.1
    -- The segment itself is found among those that are there.
    have hfound : (transcript.liveTranscriptSegments.any fun other =>
        other.epoch = activeEpoch && other.segmentId = segment.segmentId) = true := by
      refine List.any_eq_true.mpr ⟨segment, hmem, ?_⟩
      rw [hactive, decide_eq_true rfl, decide_eq_true rfl]
      rfl
    rw [if_pos hfound] at happend
    cases happend

/-- A transcript that was started on a host. -/
def startedTranscript : StoredLiveTranscript :=
  ({} : StoredLiveTranscript).step (.start "host-aaa" 1)

/-- A Human who speaks. -/
def speaker : RoomParticipant :=
  { id := "alice", name := "Alice", kind := .human, connected := true, joinedAt := 1,
    lastSeenAt := 1, token := "t" }

end Free4Chat
