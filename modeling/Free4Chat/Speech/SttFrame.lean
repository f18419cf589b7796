import Mathlib.Algebra.Order.Ring.Nat
import Mathlib.Data.List.DropRight
import Mathlib.Data.Rat.Defs

/-!
# Frames of the Speech Recognition Protocol

The frames that the speech provider and the Runtime exchange: a header whose first byte tells its
size, optional words for a sequence number and an event, a length, and a payload that is
compressed and in JSON. The decompressor and the JSON decoder are parameters of the model.

The source checks the declared length of a payload, but hands everything behind the length to the
decoders. Bytes that follow the payload are decoded with it.

* `SttCodecs`: compression and JSON, with what is known about them in `SttCodecs.Lawful`.
* `buildSttAudioRequest`: a frame with audio.
* `parseSttResponse`: a frame of the provider. It fails, or faults where a slice is out of range.
* `ServerFrame`: a frame as the provider means it, and `ServerFrame.encode`.
* `sttFrames_decoded`: what the two functions do for every frame.
-/

namespace Free4Chat

/-! ## Constants -/

/-- The version of the protocol. -/
def protocolVersion : UInt8 := 0x1

/-- The words of a header that the Runtime sends. -/
def headerSizeWords : UInt8 := 0x1

/-- A message with audio only. -/
def clientAudioOnly : UInt8 := 0x2

/-- A full response. -/
def serverFullResponse : UInt8 := 0x9

/-- An error. -/
def serverErrorResponse : UInt8 := 0xf

/-- The flags of a frame with a sequence number. -/
def positiveSequence : UInt8 := 0x1

/-- The flags of the last frame. -/
def negativeWithSeq : UInt8 := 0x3

/-- The payload is in JSON. -/
def jsonSerialization : UInt8 := 0x1

/-- The payload is compressed. -/
def gzipCompression : UInt8 := 0x1

/-- Most bytes of a payload. -/
def maxFramePayloadSize : ℕ := 8 * 1024 * 1024

/-! ## Results and decoders -/

/-- One recognized utterance. Times are the numbers of a JSON document. -/
structure SttUtterance where
  text : String
  definite : Bool := false
  startTime : Option ℚ := none
  endTime : Option ℚ := none
deriving DecidableEq

/-- One parsed frame of the provider. -/
structure SttResponse where
  code : ℤ := 0
  isLastPackage : Bool := false
  payloadSequence : Option ℤ := none
  result : List SttUtterance := []
  -- The bytes of the message.
  message : List UInt8 := []
deriving DecidableEq

/-- A parser refuses a frame, or reads out of range, which ends the program. -/
inductive FrameFailure where
  | invalidFrame
  | outOfRange
deriving DecidableEq

/-- What is said of a failure. -/
def FrameFailure.text : FrameFailure → String
  | .invalidFrame => "invalid Doubao speech protocol frame"
  | .outOfRange => "runtime error: slice bounds out of range"

/-- The fields that are read from a response in JSON. A result that is missing is empty. -/
structure RawSttResponse where
  result : List UInt8 := []
  text : String := ""
  message : List UInt8 := []
deriving DecidableEq

/-- Compression, and the JSON decoder at the types at which it is used. -/
structure SttCodecs where
  gzip : List UInt8 → Option (List UInt8)
  gunzip : List UInt8 → Option (List UInt8)
  response : List UInt8 → Option RawSttResponse
  array : List UInt8 → Option (List (List UInt8))
  -- The utterances of a wrapper object.
  wrapper : List UInt8 → Option (List SttUtterance)
  utterance : List UInt8 → Option SttUtterance
  -- The utterances and the text of an object.
  object : List UInt8 → Option (List SttUtterance × String)

/-- White space of JSON. -/
def isJsonSpace (byte : UInt8) : Bool :=
  byte = 0x20 || byte = 0x09 || byte = 0x0A || byte = 0x0D

/-- What is known about the decoders. Streams that follow each other are decompressed together, and
a document may be followed by white space only. -/
structure SttCodecs.Lawful (codecs : SttCodecs) : Prop where
  gunzip_append : ∀ stream contents trailing, codecs.gunzip stream = some contents →
    trailing ≠ [] → codecs.gunzip (stream ++ trailing) =
      (codecs.gunzip trailing).map (contents ++ ·)
  response_append : ∀ document raw trailing, codecs.response document = some raw →
    codecs.response (document ++ trailing) =
      if trailing.all isJsonSpace then some raw else none

/-! ## Words -/

/-- The length of a payload in four bytes. -/
def withLength (payload : List UInt8) : List UInt8 :=
  [UInt8.ofNat (payload.length >>> 24), UInt8.ofNat (payload.length >>> 16),
    UInt8.ofNat (payload.length >>> 8), UInt8.ofNat payload.length]

/-- A sequence number in four bytes. -/
def sequenceBytes (sequence : Int32) : List UInt8 :=
  [(sequence.toUInt32 >>> 24).toUInt8, (sequence.toUInt32 >>> 16).toUInt8,
    (sequence.toUInt32 >>> 8).toUInt8, sequence.toUInt32.toUInt8]

/-- One byte. -/
def byteAt (data : List UInt8) (index : ℕ) : Except FrameFailure UInt8 :=
  match data[index]? with
  | some byte => .ok byte
  | none => .error .outOfRange

/-- Everything from an offset on. -/
def sliceFrom (data : List UInt8) (offset : ℕ) : Except FrameFailure (List UInt8) :=
  if offset ≤ data.length then .ok (data.drop offset) else .error .outOfRange

/-- Four bytes as a word. -/
def wordOf (first second third fourth : UInt8) : UInt32 :=
  first.toUInt32 <<< 24 ||| second.toUInt32 <<< 16 ||| third.toUInt32 <<< 8 ||| fourth.toUInt32

/-- A word without sign. -/
def readUint32 (data : List UInt8) (offset : ℕ) : Except FrameFailure UInt32 := do
  if data.length < offset + 4 then throw .invalidFrame
  return wordOf (← byteAt data offset) (← byteAt data (offset + 1)) (← byteAt data (offset + 2))
    (← byteAt data (offset + 3))

/-- A word with sign. -/
def readInt32 (data : List UInt8) (offset : ℕ) : Except FrameFailure Int32 := do
  return (← readUint32 data offset).toInt32

/-! ## Frames that are sent -/

/-- The header of a frame that the Runtime sends. -/
def buildSttHeader (messageType flags : UInt8) : List UInt8 :=
  [(protocolVersion <<< 4) ||| headerSizeWords, (messageType <<< 4) ||| flags,
    (jsonSerialization <<< 4) ||| gzipCompression, 0]

/-- A frame with audio. A negative sequence number marks the last one. -/
def buildSttAudioRequest (codecs : SttCodecs) (sequenceNumber : Int32) (data : List UInt8) :
    Option (List UInt8) :=
  (codecs.gzip data).map fun compressed =>
    let flags := if sequenceNumber < 0 then negativeWithSeq else positiveSequence
    buildSttHeader clientAudioOnly flags ++ sequenceBytes sequenceNumber ++
      withLength compressed ++ compressed

/-! ## Frames that are received -/

/-- The utterances of one item of a result. -/
def itemUtterances (codecs : SttCodecs) (item : List UInt8) : List SttUtterance :=
  match codecs.wrapper item with
  | some (first :: rest) => first :: rest
  | _ => (codecs.utterance item).toList

/-- The utterances of an object. -/
def objectUtterances (codecs : SttCodecs) (result : List UInt8) : List SttUtterance :=
  match codecs.object result with
  | none => []
  | some (utterances, text) =>
    if utterances ≠ [] then utterances else if text ≠ "" then [{ text }] else []

/-- The utterances of a result: an array of utterances or of wrappers, an object, or the text
beside it. -/
def parseUtterances (codecs : SttCodecs) (result : List UInt8) (topLevelText : String) :
    List SttUtterance :=
  if result = [] then if topLevelText ≠ "" then [{ text := topLevelText }] else []
  else match codecs.array result with
    | some items => items.flatMap (itemUtterances codecs)
    | none => objectUtterances codecs result

/-- A word that a flag announces, and where the frame goes on. -/
def optionalWord (present : Bool) (message : List UInt8) (offset : ℕ) :
    Except FrameFailure (Option Int32 × ℕ) :=
  if present then (readInt32 message offset).map fun word => (some word, offset + 4)
  else .ok (none, offset)

/-- Skip the length of a payload, which must fit. -/
def checkPayload (message : List UInt8) (offset : ℕ) : Except FrameFailure ℕ := do
  let payloadSize ← readUint32 message offset
  if maxFramePayloadSize < payloadSize.toNat ∨
      message.length < offset + 4 + payloadSize.toNat then throw .invalidFrame
  return offset + 4

/-- The error code of a frame, and where its payload begins. -/
def payloadStart (messageType : UInt8) (message : List UInt8) (offset : ℕ) :
    Except FrameFailure (ℤ × ℕ) :=
  if messageType = serverFullResponse then (checkPayload message offset).map fun start => (0, start)
  else if messageType = serverErrorResponse then do
    let errorCode ← readInt32 message offset
    let start ← checkPayload message (offset + 4)
    return (errorCode.toInt, start)
  else .error .invalidFrame

/-- The contents of a body. -/
def decompress (codecs : SttCodecs) (compression : UInt8) (body : List UInt8) :
    Except FrameFailure (List UInt8) :=
  if compression = gzipCompression then
    match codecs.gunzip body with
    | some contents => .ok contents
    | none => .error .invalidFrame
  else .ok body

/-- Fill in a response from the contents of the body. -/
def readContents (codecs : SttCodecs) (serialization : UInt8) (response : SttResponse)
    (contents : List UInt8) : Except FrameFailure SttResponse :=
  if contents ≠ [] ∧ serialization = jsonSerialization then
    match codecs.response contents with
    | none => .error .invalidFrame
    | some raw =>
      .ok { response with
        message := if 200 < raw.message.length then raw.message.take 200 else raw.message
        result := parseUtterances codecs raw.result raw.text }
  else .ok response

/-- Parse a frame behind its header, given the two bytes of the header that tell its kind and its
formats. -/
def parseBehindHeader (codecs : SttCodecs) (kinds formats : UInt8) (message : List UInt8)
    (offset : ℕ) : Except FrameFailure SttResponse := do
  let flags := kinds &&& 0x0f
  let (payloadSequence, offset) ← optionalWord (flags &&& 0x1 ≠ 0) message offset
  let (_, offset) ← optionalWord (flags &&& 0x4 ≠ 0) message offset
  let (code, start) ← payloadStart ((kinds >>> 4) &&& 0x0f) message offset
  -- The body is all that follows, not only the payload that was declared.
  let body ← sliceFrom message start
  let contents ← decompress codecs (formats &&& 0x0f) body
  readContents codecs ((formats >>> 4) &&& 0x0f)
    { code, isLastPackage := flags &&& 0x2 ≠ 0, payloadSequence := payloadSequence.map (·.toInt) }
    contents

/-- Parse one frame of the provider. -/
def parseSttResponse (codecs : SttCodecs) (message : List UInt8) :
    Except FrameFailure SttResponse :=
  if message.length < 4 then .error .invalidFrame
  else do
    let first ← byteAt message 0
    let headerSize := (first &&& 0x0f).toNat
    if headerSize < 1 ∨ message.length < headerSize * 4 then .error .invalidFrame
    else do
      let kinds ← byteAt message 1
      let formats ← byteAt message 2
      parseBehindHeader codecs kinds formats message (headerSize * 4)

/-! ## No read is out of range -/

/-- A computation does not read out of range. -/
def InRange {α : Type} (result : Except FrameFailure α) : Prop := result ≠ .error .outOfRange

lemma InRange.ok {α : Type} (value : α) : InRange (.ok value) := by
  intro h
  cases h

lemma InRange.invalidFrame {α : Type} : InRange (.error .invalidFrame : Except FrameFailure α) := by
  intro h
  cases h

lemma InRange.bind {α β : Type} {first : Except FrameFailure α}
    {next : α → Except FrameFailure β} (hfirst : InRange first)
    (hnext : ∀ value, first = .ok value → InRange (next value)) : InRange (first >>= next) := by
  cases first with
  | error failure => exact fun h => hfirst (congrArg _ (Except.error.inj h))
  | ok value => exact hnext value rfl

lemma InRange.map {α β : Type} {first : Except FrameFailure α} {f : α → β}
    (hfirst : InRange first) : InRange (first.map f) := by
  cases first with
  | error failure => exact fun h => hfirst (congrArg _ (Except.error.inj h))
  | ok value => exact .ok _

lemma byteAt_of_lt {data : List UInt8} {index : ℕ} (hlt : index < data.length) :
    byteAt data index = .ok data[index] := by
  rw [byteAt, List.getElem?_eq_getElem hlt]

lemma inRange_readUint32 (data : List UInt8) (offset : ℕ) : InRange (readUint32 data offset) := by
  rw [readUint32]
  by_cases hshort : data.length < offset + 4
  · rw [if_pos hshort]
    exact .invalidFrame
  · rw [if_neg hshort, byteAt_of_lt (by omega), byteAt_of_lt (by omega), byteAt_of_lt (by omega),
      byteAt_of_lt (by omega)]
    exact .ok _

lemma inRange_readInt32 (data : List UInt8) (offset : ℕ) : InRange (readInt32 data offset) :=
  (inRange_readUint32 data offset).bind fun _ _ => .ok _

lemma le_length_of_readUint32 {data : List UInt8} {offset : ℕ} {word : UInt32}
    (h : readUint32 data offset = .ok word) : offset + 4 ≤ data.length := by
  rw [readUint32] at h
  by_contra hshort
  rw [if_pos (by omega)] at h
  cases h

lemma start_le_of_checkPayload {message : List UInt8} {offset start : ℕ}
    (h : checkPayload message offset = .ok start) : start ≤ message.length := by
  rw [checkPayload] at h
  cases hread : readUint32 message offset with
  | error failure => rw [hread] at h; cases h
  | ok size =>
    rw [hread] at h
    have hle := le_length_of_readUint32 hread
    change (if _ then _ else _) = _ at h
    split at h
    · cases h
    · obtain rfl := Except.ok.inj h
      exact hle

lemma inRange_checkPayload (message : List UInt8) (offset : ℕ) :
    InRange (checkPayload message offset) := by
  refine (inRange_readUint32 message offset).bind fun size _ => ?_
  dsimp only
  split
  · exact .invalidFrame
  · exact .ok _

lemma inRange_payloadStart (messageType : UInt8) (message : List UInt8) (offset : ℕ) :
    InRange (payloadStart messageType message offset) := by
  rw [payloadStart]
  split_ifs
  · exact (inRange_checkPayload message offset).map
  · refine (inRange_readInt32 message offset).bind fun errorCode _ => ?_
    exact (inRange_checkPayload message (offset + 4)).bind fun _ _ => .ok _
  · exact .invalidFrame

lemma start_le_of_payloadStart {messageType : UInt8} {message : List UInt8} {offset start : ℕ}
    {code : ℤ} (h : payloadStart messageType message offset = .ok (code, start)) :
    start ≤ message.length := by
  rw [payloadStart] at h
  split_ifs at h
  · cases hcheck : checkPayload message offset with
    | error failure => rw [hcheck] at h; cases h
    | ok checked =>
      rw [hcheck] at h
      obtain ⟨-, rfl⟩ := Prod.mk.inj (Except.ok.inj h)
      exact start_le_of_checkPayload hcheck
  · cases hcode : readInt32 message offset with
    | error failure => rw [hcode] at h; cases h
    | ok errorCode =>
      cases hcheck : checkPayload message (offset + 4) with
      | error failure => rw [hcode, hcheck] at h; cases h
      | ok checked =>
        rw [hcode, hcheck] at h
        obtain ⟨-, rfl⟩ := Prod.mk.inj (Except.ok.inj h)
        exact start_le_of_checkPayload hcheck

lemma inRange_optionalWord (present : Bool) (message : List UInt8) (offset : ℕ) :
    InRange (optionalWord present message offset) := by
  rw [optionalWord]
  split
  · exact (inRange_readInt32 message offset).map
  · exact .ok _

lemma inRange_readContents (codecs : SttCodecs) (serialization : UInt8) (response : SttResponse)
    (contents : List UInt8) : InRange (readContents codecs serialization response contents) := by
  rw [readContents]
  split
  · split
    · exact .invalidFrame
    · exact .ok _
  · exact .ok _

lemma inRange_parseBehindHeader (codecs : SttCodecs) (kinds formats : UInt8)
    (message : List UInt8) (offset : ℕ) :
    InRange (parseBehindHeader codecs kinds formats message offset) := by
  refine (inRange_optionalWord _ _ _).bind fun sequence _ => ?_
  refine (inRange_optionalWord _ _ _).bind fun event _ => ?_
  refine (inRange_payloadStart _ _ _).bind fun place hplace => ?_
  have hstart : place.2 ≤ message.length := start_le_of_payloadStart hplace
  refine InRange.bind ?_ fun body _ => InRange.bind ?_ fun contents _ =>
    inRange_readContents _ _ _ _
  · rw [sliceFrom, if_pos hstart]
    exact .ok _
  · rw [decompress]
    split
    · split
      · exact .ok _
      · exact .invalidFrame
    · exact .ok _

lemma inRange_parseSttResponse (codecs : SttCodecs) (message : List UInt8) :
    InRange (parseSttResponse codecs message) := by
  rw [parseSttResponse]
  split
  · exact .invalidFrame
  next hlong =>
    rw [byteAt_of_lt (by omega), byteAt_of_lt (by omega), byteAt_of_lt (by omega)]
    show InRange (if _ then _ else _)
    split
    · exact .invalidFrame
    · exact inRange_parseBehindHeader _ _ _ _ _

/-! ## Words are read back -/

lemma testBit_mod_byte (n i : ℕ) : (n % 256).testBit i = (decide (i < 8) && n.testBit i) :=
  Nat.testBit_mod_two_pow n 8 i

lemma testBit_mod_word (n i : ℕ) : (n % 4294967296).testBit i = (decide (i < 32) && n.testBit i) :=
  Nat.testBit_mod_two_pow n 32 i

lemma wordOf_bytes (word : UInt32) :
    wordOf (word >>> 24).toUInt8 (word >>> 16).toUInt8 (word >>> 8).toUInt8 word.toUInt8 =
      word := by
  apply UInt32.toNat_inj.mp
  apply Nat.eq_of_testBit_eq
  intro i
  have hhigh : 32 ≤ i → word.toNat.testBit i = false := fun hle =>
    Nat.testBit_lt_two_pow (word.toNat_lt.trans_le (Nat.pow_le_pow_right (by decide) hle))
  simp only [wordOf, UInt32.toNat_or, UInt32.toNat_shiftLeft, UInt8.toNat_toUInt32,
    UInt32.toNat_toUInt8, UInt32.toNat_shiftRight, Nat.testBit_or]
  simp only [UInt32.toNat_ofNat, Nat.reducePow, Nat.reduceMod, testBit_mod_word, testBit_mod_byte,
    Nat.testBit_shiftLeft, Nat.testBit_shiftRight]
  -- Each bit is in exactly one of the four bytes.
  grind

lemma byteAt_append {before after : List UInt8} {byte : UInt8} {index : ℕ}
    (hbyte : after[index]? = some byte) :
    byteAt (before ++ after) (before.length + index) = .ok byte := by
  rw [byteAt, List.getElem?_append_right (Nat.le_add_right _ _), Nat.add_sub_cancel_left, hbyte]

lemma readUint32_append {before after : List UInt8} {word : UInt32} :
    readUint32 (before ++ ([(word >>> 24).toUInt8, (word >>> 16).toUInt8, (word >>> 8).toUInt8,
      word.toUInt8] ++ after)) before.length = .ok word := by
  have hlong : ¬ (before ++ ([(word >>> 24).toUInt8, (word >>> 16).toUInt8,
      (word >>> 8).toUInt8, word.toUInt8] ++ after)).length < before.length + 4 := by
    simp only [List.length_append, List.length_cons, List.length_nil]
    omega
  have hfirst := @byteAt_append before ([(word >>> 24).toUInt8, (word >>> 16).toUInt8,
    (word >>> 8).toUInt8, word.toUInt8] ++ after) (word >>> 24).toUInt8 0 rfl
  rw [Nat.add_zero] at hfirst
  rw [readUint32, if_neg hlong, hfirst, byteAt_append rfl, byteAt_append rfl, byteAt_append rfl]
  show Except.ok _ = _
  rw [wordOf_bytes]

lemma readInt32_append {before after : List UInt8} {sequence : Int32} :
    readInt32 (before ++ (sequenceBytes sequence ++ after)) before.length = .ok sequence := by
  rw [readInt32, sequenceBytes, readUint32_append]
  rfl

lemma readUint32_withLength {before after payload : List UInt8}
    (hlength : payload.length < 2 ^ 32) :
    readUint32 (before ++ (withLength payload ++ after)) before.length =
      .ok (UInt32.ofNat payload.length) := by
  have hbytes : withLength payload =
      [(UInt32.ofNat payload.length >>> 24).toUInt8, (UInt32.ofNat payload.length >>> 16).toUInt8,
        (UInt32.ofNat payload.length >>> 8).toUInt8, (UInt32.ofNat payload.length).toUInt8] := by
    have hshift : ∀ amount : UInt32, amount.toNat < 32 →
        (UInt32.ofNat payload.length >>> amount).toUInt8 =
          UInt8.ofNat (payload.length >>> amount.toNat) := by
      intro amount hamount
      apply UInt8.toNat_inj.mp
      rw [UInt32.toNat_toUInt8, UInt32.toNat_shiftRight, UInt32.toNat_ofNat_of_lt' hlength,
        Nat.mod_eq_of_lt hamount, UInt8.toNat_ofNat']
    rw [hshift 24 (by decide), hshift 16 (by decide), hshift 8 (by decide), withLength]
    have hlow : (UInt32.ofNat payload.length).toUInt8 = UInt8.ofNat payload.length := by
      apply UInt8.toNat_inj.mp
      rw [UInt32.toNat_toUInt8, UInt32.toNat_ofNat_of_lt' hlength, UInt8.toNat_ofNat']
    rw [hlow]
    rfl
  rw [hbytes, readUint32_append]

lemma sliceFrom_append {before after : List UInt8} :
    sliceFrom (before ++ after) before.length = .ok after := by
  rw [sliceFrom, if_pos (by rw [List.length_append]; omega), List.drop_left]

/-! ## Frames as the provider means them -/

/-- A frame of the provider. The flags say which of the optional words are sent. -/
structure ServerFrame where
  version : Fin 16
  -- The size of the header, in words.
  headerSize : Fin 16
  flags : Fin 16
  serialization : Fin 16
  compression : Fin 16
  reserved : UInt8
  -- The rest of the header.
  extension : List UInt8
  sequence : Int32
  event : Int32
  -- The code of an error, or nothing for a full response.
  errorCode : Option Int32
  payload : List UInt8
  length_extension : 4 + extension.length = headerSize * 4
  length_payload : payload.length ≤ maxFramePayloadSize

/-- A byte of two halves. -/
def nibbles (high low : Fin 16) : UInt8 := UInt8.ofNat (16 * high + low)

namespace ServerFrame

variable (frame : ServerFrame)

/-- What kind of message a frame is. -/
def messageType : Fin 16 := if frame.errorCode.isSome then 0xf else 0x9

/-- The header. -/
def header : List UInt8 :=
  [nibbles frame.version frame.headerSize, nibbles frame.messageType frame.flags,
    nibbles frame.serialization frame.compression, frame.reserved] ++ frame.extension

/-- The word of a flag. -/
def flagged (bit : ℕ) (word : Int32) : List UInt8 :=
  if frame.flags.val.testBit bit then sequenceBytes word else []

/-- The bytes of a frame. -/
def encode : List UInt8 :=
  frame.header ++ (frame.flagged 0 frame.sequence ++ (frame.flagged 2 frame.event ++
    (frame.errorCode.elim [] sequenceBytes ++ (withLength frame.payload ++ frame.payload))))

/-- The sequence number of a frame, if it has one. -/
def payloadSequence : Option ℤ :=
  if frame.flags.val.testBit 0 then some frame.sequence.toInt else none

/-- Whether a frame is the last one. -/
def isLastPackage : Bool := frame.flags.val.testBit 1

/-- The error code of a frame. -/
def code : ℤ := frame.errorCode.elim 0 (·.toInt)

/-- Whether the payload is compressed. -/
def isGzip : Bool := frame.compression = 1

/-- Whether the payload is in JSON. -/
def isJson : Bool := frame.serialization = 1

/-- What some bytes of the body hold, alone. Nothing holds nothing. -/
def contents? (codecs : SttCodecs) (bytes : List UInt8) : Option (List UInt8) :=
  if frame.isGzip then codecs.gunzip bytes else some bytes

/-- The utterances of some contents. -/
def read? (codecs : SttCodecs) (contents : List UInt8) : Option (List SttUtterance) :=
  if contents ≠ [] ∧ frame.isJson then
    (codecs.response contents).map fun raw => parseUtterances codecs raw.result raw.text
  else some []

/-- The utterances of a frame: those of exactly its payload. -/
def utterances? (codecs : SttCodecs) : Option (List SttUtterance) :=
  (frame.contents? codecs frame.payload).bind (frame.read? codecs)

/-- A frame is decoded, whatever follows it, to its own fields and utterances. -/
def DecodedExactly (codecs : SttCodecs) (trailing : List UInt8) : Prop :=
  ∃ response, parseSttResponse codecs (frame.encode ++ trailing) = .ok response ∧
    response.payloadSequence = frame.payloadSequence ∧
    response.isLastPackage = frame.isLastPackage ∧ response.code = frame.code ∧
    frame.utterances? codecs = some response.result

/-- What follows a frame holds nothing: the bytes can be decompressed where the payload is, and they
are white space where the payload is a document. Behind an empty document, a document without
utterances may follow. -/
def HoldsNothing (codecs : SttCodecs) (trailing : List UInt8) : Prop :=
  trailing = [] ∨ ∃ rest, frame.contents? codecs trailing = some rest ∧
    (frame.isJson = true →
      if frame.contents? codecs frame.payload = some [] then frame.read? codecs rest = some []
      else rest.all isJsonSpace = true)

end ServerFrame

/-! ## Reading a frame -/

lemma nibbles_low : ∀ high low : Fin 16, nibbles high low &&& 0x0f = UInt8.ofNat low := by
  decide

lemma nibbles_high : ∀ high low : Fin 16, (nibbles high low >>> 4) &&& 0x0f = UInt8.ofNat high := by
  decide

lemma testBit_zero_iff : ∀ flags : Fin 16,
    decide (UInt8.ofNat flags &&& 0x1 ≠ 0) = flags.val.testBit 0 := by
  decide

lemma testBit_one_iff : ∀ flags : Fin 16,
    decide (UInt8.ofNat flags &&& 0x2 ≠ 0) = flags.val.testBit 1 := by
  decide

lemma testBit_two_iff : ∀ flags : Fin 16,
    decide (UInt8.ofNat flags &&& 0x4 ≠ 0) = flags.val.testBit 2 := by
  decide

lemma toNat_nibble : ∀ low : Fin 16, (UInt8.ofNat low).toNat = low := by
  decide

lemma nibble_eq_one_iff : ∀ low : Fin 16, (UInt8.ofNat low = 0x1) ↔ low = 1 := by
  decide

namespace ServerFrame

variable {codecs : SttCodecs} {frame : ServerFrame} {trailing : List UInt8}

lemma optionalWord_append {before after : List UInt8} {bit : ℕ} {word : Int32} :
    optionalWord (frame.flags.val.testBit bit) (before ++ (frame.flagged bit word ++ after))
      before.length =
      .ok (if frame.flags.val.testBit bit then some word else none,
        (before ++ frame.flagged bit word).length) := by
  rw [optionalWord, flagged]
  split
  · rw [readInt32_append, List.length_append]
    rfl
  · rw [List.append_nil]

lemma checkPayload_append {before after payload : List UInt8}
    (hlength : payload.length ≤ maxFramePayloadSize) :
    checkPayload (before ++ (withLength payload ++ (payload ++ after))) before.length =
      .ok (before ++ withLength payload).length := by
  have hword : payload.length < 2 ^ 32 := hlength.trans_lt (by decide)
  rw [checkPayload, readUint32_withLength hword]
  show (if _ then _ else _) = _
  rw [UInt32.toNat_ofNat_of_lt' hword, if_neg]
  · rw [List.length_append]
    rfl
  · have hfour : (withLength payload).length = 4 := rfl
    simp only [List.length_append, hfour]
    omega

lemma payloadStart_append {before after : List UInt8} : payloadStart (UInt8.ofNat frame.messageType)
      (before ++ (frame.errorCode.elim [] sequenceBytes ++
        (withLength frame.payload ++ (frame.payload ++ after)))) before.length =
      .ok (frame.code, (before ++ (frame.errorCode.elim [] sequenceBytes ++
        withLength frame.payload)).length) := by
  rw [payloadStart, messageType, code]
  cases frame.errorCode with
  | none =>
    rw [if_pos (by decide), Option.elim_none, List.nil_append, List.nil_append,
      checkPayload_append frame.length_payload]
    rfl
  | some errorCode =>
    rw [Option.isSome_some, if_pos rfl, if_neg (by decide), if_pos (by decide), Option.elim_some,
      readInt32_append]
    have hcheck := @checkPayload_append (before ++ sequenceBytes errorCode) after frame.payload
      frame.length_payload
    rw [List.append_assoc, List.length_append] at hcheck
    show (checkPayload _ (before.length + 4) >>= _) = _
    rw [show before.length + 4 = before.length + (sequenceBytes errorCode).length from rfl, hcheck,
      List.append_assoc]
    rfl

lemma parseSttResponse_encode : parseSttResponse codecs (frame.encode ++ trailing) =
      (decompress codecs (UInt8.ofNat frame.compression) (frame.payload ++ trailing)).bind
        (readContents codecs (UInt8.ofNat frame.serialization)
          { code := frame.code, isLastPackage := frame.isLastPackage
            payloadSequence := frame.payloadSequence }) := by
  have hmessage : frame.encode ++ trailing = frame.header ++ (frame.flagged 0 frame.sequence ++
      (frame.flagged 2 frame.event ++ (frame.errorCode.elim [] sequenceBytes ++
        (withLength frame.payload ++ (frame.payload ++ trailing))))) := by
    rw [encode]
    simp only [List.append_assoc]
  have hheader : frame.header.length = frame.headerSize * 4 := by
    rw [header, List.length_append, ← frame.length_extension]
    rfl
  have hsize : 1 ≤ (frame.headerSize : ℕ) := by
    have := frame.length_extension
    omega
  have hlong : frame.headerSize * 4 ≤ (frame.encode ++ trailing).length := by
    rw [hmessage, List.length_append, hheader]
    exact Nat.le_add_right _ _
  have hfirst : byteAt (frame.encode ++ trailing) 0 =
      .ok (nibbles frame.version frame.headerSize) := by rw [hmessage]; rfl
  have hkinds : byteAt (frame.encode ++ trailing) 1 =
      .ok (nibbles frame.messageType frame.flags) := by rw [hmessage]; rfl
  have hformats : byteAt (frame.encode ++ trailing) 2 =
      .ok (nibbles frame.serialization frame.compression) := by rw [hmessage]; rfl
  rw [parseSttResponse, if_neg (by omega), hfirst, hkinds, hformats]
  show (if _ then _ else parseBehindHeader codecs _ _ _ _) = _
  rw [nibbles_low, toNat_nibble, if_neg (by omega), parseBehindHeader, nibbles_low, nibbles_low,
    nibbles_high, nibbles_high, testBit_zero_iff, testBit_one_iff, testBit_two_iff, ← hheader]
  -- From word to word, what was read so far is the part before the offset.
  rw [hmessage, optionalWord_append]
  show (optionalWord _ _ _ >>= _) = _
  rw [← List.append_assoc frame.header, optionalWord_append]
  show (payloadStart _ _ _ >>= _) = _
  rw [← List.append_assoc (frame.header ++ _), payloadStart_append]
  show (sliceFrom _ _ >>= _) = _
  rw [← List.append_assoc (frame.errorCode.elim [] sequenceBytes),
    ← List.append_assoc ((frame.header ++ _) ++ _), sliceFrom_append]
  show (decompress _ _ _ >>= _) = _
  have hsequence : (if frame.flags.val.testBit 0 then some frame.sequence else none).map
      (·.toInt) = frame.payloadSequence := by
    rw [payloadSequence]
    split <;> rfl
  rw [hsequence]
  rfl

/-! ## What follows a frame -/

lemma exists_readContents_iff {base : SttResponse} {contents : List UInt8}
    {utterances : Option (List SttUtterance)} :
    (∃ response, readContents codecs (UInt8.ofNat frame.serialization) base contents =
        .ok response ∧ response.payloadSequence = base.payloadSequence ∧
        response.isLastPackage = base.isLastPackage ∧ response.code = base.code ∧
        utterances = some response.result) ↔
      if contents ≠ [] ∧ frame.isJson then
        ∃ result, frame.read? codecs contents = some result ∧ utterances = some result
      else utterances = some base.result := by
  have hjson : UInt8.ofNat frame.serialization = jsonSerialization ↔ frame.isJson = true := by
    rw [isJson, decide_eq_true_iff]
    exact nibble_eq_one_iff frame.serialization
  simp only [readContents, read?, hjson]
  split
  · cases codecs.response contents with
    | none | some raw => simp
  · simp

lemma decodedExactly_iff : frame.DecodedExactly codecs trailing ↔
      ∃ result, (frame.contents? codecs (frame.payload ++ trailing)).bind (frame.read? codecs) =
        some result ∧ frame.utterances? codecs = some result := by
  have hgzip : UInt8.ofNat frame.compression = gzipCompression ↔ frame.isGzip = true := by
    rw [isGzip, decide_eq_true_iff]
    exact nibble_eq_one_iff frame.compression
  have hbody : decompress codecs (UInt8.ofNat frame.compression) (frame.payload ++ trailing) =
      match frame.contents? codecs (frame.payload ++ trailing) with
      | some contents => .ok contents
      | none => .error .invalidFrame := by
    simp only [decompress, contents?, hgzip]
    split <;> rfl
  rw [DecodedExactly, parseSttResponse_encode, hbody]
  cases frame.contents? codecs (frame.payload ++ trailing) with
  | none => simp [Except.bind]
  | some contents =>
    refine exists_readContents_iff.trans ?_
    rw [Option.bind_some]
    split
    next => rfl
    next hnot => simp [read?, hnot]

lemma contents?_append {contents : List UInt8} (hlawful : codecs.Lawful)
    (hcontents : frame.contents? codecs frame.payload = some contents) (hne : trailing ≠ []) :
    frame.contents? codecs (frame.payload ++ trailing) =
      (frame.contents? codecs trailing).map (contents ++ ·) := by
  by_cases hgzip : frame.isGzip = true
  · rw [contents?, if_pos hgzip] at hcontents
    rw [contents?, contents?, if_pos hgzip, if_pos hgzip]
    exact hlawful.gunzip_append _ _ _ hcontents hne
  · rw [contents?, if_neg hgzip] at hcontents
    rw [contents?, contents?, if_neg hgzip, if_neg hgzip, Option.map_some,
      Option.some.inj hcontents]

lemma decodedExactly_iff_holdsNothing (hlawful : codecs.Lawful)
    (hwell : (frame.utterances? codecs).isSome = true) :
    frame.DecodedExactly codecs trailing ↔ frame.HoldsNothing codecs trailing := by
  obtain ⟨utterances, hutterances⟩ := Option.isSome_iff_exists.mp hwell
  obtain ⟨contents, hcontents, hread⟩ := Option.bind_eq_some_iff.mp hutterances
  rw [decodedExactly_iff, HoldsNothing]
  by_cases hempty : trailing = []
  · rw [hempty, List.append_nil]
    exact iff_of_true ⟨utterances, hutterances, hutterances⟩ (Or.inl rfl)
  · rw [contents?_append hlawful hcontents hempty, hutterances]
    cases hrest : frame.contents? codecs trailing with
    | none => simp [hempty]
    | some rest =>
      simp only [Option.map_some, Option.bind_some, hempty, false_or, Option.some.injEq,
        exists_eq_left']
      have hsimple : (∃ result, frame.read? codecs (contents ++ rest) = some result ∧
          utterances = result) ↔ frame.read? codecs (contents ++ rest) = some utterances :=
        ⟨fun ⟨_, hresult, heq⟩ => heq ▸ hresult, fun h => ⟨utterances, h, rfl⟩⟩
      rw [hsimple]
      simp only [hcontents, Option.some.injEq]
      by_cases hjson : frame.isJson = true
      · rw [forall_prop_of_true hjson]
        by_cases hnil : contents = []
        · -- An empty document has no utterances.
          have hnone : utterances = [] := by
            rw [hnil, read?, if_neg (by simp)] at hread
            exact (Option.some.inj hread).symm
          rw [if_pos hnil, hnil, hnone, List.nil_append]
        · rw [if_neg hnil]
          rw [read?, if_pos ⟨hnil, hjson⟩] at hread
          obtain ⟨raw, hraw, rfl⟩ := Option.map_eq_some_iff.mp hread
          rw [read?, if_pos ⟨by simp [hnil], hjson⟩, hlawful.response_append contents raw rest hraw]
          split <;> simp_all
      · -- Where the payload is no document, nothing is read from it.
        have hread' : ∀ bytes, frame.read? codecs bytes = some [] := fun bytes => by
          rw [read?, if_neg fun h => hjson h.2]
        rw [hread'] at hread
        rw [hread', ← Option.some.inj hread]
        exact iff_of_true rfl fun h => absurd h hjson

end ServerFrame

/-! ## Both directions -/

/-- A frame with audio says its kind, its sequence number, and the length of its payload. -/
structure ReadsBack (request : List UInt8) (sequence : Int32) (compressed : List UInt8) : Prop where
  version : ∃ byte, byteAt request 0 = .ok byte ∧ byte >>> 4 = protocolVersion ∧
    byte &&& 0x0f = headerSizeWords
  kind : ∃ byte, byteAt request 1 = .ok byte ∧ byte >>> 4 = clientAudioOnly ∧
    byte &&& 0x0f = if sequence < 0 then negativeWithSeq else positiveSequence
  formats : ∃ byte, byteAt request 2 = .ok byte ∧ byte >>> 4 = jsonSerialization ∧
    byte &&& 0x0f = gzipCompression
  sequence : readInt32 request 4 = .ok sequence
  length : ∃ word, readUint32 request 8 = .ok word ∧ word.toNat = compressed.length
  payload : sliceFrom request 12 = .ok compressed

lemma readsBack_buildSttAudioRequest {codecs : SttCodecs} {sequence : Int32}
    {data compressed : List UInt8} (hgzip : codecs.gzip data = some compressed)
    (hlength : compressed.length < 2 ^ 32) :
    ∃ request, buildSttAudioRequest codecs sequence data = some request ∧
      ReadsBack request sequence compressed := by
  rw [buildSttAudioRequest, hgzip]
  refine ⟨_, rfl, ?_⟩
  generalize hflags : (if sequence < 0 then negativeWithSeq else positiveSequence) = flags
  have hsmall : ((clientAudioOnly <<< 4) ||| flags) >>> 4 = clientAudioOnly ∧
      ((clientAudioOnly <<< 4) ||| flags) &&& 0x0f = flags := by
    rw [← hflags]
    split <;> decide
  -- Each part stands behind those before it.
  have hsequence := @readInt32_append (buildSttHeader clientAudioOnly flags)
    (withLength compressed ++ compressed) sequence
  have hword := @readUint32_withLength (buildSttHeader clientAudioOnly flags ++
    sequenceBytes sequence) compressed compressed hlength
  have hpayload := @sliceFrom_append (buildSttHeader clientAudioOnly flags ++
    sequenceBytes sequence ++ withLength compressed) compressed
  simp only [List.append_assoc] at hsequence hword hpayload ⊢
  exact
    { version := ⟨_, rfl, by decide, by decide⟩
      kind := ⟨_, rfl, hsmall.1, by rw [hflags]; exact hsmall.2⟩
      formats := ⟨_, rfl, by decide, by decide⟩
      sequence := hsequence
      length := ⟨_, hword, UInt32.toNat_ofNat_of_lt' hlength⟩
      payload := hpayload }

/-- The parser never reads out of range, a frame is decoded to its own fields and utterances if and
only if what follows it holds nothing, and what is built into a frame with audio is read back. -/
theorem sttFrames_decoded (codecs : SttCodecs) (hlawful : codecs.Lawful) :
    (∀ message, parseSttResponse codecs message ≠ .error .outOfRange) ∧
    (∀ (frame : ServerFrame) (trailing : List UInt8),
      (frame.utterances? codecs).isSome = true →
        (frame.DecodedExactly codecs trailing ↔ frame.HoldsNothing codecs trailing)) ∧
    ∀ (sequence : Int32) (data compressed : List UInt8), codecs.gzip data = some compressed →
      compressed.length < 2 ^ 32 →
        ∃ request, buildSttAudioRequest codecs sequence data = some request ∧
          ReadsBack request sequence compressed :=
  ⟨inRange_parseSttResponse codecs,
    fun _ _ hwell => ServerFrame.decodedExactly_iff_holdsNothing hlawful hwell,
    fun _ _ _ hgzip hlength => readsBack_buildSttAudioRequest hgzip hlength⟩

/-! ### An empty document -/

/-- The decoders on documents that are empty objects. -/
def emptyObjectCodecs : SttCodecs where
  gzip _ := none
  gunzip _ := none
  response document := if document.rdropWhile isJsonSpace = [0x7B, 0x7D] then some {} else none
  array _ := none
  wrapper _ := none
  utterance _ := none
  object _ := none

lemma lawful_emptyObjectCodecs : emptyObjectCodecs.Lawful := by
  refine ⟨fun stream contents trailing h => absurd h.symm (Option.some_ne_none contents), ?_⟩
  intro document raw trailing hraw
  simp only [emptyObjectCodecs] at hraw ⊢
  split at hraw
  next hdocument =>
    obtain rfl := Option.some.inj hraw
    have hlong : 2 ≤ document.length := by
      rw [← show ([0x7B, 0x7D] : List UInt8).length = 2 from rfl, ← hdocument]
      exact (List.rdropWhile_prefix isJsonSpace document).length_le
    rw [List.rdropWhile] at hdocument ⊢
    rw [List.reverse_append]
    by_cases hspace : trailing.all isJsonSpace = true
    · have hnil : trailing.reverse.dropWhile isJsonSpace = [] := by
        rw [List.dropWhile_eq_nil_iff]
        exact fun byte hbyte => List.all_eq_true.mp hspace byte (List.mem_reverse.mp hbyte)
      have hinner : (trailing.reverse ++ document.reverse).dropWhile isJsonSpace =
          document.reverse.dropWhile isJsonSpace := by
        rw [List.dropWhile_append, hnil]
        rfl
      rw [hinner, if_pos hdocument, if_pos hspace]
    · -- What is left behind the object is at least one more byte.
      have hcons : trailing.reverse.dropWhile isJsonSpace ≠ [] := by
        rw [Ne, List.dropWhile_eq_nil_iff]
        exact fun hall => hspace (List.all_eq_true.mpr fun byte hbyte =>
          hall byte (List.mem_reverse.mpr hbyte))
      have hinner : (trailing.reverse ++ document.reverse).dropWhile isJsonSpace =
          trailing.reverse.dropWhile isJsonSpace ++ document.reverse := by
        rw [List.dropWhile_append, if_neg fun hempty => hcons (List.isEmpty_iff.mp hempty)]
      rw [hinner, if_neg hspace, if_neg]
      intro heq
      have hlength := congrArg List.length heq
      have hpos := List.length_pos_of_ne_nil hcons
      simp only [List.length_reverse, List.length_append, List.length_cons, List.length_nil]
        at hlength
      omega
  next => cases hraw

/-- A full response with an empty object. -/
def emptyObjectFrame : ServerFrame where
  version := 1
  headerSize := 1
  flags := 1
  serialization := 1
  compression := 0
  reserved := 0
  extension := []
  sequence := 7
  event := 0
  errorCode := none
  payload := [0x7B, 0x7D]
  length_extension := rfl
  length_payload := by decide

/-- A frame that another byte follows is refused. -/
theorem not_decodedExactly_trailing :
    (emptyObjectFrame.utterances? emptyObjectCodecs).isSome = true ∧
      ¬ emptyObjectFrame.DecodedExactly emptyObjectCodecs [0x78] := by
  refine ⟨by decide, ?_⟩
  rw [ServerFrame.decodedExactly_iff]
  rintro ⟨result, hresult, -⟩
  exact absurd (Option.isSome_of_eq_some hresult) (by decide)

/-- A frame that a newline follows is decoded. -/
theorem decodedExactly_newline :
    emptyObjectFrame.DecodedExactly emptyObjectCodecs [0x0A] :=
  ((sttFrames_decoded emptyObjectCodecs lawful_emptyObjectCodecs).2.1 emptyObjectFrame [0x0A]
    (by decide)).mpr (Or.inr ⟨[0x0A], rfl, fun _ => by decide⟩)

end Free4Chat
