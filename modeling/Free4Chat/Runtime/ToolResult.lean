import Free4Chat.Data.Fallible
import Mathlib.Data.List.Forall2

/-!
# Results of Room Tools

What the Runtime decodes of the results of Room tools. A server may return any JSON.

* `decodeTextPayload`: the object in the first text of a result, or an error.
* `parseRoomEvents`: the events of a list.
* `FailsClosed`: what should hold of both.
* `failsClosed_iff`: when it does. The first block of an error is accessed even if there is none,
  and a text that is `null` is returned as if it was an object.
-/

namespace Free4Chat

/-! ## Values -/

/-- A JSON value as it is decoded into `any`. -/
inductive GoAny where
  | nil
  | bool (b : Bool)
  -- The bits of a `float64`.
  | number (bits : UInt64)
  | string (s : String)
  | array (items : List GoAny)
  -- The entries of a map.
  | object (members : List (String × GoAny))

namespace GoAny

/-- The name of the type of a value. -/
def typeName : GoAny → String
  | nil => "<nil>"
  | bool _ => "bool"
  | number _ => "float64"
  | string _ => "string"
  | array _ => "[]interface \x7b\x7d"
  | object _ => "map[string]interface \x7b\x7d"

/-- A field as a boolean, or `false`. -/
def boolField (members : List (String × GoAny)) (name : String) : Bool :=
  match members.lookup name with
  | some (bool b) => b
  | _ => false

/-- A field as a string, if it is one. -/
def stringField? (members : List (String × GoAny)) (name : String) : Option String :=
  match members.lookup name with
  | some (string s) => some s
  | _ => none

/-- A field as a list, or the empty list. -/
def arrayField (members : List (String × GoAny)) (name : String) : List GoAny :=
  match members.lookup name with
  | some (array items) => items
  | _ => []

/-- The entries of a value, if it is a map. -/
def members? : GoAny → Option (List (String × GoAny))
  | object members => some members
  | _ => none

end GoAny

/-! ## Errors -/

/-- How errors are classified. -/
inductive ErrorCode where
  | invalidParticipantHandle
  | roomExpired
  | toolError
deriving DecidableEq

/-- A typed error. -/
structure ClientError where
  message : String
  code : ErrorCode
deriving DecidableEq

/-- `toolErrorCode`. -/
def toolErrorCode (errorString : String) : ErrorCode :=
  if errorString = "invalid_participant_handle" then .invalidParticipantHandle
  else if errorString = "room_expired" then .roomExpired
  else .toolError

/-! ## Decoding -/

/-- How texts and events are decoded. -/
structure ToolResultRules (Event : Type) where
  -- What `json.Unmarshal` reads of a text.
  parse : String → Option GoAny
  -- The `error` of a text, if the text is read into a struct with one.
  parseError : String → Option String
  -- `json.Marshal` and `json.Unmarshal` of an event, or an error.
  encodeEvent : List (String × GoAny) → Except String (List UInt8)
  decodeEvent : List UInt8 → Except String Event

/-- What comes of decoding a result. -/
inductive PayloadOutcome where
  | decoded (members : List (String × GoAny))
  -- A map that is `nil`, without an error.
  | decodedNil
  | failed (error : ClientError)
  -- An index is out of range.
  | panicked

section

variable {Event : Type} (rules : ToolResultRules Event)

/-- The message of a tool error. -/
def errorStringOf (first : List (String × GoAny)) : String :=
  match GoAny.stringField? first "text" with
  | some text =>
    match rules.parseError text with
    | some error => if error ≠ "" then error else text
    | none => text
  | none => ""

/-- The first text of some blocks that is not empty. -/
def firstText? (content : List GoAny) : Option String :=
  content.findSome? fun item =>
    item.members?.bind fun block =>
      (GoAny.stringField? block "text").filter fun text =>
        GoAny.stringField? block "type" = some "text" && text ≠ ""

/-- `decodeTextPayload`. -/
def decodeTextPayload (rawResult : GoAny) : PayloadOutcome :=
  match rawResult with
  | .object result =>
    let content := GoAny.arrayField result "content"
    if GoAny.boolField result "isError" then
      match content with
      | [] => .panicked
      | item :: _ =>
        let errorString := errorStringOf rules (item.members?.getD [])
        .failed ⟨errorString, toolErrorCode errorString⟩
    else
      match firstText? content with
      | some text =>
        match rules.parse text with
        | some (.object members) => .decoded members
        | some .nil => .decodedNil
        | _ => .failed ⟨"Free4Chat returned invalid JSON", .toolError⟩
      | none => .failed ⟨"Free4Chat tool returned no text content", .toolError⟩
  | _ => .failed ⟨"Free4Chat returned an unexpected payload shape", .toolError⟩

/-- An element of a list of events. -/
def parseRoomEvent (index : ℕ) (item : GoAny) : Except ClientError Event :=
  match item with
  | .object members =>
    match rules.encodeEvent members with
    | .error error =>
      .error ⟨s!"Free4Chat room event {index} could not be encoded: {error}", .toolError⟩
    | .ok data =>
      match rules.decodeEvent data with
      | .error error => .error ⟨s!"Free4Chat room event {index} is malformed: {error}", .toolError⟩
      | .ok event => .ok event
  | _ =>
    .error ⟨s!"Free4Chat room event {index} is not an object ({item.typeName})", .toolError⟩

/-- The elements of a list of events, from an index on. -/
def parseRoomEventsFrom : ℕ → List GoAny → Except ClientError (List Event)
  | _, [] => .ok []
  | index, item :: items => do
    let event ← parseRoomEvent rules index item
    let events ← parseRoomEventsFrom (index + 1) items
    return event :: events

/-- `parseRoomEvents`. -/
def parseRoomEvents (raw : GoAny) : Except ClientError (List Event) :=
  match raw with
  | .nil => .ok []
  | .array list => parseRoomEventsFrom rules 0 list
  | _ =>
    .error
      ⟨s!"Free4Chat returned a malformed room event list ({raw.typeName})", .toolError⟩

/-! ## What should hold -/

/-- A result that is flagged as an error. -/
def IsFlagged (rawResult : GoAny) : Prop :=
  ∃ result, rawResult = .object result ∧ GoAny.boolField result "isError" = true

/-- An event is what an element of the list is decoded into. -/
def IsEventOf (item : GoAny) (event : Event) : Prop :=
  ∃ members data, item = .object members ∧ rules.encodeEvent members = .ok data ∧
    rules.decodeEvent data = .ok event

/-- Decoding a result and a list of events is total and fails closed. -/
structure FailsClosed (rawResult rawEvents : GoAny) : Prop where
  -- A result is decoded into an object, or into a typed error.
  total : (∃ members, decodeTextPayload rules rawResult = .decoded members) ∨
    ∃ error, decodeTextPayload rules rawResult = .failed error
  -- A result that is flagged as an error is not returned as success.
  flagged : IsFlagged rawResult → ∃ error, decodeTextPayload rules rawResult = .failed error
  -- There is one event for each element of a list, in the same order, or an error.
  events : ∀ events, parseRoomEvents rules rawEvents = .ok events →
    rawEvents = .nil ∧ events = [] ∨
      ∃ items, rawEvents = .array items ∧ List.Forall₂ (IsEventOf rules) items events

/-- The condition: an error has content, and what is returned as success is not `null`. -/
def DecodableResult (rawResult : GoAny) : Prop :=
  ∀ result, rawResult = .object result →
    if GoAny.boolField result "isError" then GoAny.arrayField result "content" ≠ []
    else ∀ text, firstText? (GoAny.arrayField result "content") = some text →
      ∀ value, rules.parse text = some value → value ≠ .nil

end

/-! ## Proofs -/

section

variable {Event : Type} {rules : ToolResultRules Event} {rawResult : GoAny}

lemma parseRoomEvent_ok {index : ℕ} {item : GoAny} {event : Event}
    (h : parseRoomEvent rules index item = .ok event) : IsEventOf rules item event := by
  unfold parseRoomEvent at h
  split at h
  next members =>
    split at h
    next => cases h
    next data hdata =>
      split at h
      next => cases h
      next event' hevent =>
        cases h
        exact ⟨members, data, rfl, hdata, hevent⟩
  next => cases h

lemma parseRoomEventsFrom_ok {items : List GoAny} {index : ℕ} {events : List Event}
    (h : parseRoomEventsFrom rules index items = .ok events) :
    List.Forall₂ (IsEventOf rules) items events := by
  induction items generalizing index events with
  | nil =>
    cases h
    exact List.Forall₂.nil
  | cons item items ih =>
    rw [parseRoomEventsFrom] at h
    obtain ⟨event, hitem, h⟩ := Except.bind_eq_ok.mp h
    obtain ⟨rest, hitems, h⟩ := Except.bind_eq_ok.mp h
    obtain rfl := Except.pure_eq_ok.mp h
    exact List.Forall₂.cons (parseRoomEvent_ok hitem) (ih hitems)

lemma parseRoomEvents_ok {rawEvents : GoAny} {events : List Event}
    (h : parseRoomEvents rules rawEvents = .ok events) : rawEvents = .nil ∧ events = [] ∨
      ∃ items, rawEvents = .array items ∧ List.Forall₂ (IsEventOf rules) items events := by
  unfold parseRoomEvents at h
  split at h
  next =>
    cases h
    exact Or.inl ⟨rfl, rfl⟩
  next items => exact Or.inr ⟨items, rfl, parseRoomEventsFrom_ok h⟩
  next => cases h

lemma decodeTextPayload_shape (h : ∀ result, rawResult ≠ .object result) :
    decodeTextPayload rules rawResult =
      .failed ⟨"Free4Chat returned an unexpected payload shape", .toolError⟩ := by
  unfold decodeTextPayload
  split
  next result => exact absurd rfl (h result)
  next => rfl

lemma decodeTextPayload_flagged {result : List (String × GoAny)}
    (hflag : GoAny.boolField result "isError" = true) : GoAny.arrayField result "content" = [] ∧
        decodeTextPayload rules (.object result) = .panicked ∨
      GoAny.arrayField result "content" ≠ [] ∧
        ∃ error, decodeTextPayload rules (.object result) = .failed error := by
  rw [decodeTextPayload]
  dsimp only
  rw [if_pos hflag]
  cases GoAny.arrayField result "content" with
  | nil => exact Or.inl ⟨rfl, rfl⟩
  | cons item items => exact Or.inr ⟨List.cons_ne_nil _ _, _, rfl⟩

lemma decodeTextPayload_success {result : List (String × GoAny)}
    (hflag : ¬GoAny.boolField result "isError" = true) :
    (∃ text, firstText? (GoAny.arrayField result "content") = some text ∧
        rules.parse text = some .nil) ∧
        decodeTextPayload rules (.object result) = .decodedNil ∨
      (∀ text, firstText? (GoAny.arrayField result "content") = some text →
        ∀ value, rules.parse text = some value → value ≠ .nil) ∧
        ((∃ members, decodeTextPayload rules (.object result) = .decoded members) ∨
          ∃ error, decodeTextPayload rules (.object result) = .failed error) := by
  rw [decodeTextPayload]
  dsimp only
  rw [if_neg hflag]
  cases htext : firstText? (GoAny.arrayField result "content") with
  | none =>
    refine Or.inr ⟨fun text hno => ?_, Or.inr ⟨_, rfl⟩⟩
    cases hno
  | some text =>
    dsimp only
    have hsame : ∀ {P : String → Prop}, P text → ∀ other, some text = some other → P other :=
      fun hP other hother => Option.some.inj hother ▸ hP
    split
    next members hparse =>
      refine Or.inr ⟨hsame fun value hvalue => ?_, Or.inl ⟨members, rfl⟩⟩
      rintro rfl
      cases hparse.symm.trans hvalue
    next hparse => exact Or.inl ⟨⟨text, rfl, hparse⟩, rfl⟩
    next hobject hnil =>
      refine Or.inr ⟨hsame fun value hvalue => ?_, Or.inr ⟨_, rfl⟩⟩
      rintro rfl
      exact hnil hvalue

/-- Decoding fails closed exactly if an error has content, and no success is `null`. -/
theorem failsClosed_iff (rules : ToolResultRules Event) (rawResult rawEvents : GoAny) :
    FailsClosed rules rawResult rawEvents ↔ DecodableResult rules rawResult := by
  constructor
  · rintro h result rfl
    have htotal := h.total
    split_ifs with hflag
    · rcases @decodeTextPayload_flagged Event rules result hflag with ⟨-, hpanic⟩ | ⟨hne, -⟩
      · rw [hpanic] at htotal
        rcases htotal with ⟨members, hno⟩ | ⟨error, hno⟩ <;> cases hno
      · exact hne
    · rcases @decodeTextPayload_success Event rules result hflag with ⟨-, hnil⟩ | ⟨hnever, -⟩
      · rw [hnil] at htotal
        rcases htotal with ⟨members, hno⟩ | ⟨error, hno⟩ <;> cases hno
      · exact hnever
  · intro h
    have hflagged : IsFlagged rawResult →
        ∃ error, decodeTextPayload rules rawResult = .failed error := by
      rintro ⟨result, rfl, hflag⟩
      have hcontent := h result rfl
      rw [if_pos hflag] at hcontent
      rcases @decodeTextPayload_flagged Event rules result hflag with ⟨hnil, -⟩ | ⟨-, herror⟩
      · exact absurd hnil hcontent
      · exact herror
    refine ⟨?_, hflagged, fun events => parseRoomEvents_ok⟩
    by_cases hobject : ∃ result, rawResult = .object result
    · obtain ⟨result, rfl⟩ := hobject
      by_cases hflag : GoAny.boolField result "isError" = true
      · exact Or.inr (hflagged ⟨result, rfl, hflag⟩)
      · have htext := h result rfl
        rw [if_neg hflag] at htext
        rcases @decodeTextPayload_success Event rules result hflag with ⟨hnull, -⟩ | ⟨-, hdone⟩
        · obtain ⟨text, hfirst, hparse⟩ := hnull
          exact absurd rfl (htext text hfirst .nil hparse)
        · exact hdone
    · exact Or.inr ⟨_, decodeTextPayload_shape fun result heq => hobject ⟨result, heq⟩⟩

end

/-- Rules under which nothing is decoded. -/
def emptyRules : ToolResultRules Unit :=
  ⟨fun _ => none, fun _ => none, fun _ => .error "", fun _ => .error ""⟩

/-- An error without content takes the Runtime down. -/
theorem not_failsClosed_noContent :
    ¬FailsClosed emptyRules (.object [("isError", .bool true)]) .nil := by
  intro h
  rcases h.total with ⟨members, hno⟩ | ⟨error, hno⟩ <;> cases hno

end Free4Chat
