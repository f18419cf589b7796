import Free4Chat.Data.BufferedReader
import Mathlib.Data.Int.Notation

/-!
# The Protocol of Adapters

A capability adapter is a process that answers requests. Requests and responses are lines of JSON.
The process is not trusted: what it writes may be anything.

* `readProtocolFrame`: the next line.
* `decodeProtocolResponse`: the response in a line, if it is one to the request.
* `AdapterRules.judge`: how an exchange ends once something was read.
-/

namespace Free4Chat

/-- The longest line, in bytes, with its end. -/
def maxFrameBytes : ℕ := 65536

/-- The longest result, in bytes. -/
def maxResultBytes : ℕ := 4096

/-- The errors of capabilities. -/
inductive CapabilityError where
  | unknownCapability
  | unsupportedAction
  | invalidArgs
  | unavailable
  | timeout
  | tooLarge
  | malformedResponse
deriving DecidableEq

/-! ## Frames -/

/-- Whether a byte ends a line. -/
def isLineEnd (byte : UInt8) : Bool := byte = 10

/-- Why no line was read. -/
inductive FrameError where
  | tooLarge
  | malformed
  -- The process closed its output, or ended.
  | ended
deriving DecidableEq

/-- `readProtocolFrame`, after a part of the line was read. -/
def readProtocolFrameFrom (frame : List UInt8) (reader : BufferedReader UInt8) :
    Option (Except FrameError (List UInt8) × BufferedReader UInt8) :=
  match _hslice : reader.readSlice isLineEnd with
  | none => none
  | some ((part, how), rest) =>
    if maxFrameBytes < frame.length + part.length then some (.error .tooLarge, rest)
    else if how = .full then readProtocolFrameFrom (frame ++ part) rest
    else if how = .ended then some (.error .ended, rest)
    else if (frame ++ part).length < 2 then some (.error .malformed, rest)
    else some (.ok (frame ++ part).dropLast, rest)
termination_by maxFrameBytes - frame.length
decreasing_by
  rename_i hlimit hfull
  obtain ⟨-, -, hpart, -⟩ := BufferedReader.readSlice_eq_some _hslice
  rw [hfull] at hpart
  have hpos := List.length_pos_of_ne_nil hpart.1
  rw [List.length_append]
  omega

/-- The next line, if reading does not block. -/
def readProtocolFrame (reader : BufferedReader UInt8) :
    Option (Except FrameError (List UInt8) × BufferedReader UInt8) :=
  readProtocolFrameFrom [] reader

/-! ## Responses -/

/-- JSON as it is decoded. The members of an object come with their texts. -/
inductive GoJson where
  | null
  | string (value : String)
  -- The integer that a number denotes, if it is one.
  | number (int : Option ℤ)
  | object (members : List (String × List UInt8 × GoJson))
  | other

/-- A request of an adapter. -/
structure AdapterRequest where
  method : String
  capabilityID : String := ""
  action : String := ""
  args : List UInt8 := []
deriving DecidableEq

/-- How requests are written, how lines are read, and what a result must not match. -/
structure AdapterRules where
  -- `json.Marshal` of a request with an id.
  marshal : AdapterRequest → String → Option (List UInt8)
  -- What `json.Unmarshal` reads of a text.
  parse : List UInt8 → Option GoJson
  unsafeAdapterPayloadPattern : List UInt8 → Bool

/-- A response that was decoded. -/
structure ProtocolResponse where
  protocolVersion : ℤ := 0
  id : String := ""
  result : List UInt8 := []
  -- The code of the error, if there is one.
  error : Option String := none
deriving DecidableEq

/-- Decoding a member of an error into its code. -/
def decodeCode (code : String) (member : String × List UInt8 × GoJson) : Option String :=
  -- The names of fields are matched without case.
  if member.1.map Char.toLower = "code" then
    match member.2.2 with
    | .null => some code
    | .string value => some value
    | _ => none
  else some code

/-- Decoding a member of a response. `null` leaves what is there, but for results and errors. -/
def decodeMember (response : ProtocolResponse) (member : String × List UInt8 × GoJson) :
    Option ProtocolResponse :=
  if member.1 = "protocolVersion" then
    match member.2.2 with
    | .null => some response
    | .number (some int) => some { response with protocolVersion := int }
    | _ => none
  else if member.1 = "id" then
    match member.2.2 with
    | .null => some response
    | .string value => some { response with id := value }
    | _ => none
  else if member.1 = "result" then some { response with result := member.2.1 }
  else if member.1 = "error" then
    match member.2.2 with
    | .null => some { response with error := none }
    | .object members =>
      (members.foldlM decodeCode (response.error.getD "")).map fun code =>
        { response with error := some code }
    | _ => none
  else some response

/-- The text of the last member of a name. -/
def fieldOf (members : List (String × List UInt8 × GoJson)) (name : String) : Option (List UInt8) :=
  ((members.filter (·.1 = name)).getLast?).map (·.2.1)

/-- The fields that a response may have. -/
def responseFields : List String := ["protocolVersion", "id", "result", "error"]

/-- `decodeProtocolResponse`. -/
def decodeProtocolResponse (rules : AdapterRules) (frame : List UInt8) (expectedID : String) :
    Option ProtocolResponse :=
  match rules.parse frame with
  | some (.object members) =>
    if members.any (·.1 ∉ responseFields) then none
    else
      match members.foldlM decodeMember {} with
      | none => none
      | some response =>
        if response.protocolVersion ≠ 1 ∨ response.id ≠ expectedID ∨ response.id = "" then none
        else if (fieldOf members "result").isSome = (fieldOf members "error").isSome then none
        else
          match fieldOf members "error" with
          | some text =>
            match rules.parse text with
            | some (.object shape) =>
              if (shape.map Prod.fst).eraseDups.length ≠ 1 ∨ response.error.getD "" = "" then none
              else some response
            | _ => none
          | none =>
            if response.result = [] ∨ (rules.parse response.result).isNone then none
            else some response
  | _ => none

/-- `protocolErrorToRuntime`. -/
def protocolErrorToRuntime (code : String) : CapabilityError :=
  if code = "invalid_request" ∨ code = "invalid_args" then .invalidArgs
  else if code = "unsupported_method" ∨ code = "unsupported_action" then .unsupportedAction
  else if code = "unknown_capability" then .unknownCapability
  else if code = "too_large" then .tooLarge
  else if code = "unavailable" ∨ code = "internal" then .unavailable
  else .malformedResponse

/-! ## Exchanges -/

/-- How an exchange ends. -/
inductive ExchangeEnd where
  | notAlive
  | largeRequest
  | writeFailed
  | timeout
  | exited
  | readFailed (error : FrameError)
  | malformed
  | refused (code : String)
  | largeResult
  | unsafeResult
  | result (value : List UInt8)
deriving DecidableEq

namespace ExchangeEnd

/-- What the caller gets. -/
def outcome : ExchangeEnd → Except CapabilityError (List UInt8)
  | notAlive => .error .unavailable
  | largeRequest => .error .tooLarge
  | writeFailed => .error .unavailable
  | timeout => .error .timeout
  | exited => .error .unavailable
  | readFailed .tooLarge => .error .tooLarge
  | readFailed .malformed => .error .malformedResponse
  | readFailed .ended => .error .unavailable
  | malformed => .error .malformedResponse
  | refused code => .error (protocolErrorToRuntime code)
  | largeResult => .error .tooLarge
  | unsafeResult => .error .malformedResponse
  | result value => .ok value

/-- Whether the process is ended with the exchange. -/
def fails : ExchangeEnd → Bool
  | notAlive | largeRequest | result _ => false
  | refused code => protocolErrorToRuntime code = .malformedResponse
  | _ => true

end ExchangeEnd

/-- How an exchange ends once something was read, or reading failed. -/
def AdapterRules.judge (rules : AdapterRules) (id : String) :
    Except FrameError (List UInt8) → ExchangeEnd
  | .error error => .readFailed error
  | .ok frame =>
    match decodeProtocolResponse rules frame id with
    | none => .malformed
    | some response =>
      match response.error with
      | some code => .refused code
      | none =>
        if maxResultBytes < response.result.length then .largeResult
        else if rules.unsafeAdapterPayloadPattern response.result then .unsafeResult
        else .result response.result

end Free4Chat
