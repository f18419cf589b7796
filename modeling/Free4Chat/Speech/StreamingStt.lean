import Mathlib.Data.List.Infix

/-!
# Streaming Speech Recognition

What crosses the boundary between the Runtime and a provider of speech recognition.

* `AudioFrame`: a piece of audio.
* `SttEvent`: what a session of the provider recognizes.
-/

namespace Free4Chat

/-- A piece of audio. -/
structure AudioFrame where
  codec : String
  data : List UInt8
deriving DecidableEq

/-- A failure of the provider, without secrets. -/
structure SttError where
  code : String
  message : String
  retryable : Bool := false
deriving DecidableEq

/-- What kind of thing was recognized. -/
inductive SttEventType where
  | speechStarted
  | partialText
  | committed
  | speechEnded
  | error
deriving DecidableEq

/-- One event of a session. -/
structure SttEvent where
  type : SttEventType
  text : String := ""
  timestampMs : Option ℤ := none
  error : Option SttError := none
deriving DecidableEq

end Free4Chat
