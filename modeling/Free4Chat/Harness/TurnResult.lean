import Free4Chat.Data.TextLines
import Free4Chat.Runtime.Ledger

/-!
# Turn Results

A Harness ends its reply with a control for the Runtime, if it has one: the targets of the reply, an
intent to leave, or a Generated App. The reply is written by a model, and may hold anything.

* `parseOutboundTargets`, `parseLifecycleIntent` and `parseOutboundResult`: the controls that are
  one line.
* `parseGeneratedAppOutput` and `parseHarnessTurnResult`: the whole reply.
* `HarnessTurnResult.WellParsed`: what the result of a reply should be.
-/

namespace Free4Chat

/-- A text, character by character. -/
abbrev Text := List Char

/-- The lines of a text. -/
def linesOf (text : Text) : List Text := text.splitOn '\n'

/-! ## Targets -/

/-- How the line of the targets begins. -/
def targetsEnvelopePrefix : Text := "[[free4chat:targets ".toList

/-- How the line of the targets ends. -/
def targetsEnvelopeSuffix : Text := "]]".toList

/-- How many targets a reply may have. -/
def maxOutboundTargets : ℕ := 8

/-- The length of the id of a target, in bytes. -/
def maxTargetIDLength : ℕ := 64

/-- The characters of the id of a target. -/
def isTargetIDChar (c : Char) : Bool :=
  ('a'.toNat ≤ c.toNat && c.toNat ≤ 'z'.toNat) || ('A'.toNat ≤ c.toNat && c.toNat ≤ 'Z'.toNat) ||
    ('0'.toNat ≤ c.toNat && c.toNat ≤ '9'.toNat) || c = '-' || c = '_' || c = '.' || c = ':'

/-- Whether a text is the id of a target. -/
def validTargetID (id : Text) : Bool :=
  !(id = [] || maxTargetIDLength < (String.ofList id).utf8ByteSize) && id.all isTargetIDChar

/-- The ids that are not duplicates, up to the limit. -/
def collectTargets (targets seen : List Text) : List Text → List Text
  | [] => targets
  | id :: ids =>
    if id ∈ seen then collectTargets targets seen ids
    else if targets.length = maxOutboundTargets then targets
    else collectTargets (targets ++ [id]) (id :: seen) ids

/-- The ids in the line of the targets, if the whole line is valid. -/
def envelopeIDs? (line : Text) : Option (List Text) :=
  if targetsEnvelopePrefix <+: line ∧ targetsEnvelopeSuffix <:+ line then
    let ids := ((line.take (line.length - targetsEnvelopeSuffix.length)).drop
      targetsEnvelopePrefix.length).splitOn ','
    if ids.all validTargetID then some ids else none
  else none

/-- The text before the last line. -/
def bodyOf (lines : List Text) : Text := (['\n'].intercalate lines.dropLast).trim isSpace

/-- `ParseOutboundTargets`. -/
def parseOutboundTargets (text : Text) : Text × List Text :=
  let trimmed := text.trim isSpace
  if trimmed = [] then ([], [])
  else
    let lines := linesOf trimmed
    match envelopeIDs? (lines.getLastD []) with
    | none => (trimmed, [])
    | some ids =>
      let targets := collectTargets [] [] ids
      if targets = [] then (trimmed, []) else (bodyOf lines, targets)

/-! ## Leaving -/

/-- What a Harness may ask the Runtime. -/
inductive LifecycleIntent where
  | none
  | leave
deriving DecidableEq

/-- The line of the intent to leave. -/
def lifecycleLeaveEnvelope : Text := "[[free4chat:lifecycle leave]]".toList

/-- `parseLifecycleIntent`. -/
def parseLifecycleIntent (text : Text) : Text × LifecycleIntent :=
  let trimmed := text.trim isSpace
  if trimmed = [] then ([], .none)
  else
    let lines := linesOf trimmed
    if lines.getLastD [] ≠ lifecycleLeaveEnvelope then (trimmed, .none) else (bodyOf lines, .leave)

/-- `ParseOutboundResult`. -/
def parseOutboundResult (text : Text) : Text × List Text × LifecycleIntent :=
  let (body, lifecycle) := parseLifecycleIntent text
  if lifecycle ≠ .none then
    if (parseOutboundTargets body).2 ≠ [] then (text.trim isSpace, [], .none)
    else (body, [], lifecycle)
  else
    let (body, targets) := parseOutboundTargets text
    if targets ≠ [] ∧ (parseLifecycleIntent body).2 ≠ .none then (text.trim isSpace, [], .none)
    else (body, targets, .none)

/-! ## Generated Apps -/

/-- How a Generated App begins. -/
def taskOutputOpen : Text := "[[free4chat:task-output generated-app]]".toList

/-- How a Generated App ends. -/
def taskOutputClose : Text := "[[/free4chat:task-output]]".toList

/-- `strings.Index`: where a text first occurs in another one. -/
def indexOf? (sub text : Text) : Option ℕ := text.tails.findIdx? fun tail => sub.isPrefixOf tail

/-- `parseGeneratedAppOutput`. Normalizing the document may fail. -/
def parseGeneratedAppOutput {Bundle : Type} (normalizeHTML : Text → Option Bundle) (text : Text) :
    Option (Text × Bundle) :=
  let trimmed := text.trim isSpace
  if ¬taskOutputClose <:+ trimmed then none
  else
    match indexOf? taskOutputOpen trimmed with
    | none => none
    | some start =>
      let behind := trimmed.drop (start + taskOutputOpen.length)
      if (indexOf? taskOutputOpen behind).isSome then none
      else
        let encoded := (behind.take (behind.length - taskOutputClose.length)).trim isSpace
        (normalizeHTML encoded).map fun bundle => ((trimmed.take start).trim isSpace, bundle)

/-! ## Replies -/

/-- The result of a reply. -/
structure HarnessTurnResult (Bundle : Type) where
  text : Text
  targetParticipantIDs : List Text := []
  lifecycleIntent : LifecycleIntent := .none
  generatedApp : Option Bundle := none
deriving DecidableEq

/-- Whether a marker of Task output is in a text. -/
def hasTaskOutputMarker (text : Text) : Bool :=
  (indexOf? taskOutputOpen text).isSome || (indexOf? taskOutputClose text).isSome

/-- `ParseHarnessTurnResult`. -/
def parseHarnessTurnResult {Bundle : Type} (normalizeHTML : Text → Option Bundle)
    (text : Text) (taskRequestID : String) : HarnessTurnResult Bundle :=
  let original := text.trim isSpace
  let app := if taskRequestID ≠ "" then parseGeneratedAppOutput normalizeHTML original else none
  match app with
  | none =>
    if hasTaskOutputMarker original then { text := original }
    else
      let (body, targets, lifecycle) := parseOutboundResult original
      { text := body, targetParticipantIDs := targets, lifecycleIntent := lifecycle }
  | some (before, bundle) =>
    let (body, targets, lifecycle) := parseOutboundResult before
    if targets ≠ [] ∨ lifecycle ≠ .none then { text := original }
    else { text := body, generatedApp := some bundle }

/-! ## What should hold -/

/-- The exact line of some targets. -/
def IsTargetsEnvelope (line : Text) (ids : List Text) : Prop :=
  line = targetsEnvelopePrefix ++ [','].intercalate ids ++ targetsEnvelopeSuffix ∧ ids ≠ [] ∧
    ∀ id ∈ ids, validTargetID id = true

/-- Whether a line is one of the controls. -/
def isControl (line : Text) : Bool := line = lifecycleLeaveEnvelope || (envelopeIDs? line).isSome

/-- The control lines in the block that ends a text, which has control lines and blank lines
only. -/
def controlLines (text : Text) : List Text :=
  ((linesOf (text.trim isSpace)).rtakeWhile fun line => isControl line || line.all isSpace).filter
    isControl

/-- The block that ends a text has both kinds of control lines. -/
def CombinesControls (text : Text) : Prop :=
  lifecycleLeaveEnvelope ∈ controlLines text ∧
    ∃ line ∈ controlLines text, (envelopeIDs? line).isSome = true

/-- A reply is parsed well: there is at most one control, in its exact form, the text is the whole
reply if there is none, and if the block that ends the reply combines controls there is none. -/
structure HarnessTurnResult.WellParsed {Bundle : Type} (text : Text) (taskRequestID : String)
    (result : HarnessTurnResult Bundle) : Prop where
  atMostOne : (result.targetParticipantIDs = [] ∨ result.lifecycleIntent = .none) ∧
    (result.generatedApp = none ∨
      result.targetParticipantIDs = [] ∧ result.lifecycleIntent = .none)
  targets : result.targetParticipantIDs ≠ [] → ∃ front ids line,
    linesOf (text.trim isSpace) = front ++ [line] ∧ IsTargetsEnvelope line ids ∧
      result.targetParticipantIDs = ids.eraseDups.take maxOutboundTargets
  leave : result.lifecycleIntent = .leave → ∃ front,
    linesOf (text.trim isSpace) = front ++ [lifecycleLeaveEnvelope]
  app : result.generatedApp ≠ none → taskRequestID ≠ "" ∧ ∃ before document,
    text.trim isSpace = before ++ taskOutputOpen ++ document ++ taskOutputClose ∧
      ∀ other rest, text.trim isSpace = other ++ taskOutputOpen ++ rest → other = before
  whole : result.targetParticipantIDs = [] → result.lifecycleIntent = .none →
    result.generatedApp = none → result.text = text.trim isSpace
  combination : CombinesControls text →
    result.targetParticipantIDs = [] ∧ result.lifecycleIntent = .none ∧
      result.generatedApp = none ∧ result.text = text.trim isSpace

end Free4Chat
