import Free4Chat.Data.KeyedMap
import Free4Chat.Data.SharedQuota

/-!
# Enrichment of Turns

Before a turn the Runtime reads the attachments of its events. First the attachments that the
events refer to in collaborations are resolved, and then those that stand alone. They share the
bounds of the turn.

* `ReadAttachment`: any behaviour of the Room.
* `TurnEnrichment`: what is counted and cached during a turn.
* `enrichTurnAttachments`: the two passes.
* `WellEnriched`: what should hold of the events of a turn.
-/

namespace Free4Chat

/-- How many images a turn has. -/
def maxImagesPerTurn : ℕ := 2

/-- How long the texts of a turn are together, in bytes. -/
def maxTextFileChars : ℕ := 32000

/-! ## Attachments -/

/-- What is read of an attachment. A text is given in bytes. -/
structure AttachmentRead where
  fileName : String
  data : String
  mimeType : String
  text : List UInt8
deriving DecidableEq

/-- What comes of reading an attachment: the attachment, or a message. -/
abbrev Resolution := Except String AttachmentRead

/-- How the Room answers, given what it was asked and answered before. -/
abbrev ReadAttachment := List (String × Resolution) → String → Resolution

/-- A text that is shown inline. -/
structure TextFileContent where
  fileName : String
  mimeType : String
  content : List UInt8
deriving DecidableEq

/-- An image that is shown. -/
structure HarnessImage where
  data : String
  mimeType : String
deriving DecidableEq

/-- An attachment that a collaboration refers to. -/
structure HarnessReferencedAttachment where
  id : String
  fileName : String := ""
  mimeType : String := ""
  textFile : Option TextFileContent := none
  image : Option HarnessImage := none
  unavailable : Bool := false
deriving DecidableEq

/-- What is known of an attachment that stands alone. -/
structure StandaloneAttachment where
  id : String
  fileName : String
  mimeType : String
deriving DecidableEq

/-- An event of a turn before it is enriched. It has no contents yet. -/
structure TurnEvent where
  -- The attachments that the collaboration of the event refers to, if it is one.
  collab : Option (List String)
  attachment : Option StandaloneAttachment
deriving DecidableEq

/-- The attachments that an event refers to. -/
def TurnEvent.attachmentIDs (event : TurnEvent) : List String := event.collab.getD []

/-- An event of a turn. -/
structure EnrichedEvent extends TurnEvent where
  referencedAttachments : List HarnessReferencedAttachment
  textFile : Option TextFileContent
  image : Option HarnessImage
deriving DecidableEq

/-- The first of some texts that is not empty. -/
def firstNonEmpty (values : List String) : String := (values.find? (· ≠ "")).getD ""

/-! ## Enrichment -/

/-- What is counted and cached during a turn. -/
structure TurnEnrichment where
  imageCount : ℕ := 0
  textChars : ℕ := 0
  cache : KeyedMap (String × Resolution) := .empty
  explicitAttachmentIDs : List String := []
  -- What the Room was asked, and its answers.
  calls : List (String × Resolution) := []
  -- What was reported as unavailable.
  reported : List (String × String) := []

namespace TurnEnrichment

variable (readAttachment : ReadAttachment) (imagesSupported : Bool) (s : TurnEnrichment)

/-- An attachment is read, unless it is in the cache. -/
def resolve (attachmentID : String) : Resolution × TurnEnrichment :=
  match s.cache.get? attachmentID with
  | some cached => (cached.2, s)
  | none =>
    let result := readAttachment s.calls attachmentID
    (result,
      { s with
        cache := s.cache.set (attachmentID, result)
        calls := s.calls ++ [(attachmentID, result)] })

/-- `reportUnavailable`. -/
def reportUnavailable (attachmentID message : String) : TurnEnrichment :=
  { s with reported := s.reported ++ [(attachmentID, message)] }

/-- A text is cut to what is left of the bound. -/
def addText (fileName mimeType : String) (content : List UInt8) :
    Option TextFileContent × TurnEnrichment :=
  if maxTextFileChars ≤ s.textChars then (none, s)
  else
    let cut := content.take (maxTextFileChars - s.textChars)
    (some ⟨fileName, mimeType, cut⟩, { s with textChars := s.textChars + cut.length })

/-- Whether another image is shown. -/
def takesImage : Bool := imagesSupported && s.imageCount < maxImagesPerTurn

/-- An attachment that is referred to is resolved. -/
def resolveReference (attachmentID : String) : HarnessReferencedAttachment × TurnEnrichment :=
  match s.resolve readAttachment attachmentID with
  | (.error message, s) =>
    ({ id := attachmentID, unavailable := true }, s.reportUnavailable attachmentID message)
  | (.ok attachment, s) =>
    let referenced : HarnessReferencedAttachment :=
      { id := attachmentID
        fileName := firstNonEmpty [attachment.fileName, attachmentID]
        mimeType := attachment.mimeType }
    if attachment.text ≠ [] then
      let (file, s) := s.addText referenced.fileName attachment.mimeType attachment.text
      ({ referenced with textFile := file, unavailable := file.isNone }, s)
    else if attachment.data ≠ "" then
      if s.takesImage imagesSupported then
        ({ referenced with image := some ⟨attachment.data, attachment.mimeType⟩ },
          { s with imageCount := s.imageCount + 1 })
      else (referenced, s)
    else
      ({ referenced with unavailable := true },
        s.reportUnavailable attachmentID "attachment content is unavailable")

/-- The attachments that an event refers to are resolved, each once. -/
def resolveReferences (seen : List String) :
    TurnEnrichment → List String → List HarnessReferencedAttachment × TurnEnrichment
  | s, [] => ([], s)
  | s, attachmentID :: ids =>
    let s := { s with explicitAttachmentIDs := attachmentID :: s.explicitAttachmentIDs }
    if attachmentID ∈ seen then resolveReferences seen s ids
    else
      let (referenced, s) := s.resolveReference readAttachment imagesSupported attachmentID
      let (rest, s) := resolveReferences (attachmentID :: seen) s ids
      (referenced :: rest, s)

/-- The first pass. -/
def resolveCollabAttachments :
    TurnEnrichment → List TurnEvent → List (List HarnessReferencedAttachment) × TurnEnrichment
  | s, [] => ([], s)
  | s, event :: events =>
    let (referenced, s) :=
      resolveReferences readAttachment imagesSupported [] s event.attachmentIDs
    let (rest, s) := resolveCollabAttachments s events
    (referenced :: rest, s)

/-- An attachment that stands alone is resolved. -/
def resolveStandalone (attachment : StandaloneAttachment) :
    (Option TextFileContent × Option HarnessImage) × TurnEnrichment :=
  if attachment.id ∈ s.explicitAttachmentIDs then ((none, none), s)
  else
    match s.resolve readAttachment attachment.id with
    | (.error message, s) => ((none, none), s.reportUnavailable attachment.id message)
    | (.ok read, s) =>
      if read.text ≠ [] then
        let (file, s) := s.addText
          (firstNonEmpty [read.fileName, attachment.fileName, attachment.id])
          (firstNonEmpty [read.mimeType, attachment.mimeType]) read.text
        ((file, none), s)
      else if read.data ≠ "" ∧ s.takesImage imagesSupported then
        ((none, some ⟨read.data, firstNonEmpty [read.mimeType, attachment.mimeType]⟩),
          { s with imageCount := s.imageCount + 1 })
      else ((none, none), s)

/-- What is shown for the attachment of an event, if it has one. -/
def showAttachment (event : TurnEvent) :
    (Option TextFileContent × Option HarnessImage) × TurnEnrichment :=
  match event.attachment with
  | none => ((none, none), s)
  | some attachment => s.resolveStandalone readAttachment imagesSupported attachment

/-- The second pass. -/
def resolveAttachments : TurnEnrichment →
    List (TurnEvent × List HarnessReferencedAttachment) → List EnrichedEvent × TurnEnrichment
  | s, [] => ([], s)
  | s, (event, referenced) :: events =>
    let (shown, s) := s.showAttachment readAttachment imagesSupported event
    let (rest, s) := resolveAttachments s events
    (⟨event, referenced, shown.1, shown.2⟩ :: rest, s)

end TurnEnrichment

/-- `EnrichTurnAttachments`. Images are supported, unless the options say that they are not. -/
def enrichTurnAttachments (readAttachment : ReadAttachment) (imagesSupported : Option Bool)
    (events : List TurnEvent) : List EnrichedEvent × TurnEnrichment :=
  let (referenced, s) := TurnEnrichment.resolveCollabAttachments readAttachment
    (imagesSupported.getD true) {} events
  TurnEnrichment.resolveAttachments readAttachment (imagesSupported.getD true) s
    (events.zip referenced)

/-! ## What should hold -/

/-- A text is valid UTF-8. -/
def ValidUTF8 (text : List UInt8) : Prop :=
  ∃ cs : List Char, text = cs.flatMap String.utf8EncodeChar

/-- The content of a text that may be shown. -/
def contentOf (file : Option TextFileContent) : List UInt8 :=
  (file.map TextFileContent.content).getD []

/-- The contents that are shown for an event. -/
def EnrichedEvent.contents (event : EnrichedEvent) : List (List UInt8) :=
  event.referencedAttachments.map (contentOf ·.textFile) ++ [contentOf event.textFile]

/-- The images that are shown for an event. -/
def EnrichedEvent.images (event : EnrichedEvent) : List HarnessImage :=
  event.referencedAttachments.filterMap (·.image) ++ event.image.toList

/-- A text is a prefix of what was read of an attachment, and valid if that is. -/
def ShowsText (calls : List (String × Resolution)) (id : String) (file : TextFileContent) : Prop :=
  ∃ read, (id, Except.ok read) ∈ calls ∧ file.content <+: read.text ∧
    (ValidUTF8 read.text → ValidUTF8 file.content)

/-- A turn is enriched well: its texts and its images are bounded, each attachment is read once at
most, an attachment that is referred to does not stand alone, each reference has one entry, texts
are intact prefixes of what was read, and what is shown for references does not depend on the
attachments that stand alone. -/
structure WellEnriched (readAttachment : ReadAttachment) (imagesSupported : Option Bool)
    (events : List TurnEvent) : Prop where
  sameEvents :
    (enrichTurnAttachments readAttachment imagesSupported events).1.map (·.toTurnEvent) = events
  textBound : ((enrichTurnAttachments readAttachment imagesSupported events).1.flatMap
    EnrichedEvent.contents).flatten.length ≤ maxTextFileChars
  imageBound : ((enrichTurnAttachments readAttachment imagesSupported events).1.flatMap
    EnrichedEvent.images).length ≤ if imagesSupported = some false then 0 else maxImagesPerTurn
  readOnce : ((enrichTurnAttachments readAttachment imagesSupported events).2.calls.map
    Prod.fst).Nodup
  notStandalone : ∀ event ∈ (enrichTurnAttachments readAttachment imagesSupported events).1,
    ∀ attachment ∈ event.attachment, (∃ other ∈ events, attachment.id ∈ other.attachmentIDs) →
      event.textFile = none ∧ event.image = none
  references : (enrichTurnAttachments readAttachment imagesSupported events).1.map
    (fun event => event.referencedAttachments.map (·.id)) =
      events.map fun event => event.attachmentIDs.eraseDups
  referencedTexts : ∀ event ∈ (enrichTurnAttachments readAttachment imagesSupported events).1,
    ∀ referenced ∈ event.referencedAttachments, ∀ file ∈ referenced.textFile,
      ShowsText (enrichTurnAttachments readAttachment imagesSupported events).2.calls
        referenced.id file
  standaloneTexts : ∀ event ∈ (enrichTurnAttachments readAttachment imagesSupported events).1,
    ∀ file ∈ event.textFile, ∃ attachment, event.attachment = some attachment ∧
      ShowsText (enrichTurnAttachments readAttachment imagesSupported events).2.calls
        attachment.id file
  independent : ∀ others : List TurnEvent, others.map (·.collab) = events.map (·.collab) →
    (enrichTurnAttachments readAttachment imagesSupported others).1.map (·.referencedAttachments) =
      (enrichTurnAttachments readAttachment imagesSupported events).1.map
        (·.referencedAttachments)

end Free4Chat
