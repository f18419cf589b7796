import Free4Chat.Data.ListFilterMap
import Free4Chat.Runtime.Enrichment

/-!
# The Budget of a Turn

When a turn is enriched well. A text that exceeds what is left of the bound is cut at a byte, which
may be within a character: a turn is enriched well exactly if each cut keeps valid texts valid.

* `chargedIDs` and `readings`: what is charged, and what is read of it, in order.
* `TurnEnrichment.Charged`: what a part of the enrichment charges.
* `wellEnriched_iff`: when a turn is enriched well.
-/

namespace Free4Chat

/-! ## What is charged -/

/-- What is read of some attachments, each once. -/
def readings (readAttachment : ReadAttachment) :
    List (String × Resolution) → List String → List (String × Resolution)
  | calls, [] => calls
  | calls, id :: ids =>
    if id ∈ calls.map Prod.fst then readings readAttachment calls ids
    else readings readAttachment (calls ++ [(id, readAttachment calls id)]) ids

/-- The text of what is read. One that cannot be read counts as empty. -/
def textOf : Resolution → List UInt8
  | .ok read => read.text
  | .error _ => []

/-- The text of an attachment that was read. -/
def textIn (calls : List (String × Resolution)) (id : String) : List UInt8 :=
  ((calls.lookup id).map textOf).getD []

/-- The attachments that stand alone, and are not referred to. -/
def standaloneIDs (events : List TurnEvent) : List String :=
  ((events.filterMap (·.attachment)).map (·.id)).filter fun id =>
    decide (id ∉ events.flatMap TurnEvent.attachmentIDs)

/-- What is charged: what each event refers to, and then what stands alone. -/
def chargedIDs (events : List TurnEvent) : List String :=
  events.flatMap (fun event => event.attachmentIDs.eraseDups) ++ standaloneIDs events

/-- The texts that are charged. -/
def chargedTexts (readAttachment : ReadAttachment) (events : List TurnEvent) :
    List (List UInt8) :=
  (chargedIDs events).map (textIn (readings readAttachment [] (chargedIDs events)))

section

variable {readAttachment : ReadAttachment} {calls final : List (String × Resolution)}
  {id : String} {ids others : List String}

lemma prefix_readings (calls : List (String × Resolution)) (ids : List String) :
    calls <+: readings readAttachment calls ids := by
  induction ids generalizing calls with
  | nil => exact List.prefix_refl _
  | cons id ids ih =>
    rw [readings]
    split
    · exact ih calls
    · exact (List.prefix_append _ _).trans (ih _)

lemma readings_append (calls : List (String × Resolution)) (ids others : List String) :
    readings readAttachment calls (ids ++ others) =
      readings readAttachment (readings readAttachment calls ids) others := by
  induction ids generalizing calls with
  | nil => rfl
  | cons id ids ih =>
    rw [List.cons_append, readings, readings]
    split
    · exact ih calls
    · exact ih _

lemma lookup_mono {result : Resolution} (hfinal : calls <+: final)
    (h : calls.lookup id = some result) : final.lookup id = some result := by
  obtain ⟨more, rfl⟩ := hfinal
  rw [List.lookup_append, h, Option.some_or]

lemma mem_of_lookup {result : Resolution} (h : calls.lookup id = some result) :
    (id, result) ∈ calls := by
  obtain ⟨before, behind, rfl, -⟩ := List.lookup_eq_some_iff.mp h
  exact List.mem_append_right _ List.mem_cons_self

end

/-! ## Charging -/

namespace TurnEnrichment

variable {readAttachment : ReadAttachment} {imagesSupported : Bool}
  {s s' s'' : TurnEnrichment} {id : String}
  {slots more : List (String × Option TextFileContent)} {images others : List HarnessImage}

/-- What is in the cache is what was read. -/
def Cached (s : TurnEnrichment) : Prop := s.cache.values = s.calls

variable (readAttachment imagesSupported) in
/-- A part of the enrichment that charges some slots, and shows some images. -/
structure Charged (s s' : TurnEnrichment) (slots : List (String × Option TextFileContent))
    (images : List HarnessImage) : Prop where
  cached : s.Cached → s'.Cached
  calls : s.Cached → s'.calls = readings readAttachment s.calls (slots.map Prod.fst)
  -- Whatever is read later on, the texts are cut to what was left.
  contents : s.Cached → ∀ final, s'.calls <+: final → slots.map (fun slot => contentOf slot.2) =
    List.cutAll (maxTextFileChars - s.textChars) (slots.map fun slot => textIn final slot.1)
  left : s.Cached → ∀ final, s'.calls <+: final → maxTextFileChars - s'.textChars =
    maxTextFileChars - s.textChars - (slots.map fun slot => textIn final slot.1).flatten.length
  found : s.Cached → ∀ slot ∈ slots, slot.2 ≠ none → ∃ read,
    s'.calls.lookup slot.1 = some (.ok read)
  imageCount : s'.imageCount = s.imageCount + images.length
  bound : s.imageCount ≤ maxImagesPerTurn → s'.imageCount ≤ maxImagesPerTurn
  supported : imagesSupported = false → images = []

namespace Charged

lemma nil : Charged readAttachment imagesSupported s s [] [] :=
  { cached := id
    calls := fun _ => rfl
    contents := fun _ _ _ => rfl
    left := fun _ _ _ => (Nat.sub_zero _).symm
    found := fun _ _ hmem => absurd hmem List.not_mem_nil
    imageCount := rfl
    bound := id
    supported := fun _ => rfl }

lemma calls_mono (h : Charged readAttachment imagesSupported s s' slots images)
    (hs : s.Cached) : s.calls <+: s'.calls := by
  rw [h.calls hs]
  exact prefix_readings _ _

lemma append (h : Charged readAttachment imagesSupported s s' slots images)
    (h' : Charged readAttachment imagesSupported s' s'' more others) :
    Charged readAttachment imagesSupported s s'' (slots ++ more) (images ++ others) :=
  { cached := fun hs => h'.cached (h.cached hs)
    calls := fun hs => by
      rw [h'.calls (h.cached hs), h.calls hs, List.map_append, readings_append]
    contents := fun hs final hfinal => by
      have hmiddle := (h'.calls_mono (h.cached hs)).trans hfinal
      rw [List.map_append, List.map_append, List.cutAll_append, h.contents hs final hmiddle,
        h'.contents (h.cached hs) final hfinal, h.left hs final hmiddle]
    left := fun hs final hfinal => by
      have hmiddle := (h'.calls_mono (h.cached hs)).trans hfinal
      rw [h'.left (h.cached hs) final hfinal, h.left hs final hmiddle, List.map_append,
        List.flatten_append, List.length_append, Nat.sub_sub]
    found := fun hs slot hmem hslot => by
      rcases List.mem_append.mp hmem with hmem | hmem
      · obtain ⟨read, hread⟩ := h.found hs slot hmem hslot
        exact ⟨read, lookup_mono (h'.calls_mono (h.cached hs)) hread⟩
      · exact h'.found (h.cached hs) slot hmem hslot
    imageCount := by
      rw [h'.imageCount, h.imageCount, List.length_append, Nat.add_assoc]
    bound := fun hs => h'.bound (h.bound hs)
    supported := fun hno => by rw [h.supported hno, h'.supported hno, List.append_nil] }

end Charged

lemma lookup_calls (hs : s.Cached) (id : String) :
    s.calls.lookup id = (s.cache.get? id).map Prod.snd := by
  rw [← hs, KeyedMap.get?]
  generalize s.cache.values = entries
  induction entries with
  | nil => rfl
  | cons entry entries ih =>
    rw [List.lookup_cons, List.find?_cons]
    by_cases hid : entry.1 = id
    · rw [decide_eq_true (show Keyed.key entry = id from hid), beq_iff_eq.mpr hid.symm]
      rfl
    · rw [decide_eq_false (show ¬Keyed.key entry = id from hid),
        beq_eq_false_iff_ne.mpr (Ne.symm hid)]
      exact ih

lemma resolve_calls (hs : s.Cached) (id : String) : (s.resolve readAttachment id).2.Cached ∧
      (s.resolve readAttachment id).2.calls = readings readAttachment s.calls [id] ∧
      (s.resolve readAttachment id).2.calls.lookup id =
        some (s.resolve readAttachment id).1 := by
  have hlookup := lookup_calls hs id
  rw [resolve]
  cases hget : s.cache.get? id with
  | some cached =>
    rw [hget] at hlookup
    have hmem : id ∈ s.calls.map Prod.fst :=
      List.mem_map.mpr ⟨(id, cached.2), mem_of_lookup hlookup, rfl⟩
    refine ⟨hs, ?_, hlookup⟩
    rw [readings, if_pos hmem, readings]
  | none =>
    rw [hget] at hlookup
    have hnot : id ∉ s.calls.map Prod.fst := by
      intro hmem
      obtain ⟨call, hcall, rfl⟩ := List.mem_map.mp hmem
      have hne := List.lookup_eq_none_iff.mp hlookup call hcall
      rw [bne_self_eq_false] at hne
      cases hne
    have hkeys : id ∉ s.cache.keys := by
      rw [KeyedMap.keys, hs]
      exact hnot
    refine ⟨?_, ?_, ?_⟩
    · show (s.cache.set (id, readAttachment s.calls id)).values = _
      rw [KeyedMap.values_set_of_notMem hkeys, hs]
    · rw [readings, if_neg hnot, readings]
    · show (s.calls ++ [(id, readAttachment s.calls id)]).lookup id = _
      rw [List.lookup_append, hlookup, Option.map_none, Option.none_or, List.lookup_cons_self]

lemma resolve_counts (s : TurnEnrichment) (id : String) :
    (s.resolve readAttachment id).2.textChars = s.textChars ∧
      (s.resolve readAttachment id).2.imageCount = s.imageCount ∧
      (s.resolve readAttachment id).2.explicitAttachmentIDs = s.explicitAttachmentIDs := by
  rw [resolve]
  split <;> exact ⟨rfl, rfl, rfl⟩

lemma Charged.slot {file : Option TextFileContent}
    (hcache : s'.cache = (s.resolve readAttachment id).2.cache)
    (hcalls : s'.calls = (s.resolve readAttachment id).2.calls) (hcontent : contentOf file =
      (textOf (s.resolve readAttachment id).1).take (maxTextFileChars - s.textChars))
    (hleft : maxTextFileChars - s'.textChars = maxTextFileChars - s.textChars -
      (textOf (s.resolve readAttachment id).1).length)
    (hfound : file ≠ none → ∃ read, (s.resolve readAttachment id).1 = .ok read)
    (himages : s'.imageCount = s.imageCount + images.length)
    (hbound : s.imageCount ≤ maxImagesPerTurn → s'.imageCount ≤ maxImagesPerTurn)
    (hsupported : imagesSupported = false → images = []) :
    Charged readAttachment imagesSupported s s' [(id, file)] images := by
  have htext : s.Cached → ∀ final, s'.calls <+: final →
      textIn final id = textOf (s.resolve readAttachment id).1 := by
    intro hs final hfinal
    rw [hcalls] at hfinal
    rw [textIn, lookup_mono hfinal (resolve_calls hs id).2.2]
    rfl
  exact
    { cached := fun hs => by
        rw [Cached, hcache, hcalls]
        exact (resolve_calls hs id).1
      calls := fun hs => hcalls.trans (resolve_calls hs id).2.1
      contents := fun hs final hfinal => by
        rw [List.map_singleton, List.map_singleton, List.cutAll, List.cutAll, htext hs final hfinal,
          hcontent]
      left := fun hs final hfinal => by
        rw [hleft, List.map_singleton, List.flatten_singleton, htext hs final hfinal]
      found := fun hs slot hmem hslot => by
        obtain rfl := List.mem_singleton.mp hmem
        obtain ⟨read, hread⟩ := hfound hslot
        exact ⟨read, by rw [hcalls, (resolve_calls hs id).2.2, hread]⟩
      imageCount := himages
      bound := hbound
      supported := hsupported }

lemma addText_charges (s : TurnEnrichment) (fileName mimeType : String) (content : List UInt8) :
    contentOf (s.addText fileName mimeType content).1 =
        content.take (maxTextFileChars - s.textChars) ∧
      maxTextFileChars - (s.addText fileName mimeType content).2.textChars =
        maxTextFileChars - s.textChars - content.length ∧
      (s.addText fileName mimeType content).2 =
        { s with textChars := (s.addText fileName mimeType content).2.textChars } := by
  rw [addText]
  split
  next hfull =>
    have hnone : maxTextFileChars - s.textChars = 0 := by omega
    refine ⟨?_, ?_, rfl⟩
    · rw [hnone, List.take_zero]
      rfl
    · rw [hnone, Nat.zero_sub]
  next hroom =>
    refine ⟨rfl, ?_, rfl⟩
    dsimp only
    rw [List.length_take]
    omega

lemma Charged.slot_none {result : Resolution}
    (hresolve : s.resolve readAttachment id = (result, s')) (htext : textOf result = [])
    (hcache : s''.cache = s'.cache) (hcalls : s''.calls = s'.calls)
    (hchars : s''.textChars = s'.textChars)
    (himages : s''.imageCount = s'.imageCount + images.length)
    (hbound : s'.imageCount ≤ maxImagesPerTurn → s''.imageCount ≤ maxImagesPerTurn)
    (hsupported : imagesSupported = false → images = []) :
    Charged readAttachment imagesSupported s s'' [(id, none)] images := by
  have hcounts := @resolve_counts readAttachment s id
  rw [hresolve] at hcounts
  obtain ⟨hsame, hcount, -⟩ := hcounts
  refine Charged.slot ?_ ?_ ?_ ?_ (fun hne => absurd rfl hne) ?_ ?_ hsupported
  · rw [hresolve, hcache]
  · rw [hresolve, hcalls]
  · rw [hresolve, htext, List.take_nil]
    rfl
  · rw [hresolve, htext, hchars, hsame, List.length_nil, Nat.sub_zero]
  · rw [himages, hcount]
  · rw [← hcount]
    exact hbound

lemma Charged.slot_text {read : AttachmentRead} {fileName mimeType : String}
    (hresolve : s.resolve readAttachment id = (.ok read, s')) :
    Charged readAttachment imagesSupported s (s'.addText fileName mimeType read.text).2
      [(id, (s'.addText fileName mimeType read.text).1)] [] := by
  have hcounts := @resolve_counts readAttachment s id
  rw [hresolve] at hcounts
  obtain ⟨hsame, hcount, -⟩ := hcounts
  obtain ⟨hcontent, hleft, hrest⟩ := addText_charges s' fileName mimeType read.text
  refine Charged.slot ?_ ?_ ?_ ?_ (fun _ => ⟨read, ?_⟩) ?_ ?_ fun _ => rfl
  · rw [hresolve, hrest]
  · rw [hresolve, hrest]
  · rw [hresolve, hcontent, hsame]
    rfl
  · rw [hresolve, hleft, hsame]
    rfl
  · rw [hresolve]
  · rw [hrest, hcount]
    rfl
  · rw [hrest, hcount]
    exact fun h => h

lemma takesImage_eq_true (h : s.takesImage imagesSupported = true) :
    imagesSupported = true ∧ s.imageCount + 1 ≤ maxImagesPerTurn := by
  rw [takesImage, Bool.and_eq_true, decide_eq_true_eq] at h
  exact h

lemma charged_resolveReference (s : TurnEnrichment) (id : String) :
    Charged readAttachment imagesSupported s
        (s.resolveReference readAttachment imagesSupported id).2
        [(id, (s.resolveReference readAttachment imagesSupported id).1.textFile)]
        (s.resolveReference readAttachment imagesSupported id).1.image.toList ∧
      (s.resolveReference readAttachment imagesSupported id).1.id = id ∧
      (s.resolveReference readAttachment imagesSupported id).2.explicitAttachmentIDs =
        s.explicitAttachmentIDs := by
  have hcounts := @resolve_counts readAttachment s id
  rw [resolveReference]
  rcases hresolve : s.resolve readAttachment id with ⟨_ | read, s'⟩
  · rw [hresolve] at hcounts
    exact ⟨.slot_none hresolve rfl rfl rfl rfl rfl (fun h => h) fun _ => rfl, rfl, hcounts.2.2⟩
  · rw [hresolve] at hcounts
    dsimp only
    split_ifs with htext hdata himage
    · obtain ⟨-, -, hrest⟩ :=
        addText_charges s' (firstNonEmpty [read.fileName, id]) read.mimeType read.text
      refine ⟨.slot_text hresolve, rfl, ?_⟩
      rw [hrest]
      exact hcounts.2.2
    · obtain ⟨hyes, hbound⟩ := takesImage_eq_true himage
      refine ⟨.slot_none hresolve (not_not.mp htext) rfl rfl rfl rfl (fun _ => hbound) ?_, rfl,
        hcounts.2.2⟩
      intro hno
      rw [hyes] at hno
      cases hno
    · exact ⟨.slot_none hresolve (not_not.mp htext) rfl rfl rfl rfl (fun h => h) fun _ => rfl, rfl,
        hcounts.2.2⟩
    · exact ⟨.slot_none hresolve (not_not.mp htext) rfl rfl rfl rfl (fun h => h) fun _ => rfl, rfl,
        hcounts.2.2⟩

/-! ### The first pass -/

/-- What references charge, and show. -/
def referenceSlots (referenced : List HarnessReferencedAttachment) :
    List (String × Option TextFileContent) :=
  referenced.map fun reference => (reference.id, reference.textFile)

lemma Charged.of_explicit {explicit : List String}
    (h : Charged readAttachment imagesSupported { s with explicitAttachmentIDs := explicit } s'
      slots images) : Charged readAttachment imagesSupported s s' slots images :=
  { cached := h.cached
    calls := h.calls
    contents := h.contents
    left := h.left
    found := h.found
    imageCount := h.imageCount
    bound := h.bound
    supported := h.supported }

lemma charged_resolveReferences (seen : List String) (s : TurnEnrichment) (ids : List String) :
    Charged readAttachment imagesSupported s
        (resolveReferences readAttachment imagesSupported seen s ids).2
        (referenceSlots (resolveReferences readAttachment imagesSupported seen s ids).1)
        ((resolveReferences readAttachment imagesSupported seen s ids).1.filterMap (·.image)) ∧
      (resolveReferences readAttachment imagesSupported seen s ids).1.map (·.id) =
        (ids.filter fun id => decide (id ∉ seen)).eraseDups ∧
      ∀ id, id ∈ (resolveReferences readAttachment imagesSupported seen s
          ids).2.explicitAttachmentIDs ↔ id ∈ ids ∨ id ∈ s.explicitAttachmentIDs := by
  induction ids generalizing seen s with
  | nil =>
    refine ⟨.nil, rfl, fun id => ?_⟩
    rw [resolveReferences]
    exact (or_iff_right List.not_mem_nil).symm
  | cons first ids ih =>
    rw [resolveReferences]
    dsimp only
    have hnoted : ∀ id, id ∈ ids ∨ id ∈ first :: s.explicitAttachmentIDs ↔
        id ∈ first :: ids ∨ id ∈ s.explicitAttachmentIDs := by
      intro id
      rw [List.mem_cons, List.mem_cons]
      tauto
    split_ifs with hseen
    · obtain ⟨hcharged, hids, hexplicit⟩ :=
        ih seen { s with explicitAttachmentIDs := first :: s.explicitAttachmentIDs }
      refine ⟨hcharged.of_explicit, ?_, fun id => (hexplicit id).trans (hnoted id)⟩
      rw [hids, List.filter_cons, if_neg (by rwa [decide_eq_true_eq, not_not])]
    · obtain ⟨hfirst, hid, hsame⟩ := @charged_resolveReference readAttachment imagesSupported
        { s with explicitAttachmentIDs := first :: s.explicitAttachmentIDs } first
      obtain ⟨hrest, hids, hexplicit⟩ := ih (first :: seen)
        (resolveReference readAttachment imagesSupported
          { s with explicitAttachmentIDs := first :: s.explicitAttachmentIDs } first).2
      refine ⟨?_, ?_, fun id => ?_⟩
      · rw [List.filterMap_cons_toList, referenceSlots, List.map_cons, hid]
        exact hfirst.of_explicit.append hrest
      · rw [List.map_cons, hid, hids, List.filter_cons, if_pos (decide_eq_true hseen),
          List.eraseDups_cons, List.filter_unseen ids fun id => List.mem_cons]
      · rw [hexplicit id, hsame]
        exact hnoted id

lemma charged_resolveCollabAttachments (s : TurnEnrichment) (events : List TurnEvent) :
    Charged readAttachment imagesSupported s
        (resolveCollabAttachments readAttachment imagesSupported s events).2
        ((resolveCollabAttachments readAttachment imagesSupported s events).1.flatMap
          referenceSlots)
        ((resolveCollabAttachments readAttachment imagesSupported s events).1.flatMap
          fun referenced => referenced.filterMap (·.image)) ∧
      (resolveCollabAttachments readAttachment imagesSupported s events).1.map
          (fun referenced => referenced.map (·.id)) =
        events.map (fun event => event.attachmentIDs.eraseDups) ∧
      ∀ id, id ∈ (resolveCollabAttachments readAttachment imagesSupported s
          events).2.explicitAttachmentIDs ↔
        id ∈ events.flatMap TurnEvent.attachmentIDs ∨ id ∈ s.explicitAttachmentIDs := by
  induction events generalizing s with
  | nil => exact ⟨.nil, rfl, fun id => (or_iff_right List.not_mem_nil).symm⟩
  | cons event events ih =>
    obtain ⟨hevent, hids, hexplicit⟩ :=
      @charged_resolveReferences readAttachment imagesSupported [] s event.attachmentIDs
    obtain ⟨hrest, hidss, hexplicits⟩ :=
      ih (resolveReferences readAttachment imagesSupported [] s event.attachmentIDs).2
    rw [resolveCollabAttachments]
    dsimp only
    refine ⟨?_, ?_, fun id => ?_⟩
    · rw [List.flatMap_cons, List.flatMap_cons]
      exact hevent.append hrest
    · have hall : (event.attachmentIDs.filter fun id => decide (id ∉ ([] : List String))) =
          event.attachmentIDs :=
        List.filter_eq_self.mpr fun id _ => decide_eq_true List.not_mem_nil
      rw [List.map_cons, List.map_cons, hidss, hids, hall]
    · rw [hexplicits id, hexplicit id, List.flatMap_cons, List.mem_append]
      tauto

lemma resolveCollabAttachments_congr {events others : List TurnEvent}
    (h : others.map (·.collab) = events.map (·.collab)) (s : TurnEnrichment) :
    resolveCollabAttachments readAttachment imagesSupported s others =
      resolveCollabAttachments readAttachment imagesSupported s events := by
  induction events generalizing others s with
  | nil =>
    obtain rfl := List.map_eq_nil_iff.mp h
    rfl
  | cons event events ih =>
    obtain ⟨other, others', rfl, hsame, hrest⟩ := List.map_eq_cons_iff.mp h
    have hids : other.attachmentIDs = event.attachmentIDs := congrArg (Option.getD · []) hsame
    rw [resolveCollabAttachments, resolveCollabAttachments, hids]
    dsimp only
    rw [ih hrest]

/-! ### The second pass -/

/-- What an event that is enriched charges for the attachment that stands alone. -/
def standaloneSlot? (explicit : List String) (event : EnrichedEvent) :
    Option (String × Option TextFileContent) :=
  (event.attachment.filter fun attachment => decide (attachment.id ∉ explicit)).map
    fun attachment => (attachment.id, event.textFile)

lemma resolveStandalone_explicit {attachment : StandaloneAttachment}
    (h : attachment.id ∈ s.explicitAttachmentIDs) :
    s.resolveStandalone readAttachment imagesSupported attachment = ((none, none), s) := by
  rw [resolveStandalone, if_pos h]

lemma charged_resolveStandalone {attachment : StandaloneAttachment}
    (h : attachment.id ∉ s.explicitAttachmentIDs) : Charged readAttachment imagesSupported s
        (s.resolveStandalone readAttachment imagesSupported attachment).2
        [(attachment.id, (s.resolveStandalone readAttachment imagesSupported attachment).1.1)]
        (s.resolveStandalone readAttachment imagesSupported attachment).1.2.toList ∧
      (s.resolveStandalone readAttachment imagesSupported attachment).2.explicitAttachmentIDs =
        s.explicitAttachmentIDs := by
  have hcounts := @resolve_counts readAttachment s attachment.id
  rw [resolveStandalone, if_neg h]
  rcases hresolve : s.resolve readAttachment attachment.id with ⟨_ | read, s'⟩
  · rw [hresolve] at hcounts
    exact ⟨.slot_none hresolve rfl rfl rfl rfl rfl (fun h => h) fun _ => rfl, hcounts.2.2⟩
  · rw [hresolve] at hcounts
    dsimp only
    split_ifs with htext himage
    · obtain ⟨-, -, hrest⟩ := addText_charges s'
        (firstNonEmpty [read.fileName, attachment.fileName, attachment.id])
        (firstNonEmpty [read.mimeType, attachment.mimeType]) read.text
      refine ⟨.slot_text hresolve, ?_⟩
      rw [hrest]
      exact hcounts.2.2
    · obtain ⟨hyes, hbound⟩ := takesImage_eq_true himage.2
      refine ⟨.slot_none hresolve (not_not.mp htext) rfl rfl rfl rfl (fun _ => hbound) ?_,
        hcounts.2.2⟩
      intro hno
      rw [hyes] at hno
      cases hno
    · exact ⟨.slot_none hresolve (not_not.mp htext) rfl rfl rfl rfl (fun h => h) fun _ => rfl,
        hcounts.2.2⟩

lemma charged_showAttachment (s : TurnEnrichment) (event : TurnEvent)
    (referenced : List HarnessReferencedAttachment) : Charged readAttachment imagesSupported s
        (s.showAttachment readAttachment imagesSupported event).2
        (standaloneSlot? s.explicitAttachmentIDs ⟨event, referenced,
          (s.showAttachment readAttachment imagesSupported event).1.1,
          (s.showAttachment readAttachment imagesSupported event).1.2⟩).toList
        (s.showAttachment readAttachment imagesSupported event).1.2.toList ∧
      (s.showAttachment readAttachment imagesSupported event).2.explicitAttachmentIDs =
        s.explicitAttachmentIDs ∧
      (standaloneSlot? s.explicitAttachmentIDs ⟨event, referenced,
          (s.showAttachment readAttachment imagesSupported event).1.1,
          (s.showAttachment readAttachment imagesSupported event).1.2⟩ = none →
        (s.showAttachment readAttachment imagesSupported event).1 = (none, none)) := by
  rw [showAttachment, standaloneSlot?]
  dsimp only
  cases hattachment : event.attachment with
  | none => exact ⟨.nil, rfl, fun _ => rfl⟩
  | some attachment =>
    dsimp only
    by_cases hexplicit : attachment.id ∈ s.explicitAttachmentIDs
    · rw [resolveStandalone_explicit hexplicit, Option.filter_some,
        if_neg (by rwa [decide_eq_true_eq, not_not])]
      exact ⟨.nil, rfl, fun _ => rfl⟩
    · obtain ⟨hcharged, hsame⟩ :=
        @charged_resolveStandalone readAttachment imagesSupported s attachment hexplicit
      rw [Option.filter_some, if_pos (decide_eq_true hexplicit)]
      exact ⟨hcharged, hsame, fun hnone => by cases hnone⟩

lemma charged_resolveAttachments (s : TurnEnrichment)
    (events : List (TurnEvent × List HarnessReferencedAttachment)) :
    Charged readAttachment imagesSupported s
        (resolveAttachments readAttachment imagesSupported s events).2
        ((resolveAttachments readAttachment imagesSupported s events).1.filterMap
          (standaloneSlot? s.explicitAttachmentIDs))
        ((resolveAttachments readAttachment imagesSupported s events).1.filterMap (·.image)) ∧
      (resolveAttachments readAttachment imagesSupported s events).1.map
          (fun event => (event.toTurnEvent, event.referencedAttachments)) = events ∧
      ∀ event ∈ (resolveAttachments readAttachment imagesSupported s events).1,
        standaloneSlot? s.explicitAttachmentIDs event = none →
          event.textFile = none ∧ event.image = none := by
  induction events generalizing s with
  | nil => exact ⟨.nil, rfl, fun _ hmem => absurd hmem List.not_mem_nil⟩
  | cons event events ih =>
    obtain ⟨event, referenced⟩ := event
    obtain ⟨hcharged, hsame, hnone⟩ :=
      @charged_showAttachment readAttachment imagesSupported s event referenced
    obtain ⟨hrest, hevents, hshown⟩ :=
      ih (s.showAttachment readAttachment imagesSupported event).2
    rw [hsame] at hrest hshown
    rw [resolveAttachments]
    dsimp only
    refine ⟨?_, ?_, fun other hmem hslot => ?_⟩
    · rw [List.filterMap_cons_toList, List.filterMap_cons_toList]
      exact hcharged.append hrest
    · rw [List.map_cons, hevents]
    · rcases List.mem_cons.mp hmem with rfl | hmem
      · have hboth := hnone hslot
        exact ⟨congrArg Prod.fst hboth, congrArg Prod.snd hboth⟩
      · exact hshown other hmem hslot

/-! ### Slots -/

variable {calls : List (String × Resolution)}

/-- The text of a slot is a prefix of what was read, and valid if that is. -/
def ShowsSlot (calls : List (String × Resolution))
    (slot : String × Option TextFileContent) : Prop :=
  ∀ file ∈ slot.2, ShowsText calls slot.1 file

lemma showsSlot_iff {slot : String × Option TextFileContent} (hnodup : (calls.map Prod.fst).Nodup)
    (hfound : slot.2 ≠ none → ∃ read, calls.lookup slot.1 = some (.ok read))
    (hcut : contentOf slot.2 <+: textIn calls slot.1) :
    ShowsSlot calls slot ↔ (ValidUTF8 (textIn calls slot.1) → ValidUTF8 (contentOf slot.2)) := by
  obtain ⟨id, _ | file⟩ := slot
  · exact iff_of_true (fun _ hfile => by cases hfile) fun _ => ⟨[], rfl⟩
  · obtain ⟨read, hread⟩ := hfound (Option.some_ne_none file)
    have htext : textIn calls id = read.text := by
      rw [textIn, hread]
      rfl
    have hmem := mem_of_lookup hread
    rw [htext] at hcut ⊢
    constructor
    · intro hshows hvalid
      obtain ⟨other, hother, -, hkeeps⟩ := hshows file rfl
      -- An attachment is read once only.
      have hsame := List.inj_on_of_nodup_map hnodup hother hmem rfl
      obtain rfl : other = read := Except.ok.inj (congrArg Prod.snd hsame)
      exact hkeeps hvalid
    · rintro hkeeps _ ⟨⟩
      exact ⟨read, hmem, hcut, hkeeps⟩

lemma Cached.nodup (h : s.Cached) : (s.calls.map Prod.fst).Nodup := by
  rw [← h]
  exact s.cache.nodup

lemma Charged.showsSlots_iff (h : Charged readAttachment imagesSupported {} s' slots images) :
    (∀ slot ∈ slots, ShowsSlot s'.calls slot) ↔
      List.CutsKeep ValidUTF8 maxTextFileChars ((slots.map Prod.fst).map
        (textIn (readings readAttachment [] (slots.map Prod.fst)))) := by
  have hcached : Cached {} := rfl
  have hcontents := h.contents hcached s'.calls (List.prefix_refl _)
  have hprefixes := List.forall₂_cutAll (maxTextFileChars - ({} : TurnEnrichment).textChars)
    (slots.map fun slot => textIn s'.calls slot.1)
  rw [← hcontents, List.forall₂_map_left_iff, List.forall₂_map_right_iff,
    List.forall₂_same] at hprefixes
  have hslots : ∀ slot ∈ slots, ShowsSlot s'.calls slot ↔
      (ValidUTF8 (textIn s'.calls slot.1) → ValidUTF8 (contentOf slot.2)) := fun slot hmem =>
    showsSlot_iff (h.cached hcached).nodup (h.found hcached slot hmem) (hprefixes slot hmem)
  have hcalls : readings readAttachment [] (slots.map Prod.fst) = s'.calls :=
    (h.calls hcached).symm
  have htexts : (slots.map Prod.fst).map (textIn s'.calls) =
      slots.map fun slot => textIn s'.calls slot.1 := List.map_map
  rw [forall₂_congr hslots, hcalls, htexts, List.cutsKeep_iff]
  show _ ↔ List.Forall₂ _ _ (List.cutAll (maxTextFileChars - ({} : TurnEnrichment).textChars) _)
  rw [← hcontents, List.forall₂_map_left_iff, List.forall₂_map_right_iff, List.forall₂_same]

end TurnEnrichment

/-! ## Turns -/

section

open TurnEnrichment

variable {readAttachment : ReadAttachment} {imagesSupported : Option Bool}
  {events : List TurnEvent}

lemma map_referencedAttachments :
    (enrichTurnAttachments readAttachment imagesSupported events).1.map
        (fun event => (event.toTurnEvent, event.referencedAttachments)) =
      events.zip
        (resolveCollabAttachments readAttachment (imagesSupported.getD true) {} events).1 :=
  (charged_resolveAttachments _ _).2.1

lemma length_referenced : (resolveCollabAttachments readAttachment (imagesSupported.getD true) {}
    events).1.length = events.length := by
  have hids := (@charged_resolveCollabAttachments readAttachment (imagesSupported.getD true) {}
    events).2.1
  simpa using congrArg List.length hids

lemma map_enriched :
    (enrichTurnAttachments readAttachment imagesSupported events).1.map (·.toTurnEvent) = events ∧
      (enrichTurnAttachments readAttachment imagesSupported events).1.map
          (·.referencedAttachments) =
        (resolveCollabAttachments readAttachment (imagesSupported.getD true) {} events).1 := by
  have hpairs := @map_referencedAttachments readAttachment imagesSupported events
  have hlength := @length_referenced readAttachment imagesSupported events
  have hevents := congrArg (List.map Prod.fst) hpairs
  have hreferenced := congrArg (List.map Prod.snd) hpairs
  rw [List.map_map, List.map_fst_zip (Nat.le_of_eq hlength.symm)] at hevents
  rw [List.map_map, List.map_snd_zip (Nat.le_of_eq hlength)] at hreferenced
  exact ⟨hevents, hreferenced⟩

variable {explicit : List String}

lemma map_standaloneSlots {enriched : List EnrichedEvent}
    (hevents : enriched.map (·.toTurnEvent) = events)
    (hexplicit : ∀ id, id ∈ explicit ↔ id ∈ events.flatMap TurnEvent.attachmentIDs) :
    (enriched.filterMap (standaloneSlot? explicit)).map Prod.fst = standaloneIDs events := by
  have hsame : (fun id => decide (id ∉ events.flatMap TurnEvent.attachmentIDs)) =
      fun id => decide (id ∉ explicit) :=
    funext fun id => decide_eq_decide.mpr (not_congr (hexplicit id).symm)
  rw [standaloneIDs, hsame, ← hevents]
  clear hevents hexplicit hsame
  induction enriched with
  | nil => rfl
  | cons event enriched ih =>
    rw [List.filterMap_cons_toList, List.map_cons, List.filterMap_cons_toList, List.map_append,
      List.map_append, List.filter_append, ih]
    congr 1
    rw [standaloneSlot?]
    cases event.attachment with
    | none => rfl
    | some attachment =>
      by_cases hmem : attachment.id ∈ explicit <;> simp [hmem]

lemma exists_charged (readAttachment : ReadAttachment) (imagesSupported : Option Bool)
    (events : List TurnEvent) : ∃ explicit,
      Charged readAttachment (imagesSupported.getD true) {}
        (enrichTurnAttachments readAttachment imagesSupported events).2
        ((enrichTurnAttachments readAttachment imagesSupported events).1.flatMap
            (fun event => referenceSlots event.referencedAttachments) ++
          (enrichTurnAttachments readAttachment imagesSupported events).1.filterMap
            (standaloneSlot? explicit))
        ((enrichTurnAttachments readAttachment imagesSupported events).1.flatMap
            (fun event => event.referencedAttachments.filterMap (·.image)) ++
          (enrichTurnAttachments readAttachment imagesSupported events).1.filterMap (·.image)) ∧
      (∀ id, id ∈ explicit ↔ id ∈ events.flatMap TurnEvent.attachmentIDs) ∧
      ∀ event ∈ (enrichTurnAttachments readAttachment imagesSupported events).1,
        standaloneSlot? explicit event = none → event.textFile = none ∧ event.image = none := by
  obtain ⟨hfirst, -, hexplicit⟩ :=
    @charged_resolveCollabAttachments readAttachment (imagesSupported.getD true) {} events
  have hreferenced := (@map_enriched readAttachment imagesSupported events).2
  rw [← hreferenced, List.flatMap_map, List.flatMap_map] at hfirst
  obtain ⟨hsecond, -, hshown⟩ :=
    @charged_resolveAttachments readAttachment (imagesSupported.getD true)
      (resolveCollabAttachments readAttachment (imagesSupported.getD true) {} events).2
      (events.zip
        (resolveCollabAttachments readAttachment (imagesSupported.getD true) {} events).1)
  refine ⟨_, hfirst.append hsecond, fun id => ?_, hshown⟩
  rw [hexplicit id]
  exact or_iff_left List.not_mem_nil

lemma map_slots (hexplicit : ∀ id, id ∈ explicit ↔ id ∈ events.flatMap TurnEvent.attachmentIDs) :
    ((enrichTurnAttachments readAttachment imagesSupported events).1.flatMap
        (fun event => referenceSlots event.referencedAttachments) ++
      (enrichTurnAttachments readAttachment imagesSupported events).1.filterMap
        (standaloneSlot? explicit)).map Prod.fst = chargedIDs events := by
  obtain ⟨hevents, hreferenced⟩ := @map_enriched readAttachment imagesSupported events
  have hids := (@charged_resolveCollabAttachments readAttachment (imagesSupported.getD true) {}
    events).2.1
  rw [← hreferenced, List.map_map] at hids
  rw [List.map_append, map_standaloneSlots hevents hexplicit, chargedIDs]
  congr 1
  rw [List.map_flatMap, List.flatMap_def, List.flatMap_def, ← hids]
  congr 1
  refine List.map_congr_left fun event _ => ?_
  rw [referenceSlots, List.map_map]
  rfl

lemma length_contents (enriched : List EnrichedEvent)
    (hshown : ∀ event ∈ enriched, standaloneSlot? explicit event = none → event.textFile = none) :
    (enriched.flatMap EnrichedEvent.contents).flatten.length =
      ((enriched.flatMap (fun event => referenceSlots event.referencedAttachments) ++
        enriched.filterMap (standaloneSlot? explicit)).map
          fun slot => contentOf slot.2).flatten.length := by
  -- What events show for themselves comes behind what they show for references.
  have hperm := (List.flatMap_append_perm enriched
    (fun event => event.referencedAttachments.map (contentOf ·.textFile))
    (fun event => [contentOf event.textFile])).flatten.length_eq
  have hreferenced : enriched.flatMap
        (fun event => event.referencedAttachments.map (contentOf ·.textFile)) =
      (enriched.flatMap (fun event => referenceSlots event.referencedAttachments)).map
        fun slot => contentOf slot.2 := by
    rw [List.map_flatMap]
    refine List.flatMap_congr fun event _ => ?_
    rw [referenceSlots, List.map_map]
    rfl
  have hstandalone : (enriched.flatMap (fun event => [contentOf event.textFile])).flatten =
      ((enriched.filterMap (standaloneSlot? explicit)).map
        fun slot => contentOf slot.2).flatten := by
    clear hperm hreferenced
    induction enriched with
    | nil => rfl
    | cons event enriched ih =>
      rw [List.filterMap_cons_toList, List.map_append, List.flatten_append, List.flatMap_cons,
        List.flatten_append, ih fun other hmem => hshown other (List.mem_cons_of_mem _ hmem)]
      congr 1
      cases hslot : standaloneSlot? explicit event with
      | none =>
        rw [hshown event List.mem_cons_self hslot]
        rfl
      | some slot =>
        rw [standaloneSlot?, Option.map_eq_some_iff] at hslot
        obtain ⟨attachment, -, rfl⟩ := hslot
        rfl
  rw [List.map_append, List.flatten_append, ← hreferenced, ← hstandalone, ← List.flatten_append]
  exact hperm.symm

lemma length_images (enriched : List EnrichedEvent) :
    (enriched.flatMap EnrichedEvent.images).length =
      (enriched.flatMap (fun event => event.referencedAttachments.filterMap (·.image)) ++
        enriched.filterMap (·.image)).length := by
  have hperm := (List.flatMap_append_perm enriched
    (fun event => event.referencedAttachments.filterMap (·.image))
    (fun event => event.image.toList)).length_eq
  rw [List.filterMap_eq_flatMap_toList (l := enriched)]
  exact hperm.symm

lemma showsSlots_iff {calls : List (String × Resolution)} (enriched : List EnrichedEvent)
    (hshown : ∀ event ∈ enriched, standaloneSlot? explicit event = none → event.textFile = none) :
    (∀ slot ∈ enriched.flatMap (fun event => referenceSlots event.referencedAttachments) ++
        enriched.filterMap (standaloneSlot? explicit), ShowsSlot calls slot) ↔
      (∀ event ∈ enriched, ∀ referenced ∈ event.referencedAttachments,
          ∀ file ∈ referenced.textFile, ShowsText calls referenced.id file) ∧
        ∀ event ∈ enriched, ∀ file ∈ event.textFile, ∃ attachment,
          event.attachment = some attachment ∧ ShowsText calls attachment.id file := by
  rw [List.forall_mem_append]
  refine and_congr ⟨fun h event hevent referenced hmem => ?_, fun h slot hslot => ?_⟩
    ⟨fun h event hevent file hfile => ?_, fun h slot hslot file hfile => ?_⟩
  · exact h (referenced.id, referenced.textFile)
      (List.mem_flatMap.mpr ⟨event, hevent, List.mem_map_of_mem hmem⟩)
  · obtain ⟨event, hevent, hmem⟩ := List.mem_flatMap.mp hslot
    obtain ⟨referenced, hreferenced, rfl⟩ := List.mem_map.mp hmem
    exact h event hevent referenced hreferenced
  · have hslot : standaloneSlot? explicit event ≠ none := by
      intro hnone
      rw [hshown event hevent hnone] at hfile
      cases hfile
    obtain ⟨slot, hslot⟩ := Option.ne_none_iff_exists'.mp hslot
    have hmem := h slot (List.mem_filterMap.mpr ⟨event, hevent, hslot⟩)
    rw [standaloneSlot?, Option.map_eq_some_iff] at hslot
    obtain ⟨attachment, hattachment, rfl⟩ := hslot
    exact ⟨attachment, (Option.filter_eq_some_iff.mp hattachment).1, hmem file hfile⟩
  · obtain ⟨event, hevent, hsome⟩ := List.mem_filterMap.mp hslot
    rw [standaloneSlot?, Option.map_eq_some_iff] at hsome
    obtain ⟨attachment, hattachment, rfl⟩ := hsome
    obtain ⟨other, hother, hshows⟩ := h event hevent file hfile
    obtain rfl : attachment = other :=
      Option.some.inj ((Option.filter_eq_some_iff.mp hattachment).1.symm.trans hother)
    exact hshows

lemma showsTexts_iff (readAttachment : ReadAttachment) (imagesSupported : Option Bool)
    (events : List TurnEvent) :
    ((∀ event ∈ (enrichTurnAttachments readAttachment imagesSupported events).1,
        ∀ referenced ∈ event.referencedAttachments, ∀ file ∈ referenced.textFile,
          ShowsText (enrichTurnAttachments readAttachment imagesSupported events).2.calls
            referenced.id file) ∧
      ∀ event ∈ (enrichTurnAttachments readAttachment imagesSupported events).1,
        ∀ file ∈ event.textFile, ∃ attachment, event.attachment = some attachment ∧
          ShowsText (enrichTurnAttachments readAttachment imagesSupported events).2.calls
            attachment.id file) ↔
      List.CutsKeep ValidUTF8 maxTextFileChars (chargedTexts readAttachment events) := by
  obtain ⟨explicit, hcharged, hexplicit, hshown⟩ :=
    exists_charged readAttachment imagesSupported events
  have hcuts := hcharged.showsSlots_iff
  rw [map_slots hexplicit] at hcuts
  rw [chargedTexts, ← hcuts]
  exact (showsSlots_iff _ fun event hmem hnone => (hshown event hmem hnone).1).symm

/-- A turn is enriched well exactly if no text is cut within a character. -/
theorem wellEnriched_iff (readAttachment : ReadAttachment) (imagesSupported : Option Bool)
    (events : List TurnEvent) :
    WellEnriched readAttachment imagesSupported events ↔
      List.CutsKeep ValidUTF8 maxTextFileChars (chargedTexts readAttachment events) := by
  obtain ⟨explicit, hcharged, hexplicit, hshown⟩ :=
    exists_charged readAttachment imagesSupported events
  obtain ⟨hevents, hreferenced⟩ := @map_enriched readAttachment imagesSupported events
  rw [← showsTexts_iff readAttachment imagesSupported events]
  refine ⟨fun h => ⟨h.referencedTexts, h.standaloneTexts⟩, fun h => ?_⟩
  have hcached : Cached {} := rfl
  exact
    { sameEvents := hevents
      textBound := by
        rw [length_contents _ fun event hmem hnone => (hshown event hmem hnone).1,
          hcharged.contents hcached _ (List.prefix_refl _)]
        exact List.length_flatten_cutAll_le _ _
      imageBound := by
        have hcount := hcharged.imageCount
        rw [Nat.zero_add] at hcount
        rw [length_images]
        split_ifs with hno
        · rw [hcharged.supported (by rw [hno]; rfl)]
          exact Nat.le_refl _
        · rw [← hcount]
          exact hcharged.bound (Nat.zero_le _)
      readOnce := (hcharged.cached hcached).nodup
      notStandalone := fun event hmem attachment hattachment hother => by
        obtain ⟨other, hother, hid⟩ := hother
        have hin := (hexplicit attachment.id).mpr (List.mem_flatMap.mpr ⟨other, hother, hid⟩)
        refine hshown event hmem ?_
        rw [standaloneSlot?, hattachment, Option.filter_some,
          if_neg (by rwa [decide_eq_true_eq, not_not]), Option.map_none]
      references := by
        rw [← (@charged_resolveCollabAttachments readAttachment (imagesSupported.getD true) {}
          events).2.1, ← hreferenced, List.map_map]
        rfl
      referencedTexts := h.1
      standaloneTexts := h.2
      independent := fun others hothers => by
        rw [hreferenced, map_enriched.2, resolveCollabAttachments_congr hothers] }

end

/-! ## A text cut within a character -/

lemma exists_utf8EncodeChar (c : Char) :
    ∃ before last, String.utf8EncodeChar c = before ++ [last] ∧ last.toNat < 0xC0 := by
  rw [String.utf8EncodeChar]
  split_ifs with hone htwo hthree
  · refine ⟨[], _, rfl, ?_⟩
    rw [UInt8.toNat_ofNat']
    omega
  all_goals
    -- The last byte of more than one is a continuation.
    refine ⟨List.dropLast _, _, (List.dropLast_concat_getLast (List.cons_ne_nil _ _)).symm, ?_⟩
    show (UInt8.ofNat (c.val.toNat % 0x40 + 0x80)).toNat < 0xC0
    rw [UInt8.toNat_ofNat']
    omega

lemma not_validUTF8_concat (text : List UInt8) : ¬ValidUTF8 (text ++ [0xC3]) := by
  rintro ⟨cs, hcs⟩
  rcases List.eq_nil_or_concat cs with rfl | ⟨cs, c, rfl⟩
  · rw [List.flatMap_nil] at hcs
    exact List.append_ne_nil_of_right_ne_nil _ (List.cons_ne_nil _ _) hcs
  · obtain ⟨before, last, hc, hlast⟩ := exists_utf8EncodeChar c
    rw [List.concat_eq_append, List.flatMap_append, List.flatMap_singleton, hc,
      ← List.append_assoc] at hcs
    obtain rfl := List.singleton_inj.mp (List.append_inj_right' hcs rfl)
    exact absurd hlast (by decide)

/-- A text that is one byte longer than the bound, and whose last character has two bytes. -/
def longText : List UInt8 := List.replicate 31999 97 ++ [0xC3, 0xA9]

/-- An event with an attachment that stands alone. -/
def longTextEvent : TurnEvent := ⟨none, some ⟨"id", "notes.txt", "text/plain"⟩⟩

lemma validUTF8_longText : ValidUTF8 longText := by
  refine ⟨List.replicate 31999 'a' ++ ['é'], ?_⟩
  rw [List.flatMap_append, List.flatMap_replicate]
  show longText = (List.replicate 31999 [97]).flatten ++ [0xC3, 0xA9]
  rw [List.flatten_replicate_singleton, longText]

lemma take_longText : longText.take maxTextFileChars = List.replicate 31999 97 ++ [0xC3] := by
  have hlength : (List.replicate 31999 97 : List UInt8).length = 31999 := List.length_replicate
  rw [longText, List.take_append, hlength, List.take_of_length_le (by rw [hlength]; decide)]
  rfl

/-- A text is cut within its last character. -/
theorem not_wellEnriched_longText :
    ¬WellEnriched (fun _ _ => .ok ⟨"notes.txt", "", "text/plain", longText⟩) none
      [longTextEvent] := by
  intro h
  have hcuts := (showsTexts_iff _ _ _).mp ⟨h.referencedTexts, h.standaloneTexts⟩
  have htexts : chargedTexts (fun _ _ => .ok ⟨"notes.txt", "", "text/plain", longText⟩)
      [longTextEvent] = [longText] := rfl
  rw [htexts, List.CutsKeep, take_longText] at hcuts
  exact not_validUTF8_concat _ (hcuts.1 validUTF8_longText)

end Free4Chat
