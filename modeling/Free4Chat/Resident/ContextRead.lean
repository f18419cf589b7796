import Free4Chat.Data.Paging
import Free4Chat.Resident.AgentWait
import Free4Chat.Room.TranscriptLog

/-!
# Reading Context

An Agent reads what a Room retains page by page: its events, and the segments of its live
transcript. With the sequence to go on after it reads forward; with a sequence to stop before, and
no other, it reads backward. A page says whether there are entries on either side of it. One without
entries says that there are none.

* `contextPage`: a page of entries.
* `agentReadContext`: the pages that an Agent reads.
* `followForward` and `followBackward`: the next request after a page.
* `ContextEnumerated`: the pages from a cursor on have each entry on that side once.
* `contextEnumerated`: they do, and a page with entries knows what is on either side of it.
-/

namespace Free4Chat

def CONTEXT_PAGE_DEFAULT_LIMIT : ℕ := 25
def CONTEXT_PAGE_MAX_LIMIT : ℕ := 50

/-! ## Pages -/

/-- What a page is asked for. -/
structure ContextOptions where
  before : Option ℕ := none
  after : Option ℕ := none
  limit : ℕ
deriving DecidableEq, Repr

/-- Whether a sequence is in the range that is asked for. -/
def ContextOptions.admits (options : ContextOptions) (sequence : ℕ) : Bool :=
  options.after.all (· < sequence) && options.before.all (sequence < ·)

/-- A page of entries. -/
structure ContextPage (α : Type*) where
  entries : List α
  oldestSequence : ℕ
  newestSequence : ℕ
  hasMoreBefore : Bool
  hasMoreAfter : Bool
  truncated : Bool
deriving DecidableEq, Repr

section ContextPage

variable {α : Type*} (sequence : α → ℕ)

/-- The entries from an index on that is counted from the end. No index is the first one. -/
def sliceFromEnd (count : ℕ) (entries : List α) : List α :=
  if count = 0 then entries else entries.drop (entries.length - count)

/-- The page of entries that is asked for. -/
def contextPage (entries : List α) (options : ContextOptions) : ContextPage α :=
  let coverageFloor := retainedEventCoverageFloor (entries.map sequence)
  let filtered := entries.filter fun entry => options.admits (sequence entry)
  let page :=
    if options.before.isSome && options.after.isNone then sliceFromEnd options.limit filtered
    else filtered.take options.limit
  let first := page.head?.map sequence
  let last := page.getLast?.map sequence
  { entries := page
    oldestSequence := (entries.head?.map sequence).getD 0
    newestSequence := (entries.getLast?.map sequence).getD 0
    hasMoreBefore := first.any fun first => entries.any fun entry => sequence entry < first
    hasMoreAfter := last.any fun last => entries.any fun entry => last < sequence entry
    truncated := options.after.any fun after => 0 < coverageFloor && after + 1 < coverageFloor }

/-- The entries of a page with the request that goes on after them, if there are more. -/
def followForward (entries : List α) :
    Option ContextOptions → Option (List α × Option ContextOptions)
  | none => none
  | some options =>
    let page := contextPage sequence entries options
    some (page.entries, if page.hasMoreAfter then
      some { options with after := page.entries.getLast?.map sequence } else none)

/-- The entries of a page with the request for those before them, if there are more. -/
def followBackward (entries : List α) :
    Option ContextOptions → Option (List α × Option ContextOptions)
  | none => none
  | some options =>
    let page := contextPage sequence entries options
    some (page.entries, if page.hasMoreBefore then
      some { options with before := page.entries.head?.map sequence } else none)

end ContextPage

/-! ## Reading -/

/-- What an Agent asks for. -/
structure ContextRequest where
  participantId : String
  token : String
  beforeSequence : Option ℤ := none
  afterSequence : Option ℤ := none
  limit : Option ℤ := none
  beforeTranscriptSequence : Option ℤ := none
  afterTranscriptSequence : Option ℤ := none
  transcriptLimit : Option ℤ := none

/-- What an Agent reads. -/
structure AgentContext where
  events : ContextPage AgentEvent
  liveTranscript : ContextPage LiveTranscriptSegment

/-- The retained events as an Agent sees them, also its own. -/
def RoomRecord.retainedContextEvents (room : RoomRecord) (participantId : String) :
    List AgentEvent :=
  let taskProjection := buildTaskProjectionIndex room.messages room.participants
  let messages := (room.messages.filter (isPermissionVisibleToAgent · participantId)).filterMap
    fun message => toAgentEvent message participantId taskProjection true
  let attachments := room.attachments.filterMap fun attachment =>
    toAttachmentEvent attachment participantId taskProjection room.participants
  (messages ++ attachments).insertionSort fun left right => left.sequence ≤ right.sequence

/-- Whether a number is a sequence. -/
def validContextSequence (value : ℤ) : Bool :=
  0 ≤ value && value ≤ JsValue.maxSafeInteger

/-- Whether a page may have so many entries. -/
def validContextLimit (value : ℤ) : Bool :=
  1 ≤ value && value ≤ CONTEXT_PAGE_MAX_LIMIT

/-- Reads a page of events and one of the live transcript, and changes nothing. -/
def RoomRecord.agentReadContext (room : RoomRecord) (transcript : StoredLiveTranscript)
    (request : ContextRequest) : Except String AgentContext := do
  let participant ← Except.require
    (room.findParticipant request.participantId request.token "") "unauthorized"
  Except.rejectWhen (participant.kind ≠ .agent) "agent_only"
  Except.rejectWhen ([request.beforeSequence, request.afterSequence,
    request.beforeTranscriptSequence, request.afterTranscriptSequence].any fun value =>
      !value.all validContextSequence) "invalid_context_cursor"
  Except.rejectWhen ([request.limit, request.transcriptLimit].any fun value =>
    !value.all validContextLimit) "invalid_context_limit"
  pure
    { events := contextPage AgentEvent.sequence (room.retainedContextEvents participant.id)
        { before := request.beforeSequence.map Int.toNat
          after := request.afterSequence.map Int.toNat
          limit := (request.limit.map Int.toNat).getD CONTEXT_PAGE_DEFAULT_LIMIT }
      liveTranscript := contextPage LiveTranscriptSegment.sequence transcript.liveTranscriptSegments
        { before := request.beforeTranscriptSequence.map Int.toNat
          after := request.afterTranscriptSequence.map Int.toNat
          limit := (request.transcriptLimit.map Int.toNat).getD CONTEXT_PAGE_DEFAULT_LIMIT } }

/-! ## Enumeration -/

section Enumeration

variable {α : Type*} (sequence : α → ℕ)

/-- Whether an entry is before a page: before all that it shows, and before the sequence that it
stops at. -/
def IsBeforePage (options : ContextOptions) (page : List α) (entry : α) : Prop :=
  (∀ shown ∈ page, sequence entry < sequence shown) ∧
    ∀ before ∈ options.before, sequence entry < before

/-- Whether an entry is after a page: after all that it shows, and after the sequence that it goes
on after. -/
def IsAfterPage (options : ContextOptions) (page : List α) (entry : α) : Prop :=
  (∀ shown ∈ page, sequence shown < sequence entry) ∧
    ∀ after ∈ options.after, after < sequence entry

/-- A page says exactly whether there are entries on either side of it. -/
structure SidesExact (entries : List α) (options : ContextOptions) : Prop where
  before : (contextPage sequence entries options).hasMoreBefore = true ↔
    ∃ entry ∈ entries,
      IsBeforePage sequence options (contextPage sequence entries options).entries entry
  after : (contextPage sequence entries options).hasMoreAfter = true ↔
    ∃ entry ∈ entries,
      IsAfterPage sequence options (contextPage sequence entries options).entries entry

/-- The entries after a cursor. -/
def entriesAfter (entries : List α) (after : Option ℕ) : List α :=
  entries.filter fun entry => after.all (· < sequence entry)

/-- The entries before a cursor. -/
def entriesBefore (entries : List α) (before : ℕ) : List α :=
  entries.filter fun entry => sequence entry < before

/-- The pages from a cursor on come to an end, and have each entry on that side once and in order. A
page with entries knows what is on either side of it; one without says that nothing is. -/
structure ContextEnumerated (entries : List α) (limit : ℕ) : Prop where
  forward : ∀ after : Option ℕ, ∃ pages,
    Paging.Pages (followForward sequence entries) none (some { after, limit }) pages ∧
      pages.flatten = entriesAfter sequence entries after
  backward : ∀ before : ℕ, ∃ pages,
    Paging.Pages (followBackward sequence entries) none (some { before := some before, limit })
        pages ∧
      pages.reverse.flatten = entriesBefore sequence entries before
  sides : ∀ options : ContextOptions, options.limit = limit →
    (contextPage sequence entries options).entries ≠ [] → SidesExact sequence entries options
  noSides : ∀ options : ContextOptions, options.limit = limit →
    (contextPage sequence entries options).entries = [] →
      (contextPage sequence entries options).hasMoreBefore = false ∧
        (contextPage sequence entries options).hasMoreAfter = false

variable {sequence} {entries : List α} {options : ContextOptions}

/-! ## One Page -/

lemma eq_nil_of_take_eq_nil {l : List α} {count : ℕ} (hcount : 1 ≤ count)
    (h : l.take count = []) : l = [] := by
  rcases List.take_eq_nil_iff.mp h with hzero | hnil
  · omega
  · exact hnil

lemma eq_nil_of_drop_eq_nil {l : List α} {count : ℕ} (hcount : 1 ≤ count)
    (h : l.drop (l.length - count) = []) : l = [] := by
  have hle := List.drop_eq_nil_iff.mp h
  refine List.eq_nil_of_length_eq_zero ?_
  omega

lemma contextPage_entries_sublist : (contextPage sequence entries options).entries.Sublist
      (entries.filter fun entry => options.admits (sequence entry)) := by
  show (if options.before.isSome && options.after.isNone then
    sliceFromEnd options.limit (entries.filter fun entry => options.admits (sequence entry))
    else (entries.filter fun entry => options.admits (sequence entry)).take options.limit).Sublist _
  split
  · rw [sliceFromEnd]
    split
    · exact List.Sublist.refl _
    · exact List.drop_sublist _ _
  · exact List.take_sublist _ _

lemma admits_of_mem_contextPage {entry : α}
    (h : entry ∈ (contextPage sequence entries options).entries) :
    options.admits (sequence entry) = true :=
  (List.mem_filter.mp (contextPage_entries_sublist.subset h)).2

variable {limit : ℕ}

lemma contextPage_entries_forward {after : Option ℕ} :
    (contextPage sequence entries { after, limit }).entries =
      (entriesAfter sequence entries after).take limit := by
  show (entries.filter fun entry => after.all (· < sequence entry) && true).take limit = _
  simp only [Bool.and_true, entriesAfter]

lemma contextPage_entries_backward {before limit : ℕ} (hlimit : 1 ≤ limit) :
    (contextPage sequence entries { before := some before, limit }).entries =
      (entriesBefore sequence entries before).drop
        ((entriesBefore sequence entries before).length - limit) := by
  show sliceFromEnd limit (entries.filter fun entry => true && decide (sequence entry < before)) = _
  rw [sliceFromEnd, if_neg (by omega)]
  simp only [Bool.true_and, entriesBefore]

lemma hasMoreAfter_iff {last : α}
    (hlast : (contextPage sequence entries options).entries.getLast? = some last) :
    (contextPage sequence entries options).hasMoreAfter = true ↔
      ∃ entry ∈ entries, sequence last < sequence entry := by
  show (((contextPage sequence entries options).entries.getLast?.map sequence).any fun last =>
    entries.any fun entry => last < sequence entry) = true ↔ _
  rw [hlast]
  simp

lemma hasMoreBefore_iff {first : α}
    (hfirst : (contextPage sequence entries options).entries.head? = some first) :
    (contextPage sequence entries options).hasMoreBefore = true ↔
      ∃ entry ∈ entries, sequence entry < sequence first := by
  show (((contextPage sequence entries options).entries.head?.map sequence).any fun first =>
    entries.any fun entry => sequence entry < first) = true ↔ _
  rw [hfirst]
  simp

lemma noSides_of_entries_eq_nil (h : (contextPage sequence entries options).entries = []) :
    (contextPage sequence entries options).hasMoreBefore = false ∧
      (contextPage sequence entries options).hasMoreAfter = false := by
  constructor
  · show (((contextPage sequence entries options).entries.head?.map sequence).any fun first =>
      entries.any fun entry => sequence entry < first) = false
    rw [h]
    rfl
  · show (((contextPage sequence entries options).entries.getLast?.map sequence).any fun last =>
      entries.any fun entry => last < sequence entry) = false
    rw [h]
    rfl

/-! ## Increasing Entries -/

variable (hincreasing : entries.Pairwise fun left right => sequence left < sequence right)

lemma le_of_getLast? {page : List α} {last entry : α}
    (hpage : page.Pairwise fun left right => sequence left < sequence right)
    (hlast : page.getLast? = some last) (hentry : entry ∈ page) :
    sequence entry ≤ sequence last := by
  obtain ⟨init, rfl⟩ := List.getLast?_eq_some_iff.mp hlast
  rw [List.pairwise_append] at hpage
  rcases List.mem_append.mp hentry with hentry | hentry
  · exact (hpage.2.2 entry hentry last List.mem_cons_self).le
  · rw [List.mem_singleton.mp hentry]

lemma le_of_head? {page : List α} {first entry : α}
    (hpage : page.Pairwise fun left right => sequence left < sequence right)
    (hfirst : page.head? = some first) (hentry : entry ∈ page) :
    sequence first ≤ sequence entry := by
  obtain ⟨rest, rfl⟩ := List.head?_eq_some_iff.mp hfirst
  rcases List.mem_cons.mp hentry with rfl | hentry
  · exact le_rfl
  · exact (List.rel_of_pairwise_cons hpage hentry).le

lemma filter_after_getLast? {page rest : List α} {last : α}
    (hall : (page ++ rest).Pairwise fun left right => sequence left < sequence right)
    (hlast : page.getLast? = some last) :
    ((page ++ rest).filter fun entry => sequence last < sequence entry) = rest := by
  rw [List.pairwise_append] at hall
  obtain ⟨hpage, -, hacross⟩ := hall
  have hmem : last ∈ page := List.mem_of_getLast? hlast
  rw [List.filter_append, List.filter_eq_nil_iff.mpr, List.filter_eq_self.mpr, List.nil_append]
  · intro entry hentry
    exact decide_eq_true (hacross last hmem entry hentry)
  · intro entry hentry
    have hle := le_of_getLast? hpage hlast hentry
    simp only [decide_eq_true_eq]
    omega

lemma filter_before_head? {rest page : List α} {first : α}
    (hall : (rest ++ page).Pairwise fun left right => sequence left < sequence right)
    (hfirst : page.head? = some first) :
    ((rest ++ page).filter fun entry => sequence entry < sequence first) = rest := by
  rw [List.pairwise_append] at hall
  obtain ⟨-, hpage, hacross⟩ := hall
  have hmem : first ∈ page := List.mem_of_mem_head? hfirst
  rw [List.filter_append, List.filter_eq_self.mpr, List.filter_eq_nil_iff.mpr, List.append_nil]
  · intro entry hentry
    have hle := le_of_head? hpage hfirst hentry
    simp only [decide_eq_true_eq]
    omega
  · intro entry hentry
    exact decide_eq_true (hacross entry hentry first hmem)

include hincreasing

lemma increasing_contextPage : (contextPage sequence entries options).entries.Pairwise
    fun left right => sequence left < sequence right :=
  hincreasing.sublist (contextPage_entries_sublist.trans List.filter_sublist)

lemma sidesExact_of_entries_ne_nil (hne : (contextPage sequence entries options).entries ≠ []) :
    SidesExact sequence entries options := by
  have hpage : (contextPage sequence entries options).entries.Pairwise
      fun left right => sequence left < sequence right := increasing_contextPage hincreasing
  have hlast := List.getLast?_eq_some_getLast hne
  have hfirst := List.head?_eq_some_head hne
  -- The entries at the ends of the page are in the range that is asked for.
  have hfirstAdmitted := admits_of_mem_contextPage (List.head_mem hne)
  have hlastAdmitted := admits_of_mem_contextPage (List.getLast_mem hne)
  rw [ContextOptions.admits, Bool.and_eq_true] at hfirstAdmitted hlastAdmitted
  constructor
  · rw [hasMoreBefore_iff hfirst]
    refine ⟨fun ⟨entry, hentry, hlt⟩ => ⟨entry, hentry, fun shown hshown => ?_,
      fun before hbefore => ?_⟩, fun ⟨entry, hentry, hshown, _⟩ =>
        ⟨entry, hentry, hshown _ (List.head_mem hne)⟩⟩
    · exact hlt.trans_le (le_of_head? hpage hfirst hshown)
    · have hadmitted := hfirstAdmitted.2
      rw [Option.mem_def.mp hbefore] at hadmitted
      exact hlt.trans (of_decide_eq_true hadmitted)
  · rw [hasMoreAfter_iff hlast]
    refine ⟨fun ⟨entry, hentry, hlt⟩ => ⟨entry, hentry, fun shown hshown => ?_,
      fun after hafter => ?_⟩, fun ⟨entry, hentry, hshown, _⟩ =>
        ⟨entry, hentry, hshown _ (List.getLast_mem hne)⟩⟩
    · exact (le_of_getLast? hpage hlast hshown).trans_lt hlt
    · have hadmitted := hlastAdmitted.1
      rw [Option.mem_def.mp hafter] at hadmitted
      exact (of_decide_eq_true hadmitted).trans hlt

/-! ## Reading Forward -/

lemma entriesAfter_eq_append {after : Option ℕ} {last : α}
    (hlast : (contextPage sequence entries { after, limit }).entries.getLast? = some last) :
    entriesAfter sequence entries after =
      (contextPage sequence entries { after, limit }).entries ++
        entriesAfter sequence entries (some (sequence last)) := by
  have hsplit := List.take_append_drop limit (entriesAfter sequence entries after)
  have hsorted : (entriesAfter sequence entries after).Pairwise
      fun left right => sequence left < sequence right := hincreasing.sublist List.filter_sublist
  have hmem := List.mem_of_getLast? hlast
  have hadmitted := admits_of_mem_contextPage hmem
  rw [contextPage_entries_forward] at hlast ⊢
  -- What is after the last entry of the page is after the cursor.
  have hnarrow : entriesAfter sequence entries (some (sequence last)) =
      (entriesAfter sequence entries after).filter fun entry => sequence last < sequence entry := by
    rw [entriesAfter, entriesAfter, List.filter_filter]
    refine List.filter_congr fun entry _ => ?_
    cases after with
    | none => simp
    | some after =>
      have hafter : after < sequence last := by simpa [ContextOptions.admits] using hadmitted
      by_cases hentry : sequence last < sequence entry
      · simp [hentry, hafter.trans hentry]
      · simp [hentry]
  rw [← hsplit] at hsorted
  have hrest := filter_after_getLast? hsorted hlast
  rw [hsplit] at hrest
  rw [hnarrow, hrest, hsplit]

lemma exists_pages_forward (hlimit : 1 ≤ limit) (after : Option ℕ) :
    ∃ pages, Paging.Pages (followForward sequence entries) none (some { after, limit }) pages ∧
      pages.flatten = entriesAfter sequence entries after := by
  refine Paging.Pages.exists_of_step
    (fun after : Option ℕ => some ({ after, limit } : ContextOptions))
    (fun after => (entriesAfter sequence entries after).length)
    (fun after pages => pages.flatten = entriesAfter sequence entries after)
    (fun after => ?_) after
  refine ⟨_, _, rfl, fun hdone => ?_, fun hmore => ?_⟩
  · rw [List.flatten_singleton]
    cases hlast : (contextPage sequence entries { after, limit }).entries.getLast? with
    | none =>
      rw [List.getLast?_eq_none_iff] at hlast
      rw [hlast]
      rw [contextPage_entries_forward] at hlast
      exact (eq_nil_of_take_eq_nil hlimit hlast).symm
    | some last =>
      -- Nothing is after the last entry of the last page.
      have hnone : entriesAfter sequence entries (some (sequence last)) = [] := by
        refine List.filter_eq_nil_iff.mpr fun entry hentry hlt => ?_
        have hafter := (hasMoreAfter_iff hlast).mpr ⟨entry, hentry, of_decide_eq_true hlt⟩
        rw [if_pos hafter] at hdone
        exact Option.some_ne_none _ hdone
      rw [entriesAfter_eq_append hincreasing hlast, hnone, List.append_nil]
  · have hafter : (contextPage sequence entries { after, limit }).hasMoreAfter = true := by
      by_contra hnot
      rw [if_neg hnot] at hmore
      exact hmore rfl
    cases hlast : (contextPage sequence entries { after, limit }).entries.getLast? with
    | none =>
      rw [List.getLast?_eq_none_iff] at hlast
      rw [(noSides_of_entries_eq_nil hlast).2] at hafter
      exact absurd hafter Bool.false_ne_true
    | some last =>
      have happend := entriesAfter_eq_append hincreasing hlast
      have hpos := List.length_pos_of_mem (List.mem_of_getLast? hlast)
      refine ⟨some (sequence last), ?_, ?_, fun pages hpages => ?_⟩
      · rw [if_pos hafter, Option.map_some]
      · rw [happend, List.length_append]
        omega
      · rw [List.flatten_cons, hpages, happend]

/-! ## Reading Backward -/

lemma entriesBefore_eq_append {before limit : ℕ} (hlimit : 1 ≤ limit) {first : α}
    (hfirst : (contextPage sequence entries { before := some before, limit }).entries.head? =
      some first) :
    entriesBefore sequence entries before =
      entriesBefore sequence entries (sequence first) ++
        (contextPage sequence entries { before := some before, limit }).entries := by
  have hsplit := List.take_append_drop ((entriesBefore sequence entries before).length - limit)
    (entriesBefore sequence entries before)
  have hsorted : (entriesBefore sequence entries before).Pairwise
      fun left right => sequence left < sequence right := hincreasing.sublist List.filter_sublist
  have hadmitted := admits_of_mem_contextPage (List.mem_of_mem_head? hfirst)
  rw [contextPage_entries_backward hlimit] at hfirst ⊢
  -- What is before the first entry of the page is before the cursor.
  have hnarrow : entriesBefore sequence entries (sequence first) =
      (entriesBefore sequence entries before).filter fun entry =>
        sequence entry < sequence first := by
    have hbefore : sequence first < before := by simpa [ContextOptions.admits] using hadmitted
    rw [entriesBefore, entriesBefore, List.filter_filter]
    refine List.filter_congr fun entry _ => ?_
    by_cases hentry : sequence entry < sequence first
    · simp [hentry, hentry.trans hbefore]
    · simp [hentry]
  rw [← hsplit] at hsorted
  have hrest := filter_before_head? hsorted hfirst
  rw [hsplit] at hrest
  rw [hnarrow, hrest, hsplit]

lemma exists_pages_backward (hlimit : 1 ≤ limit) (before : ℕ) :
    ∃ pages, Paging.Pages (followBackward sequence entries) none
        (some { before := some before, limit }) pages ∧
      pages.reverse.flatten = entriesBefore sequence entries before := by
  refine Paging.Pages.exists_of_step
    (fun before : ℕ => some ({ before := some before, limit } : ContextOptions))
    (fun before => (entriesBefore sequence entries before).length)
    (fun before pages => pages.reverse.flatten = entriesBefore sequence entries before)
    (fun before => ?_) before
  refine ⟨_, _, rfl, fun hdone => ?_, fun hmore => ?_⟩
  · rw [List.reverse_singleton, List.flatten_singleton]
    cases hfirst : (contextPage sequence entries
        { before := some before, limit }).entries.head? with
    | none =>
      rw [List.head?_eq_none_iff] at hfirst
      rw [hfirst]
      rw [contextPage_entries_backward hlimit] at hfirst
      exact (eq_nil_of_drop_eq_nil hlimit hfirst).symm
    | some first =>
      -- Nothing is before the first entry of the last page.
      have hnone : entriesBefore sequence entries (sequence first) = [] := by
        refine List.filter_eq_nil_iff.mpr fun entry hentry hlt => ?_
        have hbefore := (hasMoreBefore_iff hfirst).mpr ⟨entry, hentry, of_decide_eq_true hlt⟩
        rw [if_pos hbefore] at hdone
        exact Option.some_ne_none _ hdone
      rw [entriesBefore_eq_append hincreasing hlimit hfirst, hnone, List.nil_append]
  · have hbefore : (contextPage sequence entries
        { before := some before, limit }).hasMoreBefore = true := by
      by_contra hnot
      rw [if_neg hnot] at hmore
      exact hmore rfl
    cases hfirst : (contextPage sequence entries
        { before := some before, limit }).entries.head? with
    | none =>
      rw [List.head?_eq_none_iff] at hfirst
      rw [(noSides_of_entries_eq_nil hfirst).1] at hbefore
      exact absurd hbefore Bool.false_ne_true
    | some first =>
      have happend := entriesBefore_eq_append hincreasing hlimit hfirst
      have hpos := List.length_pos_of_mem (List.mem_of_mem_head? hfirst)
      refine ⟨sequence first, ?_, ?_, fun pages hpages => ?_⟩
      · rw [if_pos hbefore, Option.map_some]
      · rw [happend, List.length_append]
        omega
      · rw [List.reverse_cons, List.flatten_append, hpages, List.flatten_singleton, happend]

/-- The pages from a cursor on have each entry on that side once, and a page with entries knows what
is on either side of it. -/
theorem contextEnumerated {limit : ℕ} (hlimit : 1 ≤ limit) :
    ContextEnumerated sequence entries limit where
  forward := exists_pages_forward hincreasing hlimit
  backward := exists_pages_backward hincreasing hlimit
  sides := fun _ _ => sidesExact_of_entries_ne_nil hincreasing
  noSides := fun _ _ => noSides_of_entries_eq_nil

end Enumeration

/-- Three entries in pages of two. -/
theorem contextEnumerated_three : ContextEnumerated id [2, 3, 7] 2 :=
  contextEnumerated (by decide) (by decide)

/-- After the newest entry there is a page that does not know of it. -/
theorem not_sidesExact_newest : ¬SidesExact id [1] { after := some 1, limit := 25 } := by
  intro h
  have hentries : (contextPage id [1] { after := some 1, limit := 25 }).entries = [] := by decide
  have hbefore := h.before.mpr ⟨1, List.mem_cons_self, fun shown hshown => ?_, fun _ hnone => ?_⟩
  · exact absurd hbefore (by decide)
  · rw [hentries] at hshown
    exact absurd hshown List.not_mem_nil
  · exact absurd hnone (Option.not_mem_none _)

end Free4Chat
