import Free4Chat.Data.JsValue
import Mathlib.Data.List.Forall2

/-!
# Session Pages

The Room relays a page of the sessions that a Runtime has found, after it has checked every row. It
never shows a page that lost a row, unless the row was no object at all.

* `validateTaskSessionListResult`: the page that is relayed, or an error.
* `CompleteOrRefused`: what is promised of it.
* `completeOrRefused_iff`: when the promise is kept.
-/

namespace Free4Chat

open JsString (utf16Length)

/-! ## Texts and tokens -/

def MAX_TASK_SESSION_ROWS : ℕ := 10
def MAX_TASK_SESSION_PROJECTS : ℕ := 24
def MAX_TASK_SESSION_TOKEN_LENGTH : ℕ := 64
def MAX_TASK_SESSION_TITLE_LENGTH : ℕ := 256
def MAX_TASK_SESSION_PROJECT_LABEL_LENGTH : ℕ := 256

/-- The classes of failure that the Room relays. -/
def TASK_SESSION_ERRORS : List String :=
  ["session_continuation_unsupported", "invalid_session_control", "session_control_busy",
    "session_selection_expired", "session_continuation_unavailable", "task_project_unavailable",
    "task_harness_control_unavailable", "task_session_busy", "task_agent_not_reachable",
    "task_session_not_pending", "task_request_id_in_use"]

/-- The class `[\u0000-\u001f\u007f]`. -/
def isControlChar (c : Char) : Bool := c.toNat < 0x20 || c.toNat = 0x7f

/-- A text with blanks for control characters, and without white space around it. -/
def foldedText (text : String) : String :=
  JsString.trim (String.ofList (text.toList.map fun c => if isControlChar c then ' ' else c))

/-- A text to be shown, of a bounded length. -/
def boundedTaskSessionText (value : JsValue) (limit : ℕ) : String :=
  match value with
  | .str text =>
    let trimmed := foldedText text
    if limit < utf16Length trimmed then JsString.slice trimmed limit else trimmed
  | _ => ""

/-- The token that a value is, if it is one. -/
def taskSessionToken? : JsValue → Option String
  | .str token =>
    if 0 < utf16Length token && utf16Length token ≤ MAX_TASK_SESSION_TOKEN_LENGTH &&
      JsString.trim token = token then some token else none
  | _ => none

/-- Whether `typeof` a value is `"object"`, and it is not null. -/
def isObjectLike : JsValue → Bool
  | .obj _ | .arr _ => true
  | _ => false

/-- The items of a field that may be absent. -/
def fieldItems? (raw : JsValue) (name : String) : Option (List JsValue) :=
  match raw.get name with
  | .undefined | .null => some []
  | .arr items => some items
  | _ => none

/-- The items of a field, unless they are too many. -/
def boundedItems? (raw : JsValue) (name : String) (limit : ℕ) : Option (List JsValue) :=
  (fieldItems? raw name).filter fun items => items.length ≤ limit

/-! ## Native controls -/

structure RelayHarnessSessionMode where
  id : String
  name : Option String
  description : Option String

structure RelayHarnessSessionConfigValue where
  value : String
  name : Option String
  description : Option String

structure RelayHarnessSessionConfigOption where
  id : String
  name : Option String
  description : Option String
  category : Option String
  currentValue : Option String
  options : List RelayHarnessSessionConfigValue

structure RelayHarnessSessionControls where
  currentModeId : Option String
  modes : List RelayHarnessSessionMode
  configOptions : List RelayHarnessSessionConfigOption

/-- Native ids and values are taken as they are, or not at all. -/
def boundedNativeControlText? (value : JsValue) (limit : ℕ) : Option String :=
  value.asString?.filter fun text =>
    utf16Length text ≠ 0 && utf16Length text ≤ limit && !text.toList.any isControlChar

/-- A text that may be absent. -/
def optionalText (value : JsValue) (limit : ℕ) : Option String :=
  value.asString?.map fun _ => boundedTaskSessionText value limit

def relayMode? (item : JsValue) : Option RelayHarnessSessionMode := do
  let _ ← item.asRecord?
  let id ← boundedNativeControlText? (item.get "id") 128
  return ⟨id, optionalText (item.get "name") 128, optionalText (item.get "description") 256⟩

def relayConfigValue? (candidate : JsValue) : Option RelayHarnessSessionConfigValue := do
  let _ ← candidate.asRecord?
  let value ← boundedNativeControlText? (candidate.get "value") 128
  return ⟨value, optionalText (candidate.get "name") 128,
    optionalText (candidate.get "description") 256⟩

/-- An option of a plain object, unless it is passed over. -/
def relayConfigOption? (item : JsValue) : Option RelayHarnessSessionConfigOption := do
  let type ← (item.get "type").asString?
  if type ≠ "select" then none
  let id ← boundedNativeControlText? (item.get "id") 128
  let values ← boundedItems? item "options" 32
  if values = [] then none
  let options ← values.mapM relayConfigValue?
  return {
    id
    name := optionalText (item.get "name") 128
    description := optionalText (item.get "description") 256
    category := optionalText (item.get "category") 64
    currentValue := optionalText (item.get "currentValue") 128
    options }

def relayHarnessSessionControls (raw : JsValue) : Option RelayHarnessSessionControls := do
  let _ ← raw.asRecord?
  let modes ← boundedItems? raw "modes" 32
  let configOptions ← boundedItems? raw "configOptions" 16
  let currentModeId ← match raw.get "currentModeId" with
    | .undefined => some none
    | value => (boundedNativeControlText? value 128).map some
  let relayedModes ← modes.mapM relayMode?
  let _ ← configOptions.mapM JsValue.asRecord?
  return { currentModeId, modes := relayedModes,
           configOptions := configOptions.filterMap relayConfigOption? }

/-- The controls of a page, which may have none. -/
def relayedControls? (raw : JsValue) : Option (Option RelayHarnessSessionControls) :=
  match raw.get "controls" with
  | .undefined => some none
  | controls => (relayHarnessSessionControls controls).map some

/-! ## Pages -/

structure RelayTaskSession where
  token : String
  title : String
  projectToken : String
  projectLabel : String
  updatedAt : Option String

structure RelayTaskSessionProject where
  token : String
  label : String

/-- A page that is relayed. -/
structure TaskSessionListResult where
  sessions : List RelayTaskSession
  projects : List RelayTaskSessionProject
  nextPageToken : Option String
  hasMore : Bool
  controls : Option RelayHarnessSessionControls

/-- A session of a page. -/
def relaySession? (row : JsValue) : Option RelayTaskSession := do
  let token ← taskSessionToken? (row.get "token")
  let projectToken ← taskSessionToken? (row.get "projectToken")
  return {
    token
    title := boundedTaskSessionText (row.get "title") MAX_TASK_SESSION_TITLE_LENGTH
    projectToken
    projectLabel :=
      boundedTaskSessionText (row.get "projectLabel") MAX_TASK_SESSION_PROJECT_LABEL_LENGTH
    updatedAt := (row.get "updatedAt").asString?.filter fun text =>
      0 < utf16Length text && utf16Length text ≤ 64 }

/-- A project of a page. -/
def relayProject? (project : JsValue) : Option RelayTaskSessionProject := do
  let token ← taskSessionToken? (project.get "token")
  return ⟨token, boundedTaskSessionText (project.get "label") MAX_TASK_SESSION_PROJECT_LABEL_LENGTH⟩

/-- The page of a result that reports success. -/
def relayPage? (raw : JsValue) : Option TaskSessionListResult := do
  let sessions ← boundedItems? raw "sessions" MAX_TASK_SESSION_ROWS
  let projects ← boundedItems? raw "projects" MAX_TASK_SESSION_PROJECTS
  -- What is no object is passed over.
  let relayedSessions ← (sessions.filter isObjectLike).mapM relaySession?
  let relayedProjects ← (projects.filter isObjectLike).mapM relayProject?
  let controls ← relayedControls? raw
  let nextPageToken := taskSessionToken? (raw.get "nextPageToken")
  return {
    sessions := relayedSessions
    projects := relayedProjects
    nextPageToken
    hasMore := nextPageToken.isSome
    controls }

/-- Whether a result is an object that reports success. -/
def reportsSuccess (input : JsValue) : Bool :=
  input.asRecord?.isSome && (input.get "ok").asBool? = some true

/-- The failure that a result is relayed with. -/
def relayedFailure (input : JsValue) : String :=
  if reportsSuccess input then "session_continuation_unavailable"
  else
    (((input.get "error").asString?).filter (· ∈ TASK_SESSION_ERRORS)).getD
      "session_continuation_unavailable"

/-- The page that is relayed to the browser, or an error. -/
def validateTaskSessionListResult (input : JsValue) : Except String TaskSessionListResult :=
  match if reportsSuccess input then relayPage? input else none with
  | some page => .ok page
  | none => .error (relayedFailure input)

/-! ## What is promised -/

/-- A text shows the beginning of a value, within a bound. -/
def ShowsBeginning (value : JsValue) (limit : ℕ) (text : String) : Prop :=
  text.toList <+: ((value.asString?.map foldedText).getD "").toList ∧ utf16Length text ≤ limit

/-- A session is relayed. -/
structure SessionRelayed (row : JsValue) (session : RelayTaskSession) : Prop where
  token : row.get "token" = .str session.token
  projectToken : row.get "projectToken" = .str session.projectToken
  title : ShowsBeginning (row.get "title") MAX_TASK_SESSION_TITLE_LENGTH session.title
  projectLabel :
    ShowsBeginning (row.get "projectLabel") MAX_TASK_SESSION_PROJECT_LABEL_LENGTH
      session.projectLabel

/-- A project is relayed. -/
structure ProjectRelayed (row : JsValue) (project : RelayTaskSessionProject) : Prop where
  token : row.get "token" = .str project.token
  label : ShowsBeginning (row.get "label") MAX_TASK_SESSION_PROJECT_LABEL_LENGTH project.label

/-- A result offers another page. -/
def OffersPage (input : JsValue) : Prop :=
  (input.get "hasMore").asBool? = some true ∨
    match input.get "nextPageToken" with
    | .undefined | .null => False
    | .str token => token ≠ ""
    | _ => True

/-- Nothing of a result is missing from a page. -/
structure RelayedCompletely (input : JsValue) (page : TaskSessionListResult) : Prop where
  sessions : ∃ rows, fieldItems? input "sessions" = some rows ∧
    List.Forall₂ SessionRelayed rows page.sessions
  projects : ∃ rows, fieldItems? input "projects" = some rows ∧
    List.Forall₂ ProjectRelayed rows page.projects
  hasMore : page.hasMore = false → ¬OffersPage input
  continued : OffersPage input → ∃ token, input.get "nextPageToken" = .str token ∧
    page.nextPageToken = some token

/-- A page is complete, or refused. -/
def CompleteOrRefused (input : JsValue) : Prop :=
  ∀ page, validateTaskSessionListResult input = .ok page → RelayedCompletely input page

/-- What is checked of a result is in order. -/
structure Relayable (input : JsValue) : Prop where
  success : reportsSuccess input = true
  sessions : ∃ rows, boundedItems? input "sessions" MAX_TASK_SESSION_ROWS = some rows ∧
    ∀ row ∈ rows, isObjectLike row = true →
      (taskSessionToken? (row.get "token")).isSome = true ∧
        (taskSessionToken? (row.get "projectToken")).isSome = true
  projects : ∃ rows, boundedItems? input "projects" MAX_TASK_SESSION_PROJECTS = some rows ∧
    ∀ row ∈ rows, isObjectLike row = true → (taskSessionToken? (row.get "token")).isSome = true
  controls : (relayedControls? input).isSome = true

/-- What the checks pass over is not there. -/
structure NothingPassedOver (input : JsValue) : Prop where
  rows : ∀ name ∈ ["sessions", "projects"], ∀ rows, fieldItems? input name = some rows →
    ∀ row ∈ rows, isObjectLike row = true
  token : OffersPage input → (taskSessionToken? (input.get "nextPageToken")).isSome = true

/-! ## Rows -/

lemma takeUnits_prefix (n : ℕ) (l : List Char) : JsString.takeUnits n l <+: l ∧
    ((JsString.takeUnits n l).map JsString.utf16Units).sum ≤ n := by
  induction l generalizing n with
  | nil => exact ⟨List.prefix_rfl, Nat.zero_le n⟩
  | cons c l ih =>
    rw [JsString.takeUnits]
    split_ifs with hfits
    · obtain ⟨hbegins, hsum⟩ := ih (n - JsString.utf16Units c)
      refine ⟨List.cons_prefix_cons.mpr ⟨rfl, hbegins⟩, ?_⟩
      rw [List.map_cons, List.sum_cons]
      omega
    · exact ⟨List.nil_prefix, Nat.zero_le n⟩

lemma showsBeginning (value : JsValue) (limit : ℕ) :
    ShowsBeginning value limit (boundedTaskSessionText value limit) := by
  cases value with
  | str text =>
    show (boundedTaskSessionText (.str text) limit).toList <+: (foldedText text).toList ∧ _
    rw [boundedTaskSessionText]
    split_ifs with hlong
    · obtain ⟨hbegins, hsum⟩ := takeUnits_prefix limit (foldedText text).toList
      rw [utf16Length, JsString.slice, String.toList_ofList]
      exact ⟨hbegins, hsum⟩
    · exact ⟨List.prefix_rfl, Nat.not_lt.mp hlong⟩
  | undefined | null | bool b | int n | nonInteger | arr items | obj entries =>
    exact ⟨List.nil_prefix, Nat.zero_le limit⟩

lemma eq_str_of_taskSessionToken? {value : JsValue} {token : String}
    (h : taskSessionToken? value = some token) : value = .str token := by
  unfold taskSessionToken? at h
  split at h
  · split_ifs at h
    rw [Option.some.inj h]
  · cases h

variable {row : JsValue}

lemma relaySession?_eq_some {session : RelayTaskSession}
    (h : relaySession? row = some session) : SessionRelayed row session := by
  obtain ⟨token, htoken, h⟩ := Option.bind_eq_some_iff.mp h
  obtain ⟨projectToken, hproject, h⟩ := Option.bind_eq_some_iff.mp h
  obtain rfl := Option.some.inj h
  exact ⟨eq_str_of_taskSessionToken? htoken, eq_str_of_taskSessionToken? hproject,
    showsBeginning _ _, showsBeginning _ _⟩

lemma relayProject?_eq_some {project : RelayTaskSessionProject}
    (h : relayProject? row = some project) : ProjectRelayed row project := by
  obtain ⟨token, htoken, h⟩ := Option.bind_eq_some_iff.mp h
  obtain rfl := Option.some.inj h
  exact ⟨eq_str_of_taskSessionToken? htoken, showsBeginning _ _⟩

lemma isSome_relaySession? : (relaySession? row).isSome = true ↔
    (taskSessionToken? (row.get "token")).isSome = true ∧
      (taskSessionToken? (row.get "projectToken")).isSome = true := by
  rw [relaySession?]
  cases taskSessionToken? (row.get "token") with
  | none => exact ⟨fun h => (by cases h), fun h => (by cases h.1)⟩
  | some token =>
    cases taskSessionToken? (row.get "projectToken") with
    | none => exact ⟨fun h => (by cases h), fun h => (by cases h.2)⟩
    | some projectToken => exact ⟨fun _ => ⟨rfl, rfl⟩, fun _ => rfl⟩

lemma isSome_relayProject? : (relayProject? row).isSome = true ↔
    (taskSessionToken? (row.get "token")).isSome = true := by
  rw [relayProject?]
  cases taskSessionToken? (row.get "token") with
  | none => exact ⟨fun h => (by cases h), fun h => (by cases h)⟩
  | some token => exact ⟨fun _ => rfl, fun _ => rfl⟩

lemma forall₂_of_mapM {α β : Type} {f : α → Option β} {l : List α} {out : List β}
    (h : l.mapM f = some out) : List.Forall₂ (fun a b => f a = some b) l out := by
  induction l generalizing out with
  | nil =>
    obtain rfl := Option.some.inj h
    exact .nil
  | cons a l ih =>
    rw [List.mapM_cons] at h
    obtain ⟨b, hb, h⟩ := Option.bind_eq_some_iff.mp h
    obtain ⟨rest, hrest, h⟩ := Option.bind_eq_some_iff.mp h
    obtain rfl := Option.some.inj h
    exact .cons hb (ih hrest)

lemma isSome_mapM {α β : Type} {f : α → Option β} {l : List α} :
    (l.mapM f).isSome = true ↔ ∀ a ∈ l, (f a).isSome = true := by
  induction l with
  | nil => exact ⟨fun _ a hmem => (by cases hmem), fun _ => rfl⟩
  | cons a l ih =>
    rw [List.mapM_cons, List.forall_mem_cons, ← ih]
    cases f a with
    | none => exact ⟨fun h => (by cases h), fun h => (by cases h.1)⟩
    | some b =>
      cases hrest : l.mapM f with
      | none => exact ⟨fun h => (by cases h), fun h => (by cases h.2)⟩
      | some rest => exact ⟨fun _ => ⟨rfl, rfl⟩, fun _ => rfl⟩

/-! ## Pages -/

variable {input : JsValue} {page : TaskSessionListResult}

lemma validateTaskSessionListResult_eq_ok : validateTaskSessionListResult input = .ok page ↔
      reportsSuccess input = true ∧ relayPage? input = some page := by
  rw [validateTaskSessionListResult]
  by_cases hsuccess : reportsSuccess input = true
  · rw [if_pos hsuccess]
    cases relayPage? input with
    | none => exact ⟨fun h => (by cases h), fun h => (by cases h.2)⟩
    | some other =>
      exact ⟨fun h => ⟨hsuccess, congrArg some (Except.ok.inj h)⟩,
        fun h => congrArg Except.ok (Option.some.inj h.2)⟩
  · rw [if_neg hsuccess]
    exact ⟨fun h => (by cases h), fun h => absurd h.1 hsuccess⟩

lemma relayPage?_eq_some (h : relayPage? input = some page) : ∃ sessions projects,
    boundedItems? input "sessions" MAX_TASK_SESSION_ROWS = some sessions ∧
    boundedItems? input "projects" MAX_TASK_SESSION_PROJECTS = some projects ∧
    (sessions.filter isObjectLike).mapM relaySession? = some page.sessions ∧
    (projects.filter isObjectLike).mapM relayProject? = some page.projects ∧
    relayedControls? input = some page.controls ∧
    page.nextPageToken = taskSessionToken? (input.get "nextPageToken") ∧
    page.hasMore = page.nextPageToken.isSome := by
  obtain ⟨sessions, hsessions, h⟩ := Option.bind_eq_some_iff.mp h
  obtain ⟨projects, hprojects, h⟩ := Option.bind_eq_some_iff.mp h
  obtain ⟨relayedSessions, hrelayed, h⟩ := Option.bind_eq_some_iff.mp h
  obtain ⟨relayedProjects, hrelayed', h⟩ := Option.bind_eq_some_iff.mp h
  obtain ⟨controls, hcontrols, h⟩ := Option.bind_eq_some_iff.mp h
  obtain rfl := Option.some.inj h
  exact ⟨sessions, projects, hsessions, hprojects, hrelayed, hrelayed', hcontrols, rfl, rfl⟩

lemma relayable_iff : Relayable input ↔ ∃ page, validateTaskSessionListResult input = .ok page := by
  constructor
  · rintro ⟨hsuccess, ⟨sessions, hsessions, hrows⟩, ⟨projects, hprojects, hrows'⟩, hcontrols⟩
    have hrelayed : ((sessions.filter isObjectLike).mapM relaySession?).isSome = true :=
      isSome_mapM.mpr fun row hmem => isSome_relaySession?.mpr
        (hrows row (List.mem_filter.mp hmem).1 (List.mem_filter.mp hmem).2)
    have hrelayed' : ((projects.filter isObjectLike).mapM relayProject?).isSome = true :=
      isSome_mapM.mpr fun row hmem => isSome_relayProject?.mpr
        (hrows' row (List.mem_filter.mp hmem).1 (List.mem_filter.mp hmem).2)
    obtain ⟨relayedSessions, hrelayed⟩ := Option.isSome_iff_exists.mp hrelayed
    obtain ⟨relayedProjects, hrelayed'⟩ := Option.isSome_iff_exists.mp hrelayed'
    obtain ⟨controls, hcontrols⟩ := Option.isSome_iff_exists.mp hcontrols
    have hpage : (relayPage? input).isSome = true := by
      rw [relayPage?, hsessions, hprojects]
      simp only [Option.bind_eq_bind, Option.bind_some, hrelayed, hrelayed', hcontrols]
      rfl
    obtain ⟨page, hpage⟩ := Option.isSome_iff_exists.mp hpage
    exact ⟨page, validateTaskSessionListResult_eq_ok.mpr ⟨hsuccess, hpage⟩⟩
  · rintro ⟨page, hpage⟩
    obtain ⟨hsuccess, hpage⟩ := validateTaskSessionListResult_eq_ok.mp hpage
    obtain ⟨sessions, projects, hsessions, hprojects, hrelayed, hrelayed', hcontrols, -, -⟩ :=
      relayPage?_eq_some hpage
    refine ⟨hsuccess, ⟨sessions, hsessions, fun row hmem hlike => ?_⟩,
      ⟨projects, hprojects, fun row hmem hlike => ?_⟩, by rw [hcontrols]; rfl⟩
    · exact isSome_relaySession?.mp (isSome_mapM.mp (by rw [hrelayed]; rfl) row
        (List.mem_filter.mpr ⟨hmem, hlike⟩))
    · exact isSome_relayProject?.mp (isSome_mapM.mp (by rw [hrelayed']; rfl) row
        (List.mem_filter.mpr ⟨hmem, hlike⟩))

lemma fieldItems?_of_boundedItems? {name : String} {limit : ℕ} {rows : List JsValue}
    (h : boundedItems? input name limit = some rows) : fieldItems? input name = some rows :=
  (Option.filter_eq_some_iff.mp h).1

lemma isObjectLike_of_length {β : Type} {relay? : JsValue → Option β} {rows : List JsValue}
    {relayed : List β} (hrelayed : (rows.filter isObjectLike).mapM relay? = some relayed)
    (hlength : rows.length = relayed.length) : ∀ row ∈ rows, isObjectLike row = true := by
  have hcount := (forall₂_of_mapM hrelayed).length_eq
  rw [← hlength] at hcount
  exact List.length_filter_eq_length_iff.mp hcount

/-- A page is complete or refused if and only if, once what is checked is in order, every row is an
object and a page that is offered has a usable token. -/
theorem completeOrRefused_iff (input : JsValue) :
    CompleteOrRefused input ↔ (Relayable input → NothingPassedOver input) := by
  constructor
  · intro hcomplete hrelayable
    obtain ⟨page, hpage⟩ := relayable_iff.mp hrelayable
    obtain ⟨sessions, projects, hsessions, hprojects, hrelayed, hrelayed', -, htoken, -⟩ :=
      relayPage?_eq_some (validateTaskSessionListResult_eq_ok.mp hpage).2
    have hall := hcomplete page hpage
    refine ⟨fun name hname rows hrows => ?_, fun hoffers => ?_⟩
    · rcases List.mem_cons.mp hname with rfl | hname
      · obtain ⟨received, hreceived, hsame⟩ := hall.sessions
        obtain rfl := Option.some.inj (hrows.symm.trans hreceived)
        obtain rfl := Option.some.inj (hrows.symm.trans (fieldItems?_of_boundedItems? hsessions))
        exact isObjectLike_of_length hrelayed hsame.length_eq
      · obtain rfl := List.mem_singleton.mp hname
        obtain ⟨received, hreceived, hsame⟩ := hall.projects
        obtain rfl := Option.some.inj (hrows.symm.trans hreceived)
        obtain rfl := Option.some.inj (hrows.symm.trans (fieldItems?_of_boundedItems? hprojects))
        exact isObjectLike_of_length hrelayed' hsame.length_eq
    · obtain ⟨token, -, hcontinued⟩ := hall.continued hoffers
      rw [← htoken, hcontinued]
      rfl
  · intro hnothing page hpage
    obtain ⟨hrows, hoffered⟩ := hnothing (relayable_iff.mpr ⟨page, hpage⟩)
    obtain ⟨sessions, projects, hsessions, hprojects, hrelayed, hrelayed', -, htoken, hmore⟩ :=
      relayPage?_eq_some (validateTaskSessionListResult_eq_ok.mp hpage).2
    have hsessions := fieldItems?_of_boundedItems? hsessions
    have hprojects := fieldItems?_of_boundedItems? hprojects
    rw [List.filter_eq_self.mpr (hrows "sessions" List.mem_cons_self sessions hsessions)]
      at hrelayed
    rw [List.filter_eq_self.mpr (hrows "projects" (List.mem_cons_of_mem _ List.mem_cons_self)
      projects hprojects)] at hrelayed'
    refine ⟨⟨sessions, hsessions, (forall₂_of_mapM hrelayed).imp fun _ _ => relaySession?_eq_some⟩,
      ⟨projects, hprojects, (forall₂_of_mapM hrelayed').imp fun _ _ => relayProject?_eq_some⟩,
      fun hnone hoffers => ?_, fun hoffers => ?_⟩
    · rw [hmore, htoken, hoffered hoffers] at hnone
      cases hnone
    · obtain ⟨token, hsome⟩ := Option.isSome_iff_exists.mp (hoffered hoffers)
      exact ⟨token, eq_str_of_taskSessionToken? hsome, htoken.trans hsome⟩

/-- A row that is a number is passed over, and the page is relayed without it. -/
theorem not_completeOrRefused_number : ¬∀ input, CompleteOrRefused input := by
  intro hall
  have hpage : validateTaskSessionListResult
      (.obj [("ok", .bool true), ("sessions", .arr [.int 7])]) = .ok ⟨[], [], none, false, none⟩ :=
    rfl
  obtain ⟨rows, hrows, hsame⟩ := (hall _ _ hpage).sessions
  obtain rfl : [.int 7] = rows := Option.some.inj hrows
  cases hsame

end Free4Chat
