import Free4Chat.Data.KeyedMap
import Free4Chat.Data.Paging
import Free4Chat.Transition.Reachable
import Mathlib.Data.Int.Notation

/-!
# Session Discovery

A Human browses the sessions that a harness knows of, page by page. Whatever identifies a session, a
project or a position in the listing stays in the Runtime: the Human sees opaque tokens, which are
issued to one Human for a short time.

* `SessionProvider`: the listing of a harness, which is finite.
* `pathWithinRoot` and `filterTaskSessions`: which sessions are shown.
* `fetchSessions`: the provider is asked until there is a row to show.
* `DiscoveryRun`: the tables of the tokens, and what was served and accepted so far.
* `DiscoveryRun.next?`: one request. `discoverySystem`: the transition system.

The labels of the projects and the controls that come with a page are left out, and so is what
becomes of a selection that was accepted.
-/

namespace Free4Chat

/-! ## Sessions -/

/-- A session that the provider knows of. -/
structure ACPSessionInfo where
  sessionID : String
  cwd : String
  title : String := ""
  updatedAt : String := ""
deriving DecidableEq

/-- The provider of sessions: its pages by a directory to filter by, if any, and a cursor. -/
structure SessionProvider where
  list : Option String → String → Option (List ACPSessionInfo × String)
  -- The listing ends.
  finite : ∀ cwd, ∃ pages, Paging.Pages (list cwd) "" "" pages

/-- The components of an absolute path, once it is cleaned. -/
def cleanComponents (path : String) : List String :=
  (path.splitOn "/").foldl (fun components component =>
    if component = "" ∨ component = "." then components
    else if component = ".." then components.dropLast
    else components ++ [component]) []

/-- Whether a path is a directory or lies in it. -/
def pathWithinRoot (root candidate : String) : Bool :=
  root.startsWith "/" && candidate.startsWith "/" &&
    (cleanComponents root).isPrefixOf (cleanComponents candidate)

/-- The sessions of a page that are shown: those in the workspaces of the Runtime are not, and a
session is shown once. -/
def filterTaskSessions (root : String) (seen : List String) :
    List ACPSessionInfo → List ACPSessionInfo
  | [] => []
  | info :: sessions =>
    if pathWithinRoot root info.cwd then filterTaskSessions root seen sessions
    else if info.sessionID ∈ seen then filterTaskSessions root seen sessions
    else info :: filterTaskSessions root (info.sessionID :: seen) sessions

/-! ## Tokens -/

/-- How long a token is good for, in milliseconds. -/
def taskSessionTokenTTL : ℤ := 300000

/-- How many sessions may be selected at a time. -/
def taskSessionMaxSessionTokens : ℕ := 64

/-- How many projects are known at a time. -/
def taskSessionMaxProjectTokens : ℕ := 24

/-- How many listings may be under way at a time. -/
def taskSessionMaxPageTokens : ℕ := 8

/-- How many pages of the provider make one page at most. -/
def taskSessionMaxACPPagesPerList : ℕ := 3

/-- How many rows a page has at most. -/
def maxResidentSessionRows : ℕ := 10

/-- A session that a Human may select. -/
structure TaskSessionSelection where
  token : ℕ
  sessionID : String
  cwd : String
  humanParticipantID : String
  expiresAt : ℤ

/-- A project that a Human may select. -/
structure TaskSessionProject where
  token : ℕ
  cwd : String
  humanParticipantID : String
  expiresAt : ℤ

/-- A position in a listing: the directory that it is filtered by, the cursor of the next page of
the provider, and the rows that are left of the current one. -/
structure PagePosition where
  cwd : Option String := none
  cursor : String := ""
  pending : List ACPSessionInfo := []

/-- A listing that a Human may go on with. -/
structure TaskSessionPage where
  token : ℕ
  position : PagePosition
  human : String
  expires : ℤ

instance : Keyed TaskSessionSelection ℕ := ⟨TaskSessionSelection.token⟩
instance : Keyed TaskSessionProject ℕ := ⟨TaskSessionProject.token⟩
instance : Keyed TaskSessionPage ℕ := ⟨TaskSessionPage.token⟩

/-! ## The provider -/

/-- What was fetched from the provider for a page. -/
structure Fetched where
  pending : List ACPSessionInfo
  cursor : String
  -- The pages of the provider that were consumed.
  pages : List (List ACPSessionInfo) := []

/-- A page of the provider is consumed. -/
def Fetched.consume (f : Fetched) (root : String) (sessions : List ACPSessionInfo)
    (cursor : String) : Fetched where
  pending := f.pending ++ filterTaskSessions root [] sessions
  cursor := cursor
  pages := f.pages ++ [sessions]

/-- The provider is asked until there is a row to show. A request may fail. -/
def fetchSessions (list : String → Option (List ACPSessionInfo × String)) (root : String)
    (failsAt : Option ℕ) : ℕ → ℕ → Fetched → Option Fetched
  | 0, _, f => some f
  | limit + 1, fetched, f =>
    if f.pending = [] then
      match if failsAt = some fetched then none else list f.cursor with
      | none => if 0 < fetched then some f else none
      | some (sessions, cursor) =>
        if cursor = "" then some (f.consume root sessions cursor)
        else fetchSessions list root failsAt limit (fetched + 1) (f.consume root sessions cursor)
    else some f

/-! ## Runs -/

/-- A page that was served. -/
structure ServedPage where
  rows : List ACPSessionInfo
  -- The rows of the provider that were consumed.
  consumed : List ACPSessionInfo
  hasMore : Bool
deriving DecidableEq

/-- A listing that a Human follows, from its first page on. -/
structure DiscoveryWalk where
  human : String
  cwd : Option String
  served : List ServedPage
  nextPageToken : Option ℕ
deriving DecidableEq

/-- A row of a page. -/
structure ResidentTaskSession where
  token : ℕ
  title : String
  projectToken : ℕ
  updatedAt : String

/-- The tables of the tokens, and what was served and accepted so far. -/
structure DiscoveryRun where
  -- The participants of the Room that are Humans.
  humans : List String := []
  -- The next token. Tokens are random, and never issued twice.
  nextToken : ℕ := 0
  sessions : KeyedMap TaskSessionSelection := .empty
  projects : KeyedMap TaskSessionProject := .empty
  pages : KeyedMap TaskSessionPage := .empty
  walks : List DiscoveryWalk := []
  -- The tokens of sessions and pages that were issued and accepted, with the Human.
  issued : List (ℕ × String) := []
  accepted : List (ℕ × String) := []
  -- The tokens of pages that were presented, evicted, or have expired.
  retired : List ℕ := []

/-- A request for a page. -/
structure SessionListControl where
  humanParticipantID : String
  pageToken : Option ℕ := none
  projectToken : Option ℕ := none

/-- One request. -/
inductive DiscoveryStep where
  -- The roster of the Room changes.
  | roster (humans : List String)
  | list (control : SessionListControl) (now : ℤ) (failsAt : Option ℕ)
  | prepare (human : String) (sessionToken : Option ℕ) (now : ℤ)
  | cancel (now : ℤ)

namespace DiscoveryWalk

variable (w : DiscoveryWalk)

/-- The rows that were served. -/
def rows : List ACPSessionInfo := w.served.flatMap ServedPage.rows

end DiscoveryWalk

namespace DiscoveryRun

variable (d : DiscoveryRun) (human : String) (now : ℤ)

/-- Whether a Human is in the Room. -/
def sessionHumanIsCurrent : Bool := human ≠ "" && d.humans.contains human

/-- What has expired is dropped. -/
def pruneTaskSessionCache : DiscoveryRun :=
  { d with
    sessions := d.sessions.filter fun selection => now < selection.expiresAt
    projects := d.projects.filter fun project => now < project.expiresAt
    pages := d.pages.filter fun page => now < page.expires
    retired := d.retired ++
      (d.pages.values.filter fun page => page.expires ≤ now).map TaskSessionPage.token }

/-! ### Issuing tokens -/

/-- A token for a session is issued, if there is room. -/
def issueSessionToken? (info : ACPSessionInfo) : Option DiscoveryRun :=
  if taskSessionMaxSessionTokens ≤ d.sessions.size then none
  else some { d with
    nextToken := d.nextToken + 1
    sessions := d.sessions.set {
      token := d.nextToken
      sessionID := info.sessionID
      cwd := info.cwd
      humanParticipantID := human
      expiresAt := now + taskSessionTokenTTL }
    issued := d.issued ++ [(d.nextToken, human)] }

/-- The project of a Human for a directory. -/
def project? (cwd : String) : Option TaskSessionProject :=
  d.projects.values.find? fun project =>
    project.humanParticipantID = human && project.cwd = cwd

/-- The token of the project is returned, or issued if there is room. -/
def issueProjectToken? (cwd : String) : Option (DiscoveryRun × ℕ) :=
  match d.project? human cwd with
  | some project => some (d, project.token)
  | none =>
    if taskSessionMaxProjectTokens ≤ d.projects.size then none
    else some ({ d with
      nextToken := d.nextToken + 1
      projects := d.projects.set {
        token := d.nextToken
        cwd
        humanParticipantID := human
        expiresAt := now + taskSessionTokenTTL } }, d.nextToken)

/-- The rows of a page are issued, as long as there is room. -/
def issueRows (human : String) (now : ℤ) :
    ℕ → List ACPSessionInfo → DiscoveryRun → DiscoveryRun × List ResidentTaskSession
  | 0, _, d => (d, [])
  | _ + 1, [], d => (d, [])
  | limit + 1, info :: pending, d =>
    match d.issueSessionToken? human now info with
    | none => (d, [])
    | some d₁ =>
      match d₁.issueProjectToken? human now info.cwd with
      | none => (d₁, [])
      | some (d₂, projectToken) =>
        ((issueRows human now limit pending d₂).1,
          ⟨d.nextToken, info.title, projectToken, info.updatedAt⟩ ::
            (issueRows human now limit pending d₂).2)

/-- The page that expires first. -/
def oldestPage? : Option TaskSessionPage :=
  d.pages.values.find? fun page => d.pages.values.all fun page' => page.expires ≤ page'.expires

/-- Pages are evicted until there is room for one. -/
def evictPages : ℕ → DiscoveryRun → DiscoveryRun
  | 0, d => d
  | fuel + 1, d =>
    if taskSessionMaxPageTokens ≤ d.pages.size then
      match d.oldestPage? with
      | none => d
      | some page =>
        evictPages fuel
          { d with pages := d.pages.erase page.token, retired := d.retired ++ [page.token] }
    else d

/-- A token for a position is issued. -/
def issuePageToken (position : PagePosition) : DiscoveryRun :=
  let d' := evictPages d.pages.size d
  { d' with
    nextToken := d'.nextToken + 1
    pages := d'.pages.set {
      token := d'.nextToken, position, human, expires := now + taskSessionTokenTTL }
    issued := d'.issued ++ [(d'.nextToken, human)] }

/-! ### Pages -/

/-- The token of a page is taken, whoever presents it. -/
def takePageToken (token : Option ℕ) : DiscoveryRun :=
  match token with
  | none => d
  | some t => { d with pages := d.pages.erase t, retired := d.retired ++ [t] }

/-- The token is accepted. -/
def accept (token : Option ℕ) : DiscoveryRun :=
  { d with accepted := d.accepted ++ (token.map fun t => (t, human)).toList }

/-- The position that a request goes on from. -/
def position? (control : SessionListControl) : Option PagePosition :=
  match control.pageToken with
  | some t =>
    ((d.pages.get? t).filter fun page => page.human = control.humanParticipantID).map
      TaskSessionPage.position
  | none =>
    match control.projectToken with
    | none => some {}
    | some t =>
      ((d.projects.get? t).filter fun project =>
        now < project.expiresAt && project.humanParticipantID = control.humanParticipantID).map
          fun project => { cwd := some project.cwd }

/-- What is fetched from a position. -/
def fetch? (provider : SessionProvider) (root : String) (position : PagePosition)
    (failsAt : Option ℕ) : Option Fetched :=
  fetchSessions (provider.list position.cwd) root failsAt taskSessionMaxACPPagesPerList 0
    { pending := position.pending, cursor := position.cursor }

/-- A page is recorded. -/
def record (pageToken : Option ℕ) (cwd : Option String) (page : ServedPage)
    (nextPageToken : Option ℕ) : DiscoveryRun :=
  match pageToken with
  | none => { d with walks := d.walks ++ [{ human, cwd, served := [page], nextPageToken }] }
  | some t =>
    { d with
      walks := d.walks.map fun w =>
        if w.nextPageToken = some t then { w with served := w.served ++ [page], nextPageToken }
        else w }

/-- A page is served. -/
def servePage (pageToken : Option ℕ) (cwd : Option String) (f : Fetched) : DiscoveryRun :=
  let issued := issueRows human now maxResidentSessionRows f.pending d
  let remainder := f.pending.drop issued.2.length
  let page : ServedPage := {
    rows := f.pending.take issued.2.length
    consumed := f.pages.flatten
    hasMore := remainder ≠ [] || f.cursor ≠ "" }
  if page.hasMore then
    let d' := issued.1.issuePageToken human now { cwd, cursor := f.cursor, pending := remainder }
    d'.record human pageToken cwd page (some (d'.nextToken - 1))
  else issued.1.record human pageToken cwd page none

/-- A request for a page. -/
def listTaskSessions (provider : SessionProvider) (root : String) (control : SessionListControl)
    (failsAt : Option ℕ) : DiscoveryRun :=
  let human := control.humanParticipantID
  if d.sessionHumanIsCurrent human then
    let d₁ := d.pruneTaskSessionCache now
    match d₁.position? now control with
    | none => d₁.takePageToken control.pageToken
    | some position =>
      let d₂ := (d₁.takePageToken control.pageToken).accept human control.pageToken
      match fetch? provider root position failsAt with
      | none => d₂
      | some f => d₂.servePage human now control.pageToken position.cwd f
  else d

/-! ### Selections -/

/-- A selection is taken, whoever presents its token, and accepted if it is the Human's. -/
def prepareTaskSession (sessionToken : Option ℕ) : DiscoveryRun :=
  let d₁ := d.pruneTaskSessionCache now
  match sessionToken with
  | none => d₁
  | some t =>
    let d₂ := { d₁ with sessions := d₁.sessions.erase t }
    match d₁.sessions.get? t with
    | none => d₂
    | some selection =>
      if selection.humanParticipantID ≠ "" ∧ selection.humanParticipantID = human ∧
          d₂.sessionHumanIsCurrent human = true then
        d₂.accept human (some t)
      else d₂

/-- One request. -/
def next? (provider : SessionProvider) (root : String) : DiscoveryStep → Option DiscoveryRun
  | .roster humans => some { d with humans }
  | .list control now failsAt => some (d.listTaskSessions now provider root control failsAt)
  | .prepare human sessionToken now => some (d.prepareTaskSession human now sessionToken)
  | .cancel now => some (d.pruneTaskSessionCache now)

end DiscoveryRun

/-- Runs of session discovery with a provider. -/
def discoverySystem (provider : SessionProvider) (root : String) :
    TransitionSystem DiscoveryRun DiscoveryStep where
  init d := d = {}
  step d label d' := d.next? provider root label = some d'

end Free4Chat
