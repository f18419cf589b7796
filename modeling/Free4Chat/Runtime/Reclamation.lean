import Free4Chat.Data.ListFilterMap
import Free4Chat.Runtime.LedgerInvariant
import Free4Chat.Runtime.ScopeTable

/-!
# Scopes Are Given Back without Loss

Only scopes whose Tasks are over are removed, the map and the list of the scopes agree and stay
small, as do those of the remembered conversations, no scope is in both, and a remembered
conversation is resumed with exactly its markers: nothing that it consumed is delivered again, and
everything that came after is. This holds in every run in which no event is admitted to a scope
while another handler is between two sections that belong together.

The source breaks this: `releaseTerminalTaskScope` removes a scope in one critical section, and
`rememberReleasedConversation` remembers its conversation in a later one. The handler of an event
from a stream that was replaced may be between the two when the handler of the next stream admits
an event of the same Task.

* `ScopesKept` and `ScopeStepKept`: what holds of states, and of steps.
* `ScopeRun.keepsReleases`: no section comes between two that belong together.
* `scopesKept_of_keepsReleases`: the properties, over every run.
* `not_scopesKept_released`: a run in which a scope is served and remembered at once.
-/

namespace Free4Chat

/-! ## The properties -/

/-- The map and the list of the scopes agree, without repetition. They and the remembered
conversations are few, and no scope that is served is remembered. -/
structure ScopesKept (s : ScopeRun) : Prop where
  listed : ∀ scope, scope ∈ s.table.scopedSessions.keys ↔ scope ∈ s.table.scopeOrder
  nodup : s.table.scopeOrder.Nodup
  bounded : s.table.scopeOrder.length ≤ maxLogicalTaskScopes
  releasedBounded : s.table.releasedTaskScopes.size ≤ maxReleasedTaskScopes
  disjoint : ∀ scope ∈ s.table.releasedTaskScopes.keys, scope ∉ s.table.scopedSessions.keys

/-- A conversation is resumed with an event: it has its markers, and the event is delivered with
everything after them if it is addressed and comes after them itself. -/
structure LogicalSessionState.Resumed (state : LogicalSessionState) (markers : DeliveryMarkers)
    (buffer : List RoomEvent) (event : RoomEvent) : Prop where
  restored : state.markers = markers
  continued : state.session.rematerializing = true
  delivers : event.addressed = true → markers.start < event.sequence →
    state.session.pendingAddressed = [event.sequence] ∧
      state.session.pendingContexts.get? event.sequence =
        some { after := markers.start, target := event.sequence
               events := eventsForScope buffer state.scope markers.start event.sequence }
  withholds : (event.addressed = false ∨ event.sequence ≤ markers.start) →
    state.session.pendingAddressed = []

namespace ScopeRun

variable (s : ScopeRun)

/-- The conversations that were given back and are not remembered yet. -/
def unremembered : List ReleasedConversation := s.acceptors.filterMap Acceptor.remembers?

/-- The scopes that are served for events which are not recorded yet, with their objects. -/
def unrecorded : List (String × ℕ) := s.acceptors.filterMap Acceptor.records?

/-- Whether the conversation of a scope was given back and is not remembered yet. -/
def remembering (scope : String) : Bool := s.unremembered.any (·.scope = scope)

/-- Whether a scope is served for an event which is not recorded yet. -/
def recording (scope : String) : Bool := s.unrecorded.any (·.1 = scope)

/-- The event with which a step resumes a remembered conversation. -/
def resumedBy? : ScopeStep → Option RoomEvent
  | .accept event =>
    if s.table.stopped = false ∧ s.table.admissionsClosed = false ∧
        s.table.releasedTaskScopes.contains (scopeForRoomEvent event) = true ∧
        scopeForRoomEvent event ≠ "" ∧ scopeForRoomEvent event ≠ roomScope ∧
        s.table.scopeOrder.length < maxLogicalTaskScopes then
      some event
    else none
  | .goOn index .record =>
    (s.acceptors[index]?.filter fun acceptor => acceptor.records?.isSome &&
      (s.table.scopedSessions.get? acceptor.scope).any (·.session.rematerializing)).map
        Acceptor.event
  | _ => none

/-- Whether a section of the handler of an event comes between two sections that belong
together. -/
def handlerKeepsReleases (acceptor : Acceptor) (step : AcceptStep) : Bool :=
  match acceptor.phase, step with
  | .releasing candidate _, .release => !s.recording candidate.scope
  | .retrying, .retry =>
    !s.remembering acceptor.scope && !s.table.scopedSessions.contains acceptor.scope
  | _, _ => true

/-- No scope is served again before its conversation is remembered, and none is changed or served
for another event before the event for which it is served is recorded. -/
def keepsReleases : ScopeStep → Bool
  | .accept event =>
    !s.remembering (scopeForRoomEvent event) && !s.recording (scopeForRoomEvent event)
  | .goOn index step => s.acceptors[index]?.all fun acceptor => s.handlerKeepsReleases acceptor step
  | .work scope _ => !s.recording scope
  | _ => true

end ScopeRun

/-- Only scopes that may be given back are removed, with the markers that they have, and a
remembered conversation is resumed with the markers that it was given back with. Everything that it
consumed lies at or below its start. -/
structure ScopeStepKept (s : ScopeRun) (step : ScopeStep) (s' : ScopeRun) : Prop where
  removes : ∀ scope ∈ s.table.scopeOrder, scope ∉ s'.table.scopeOrder →
    s.table.reclaimableTaskScope scope = true ∧
      s'.givenBack.get? scope =
        (s.table.scopedSessions.get? scope).map fun state => (scope, state.markers)
  resumes : ∀ event, s.resumedBy? step = some event → ∃ markers state,
    s.givenBack.get? (scopeForRoomEvent event) = some (scopeForRoomEvent event, markers) ∧
      s'.table.scopedSessions.get? (scopeForRoomEvent event) = some state ∧
      state.Resumed markers s'.table.eventBuffer event ∧
      ∀ sequence, (scopeForRoomEvent event, sequence) ∈ s.consumed → sequence ≤ markers.start

/-! ## One ledger -/

lemma le_foldl_max {l : List ℕ} {a b : ℕ} (h : b ≤ a ∨ b ∈ l) : b ≤ l.foldl max a := by
  by_contra hlt
  obtain ⟨ha, hl⟩ := foldl_max_lt_iff.mp (Nat.lt_of_not_le hlt)
  rcases h with h | h
  · exact absurd ha (Nat.not_lt.mpr h)
  · exact absurd (hl b h) (Nat.lt_irrefl b)

namespace LogicalSession

variable {session : LogicalSession} {target through generation : ℕ}

lemma start_bootstrap (session : LogicalSession) (generation : ℕ) :
    (session.bootstrap generation).effectiveDeliveryStart = session.effectiveDeliveryStart := by
  rw [bootstrap]
  split <;> rfl

lemma start_le_recordDelivery : session.effectiveDeliveryStart ≤
    (session.recordDelivery target through).effectiveDeliveryStart := by
  unfold recordDelivery
  split
  · exact Nat.le_refl _
  · split
    next h =>
      show max session.deliveredThrough session.roomDeliveryFloor ≤
        max through session.roomDeliveryFloor
      omega
    next => exact Nat.le_refl _

lemma le_start_collapseDeliveredPrefix {sequence : ℕ}
    (h : sequence ≤ session.effectiveDeliveryStart ∨ sequence ∈ session.deliveredPrefix) :
    sequence ≤ session.collapseDeliveredPrefix.effectiveDeliveryStart := by
  show sequence ≤ max (session.deliveredPrefix.foldl max session.deliveredThrough)
    session.roomDeliveryFloor
  have hbefore : session.deliveredThrough ≤
      session.deliveredPrefix.foldl max session.deliveredThrough :=
    le_foldl_max (Or.inl (Nat.le_refl _))
  rcases h with h | h
  · rw [effectiveDeliveryStart] at h
    omega
  · have hprefix : sequence ≤ session.deliveredPrefix.foldl max session.deliveredThrough :=
      le_foldl_max (Or.inr h)
    omega

lemma le_start_acknowledge {sequence : ℕ} (h : sequence ≤ session.effectiveDeliveryStart ∨
      sequence ∈ ((session.bootstrap generation).recordDelivery target through).deliveredPrefix) :
    sequence ≤ (session.acknowledge target through generation).effectiveDeliveryStart := by
  refine le_start_collapseDeliveredPrefix (h.imp_left fun hstart => ?_)
  rw [← start_bootstrap session generation] at hstart
  exact hstart.trans start_le_recordDelivery

lemma start_observe (hkept : ¬(generation ≠ 0 ∧ session.observedHarnessGeneration ≠ 0 ∧
      session.observedHarnessGeneration ≠ generation ∧ session.rematerializing = false)) :
    (session.observe generation target).effectiveDeliveryStart =
      session.effectiveDeliveryStart := by
  unfold observe
  by_cases hloaded : session.rematerializing = true
  · rw [if_pos hloaded]
    split_ifs <;> rfl
  · split_ifs with hzero hnew hsame
    · rfl
    · rfl
    · rfl
    all_goals exact absurd ⟨hzero, hnew, hsame, eq_false_of_ne_true hloaded⟩ hkept

end LogicalSession

namespace SessionWork

variable {buffer : List RoomEvent} {state : LogicalSessionState} {work : SessionWork}

lemma le_start_apply (hkept : work.replaces state = false) {sequence : ℕ}
    (h : sequence ≤ state.session.effectiveDeliveryStart ∨ sequence ∈ work.consumes state) :
    sequence ≤ (work.apply buffer state).session.effectiveDeliveryStart := by
  cases work with
  | acknowledge target through generation => exact LogicalSession.le_start_acknowledge h
  | observe generation target =>
    have hstart : sequence ≤ state.session.effectiveDeliveryStart :=
      h.resolve_right List.not_mem_nil
    refine hstart.trans_eq (LogicalSession.start_observe ?_).symm
    rintro ⟨hzero, hnew, hsame, hloaded⟩
    rw [replaces, LogicalSessionState.replacedBy, hloaded] at hkept
    simp [hzero, hnew, hsame] at hkept
  | lookUp target =>
    refine (h.resolve_right List.not_mem_nil).trans_eq ?_
    show _ = (state.session.lookUp state.scope buffer target).effectiveDeliveryStart
    rw [LogicalSession.lookUp]
    split <;> rfl
  | ackPending sequence =>
    refine (h.resolve_right List.not_mem_nil).trans_eq ?_
    show _ = (state.session.ackPending sequence).effectiveDeliveryStart
    rw [LogicalSession.ackPending]
    split <;> rfl
  | discard =>
    have hstart : sequence ≤ state.session.effectiveDeliveryStart :=
      h.resolve_right List.not_mem_nil
    have hbefore : state.session.deliveredThrough ≤
        state.session.pendingAddressed.foldl max state.session.deliveredThrough :=
      le_foldl_max (Or.inl (Nat.le_refl _))
    rw [LogicalSession.effectiveDeliveryStart] at hstart
    show sequence ≤ max (state.session.pendingAddressed.foldl max state.session.deliveredThrough)
      state.session.roomDeliveryFloor
    omega
  | recover | markSteerPriority | noteTerminal | acknowledgeTranscripts =>
    exact h.resolve_right List.not_mem_nil

end SessionWork

/-! ## The table -/

namespace LogicalSession

variable {session : LogicalSession}

lemma recordIn_eq (t : ScopeTable) (buffer : List RoomEvent) (event : RoomEvent)
    {newScope : Bool} (h : newScope = false ∨ session.rematerializing = true) :
    t.recordIn buffer event newScope session =
      if (session.observeEvent (scopeForRoomEvent event) t.participantID event).accepts event then
        (session.observeEvent (scopeForRoomEvent event) t.participantID event).accept
          (scopeForRoomEvent event) buffer event.sequence
      else session.observeEvent (scopeForRoomEvent event) t.participantID event := by
  have hstart : (if newScope then
      (session.observeEvent (scopeForRoomEvent event) t.participantID event).startAt event
        else session.observeEvent (scopeForRoomEvent event) t.participantID event) =
      session.observeEvent (scopeForRoomEvent event) t.participantID event := by
    rcases h with h | h
    · rw [h, if_neg Bool.false_ne_true]
    · split
      · rw [startAt, if_pos (show (session.observeEvent _ _ event).rematerializing = true from h)]
      · rfl
  rw [ScopeTable.recordIn, hstart]

lemma markers_recordIn (t : ScopeTable) (buffer : List RoomEvent) (event : RoomEvent)
    {newScope : Bool} (h : newScope = false ∨ session.rematerializing = true) :
    (t.recordIn buffer event newScope session).deliveredThrough = session.deliveredThrough ∧
      (t.recordIn buffer event newScope session).roomDeliveryFloor = session.roomDeliveryFloor ∧
      (t.recordIn buffer event newScope session).observedHarnessGeneration =
        session.observedHarnessGeneration ∧
      (t.recordIn buffer event newScope session).bootstrappedHarnessGeneration =
        session.bootstrappedHarnessGeneration := by
  rw [recordIn_eq t buffer event h]
  split <;> exact ⟨rfl, rfl, rfl, rfl⟩

lemma rematerializing_recordIn (t : ScopeTable) (buffer : List RoomEvent) (event : RoomEvent)
    (newScope : Bool) :
    (t.recordIn buffer event newScope session).rematerializing = session.rematerializing := by
  unfold ScopeTable.recordIn startAt
  dsimp only
  split_ifs <;> rfl

end LogicalSession

namespace ScopeTable

variable {wireLength : RoomEvent → ℕ} {t t' : ScopeTable} {scope other : String}

/-- The parts of the table agree. -/
structure Listed (t : ScopeTable) : Prop where
  live : t.scopedSessions.ListedBy t.scopeOrder
  bounded : t.scopeOrder.length ≤ maxLogicalTaskScopes
  released : t.releasedTaskScopes.ListedBy t.releasedTaskOrder
  releasedBounded : t.releasedTaskOrder.length ≤ maxReleasedTaskScopes
  disjoint : ∀ scope ∈ t.releasedTaskOrder, scope ∉ t.scopeOrder

@[simp]
lemma scope_newState : (t.newState scope).scope = scope := by
  rw [newState]
  split <;> rfl

lemma ensureSessionRef?_cases (h : t.ensureSessionRef? scope = some t') :
    (t.scopedSessions.contains scope = true ∧ t' = t) ∨
      (t.scopedSessions.contains scope = false ∧ t.scopeOrder.length < maxLogicalTaskScopes ∧
        t' = { t with
          releasedTaskScopes := t.releasedTaskScopes.erase scope
          releasedTaskOrder := t.releasedTaskOrder.filter (· ≠ scope)
          scopedSessions := t.scopedSessions.set (t.newState scope)
          scopeOrder := t.scopeOrder ++ [scope]
          nextID := t.nextID + 1 }) := by
  unfold ensureSessionRef? at h
  split_ifs at h with hlive hfull
  · exact Or.inl ⟨hlive, (Option.some.inj h).symm⟩
  · exact Or.inr ⟨eq_false_of_ne_true hlive, Nat.lt_of_not_le hfull, (Option.some.inj h).symm⟩

lemma ensureSessionRef?_of_lt (hnew : t.scopedSessions.contains scope = false)
    (hroom : t.scopeOrder.length < maxLogicalTaskScopes) :
    ∃ table, t.ensureSessionRef? scope = some table := by
  rw [ensureSessionRef?, hnew, if_neg Bool.false_ne_true, if_neg (Nat.not_le.mpr hroom)]
  exact ⟨_, rfl⟩

lemma get?_recordEvent {event : RoomEvent} {newScope : Bool} {id : ℕ} :
    (t.recordEvent wireLength event newScope id).scopedSessions.get? other =
      if scopeForRoomEvent event = other then
        (t.scopedSessions.get? other).map fun state => state.updateSession fun session =>
          if state.id = id then
            t.recordIn (evictEvents wireLength (t.eventBuffer ++ [event])) event newScope session
          else session.observeEvent (scopeForRoomEvent event) t.participantID event
      else t.scopedSessions.get? other := by
  rw [recordEvent]
  dsimp only
  rw [KeyedMap.get?_modify]

lemma get?_workOn {work : SessionWork} : (t.workOn scope work).scopedSessions.get? other =
    if scope = other then
      (t.scopedSessions.get? other).map fun state => work.apply t.eventBuffer state
    else t.scopedSessions.get? other := by
  rw [workOn]
  dsimp only
  rw [KeyedMap.get?_modify]

namespace Listed

section

variable (h : t.Listed)
include h

lemma contains_eq_false_iff : t.scopedSessions.contains scope = false ↔ scope ∉ t.scopeOrder := by
  rw [h.live.mem_iff_isSome, KeyedMap.contains, Bool.not_eq_true]

lemma congr (hsessions : t'.scopedSessions = t.scopedSessions)
    (horder : t'.scopeOrder = t.scopeOrder)
    (hreleased : t'.releasedTaskScopes = t.releasedTaskScopes)
    (hreleasedOrder : t'.releasedTaskOrder = t.releasedTaskOrder) : t'.Listed := by
  obtain ⟨hlive, hbounded, hheld, hheldBounded, hdisjoint⟩ := h
  refine ⟨?_, ?_, ?_, ?_, ?_⟩
  · rw [hsessions, horder]
    exact hlive
  · rw [horder]
    exact hbounded
  · rw [hreleased, hreleasedOrder]
    exact hheld
  · rw [hreleasedOrder]
    exact hheldBounded
  · rw [hreleasedOrder, horder]
    exact hdisjoint

lemma ensure (hensured : t.ensureSessionRef? scope = some t') : t'.Listed := by
  rcases ensureSessionRef?_cases hensured with ⟨-, rfl⟩ | ⟨hnew, hroom, rfl⟩
  · exact h
  · rw [h.contains_eq_false_iff] at hnew
    refine ⟨?_, ?_, h.released.erase_filter, ?_, fun other hother hlive => ?_⟩
    · have hset := h.live.set_append (v := t.newState scope) (by
        rw [LogicalSessionState.key_eq, scope_newState]
        exact hnew)
      rw [LogicalSessionState.key_eq, scope_newState] at hset
      exact hset
    · show (t.scopeOrder ++ [scope]).length ≤ maxLogicalTaskScopes
      rw [List.length_append, List.length_singleton]
      exact hroom
    · exact (List.length_filter_le _ _).trans h.releasedBounded
    · obtain ⟨hmem, hne⟩ := List.mem_filter.mp hother
      rcases List.mem_append.mp hlive with hlive | hlive
      · exact h.disjoint other hmem hlive
      · exact absurd (List.mem_singleton.mp hlive) (of_decide_eq_true hne)

lemma release : (t.releaseTerminalTaskScope scope).Listed where
  live := h.live.erase_filter
  bounded := (List.length_filter_le _ _).trans h.bounded
  released := h.released
  releasedBounded := h.releasedBounded
  disjoint other hother hlive := h.disjoint other hother (List.mem_of_mem_filter hlive)

lemma rememberedOrder {released : ReleasedConversation}
    (hreleased : released.scope ∉ t.releasedTaskOrder) :
    t.rememberedOrder released.scope = t.releasedTaskOrder ++ [released.scope] ∧
      (t.releasedTaskScopes.set released).ListedBy (t.releasedTaskOrder ++ [released.scope]) := by
  refine ⟨?_, h.released.set_append hreleased⟩
  rw [ScopeTable.rememberedOrder, if_neg]
  rw [KeyedMap.contains, h.released.get?_eq_none hreleased]
  exact Bool.false_ne_true

lemma remember {released : ReleasedConversation}
    (hreleased : released.scope ∉ t.releasedTaskOrder) (hlive : released.scope ∉ t.scopeOrder) :
    (t.rememberReleasedConversation released).Listed := by
  obtain ⟨horder, hlisted⟩ := h.rememberedOrder hreleased
  rw [rememberReleasedConversation, horder]
  refine ⟨h.live, h.bounded, hlisted.evictOldest, KeyedMap.length_evictOldest_le,
    fun other hother => ?_⟩
  rcases List.mem_append.mp (KeyedMap.evictOldest_suffix.subset hother) with hmem | hmem
  · exact h.disjoint other hmem
  · rw [List.mem_singleton.mp hmem]
    exact hlive

lemma record {event : RoomEvent} {newScope : Bool} {id : ℕ} :
    (t.recordEvent wireLength event newScope id).Listed :=
  ⟨h.live.modify fun state => state.key_updateSession _, h.bounded, h.released,
    h.releasedBounded, h.disjoint⟩

lemma workOn {work : SessionWork} : (t.workOn scope work).Listed :=
  ⟨h.live.modify fun state => work.key_apply t.eventBuffer state, h.bounded, h.released,
    h.releasedBounded, h.disjoint⟩

end

end Listed

end ScopeTable

/-! ## The invariant -/

namespace ScopeRun

/-- A conversation was given back, and is remembered or will be. -/
def Remembers (s : ScopeRun) (released : ReleasedConversation) : Prop :=
  released ∈ s.unremembered ∨ released ∈ s.table.releasedTaskScopes.values

/-- What the conversation of a scope consumed lies at or below its watermark. -/
def Covers (s : ScopeRun) (scope : String) (sequence : ℕ) : Prop :=
  (∃ state, s.table.scopedSessions.get? scope = some state ∧
      sequence ≤ state.session.effectiveDeliveryStart) ∨
    ∃ released, s.Remembers released ∧ released.scope = scope ∧ sequence ≤ released.markers.start

/-- The state of a scope is as it was when the scope was served: nothing waits, and its markers are
those of the conversation that it resumes, if there is one. -/
structure AwaitsEvent (s : ScopeRun) (state : LogicalSessionState) : Prop where
  idle : state.session.pendingAddressed = []
  resumes : state.session.rematerializing = true →
    s.givenBack.get? state.scope = some (state.scope, state.markers)
  starts : state.session.rematerializing = false →
    ∀ sequence, (state.scope, sequence) ∉ s.consumed

end ScopeRun

/-- The lists of the table agree. A conversation that is not remembered yet is that of a scope which
is neither served nor remembered. The markers of conversations are those they were given back with,
and lie above everything they consumed. The scope that is served for an event is as it was. -/
structure ScopeInvariant (s : ScopeRun) : Prop where
  listed : s.table.Listed
  away : ∀ released ∈ s.unremembered,
    released.scope ∉ s.table.scopeOrder ∧ released.scope ∉ s.table.releasedTaskOrder
  distinct : (s.unremembered.map (·.scope)).Nodup
  kept : ∀ released, s.Remembers released →
    s.givenBack.get? released.scope = some (released.scope, released.markers)
  covered : ∀ scope sequence, (scope, sequence) ∈ s.consumed → s.Covers scope sequence
  served : ∀ entry ∈ s.unrecorded, ∃ state,
    s.table.scopedSessions.get? entry.1 = some state ∧ state.id = entry.2 ∧ s.AwaitsEvent state
  once : (s.unrecorded.map Prod.fst).Nodup

namespace ScopeInvariant

variable {wireLength : RoomEvent → ℕ} {s s' : ScopeRun} {scope : String} {table : ScopeTable}

lemma mem_forget {gone : String → Bool} {entry : String × ℕ} :
    entry ∈ (s.forget gone).consumed ↔ entry ∈ s.consumed ∧ gone entry.1 = false := by
  rw [ScopeRun.forget, List.mem_filter, Bool.not_eq_true']

lemma ne_of_recording (hrecording : s.recording scope = false) {entry : String × ℕ}
    (hmem : entry ∈ s.unrecorded) : scope ≠ entry.1 := by
  intro hsame
  rw [ScopeRun.recording, List.any_eq_false] at hrecording
  exact hrecording entry hmem (decide_eq_true hsame.symm)

variable {acceptor : Acceptor} {index : ℕ}

lemma consumed_goOn {phase : AcceptPhase} :
    (s.goOn index acceptor phase).consumed = s.consumed := rfl

lemma of_init (participantID : String) : ScopeInvariant { table := { participantID } } where
  listed := ⟨.empty, Nat.zero_le _, .empty, Nat.zero_le _, fun _ hmem => absurd hmem List.not_mem_nil⟩
  away _ hmem := absurd hmem List.not_mem_nil
  distinct := List.nodup_nil
  kept _ hremembers := hremembers.elim (fun hmem => absurd hmem List.not_mem_nil)
    fun hmem => absurd hmem List.not_mem_nil
  covered _ _ hmem := absurd hmem List.not_mem_nil
  served _ hmem := absurd hmem List.not_mem_nil
  once := List.nodup_nil

lemma of_frame (h : ScopeInvariant s) (hlisted : s'.table.Listed)
    (hsessions : s'.table.scopedSessions = s.table.scopedSessions)
    (horder : s'.table.scopeOrder = s.table.scopeOrder)
    (hreleased : s'.table.releasedTaskScopes = s.table.releasedTaskScopes)
    (hreleasedOrder : s'.table.releasedTaskOrder = s.table.releasedTaskOrder)
    (hunremembered : s'.unremembered = s.unremembered)
    (hunrecorded : s'.unrecorded.Sublist s.unrecorded)
    (hconsumed : s'.consumed = s.consumed) (hgivenBack : s'.givenBack = s.givenBack) :
    ScopeInvariant s' := by
  have hremembers : ∀ released, s'.Remembers released ↔ s.Remembers released := by
    intro released
    rw [ScopeRun.Remembers, hunremembered, hreleased]
    rfl
  refine ⟨hlisted, ?_, ?_, fun released hheld => ?_, fun scope sequence hmem => ?_,
    fun entry hmem => ?_, ?_⟩
  · rw [hunremembered, horder, hreleasedOrder]
    exact h.away
  · rw [hunremembered]
    exact h.distinct
  · rw [hgivenBack]
    exact h.kept released ((hremembers released).mp hheld)
  · rw [hconsumed] at hmem
    rcases h.covered scope sequence hmem with hlive | ⟨released, hheld, hrest⟩
    · refine Or.inl ?_
      rw [hsessions]
      exact hlive
    · exact Or.inr ⟨released, (hremembers released).mpr hheld, hrest⟩
  · obtain ⟨state, hget, hid, hidle, hresumes, hstarts⟩ := h.served entry (hunrecorded.subset hmem)
    rw [hsessions]
    refine ⟨state, hget, hid, hidle, ?_, ?_⟩
    · rw [hgivenBack]
      exact hresumes
    · rw [hconsumed]
      exact hstarts
  · exact h.once.sublist (hunrecorded.map _)

lemma covered_of_notMem (h : ScopeInvariant s) (hnot : scope ∉ s.table.scopeOrder) {sequence : ℕ}
    (hmem : (scope, sequence) ∈ s.consumed) : ∃ released, s.Remembers released ∧
      released.scope = scope ∧ sequence ≤ released.markers.start := by
  rcases h.covered scope sequence hmem with ⟨state, hget, -⟩ | hheld
  · exact absurd (h.listed.live.mem_of_get? hget) hnot
  · exact hheld

variable {released : ReleasedConversation}

lemma get?_of_remembers (hheld : s.Remembers released)
    (hnot : s.remembering released.scope = false) :
    s.table.releasedTaskScopes.get? released.scope = some released := by
  rcases hheld with hmem | hmem
  · rw [ScopeRun.remembering, List.any_eq_false] at hnot
    exact absurd (decide_eq_true rfl) (hnot released hmem)
  · exact KeyedMap.get?_key hmem

section

variable (h : ScopeInvariant s)
include h

lemma awaitsEvent_newState (hnot : scope ∉ s.table.scopeOrder)
    (hremembering : s.remembering scope = false) :
    s.AwaitsEvent (s.table.newState scope) ∧ ∀ sequence, (scope, sequence) ∈ s.consumed →
      sequence ≤ (s.table.newState scope).session.effectiveDeliveryStart := by
  have hconsumed : ∀ sequence, (scope, sequence) ∈ s.consumed → ∃ released,
      s.table.releasedTaskScopes.get? scope = some released ∧
        sequence ≤ released.markers.start := by
    intro sequence hmem
    obtain ⟨released, hheld, rfl, hle⟩ := h.covered_of_notMem hnot hmem
    exact ⟨released, get?_of_remembers hheld hremembering, hle⟩
  cases hreleased : s.table.releasedTaskScopes.get? scope with
  | none =>
    have hnone : ∀ sequence, (scope, sequence) ∉ s.consumed := by
      intro sequence hmem
      obtain ⟨released, hget, -⟩ := hconsumed sequence hmem
      rw [hreleased] at hget
      cases hget
    have hstate : s.table.newState scope = { scope, id := s.table.nextID } := by
      rw [ScopeTable.newState, hreleased]
    rw [hstate]
    refine ⟨⟨rfl, fun hloaded => ?_, fun _ => hnone⟩, fun sequence hmem => ?_⟩
    · cases hloaded
    · exact absurd hmem (hnone sequence)
  | some released =>
    have hkey : released.scope = scope := KeyedMap.key_of_get? hreleased
    have hstate : s.table.newState scope = .resume scope s.table.nextID released.markers := by
      rw [ScopeTable.newState, hreleased]
    rw [hstate]
    refine ⟨⟨rfl, fun _ => ?_, fun hloaded => ?_⟩, fun sequence hmem => ?_⟩
    · have hkept := h.kept released (Or.inr (KeyedMap.mem_of_get? hreleased))
      rw [hkey] at hkept
      exact hkept
    · cases hloaded
    · obtain ⟨other, hget, hle⟩ := hconsumed sequence hmem
      rw [hreleased] at hget
      obtain rfl := Option.some.inj hget
      exact hle

lemma of_ensure (hremembering : s.remembering scope = false)
    (hnew : s.table.scopedSessions.contains scope = false)
    (hensured : s.table.ensureSessionRef? scope = some table) : ScopeInvariant { s with table } ∧
      table.scopedSessions.get? scope = some (s.table.newState scope) := by
  have hlisted := h.listed.ensure hensured
  have hnot := h.listed.contains_eq_false_iff.mp hnew
  rcases ScopeTable.ensureSessionRef?_cases hensured with ⟨hlive, -⟩ | ⟨-, -, rfl⟩
  · rw [hnew] at hlive
    cases hlive
  obtain ⟨-, hstart⟩ := h.awaitsEvent_newState hnot hremembering
  -- The state of another scope is what it was.
  have hget : ∀ other, (s.table.scopedSessions.set (s.table.newState scope)).get? other =
      if scope = other then some (s.table.newState scope) else s.table.scopedSessions.get? other := by
    intro other
    rw [KeyedMap.get?_set, LogicalSessionState.key_eq, ScopeTable.scope_newState]
  refine ⟨⟨hlisted, fun released hmem => ?_, h.distinct, fun released hheld => ?_,
    fun other sequence hmem => ?_, fun entry hmem => ?_, h.once⟩, ?_⟩
  · obtain ⟨hlive, hreleased⟩ := h.away released hmem
    refine ⟨fun happend => ?_, fun hfilter => hreleased (List.mem_of_mem_filter hfilter)⟩
    rcases List.mem_append.mp happend with hmem' | hmem'
    · exact hlive hmem'
    · rw [ScopeRun.remembering, List.any_eq_false] at hremembering
      exact hremembering released hmem (decide_eq_true (List.mem_singleton.mp hmem'))
  · refine h.kept released (hheld.imp_right fun hmem => ?_)
    exact (KeyedMap.mem_erase.mp hmem).1
  · by_cases hsame : scope = other
    · subst hsame
      refine Or.inl ⟨s.table.newState scope, ?_, hstart sequence hmem⟩
      rw [hget, if_pos rfl]
    · rcases h.covered other sequence hmem with ⟨state, hlive, hle⟩ | ⟨released, hheld, rfl, hle⟩
      · refine Or.inl ⟨state, ?_, hle⟩
        rw [hget, if_neg hsame]
        exact hlive
      · refine Or.inr ⟨released, hheld.imp_right fun hmem' => ?_, rfl, hle⟩
        exact KeyedMap.mem_erase.mpr ⟨hmem', Ne.symm hsame⟩
  · obtain ⟨state, hlive, hid, hidle, hresumes, hstarts⟩ := h.served entry hmem
    refine ⟨state, ?_, hid, hidle, hresumes, hstarts⟩
    rw [hget, if_neg]
    · exact hlive
    · rintro rfl
      exact hnot (h.listed.live.mem_of_get? hlive)
  · rw [hget, if_pos rfl]

lemma of_record {event : RoomEvent} (newScope : Bool) {state : LogicalSessionState}
    (hstate : s.table.scopedSessions.get? (scopeForRoomEvent event) = some state)
    (hawaits : newScope = true → s.AwaitsEvent state)
    (hrecording : s.recording (scopeForRoomEvent event) = false) : ScopeInvariant { s with
      table := s.table.recordEvent wireLength event newScope state.id } := by
  have hkey : state.scope = scopeForRoomEvent event := KeyedMap.key_of_get? hstate
  have hserved : ∀ entry ∈ s.unrecorded, scopeForRoomEvent event ≠ entry.1 := fun _ hmem =>
    ne_of_recording hrecording hmem
  refine ⟨h.listed.record, h.away, h.distinct, h.kept, fun scope sequence hmem => ?_,
    fun entry hmem => ?_, h.once⟩
  · rcases h.covered scope sequence hmem with ⟨other, hother, hle⟩ | hheld
    · refine Or.inl ?_
      dsimp only
      rw [ScopeTable.get?_recordEvent]
      split
      next hsame =>
        subst hsame
        rw [hstate] at hother ⊢
        obtain rfl := Option.some.inj hother
        refine ⟨_, rfl, hle.trans_eq ?_⟩
        show _ = LogicalSession.effectiveDeliveryStart (if state.id = state.id then _ else _)
        rw [if_pos rfl]
        -- A new scope that resumes no conversation has nothing consumed.
        have hold : newScope = false ∨ state.session.rematerializing = true := by
          cases newScope with
          | false => exact Or.inl rfl
          | true =>
            refine Or.inr (eq_true_of_ne_false fun hloaded => ?_)
            refine (hawaits rfl).starts hloaded sequence ?_
            rw [hkey]
            exact hmem
        have hmarkers := LogicalSession.markers_recordIn s.table
          (evictEvents wireLength (s.table.eventBuffer ++ [event])) event hold
        rw [LogicalSession.effectiveDeliveryStart, LogicalSession.effectiveDeliveryStart,
          hmarkers.1, hmarkers.2.1]
      next => exact ⟨other, hother, hle⟩
    · exact Or.inr hheld
  · obtain ⟨other, hother, hid, hidle, hresumes, hstarts⟩ := h.served entry hmem
    refine ⟨other, ?_, hid, hidle, hresumes, hstarts⟩
    dsimp only
    rw [ScopeTable.get?_recordEvent, if_neg (hserved entry hmem)]
    exact hother

variable {before after : List ReleasedConversation}

/-- A scope is removed. Its conversation is about to be remembered, or forgotten with what it
consumed. -/
lemma of_release {state : LogicalSessionState}
    (hstate : s.table.scopedSessions.get? scope = some state)
    (hrecording : s.recording scope = false) (given : Option ReleasedConversation)
    (hgiven : ∀ released ∈ given, released.scope = scope ∧ released.markers = state.markers)
    (hbefore : s.unremembered = before ++ after)
    (hafter : s'.unremembered = before ++ (given.toList ++ after))
    (hunrecorded : s'.unrecorded = s.unrecorded)
    (htable : s'.table = s.table.releaseTerminalTaskScope scope)
    (hgivenBack : s'.givenBack = s.givenBack.set (scope, state.markers))
    (hconsumed : ∀ entry ∈ s'.consumed, entry ∈ s.consumed ∧ (given = none → entry.1 ≠ scope)) :
    ScopeInvariant s' := by
  have hlive : scope ∈ s.table.scopeOrder := h.listed.live.mem_of_get? hstate
  -- No conversation of the scope was given back before.
  have hother : ∀ released, s.Remembers released → released.scope ≠ scope := by
    rintro released (hmem | hmem) rfl
    · exact (h.away released hmem).1 hlive
    · refine h.listed.disjoint released.scope ?_ hlive
      exact h.listed.released.mem_of_get? (KeyedMap.get?_key hmem)
  have hunremembered : ∀ released, released ∈ s'.unremembered →
      released ∈ s.unremembered ∨ released ∈ given := by
    intro released hmem
    rw [hafter, List.mem_append, List.mem_append, Option.mem_toList] at hmem
    rw [hbefore, List.mem_append]
    tauto
  have hreleased : s'.table.releasedTaskScopes = s.table.releasedTaskScopes := by rw [htable]; rfl
  have hremembers : ∀ released, s'.Remembers released → s.Remembers released ∨ released ∈ given := by
    rintro released (hmem | hmem)
    · exact (hunremembered released hmem).imp_left Or.inl
    · rw [hreleased] at hmem
      exact Or.inl (Or.inr hmem)
  have hget : ∀ other, s'.table.scopedSessions.get? other =
      if scope = other then none else s.table.scopedSessions.get? other := by
    intro other
    rw [htable]
    exact KeyedMap.get?_erase _ _ _
  refine ⟨?_, fun released hmem => ?_, ?_, fun released hheld => ?_, fun other sequence hmem => ?_,
    fun entry hmem => ?_, ?_⟩
  · rw [htable]
    exact h.listed.release
  · rw [htable]
    rcases hunremembered released hmem with hmem | hmem
    · obtain ⟨hlive', hreleased'⟩ := h.away released hmem
      exact ⟨fun hfilter => hlive' (List.mem_of_mem_filter hfilter), hreleased'⟩
    · rw [(hgiven released hmem).1]
      refine ⟨fun hfilter => ?_, fun hreleased' => h.listed.disjoint scope hreleased' hlive⟩
      exact of_decide_eq_true (List.mem_filter.mp hfilter).2 rfl
  · have hdistinct := h.distinct
    rw [hbefore] at hdistinct
    rw [hafter]
    cases given with
    | none => exact hdistinct
    | some released =>
      show ((before ++ released :: after).map (·.scope)).Nodup
      rw [List.map_append, List.map_cons, List.nodup_middle, List.nodup_cons, ← List.map_append]
      refine ⟨fun hmem => ?_, hdistinct⟩
      obtain ⟨other, hother', hsame⟩ := List.mem_map.mp hmem
      rw [← hbefore] at hother'
      exact hother other (Or.inl hother') (hsame.trans (hgiven released rfl).1)
  · rw [hgivenBack, KeyedMap.get?_set, Keyed.key_pair]
    rcases hremembers released hheld with hheld | hmem
    · rw [if_neg (Ne.symm (hother released hheld))]
      exact h.kept released hheld
    · obtain ⟨hscope, hmarkers⟩ := hgiven released hmem
      rw [if_pos hscope.symm, hscope, hmarkers]
  · obtain ⟨hmem, hnot⟩ := hconsumed (other, sequence) hmem
    rcases h.covered other sequence hmem with ⟨found, hfound, hle⟩ | ⟨released, hheld, rfl, hle⟩
    · by_cases hsame : scope = other
      · subst hsame
        rw [hstate] at hfound
        obtain rfl := Option.some.inj hfound
        cases hsome : given with
        | none => exact absurd rfl (hnot hsome)
        | some released =>
          obtain ⟨hscope, hmarkers⟩ := hgiven released hsome
          refine Or.inr ⟨released, Or.inl ?_, hscope, ?_⟩
          · rw [hafter, hsome, List.mem_append, List.mem_append]
            exact Or.inr (Or.inl (List.mem_singleton_self _))
          · rw [hmarkers]
            exact hle
      · refine Or.inl ⟨found, ?_, hle⟩
        rw [hget, if_neg hsame]
        exact hfound
    · refine Or.inr ⟨released, ?_, rfl, hle⟩
      rcases hheld with hmem' | hmem'
      · refine Or.inl ?_
        rw [hbefore, List.mem_append] at hmem'
        rw [hafter, List.mem_append, List.mem_append]
        tauto
      · refine Or.inr ?_
        rw [hreleased]
        exact hmem'
  · rw [hunrecorded] at hmem
    obtain ⟨found, hfound, hid, hidle, hresumes, hstarts⟩ := h.served entry hmem
    have hne := ne_of_recording hrecording hmem
    have hkey : found.scope = entry.1 := KeyedMap.key_of_get? hfound
    refine ⟨found, ?_, hid, hidle, fun hloaded => ?_, fun hloaded sequence hconsumed' => ?_⟩
    · rw [hget, if_neg hne]
      exact hfound
    · rw [hgivenBack, KeyedMap.get?_set, Keyed.key_pair, if_neg (by rw [hkey]; exact hne)]
      exact hresumes hloaded
    · exact hstarts hloaded sequence (hconsumed _ hconsumed').1
  · rw [hunrecorded]
    exact h.once

/-- A conversation is remembered. What is evicted is forgotten with what it consumed. -/
lemma of_remember (hbefore : s.unremembered = before ++ (released :: after))
    (hafter : s'.unremembered = before ++ after) (hunrecorded : s'.unrecorded = s.unrecorded)
    (htable : s'.table = s.table.rememberReleasedConversation released)
    (hgivenBack : s'.givenBack = s.givenBack)
    (hconsumed : ∀ entry ∈ s'.consumed, entry ∈ s.consumed ∧
      (entry.1 ∈ s.table.rememberedOrder released.scope →
        entry.1 ∈ s'.table.releasedTaskOrder)) : ScopeInvariant s' := by
  have hmem : released ∈ s.unremembered := by
    rw [hbefore]
    exact List.mem_append_right _ List.mem_cons_self
  obtain ⟨hlive, hreleased⟩ := h.away released hmem
  obtain ⟨horder, hlisted⟩ := h.listed.rememberedOrder hreleased
  have hsubset : ∀ other ∈ s'.unremembered, other ∈ s.unremembered := by
    intro other hother
    rw [hafter, List.mem_append] at hother
    rw [hbefore, List.mem_append, List.mem_cons]
    tauto
  have hdistinct := h.distinct
  rw [hbefore, List.map_append, List.map_cons, List.nodup_middle, List.nodup_cons,
    ← List.map_append, ← hafter] at hdistinct
  have hsessions : s'.table.scopedSessions = s.table.scopedSessions := by rw [htable]; rfl
  have hkeptOrder : s'.table.releasedTaskOrder = (KeyedMap.evictOldest maxReleasedTaskScopes
      (s.table.releasedTaskScopes.set released)
        (s.table.releasedTaskOrder ++ [released.scope])).2 := by
    rw [htable, ScopeTable.rememberReleasedConversation, horder]
  -- What is still remembered is what was remembered, or the new conversation.
  have hget : ∀ scope ∈ s'.table.releasedTaskOrder, s'.table.releasedTaskScopes.get? scope =
      if released.scope = scope then some released
      else s.table.releasedTaskScopes.get? scope := by
    intro scope hscope
    rw [hkeptOrder] at hscope
    rw [htable, ScopeTable.rememberReleasedConversation, horder]
    dsimp only
    rw [KeyedMap.get?_evictOldest hlisted hscope, KeyedMap.get?_set, ReleasedConversation.key_eq]
  have hlisted' : s'.table.Listed := by
    rw [htable]
    exact h.listed.remember hreleased hlive
  refine ⟨hlisted', fun other hother => ?_, hdistinct.2, fun other hheld => ?_,
    fun scope sequence hentry => ?_, fun entry hentry => ?_, ?_⟩
  · obtain ⟨hlive', hreleased'⟩ := h.away other (hsubset other hother)
    refine ⟨?_, fun hkept => ?_⟩
    · rw [htable]
      exact hlive'
    · rw [hkeptOrder] at hkept
      rcases List.mem_append.mp (KeyedMap.evictOldest_suffix.subset hkept) with hkept | hkept
      · exact hreleased' hkept
      · rw [List.mem_singleton] at hkept
        exact hdistinct.1 (List.mem_map.mpr ⟨other, hother, hkept⟩)
  · rw [hgivenBack]
    rcases hheld with hother | hother
    · exact h.kept other (Or.inl (hsubset other hother))
    · have hfound := KeyedMap.get?_key hother
      rw [ReleasedConversation.key_eq, hget _ (hlisted'.released.mem_of_get? hfound)] at hfound
      split at hfound
      · obtain rfl := Option.some.inj hfound
        exact h.kept released (Or.inl hmem)
      · exact h.kept other (Or.inr (KeyedMap.mem_of_get? hfound))
  · obtain ⟨hentry, hkept⟩ := hconsumed (scope, sequence) hentry
    rw [horder] at hkept
    rcases h.covered scope sequence hentry with hcovered | ⟨other, hother, rfl, hle⟩
    · refine Or.inl ?_
      rw [hsessions]
      exact hcovered
    · refine Or.inr ⟨other, ?_, rfl, hle⟩
      rcases hother with hother | hother
      · rw [hbefore, List.mem_append, List.mem_cons] at hother
        by_cases hsame : other = released
        · subst hsame
          have hscope := hkept (List.mem_append_right _ (List.mem_singleton_self _))
          have hfound := hget _ hscope
          rw [if_pos rfl] at hfound
          exact Or.inr (KeyedMap.mem_of_get? hfound)
        · refine Or.inl ?_
          rw [hafter, List.mem_append]
          tauto
      · have hfound := KeyedMap.get?_key hother
        rw [ReleasedConversation.key_eq] at hfound
        have hscope := h.listed.released.mem_of_get? hfound
        have hnew := hget _ (hkept (List.mem_append_left _ hscope))
        rw [if_neg (by rintro hsame; rw [hsame] at hreleased; exact hreleased hscope)] at hnew
        rw [hfound] at hnew
        exact Or.inr (KeyedMap.mem_of_get? hnew)
  · rw [hunrecorded] at hentry
    obtain ⟨state, hfound, hid, hidle, hresumes, hstarts⟩ := h.served entry hentry
    rw [hsessions]
    refine ⟨state, hfound, hid, hidle, ?_, fun hloaded sequence hmem' => ?_⟩
    · rw [hgivenBack]
      exact hresumes
    · exact hstarts hloaded sequence (hconsumed _ hmem').1
  · rw [hunrecorded]
    exact h.once

/-- A turn or a settlement changes the ledger of a scope that is served for no other event. -/
lemma of_work {work : SessionWork}
    (hrecording : s.recording scope = false) : ScopeInvariant (s.work scope work) := by
  rw [ScopeRun.work]
  cases hstate : s.table.scopedSessions.get? scope with
  | none => exact h
  | some state =>
    dsimp only
    have hkept : ∀ entry ∈ (if work.replaces state then s.forget (· = scope) else s).consumed,
        entry ∈ s.consumed ∧ (work.replaces state = true → entry.1 ≠ scope) := by
      intro entry hmem
      split at hmem
      next =>
        obtain ⟨hmem, hne⟩ := mem_forget.mp hmem
        exact ⟨hmem, fun _ hsame => of_decide_eq_false hne hsame⟩
      next hreplaces => exact ⟨hmem, fun htrue => absurd htrue hreplaces⟩
    have hframe : (if work.replaces state then s.forget (· = scope) else s).acceptors =
        s.acceptors ∧ (if work.replaces state then s.forget (· = scope) else s).givenBack =
          s.givenBack := by
      split <;> exact ⟨rfl, rfl⟩
    have hunremembered : ∀ consumed, ScopeRun.unremembered
        { (if work.replaces state then s.forget (· = scope) else s) with
          table := s.table.workOn scope work
          consumed } = s.unremembered := fun _ => by
      rw [ScopeRun.unremembered, ScopeRun.unremembered]
      exact congrArg _ hframe.1
    have hunrecorded : ∀ consumed, ScopeRun.unrecorded
        { (if work.replaces state then s.forget (· = scope) else s) with
          table := s.table.workOn scope work
          consumed } = s.unrecorded := fun _ => by
      rw [ScopeRun.unrecorded, ScopeRun.unrecorded]
      exact congrArg _ hframe.1
    refine ⟨h.listed.workOn, ?_, ?_, fun released hheld => ?_, fun other sequence hmem => ?_,
      fun entry hmem => ?_, ?_⟩
    · rw [hunremembered]
      exact h.away
    · rw [hunremembered]
      exact h.distinct
    · rw [ScopeRun.Remembers, hunremembered] at hheld
      dsimp only
      rw [hframe.2]
      exact h.kept released hheld
    · -- What is consumed now lies below the new watermark.
      by_cases hsame : scope = other
      · subst hsame
        refine Or.inl ⟨work.apply s.table.eventBuffer state, ?_, ?_⟩
        · show (s.table.workOn scope work).scopedSessions.get? scope = _
          rw [ScopeTable.get?_workOn, if_pos rfl, hstate]
          rfl
        · cases hreplaces : work.replaces state with
          | true =>
            rcases List.mem_append.mp hmem with hmem | hmem
            · exact absurd rfl ((hkept _ hmem).2 hreplaces)
            · obtain ⟨sequence', hconsumed, -⟩ := List.mem_map.mp hmem
              cases work with
              | observe => exact absurd hconsumed List.not_mem_nil
              | acknowledge | lookUp | recover | ackPending | discard | markSteerPriority
              | noteTerminal | acknowledgeTranscripts => cases hreplaces
          | false =>
            refine SessionWork.le_start_apply hreplaces ?_
            rcases List.mem_append.mp hmem with hmem | hmem
            · refine Or.inl ?_
              rcases h.covered scope sequence (hkept _ hmem).1 with
                ⟨found, hfound, hle⟩ | ⟨released, hheld, rfl, -⟩
              · rw [hstate] at hfound
                obtain rfl := Option.some.inj hfound
                exact hle
              · have hlive := h.listed.live.mem_of_get? hstate
                rcases hheld with hheld | hheld
                · exact absurd hlive (h.away released hheld).1
                · refine absurd hlive (h.listed.disjoint _ ?_)
                  exact h.listed.released.mem_of_get? (KeyedMap.get?_key hheld)
            · obtain ⟨sequence', hconsumed, hpair⟩ := List.mem_map.mp hmem
              obtain rfl := (Prod.mk.inj hpair).2
              exact Or.inr hconsumed
      · have hbefore : (other, sequence) ∈ s.consumed := by
          rcases List.mem_append.mp hmem with hmem | hmem
          · exact (hkept _ hmem).1
          · obtain ⟨sequence', -, hpair⟩ := List.mem_map.mp hmem
            exact absurd (Prod.mk.inj hpair).1 hsame
        rcases h.covered other sequence hbefore with ⟨found, hfound, hle⟩ | ⟨released, hheld, hrest⟩
        · refine Or.inl ⟨found, ?_, hle⟩
          show (s.table.workOn scope work).scopedSessions.get? other = _
          rw [ScopeTable.get?_workOn, if_neg hsame]
          exact hfound
        · refine Or.inr ⟨released, ?_, hrest⟩
          rw [ScopeRun.Remembers, hunremembered]
          exact hheld
    · rw [hunrecorded] at hmem
      obtain ⟨found, hfound, hid, hidle, hresumes, hstarts⟩ := h.served entry hmem
      have hne := ne_of_recording hrecording hmem
      have hkey : found.scope = entry.1 := KeyedMap.key_of_get? hfound
      refine ⟨found, ?_, hid, hidle, fun hloaded => ?_, fun hloaded sequence hconsumed => ?_⟩
      · show (s.table.workOn scope work).scopedSessions.get? entry.1 = _
        rw [ScopeTable.get?_workOn, if_neg hne]
        exact hfound
      · dsimp only
        rw [hframe.2]
        exact hresumes hloaded
      · rcases List.mem_append.mp hconsumed with hconsumed | hconsumed
        · exact hstarts hloaded sequence (hkept _ hconsumed).1
        · obtain ⟨sequence', -, hpair⟩ := List.mem_map.mp hconsumed
          exact hne ((Prod.mk.inj hpair).1.trans hkey)
    · rw [hunrecorded]
      exact h.once

lemma of_accept {event : RoomEvent} (hremembering : s.remembering (scopeForRoomEvent event) = false)
    (hrecording : s.recording (scopeForRoomEvent event) = false) :
    ScopeInvariant (s.accept wireLength event) := by
  unfold ScopeRun.accept
  dsimp only
  split
  · exact h
  split
  · exact h.of_frame (h.listed.congr rfl rfl rfl rfl) rfl rfl rfl rfl rfl (List.Sublist.refl _) rfl
      rfl
  cases hensured : s.table.ensureSessionRef? (scopeForRoomEvent event) with
  | none =>
    have hunremembered : (s.acceptors ++ [({ event } : Acceptor)]).filterMap Acceptor.remembers? =
        s.unremembered := by
      rw [List.filterMap_append]
      exact List.append_nil _
    have hunrecorded : (s.acceptors ++ [({ event } : Acceptor)]).filterMap Acceptor.records? =
        s.unrecorded := by
      rw [List.filterMap_append]
      exact List.append_nil _
    refine h.of_frame h.listed rfl rfl rfl rfl hunremembered ?_ rfl rfl
    rw [← hunrecorded]
    exact List.Sublist.refl _
  | some table =>
    rw [Option.elim_some]
    cases hlive : s.table.scopedSessions.contains (scopeForRoomEvent event) with
    | true =>
      rcases ScopeTable.ensureSessionRef?_cases hensured with ⟨-, rfl⟩ | ⟨hnew, -⟩
      · obtain ⟨state, hstate⟩ := Option.isSome_iff_exists.mp hlive
        rw [ScopeTable.objectOf, hstate]
        exact h.of_record _ hstate (fun hnew => Bool.noConfusion hnew) hrecording
      · rw [hlive] at hnew
        cases hnew
    | false =>
      obtain ⟨hserved, hstate⟩ := h.of_ensure hremembering hlive hensured
      obtain ⟨hawaits, -⟩ :=
        h.awaitsEvent_newState (h.listed.contains_eq_false_iff.mp hlive) hremembering
      rw [ScopeTable.objectOf, hstate]
      exact hserved.of_record _ hstate
        (fun _ => ⟨hawaits.idle, hawaits.resumes, hawaits.starts⟩) hrecording

lemma of_goOn_quiet {phase : AcceptPhase} (hacceptor : s.acceptors[index]? = some acceptor)
    (hremembers : acceptor.remembers? = none)
    (hphase : Acceptor.remembers? { acceptor with phase } = none)
    (hrecords : Acceptor.records? { acceptor with phase } = none) :
    ScopeInvariant (s.goOn index acceptor phase) := by
  obtain ⟨before, after, hbefore, hset, -⟩ := List.filterMap_split Acceptor.remembers? hacceptor
  obtain ⟨before', after', hbefore', hset', -⟩ := List.filterMap_split Acceptor.records? hacceptor
  refine h.of_frame h.listed rfl rfl rfl rfl ?_ ?_ rfl rfl
  · refine (hset _).trans ?_
    rw [hphase, ScopeRun.unremembered, hbefore, hremembers]
  · have hnew : (s.goOn index acceptor phase).unrecorded = before' ++ after' := by
      refine (hset' _).trans ?_
      rw [hrecords]
      rfl
    rw [hnew, ScopeRun.unrecorded, hbefore']
    exact (List.Sublist.refl _).append (List.sublist_append_right _ _)

lemma of_finish
    (hacceptor : s.acceptors[index]? = some acceptor) (hremembers : acceptor.remembers? = none) :
    ScopeInvariant (s.finish index) := by
  obtain ⟨before, after, hbefore, -, herase⟩ := List.filterMap_split Acceptor.remembers? hacceptor
  refine h.of_frame h.listed rfl rfl rfl rfl ?_ ((List.eraseIdx_sublist _ _).filterMap _) rfl rfl
  refine herase.trans ?_
  rw [ScopeRun.unremembered, hbefore, hremembers]
  rfl

lemma of_releasing {index : ℕ} {acceptor : Acceptor}
    {candidate : ReclaimCandidate} {retained : Bool} {state : LogicalSessionState}
    (hacceptor : s.acceptors[index]? = some acceptor)
    (hphase : acceptor.phase = .releasing candidate retained)
    (hrecording : s.recording candidate.scope = false)
    (hstate : s.table.scopedSessions.get? candidate.scope = some state)
    (hnext : s.acceptorNext? wireLength index acceptor .release = some s')
    (hreclaims : s.table.reclaimableTaskScope candidate.scope = true) : ScopeInvariant s' := by
  obtain ⟨before, after, hbefore, hset, -⟩ := List.filterMap_split Acceptor.remembers? hacceptor
  obtain ⟨before', after', hbefore', hset', -⟩ := List.filterMap_split Acceptor.records? hacceptor
  have hremembers : acceptor.remembers? = none := by rw [Acceptor.remembers?, hphase]
  have hrecords : acceptor.records? = none := by rw [Acceptor.records?, hphase]
  rw [hremembers] at hbefore
  unfold ScopeRun.acceptorNext? at hnext
  rw [hphase] at hnext
  dsimp only at hnext
  rw [hreclaims, if_neg (fun hfalse => Bool.noConfusion hfalse), hstate, Option.map_some] at hnext
  cases retained with
  | true =>
    rw [if_pos rfl] at hnext
    obtain rfl := Option.some.inj hnext
    refine h.of_release hstate hrecording (some
      { scope := candidate.scope, markers := state.markers, adopted := candidate.adopted })
      (fun released hmem => ?_) hbefore (hset _) ?_ rfl rfl
      fun entry hmem => ⟨hmem, fun hnone => Option.noConfusion rfl (heq_of_eq hnone)⟩
    · obtain rfl := Option.some.inj hmem
      exact ⟨rfl, rfl⟩
    · refine (hset' _).trans ?_
      rw [ScopeRun.unrecorded, hbefore', hrecords]
      rfl
  | false =>
    rw [if_neg Bool.false_ne_true] at hnext
    obtain rfl := Option.some.inj hnext
    refine h.of_release hstate hrecording none (fun released hmem => ?_) hbefore
      (hset _) ?_ rfl rfl fun entry hmem => ?_
    · cases hmem
    · refine (hset' _).trans ?_
      rw [ScopeRun.unrecorded, hbefore', hrecords]
      rfl
    · rw [consumed_goOn] at hmem
      obtain ⟨hmem, hne⟩ := mem_forget.mp hmem
      exact ⟨hmem, fun _ => of_decide_eq_false hne⟩

lemma of_remembering (hacceptor : s.acceptors[index]? = some acceptor)
    (hphase : acceptor.phase = .remembering released)
    (hnext : s.acceptorNext? wireLength index acceptor .remember = some s') :
    ScopeInvariant s' := by
  obtain ⟨before, after, hbefore, hset, -⟩ := List.filterMap_split Acceptor.remembers? hacceptor
  obtain ⟨before', after', hbefore', hset', -⟩ := List.filterMap_split Acceptor.records? hacceptor
  have hremembers : acceptor.remembers? = some released := by rw [Acceptor.remembers?, hphase]
  have hrecords : acceptor.records? = none := by rw [Acceptor.records?, hphase]
  rw [hremembers] at hbefore
  unfold ScopeRun.acceptorNext? at hnext
  rw [hphase] at hnext
  obtain rfl := Option.some.inj hnext
  refine h.of_remember hbefore (hset _) ?_ rfl rfl fun entry hmem => ?_
  · refine (hset' _).trans ?_
    rw [ScopeRun.unrecorded, hbefore', hrecords]
    rfl
  · rw [consumed_goOn] at hmem
    obtain ⟨hmem, hgone⟩ := mem_forget.mp hmem
    refine ⟨hmem, fun horder => ?_⟩
    rw [List.contains_iff_mem.mpr horder, Bool.true_and, Bool.not_eq_false'] at hgone
    exact List.contains_iff_mem.mp hgone

/-- A scope is served for an event that found the Runtime full. -/
lemma of_retrying
    (hacceptor : s.acceptors[index]? = some acceptor) (hphase : acceptor.phase = .retrying)
    (hremembering : s.remembering acceptor.scope = false)
    (hnew : s.table.scopedSessions.contains acceptor.scope = false)
    (hnext : s.acceptorNext? wireLength index acceptor .retry = some s') : ScopeInvariant s' := by
  obtain ⟨before, after, hbefore, hset, -⟩ := List.filterMap_split Acceptor.remembers? hacceptor
  obtain ⟨before', after', hbefore', hset', -⟩ := List.filterMap_split Acceptor.records? hacceptor
  have hremembers : acceptor.remembers? = none := by rw [Acceptor.remembers?, hphase]
  have hrecords : acceptor.records? = none := by rw [Acceptor.records?, hphase]
  rw [hremembers] at hbefore
  rw [hrecords] at hbefore'
  unfold ScopeRun.acceptorNext? at hnext
  rw [hphase] at hnext
  obtain rfl := Option.some.inj hnext
  cases hensured : s.table.ensureSessionRef? acceptor.scope with
  | none => exact h.of_finish hacceptor hremembers
  | some table =>
    obtain ⟨hserved, hstate⟩ := h.of_ensure hremembering hnew hensured
    have hnot := h.listed.contains_eq_false_iff.mp hnew
    obtain ⟨hawaits, -⟩ := h.awaitsEvent_newState hnot hremembering
    rw [Option.elim_some]
    generalize hgo : ScopeRun.goOn { s with table } index acceptor
      (.recording (table.objectOf acceptor.scope)) = s'
    have htable : s'.table = table := by rw [← hgo]; rfl
    have hconsumed : s'.consumed = s.consumed := by rw [← hgo]; rfl
    have hgivenBack : s'.givenBack = s.givenBack := by rw [← hgo]; rfl
    have hunremembered : s'.unremembered = s.unremembered := by
      rw [← hgo, ScopeRun.unremembered, ScopeRun.unremembered, hbefore]
      exact hset _
    have hunrecorded : s'.unrecorded =
        before' ++ (acceptor.scope, table.objectOf acceptor.scope) :: after' := by
      rw [← hgo]
      exact hset' _
    have hremembers' : ∀ released, s'.Remembers released ↔
        ScopeRun.Remembers { s with table } released := by
      intro released
      rw [ScopeRun.Remembers, hunremembered, htable]
      rfl
    -- The scope is served for no other event.
    have hother : ∀ entry ∈ s.unrecorded, entry.1 ≠ acceptor.scope := by
      rintro entry hmem hsame
      obtain ⟨state, hget, -⟩ := h.served entry hmem
      rw [hsame] at hget
      exact hnot (h.listed.live.mem_of_get? hget)
    refine ⟨?_, ?_, ?_, ?_, fun scope sequence hmem => ?_, fun entry hmem => ?_, ?_⟩
    · rw [htable]
      exact hserved.listed
    · rw [hunremembered, htable]
      exact hserved.away
    · rw [hunremembered]
      exact h.distinct
    · intro released hheld
      rw [hgivenBack]
      exact hserved.kept released ((hremembers' released).mp hheld)
    · rw [hconsumed] at hmem
      rcases hserved.covered scope sequence hmem with hlive | ⟨released, hheld, hrest⟩
      · refine Or.inl ?_
        rw [htable]
        exact hlive
      · exact Or.inr ⟨released, (hremembers' released).mpr hheld, hrest⟩
    · have hlist : entry ∈ s.unrecorded ∨
          entry = (acceptor.scope, table.objectOf acceptor.scope) := by
        rw [hunrecorded, List.mem_append, List.mem_cons] at hmem
        rw [ScopeRun.unrecorded, hbefore', List.mem_append, Option.toList_none, List.nil_append]
        tauto
      rw [htable]
      rcases hlist with hlist | rfl
      · obtain ⟨state, hget, hid, hidle, hresumes, hstarts⟩ := hserved.served entry hlist
        refine ⟨state, hget, hid, hidle, ?_, ?_⟩
        · rw [hgivenBack]
          exact hresumes
        · rw [hconsumed]
          exact hstarts
      · refine ⟨_, hstate, ?_, hawaits.idle, ?_, ?_⟩
        · rw [ScopeTable.objectOf, hstate]
          rfl
        · rw [hgivenBack]
          exact hawaits.resumes
        · rw [hconsumed]
          exact hawaits.starts
    · have honce := h.once
      rw [ScopeRun.unrecorded, hbefore', Option.toList_none, List.nil_append] at honce
      rw [hunrecorded, List.map_append, List.map_cons, List.nodup_middle, List.nodup_cons,
        ← List.map_append]
      refine ⟨fun hmem => ?_, honce⟩
      obtain ⟨entry, hentry, hsame⟩ := List.mem_map.mp hmem
      refine hother entry ?_ hsame
      rw [ScopeRun.unrecorded, hbefore']
      exact hentry

lemma state_of_recording {index id : ℕ}
    (hacceptor : s.acceptors[index]? = some acceptor) (hphase : acceptor.phase = .recording id) :
    ∃ state, s.table.scopedSessions.get? acceptor.scope = some state ∧ state.id = id ∧
      s.AwaitsEvent state ∧ (s.finish index).recording acceptor.scope = false := by
  obtain ⟨before, after, hbefore, -, herase⟩ := List.filterMap_split Acceptor.records? hacceptor
  have hrecords : acceptor.records? = some (acceptor.scope, id) := by
    rw [Acceptor.records?, hphase]
  rw [hrecords] at hbefore
  have hentry : (acceptor.scope, id) ∈ s.unrecorded := by
    rw [ScopeRun.unrecorded, hbefore]
    exact List.mem_append_right _ List.mem_cons_self
  obtain ⟨state, hget, hid, hawaits⟩ := h.served _ hentry
  refine ⟨state, hget, hid, hawaits, ?_⟩
  have honce : ((before ++ (acceptor.scope, id) :: after).map Prod.fst).Nodup := by
    rw [show before ++ (acceptor.scope, id) :: after = s.unrecorded from hbefore.symm]
    exact h.once
  rw [List.map_append, List.map_cons, List.nodup_middle, List.nodup_cons, ← List.map_append]
    at honce
  rw [ScopeRun.recording, List.any_eq_false]
  intro entry hmem hsame
  rw [show (s.finish index).unrecorded = before ++ after from herase] at hmem
  exact honce.1 (List.mem_map.mpr ⟨entry, hmem, of_decide_eq_true hsame⟩)

lemma of_goOn {step : AcceptStep} (hacceptor : s.acceptors[index]? = some acceptor)
    (hguard : s.handlerKeepsReleases acceptor step = true)
    (hnext : s.acceptorNext? wireLength index acceptor step = some s') : ScopeInvariant s' := by
  have hstep := hnext
  unfold ScopeRun.acceptorNext? at hnext
  split at hnext
  next hphase =>
    obtain rfl := Option.some.inj hnext
    exact h.of_goOn_quiet hacceptor (by rw [Acceptor.remembers?, hphase]) rfl rfl
  next hphase =>
    obtain rfl := Option.some.inj hnext
    exact h.of_finish hacceptor (by rw [Acceptor.remembers?, hphase])
  next candidate candidates bound answer hphase =>
    have hremembers : acceptor.remembers? = none := by rw [Acceptor.remembers?, hphase]
    split at hnext
    · obtain rfl := Option.some.inj hnext
      exact h.of_goOn_quiet hacceptor hremembers rfl rfl
    · obtain rfl := Option.some.inj hnext
      cases answer <;> exact h.of_goOn_quiet hacceptor hremembers rfl rfl
  next candidate retained hphase =>
    split at hnext
    · obtain rfl := Option.some.inj hnext
      exact h.of_finish hacceptor (by rw [Acceptor.remembers?, hphase])
    next hreclaims =>
      obtain ⟨state, hstate, -⟩ := Option.map_eq_some_iff.mp hnext
      unfold ScopeRun.handlerKeepsReleases at hguard
      rw [hphase] at hguard
      dsimp only at hguard
      rw [Bool.not_eq_true'] at hguard
      exact h.of_releasing hacceptor hphase hguard hstate hstep (eq_true_of_ne_false hreclaims)
  next released hphase => exact h.of_remembering hacceptor hphase hstep
  next hphase =>
    unfold ScopeRun.handlerKeepsReleases at hguard
    rw [hphase] at hguard
    dsimp only at hguard
    rw [Bool.and_eq_true, Bool.not_eq_true', Bool.not_eq_true'] at hguard
    exact h.of_retrying hacceptor hphase hguard.1 hguard.2 hstep
  next id hphase =>
    obtain rfl := Option.some.inj hnext
    obtain ⟨state, hget, rfl, hawaits, hrecording⟩ := h.state_of_recording hacceptor hphase
    have hdone := h.of_finish hacceptor (by rw [Acceptor.remembers?, hphase])
    exact hdone.of_record true hget
      (fun _ => ⟨hawaits.idle, hawaits.resumes, hawaits.starts⟩) hrecording
  next => cases hnext

lemma of_next {step : ScopeStep} (hguard : s.keepsReleases step = true)
    (hnext : s.next? wireLength step = some s') : ScopeInvariant s' := by
  cases step with
  | accept event =>
    obtain rfl := Option.some.inj hnext
    rw [ScopeRun.keepsReleases, Bool.and_eq_true, Bool.not_eq_true', Bool.not_eq_true'] at hguard
    exact h.of_accept hguard.1 hguard.2
  | goOn index step =>
    obtain ⟨acceptor, hacceptor, hstep⟩ := Option.bind_eq_some_iff.mp hnext
    rw [ScopeRun.keepsReleases, hacceptor, Option.all_some] at hguard
    exact h.of_goOn hacceptor hguard hstep
  | work scope work =>
    obtain rfl := Option.some.inj hnext
    rw [ScopeRun.keepsReleases, Bool.not_eq_true'] at hguard
    exact h.of_work hguard
  | book change =>
    obtain rfl := Option.some.inj hnext
    have hframe : (s.table.book change).scopedSessions = s.table.scopedSessions ∧
        (s.table.book change).scopeOrder = s.table.scopeOrder ∧
        (s.table.book change).releasedTaskScopes = s.table.releasedTaskScopes ∧
        (s.table.book change).releasedTaskOrder = s.table.releasedTaskOrder := by
      cases change <;> exact ⟨rfl, rfl, rfl, rfl⟩
    obtain ⟨hsessions, horder, hreleased, hreleasedOrder⟩ := hframe
    exact h.of_frame (h.listed.congr hsessions horder hreleased hreleasedOrder) hsessions horder
      hreleased hreleasedOrder rfl (List.Sublist.refl _) rfl rfl
  | fence | stop =>
    obtain rfl := Option.some.inj hnext
    exact h.of_frame (h.listed.congr rfl rfl rfl rfl) rfl rfl rfl rfl rfl (List.Sublist.refl _) rfl
      rfl

lemma scopesKept : ScopesKept s where
  listed := h.listed.live.mem_iff
  nodup := h.listed.live.nodup
  bounded := h.listed.bounded
  releasedBounded := by
    -- The map is as long as the list of its keys.
    have hperm : s.table.releasedTaskScopes.keys.Perm s.table.releasedTaskOrder :=
      (List.perm_ext_iff_of_nodup s.table.releasedTaskScopes.nodup h.listed.released.nodup).mpr
        h.listed.released.mem_iff
    rw [← KeyedMap.length_keys, hperm.length_eq]
    exact h.listed.releasedBounded
  disjoint scope hreleased hlive :=
    h.listed.disjoint scope ((h.listed.released.mem_iff scope).mp hreleased)
      ((h.listed.live.mem_iff scope).mp hlive)

end

end ScopeInvariant

/-! ## Steps -/

namespace LogicalSessionState

variable {wireLength : RoomEvent → ℕ} {state : LogicalSessionState} {markers : DeliveryMarkers}
  {t : ScopeTable} {event : RoomEvent}

lemma pending_observeEvent (session : LogicalSession) (scope participantID : String)
    (event : RoomEvent) :
    (session.observeEvent scope participantID event).pendingAddressed = session.pendingAddressed ∧
      (session.observeEvent scope participantID event).effectiveDeliveryStart =
        session.effectiveDeliveryStart :=
  ⟨rfl, rfl⟩

lemma resumed_record (hscope : state.scope = scopeForRoomEvent event)
    (hloaded : state.session.rematerializing = true) (hidle : state.session.pendingAddressed = [])
    (hmarkers : state.markers = markers) (buffer : List RoomEvent) :
    (state.updateSession fun session => t.recordIn buffer event true session).Resumed markers buffer
      event := by
  have hold : true = false ∨ state.session.rematerializing = true := Or.inr hloaded
  obtain ⟨hdelivered, hfloor, hobserved, hbootstrapped⟩ :=
    LogicalSession.markers_recordIn t buffer event hold
  have hstart : state.session.effectiveDeliveryStart = markers.start := by
    rw [← hmarkers]
    rfl
  -- What the event says about the Task changes neither the watermark nor what waits.
  obtain ⟨hpending, heffective⟩ := pending_observeEvent state.session (scopeForRoomEvent event)
    t.participantID event
  have haccepts : (state.session.observeEvent (scopeForRoomEvent event) t.participantID
      event).accepts event = true ↔ event.addressed = true ∧ markers.start < event.sequence := by
    rw [LogicalSession.accepts, hpending, heffective, hidle, hstart]
    simp [maxPendingTurns]
  refine ⟨?_, ?_, fun haddressed hlt => ?_, fun hnot => ?_⟩
  · rw [← hmarkers, LogicalSessionState.markers, LogicalSessionState.markers]
    show DeliveryMarkers.mk (t.recordIn buffer event true state.session).deliveredThrough _ _ _ _ _ =
      _
    rw [hdelivered]
    show DeliveryMarkers.mk _ (t.recordIn buffer event true state.session).roomDeliveryFloor
      (t.recordIn buffer event true state.session).observedHarnessGeneration
      (t.recordIn buffer event true state.session).bootstrappedHarnessGeneration _ _ = _
    rw [hfloor, hobserved, hbootstrapped]
    rfl
  · exact (LogicalSession.rematerializing_recordIn t buffer event true).trans hloaded
  · show (t.recordIn buffer event true state.session).pendingAddressed = _ ∧
      (t.recordIn buffer event true state.session).pendingContexts.get? _ = _
    rw [LogicalSession.recordIn_eq t buffer event (Or.inr hloaded),
      if_pos (haccepts.mpr ⟨haddressed, hlt⟩)]
    refine ⟨?_, ?_⟩
    · show (state.session.observeEvent _ _ event).pendingAddressed ++ [event.sequence] = _
      rw [hpending, hidle]
      rfl
    · rw [LogicalSession.accept]
      dsimp only
      rw [KeyedMap.get?_set, PendingTurnContext.key_eq, LogicalSession.contextFor, if_pos rfl,
        hpending, heffective, hidle, hstart, List.getLast?_nil, Option.getD_none]
      rw [show (state.updateSession fun session => t.recordIn buffer event true session).scope =
        scopeForRoomEvent event from hscope]
  · show (t.recordIn buffer event true state.session).pendingAddressed = []
    rw [LogicalSession.recordIn_eq t buffer event (Or.inr hloaded), if_neg]
    · exact hpending.trans hidle
    · rw [haccepts]
      rintro ⟨haddressed, hlt⟩
      rcases hnot with hnot | hnot
      · rw [haddressed] at hnot
        cases hnot
      · exact absurd hlt (Nat.not_lt.mpr hnot)

end LogicalSessionState

lemma Acceptor.phase_of_records (acceptor : Acceptor) (h : acceptor.records?.isSome = true) :
    ∃ id, acceptor.phase = .recording id := by
  unfold Acceptor.records? at h
  split at h
  next id hphase => exact ⟨id, hphase⟩
  next => cases h

namespace ScopeInvariant

variable {wireLength : RoomEvent → ℕ} {s s' : ScopeRun} {scope : String} {step : ScopeStep}

/-- A step that removes a scope releases it. -/
lemma removes_of_next (hnext : s.next? wireLength step = some s')
    (hlive : scope ∈ s.table.scopeOrder) (hgone : scope ∉ s'.table.scopeOrder) :
    s.table.reclaimableTaskScope scope = true ∧ s'.givenBack.get? scope =
      (s.table.scopedSessions.get? scope).map fun state => (scope, state.markers) := by
  -- A scope that is ensured stays served.
  have hensured : ∀ {other table}, s.table.ensureSessionRef? other = some table →
      scope ∈ table.scopeOrder := by
    intro other table hensured
    rcases ScopeTable.ensureSessionRef?_cases hensured with ⟨-, rfl⟩ | ⟨-, -, rfl⟩
    · exact hlive
    · exact List.mem_append_left _ hlive
  cases step with
  | accept event =>
    obtain rfl := Option.some.inj hnext
    refine absurd ?_ hgone
    unfold ScopeRun.accept
    dsimp only
    split
    · exact hlive
    split
    · exact hlive
    cases htable : s.table.ensureSessionRef? (scopeForRoomEvent event) with
    | none => exact hlive
    | some table =>
      rw [Option.elim_some]
      show scope ∈ table.scopeOrder
      exact hensured htable
  | goOn index step =>
    obtain ⟨acceptor, hacceptor, hstep⟩ := Option.bind_eq_some_iff.mp hnext
    unfold ScopeRun.acceptorNext? at hstep
    split at hstep
    next =>
      obtain rfl := Option.some.inj hstep
      exact absurd hlive hgone
    next =>
      obtain rfl := Option.some.inj hstep
      exact absurd hlive hgone
    next =>
      split at hstep <;> obtain rfl := Option.some.inj hstep <;> exact absurd hlive hgone
    next candidate retained hphase =>
      split at hstep
      · obtain rfl := Option.some.inj hstep
        exact absurd hlive hgone
      next hreclaims =>
        obtain ⟨state, hstate, rfl⟩ := Option.map_eq_some_iff.mp hstep
        -- The only scope that is removed is that of the candidate.
        have hsame : scope = candidate.scope := by
          by_contra hne
          refine hgone ?_
          have hkept : scope ∈ (s.table.releaseTerminalTaskScope candidate.scope).scopeOrder :=
            List.mem_filter.mpr ⟨hlive, decide_eq_true hne⟩
          dsimp only
          split <;> exact hkept
        subst hsame
        refine ⟨eq_true_of_ne_false hreclaims, ?_⟩
        rw [hstate, Option.map_some]
        have hset := KeyedMap.get?_set_self s.givenBack (candidate.scope, state.markers)
        dsimp only
        split <;> exact hset
    next =>
      obtain rfl := Option.some.inj hstep
      exact absurd hlive hgone
    next =>
      obtain rfl := Option.some.inj hstep
      refine absurd ?_ hgone
      cases htable : s.table.ensureSessionRef? acceptor.scope with
      | none => exact hlive
      | some table =>
        rw [Option.elim_some]
        show scope ∈ table.scopeOrder
        exact hensured htable
    next =>
      obtain rfl := Option.some.inj hstep
      exact absurd hlive hgone
    next => cases hstep
  | work other work =>
    obtain rfl := Option.some.inj hnext
    refine absurd ?_ hgone
    rw [ScopeRun.work]
    split <;> exact hlive
  | book change =>
    obtain rfl := Option.some.inj hnext
    refine absurd ?_ hgone
    cases change <;> exact hlive
  | fence | stop =>
    obtain rfl := Option.some.inj hnext
    exact absurd hlive hgone

lemma le_start_of_consumed (h : ScopeInvariant s) {state : LogicalSessionState}
    (hstate : s.table.scopedSessions.get? scope = some state) {sequence : ℕ}
    (hmem : (scope, sequence) ∈ s.consumed) : sequence ≤ state.session.effectiveDeliveryStart := by
  have hlive := h.listed.live.mem_of_get? hstate
  rcases h.covered scope sequence hmem with ⟨other, hother, hle⟩ | ⟨released, hheld, rfl, -⟩
  · rw [hstate] at hother
    obtain rfl := Option.some.inj hother
    exact hle
  · rcases hheld with hheld | hheld
    · exact absurd hlive (h.away released hheld).1
    · refine absurd hlive (h.listed.disjoint _ ?_)
      exact h.listed.released.mem_of_get? (KeyedMap.get?_key hheld)

/-- A remembered conversation is resumed with its markers. -/
lemma resumes_of_next (h : ScopeInvariant s) (hguard : s.keepsReleases step = true)
    (hnext : s.next? wireLength step = some s') {event : RoomEvent}
    (hresumed : s.resumedBy? step = some event) : ∃ markers state,
    s.givenBack.get? (scopeForRoomEvent event) = some (scopeForRoomEvent event, markers) ∧
      s'.table.scopedSessions.get? (scopeForRoomEvent event) = some state ∧
      state.Resumed markers s'.table.eventBuffer event ∧
      ∀ sequence, (scopeForRoomEvent event, sequence) ∈ s.consumed →
        sequence ≤ markers.start := by
  cases step with
  | accept other =>
    rw [ScopeRun.resumedBy?] at hresumed
    split at hresumed
    next hopen =>
      obtain rfl := Option.some.inj hresumed
      obtain rfl := Option.some.inj hnext
      obtain ⟨hstopped, hclosed, hreleased, hvalid, hroom, hspace⟩ := hopen
      rw [ScopeRun.keepsReleases, Bool.and_eq_true, Bool.not_eq_true', Bool.not_eq_true']
        at hguard
      obtain ⟨released, hget⟩ := Option.isSome_iff_exists.mp hreleased
      have hscope : released.scope = scopeForRoomEvent other := KeyedMap.key_of_get? hget
      have hnot : scopeForRoomEvent other ∉ s.table.scopeOrder :=
        h.listed.disjoint _ (h.listed.released.mem_of_get? hget)
      have hnew := h.listed.contains_eq_false_iff.mpr hnot
      obtain ⟨table, hensured⟩ := ScopeTable.ensureSessionRef?_of_lt hnew hspace
      obtain ⟨hserved, hstate⟩ := h.of_ensure hguard.1 hnew hensured
      obtain ⟨hawaits, hconsumed⟩ := h.awaitsEvent_newState hnot hguard.1
      have hresume : s.table.newState (scopeForRoomEvent other) =
          .resume (scopeForRoomEvent other) s.table.nextID released.markers := by
        rw [ScopeTable.newState, hget]
      rw [hresume] at hstate hconsumed
      have haccept : s.accept wireLength other = { s with
          table := table.recordEvent wireLength other true s.table.nextID } := by
        unfold ScopeRun.accept
        dsimp only
        rw [if_neg, if_neg hroom, hensured, Option.elim_some, hnew, ScopeTable.objectOf, hstate]
        · rfl
        · rw [hstopped, hclosed]
          rintro (hfalse | hfalse | hfalse)
          · cases hfalse
          · cases hfalse
          · exact hvalid hfalse
      refine ⟨released.markers,
        (LogicalSessionState.resume (scopeForRoomEvent other) s.table.nextID
          released.markers).updateSession fun session =>
            table.recordIn (evictEvents wireLength (table.eventBuffer ++ [other])) other true session,
        ?_, ?_, ?_, hconsumed⟩
      · have hkept := h.kept released (Or.inr (KeyedMap.mem_of_get? hget))
        rw [hscope] at hkept
        exact hkept
      · rw [haccept]
        dsimp only
        rw [ScopeTable.get?_recordEvent, if_pos rfl, hstate, Option.map_some]
        exact congrArg some (congrArg _ (funext fun session => if_pos rfl))
      · rw [haccept]
        exact LogicalSessionState.resumed_record rfl rfl rfl rfl _
    · cases hresumed
  | goOn index step =>
    cases step with
    | record =>
      rw [ScopeRun.resumedBy?] at hresumed
      obtain ⟨acceptor, hfilter, rfl⟩ := Option.map_eq_some_iff.mp hresumed
      obtain ⟨hacceptor, hboth⟩ := Option.filter_eq_some_iff.mp hfilter
      rw [Bool.and_eq_true] at hboth
      obtain ⟨other, hother, hstep⟩ := Option.bind_eq_some_iff.mp hnext
      rw [hacceptor] at hother
      obtain rfl := Option.some.inj hother
      obtain ⟨id, hphase⟩ := acceptor.phase_of_records hboth.1
      unfold ScopeRun.acceptorNext? at hstep
      rw [hphase] at hstep
      obtain rfl := Option.some.inj hstep
      obtain ⟨state, hget, rfl, hawaits, -⟩ := h.state_of_recording hacceptor hphase
      rw [hget, Option.any_some] at hboth
      have hscope : state.scope = acceptor.scope := KeyedMap.key_of_get? hget
      have hkept := hawaits.resumes hboth.2
      rw [hscope] at hkept
      refine ⟨state.markers,
        state.updateSession fun session => s.table.recordIn
          (evictEvents wireLength (s.table.eventBuffer ++ [acceptor.event])) acceptor.event true
          session, hkept, ?_, ?_, fun sequence hmem => ?_⟩
      · show (s.table.recordEvent wireLength acceptor.event true
          state.id).scopedSessions.get? _ = _
        rw [ScopeTable.get?_recordEvent, if_pos rfl,
          show s.table.scopedSessions.get? (scopeForRoomEvent acceptor.event) = some state from
            hget, Option.map_some]
        exact congrArg some (congrArg _ (funext fun session => if_pos rfl))
      · exact LogicalSessionState.resumed_record hscope hboth.2 hawaits.idle rfl _
      · exact h.le_start_of_consumed hget hmem
    | list | tryCandidate | release | remember | retry => cases hresumed
  | work | book | fence | stop => cases hresumed

end ScopeInvariant

/-! ## Every run -/

/-- Scopes are given back without loss, in every run in which no section comes between two that
belong together. -/
theorem scopesKept_of_keepsReleases {wireLength : RoomEvent → ℕ} {s : ScopeRun}
    (hreach : (scopeSystem wireLength).ReachableWhen
      (fun s step => s.keepsReleases step = true) s) :
    ScopesKept s ∧ ∀ step s', s.keepsReleases step = true → s.next? wireLength step = some s' →
      ScopeStepKept s step s' := by
  have hinvariant : ScopeInvariant s := by
    refine hreach.invariant (P := ScopeInvariant) ?_
      fun s step s' h hguard hnext => h.of_next hguard hnext
    rintro s ⟨participantID, rfl⟩
    exact .of_init participantID
  refine ⟨hinvariant.scopesKept, fun step s' hguard hnext => ⟨fun scope hlive hgone => ?_, ?_⟩⟩
  · exact ScopeInvariant.removes_of_next hnext hlive hgone
  · exact fun event hresumed => hinvariant.resumes_of_next hguard hnext hresumed

namespace ScopeRun

/-- The run of some labels from a Runtime that has just joined, where each of them meets a guard. -/
def runWhen? (guard : ScopeRun → ScopeStep → Bool) (labels : List ScopeStep) : Option ScopeRun :=
  labels.foldlM (fun s step => if guard s step then s.next? (fun _ => 1) step else none)
    { table := { participantID := "agent" } }

lemma reachableWhen_of_run {guard : ScopeRun → ScopeStep → Bool} {labels : List ScopeStep}
    {s : ScopeRun} (hrun : runWhen? guard labels = some s) :
    (scopeSystem fun _ => 1).ReachableWhen (fun s step => guard s step = true) s := by
  refine TransitionSystem.ReachableWhen.foldlM (fun s step s' hnext => ?_)
    (.init ⟨"agent", rfl⟩) hrun
  split at hnext
  next hguard => exact ⟨hguard, hnext⟩
  next => cases hnext

/-- An event of a Task that is no instruction. -/
def notice (scope : String) (sequence : ℕ) : RoomEvent where
  sequence := sequence + 1
  participantKind := .human
  scopeID := scope
  addressed := false
  sequence_pos := Nat.succ_pos sequence

/-- The labels under which a ninth Task arrives when eight are served, two of which are over, and the
conversation of the first one is given back. -/
def releasesFirst : List ScopeStep :=
  (["task:aaaa", "task:bbbb", "task:cccc", "task:dddd", "task:eeee", "task:ffff", "task:gggg",
    "task:hhhh"].zipIdx.map fun entry => .accept (notice entry.1 entry.2)) ++
    [.work "task:aaaa" .noteTerminal, .work "task:bbbb" .noteTerminal,
      .accept (notice "task:iiii" 8), .goOn 0 .list, .goOn 0 (.tryCandidate false (some true)),
      .goOn 0 .release]

/-- The labels of a run in which the handler of the next stream handles the event of the ninth Task
again, and serves the first scope again before its conversation is remembered. -/
def servedAgain : List ScopeStep :=
  releasesFirst ++ [.accept (notice "task:iiii" 8), .accept (notice "task:aaaa" 9), .goOn 1 .list,
    .goOn 1 (.tryCandidate false (some true)), .goOn 1 .release, .goOn 1 .remember, .goOn 1 .retry,
    .goOn 1 .record, .goOn 0 .remember]

end ScopeRun

/-- Scopes are not given back without loss in every run. A scope is served and remembered at
once. -/
theorem not_scopesKept_released :
    ¬ ∀ s, (scopeSystem fun _ => 1).Reachable s → ScopesKept s := by
  intro hall
  have hrun : (ScopeRun.runWhen? (fun _ _ => true) ScopeRun.servedAgain).any (fun s =>
      decide ("task:aaaa" ∈ s.table.releasedTaskScopes.keys) &&
        decide ("task:aaaa" ∈ s.table.scopedSessions.keys)) = true := by
    decide +kernel
  obtain ⟨s, hs, hboth⟩ := (Option.any_eq_true _ _).mp hrun
  rw [Bool.and_eq_true] at hboth
  have hkept := hall s ((ScopeRun.reachableWhen_of_run hs).mono fun _ _ _ => trivial)
  exact hkept.disjoint "task:aaaa" (of_decide_eq_true hboth.1) (of_decide_eq_true hboth.2)

/-- A run in which the conversation is remembered, and the ninth Task is served. -/
theorem scopesKept_remembered : ∃ s,
    ScopeRun.runWhen? ScopeRun.keepsReleases
      (ScopeRun.releasesFirst ++ [.goOn 0 .remember, .goOn 0 .retry, .goOn 0 .record]) = some s ∧
      s.table.releasedTaskOrder = ["task:aaaa"] ∧ ScopesKept s ∧
      ∀ step s', s.keepsReleases step = true → s.next? (fun _ => 1) step = some s' →
        ScopeStepKept s step s' := by
  have hrun : (ScopeRun.runWhen? ScopeRun.keepsReleases
      (ScopeRun.releasesFirst ++ [.goOn 0 .remember, .goOn 0 .retry, .goOn 0 .record])).any
      (fun s => decide (s.table.releasedTaskOrder = ["task:aaaa"])) = true := by
    decide +kernel
  obtain ⟨s, hs, horder⟩ := (Option.any_eq_true _ _).mp hrun
  obtain ⟨hkept, hsteps⟩ := scopesKept_of_keepsReleases (ScopeRun.reachableWhen_of_run hs)
  exact ⟨s, hs, of_decide_eq_true horder, hkept, hsteps⟩

end Free4Chat
