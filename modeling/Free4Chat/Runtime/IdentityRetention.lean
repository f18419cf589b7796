import Free4Chat.Runtime.TaskIdentity

/-!
# Retention of Identities

An identity that is created once the state is gone that would date it is never dropped: it is kept
although its request was observed. Apart from that identities are retained exactly as long as the
Room can trigger their Tasks.

* `IdentityTable.Dated`: what holds in every run. `IdentityTable.Observed`: what holds in every run
  whose new identities are dated.
* `retainsIdentities_of_reachable`: identities are retained in every such run.
-/

namespace Free4Chat

namespace IdentityTable

variable {canonical : String → ℕ} {s s' : IdentityTable} {step : IdentityStep} {scope : String}

/-! ## Kept identities -/

lemma keptIn_refl (identity : TaskIdentity) : identity.KeptIn identity :=
  ⟨rfl, id, id, id, id⟩

lemma keptIn_bindIdentity (adoption : PendingSessionAdoption) (identity : TaskIdentity) :
    identity.KeptIn (bindIdentity adoption identity) := by
  have hmode : identity.modeID ≠ "" →
      (if adoption.modeID ≠ "" then adoption.modeID else identity.modeID) ≠ "" := by
    intro hne
    split_ifs with hset
    · exact hset
    · exact hne
  have hoptions : identity.configOptions ≠ [] →
      (if adoption.configOptions ≠ [] then adoption.configOptions else identity.configOptions) ≠
        [] := by
    intro hne
    split_ifs with hset
    · exact hset
    · exact hne
  rw [bindIdentity]
  dsimp only
  by_cases hnew : adoption.newSession = true
  · rw [if_pos hnew]
    exact ⟨rfl, fun _ => adoption.project hnew, id, hmode, hoptions⟩
  · rw [if_neg hnew]
    exact ⟨rfl, id, fun _ => rfl, hmode, hoptions⟩

variable {identity : TaskIdentity}

lemma exists_keptIn_modify {map : KeyedMap TaskIdentity} (change : TaskIdentity → TaskIdentity)
    (hkey : ∀ v, Keyed.key (change v) = Keyed.key v)
    (hkept : ∀ identity : TaskIdentity, identity.KeptIn (change identity))
    (hmem : identity ∈ map.values) :
    ∃ later ∈ (map.modify scope change hkey).values, identity.KeptIn later := by
  by_cases hscope : Keyed.key identity = scope
  · exact ⟨change identity, KeyedMap.mem_modify.mpr (Or.inl ⟨identity, hmem, hscope, rfl⟩),
      hkept identity⟩
  · exact ⟨identity, KeyedMap.mem_modify.mpr (Or.inr ⟨hmem, hscope⟩), keptIn_refl identity⟩

lemma contains_eq_false_iff : s.taskIdentities.contains scope = false ↔
    ∀ identity ∈ s.taskIdentities.values, identity.scope ≠ scope := by
  rw [KeyedMap.contains, Option.isSome_eq_false_iff, Option.isNone_iff_eq_none,
    KeyedMap.get?_eq_none_iff]
  rfl

lemma mem_recordTaskIdentity : identity ∈ (s.recordTaskIdentity scope).taskIdentities.values ↔
      identity ∈ s.taskIdentities.values ∨ s.taskIdentities.contains scope = false ∧
        identity = { scope, requestSequence := s.admittedSequence scope } := by
  rw [recordTaskIdentity]
  split_ifs with hcontains
  · rw [hcontains]
    exact (or_iff_left fun hno => by cases hno.1).symm
  · rw [Bool.not_eq_true] at hcontains
    rw [KeyedMap.mem_set, or_comm]
    refine or_congr (and_iff_left_of_imp fun hmem => ?_) (and_iff_right hcontains).symm
    exact contains_eq_false_iff.mp hcontains identity hmem

lemma mem_noteAdoptedScopeLoss (failed : Option (List String)) {later : TaskIdentity} :
    later ∈ (s.noteAdoptedScopeLoss failed).taskIdentities.values ↔
      ∃ identity ∈ s.taskIdentities.values, later = { identity with
        adoptedLost := identity.adoptedLost ||
          identity.adopted && failed.all fun scopes => scopes.contains identity.scope } := by
  rw [noteAdoptedScopeLoss]
  dsimp only
  rw [KeyedMap.values_map, List.mem_map]
  exact exists_congr fun identity => and_congr_right fun _ => eq_comm

lemma recordTaskIdentity_eq (s : IdentityTable) (scope : String) :
    (s.recordTaskIdentity scope).scopedSessions = s.scopedSessions ∧
      (s.recordTaskIdentity scope).floor = s.floor ∧
      (s.recordTaskIdentity scope).observed = s.observed := by
  rw [recordTaskIdentity]
  split_ifs <;> exact ⟨rfl, rfl, rfl⟩

/-! ## Admission -/

variable {event : RoomEvent}

lemma scopeForRoomEvent_ne_roomScope (hrequest : s.isRequest event = true) :
    scopeForRoomEvent event ≠ roomScope := by
  rw [isRequest, Option.any_eq_true] at hrequest
  obtain ⟨collab, hcollab, -⟩ := hrequest
  obtain ⟨-, htask⟩ := Option.filter_eq_some_iff.mp hcollab
  rw [Bool.and_eq_true] at htask
  intro hroom
  rw [hroom] at htask
  exact absurd htask.2 (by decide)

lemma isRequest_eq (h : s'.participantID = s.participantID) :
    s'.isRequest event = s.isRequest event := by
  rw [isRequest, isRequest, h]

lemma ensureSessionRef?_eq (hadmitted : s.ensureSessionRef? scope = some s') :
    s'.taskIdentities = s.taskIdentities ∧ s'.observed = s.observed ∧
      s'.participantID = s.participantID ∧
      (scope ≠ roomScope → s'.scopedSessions.contains scope = true) ∧
      ∀ state ∈ s'.scopedSessions.values,
        state ∈ s.scopedSessions.values ∨ state = { scope } := by
  rw [ensureSessionRef?] at hadmitted
  split_ifs at hadmitted with hempty hserved hfull
  · cases hadmitted
    refine ⟨rfl, rfl, rfl, fun hne => hserved.resolve_left hne, fun state hmem => Or.inl hmem⟩
  · cases hadmitted
    refine ⟨rfl, rfl, rfl, fun _ => ?_, fun state hmem => ?_⟩
    · exact KeyedMap.contains_iff.mpr ⟨_, KeyedMap.get?_set_self s.scopedSessions { scope }⟩
    · rcases KeyedMap.mem_set.mp hmem with rfl | ⟨hold, -⟩
      · exact Or.inr rfl
      · exact Or.inl hold

lemma acceptEvent?_eq_some (hnext : s.acceptEvent? canonical event = some s') :
    (s.isRequest event = true → event.sequence = canonical (scopeForRoomEvent event)) ∧
      ∃ middle, s.ensureSessionRef? (scopeForRoomEvent event) = some middle ∧
        s' = middle.recordEvent event := by
  obtain ⟨hguard, hmap⟩ := Option.ite_none_left_eq_some.mp hnext
  obtain ⟨middle, hadmitted, hrecorded⟩ := Option.map_eq_some_iff.mp hmap
  refine ⟨fun hrequest => ?_, middle, hadmitted, hrecorded.symm⟩
  by_contra hne
  exact hguard ⟨hrequest, hne⟩

lemma mem_scopedSessions_recordEvent {state : TaskScopeState} :
    state ∈ (s.recordEvent event).scopedSessions.values ↔
      (∃ old ∈ s.scopedSessions.values, old.scope = scopeForRoomEvent event ∧
        state = s.observeIn event old) ∨
      state ∈ s.scopedSessions.values ∧ state.scope ≠ scopeForRoomEvent event := by
  have hiff := @KeyedMap.mem_modify _ _ _ _ s.scopedSessions (scopeForRoomEvent event)
    (s.observeIn event) (fun _ => rfl) state
  refine hiff.trans (or_congr (exists_congr fun old => ?_) Iff.rfl)
  exact and_congr_right fun _ => and_congr_right fun _ => eq_comm

lemma mem_taskIdentities_recordEvent : identity ∈ (s.recordEvent event).taskIdentities.values ↔
      (s.datesIdentity event = true ∧ ∃ old ∈ s.taskIdentities.values,
        old.scope = scopeForRoomEvent event ∧
          identity = { old with requestSequence := event.sequence }) ∨
      (s.datesIdentity event = true → identity.scope ≠ scopeForRoomEvent event) ∧
        identity ∈ s.taskIdentities.values := by
  rw [recordEvent]
  dsimp only
  split_ifs with hdates
  · rw [KeyedMap.mem_modify, and_iff_right hdates, imp_iff_right hdates, and_comm (b := _ ∈ _)]
    refine or_congr (exists_congr fun old => and_congr_right fun _ => and_congr_right fun _ => ?_)
      Iff.rfl
    exact eq_comm
  · rw [or_iff_right fun hno => hdates hno.1]
    exact (and_iff_right fun hyes => absurd hyes hdates).symm

lemma mem_observed_recordEvent : scope ∈ (s.recordEvent event).observed ↔
      (s.isRequest event = true ∧ scope = scopeForRoomEvent event) ∨ scope ∈ s.observed := by
  rw [recordEvent]
  dsimp only
  split_ifs with hrequest
  · rw [List.mem_cons, and_iff_right hrequest]
  · exact (or_iff_right fun hno => hrequest hno.1).symm

lemma releaseTerminalTaskScope?_eq (hreleased : s.releaseTerminalTaskScope? scope = some s') :
    s' = { s with scopedSessions := s.scopedSessions.erase scope } := by
  rw [releaseTerminalTaskScope?] at hreleased
  split_ifs at hreleased
  exact (Option.some.inj hreleased).symm

lemma exists_of_noteTaskScopeTerminal {state : TaskScopeState}
    (hmem : state ∈ (s.noteTaskScopeTerminal scope).scopedSessions.values) :
    ∃ old ∈ s.scopedSessions.values, old.scope = state.scope ∧
      old.admittedSequence = state.admittedSequence := by
  have hin : state ∈ (s.scopedSessions.modify scope
      (fun state => { state with session := { state.session with terminal := true } })
      fun _ => rfl).values := hmem
  rcases KeyedMap.mem_modify.mp hin with ⟨old, hold, -, rfl⟩ | ⟨hold, -⟩
  · exact ⟨old, hold, rfl, rfl⟩
  · exact ⟨state, hold, rfl, rfl⟩

/-! ## Steps -/

lemma exists_keptIn_loseConversation (hmem : identity ∈ s.taskIdentities.values) :
    ∃ later ∈ (s.loseConversation scope).taskIdentities.values, identity.KeptIn later := by
  refine exists_keptIn_modify (fun identity : TaskIdentity =>
    { identity with adopted := true, adoptedLost := true }) (fun _ => rfl) (fun identity => ?_)
    (mem_recordTaskIdentity.mpr (Or.inl hmem))
  exact ⟨rfl, id, fun _ => rfl, id, id⟩

lemma exists_keptIn (hnext : s.next? canonical step = some s')
    (hsweep : ∀ floor, step ≠ .pruneTaskIdentitiesBelow floor)
    (hmem : identity ∈ s.taskIdentities.values) :
    ∃ later ∈ s'.taskIdentities.values, identity.KeptIn later := by
  have hsame := keptIn_refl identity
  cases step with
  | ensureSessionRef scope =>
    rw [(ensureSessionRef?_eq hnext).1]
    exact ⟨identity, hmem, hsame⟩
  | acceptEvent event =>
    obtain ⟨-, middle, hadmitted, rfl⟩ := acceptEvent?_eq_some hnext
    rw [← (ensureSessionRef?_eq hadmitted).1] at hmem
    rw [IdentityTable.recordEvent]
    dsimp only
    split_ifs
    · refine exists_keptIn_modify (fun identity : TaskIdentity =>
        { identity with requestSequence := event.sequence }) (fun _ => rfl) (fun identity => ?_) hmem
      exact ⟨rfl, id, id, id, id⟩
    · exact ⟨identity, hmem, hsame⟩
  | noteTaskScopeTerminal scope =>
    cases hnext
    exact ⟨identity, hmem, hsame⟩
  | bindSessionAdoption scope adoption =>
    cases hnext
    exact exists_keptIn_modify (bindIdentity adoption)
      (fun identity => (bindIdentity_eq adoption identity).1) (keptIn_bindIdentity adoption)
      (mem_recordTaskIdentity.mpr (Or.inl hmem))
  | markAdoptedScopeUnavailable scope | noteAdoptedConversationGone scope =>
    cases hnext
    exact exists_keptIn_loseConversation hmem
  | noteAdoptedScopeLoss failed =>
    cases hnext
    exact ⟨_, (mem_noteAdoptedScopeLoss failed).mpr ⟨identity, hmem, rfl⟩, rfl, id, id, id, id⟩
  | releaseTerminalTaskScope scope =>
    rw [releaseTerminalTaskScope?_eq hnext]
    exact ⟨identity, hmem, hsame⟩
  | pruneTaskIdentitiesBelow floor => exact absurd rfl (hsweep floor)

/-! ## The invariant -/

variable (canonical s) in
/-- What holds in every run: dates are those of the requests. -/
structure Dated : Prop where
  states : ∀ state ∈ s.scopedSessions.values, state.admittedSequence ≠ 0 →
    state.admittedSequence = canonical state.scope
  identities : ∀ identity ∈ s.taskIdentities.values, identity.requestSequence ≠ 0 →
    identity.requestSequence = canonical identity.scope

namespace Dated

section

variable (h : Dated canonical s)
include h

lemma admittedSequence (hne : s.admittedSequence scope ≠ 0) :
    s.admittedSequence scope = canonical scope := by
  rw [IdentityTable.admittedSequence] at hne ⊢
  cases hget : s.scopedSessions.get? scope with
  | none =>
    rw [hget] at hne
    exact absurd rfl hne
  | some state =>
    rw [hget] at hne
    obtain ⟨hmem, hkey⟩ := KeyedMap.get?_eq_some_iff.mp hget
    rw [← hkey]
    exact h.states state hmem hne

lemma recordTaskIdentity (scope : String) : Dated canonical (s.recordTaskIdentity scope) where
  states := by
    rw [(recordTaskIdentity_eq s scope).1]
    exact h.states
  identities identity hmem hne := by
    rcases mem_recordTaskIdentity.mp hmem with hold | ⟨-, rfl⟩
    · exact h.identities identity hold hne
    · exact h.admittedSequence hne

lemma modify {change : TaskIdentity → TaskIdentity} {hkey : ∀ v, Keyed.key (change v) = Keyed.key v}
    (hchange : ∀ identity, (change identity).scope = identity.scope ∧
      (change identity).requestSequence = identity.requestSequence) :
    Dated canonical { s with taskIdentities := s.taskIdentities.modify scope change hkey } where
  states := h.states
  identities identity hmem hne := by
    have hin : identity ∈ (s.taskIdentities.modify scope change hkey).values := hmem
    rcases KeyedMap.mem_modify.mp hin with ⟨old, hold, -, rfl⟩ | ⟨hold, -⟩
    · rw [(hchange old).2] at hne ⊢
      rw [(hchange old).1]
      exact h.identities old hold hne
    · exact h.identities identity hold hne

lemma recordEvent {event : RoomEvent} (hcanonical : s.isRequest event = true →
      event.sequence = canonical (scopeForRoomEvent event)) :
    Dated canonical (s.recordEvent event) where
  states state hmem hne := by
    rcases mem_scopedSessions_recordEvent.mp hmem with ⟨old, hold, hscope, rfl⟩ | ⟨hold, -⟩
    · rw [observeIn] at hne ⊢
      dsimp only at hne ⊢
      split_ifs at hne ⊢ with hdates
      · rw [hscope]
        exact hcanonical hdates.1
      · exact h.states old hold hne
    · exact h.states state hold hne
  identities identity hmem hne := by
    rcases mem_taskIdentities_recordEvent.mp hmem with ⟨hdates, old, hold, hscope, rfl⟩ | ⟨-, hold⟩
    · rw [datesIdentity, Bool.and_eq_true] at hdates
      show event.sequence = canonical old.scope
      rw [hscope]
      exact hcanonical hdates.1
    · exact h.identities identity hold hne

lemma sessions {sessions : KeyedMap TaskScopeState}
    (hsessions : ∀ state ∈ sessions.values, state.admittedSequence ≠ 0 →
      ∃ old ∈ s.scopedSessions.values, old.scope = state.scope ∧
        old.admittedSequence = state.admittedSequence) :
    Dated canonical { s with scopedSessions := sessions } where
  states state hmem hne := by
    obtain ⟨old, hold, hscope, hdate⟩ := hsessions state hmem hne
    rw [← hdate] at hne ⊢
    rw [← hscope]
    exact h.states old hold hne
  identities := h.identities

lemma ensureSessionRef (hadmitted : s.ensureSessionRef? scope = some s') : Dated canonical s' where
  states state hmem hne := by
    rcases (ensureSessionRef?_eq hadmitted).2.2.2.2 state hmem with hold | rfl
    · exact h.states state hold hne
    · exact absurd rfl hne
  identities := by
    rw [(ensureSessionRef?_eq hadmitted).1]
    exact h.identities

lemma next (hnext : s.next? canonical step = some s') : Dated canonical s' := by
  cases step with
  | ensureSessionRef scope => exact h.ensureSessionRef hnext
  | acceptEvent event =>
    obtain ⟨hcanonical, middle, hadmitted, rfl⟩ := acceptEvent?_eq_some hnext
    refine (h.ensureSessionRef hadmitted).recordEvent fun hrequest => hcanonical ?_
    rw [← isRequest_eq (ensureSessionRef?_eq hadmitted).2.2.1]
    exact hrequest
  | noteTaskScopeTerminal scope =>
    cases hnext
    exact h.sessions fun state hmem _ => exists_of_noteTaskScopeTerminal hmem
  | bindSessionAdoption scope adoption =>
    cases hnext
    exact (h.recordTaskIdentity scope).modify (bindIdentity_eq adoption)
  | markAdoptedScopeUnavailable scope | noteAdoptedConversationGone scope =>
    cases hnext
    exact (h.recordTaskIdentity scope).modify fun identity => ⟨rfl, rfl⟩
  | noteAdoptedScopeLoss failed =>
    cases hnext
    refine ⟨h.states, fun identity hmem hne => ?_⟩
    obtain ⟨old, hold, rfl⟩ := (mem_noteAdoptedScopeLoss failed).mp hmem
    exact h.identities old hold hne
  | releaseTerminalTaskScope scope =>
    rw [releaseTerminalTaskScope?_eq hnext]
    refine h.sessions fun state hmem _ => ?_
    have hin : state ∈ (s.scopedSessions.erase scope).values := hmem
    exact ⟨state, (KeyedMap.mem_erase.mp hin).1, rfl, rfl⟩
  | pruneTaskIdentitiesBelow floor =>
    obtain ⟨-, ⟨⟩⟩ := Option.ite_none_right_eq_some.mp hnext
    refine ⟨h.states, fun identity hmem hne => ?_⟩
    exact h.identities identity (List.mem_filter.mp hmem).1 hne

end

end Dated

variable (s) in
/-- What holds in every run whose new identities are dated: an identity without a date is of a Task
whose request was not observed. -/
structure Observed : Prop where
  states : ∀ state ∈ s.scopedSessions.values, state.admittedSequence ≠ 0 → state.scope ∈ s.observed
  identities : ∀ identity ∈ s.taskIdentities.values, identity.requestSequence = 0 →
    identity.scope ∉ s.observed

namespace Observed

section

variable (h : Observed s)
include h

lemma ensureSessionRef (hadmitted : s.ensureSessionRef? scope = some s') : Observed s' := by
  obtain ⟨hidentities, hobserved, -, -, hstates⟩ := ensureSessionRef?_eq hadmitted
  refine ⟨fun state hmem hne => ?_, ?_⟩
  · rw [hobserved]
    rcases hstates state hmem with hold | rfl
    · exact h.states state hold hne
    · exact absurd rfl hne
  · rw [hidentities, hobserved]
    exact h.identities

lemma recordEvent {event : RoomEvent} (hlive : s.isRequest event = true →
      s.scopedSessions.contains (scopeForRoomEvent event) = true) :
    Observed (s.recordEvent event) where
  states state hmem hne := by
    rw [mem_observed_recordEvent]
    rcases mem_scopedSessions_recordEvent.mp hmem with ⟨old, hold, hscope, rfl⟩ | ⟨hold, -⟩
    · by_cases hdates : s.isRequest event = true ∧ old.admittedSequence = 0
      · exact Or.inl ⟨hdates.1, hscope⟩
      · rw [observeIn, if_neg hdates] at hne
        exact Or.inr (h.states old hold hne)
    · exact Or.inr (h.states state hold hne)
  identities identity hmem hzero := by
    rw [mem_observed_recordEvent, not_or]
    rcases mem_taskIdentities_recordEvent.mp hmem with ⟨-, old, -, -, rfl⟩ | ⟨hother, hold⟩
    · exact absurd hzero event.sequence_pos.ne'
    · refine ⟨?_, h.identities identity hold hzero⟩
      rintro ⟨hrequest, hscope⟩
      obtain ⟨state, hget⟩ := KeyedMap.contains_iff.mp (hlive hrequest)
      -- The state is dated already, so that the request was observed before.
      have hdated : state.admittedSequence ≠ 0 := by
        intro hundated
        refine hother ?_ hscope
        rw [datesIdentity, hrequest, hget]
        exact decide_eq_true hundated
      have hobserved := h.states state (KeyedMap.mem_of_get? hget) hdated
      rw [show state.scope = scopeForRoomEvent event from KeyedMap.key_of_get? hget] at hobserved
      refine h.identities identity hold hzero ?_
      rw [hscope]
      exact hobserved

lemma recordTaskIdentity (hdates : s.taskIdentities.contains scope = true ∨ scope ∉ s.observed ∨
      s.admittedSequence scope ≠ 0) : Observed (s.recordTaskIdentity scope) where
  states := by
    rw [(recordTaskIdentity_eq s scope).1, (recordTaskIdentity_eq s scope).2.2]
    exact h.states
  identities identity hmem hzero := by
    rw [(recordTaskIdentity_eq s scope).2.2]
    rcases mem_recordTaskIdentity.mp hmem with hold | ⟨hnew, rfl⟩
    · exact h.identities identity hold hzero
    · rcases hdates with hcontains | hunobserved | hdated
      · rw [hnew] at hcontains
        cases hcontains
      · exact hunobserved
      · exact absurd hzero hdated

lemma modify {change : TaskIdentity → TaskIdentity} {hkey : ∀ v, Keyed.key (change v) = Keyed.key v}
    (hchange : ∀ identity, (change identity).scope = identity.scope ∧
      (change identity).requestSequence = identity.requestSequence) :
    Observed { s with taskIdentities := s.taskIdentities.modify scope change hkey } where
  states := h.states
  identities identity hmem hzero := by
    have hin : identity ∈ (s.taskIdentities.modify scope change hkey).values := hmem
    rcases KeyedMap.mem_modify.mp hin with ⟨old, hold, -, rfl⟩ | ⟨hold, -⟩
    · rw [(hchange old).2] at hzero
      rw [(hchange old).1]
      exact h.identities old hold hzero
    · exact h.identities identity hold hzero

lemma sessions {sessions : KeyedMap TaskScopeState}
    (hsessions : ∀ state ∈ sessions.values, state.admittedSequence ≠ 0 →
      ∃ old ∈ s.scopedSessions.values, old.scope = state.scope ∧
        old.admittedSequence = state.admittedSequence) :
    Observed { s with scopedSessions := sessions } where
  states state hmem hne := by
    obtain ⟨old, hold, hscope, hdate⟩ := hsessions state hmem hne
    rw [← hdate] at hne
    rw [← hscope]
    exact h.states old hold hne
  identities := h.identities

lemma next (hdates : s.datesNew step = true)
    (hnext : s.next? canonical step = some s') : Observed s' := by
  have hnew : ∀ scope, step.records? = some scope → s.taskIdentities.contains scope = true ∨
      scope ∉ s.observed ∨ s.admittedSequence scope ≠ 0 := by
    intro scope hrecords
    rw [datesNew, hrecords, Option.all_some, Bool.or_eq_true, Bool.or_eq_true, or_assoc] at hdates
    refine hdates.imp_right (Or.imp (fun hno hmem => ?_) of_decide_eq_true)
    rw [List.contains_iff_mem.mpr hmem] at hno
    cases hno
  cases step with
  | ensureSessionRef scope => exact h.ensureSessionRef hnext
  | acceptEvent event =>
    obtain ⟨-, middle, hadmitted, rfl⟩ := acceptEvent?_eq_some hnext
    refine (h.ensureSessionRef hadmitted).recordEvent fun hrequest => ?_
    exact (ensureSessionRef?_eq hadmitted).2.2.2.1 (scopeForRoomEvent_ne_roomScope hrequest)
  | noteTaskScopeTerminal scope =>
    cases hnext
    exact h.sessions fun state hmem _ => exists_of_noteTaskScopeTerminal hmem
  | bindSessionAdoption scope adoption =>
    cases hnext
    exact (h.recordTaskIdentity (hnew scope rfl)).modify (bindIdentity_eq adoption)
  | markAdoptedScopeUnavailable scope | noteAdoptedConversationGone scope =>
    cases hnext
    exact (h.recordTaskIdentity (hnew scope rfl)).modify fun identity => ⟨rfl, rfl⟩
  | noteAdoptedScopeLoss failed =>
    cases hnext
    refine ⟨h.states, fun identity hmem hzero => ?_⟩
    obtain ⟨old, hold, rfl⟩ := (mem_noteAdoptedScopeLoss failed).mp hmem
    exact h.identities old hold hzero
  | releaseTerminalTaskScope scope =>
    rw [releaseTerminalTaskScope?_eq hnext]
    refine h.sessions fun state hmem _ => ?_
    have hin : state ∈ (s.scopedSessions.erase scope).values := hmem
    exact ⟨state, (KeyedMap.mem_erase.mp hin).1, rfl, rfl⟩
  | pruneTaskIdentitiesBelow floor =>
    obtain ⟨-, ⟨⟩⟩ := Option.ite_none_right_eq_some.mp hnext
    refine ⟨h.states, fun identity hmem hzero => ?_⟩
    exact h.identities identity (List.mem_filter.mp hmem).1 hzero

end

end Observed

/-! ## What holds in every run -/

lemma Dated.pruned (h : Dated canonical s) {floor : ℕ} (hmem : identity ∈ s.taskIdentities.values)
    (hgone : identity ∉ (s.pruneTaskIdentitiesBelow floor).taskIdentities.values) :
    s.scopedSessions.contains identity.scope = false ∧ canonical identity.scope < floor := by
  have hdrop : ¬s.keepsIdentity floor identity = true := by
    intro hkeeps
    exact hgone (List.mem_filter.mpr ⟨hmem, hkeeps⟩)
  rw [keepsIdentity, Bool.or_eq_true, Bool.or_eq_true, not_or, not_or, decide_eq_true_eq,
    decide_eq_true_eq] at hdrop
  obtain ⟨⟨hdated, hbelow⟩, hdead⟩ := hdrop
  rw [← h.identities identity hmem hdated]
  exact ⟨Bool.eq_false_iff.mpr hdead, by omega⟩

lemma Dated.kept (h : Dated canonical s) (hnext : s.next? canonical step = some s')
    {identity : TaskIdentity} (hmem : identity ∈ s.taskIdentities.values)
    (hretained : s'.floor ≤ canonical identity.scope) :
    ∃ later ∈ s'.taskIdentities.values, identity.KeptIn later := by
  by_cases hsweep : ∃ floor, step = .pruneTaskIdentitiesBelow floor
  · obtain ⟨floor, rfl⟩ := hsweep
    obtain ⟨-, ⟨⟩⟩ := Option.ite_none_right_eq_some.mp hnext
    refine ⟨identity, ?_, keptIn_refl identity⟩
    by_contra hgone
    have hbelow := (h.pruned hmem hgone).2
    exact absurd hretained (Nat.not_le.mpr hbelow)
  · exact exists_keptIn hnext (fun floor heq => hsweep ⟨floor, heq⟩) hmem

lemma Observed.swept (h : Observed s) (hdated : Dated canonical s) {floor : ℕ}
    (hmem : identity ∈ (s.pruneTaskIdentitiesBelow floor).taskIdentities.values) :
    s.scopedSessions.contains identity.scope = true ∨ floor ≤ canonical identity.scope ∨
      identity.scope ∉ s.observed := by
  obtain ⟨hold, hkeeps⟩ := List.mem_filter.mp hmem
  rw [keepsIdentity, Bool.or_eq_true, Bool.or_eq_true, decide_eq_true_eq, decide_eq_true_eq]
    at hkeeps
  by_cases hzero : identity.requestSequence = 0
  · exact Or.inr (Or.inr (h.identities identity hold hzero))
  · rw [← hdated.identities identity hold hzero]
    rcases hkeeps with (hno | hretained) | hlive
    · exact absurd hno hzero
    · exact Or.inr (Or.inl hretained)
    · exact Or.inl hlive

end IdentityTable

/-! ## Runs -/

section Runs

variable {participantID : String} {canonical : String → ℕ} {s : IdentityTable}

lemma dated_of_reachable (h : (identitySystem participantID canonical).Reachable s) :
    s.Dated canonical := by
  refine h.invariant ?_ fun _ _ _ hdated _ hnext => hdated.next hnext
  rintro s rfl
  exact ⟨fun state hmem => (List.not_mem_nil hmem).elim,
    fun identity hmem => (List.not_mem_nil hmem).elim⟩

/-- In every run whose new identities are dated, identities are retained exactly as long as the
Room can trigger their Tasks. -/
theorem retainsIdentities_of_reachable
    (h : (identitySystem participantID canonical).ReachableWhen
      (fun s step => s.datesNew step = true) s) : s.RetainsIdentities canonical := by
  have hdated := dated_of_reachable h.reachable
  have hobserved : s.Observed := by
    refine h.invariant ?_ fun _ _ _ hobserved hguard hnext => hobserved.next hguard hnext
    rintro s rfl
    exact ⟨fun state hmem => (List.not_mem_nil hmem).elim,
      fun identity hmem => (List.not_mem_nil hmem).elim⟩
  exact {
    pruned := fun floor identity hmem hgone => hdated.pruned hmem hgone
    dated := hdated.identities
    kept := fun step s' hnext identity hmem hretained => hdated.kept hnext hmem hretained
    swept := fun floor identity hmem => hobserved.swept hdated hmem }

end Runs

/-- A Human asks for a Task. -/
def taskRequest : RoomEvent where
  sequence := 10
  participantKind := .human
  scopeID := "task:aaaa"
  collab := some {
    requestId := "aaaa", fromParticipantId := "alice", targetParticipantId := "agent",
    kind := .request }
  addressed := true
  sequence_pos := Nat.succ_pos 9

/-- The steps of a Task that a conversation was handed off to, until it is given back. -/
def handedOff : List IdentityStep :=
  [.acceptEvent taskRequest,
    .bindSessionAdoption "task:aaaa" ⟨"", false, "", [], fun h => Bool.noConfusion h⟩,
    .noteTaskScopeTerminal "task:aaaa", .releaseTerminalTaskScope "task:aaaa"]

/-- An identity is not dropped in every run: it is created once more when the conversation is
given back, and is not dated then. -/
theorem not_retainsIdentities_forgotten :
    ¬ ∀ s, (identitySystem "agent" fun _ => 10).Reachable s →
      s.RetainsIdentities fun _ => 10 := by
  intro hall
  have hrun : (TransitionSystem.runWhen? (IdentityTable.next? · fun _ => 10) (fun _ _ => true)
      { participantID := "agent" } (handedOff ++
        [.pruneTaskIdentitiesBelow 20, .noteAdoptedConversationGone "task:aaaa"])).any (fun s =>
      !s.scopedSessions.contains "task:aaaa" && s.observed.contains "task:aaaa" &&
        (s.pruneTaskIdentitiesBelow 30).taskIdentities.contains "task:aaaa") = true := by
    decide +kernel
  obtain ⟨s, hs, hleft⟩ := (Option.any_eq_true _ _).mp hrun
  rw [Bool.and_eq_true, Bool.and_eq_true, Bool.not_eq_true'] at hleft
  obtain ⟨⟨hdead, hobserved⟩, hleft⟩ := hleft
  obtain ⟨identity, hget⟩ := KeyedMap.contains_iff.mp hleft
  obtain ⟨hmem, hscope⟩ := KeyedMap.get?_eq_some_iff.mp hget
  have hscope : identity.scope = "task:aaaa" := hscope
  have hreach := TransitionSystem.reachable_of_runWhen (T := identitySystem "agent" fun _ => 10)
    (fun _ _ _ hnext => hnext) rfl hs
  have hswept := (hall s hreach).swept 30 identity hmem
  rw [hscope, hdead] at hswept
  rcases hswept with hlive | hretained | hunobserved
  · cases hlive
  · omega
  · exact hunobserved (List.contains_iff_mem.mp hobserved)

/-- A run in which the conversation is still retained when the Room drops the request. -/
theorem retainsIdentities_handedOff : ∃ s,
    TransitionSystem.runWhen? (IdentityTable.next? · fun _ => 10) IdentityTable.datesNew
      { participantID := "agent" } handedOff = some s ∧
    s.RetainsIdentities (fun _ => 10) ∧
    (s.pruneTaskIdentitiesBelow 20).taskIdentities.values = [] := by
  have hrun : (TransitionSystem.runWhen? (IdentityTable.next? · fun _ => 10) IdentityTable.datesNew
      { participantID := "agent" } handedOff).any (fun s =>
      decide ((s.pruneTaskIdentitiesBelow 20).taskIdentities.values = [])) = true := by
    decide +kernel
  obtain ⟨s, hs, hempty⟩ := (Option.any_eq_true _ _).mp hrun
  have hreach := TransitionSystem.reachableWhen_of_runWhen
    (T := identitySystem "agent" fun _ => 10) (fun _ _ _ hnext => hnext) rfl hs
  exact ⟨s, hs, retainsIdentities_of_reachable hreach, of_decide_eq_true hempty⟩

end Free4Chat
