import Free4Chat.Collab.Registry
import Mathlib.Data.List.Infix

/-!
# Correlation from the Log

What a log says about each request, and how the registry agrees with it. The registry that is
rebuilt from a log says what the log says; the registry that followed the log step by step does so
too, as long as no request reuses an id that the log still carries.

* `logView`: what a log says about a request.
* `CollabRegistry.view_find_rebuild`: the rebuilt registry says what the log says.
* `Coherent`: no request reuses an id that the log still carries.
* `Correlates`: the invariant of the registry and the retained log.
-/

namespace Free4Chat

/-- What the answers about a request depend on: its endpoints, and the sequence of each of its
accepted steps. -/
structure RequestView where
  fromParticipantId : String
  targetParticipantId : String
  sequenceOf? : CollabEventKind → Option ℕ

/-- What a tracked request is answered with. -/
def CollabRequestRecord.view (record : CollabRequestRecord) : RequestView :=
  { fromParticipantId := record.fromParticipantId
    targetParticipantId := record.targetParticipantId
    sequenceOf? := record.sequenceOf? }

/-! ## What a log says -/

/-- Whether an entry is the request with an id. -/
def isRequestEntry (requestId : String) (entry : CollabEvent × ℕ) : Bool :=
  entry.1.requestId = requestId && entry.1.kind = .request

/-- Whether an entry is a step of the request with an id that has been sent to a target. -/
def isStepEntry (requestId targetParticipantId : String) (kind : CollabEventKind)
    (entry : CollabEvent × ℕ) : Bool :=
  entry.1.requestId = requestId && entry.1.kind = kind &&
    (kind = .request || entry.1.fromParticipantId = targetParticipantId)

/-- The request with an id in a log. -/
def findRequest? (entries : List (CollabEvent × ℕ)) (requestId : String) :
    Option (CollabEvent × ℕ) :=
  entries.find? (isRequestEntry requestId)

/-- What a log says about a request. -/
def logView (entries : List (CollabEvent × ℕ)) (requestId : String) : Option RequestView :=
  (findRequest? entries requestId).map fun request =>
    { fromParticipantId := request.1.fromParticipantId
      targetParticipantId := request.1.targetParticipantId
      sequenceOf? := fun kind =>
        (entries.find? (isStepEntry requestId request.1.targetParticipantId kind)).map Prod.snd }

/-- The ids of the requests in a log, oldest first. -/
def requestIds (entries : List (CollabEvent × ℕ)) : List String :=
  (entries.filter fun entry => entry.1.kind = .request).map fun entry => entry.1.requestId

lemma requestIds_append (entries added : List (CollabEvent × ℕ)) :
    requestIds (entries ++ added) = requestIds entries ++ requestIds added := by
  simp [requestIds]

lemma findRequest?_isSome {entries : List (CollabEvent × ℕ)} {requestId : String} :
    (findRequest? entries requestId).isSome ↔ requestId ∈ requestIds entries := by
  simp only [findRequest?, List.find?_isSome, isRequestEntry, Bool.and_eq_true,
    decide_eq_true_eq, requestIds, List.mem_map, List.mem_filter]
  constructor
  · rintro ⟨entry, hmem, hid, hkind⟩
    exact ⟨entry, ⟨hmem, hkind⟩, hid⟩
  · rintro ⟨entry, ⟨hmem, hkind⟩, hid⟩
    exact ⟨entry, hmem, hid, hkind⟩

lemma logView_isSome {entries : List (CollabEvent × ℕ)} {requestId : String} :
    (logView entries requestId).isSome ↔ requestId ∈ requestIds entries := by
  rw [logView, Option.isSome_map, findRequest?_isSome]

lemma sequenceOf?_request_of_logView {entries : List (CollabEvent × ℕ)} {requestId : String}
    {view : RequestView} (h : logView entries requestId = some view) :
    ∃ request ∈ entries, request.1.requestId = requestId ∧ request.1.kind = .request ∧
      request.1.fromParticipantId = view.fromParticipantId ∧
      request.1.targetParticipantId = view.targetParticipantId ∧
      view.sequenceOf? .request = some request.2 := by
  obtain ⟨request, hfind, rfl⟩ := Option.map_eq_some_iff.mp h
  obtain ⟨hid, hkind⟩ : request.1.requestId = requestId ∧ request.1.kind = .request := by
    simpa [isRequestEntry] using List.find?_some hfind
  refine ⟨request, List.mem_of_find?_eq_some hfind, hid, hkind, rfl, rfl, ?_⟩
  have hstep : isStepEntry requestId request.1.targetParticipantId .request =
      isRequestEntry requestId := by
    funext entry
    simp [isStepEntry, isRequestEntry]
  rw [findRequest?] at hfind
  simp only [hstep, hfind, Option.map_some]

/-! ## The rebuilt registry -/

/-- The record of a request after an entry of its log is replayed. -/
def CollabRequestRecord.replay (record : CollabRequestRecord) (entry : CollabEvent × ℕ) :
    CollabRequestRecord :=
  if (entry.1.kind = .request ∨ entry.1.fromParticipantId = record.targetParticipantId) ∧
      record.sequenceOf? entry.1.kind = none then
    record.withSequence entry.1.kind entry.2
  else record

@[simp]
lemma CollabRequestRecord.sequenceOf?_withSequence (record : CollabRequestRecord)
    (kind kind' : CollabEventKind) (sequence : ℕ) :
    (record.withSequence kind sequence).sequenceOf? kind' =
      if kind = kind' then some sequence else record.sequenceOf? kind' := by
  simp only [sequenceOf?, withSequence, KeyedMap.get?_set]
  split <;> simp_all [Keyed.key]

@[simp]
lemma CollabRequestRecord.targetParticipantId_withSequence (record : CollabRequestRecord)
    (kind : CollabEventKind) (sequence : ℕ) :
    (record.withSequence kind sequence).targetParticipantId = record.targetParticipantId := rfl

lemma CollabRequestRecord.endpoints_foldl_replay (record : CollabRequestRecord)
    (log : List (CollabEvent × ℕ)) :
    (log.foldl replay record).fromParticipantId = record.fromParticipantId ∧
      (log.foldl replay record).targetParticipantId = record.targetParticipantId := by
  induction log generalizing record with
  | nil => exact ⟨rfl, rfl⟩
  | cons entry log ih =>
    rw [List.foldl_cons, (ih _).1, (ih _).2, replay]
    split <;> exact ⟨rfl, rfl⟩

lemma CollabRequestRecord.sequenceOf?_foldl_replay (record : CollabRequestRecord)
    (log : List (CollabEvent × ℕ)) (kind : CollabEventKind) :
    (log.foldl replay record).sequenceOf? kind = (record.sequenceOf? kind).or
      ((log.find? fun entry => entry.1.kind = kind && (kind = .request ||
        entry.1.fromParticipantId = record.targetParticipantId)).map Prod.snd) := by
  induction log generalizing record with
  | nil => simp
  | cons entry log ih =>
    rw [List.foldl_cons, ih]
    by_cases hstep : (entry.1.kind = .request ∨
        entry.1.fromParticipantId = record.targetParticipantId) ∧
          record.sequenceOf? entry.1.kind = none
    · obtain ⟨hroute, hnone⟩ := id hstep
      rw [replay, if_pos hstep, sequenceOf?_withSequence, targetParticipantId_withSequence]
      by_cases hkind : entry.1.kind = kind
      · subst hkind
        simp [hnone, hroute]
      · simp [hkind]
    · -- The entry is skipped: it is misrouted, or its step is known already.
      rw [replay, if_neg hstep]
      by_cases hkind : entry.1.kind = kind
      · subst hkind
        cases hknown : record.sequenceOf? entry.1.kind with
        | some sequence => simp
        | none =>
          have hroute : ¬(entry.1.kind = .request ∨
              entry.1.fromParticipantId = record.targetParticipantId) := fun h =>
            hstep ⟨h, hknown⟩
          simp [hroute]
      · simp [hkind]

namespace CollabRegistry

variable (registry : CollabRegistry)

@[simp]
lemma keys_commitResponse (requestId : String) (kind : CollabEventKind) (sequence : ℕ) :
    (registry.commitResponse requestId kind sequence).requests.keys = registry.requests.keys :=
  registry.requests.keys_modify requestId (fun record => record.withSequence kind sequence)
    fun _ => rfl

lemma find_commitResponse (requestId : String) (kind : CollabEventKind) (sequence : ℕ)
    (id : String) : (registry.commitResponse requestId kind sequence).find id =
      if requestId = id then (registry.find id).map (·.withSequence kind sequence)
      else registry.find id :=
  registry.requests.get?_modify requestId (fun record => record.withSequence kind sequence)
    (fun _ => rfl) id

@[simp]
lemma keys_replayEntry (requestId : String) (entry : CollabEvent × ℕ) :
    (replayEntry requestId registry entry).requests.keys = registry.requests.keys := by
  unfold replayEntry recordResponse
  split
  · simp
  · split <;> simp

variable {requestId : String}

lemma find_replayEntry {entry : CollabEvent × ℕ}
    (hid : entry.1.requestId = requestId) (id : String) :
    (replayEntry requestId registry entry).find id =
      if requestId = id then (registry.find id).map (·.replay entry) else registry.find id := by
  unfold replayEntry
  split
  · rename_i hkind
    rw [find, KeyedMap.get?_modify]
    simp [CollabRequestRecord.replay, hkind, find]
  · rename_i hkind
    subst hid
    unfold recordResponse precheckResponse
    by_cases hid : entry.1.requestId = id
    · subst hid
      cases hfind : registry.find entry.1.requestId with
      | none => simp [hfind]
      | some record =>
        by_cases hroute : entry.1.fromParticipantId = record.targetParticipantId
        · cases hknown : record.sequenceOf? entry.1.kind with
          | none => simp [hroute, hknown, hfind, find_commitResponse, CollabRequestRecord.replay]
          | some sequence => simp [hroute, hknown, hfind, CollabRequestRecord.replay]
        · simp [hroute, hfind, hkind, CollabRequestRecord.replay]
    · split <;> simp [find_commitResponse, hid]

lemma find_foldl_replayEntry {log : List (CollabEvent × ℕ)}
    (hid : ∀ entry ∈ log, entry.1.requestId = requestId) (id : String) :
    (log.foldl (replayEntry requestId) registry).find id =
      if requestId = id then
        (registry.find id).map fun record => log.foldl CollabRequestRecord.replay record
      else registry.find id := by
  induction log generalizing registry with
  | nil => simp
  | cons entry log ih =>
    rw [List.foldl_cons, ih _ fun e he => hid e (List.mem_cons_of_mem _ he),
      find_replayEntry registry (hid entry List.mem_cons_self)]
    split
    · rw [Option.map_map]
      rfl
    · rfl

lemma keys_foldl_replayEntry (requestId : String) (log : List (CollabEvent × ℕ)) :
    (log.foldl (replayEntry requestId) registry).requests.keys = registry.requests.keys := by
  induction log generalizing registry with
  | nil => rfl
  | cons entry log ih => rw [List.foldl_cons, ih, keys_replayEntry]

lemma replayRequest_eq (entries : List (CollabEvent × ℕ)) (requestId : String) :
    replayRequest entries registry requestId =
      match findRequest? entries requestId with
      | none => registry
      | some request =>
        (entries.filter fun entry => entry.1.requestId = requestId).foldl
          (replayEntry requestId)
          { requests := registry.requests.set
              { requestId
                fromParticipantId := request.1.fromParticipantId
                targetParticipantId := request.1.targetParticipantId } } := by
  have hrequest : (entries.filter fun entry => entry.1.requestId = requestId).find?
      (fun entry => entry.1.kind = .request) = findRequest? entries requestId := by
    rw [List.find?_filter, findRequest?]
    congr 1
    funext entry
    simp [isRequestEntry]
  simp only [replayRequest, hrequest]
  cases findRequest? entries requestId <;> rfl

lemma view_find_replayRequest_self (entries : List (CollabEvent × ℕ)) (requestId : String) :
    ((registry.replayRequest entries requestId).find requestId).map CollabRequestRecord.view =
      (logView entries requestId).or
        ((registry.find requestId).map CollabRequestRecord.view) := by
  rw [replayRequest_eq, logView]
  cases findRequest? entries requestId with
  | none => simp
  | some request =>
    dsimp only
    rw [find_foldl_replayEntry _ (by simp)]
    obtain ⟨hfrom, htarget⟩ := CollabRequestRecord.endpoints_foldl_replay
      { requestId, fromParticipantId := request.1.fromParticipantId,
        targetParticipantId := request.1.targetParticipantId }
      (entries.filter fun entry => entry.1.requestId = requestId)
    simp only [find, KeyedMap.get?_set, CollabRequestRecord.key_eq, if_pos, Option.map_some,
      Option.some_or, Option.some.injEq, CollabRequestRecord.view, RequestView.mk.injEq]
    refine ⟨hfrom, htarget, ?_⟩
    funext kind
    rw [CollabRequestRecord.sequenceOf?_foldl_replay, List.find?_filter]
    simp only [CollabRequestRecord.sequenceOf?, KeyedMap.get?_empty, Option.map_none,
      Option.none_or]
    congr 2
    funext entry
    simp [isStepEntry, Bool.and_assoc]

lemma find_replayRequest_of_ne (entries : List (CollabEvent × ℕ)) {requestId id : String}
    (hne : requestId ≠ id) : (registry.replayRequest entries requestId).find id =
      registry.find id := by
  rw [replayRequest_eq]
  cases findRequest? entries requestId with
  | none => rfl
  | some request =>
    dsimp only
    rw [find_foldl_replayEntry _ (by simp), if_neg hne]
    exact KeyedMap.get?_set_of_ne _ hne

lemma keys_replayRequest (entries : List (CollabEvent × ℕ))
    (hnew : requestId ∉ registry.requests.keys) :
    (replayRequest entries registry requestId).requests.keys =
      registry.requests.keys ++ [requestId].filter (· ∈ requestIds entries) := by
  rw [replayRequest_eq]
  cases hentry : findRequest? entries requestId with
  | none =>
    have hnot : requestId ∉ requestIds entries := by
      rw [← findRequest?_isSome, hentry]
      simp
    simp [hnot]
  | some request =>
    have hmem : requestId ∈ requestIds entries := by
      rw [← findRequest?_isSome, hentry]
      rfl
    rw [keys_foldl_replayEntry, KeyedMap.keys_set]
    simp [hnew, hmem]

lemma view_find_foldl_replayRequest (entries : List (CollabEvent × ℕ)) (ids : List String)
    (id : String) :
    ((ids.foldl (replayRequest entries) registry).find id).map CollabRequestRecord.view =
      if id ∈ ids then
        (logView entries id).or ((registry.find id).map CollabRequestRecord.view)
      else (registry.find id).map CollabRequestRecord.view := by
  induction ids generalizing registry with
  | nil => simp
  | cons head ids ih =>
    rw [List.foldl_cons, ih]
    by_cases hhead : head = id
    · subst hhead
      rw [view_find_replayRequest_self]
      simp [← Option.or_assoc]
    · rw [find_replayRequest_of_ne _ _ hhead]
      simp [Ne.symm hhead]

lemma keys_foldl_replayRequest (entries : List (CollabEvent × ℕ)) {ids : List String}
    (hnodup : ids.Nodup) (hnew : ∀ id ∈ ids, id ∉ registry.requests.keys) :
    (ids.foldl (replayRequest entries) registry).requests.keys =
      registry.requests.keys ++ ids.filter (· ∈ requestIds entries) := by
  induction ids generalizing registry with
  | nil => simp
  | cons head ids ih =>
    obtain ⟨hhead, hnodup⟩ := List.nodup_cons.mp hnodup
    have hkeys := registry.keys_replayRequest entries (hnew head List.mem_cons_self)
    rw [List.foldl_cons, ih _ hnodup, hkeys, List.append_assoc, ← List.filter_append,
      List.singleton_append]
    intro id hid hmem
    rw [hkeys, List.mem_append] at hmem
    rcases hmem with hmem | hmem
    · exact hnew id (List.mem_cons_of_mem _ hid) hmem
    · obtain rfl := List.mem_singleton.mp (List.mem_filter.mp hmem).1
      exact hhead hid

lemma takeLast_distinct {entries : List (CollabEvent × ℕ)}
    (hbound : entries.length ≤ MAX_TRACKED_REQUESTS) :
    takeLast MAX_TRACKED_REQUESTS (entries.map fun entry => entry.1.requestId).distinct =
      (entries.map fun entry => entry.1.requestId).distinct := by
  have hlength := List.length_distinct_le (entries.map fun entry => entry.1.requestId)
  rw [List.length_map] at hlength
  rw [takeLast, Nat.sub_eq_zero_of_le (Nat.le_trans hlength hbound), List.drop_zero]

lemma view_find_rebuild {entries : List (CollabEvent × ℕ)}
    (hbound : entries.length ≤ MAX_TRACKED_REQUESTS) (id : String) :
    ((({} : CollabRegistry).rebuild entries).find id).map CollabRequestRecord.view =
      logView entries id := by
  rw [rebuild, takeLast_distinct hbound, view_find_foldl_replayRequest]
  have hempty : ({} : CollabRegistry).find id = none := rfl
  rw [hempty, Option.map_none, Option.or_none]
  split
  · rfl
  · rename_i hnot
    cases hview : logView entries id with
    | none => rfl
    | some view =>
      obtain ⟨request, hmem, hid, -⟩ := sequenceOf?_request_of_logView hview
      exact absurd (List.mem_distinct.mpr (List.mem_map.mpr ⟨request, hmem, hid⟩)) hnot

end CollabRegistry

/-! ## Coherent logs -/

/-- No request reuses an id that the log carries before it. -/
def Coherent (entries : List (CollabEvent × ℕ)) : Prop :=
  entries.Pairwise fun earlier later =>
    later.1.kind = .request → earlier.1.requestId ≠ later.1.requestId

namespace Coherent

variable {entries entries' : List (CollabEvent × ℕ)}

section

variable (h : Coherent entries)
include h

lemma suffix (hsuffix : entries' <:+ entries) : Coherent entries' :=
  h.sublist hsuffix.sublist

lemma concat {entry : CollabEvent × ℕ} (hfresh : entry.1.kind = .request →
      ∀ earlier ∈ entries, earlier.1.requestId ≠ entry.1.requestId) :
    Coherent (entries ++ [entry]) := by
  refine List.pairwise_append.mpr ⟨h, List.pairwise_singleton _ _, ?_⟩
  intro earlier hmem later hlater hkind
  obtain rfl := List.mem_singleton.mp hlater
  exact hfresh hkind earlier hmem

lemma logView_suffix (hsuffix : entries' <:+ entries) {id : String}
    (hid : id ∈ requestIds entries') : logView entries' id = logView entries id := by
  obtain ⟨older, rfl⟩ := hsuffix
  obtain ⟨request, hmem, rfl⟩ := List.mem_map.mp hid
  obtain ⟨hmem, hkind⟩ := List.mem_filter.mp hmem
  have hother : ∀ entry ∈ older, entry.1.requestId ≠ request.1.requestId := fun entry he =>
    (List.pairwise_append.mp h).2.2 entry he request hmem (by simpa using hkind)
  have hrequest : older.find? (isRequestEntry request.1.requestId) = none := by
    refine List.find?_eq_none.mpr fun entry he => ?_
    simp [isRequestEntry, hother entry he]
  have hstep : ∀ target kind,
      older.find? (isStepEntry request.1.requestId target kind) = none := by
    refine fun target kind => List.find?_eq_none.mpr fun entry he => ?_
    simp [isStepEntry, hother entry he]
  simp only [logView, findRequest?, List.find?_append, hrequest, hstep, Option.none_or]

lemma filter_distinct :
    (entries.map fun entry => entry.1.requestId).distinct.filter (· ∈ requestIds entries) =
      requestIds entries := by
  induction entries using List.reverseRecOn with
  | nil => rfl
  | append_singleton entries entry ih =>
    have hother := (List.pairwise_append.mp h).2.2
    have ih := ih (h.sublist (List.sublist_append_left _ _))
    rw [List.map_append, List.map_singleton, List.distinct_concat, requestIds_append]
    by_cases hkind : entry.1.kind = .request
    · have hnew : entry.1.requestId ∉ entries.map fun entry => entry.1.requestId := by
        intro hmem
        obtain ⟨earlier, he, heq⟩ := List.mem_map.mp hmem
        exact hother earlier he entry (List.mem_singleton_self _) hkind heq
      have hadded : requestIds [entry] = [entry.1.requestId] := by simp [requestIds, hkind]
      rw [if_neg hnew, List.filter_append, hadded, List.filter_singleton]
      have hfilter : ((entries.map fun entry => entry.1.requestId).distinct.filter
          (· ∈ requestIds entries ++ [entry.1.requestId])) =
            (entries.map fun entry => entry.1.requestId).distinct.filter
              (· ∈ requestIds entries) := by
        refine List.filter_congr fun id hid => ?_
        have hne : id ≠ entry.1.requestId := fun heq =>
          hnew (heq ▸ List.mem_distinct.mp hid)
        simp [hne]
      rw [hfilter, ih]
      simp
    · have hadded : requestIds [entry] = [] := by simp [requestIds, hkind]
      rw [hadded, List.append_nil]
      split
      · exact ih
      · rename_i hnew
        have hnot : entry.1.requestId ∉ requestIds entries := by
          intro hmem
          obtain ⟨request, hrequest, heq⟩ := List.mem_map.mp hmem
          exact hnew (List.mem_map.mpr ⟨request, (List.mem_filter.mp hrequest).1, heq⟩)
        rw [List.filter_append, ih, List.filter_singleton]
        simp [hnot]

lemma keys_rebuild (hbound : entries.length ≤ MAX_TRACKED_REQUESTS) :
    (({} : CollabRegistry).rebuild entries).requests.keys = requestIds entries := by
  rw [CollabRegistry.rebuild, CollabRegistry.takeLast_distinct hbound,
    CollabRegistry.keys_foldl_replayRequest _ _ (List.nodup_distinct _) fun id _ hmem =>
      List.not_mem_nil hmem]
  exact h.filter_distinct

end

end Coherent

/-! ## The registry that follows the log -/

/-- The registry answers about every request that the log carries as the log says, and tracks these
requests as its newest ones. -/
structure Correlates (registry : CollabRegistry) (entries : List (CollabEvent × ℕ)) : Prop where
  coherent : Coherent entries
  tracked : requestIds entries <:+ registry.requests.keys
  agree : ∀ id ∈ requestIds entries,
    (registry.find id).map CollabRequestRecord.view = logView entries id

lemma dropWhileFull_eq_drop {α : Type} (bound : ℕ) (values : List α) :
    dropWhileFull bound values = values.drop (values.length + 1 - bound) := by
  induction values with
  | nil => simp [dropWhileFull]
  | cons value values ih =>
    rw [dropWhileFull]
    split
    · rename_i hfull
      have hcount : (value :: values).length + 1 - bound = values.length + 1 - bound + 1 := by
        simp only [List.length_cons] at hfull ⊢
        omega
      rw [ih, hcount, List.drop_succ_cons]
    · rename_i hroom
      rw [Nat.sub_eq_zero_of_le (Nat.lt_of_not_le hroom), List.drop_zero]

namespace CollabRegistry

variable (registry : CollabRegistry) {event : CollabEvent}

lemma keys_evictWhileFull : registry.evictWhileFull.requests.keys = registry.requests.keys.drop
      (registry.requests.keys.length + 1 - MAX_TRACKED_REQUESTS) := by
  simp only [evictWhileFull, KeyedMap.keys, dropWhileFull_eq_drop, List.map_drop,
    List.length_map]

lemma find_evictWhileFull {id : String} (hid : id ∈ registry.evictWhileFull.requests.keys) :
    registry.evictWhileFull.find id = registry.find id :=
  KeyedMap.get?_eq_of_subset (dropWhileFull_suffix _ _).subset hid

section

variable (hnew : registry.find event.requestId = none)
include hnew

lemma recordRequest_of_new (sequence : ℕ) : registry.recordRequest event sequence =
      (.recorded sequence,
        { requests := registry.evictWhileFull.requests.set
            { requestId := event.requestId
              fromParticipantId := event.fromParticipantId
              targetParticipantId := event.targetParticipantId
              sequenceByKind := KeyedMap.empty.set (.request, sequence) } }) := by
  rw [recordRequest, hnew]

lemma keys_recordRequest (sequence : ℕ) : (registry.recordRequest event sequence).2.requests.keys =
      registry.evictWhileFull.requests.keys ++ [event.requestId] := by
  have hnot : event.requestId ∉ registry.evictWhileFull.requests.keys := by
    intro hmem
    have hsome := KeyedMap.mem_keys_iff.mp hmem
    have hnone := (registry.find_evictWhileFull hmem).trans hnew
    rw [find] at hnone
    rw [hnone] at hsome
    exact absurd hsome (by simp)
  simp only [registry.recordRequest_of_new hnew, KeyedMap.keys_set, CollabRequestRecord.key_eq,
    if_neg hnot]

lemma find_recordRequest_self (sequence : ℕ) :
    (registry.recordRequest event sequence).2.find event.requestId = some
      { requestId := event.requestId
        fromParticipantId := event.fromParticipantId
        targetParticipantId := event.targetParticipantId
        sequenceByKind := KeyedMap.empty.set (.request, sequence) } := by
  simp only [registry.recordRequest_of_new hnew, find, KeyedMap.get?_set,
    CollabRequestRecord.key_eq, if_pos]

lemma find_recordRequest_of_ne (sequence : ℕ) {id : String} (hne : event.requestId ≠ id) :
    (registry.recordRequest event sequence).2.find id = registry.evictWhileFull.find id := by
  simp only [registry.recordRequest_of_new hnew, find, KeyedMap.get?_set,
    CollabRequestRecord.key_eq, if_neg hne]

end

end CollabRegistry

lemma logView_concat_of_ne (entries : List (CollabEvent × ℕ)) {entry : CollabEvent × ℕ}
    {id : String} (hne : entry.1.requestId ≠ id) :
    logView (entries ++ [entry]) id = logView entries id := by
  have hrequest : [entry].find? (isRequestEntry id) = none := by simp [isRequestEntry, hne]
  have hstep : ∀ target kind, [entry].find? (isStepEntry id target kind) = none := by
    simp [isStepEntry, hne]
  simp only [logView, findRequest?, List.find?_append, hrequest, hstep, Option.or_none]

namespace Correlates

variable {registry : CollabRegistry} {entries entries' : List (CollabEvent × ℕ)}
  {event : CollabEvent} {sequence : ℕ}

lemma suffix (h : Correlates registry entries) (hsuffix : entries' <:+ entries) :
    Correlates registry entries' := by
  have hids : requestIds entries' <:+ requestIds entries := (hsuffix.filter _).map _
  refine ⟨h.coherent.suffix hsuffix, hids.trans h.tracked, ?_⟩
  intro id hid
  rw [h.agree id (hids.subset hid), h.coherent.logView_suffix hsuffix hid]

lemma rebuild (hcoherent : Coherent entries) (hbound : entries.length ≤ MAX_TRACKED_REQUESTS) :
    Correlates (({} : CollabRegistry).rebuild entries) entries := by
  refine ⟨hcoherent, ?_, fun id _ => CollabRegistry.view_find_rebuild hbound id⟩
  rw [hcoherent.keys_rebuild hbound]

lemma recordRequest (h : Correlates registry entries)
    (hbound : entries.length < MAX_TRACKED_REQUESTS) (hkind : event.kind = .request)
    (hnew : registry.find event.requestId = none)
    (hfresh : ∀ entry ∈ entries, entry.1.requestId ≠ event.requestId) :
    Correlates (registry.recordRequest event sequence).2 (entries ++ [(event, sequence)]) := by
  have hcoherent : Coherent (entries ++ [(event, sequence)]) :=
    h.coherent.concat fun _ => hfresh
  have hids : requestIds [(event, sequence)] = [event.requestId] := by simp [requestIds, hkind]
  -- The log carries fewer requests than the registry keeps when it makes room.
  have hkept : requestIds entries <:+ registry.evictWhileFull.requests.keys := by
    have hlength : (requestIds entries).length ≤ entries.length := by
      simpa [requestIds] using List.length_filter_le _ _
    rw [registry.keys_evictWhileFull]
    refine List.suffix_of_suffix_length_le h.tracked (List.drop_suffix _ _) ?_
    have htracked := h.tracked.length_le
    rw [List.length_drop]
    omega
  refine ⟨hcoherent, ?_, ?_⟩
  · rw [requestIds_append, hids, registry.keys_recordRequest hnew]
    exact (List.suffix_append_inj_of_length_eq rfl).mpr ⟨hkept, rfl⟩
  · intro id hid
    rw [requestIds_append, hids, List.mem_append, List.mem_singleton] at hid
    by_cases hself : event.requestId = id
    · subst hself
      rw [registry.find_recordRequest_self hnew, ← hcoherent.logView_suffix
        (List.suffix_append entries _) (by simp [hids])]
      simp only [Option.map_some, CollabRequestRecord.view, logView, findRequest?, isRequestEntry,
        hkind, List.find?_singleton, decide_true, Bool.and_self, if_pos, Option.some.injEq,
        RequestView.mk.injEq, true_and]
      funext kind
      by_cases hrequest : CollabEventKind.request = kind <;>
        simp [CollabRequestRecord.sequenceOf?, KeyedMap.get?_set, Keyed.key, isStepEntry, hkind,
          hrequest]
    · have hmem : id ∈ requestIds entries := hid.resolve_right fun heq => hself heq.symm
      rw [registry.find_recordRequest_of_ne hnew _ hself,
        registry.find_evictWhileFull (hkept.subset hmem), h.agree id hmem,
        logView_concat_of_ne _ hself]

lemma commitResponse (h : Correlates registry entries) (hkind : event.kind ≠ .request)
    {record : CollabRequestRecord} (hfind : registry.find event.requestId = some record)
    (hroute : event.fromParticipantId = record.targetParticipantId)
    (hnone : record.sequenceOf? event.kind = none) :
    Correlates (registry.commitResponse event.requestId event.kind sequence)
      (entries ++ [(event, sequence)]) := by
  have hids : requestIds (entries ++ [(event, sequence)]) = requestIds entries := by
    simp [requestIds, hkind]
  refine ⟨h.coherent.concat fun hrequest => absurd hrequest hkind, ?_, ?_⟩
  · rw [hids, registry.keys_commitResponse]
    exact h.tracked
  · intro id hid
    rw [hids] at hid
    rw [registry.find_commitResponse]
    split
    · rename_i hself
      subst hself
      obtain ⟨request, hrequest⟩ := Option.isSome_iff_exists.mp (findRequest?_isSome.mpr hid)
      have hagree := h.agree _ hid
      rw [findRequest?] at hrequest
      simp only [hfind, Option.map_some, logView, findRequest?, hrequest, Option.some.injEq,
        CollabRequestRecord.view, RequestView.mk.injEq] at hagree
      obtain ⟨hfrom, htarget, hsequence⟩ := hagree
      have hsequence := congrFun hsequence
      simp only [hfind, Option.map_some, logView, findRequest?, List.find?_append, hrequest,
        Option.some_or, Option.some.injEq, CollabRequestRecord.view, RequestView.mk.injEq]
      refine ⟨hfrom, htarget, ?_⟩
      funext kind
      rw [CollabRequestRecord.sequenceOf?_withSequence, Option.map_or, ← hsequence kind]
      by_cases hstep : event.kind = kind
      · subst hstep
        simp [hnone, isStepEntry, hroute, htarget]
      · simp [isStepEntry, hstep]
    · rename_i hother
      rw [h.agree id hid, logView_concat_of_ne _ hother]

end Correlates

end Free4Chat
