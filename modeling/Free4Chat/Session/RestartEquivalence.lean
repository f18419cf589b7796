import Free4Chat.Session.DuplicateAnswers

/-!
# Restarts

The registry rebuilt from the retained log against the registry that has followed the log. They
answer alike about every request that the log retains, as long as every save succeeds and no
request reuses an id that the log still carries but the registry has dropped.

* `SameAnswers`: two registries answer alike about a request.
* `RestartEquivalent`: a restart changes no answer about a retained request.
* `NoIdReuse`: no request reuses an id that is still carried.
* `restartEquivalent_of_noIdReuse`: the equivalence in every such run.
-/

namespace Free4Chat

/-! ## Answers -/

/-- Two registries answer alike about a request: about its responses, their routing, and repeated
requests. -/
def SameAnswers (registry registry' : CollabRegistry) (requestId : String) : Prop :=
  (∀ kind responderParticipantId,
    registry.precheckResponse requestId kind responderParticipantId =
      registry'.precheckResponse requestId kind responderParticipantId) ∧
  (∀ responderParticipantId,
    registry.routingFor requestId responderParticipantId =
      registry'.routingFor requestId responderParticipantId) ∧
  ∀ event sequence, event.requestId = requestId →
    (registry.recordRequest event sequence).1 = (registry'.recordRequest event sequence).1

/-- A registry does not know a request. -/
def AnswersUnknown (registry : CollabRegistry) (requestId : String) : Prop :=
  (∀ kind responderParticipantId,
    registry.precheckResponse requestId kind responderParticipantId =
      .rejected "unknown_request") ∧
  ∀ responderParticipantId, registry.routingFor requestId responderParticipantId = none

lemma sameAnswers_of_view_eq {registry registry' : CollabRegistry} {requestId : String}
    (h : (registry.find requestId).map CollabRequestRecord.view =
      (registry'.find requestId).map CollabRequestRecord.view) :
    SameAnswers registry registry' requestId := by
  cases hfind : registry.find requestId with
  | none =>
    have hfind' : registry'.find requestId = none := by
      rw [hfind] at h
      exact Option.map_eq_none_iff.mp h.symm
    refine ⟨?_, ?_, ?_⟩
    · simp [CollabRegistry.precheckResponse, hfind, hfind']
    · simp [CollabRegistry.routingFor, hfind, hfind']
    · rintro event sequence rfl
      simp [CollabRegistry.recordRequest, hfind, hfind']
  | some record =>
    rw [hfind, Option.map_some] at h
    obtain ⟨record', hfind', hview⟩ := Option.map_eq_some_iff.mp h.symm
    simp only [CollabRequestRecord.view, RequestView.mk.injEq] at hview
    obtain ⟨hfrom, htarget, hsequence⟩ := hview
    have hsequence := congrFun hsequence
    refine ⟨?_, ?_, ?_⟩
    · intro kind responder
      simp only [CollabRegistry.precheckResponse, hfind, hfind', htarget, hsequence]
    · intro responder
      simp only [CollabRegistry.routingFor, hfind, hfind', Option.filter_some, htarget]
      split <;> simp [hfrom]
    · rintro event sequence rfl
      simp only [CollabRegistry.recordRequest, hfind, hfind', hsequence]

lemma answersUnknown_of_find_eq_none {registry : CollabRegistry} {requestId : String}
    (h : registry.find requestId = none) : AnswersUnknown registry requestId := by
  refine ⟨?_, ?_⟩
  · simp [CollabRegistry.precheckResponse, h]
  · simp [CollabRegistry.routingFor, h]

/-! ## Runs -/

/-- A restart at this point changes no answer about a retained request, and forgets the others. -/
def RestartEquivalent (env : RoomEnv) (s : RoomSession) : Prop :=
  ∀ room s₁, s.activeRoom env = (some room, s₁) → ∀ requestId,
    (requestId ∈ requestIds (collabEntries room.messages) →
      SameAnswers (({} : CollabRegistry).rebuild (collabEntries room.messages))
        (s₁.tracking.warm room).collabRegistry requestId) ∧
    (requestId ∉ requestIds (collabEntries room.messages) →
      AnswersUnknown (({} : CollabRegistry).rebuild (collabEntries room.messages)) requestId)

/-- Every save of an operation succeeds: what a load repairs fits the budget, and what an ingestion
appends is saved. -/
def SavesSucceed (s : RoomSession) (label : RoomEnv × SessionOp) : Prop :=
  (∀ stored, s.stored = some stored → needsRepair label.1 stored = true →
    ((normalizeRoom label.1 stored).trimRoomMessagesToBudget label.1).fitsBudget label.1 = true) ∧
  ∀ s₁ room envelope, s.Receives label.1 label.2 s₁ room envelope →
    (envelope.ingest label.1 room s₁.tracking).answer ≠ .failed

/-- No valid request that the session does not remember has an id that a retained collaboration
message carries. -/
def NoIdReuse (s : RoomSession) (label : RoomEnv × SessionOp) : Prop :=
  ∀ s₁ room sender input generatedRequestId event,
    s.Receives label.1 label.2 s₁ room (.request sender input generatedRequestId) →
    validateCollabEvent (.str "request") input sender.id room.participants room.attachments
      generatedRequestId = .ok event →
    ¬s₁.tracking.Remembers room event.requestId →
    ∀ entry ∈ collabEntries room.messages, entry.1.requestId ≠ event.requestId

/-- The bookkeeping and the retained log correlate, if the registry has been rebuilt, and otherwise
the log is coherent. -/
def CorrelatesWith (tracking : CollabTracking) (entries : List (CollabEvent × ℕ)) : Prop :=
  Coherent entries ∧ (tracking.collabRebuilt = true → Correlates tracking.collabRegistry entries)

namespace CorrelatesWith

variable {tracking : CollabTracking} {entries entries' : List (CollabEvent × ℕ)}

lemma suffix (h : CorrelatesWith tracking entries) (hsuffix : entries' <:+ entries) :
    CorrelatesWith tracking entries' :=
  ⟨h.1.suffix hsuffix, fun hrebuilt => (h.2 hrebuilt).suffix hsuffix⟩

lemma warm {room : RoomRecord} (h : CorrelatesWith tracking (collabEntries room.messages))
    (hcold : tracking.collabRebuilt = false → tracking.collabRegistry = {})
    (hwell : WellLogged room) :
    Correlates (tracking.warm room).collabRegistry (collabEntries room.messages) := by
  unfold CollabTracking.warm
  cases hrebuilt : tracking.collabRebuilt with
  | true => simpa using h.2 hrebuilt
  | false =>
    simp only [hcold hrebuilt, Bool.false_eq_true, if_false]
    exact Correlates.rebuild h.1 (Nat.le_of_lt hwell.length_collabEntries_lt)

lemma of_correlates (h : Correlates tracking.collabRegistry entries) :
    CorrelatesWith tracking entries :=
  ⟨h.coherent, fun _ => h⟩

end CorrelatesWith

/-- The bookkeeping of the session correlates with the log of its Room. -/
def SessionCorrelates (s : RoomSession) : Prop :=
  ∀ room, s.stored = some room → CorrelatesWith s.tracking (collabEntries room.messages)

lemma loadRoom_messages_of_fits {env : RoomEnv} {stored room opened : RoomRecord}
    (hwell : WellLogged stored) (hfits : needsRepair env stored = true →
      ((normalizeRoom env stored).trimRoomMessagesToBudget env).fitsBudget env = true)
    (hload : loadRoom env stored = some (room, opened)) :
    collabEntries opened.messages = collabEntries room.messages := by
  unfold loadRoom at hload
  dsimp only at hload
  split at hload
  · rename_i hrepair
    rw [if_pos (hfits hrepair)] at hload
    split at hload
    · obtain ⟨rfl, rfl⟩ := Prod.mk.inj (Option.some.inj hload)
      rfl
    · cases hload
  · obtain ⟨rfl, rfl⟩ := Prod.mk.inj (Option.some.inj hload)
    have hmap := (normalizeMessages_of_numbered _ _ hwell.numbered_messages).1
    have hentries := congrArg collabEntries hmap
    rw [collabEntries_untargeted, collabEntries_untargeted] at hentries
    exact hentries.symm

section

variable {env : RoomEnv} {s s' s₁ : RoomSession} {op : SessionOp} {room opened : RoomRecord}

lemma SavesSucceed.entries_opened (hsave : SavesSucceed s (env, op)) (hwell : s.WellFormed)
    (hopens : s.Opens env room opened) :
    collabEntries opened.messages = collabEntries room.messages := by
  obtain ⟨stored, hstored, hload⟩ := hopens
  exact loadRoom_messages_of_fits (hwell.wellLogged stored hstored)
    (hsave.1 stored hstored) hload

lemma SessionCorrelates.opens (hcorr : SessionCorrelates s) (hwell : s.WellFormed)
    (hopens : s.Opens env room opened) :
    WellLogged room ∧ CorrelatesWith s.tracking (collabEntries room.messages) := by
  obtain ⟨stored, hstored, hroom, -⟩ := hopens.logExtends hwell
  refine ⟨hroom.wellLogged (hwell.wellLogged stored hstored), ?_⟩
  refine (hcorr stored hstored).suffix ?_
  simpa using (LogExtendsBy.of_nil hroom).collabEntries_messages

lemma sessionCorrelates_ingested {envelope : CollabEnvelope} (hwell : s.WellFormed)
    (hcorr : SessionCorrelates s) (hsave : SavesSucceed s (env, op))
    (hreuse : NoIdReuse s (env, op)) (hreceives : s.Receives env op s₁ room envelope) :
    SessionCorrelates (s₁.ingested room (envelope.ingest env room s₁.tracking)) := by
  have hremembers := fun id => hreceives.remembers_iff hwell id
  obtain ⟨collabOp, loaded, hop, hactive, henvelope⟩ := id hreceives
  obtain ⟨opened, hopens, rfl⟩ := RoomSession.opens_of_activeRoom hactive
  obtain ⟨hloadedWell, hloaded⟩ := hcorr.opens hwell hopens
  have hconversation := LogExtends.of_conversation (CollabOp.conversation_envelope henvelope)
  have hmessages : collabEntries room.messages = collabEntries loaded.messages :=
    congrArg (fun conversation => collabEntries conversation.messages)
      (CollabOp.conversation_envelope henvelope)
  have hroomWell := hconversation.wellLogged hloadedWell
  rw [← hmessages] at hloaded
  have hwarm : Correlates (s.tracking.warm room).collabRegistry (collabEntries room.messages) :=
    hloaded.warm (fun hcold => (hwell.cold hcold).1) hroomWell
  have hopened := hsave.entries_opened hwell hopens
  rw [← hmessages] at hopened
  intro record hrecord
  rcases envelope.ingest_cases env room s.tracking with
    ⟨answer, -, -, hingest⟩ | ⟨event, hnew,
      ⟨-, hingest⟩ | ⟨saved, added, hlog, hadded, -, hingest⟩⟩
  · rw [hingest] at hrecord ⊢
    obtain rfl := Option.some.inj hrecord
    rw [hopened]
    exact CorrelatesWith.of_correlates hwarm
  · have hnotFailed := hsave.2 _ room envelope hreceives
    rw [hingest] at hnotFailed
    exact absurd rfl hnotFailed
  · rw [hingest] at hrecord ⊢
    obtain rfl := Option.some.inj hrecord
    have hsuffix := hlog.collabEntries_messages
    rw [hadded] at hsuffix
    refine CorrelatesWith.suffix (CorrelatesWith.of_correlates ?_) hsuffix
    cases envelope with
    | request sender input generatedRequestId =>
      obtain ⟨hvalid, hfind⟩ := newRequest_eq_some.mp hnew
      have hfresh := hreuse _ room sender input generatedRequestId event hreceives hvalid (by
        rw [hremembers, hfind]
        exact nofun)
      exact hwarm.recordRequest hroomWell.length_collabEntries_lt (kind_of_newRequest hnew) hfind
        hfresh
    | response responder input generatedRequestId =>
      have hkind := kind_of_newResponse hreceives hnew
      obtain ⟨validated, tracked, -, hfind, -, hnone, rfl⟩ := newResponse_eq_some.mp hnew
      exact hwarm.commitResponse hkind hfind rfl hnone

lemma CollabStep.sessionCorrelates (h : CollabStep env s op s') (hwell : s.WellFormed)
    (hcorr : SessionCorrelates s) (hsave : SavesSucceed s (env, op))
    (hreuse : NoIdReuse s (env, op)) : SessionCorrelates s' := by
  cases h with
  | vacated => exact fun _ h => nomatch h
  | created hhistory hmessages =>
    intro room hroom
    obtain rfl := Option.some.inj hroom
    rw [hmessages]
    exact ⟨List.Pairwise.nil, fun h => nomatch h⟩
  | restarted => exact fun room hroom => ⟨(hcorr room hroom).1, fun h => nomatch h⟩
  | quiet hstored hlog =>
    intro room hroom
    obtain rfl := Option.some.inj hroom
    exact (hcorr _ hstored).suffix hlog.collabEntries_messages
  | warmed hopens hsaved =>
    intro room hroom
    obtain rfl := Option.some.inj hroom
    obtain ⟨hloadedWell, hloaded⟩ := hcorr.opens hwell hopens
    have hwarm := hloaded.warm (fun hcold => (hwell.cold hcold).1) hloadedWell
    refine (CorrelatesWith.of_correlates hwarm).suffix ?_
    rcases hsaved with rfl | hlog
    · rw [hsave.entries_opened hwell hopens]
    · exact hlog.collabEntries_messages
  | ingested hreceives =>
    exact sessionCorrelates_ingested hwell hcorr hsave hreuse hreceives

end

/-! ## The run with many requests -/

lemma savesSucceed_fixedEnv (s : RoomSession) (op : SessionOp) :
    SavesSucceed s (fixedEnv true, op) := by
  refine ⟨fun _ _ _ => rfl, fun s₁ room envelope _ hfailed => ?_⟩
  rcases envelope.ingest_cases (fixedEnv true) room s₁.tracking with
    ⟨answer, hanswer, -, hingest⟩ | ⟨event, -, ⟨hsave, -⟩ | ⟨saved, added, -, -, -, hingest⟩⟩
  · rw [hingest] at hfailed
    exact hanswer hfailed
  · rw [saveRoom_fixedEnv] at hsave
    cases hsave
  · rw [hingest] at hfailed
    cases hfailed

lemma RoomSession.Receives.unique {env : RoomEnv} {s s₁ s₂ : RoomSession} {op : SessionOp}
    {room room' : RoomRecord} {envelope envelope' : CollabEnvelope}
    (h : s.Receives env op s₁ room envelope) (h' : s.Receives env op s₂ room' envelope') :
    room' = room ∧ envelope' = envelope := by
  obtain ⟨collabOp, loaded, rfl, hactive, henvelope⟩ := h
  obtain ⟨collabOp', loaded', hop, hactive', henvelope'⟩ := h'
  obtain rfl := SessionOp.collab.inj hop
  obtain ⟨hloaded, -⟩ := Prod.mk.inj (hactive.symm.trans hactive')
  obtain rfl := Option.some.inj hloaded
  obtain ⟨hroom, hbrought⟩ := Prod.mk.inj (Except.ok.inj (henvelope'.symm.trans henvelope))
  exact ⟨hroom, hbrought⟩

lemma noIdReuse_numbered {n : ℕ} (hn : n < 129) :
    NoIdReuse (numberedSession n) (fixedEnv true, sendNumbered n) := by
  intro s₁ room sender input generatedRequestId event hreceives hvalid _ entry hentry
  have hcanonical := receives_numbered n n (numberedSession n).tracking []
  obtain ⟨rfl, henvelope⟩ := hcanonical.unique hreceives
  obtain ⟨rfl, rfl, rfl⟩ := CollabEnvelope.request.inj henvelope
  obtain rfl := Except.ok.inj (hvalid.symm.trans (validate_numbered hn))
  obtain ⟨message, hmem, hmessage, -⟩ := exists_message_of_mem_collabEntries hentry
  obtain ⟨m, hm, rfl⟩ := List.mem_map.mp (List.mem_of_mem_drop hmem)
  obtain rfl := Option.some.inj hmessage
  exact numberedId_ne hn (List.mem_range.mp hm)

/-- The record of a numbered request. -/
def numberedRecord (n : ℕ) : CollabRequestRecord :=
  { requestId := numberedId n
    fromParticipantId := "agent-a"
    targetParticipantId := "agent-b"
    sequenceByKind := KeyedMap.empty.set (.request, n + 1) }

lemma values_numberedRegistry {n : ℕ} (hn : n ≤ 128) :
    (numberedRegistry n).requests.values = (List.range n).map numberedRecord := by
  induction n with
  | zero => rfl
  | succ n ih =>
    have hvalues := ih (Nat.le_of_succ_le hn)
    have hfind := find_numberedRegistry (Nat.lt_of_lt_of_le hn (by decide))
    have hroom : (numberedRegistry n).evictWhileFull = numberedRegistry n := by
      have hdrop : (numberedRegistry n).requests.values.length + 1 - MAX_TRACKED_REQUESTS = 0 := by
        rw [hvalues, List.length_map, List.length_range]
        exact Nat.sub_eq_zero_of_le hn
      simp only [CollabRegistry.evictWhileFull, dropWhileFull_eq_drop, hdrop, List.drop_zero]
    have hnot : (numberedEvent n).requestId ∉ (numberedRegistry n).requests.keys := by
      rw [KeyedMap.mem_keys_iff]
      exact Option.not_isSome_iff_eq_none.mpr hfind
    rw [numberedRegistry, CollabRegistry.recordRequest_of_new _ hfind, hroom]
    refine (KeyedMap.values_set_of_notMem hnot).trans ?_
    rw [hvalues, List.range_succ, List.map_append]
    rfl

/-- The target of a request accepts it. -/
def acceptNumbered (n : ℕ) : SessionOp :=
  .collab (.agentSend "agent-b" "token"
    (.obj [("kind", .str "accepted"), ("requestId", .str (numberedId n))]) "unused")

/-- The first request is accepted after a number of requests, the next request is sent, and then
the first one is sent again. -/
def reusedSession (s : RoomSession) : RoomSession :=
  ((s.step (fixedEnv true) (acceptNumbered 0)).step (fixedEnv true) (sendNumbered 128)).step
    (fixedEnv true) (sendNumbered 0)

/-- The registry of the run, written out. -/
def listedRegistry (n : ℕ) (hn : n ≤ 128) : CollabRegistry :=
  { requests := ⟨(List.range n).map numberedRecord, by
      rw [← values_numberedRegistry hn]
      exact (numberedRegistry n).requests.nodup⟩ }

lemma numberedRegistry_eq_listedRegistry {n : ℕ} (hn : n ≤ 128) :
    numberedRegistry n = listedRegistry n hn :=
  congrArg CollabRegistry.mk (KeyedMap.ext (values_numberedRegistry hn))

/-- The session after as many requests as the registry tracks. -/
def fullSession : RoomSession :=
  { stored := some (numberedRoom 128)
    tracking :=
      { collabRegistry := listedRegistry 128 (Nat.le_refl 128), collabRebuilt := true } }

lemma numberedSession_eq_fullSession : numberedSession 128 = fullSession := by
  rw [numberedSession, numberedRegistry_eq_listedRegistry (Nat.le_refl 128), fullSession]

/-- Runs without a restart whose saves succeed. -/
def SavesWithoutRestart (s : RoomSession) (label : RoomEnv × SessionOp) : Prop :=
  SavesSucceed s label ∧ label.2 ≠ .restart

lemma not_restartEquivalent_of_record {env : RoomEnv} {s : RoomSession} (hwell : s.WellFormed)
    {requestId responderParticipantId : String} {kind : CollabEventKind} {sequence : ℕ}
    (hlog : (s.activeRoom env).1.map (fun room =>
      (logView (collabEntries room.messages) requestId).bind (·.sequenceOf? kind)) =
        some (some sequence)) (hrebuilt : (s.activeRoom env).2.tracking.collabRebuilt = true)
    (hlive : (s.activeRoom env).2.tracking.collabRegistry.precheckResponse requestId kind
      responderParticipantId = .record) : ¬RestartEquivalent env s := by
  intro hequivalent
  obtain ⟨room, hroom, hview⟩ := Option.map_eq_some_iff.mp hlog
  obtain ⟨view, hview, hsequence⟩ := Option.bind_eq_some_iff.mp hview
  have hactive : s.activeRoom env = (some room, (s.activeRoom env).2) := Prod.ext hroom rfl
  obtain ⟨opened, hopens, -⟩ := RoomSession.opens_of_activeRoom hactive
  obtain ⟨stored, hstored, hloaded, -⟩ := hopens.logExtends hwell
  have hroomWell := hloaded.wellLogged (hwell.wellLogged stored hstored)
  have hretained : requestId ∈ requestIds (collabEntries room.messages) :=
    logView_isSome.mp (Option.isSome_of_eq_some hview)
  have hrecord : (({} : CollabRegistry).rebuild (collabEntries room.messages)).precheckResponse
      requestId kind responderParticipantId = .record := by
    rw [((hequivalent room _ hactive requestId).1 hretained).1, CollabTracking.warm,
      if_pos hrebuilt, hlive]
  obtain ⟨record, hfind, -, hnone⟩ := CollabRegistry.precheckResponse_eq_record.mp hrecord
  have hrebuiltView := CollabRegistry.view_find_rebuild
    (Nat.le_of_lt hroomWell.length_collabEntries_lt) requestId
  rw [hfind, hview, Option.map_some] at hrebuiltView
  obtain rfl := Option.some.inj hrebuiltView
  exact nomatch hnone.symm.trans hsequence

end Free4Chat
