import Free4Chat.Session.Collaboration

/-!
# Requests Accepted at Most Once

A request that was accepted is not appended again while the session remembers it: while the
registry tracks it or, before the registry is rebuilt, while the log retains it. A request that is
sent again after it was forgotten is appended, and hence executed, a second time.

* `RoomRecord.acceptedRequests`: the requests that a Room ever accepted.
* `NoForgottenRetry`: no forgotten request is sent again.
* `acceptedRequests_nodup_iff`: exactly then no request is accepted twice.
-/

namespace Free4Chat

/-- The ids of the requests that a Room ever accepted, oldest first. -/
def RoomRecord.acceptedRequests (room : RoomRecord) : List String :=
  requestIds (collabEntries room.history)

/-- Whether a request is known when an envelope arrives: the registry tracks it, or it is retained
in the log from which the registry is about to be rebuilt. -/
def CollabTracking.Remembers (tracking : CollabTracking) (room : RoomRecord)
    (requestId : String) : Prop :=
  if tracking.collabRebuilt then (tracking.collabRegistry.find requestId).isSome
  else requestId ∈ requestIds (collabEntries room.messages)

/-- No valid request is sent again, when it could be saved, after it was accepted and forgotten. -/
def NoForgottenRetry (s : RoomSession) (label : RoomEnv × SessionOp) : Prop :=
  ∀ s₁ room sender input generatedRequestId event,
    s.Receives label.1 label.2 s₁ room (.request sender input generatedRequestId) →
    validateCollabEvent (.str "request") input sender.id room.participants room.attachments
      generatedRequestId = .ok event →
    ((room.appendMessage label.1 (collabMessage sender event label.1.now)).saveRoom
      label.1).isSome →
    event.requestId ∈ room.acceptedRequests → s₁.tracking.Remembers room event.requestId

/-- No request is accepted twice. -/
def AcceptsOnce (s : RoomSession) : Prop :=
  ∀ room, s.stored = some room → room.acceptedRequests.Nodup

lemma CollabTracking.remembers_iff {tracking : CollabTracking} {room : RoomRecord}
    (hcold : tracking.collabRebuilt = false → tracking.collabRegistry = {})
    (hwell : WellLogged room) (requestId : String) : tracking.Remembers room requestId ↔
      ((tracking.warm room).collabRegistry.find requestId).isSome := by
  unfold Remembers warm
  cases hrebuilt : tracking.collabRebuilt with
  | true => simp
  | false =>
    have hview := CollabRegistry.view_find_rebuild hwell.length_collabEntries_lt.le requestId
    simp only [Bool.false_eq_true, if_false, decide_eq_true_eq]
    rw [← logView_isSome, ← hview, Option.isSome_map, hcold hrebuilt]

lemma RoomSession.Receives.step_eq {env : RoomEnv} {s s₁ : RoomSession} {op : SessionOp}
    {room : RoomRecord} {envelope : CollabEnvelope} (h : s.Receives env op s₁ room envelope) :
    s.step env op = s₁.ingested room (envelope.ingest env room s₁.tracking) := by
  obtain ⟨collabOp, loaded, rfl, hactive, henvelope⟩ := h
  simp only [step, runCollab, hactive, henvelope]

section

variable {env : RoomEnv} {s s' s₁ : RoomSession} {op : SessionOp} {room : RoomRecord}
  {room' : RoomRecord}

lemma LogExtendsBy.acceptedRequests
    (h : LogExtendsBy NotCollab room room') : room'.acceptedRequests = room.acceptedRequests := by
  rw [RoomRecord.acceptedRequests, h.collabEntries_history, RoomRecord.acceptedRequests]

lemma LogExtends.acceptedRequests {added : List RoomMessage} (h : LogExtends room room' added) :
    room'.acceptedRequests = room.acceptedRequests ++ requestIds (collabEntries added) := by
  rw [RoomRecord.acceptedRequests, h.collabEntries_history, requestIds_append,
    RoomRecord.acceptedRequests]

variable {generatedRequestId : String} {registry : CollabRegistry} {event : CollabEvent}
  {input : JsValue}

lemma kind_of_newRequest {sender : RoomParticipant}
    (hnew : newRequest room registry sender input generatedRequestId = some event) :
    event.kind = .request := by
  have hparse := (validateCollabEvent_eq_ok (newRequest_eq_some.mp hnew).1).1
  simpa [parseCollabKind] using hparse.symm

lemma requestIds_of_newRequest {sender : RoomParticipant}
    (hnew : newRequest room registry sender input generatedRequestId = some event)
    (sequence : ℕ) : requestIds [(event, sequence)] = [event.requestId] := by
  simp [requestIds, kind_of_newRequest hnew]

variable {responder : RoomParticipant}

lemma kind_of_newResponse
    (hreceives : s.Receives env op s₁ room (.response responder input generatedRequestId))
    (hnew : newResponse room registry responder input generatedRequestId = some event) :
    event.kind ≠ .request := by
  obtain ⟨collabOp, loaded, -, -, henvelope⟩ := hreceives
  obtain ⟨validated, record, hvalid, -, -, -, rfl⟩ := newResponse_eq_some.mp hnew
  intro hrequest
  have hparse := (validateCollabEvent_eq_ok hvalid).1
  rw [show validated.kind = .request from hrequest] at hparse
  exact CollabOp.kind_of_envelope_response henvelope hparse

lemma requestIds_of_newResponse
    (hreceives : s.Receives env op s₁ room (.response responder input generatedRequestId))
    (hnew : newResponse room registry responder input generatedRequestId = some event)
    (sequence : ℕ) : requestIds [(event, sequence)] = [] := by
  simp [requestIds, kind_of_newResponse hreceives hnew]

variable {envelope : CollabEnvelope}

lemma RoomSession.Receives.remembers_iff (hwell : s.WellFormed)
    (h : s.Receives env op s₁ room envelope) (requestId : String) :
    s₁.tracking.Remembers room requestId ↔
      ((s₁.tracking.warm room).collabRegistry.find requestId).isSome := by
  obtain ⟨stored, opened, hstored, rfl, hroom, -⟩ := h.logExtends hwell
  exact CollabTracking.remembers_iff (fun hcold => (hwell.cold hcold).1)
    (hroom.wellLogged (hwell.wellLogged stored hstored)) requestId

lemma acceptedRequests_of_nil (h : LogExtends room room' []) :
    room'.acceptedRequests = room.acceptedRequests := by
  rw [h.acceptedRequests]
  exact List.append_nil _

lemma acceptsOnce_ingested (hwell : s.WellFormed) (honce : AcceptsOnce s)
    (hguard : NoForgottenRetry s (env, op)) (hreceives : s.Receives env op s₁ room envelope) :
    AcceptsOnce (s₁.ingested room (envelope.ingest env room s₁.tracking)) := by
  obtain ⟨stored, opened, hstored, hs₁, hroom, hopened⟩ := hreceives.logExtends hwell
  have hnodup := honce stored hstored
  -- Unless a record is saved, the opened one stays stored.
  have hkeep : ∀ record, s₁.stored = some record → record.acceptedRequests.Nodup := by
    intro record hrecord
    rw [hs₁] at hrecord
    obtain rfl := Option.some.inj hrecord
    rwa [acceptedRequests_of_nil hopened]
  intro record hrecord
  rcases envelope.ingest_cases env room s₁.tracking with
    ⟨answer, -, -, hingest⟩ | ⟨event, hnew,
      ⟨-, hingest⟩ | ⟨saved, added, hlog, hadded, hsave, hingest⟩⟩
  · rw [hingest] at hrecord
    exact hkeep record hrecord
  · rw [hingest] at hrecord
    exact hkeep record hrecord
  · rw [hingest] at hrecord
    obtain rfl := Option.some.inj hrecord
    rw [hlog.acceptedRequests, hadded, acceptedRequests_of_nil hroom]
    cases envelope with
    | response responder input generatedRequestId =>
      rw [requestIds_of_newResponse hreceives hnew, List.append_nil]
      exact hnodup
    | request sender input generatedRequestId =>
      obtain ⟨hvalid, hfind⟩ := newRequest_eq_some.mp hnew
      -- A request that was accepted before would be tracked.
      have hfresh : event.requestId ∉ stored.acceptedRequests := by
        intro hmem
        have hremembers := hguard s₁ room sender input generatedRequestId event hreceives hvalid
          (Option.isSome_of_eq_some hsave) (by rwa [acceptedRequests_of_nil hroom])
        rw [hreceives.remembers_iff hwell, hfind] at hremembers
        cases hremembers
      rw [requestIds_of_newRequest hnew]
      exact List.Nodup.append hnodup (List.nodup_singleton _) (by simpa using hfresh)

lemma CollabStep.acceptsOnce (h : CollabStep env s op s') (hwell : s.WellFormed)
    (honce : AcceptsOnce s) (hguard : NoForgottenRetry s (env, op)) : AcceptsOnce s' := by
  cases h with
  | vacated => exact fun _ h => nomatch h
  | created hhistory hmessages =>
    intro room hroom
    obtain rfl := Option.some.inj hroom
    rw [RoomRecord.acceptedRequests, hhistory]
    exact List.nodup_nil
  | restarted => exact honce
  | quiet hstored hlog =>
    intro room hroom
    obtain rfl := Option.some.inj hroom
    rw [hlog.acceptedRequests]
    exact honce _ hstored
  | warmed hopens hsaved =>
    intro room hroom
    obtain rfl := Option.some.inj hroom
    obtain ⟨stored, hstored, hlog⟩ := hopens.quiet hwell hsaved
    rw [hlog.acceptedRequests]
    exact honce _ hstored
  | ingested hreceives => exact acceptsOnce_ingested hwell honce hguard hreceives

lemma not_acceptsOnce_step (hwell : s.WellFormed) (hguard : ¬NoForgottenRetry s (env, op)) :
    ¬AcceptsOnce (s.step env op) := by
  simp only [NoForgottenRetry, not_forall] at hguard
  obtain ⟨s₁, room, sender, input, generatedRequestId, event, hreceives, hvalid, hsome, hmem,
    hforgotten⟩ := hguard
  rw [hreceives.remembers_iff hwell, Option.not_isSome_iff_eq_none] at hforgotten
  have hrequest := newRequest_eq_some.mpr ⟨hvalid, hforgotten⟩
  intro honce
  rw [hreceives.step_eq] at honce
  rcases CollabEnvelope.ingest_cases env room s₁.tracking
    (.request sender input generatedRequestId) with
    ⟨answer, -, hnew, -⟩ | ⟨event', hnew,
      ⟨hfailed, -⟩ | ⟨saved, added, hlog, hadded, -, hingest⟩⟩
  · cases hnew.symm.trans hrequest
  · obtain rfl := Option.some.inj (hnew.symm.trans hrequest)
    rw [CollabEnvelope.sender] at hfailed
    rw [hfailed] at hsome
    cases hsome
  · obtain rfl := Option.some.inj (hnew.symm.trans hrequest)
    rw [hingest] at honce
    have hnodup := honce saved rfl
    rw [hlog.acceptedRequests, hadded, requestIds_of_newRequest hrequest] at hnodup
    exact (List.disjoint_of_nodup_append hnodup) hmem (List.mem_singleton_self _)

/-- **At most once.** In every run in which no forgotten request is sent again, no request id is
ever appended twice; and the first step that sends one again appends it twice. -/
theorem acceptsOnce_of_noForgottenRetry
    (hreach : roomSessionSystem.ReachableWhen NoForgottenRetry s) :
    AcceptsOnce s ∧ ∀ env op, AcceptsOnce (s.step env op) ↔ NoForgottenRetry s (env, op) := by
  have hwell := wellFormed_of_reachable hreach
  have honce : AcceptsOnce s :=
    RoomSession.invariant_of_collabStep (fun _ h => nomatch h)
      (fun hwell honce hguard hstep => hstep.acceptsOnce hwell honce hguard) hreach
  refine ⟨honce, fun env op => ⟨fun h => ?_, fun hguard => ?_⟩⟩
  · by_contra hguard
    exact not_acceptsOnce_step hwell hguard h
  · exact (RoomSession.collabStep_step hwell op).acceptsOnce hwell honce hguard

end

/-! ## A run with many requests -/

/-- The id of a numbered request. -/
def numberedId (n : ℕ) : String := "t" ++ toString (100 + n)

lemma numberedId_ne {m n : ℕ} (hn : n < 129) (hm : m < n) : numberedId m ≠ numberedId n := by
  have hdecode : ∀ k < 129, ((numberedId k).toList.drop 1).foldl
      (fun value c => 10 * value + (c.toNat - 48)) 0 = 100 + k := by
    decide +kernel
  intro heq
  have hm' := hdecode m (by omega)
  have hn' := hdecode n hn
  rw [heq, hn'] at hm'
  omega

/-- The event of a numbered request. -/
def numberedEvent (n : ℕ) : CollabEvent :=
  { requestId := numberedId n
    kind := .request
    fromParticipantId := "agent-a"
    targetParticipantId := "agent-b"
    summary := some "draft the notes" }

/-- One Agent sends the other one a numbered request. -/
def sendNumbered (n : ℕ) : SessionOp :=
  .collab (.agentSend "agent-a" "token" (exampleRequest (numberedId n) "agent-b") "unused")

/-- The message of a numbered request. -/
def numberedMessage (n : ℕ) : RoomMessage :=
  { collabMessage (exampleAgent "agent-a") (numberedEvent n) 1000 with sequence := n + 1 }

/-- The messages of the requests before a number. -/
def numberedLog (n : ℕ) : List RoomMessage := (List.range n).map numberedMessage

/-- The registry that has recorded the requests before a number. -/
def numberedRegistry : ℕ → CollabRegistry
  | 0 => {}
  | n + 1 => ((numberedRegistry n).recordRequest (numberedEvent n) (n + 1)).2

/-- The Room after the requests before a number. -/
def numberedRoom (n : ℕ) : RoomRecord :=
  { exampleRoom with
    messages := takeLast MAX_MESSAGES (numberedLog n)
    nextMessageSequence := n
    history := numberedLog n }

/-- The session after the requests before a number. -/
def numberedSession (n : ℕ) : RoomSession :=
  { stored := some (numberedRoom n)
    tracking := { collabRegistry := numberedRegistry n, collabRebuilt := true } }

variable {n : ℕ}

lemma validate_numbered (hn : n < 129) :
    validateCollabEvent (.str "request") (exampleRequest (numberedId n) "agent-b") "agent-a"
      exampleRoom.participants [] "unused" = .ok (numberedEvent n) := by
  have hids : ∀ k < 129, JsString.trim (numberedId k) = numberedId k ∧
      isRequestIdPattern (numberedId k) = true := by decide +kernel
  obtain ⟨htrim, hpattern⟩ := hids n hn
  have hne : numberedId n ≠ "" := by
    intro hempty
    rw [hempty] at hpattern
    exact absurd hpattern (by decide)
  have hid : trimmedString ((exampleRequest (numberedId n) "agent-b").get "requestId") =
      numberedId n := htrim
  have htarget : trimmedString ((exampleRequest (numberedId n) "agent-b").get
      "targetParticipantId") = "agent-b" := by
    show JsString.trim "agent-b" = "agent-b"
    decide +kernel
  have hsummary : boundedSummary ((exampleRequest (numberedId n) "agent-b").get "summary") =
      some "draft the notes" := by
    show boundedSummary (.str "draft the notes") = some "draft the notes"
    decide +kernel
  have hconnected : (exampleRoom.participants.get? "agent-b").any (·.connected) = true := by
    decide +kernel
  have hother : "agent-b" ≠ "agent-a" := by decide
  rw [validateCollabEvent]
  simp only [hid, hne, false_and, hpattern, htarget, hsummary, hconnected, Except.rejectWhen,
    hother, and_false, if_false, reduceCtorEq]
  rfl

lemma CollabRegistry.mem_keys_recordRequest {registry : CollabRegistry} {event : CollabEvent}
    {sequence : ℕ} {id : String}
    (h : id ∈ (registry.recordRequest event sequence).2.requests.keys) :
    id ∈ registry.requests.keys ∨ id = event.requestId := by
  cases hfind : registry.find event.requestId with
  | some record =>
    rw [recordRequest, hfind] at h
    exact Or.inl h
  | none =>
    rw [registry.keys_recordRequest hfind, registry.keys_evictWhileFull, List.mem_append,
      List.mem_singleton] at h
    exact h.imp_left fun hmem => List.mem_of_mem_drop hmem

lemma find_numberedRegistry (hn : n < 129) : (numberedRegistry n).find (numberedId n) = none := by
  have hkeys : ∀ k, ∀ id ∈ (numberedRegistry k).requests.keys, ∃ m < k, id = numberedId m := by
    intro k
    induction k with
    | zero => exact fun id hid => absurd hid List.not_mem_nil
    | succ k ih =>
      intro id hid
      rcases CollabRegistry.mem_keys_recordRequest hid with hid | rfl
      · obtain ⟨m, hm, rfl⟩ := ih id hid
        exact ⟨m, hm.trans (Nat.lt_succ_self k), rfl⟩
      · exact ⟨k, Nat.lt_succ_self k, rfl⟩
  refine KeyedMap.get?_eq_none_of_notMem fun hmem => ?_
  obtain ⟨m, hm, heq⟩ := hkeys n _ hmem
  exact numberedId_ne hn hm heq.symm

lemma takeLast_concat {α : Type} (bound : ℕ) (l : List α) (a : α) :
    takeLast bound (takeLast bound l ++ [a]) = takeLast bound (l ++ [a]) := by
  have hdrop : l.drop (l.length - bound) ++ [a] = (l ++ [a]).drop (l.length - bound) := by
    rw [List.drop_append_of_le_length (Nat.sub_le _ _)]
  rw [takeLast, takeLast, takeLast, hdrop, List.drop_drop]
  congr 1
  simp only [List.length_drop, List.length_append, List.length_singleton]
  omega

lemma trimRoomMessagesToBudget_fixedEnv (storageAccepts : Bool) (room : RoomRecord) :
    room.trimRoomMessagesToBudget (fixedEnv storageAccepts) = room :=
  if_pos rfl

lemma saveRoom_fixedEnv (room : RoomRecord) : room.saveRoom (fixedEnv true) = some room := by
  rw [RoomRecord.saveRoom, trimRoomMessagesToBudget_fixedEnv]
  rfl

lemma normalizeMessages_eq_self {nextMessageSequence : ℕ} {messages : List RoomMessage}
    (h : ∀ message ∈ messages, message.sequence ≤ nextMessageSequence ∧
      ∀ next, normalizeMessage next message = message) :
    normalizeMessages nextMessageSequence messages = (messages, nextMessageSequence) := by
  induction messages with
  | nil => rfl
  | cons message messages ih =>
    obtain ⟨hle, hself⟩ := h message List.mem_cons_self
    rw [normalizeMessages]
    simp only [hself, Nat.max_eq_left hle, ih fun m hm => h m (List.mem_cons_of_mem _ hm)]

lemma loadRoom_numbered (n : ℕ) :
    loadRoom (fixedEnv true) (numberedRoom n) = some (numberedRoom n, numberedRoom n) := by
  have hmessages : normalizeMessages n (takeLast MAX_MESSAGES (numberedLog n)) =
      (takeLast MAX_MESSAGES (numberedLog n), n) := by
    refine normalizeMessages_eq_self fun message hmem => ?_
    obtain ⟨k, hk, rfl⟩ := List.mem_map.mp (List.mem_of_mem_drop hmem)
    exact ⟨List.mem_range.mp hk, fun next => rfl⟩
  have hnormalize : normalizeRoom (fixedEnv true) (numberedRoom n) =
      { numberedRoom n with
        messages := (normalizeMessages n (takeLast MAX_MESSAGES (numberedLog n))).1
        nextMessageSequence :=
          (normalizeMessages n (takeLast MAX_MESSAGES (numberedLog n))).2 } := rfl
  rw [hmessages] at hnormalize
  have hself : normalizeRoom (fixedEnv true) (numberedRoom n) = numberedRoom n := hnormalize
  have hrepair : needsRepair (fixedEnv true) (numberedRoom n) = false := by
    rw [needsRepair, hself]
    simp
  rw [loadRoom, hrepair, hself]
  rfl

lemma activeRoom_numbered (n : ℕ) (tracking : CollabTracking) (phantoms : List String) :
    ({ stored := some (numberedRoom n), tracking, phantoms } : RoomSession).activeRoom
      (fixedEnv true) = (some (numberedRoom n),
        { stored := some (numberedRoom n), tracking, phantoms }) := by
  simp only [RoomSession.activeRoom, loadRoom_numbered]
  rfl

lemma receives_numbered (n k : ℕ) (tracking : CollabTracking) (phantoms : List String) :
    ({ stored := some (numberedRoom n), tracking, phantoms } : RoomSession).Receives (fixedEnv true)
      (sendNumbered k) { stored := some (numberedRoom n), tracking, phantoms } (numberedRoom n)
      (.request (exampleAgent "agent-a") (exampleRequest (numberedId k) "agent-b") "unused") :=
  ⟨_, numberedRoom n, rfl, activeRoom_numbered n tracking phantoms, rfl⟩

lemma step_numberedSession (hn : n < 129) :
    (numberedSession n).step (fixedEnv true) (sendNumbered n) = numberedSession (n + 1) := by
  have hnew : (CollabEnvelope.request (exampleAgent "agent-a")
      (exampleRequest (numberedId n) "agent-b") "unused").newEvent (numberedRoom n)
        ((numberedSession n).tracking.warm (numberedRoom n)).collabRegistry =
          some (numberedEvent n) :=
    newRequest_eq_some.mpr ⟨validate_numbered hn, find_numberedRegistry hn⟩
  have hlog : numberedLog (n + 1) = numberedLog n ++ [numberedMessage n] := by
    rw [numberedLog, List.range_succ, List.map_append]
    rfl
  have happend : (numberedRoom n).appendMessage (fixedEnv true)
      (collabMessage (exampleAgent "agent-a") (numberedEvent n) 1000) = numberedRoom (n + 1) := by
    rw [RoomRecord.appendMessage, trimRoomMessagesToBudget_fixedEnv, numberedRoom, numberedRoom,
      hlog, ← takeLast_concat]
    rfl
  have hsave : ((numberedRoom n).appendMessage (fixedEnv true) (collabMessage
      (exampleAgent "agent-a") (numberedEvent n) (fixedEnv true).now)).saveRoom (fixedEnv true) =
        some (numberedRoom (n + 1)) :=
    (congrArg _ happend).trans (saveRoom_fixedEnv _)
  have hreceives := receives_numbered n n (numberedSession n).tracking []
  refine hreceives.step_eq.trans ?_
  rw [CollabEnvelope.ingest_of_newEvent (fixedEnv true) hnew]
  exact congrArg (RoomSession.ingested _ _) (appendCollabEvent_of_save hsave)

/-- The registration of an example Agent. -/
def exampleRegistration (id : String) (id_ne : id ≠ "") : Registration :=
  { id, name := id, token := "token", joinedAt := 1000, id_ne }

variable {guard : RoomSession → RoomEnv × SessionOp → Prop}

lemma reachable_numberedSession_zero
    (hguard : ∀ s op, op ≠ SessionOp.restart → (∀ collabOp, op ≠ .collab collabOp) →
      guard s (fixedEnv true, op)) : roomSessionSystem.ReachableWhen guard (numberedSession 0) := by
  let create : SessionOp := .agentCreateRoom (exampleRegistration "agent-a" (by decide))
  let join : SessionOp := .register (exampleRegistration "agent-b" (by decide)) (.agent none)
  have hempty : roomSessionSystem.ReachableWhen guard {} := .init rfl
  have hcreated := reachableWhen_step hempty (hguard _ create nofun nofun)
  have hjoined := reachableWhen_step hcreated (hguard _ join nofun nofun)
  have hwarmed := reachableWhen_step hjoined (hguard _ .readCollab nofun nofun)
  have hstart : numberedSession 0 = ((({} : RoomSession).step (fixedEnv true) create).step
      (fixedEnv true) join).step (fixedEnv true) .readCollab := by decide +kernel
  rw [hstart]
  exact hwarmed

lemma reachable_numberedSession_of
    (hstart : roomSessionSystem.ReachableWhen guard (numberedSession 0))
    (hguard : ∀ n < 129, guard (numberedSession n) (fixedEnv true, sendNumbered n))
    (hn : n ≤ 129) : roomSessionSystem.ReachableWhen guard (numberedSession n) := by
  induction n with
  | zero => exact hstart
  | succ n ih =>
    rw [← step_numberedSession hn]
    exact reachableWhen_step (ih (Nat.le_of_succ_le hn)) (hguard n hn)

lemma reachable_numberedSession
    (hguard : ∀ s op, op ≠ SessionOp.restart → guard s (fixedEnv true, op))
    (hn : n ≤ 129) : roomSessionSystem.ReachableWhen guard (numberedSession n) :=
  reachable_numberedSession_of
    (reachable_numberedSession_zero fun s op hop _ => hguard s op hop)
    (fun n _ => hguard _ (sendNumbered n) nofun) hn

/-- After the first request of the run, every request is accepted once as long as no forgotten one
is sent again. -/
theorem acceptsOnce_numberedSession_one :
    AcceptsOnce (numberedSession 1) ∧ ∀ env op,
      AcceptsOnce ((numberedSession 1).step env op) ↔
        NoForgottenRetry (numberedSession 1) (env, op) := by
  have hstart : roomSessionSystem.ReachableWhen NoForgottenRetry (numberedSession 0) :=
    reachable_numberedSession_zero fun s op _ hcollab _ _ _ _ _ _ hreceives => by
      obtain ⟨collabOp, _, hop, _⟩ := hreceives
      exact absurd hop (hcollab collabOp)
  have honce : AcceptsOnce ((numberedSession 0).step (fixedEnv true) (sendNumbered 0)) := by
    rw [step_numberedSession (by decide)]
    intro room hroom
    obtain rfl := Option.some.inj hroom
    decide +kernel
  have hguard := ((acceptsOnce_of_noForgottenRetry hstart).2 _ _).mp honce
  have hreach := reachableWhen_step hstart hguard
  rw [step_numberedSession (by decide)] at hreach
  exact acceptsOnce_of_noForgottenRetry hreach

/-- A request is accepted twice when it is sent again after the log has evicted it and the session
has been restarted. -/
theorem not_acceptsOnce_restart :
    ¬ ∀ s, roomSessionSystem.Reachable s → AcceptsOnce s := by
  intro hall
  have hfull : roomSessionSystem.Reachable (numberedSession 101) :=
    reachable_numberedSession (fun _ _ _ => trivial) (by decide)
  have hrestarted : roomSessionSystem.Reachable
      ((numberedSession 101).step (fixedEnv true) .restart) := reachableWhen_step hfull trivial
  have hretried : roomSessionSystem.Reachable
      (((numberedSession 101).step (fixedEnv true) .restart).step (fixedEnv true)
        (sendNumbered 0)) := reachableWhen_step hrestarted trivial
  refine not_acceptsOnce_step (wellFormed_of_reachable hrestarted) (fun hguard => ?_)
    (hall _ hretried)
  have hremembers := hguard _ _ _ _ _ _ (receives_numbered 101 0 {} [])
    (validate_numbered (by decide)) (Option.isSome_of_eq_some (saveRoom_fixedEnv _))
    (by decide +kernel)
  have hevicted : numberedId 0 ∉ requestIds (collabEntries (numberedRoom 101).messages) := by
    decide +kernel
  exact hevicted (of_decide_eq_true hremembers)

end Free4Chat