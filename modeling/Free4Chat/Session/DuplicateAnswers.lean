import Free4Chat.Session.AtMostOnce

/-!
# Duplicate Answers

A request is answered as a duplicate when the registry tracks its id, whoever sent the tracked
request and to whomever, and also when the tracked request was never stored because its save was
rejected. Apart from these cases a duplicate is the request that was accepted.

* `AcceptedAt`: the history has a request at a sequence.
* `RegistryAccounted`: the invariant of the registry, the history and the phantoms.
* `duplicate_accepted_iff`: exactly when a duplicate answer is true.
-/

namespace Free4Chat

/-- A log has a request between two participants at a sequence. -/
def AcceptedAt (entries : List (CollabEvent × ℕ))
    (requestId fromParticipantId targetParticipantId : String) (sequence : ℕ) : Prop :=
  ∃ event, (event, sequence) ∈ entries ∧ event.kind = .request ∧ event.requestId = requestId ∧
    event.fromParticipantId = fromParticipantId ∧ event.targetParticipantId = targetParticipantId

lemma AcceptedAt.append {entries : List (CollabEvent × ℕ)}
    {requestId fromParticipantId targetParticipantId : String} {sequence : ℕ}
    (h : AcceptedAt entries requestId fromParticipantId targetParticipantId sequence)
    (added : List (CollabEvent × ℕ)) :
    AcceptedAt (entries ++ added) requestId fromParticipantId targetParticipantId sequence := by
  obtain ⟨event, hmem, hrequest⟩ := h
  exact ⟨event, List.mem_append_left _ hmem, hrequest⟩

/-- What a tracked request says of the history: it was accepted as it is tracked, or it is a phantom
and nothing was accepted under its id at its sequence. -/
structure RecordAccounted (entries : List (CollabEvent × ℕ)) (phantoms : List String)
    (record : CollabRequestRecord) (sequence : ℕ) : Prop where
  sequence_eq : record.sequenceOf? .request = some sequence
  accepted : record.requestId ∉ phantoms →
    AcceptedAt entries record.requestId record.fromParticipantId record.targetParticipantId sequence
  phantom : record.requestId ∈ phantoms →
    ∀ fromParticipantId targetParticipantId, ¬AcceptedAt entries record.requestId
      fromParticipantId targetParticipantId sequence

/-- Every tracked request is accounted for, and every phantom is tracked. -/
structure RegistryAccounted (registry : CollabRegistry) (entries : List (CollabEvent × ℕ))
    (phantoms : List String) : Prop where
  records : ∀ id record, registry.find id = some record →
    ∃ sequence, RecordAccounted entries phantoms record sequence
  tracked : ∀ id ∈ phantoms, (registry.find id).isSome

variable {record : CollabRequestRecord}

lemma CollabRegistry.requestId_of_find {registry : CollabRegistry} {id : String}
    (h : registry.find id = some record) : record.requestId = id :=
  KeyedMap.key_of_get? h

lemma RegistryAccounted.empty (entries : List (CollabEvent × ℕ)) :
    RegistryAccounted {} entries [] :=
  ⟨fun _ _ h => (nomatch h), fun _ h => nomatch h⟩

lemma RegistryAccounted.rebuild {entries history : List (CollabEvent × ℕ)}
    (hbound : entries.length ≤ MAX_TRACKED_REQUESTS) (hsubset : entries ⊆ history) :
    RegistryAccounted (({} : CollabRegistry).rebuild entries) history [] := by
  refine ⟨fun id record hfind => ?_, fun _ h => nomatch h⟩
  have hview := CollabRegistry.view_find_rebuild hbound id
  rw [hfind, Option.map_some] at hview
  obtain ⟨request, hmem, hid, hkind, hfrom, htarget, hsequence⟩ :=
    sequenceOf?_request_of_logView hview.symm
  refine ⟨request.2, hsequence, fun _ => ?_, fun h => nomatch h⟩
  exact ⟨request.1, hsubset hmem, hkind,
    hid.trans (CollabRegistry.requestId_of_find hfind).symm, hfrom, htarget⟩

lemma RecordAccounted.append {entries added : List (CollabEvent × ℕ)}
    {phantoms phantoms' : List String} {sequence : ℕ}
    (h : RecordAccounted entries phantoms record sequence)
    (hphantoms : record.requestId ∈ phantoms' ↔ record.requestId ∈ phantoms)
    (hadded : ∀ entry ∈ added, entry.1.kind = .request →
      entry.1.requestId ≠ record.requestId) :
    RecordAccounted (entries ++ added) phantoms' record sequence := by
  refine ⟨h.sequence_eq, fun hnot => ?_, fun hmem fromId targetId haccepted => ?_⟩
  · exact (h.accepted (hphantoms.not.mp hnot)).append added
  · obtain ⟨event, hevent, hkind, hid, hends⟩ := haccepted
    rcases List.mem_append.mp hevent with hevent | hevent
    · exact h.phantom (hphantoms.mp hmem) fromId targetId ⟨event, hevent, hkind, hid, hends⟩
    · exact hadded _ hevent hkind hid

namespace RegistryAccounted

variable {registry : CollabRegistry} {entries : List (CollabEvent × ℕ)} {phantoms : List String}
  {event : CollabEvent} {sequence : ℕ}

section

variable (h : RegistryAccounted registry entries phantoms)
include h

variable {added : List (CollabEvent × ℕ)}

lemma recordRequest_of_self (hnew : registry.find event.requestId = none)
    {phantoms' : List String} (hadded : ∀ entry ∈ added, entry.1.requestId = event.requestId)
    (hphantoms : ∀ id, (registry.find id).isSome → (id ∈ phantoms' ↔
      id ∈ phantoms ∧ ((registry.recordRequest event sequence).2.find id).isSome))
    (htracked : ∀ id ∈ phantoms', ((registry.recordRequest event sequence).2.find id).isSome)
    (hself : ∀ record, (registry.recordRequest event sequence).2.find event.requestId =
      some record → RecordAccounted (entries ++ added) phantoms' record sequence) :
    RegistryAccounted (registry.recordRequest event sequence).2 (entries ++ added) phantoms' := by
  refine ⟨fun id record hfind => ?_, htracked⟩
  by_cases hid : event.requestId = id
  · subst hid
    exact ⟨sequence, hself record hfind⟩
  · -- The other records are the ones that were not evicted.
    have hold : registry.find id = some record := by
      have hkept := hfind
      rw [registry.find_recordRequest_of_ne hnew _ hid] at hkept
      rwa [registry.find_evictWhileFull
        (KeyedMap.mem_keys_iff.mpr (Option.isSome_of_eq_some hkept))] at hkept
    have hrecord := CollabRegistry.requestId_of_find hold
    obtain ⟨sequence', haccounted⟩ := h.records id record hold
    refine ⟨sequence', haccounted.append ?_ fun entry hentry _ => ?_⟩
    · rw [hrecord, hphantoms id (Option.isSome_of_eq_some hold)]
      simp [hfind]
    · rw [hadded entry hentry, hrecord]
      exact hid

lemma recordRequest_accepted
    (hkind : event.kind = .request) (hnew : registry.find event.requestId = none) :
    RegistryAccounted (registry.recordRequest event sequence).2
      (entries ++ [(event, sequence)])
      (phantoms.filter fun id => ((registry.recordRequest event sequence).2.find id).isSome) := by
  refine h.recordRequest_of_self hnew ?_ ?_ ?_ ?_
  · simp
  · intro id _
    simp
  · intro id hid
    simpa using (List.mem_filter.mp hid).2
  · intro record hfind
    rw [registry.find_recordRequest_self hnew] at hfind
    obtain rfl := Option.some.inj hfind
    refine ⟨rfl, fun _ => ?_, fun hmem => ?_⟩
    · exact ⟨event, List.mem_append_right _ (List.mem_singleton_self _), hkind, rfl, rfl, rfl⟩
    · -- A phantom would have been tracked before.
      have hsome := h.tracked _ (List.mem_filter.mp hmem).1
      rw [hnew] at hsome
      cases hsome

lemma recordRequest_rejected (hnew : registry.find event.requestId = none)
    (hsequence : ∀ entry ∈ entries, entry.2 < sequence) {appeared : List String}
    (happeared : ∀ id, id ∈ appeared ↔ registry.find id = none ∧
      ((registry.recordRequest event sequence).2.find id).isSome) :
    RegistryAccounted (registry.recordRequest event sequence).2 entries
      ((phantoms.filter fun id => ((registry.recordRequest event sequence).2.find id).isSome) ++
        appeared) := by
  have hself := registry.find_recordRequest_self hnew sequence
  rw [← List.append_nil entries]
  refine h.recordRequest_of_self hnew ?_ ?_ ?_ ?_
  · exact fun _ h => by cases h
  · intro id hsome
    rw [List.mem_append, happeared]
    have hne : registry.find id ≠ none := by
      intro hnone
      rw [hnone] at hsome
      cases hsome
    simp [hne]
  · intro id hid
    rcases List.mem_append.mp hid with hid | hid
    · simpa using (List.mem_filter.mp hid).2
    · exact ((happeared id).mp hid).2
  · intro record hfind
    rw [hself] at hfind
    obtain rfl := Option.some.inj hfind
    refine ⟨rfl, fun hnot => ?_, fun _ fromId targetId haccepted => ?_⟩
    · refine absurd (List.mem_append_right _ ((happeared _).mpr ⟨hnew, ?_⟩)) hnot
      rw [hself]
      rfl
    · obtain ⟨accepted, hmem, -⟩ := haccepted
      rw [List.append_nil] at hmem
      exact Nat.lt_irrefl _ (hsequence _ hmem)

lemma commitResponse (event : CollabEvent)
    (sequence : ℕ) {record : CollabRequestRecord} (hfind : registry.find event.requestId = some record)
    (hnone : record.sequenceOf? event.kind = none)
    (hadded : ∀ entry ∈ added, entry.1.kind = event.kind) :
    RegistryAccounted (registry.commitResponse event.requestId event.kind sequence)
      (entries ++ added) phantoms := by
  -- The request itself has been accepted before.
  have hkind : event.kind ≠ .request := by
    intro hrequest
    obtain ⟨sequence', haccounted⟩ := h.records _ _ hfind
    rw [hrequest, haccounted.sequence_eq] at hnone
    cases hnone
  have hcarry : ∀ {record' sequence'}, RecordAccounted entries phantoms record' sequence' →
      RecordAccounted (entries ++ added) phantoms record' sequence' := fun haccounted =>
    haccounted.append Iff.rfl fun entry hentry hrequest =>
      absurd ((hadded entry hentry).symm.trans hrequest) hkind
  refine ⟨fun id record' hfind' => ?_, fun id hid => ?_⟩
  · rw [registry.find_commitResponse] at hfind'
    split at hfind'
    · obtain ⟨old, hold, rfl⟩ := Option.map_eq_some_iff.mp hfind'
      obtain ⟨sequence', haccounted⟩ := h.records id old hold
      have hcarried := hcarry haccounted
      refine ⟨sequence', ?_, hcarried.accepted, hcarried.phantom⟩
      rw [CollabRequestRecord.sequenceOf?_withSequence, if_neg hkind]
      exact haccounted.sequence_eq
    · obtain ⟨sequence', haccounted⟩ := h.records id record' hfind'
      exact ⟨sequence', hcarry haccounted⟩
  · have hsome := h.tracked id hid
    rw [registry.find_commitResponse]
    split
    · rwa [Option.isSome_map]
    · exact hsome

lemma phantoms_commitResponse (requestId : String) (kind : CollabEventKind) (sequence : ℕ) :
    (phantoms.filter fun id => ((registry.commitResponse requestId kind sequence).find id).isSome) =
        phantoms ∧
      ((registry.commitResponse requestId kind sequence).requests.keys.filter fun id =>
        (registry.find id).isNone) = [] := by
  refine ⟨List.filter_eq_self.mpr fun id hid => ?_, List.filter_eq_nil_iff.mpr fun id hid => ?_⟩
  · have hsome := h.tracked id hid
    rw [registry.find_commitResponse]
    split
    · rwa [Option.isSome_map]
    · exact hsome
  · rw [registry.keys_commitResponse, KeyedMap.mem_keys_iff] at hid
    rw [CollabRegistry.find, Option.isNone_iff_eq_none]
    intro hnone
    rw [hnone] at hid
    cases hid

end

end RegistryAccounted

/-! ## The invariant of a session -/

/-- Every tracked request of the session is accounted for by the history of its Room. -/
def AccountedFor (s : RoomSession) : Prop :=
  ∀ room, s.stored = some room →
    RegistryAccounted s.tracking.collabRegistry (collabEntries room.history) s.phantoms

lemma exists_message_of_mem_collabEntries {messages : List RoomMessage}
    {entry : CollabEvent × ℕ} (h : entry ∈ collabEntries messages) :
    ∃ message ∈ messages, collabEntry? message = some entry ∧ message.sequence = entry.2 := by
  obtain ⟨message, hmem, hentry⟩ := List.mem_filterMap.mp h
  refine ⟨message, hmem, hentry, ?_⟩
  unfold collabEntry? at hentry
  split at hentry
  · obtain ⟨event, -, rfl⟩ := Option.map_eq_some_iff.mp hentry
    rfl
  · cases hentry

lemma RegistryAccounted.warm {tracking : CollabTracking} {history : List (CollabEvent × ℕ)}
    {phantoms : List String} (h : RegistryAccounted tracking.collabRegistry history phantoms)
    (hcold : tracking.collabRebuilt = false → tracking.collabRegistry = {} ∧ phantoms = [])
    {room : RoomRecord} (hwell : WellLogged room)
    (hhistory : collabEntries room.history = history) :
    RegistryAccounted (tracking.warm room).collabRegistry history phantoms := by
  unfold CollabTracking.warm
  cases hrebuilt : tracking.collabRebuilt with
  | true => simpa using h
  | false =>
    obtain ⟨hregistry, rfl⟩ := hcold hrebuilt
    simp only [hregistry, Bool.false_eq_true, if_false]
    have hsubset : collabEntries room.messages ⊆ history := by
      rw [← hhistory]
      exact hwell.collabEntries_messages.subset
    exact RegistryAccounted.rebuild (Nat.le_of_lt hwell.length_collabEntries_lt) hsubset

section

variable {env : RoomEnv} {s s' s₁ : RoomSession} {op : SessionOp} {room : RoomRecord}
  {envelope : CollabEnvelope}

lemma RoomSession.Receives.accounted (hwell : s.WellFormed)
    (haccounted : AccountedFor s) (h : s.Receives env op s₁ room envelope) :
    RegistryAccounted (s₁.tracking.warm room).collabRegistry (collabEntries room.history)
      s₁.phantoms := by
  obtain ⟨stored, opened, hstored, rfl, hroom, -⟩ := h.logExtends hwell
  have hhistory : collabEntries room.history = collabEntries stored.history := by
    rw [hroom.collabEntries_history]
    exact List.append_nil _
  refine (haccounted stored hstored).warm hwell.cold
    (hroom.wellLogged (hwell.wellLogged stored hstored)) hhistory |> fun h => ?_
  rwa [hhistory]

lemma accountedFor_ingested (hwell : s.WellFormed)
    (haccounted : AccountedFor s) (hreceives : s.Receives env op s₁ room envelope) :
    AccountedFor (s₁.ingested room (envelope.ingest env room s₁.tracking)) := by
  have hwarm := hreceives.accounted hwell haccounted
  obtain ⟨stored, opened, hstored, rfl, hroom, hopened⟩ := hreceives.logExtends hwell
  have hroomWell := hroom.wellLogged (hwell.wellLogged stored hstored)
  have hhistory : collabEntries opened.history = collabEntries room.history := by
    rw [hopened.collabEntries_history, hroom.collabEntries_history]
  intro record hrecord
  rcases envelope.ingest_cases env room s.tracking with
    ⟨answer, hanswer, hnew, hingest⟩ | ⟨event, hnew,
      ⟨-, hingest⟩ | ⟨saved, added, hlog, hadded, -, hingest⟩⟩
  · rw [hingest] at hrecord ⊢
    obtain rfl := Option.some.inj hrecord
    have hphantoms : s.phantoms.filter (fun id =>
        ((s.tracking.warm room).collabRegistry.find id).isSome) = s.phantoms :=
      List.filter_eq_self.mpr hwarm.tracked
    simp only [RoomSession.ingested, hanswer, if_false, List.append_nil, hphantoms, hhistory]
    exact hwarm
  · rw [hingest] at hrecord ⊢
    obtain rfl := Option.some.inj hrecord
    simp only [RoomSession.ingested, if_true, hhistory]
    cases envelope with
    | request sender input generatedRequestId =>
      obtain ⟨-, hfind⟩ := newRequest_eq_some.mp hnew
      refine hwarm.recordRequest_rejected hfind (fun entry hentry => ?_) fun id => ?_
      · obtain ⟨message, hmem, -, heq⟩ := exists_message_of_mem_collabEntries hentry
        rw [← heq]
        exact Nat.lt_succ_of_le (hroomWell.numbered message hmem).2
      · rw [List.mem_filter, KeyedMap.mem_keys_iff, Option.isNone_iff_eq_none]
        exact and_comm
    | response responder input generatedRequestId =>
      obtain ⟨validated, tracked, -, hfind, -, hnone, rfl⟩ := newResponse_eq_some.mp hnew
      obtain ⟨hkept, happeared⟩ := hwarm.phantoms_commitResponse validated.requestId validated.kind
        (room.nextMessageSequence + 1)
      have hcommitted := hwarm.commitResponse validated (room.nextMessageSequence + 1) hfind hnone
        (fun _ h => absurd h List.not_mem_nil)
      rw [List.append_nil] at hcommitted
      simp only [CollabEnvelope.recorded, CollabEnvelope.record, hkept, happeared, List.append_nil]
      exact hcommitted
  · rw [hingest] at hrecord ⊢
    obtain rfl := Option.some.inj hrecord
    simp only [RoomSession.ingested, reduceCtorEq, if_false, List.append_nil,
      hlog.collabEntries_history, hadded]
    cases envelope with
    | request sender input generatedRequestId =>
      obtain ⟨hvalid, hfind⟩ := newRequest_eq_some.mp hnew
      exact hwarm.recordRequest_accepted (kind_of_newRequest hnew) hfind
    | response responder input generatedRequestId =>
      obtain ⟨validated, tracked, -, hfind, -, hnone, rfl⟩ := newResponse_eq_some.mp hnew
      obtain ⟨hkept, -⟩ := hwarm.phantoms_commitResponse validated.requestId validated.kind
        (room.nextMessageSequence + 1)
      simp only [CollabEnvelope.recorded, CollabEnvelope.record, hkept]
      exact hwarm.commitResponse validated (room.nextMessageSequence + 1) hfind hnone (by simp)

lemma CollabStep.accountedFor (h : CollabStep env s op s') (hwell : s.WellFormed)
    (haccounted : AccountedFor s) : AccountedFor s' := by
  cases h with
  | vacated => exact fun _ h => by cases h
  | created hhistory hmessages | restarted => exact fun _ _ => RegistryAccounted.empty _
  | quiet hstored hlog =>
    intro room hroom
    obtain rfl := Option.some.inj hroom
    rw [hlog.collabEntries_history]
    exact haccounted _ hstored
  | warmed hopens hsaved =>
    intro room hroom
    obtain rfl := Option.some.inj hroom
    obtain ⟨stored, hstored, hlog⟩ := hopens.quiet hwell hsaved
    obtain ⟨stored', hstored', hloaded, -⟩ := hopens.logExtends hwell
    obtain rfl := Option.some.inj (hstored.symm.trans hstored')
    rw [hlog.collabEntries_history]
    refine (haccounted stored hstored).warm hwell.cold
      (hloaded.wellLogged (hwell.wellLogged stored hstored)) ?_
    rw [hloaded.collabEntries_history]
    exact List.append_nil _
  | ingested hreceives => exact accountedFor_ingested hwell haccounted hreceives

lemma accountedFor_of_reachable (hreach : roomSessionSystem.Reachable s) : AccountedFor s :=
  RoomSession.invariant_of_collabStep (fun _ h => nomatch h)
    (fun hwell haccounted _ hstep => hstep.accountedFor hwell haccounted) hreach

/-! ## Duplicate answers -/

lemma WellLogged.eq_of_acceptedAt {room : RoomRecord} (h : WellLogged room)
    {requestId fromId targetId fromId' targetId' : String} {sequence : ℕ}
    (haccepted : AcceptedAt (collabEntries room.history) requestId fromId targetId sequence)
    (haccepted' : AcceptedAt (collabEntries room.history) requestId fromId' targetId' sequence) :
    fromId = fromId' ∧ targetId = targetId' := by
  obtain ⟨event, hmem, -, -, rfl, rfl⟩ := haccepted
  obtain ⟨event', hmem', -, -, rfl, rfl⟩ := haccepted'
  obtain ⟨message, hmessage, hentry, heq⟩ := exists_message_of_mem_collabEntries hmem
  obtain ⟨message', hmessage', hentry', heq'⟩ := exists_message_of_mem_collabEntries hmem'
  have hnodup : (room.history.map (·.sequence)).Nodup := h.increasing.imp Nat.ne_of_lt
  obtain rfl := List.inj_on_of_nodup_map hnodup hmessage hmessage' (heq.trans heq'.symm)
  obtain ⟨rfl, -⟩ := Prod.mk.inj (Option.some.inj (hentry.symm.trans hentry'))
  exact ⟨rfl, rfl⟩

/-- **Duplicate answers.** A valid request is answered as a duplicate only of the same request
between the same participants that was accepted at the answered sequence, if and only if the
tracked request with its id, if there is one, has these participants and is no phantom. -/
theorem duplicate_accepted_iff (hreach : roomSessionSystem.Reachable s) {sender : RoomParticipant}
    {input : JsValue} {generatedRequestId : String} {event : CollabEvent}
    (hreceives : s.Receives env op s₁ room (.request sender input generatedRequestId))
    (hvalid : validateCollabEvent (.str "request") input sender.id room.participants
      room.attachments generatedRequestId = .ok event) :
    (∀ sequence answered,
      (ingestCollabWorkRequest env room s₁.tracking sender input generatedRequestId).answer =
          .duplicate sequence answered →
        answered = event ∧ AcceptedAt (collabEntries room.history) event.requestId sender.id
          event.targetParticipantId sequence) ↔
      ∀ record, (s₁.tracking.warm room).collabRegistry.find event.requestId = some record →
        record.fromParticipantId = sender.id ∧
          record.targetParticipantId = event.targetParticipantId ∧
          event.requestId ∉ s.phantoms := by
  have hwell := wellFormed_of_reachable hreach
  have hwarm := hreceives.accounted hwell (accountedFor_of_reachable hreach)
  obtain ⟨stored, opened, hstored, hs₁, hroom, -⟩ := hreceives.logExtends hwell
  have hroomWell := hroom.wellLogged (hwell.wellLogged stored hstored)
  have hphantoms : s₁.phantoms = s.phantoms := by rw [hs₁]
  simp only [ingestCollabWorkRequest, hvalid]
  cases hfind : (s₁.tracking.warm room).collabRegistry.find event.requestId with
  | none =>
    -- The request is new, so that it is not answered as a duplicate.
    rw [CollabRegistry.recordRequest_of_new _ hfind]
    refine iff_of_true (fun sequence answered hanswer => ?_) fun _ h => by cases h
    simp only [appendCollabEvent] at hanswer
    split at hanswer <;> cases hanswer
  | some record =>
    obtain ⟨sequence, haccounted⟩ := hwarm.records _ _ hfind
    have hid := CollabRegistry.requestId_of_find hfind
    simp only [CollabRegistry.recordRequest, hfind, haccounted.sequence_eq, Option.getD_some,
      CollabIngest.duplicate.injEq, Option.some.injEq]
    constructor
    · rintro hduplicate _ rfl
      obtain ⟨-, haccepted⟩ := hduplicate sequence event ⟨rfl, rfl⟩
      have hnot : event.requestId ∉ s.phantoms := by
        rw [← hphantoms, ← hid]
        intro hmem
        rw [← hid] at haccepted
        exact haccounted.phantom hmem _ _ haccepted
      have hrecord := haccounted.accepted (by rwa [hid, hphantoms])
      rw [hid] at hrecord
      obtain ⟨hfrom, htarget⟩ := hroomWell.eq_of_acceptedAt hrecord haccepted
      exact ⟨hfrom, htarget, hnot⟩
    · rintro hsame _ _ ⟨rfl, rfl⟩
      obtain ⟨hfrom, htarget, hnot⟩ := hsame record rfl
      have hrecord := haccounted.accepted (by rwa [hid, hphantoms])
      rw [hid, hfrom, htarget] at hrecord
      exact ⟨rfl, hrecord⟩

end

/-- The first request of the example run, sent again, is answered with the sequence at which it was
accepted. -/
theorem duplicate_accepted_numbered :
    (ingestCollabWorkRequest (fixedEnv true) (numberedRoom 1) (numberedSession 1).tracking
        (exampleAgent "agent-a") (exampleRequest (numberedId 0) "agent-b") "unused").answer =
          .duplicate 1 (numberedEvent 0) ∧
      AcceptedAt (collabEntries (numberedRoom 1).history) (numberedEvent 0).requestId "agent-a"
        "agent-b" 1 := by
  have hanswer : (ingestCollabWorkRequest (fixedEnv true) (numberedRoom 1)
      (numberedSession 1).tracking (exampleAgent "agent-a")
      (exampleRequest (numberedId 0) "agent-b") "unused").answer =
        .duplicate 1 (numberedEvent 0) := by decide +kernel
  refine ⟨hanswer, ((duplicate_accepted_iff
    (reachable_numberedSession (fun _ _ _ => trivial) (by decide))
    (receives_numbered 1 0 (numberedSession 1).tracking [])
    (validate_numbered (by decide))).mpr ?_ 1 _ hanswer).2⟩
  intro record hfind
  have hrecord : (numberedRegistry 1).find (numberedId 0) = some
      { requestId := numberedId 0
        fromParticipantId := "agent-a"
        targetParticipantId := "agent-b"
        sequenceByKind := KeyedMap.empty.set (.request, 1) } := by decide +kernel
  obtain rfl := Option.some.inj (hrecord.symm.trans hfind)
  exact ⟨rfl, rfl, List.not_mem_nil⟩

/-- When the other Agent reuses the id of the first request, it is told that its own request was
accepted. -/
theorem not_duplicate_accepted_reusedId :
    ¬ ∀ s env op s₁ room sender input generatedRequestId, roomSessionSystem.Reachable s →
      s.Receives env op s₁ room (.request sender input generatedRequestId) →
      ∀ sequence answered,
        (ingestCollabWorkRequest env room s₁.tracking sender input generatedRequestId).answer =
            .duplicate sequence answered →
          AcceptedAt (collabEntries room.history) answered.requestId sender.id
            answered.targetParticipantId sequence := by
  intro hall
  have hreach : roomSessionSystem.Reachable (numberedSession 1) :=
    reachable_numberedSession (fun _ _ _ => trivial) (by decide)
  have hreceives : (numberedSession 1).Receives (fixedEnv true)
      (.collab (.agentSend "agent-b" "token" (exampleRequest (numberedId 0) "agent-a") "unused"))
      (numberedSession 1) (numberedRoom 1)
      (.request (exampleAgent "agent-b") (exampleRequest (numberedId 0) "agent-a") "unused") :=
    ⟨_, numberedRoom 1, rfl, activeRoom_numbered 1 _ [], rfl⟩
  have hanswer : (ingestCollabWorkRequest (fixedEnv true) (numberedRoom 1)
      (numberedSession 1).tracking (exampleAgent "agent-b")
      (exampleRequest (numberedId 0) "agent-a") "unused").answer =
        .duplicate 1 { numberedEvent 0 with
          fromParticipantId := "agent-b"
          targetParticipantId := "agent-a" } := by decide +kernel
  obtain ⟨event, hmem, -, -, hfrom, -⟩ := hall _ _ _ _ _ _ _ _ hreach hreceives _ _ hanswer
  have hentries : collabEntries (numberedRoom 1).history = [(numberedEvent 0, 1)] := rfl
  rw [hentries] at hmem
  obtain ⟨rfl, -⟩ := Prod.mk.inj (List.mem_singleton.mp hmem)
  exact absurd hfrom (by decide)

end Free4Chat
