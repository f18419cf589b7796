import Free4Chat.Session.DuplicateAnswers

/-!
# What a Session Keeps

The numbers that a Room gives to its messages are given once, whatever is loaded, saved, rejected or
evicted in between. What the registry remembers of them stays bounded, and is what was accepted.

* `messagesNumbered_of_reachable`: the numbers of the messages, over every run.
* `registryKept_of_reachable`: the registry, over every run.
-/

namespace Free4Chat

variable {env : RoomEnv} {s s' s₁ : RoomSession} {op : SessionOp} {room : RoomRecord}

/-! ## Messages -/

lemma WellLogged.increasing_messages (h : WellLogged room) :
    (room.messages.map (·.sequence)).Pairwise (· < ·) := by
  have hsequences : ∀ messages : List RoomMessage,
      (messages.map RoomMessage.untargeted).map (·.sequence) = messages.map (·.sequence) :=
    fun messages => by rw [List.map_map]; rfl
  have hsuffix := h.retained.map (·.sequence)
  rw [hsequences, hsequences] at hsuffix
  exact h.increasing.sublist hsuffix.sublist

/-- In every run, the messages that were ever appended to the stored Room bear increasing numbers,
none of which is given again. Those that are retained are the newest, in order. -/
theorem messagesNumbered_of_reachable (hreach : roomSessionSystem.Reachable s)
    (hstored : s.stored = some room) :
    WellLogged room ∧ (room.messages.map (·.sequence)).Pairwise (· < ·) := by
  have hwell := (wellFormed_of_reachable hreach).wellLogged room hstored
  exact ⟨hwell, hwell.increasing_messages⟩

/-- The log of the example run after 129 requests, of which 100 are retained. -/
theorem messagesNumbered_evicted : (numberedRoom 129).messages.length = 100 ∧
    WellLogged (numberedRoom 129) ∧
      ((numberedRoom 129).messages.map (·.sequence)).Pairwise (· < ·) :=
  ⟨by decide +kernel, messagesNumbered_of_reachable
    (reachable_numberedSession (fun _ _ _ => trivial) le_rfl) rfl⟩

/-! ## The registry -/

/-- The registry tracks no more requests than it may. -/
def RegistryBounded (tracking : CollabTracking) : Prop :=
  tracking.collabRegistry.requests.keys.length ≤ MAX_TRACKED_REQUESTS

lemma RegistryBounded.warm {tracking : CollabTracking} (h : RegistryBounded tracking)
    (hcold : tracking.collabRebuilt = false → tracking.collabRegistry = {})
    (hwell : WellLogged room) : RegistryBounded (tracking.warm room) := by
  unfold CollabTracking.warm
  cases hrebuilt : tracking.collabRebuilt with
  | true => simpa using h
  | false =>
    have hlength := Nat.le_of_lt hwell.length_collabEntries_lt
    simp only [hcold hrebuilt, Bool.false_eq_true, if_false, RegistryBounded,
      CollabRegistry.rebuild, CollabRegistry.takeLast_distinct hlength]
    rw [CollabRegistry.keys_foldl_replayRequest _ _ (List.nodup_distinct _) fun id _ hmem =>
      List.not_mem_nil hmem]
    refine (List.length_filter_le _ _).trans ((List.length_distinct_le _).trans ?_)
    rwa [List.length_map]

lemma RegistryBounded.recorded {tracking : CollabTracking} {envelope : CollabEnvelope}
    {event : CollabEvent} (h : RegistryBounded (tracking.warm room))
    (hnew : envelope.newEvent room (tracking.warm room).collabRegistry = some event) :
    RegistryBounded (envelope.recorded room tracking event) := by
  unfold RegistryBounded CollabEnvelope.recorded
  cases envelope with
  | request sender input generatedRequestId =>
    -- A new request takes the place of the oldest one, if there is no other left.
    simp only [CollabEnvelope.record]
    rw [CollabRegistry.keys_recordRequest _ (newRequest_eq_some.mp hnew).2, List.length_append,
      CollabRegistry.keys_evictWhileFull, List.length_drop, List.length_singleton]
    have hpos : 0 < MAX_TRACKED_REQUESTS := by decide
    omega
  | response responder input generatedRequestId =>
    simp only [CollabEnvelope.record, CollabRegistry.keys_commitResponse]
    exact h

lemma CollabStep.registryBounded (h : CollabStep env s op s') (hwell : s.WellFormed)
    (hbounded : RegistryBounded s.tracking) : RegistryBounded s'.tracking := by
  have hcold : s.tracking.collabRebuilt = false → s.tracking.collabRegistry = {} :=
    fun hcold => (hwell.cold hcold).1
  cases h with
  | vacated | created | restarted => exact Nat.zero_le _
  | quiet => exact hbounded
  | warmed hopens =>
    obtain ⟨stored, hstored, hlog, -⟩ := hopens.logExtends hwell
    exact hbounded.warm hcold (hlog.wellLogged (hwell.wellLogged stored hstored))
  | @ingested s₁ room envelope hreceives =>
    obtain ⟨stored, opened, hstored, rfl, hlog, -⟩ := hreceives.logExtends hwell
    have hwarm := hbounded.warm hcold (hlog.wellLogged (hwell.wellLogged stored hstored))
    rcases envelope.ingest_cases env room s.tracking with
      ⟨answer, -, -, hingest⟩ | ⟨event, hnew, ⟨-, hingest⟩ | ⟨saved, added, -, -, -, hingest⟩⟩
    · rw [hingest]
      exact hwarm
    all_goals
      rw [hingest]
      exact hwarm.recorded hnew

/-- In every run the registry tracks at most 128 requests. What it tracks was accepted into the log
at the sequence it answers with, between the participants it tracks, unless its save failed. -/
theorem registryKept_of_reachable (hreach : roomSessionSystem.Reachable s) :
    s.tracking.collabRegistry.requests.keys.length ≤ MAX_TRACKED_REQUESTS ∧
      ∀ room, s.stored = some room → ∀ id record,
        s.tracking.collabRegistry.find id = some record → id ∉ s.phantoms →
          ∃ sequence, record.sequenceOf? .request = some sequence ∧
            AcceptedAt (collabEntries room.history) id record.fromParticipantId
              record.targetParticipantId sequence := by
  have hbounded : RegistryBounded s.tracking :=
    RoomSession.invariant_of_collabStep (Nat.zero_le _)
      (fun {env s op s'} hwell (hbounded : RegistryBounded s.tracking) _ hstep =>
        hstep.registryBounded hwell hbounded) hreach
  refine ⟨hbounded, fun room hstored id record hfind hphantom => ?_⟩
  obtain ⟨sequence, haccounted⟩ :=
    (accountedFor_of_reachable hreach room hstored).records id record hfind
  obtain rfl := CollabRegistry.requestId_of_find hfind
  exact ⟨sequence, haccounted.sequence_eq, haccounted.accepted hphantom⟩

/-- The registry of the example run, which has forgotten the first of 129 requests. -/
theorem registryKept_full : (numberedRegistry 129).requests.keys.length = 128 ∧
    ∃ sequence, AcceptedAt (collabEntries (numberedRoom 129).history) (numberedId 128) "agent-a"
      "agent-b" sequence := by
  have hrecord : (numberedSession 129).tracking.collabRegistry.find (numberedId 128) = some
      { requestId := numberedId 128
        fromParticipantId := "agent-a"
        targetParticipantId := "agent-b"
        sequenceByKind := KeyedMap.empty.set (.request, 129) } := by decide +kernel
  obtain ⟨sequence, -, haccepted⟩ := (registryKept_of_reachable
    (reachable_numberedSession (fun _ _ _ => trivial) le_rfl)).2 _ rfl _ _ hrecord
      List.not_mem_nil
  exact ⟨by decide +kernel, sequence, haccepted⟩

end Free4Chat
