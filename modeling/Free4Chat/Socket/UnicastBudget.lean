import Free4Chat.Socket.HostState

/-!
# The Budget of Unicasts

A Human socket may send few private messages between Room Apps in any second, and each goes to the
participant it is addressed to. The samples that the budget counts are kept in the attachment, and
the Room is the one that the message was received with, so both hold as long as neither has moved
on while the message awaited the catalog.

* `UnicastsBounded`: the bound on every window, and the addressee of every delivery.
* `NoStaleUnicast`: the samples and the addressee are still the ones that were read.
* `unicastsBounded_of_noStaleUnicast`: then every state reached is bounded.
-/

namespace Free4Chat

/-- A unicast was delivered to the connection that its addressee had in the Room at that time. -/
def UnicastRecord.Addressed (record : UnicastRecord) : Prop :=
  ∃ participant, record.participants.get? record.addressee = some participant ∧
    participant.connected = true ∧
    record.socket.attachment.participantId = record.addressee ∧
    record.socket.attachment.token = participant.token ∧
    participant.connectionNonce = some record.socket.attachment.connectionNonce

/-- The unicasts of any second keep the limit, and each was delivered to its addressee. -/
structure UnicastsBounded (s : HumanSocket) : Prop where
  bounded : ∀ endsAt, unicastRateLimit.Holds RoomAppUnicastRateSample.bytes
    (s.granted.filter fun sample =>
      endsAt < sample.at' + unicastRateLimit.width ∧ sample.at' ≤ endsAt)
  granted : (s.delivered.map UnicastRecord.sample).Sublist s.granted
  addressed : ∀ record ∈ s.delivered, record.Addressed

/-- A handler that goes on and writes the attachment finds the samples that it has read. A unicast
finds the clock not before the unicasts that were granted, and its addressee as it was. -/
def NoStaleUnicast (env : SocketEnv) (s : HumanSocket) : HumanSocketOp → Prop
  | .resume index catalog room now writable _ _ => ∀ readAt handler,
      s.suspended[index]? = some (readAt, handler) →
      handler.writes env catalog room now writable = true →
        handler.attachment.roomAppUnicastRateSamples = s.attachment.roomAppUnicastRateSamples ∧
        ∀ request, handler = .unicast request →
          (∀ sample ∈ s.granted, sample.at' ≤ now) ∧
          ∀ target, (request.message.get "targetParticipantId").asString? = some target →
            (room.elim KeyedMap.empty (·.participants)).get? target =
              request.room.participants.get? target
  | _ => True

/-! ## The samples -/

/-- The samples that still counted when the last unicast was granted. -/
def trailingSamples (granted : List RoomAppUnicastRateSample) : List RoomAppUnicastRateSample :=
  match granted.getLast? with
  | none => []
  | some last => unicastRateLimit.recent RoomAppUnicastRateSample.at' last.at' granted

lemma trailingSamples_concat (granted : List RoomAppUnicastRateSample)
    (sample : RoomAppUnicastRateSample) : trailingSamples (granted ++ [sample]) =
      unicastRateLimit.recent RoomAppUnicastRateSample.at' sample.at' granted ++ [sample] := by
  simp [trailingSamples, RateLimit.recent, unicastRateLimit]

lemma filter_trailingSamples {granted : List RoomAppUnicastRateSample} {now : ℕ}
    (hclock : ∀ sample ∈ granted, sample.at' ≤ now) :
    unicastRateLimit.recent RoomAppUnicastRateSample.at' now (trailingSamples granted) =
      unicastRateLimit.recent RoomAppUnicastRateSample.at' now granted := by
  unfold trailingSamples
  split
  · rename_i hnone
    rw [List.getLast?_eq_none_iff.mp hnone]
  · rename_i last hlast
    have hle := hclock last (List.mem_of_getLast? hlast)
    rw [RateLimit.recent, RateLimit.recent, RateLimit.recent, List.filter_filter]
    refine List.filter_congr fun sample _ => ?_
    simp only [Bool.and_eq_decide, decide_eq_decide]
    simp only [decide_eq_true_eq]
    omega

/-- The invariant of a Human socket when no stale samples are written. -/
structure UnicastInv (s : HumanSocket) : Prop where
  samples : s.attachment.roomAppUnicastRateSamples = trailingSamples s.granted
  few : s.attachment.roomAppUnicastRateSamples.length ≤ ROOM_APP_UNICAST_MESSAGES_PER_SECOND
  small : ∀ sample ∈ s.granted, sample.bytes ≤ ROOM_APP_MAX_PAYLOAD_BYTES
  respected : unicastRateLimit.Respected RoomAppUnicastRateSample.at'
    RoomAppUnicastRateSample.bytes s.granted
  granted : (s.delivered.map UnicastRecord.sample).Sublist s.granted
  addressed : ∀ record ∈ s.delivered, record.Addressed

namespace UnicastInv

variable {s s' : HumanSocket} (h : UnicastInv s)
include h

lemma countedSamples_eq {now : ℕ} (hclock : ∀ sample ∈ s.granted, sample.at' ≤ now) :
    countedSamples s.attachment now =
      unicastRateLimit.recent RoomAppUnicastRateSample.at' now s.granted := by
  rw [← filter_trailingSamples hclock, ← h.samples]
  have hall : takeLast ROOM_APP_UNICAST_MESSAGES_PER_SECOND
      s.attachment.roomAppUnicastRateSamples = s.attachment.roomAppUnicastRateSamples := by
    rw [takeLast, Nat.sub_eq_zero_of_le h.few, List.drop_zero]
  rw [countedSamples, hall, RateLimit.recent]
  refine List.filter_congr fun sample hmem => ?_
  have hgranted : sample ∈ s.granted := by
    rw [h.samples, trailingSamples] at hmem
    split at hmem
    · exact absurd hmem List.not_mem_nil
    · exact List.mem_of_mem_filter hmem
  simp only [hclock sample hgranted, h.small sample hgranted, decide_true, Bool.and_true]
  rfl

lemma of_eq
    (hsamples : s'.attachment.roomAppUnicastRateSamples = s.attachment.roomAppUnicastRateSamples)
    (hgranted : s'.granted = s.granted) (hdelivered : s'.delivered = s.delivered) :
    UnicastInv s' := by
  refine ⟨?_, ?_, ?_, ?_, ?_, ?_⟩
  · rw [hsamples, hgranted, h.samples]
  · rw [hsamples]
    exact h.few
  · rw [hgranted]
    exact h.small
  · rw [hgranted]
    exact h.respected
  · rw [hgranted, hdelivered]
    exact h.granted
  · rw [hdelivered]
    exact h.addressed

lemma grant {bytes now : ℕ} (hsmall : bytes ≤ ROOM_APP_MAX_PAYLOAD_BYTES)
    (hclock : ∀ sample ∈ s.granted, sample.at' ≤ now)
    (hcount : (countedSamples s.attachment now).length < ROOM_APP_UNICAST_MESSAGES_PER_SECOND)
    (hsize : ((countedSamples s.attachment now).map (·.bytes)).sum + bytes ≤
      ROOM_APP_UNICAST_BYTES_PER_SECOND) (hsamples : s'.attachment.roomAppUnicastRateSamples =
      countedSamples s.attachment now ++ [{ at' := now, bytes }])
    (hgranted : s'.granted = s.granted ++ [{ at' := now, bytes }])
    (hdelivered : s'.delivered = s.delivered ∨ ∃ record, s'.delivered = s.delivered ++ [record] ∧
      record.sample = { at' := now, bytes } ∧ record.Addressed) :
    UnicastInv s' := by
  have hcounted := h.countedSamples_eq hclock
  refine ⟨?_, ?_, ?_, ?_, ?_, ?_⟩
  · rw [hsamples, hgranted, trailingSamples_concat, hcounted]
  · rw [hsamples, List.length_append, List.length_singleton]
    exact hcount
  · rw [hgranted]
    intro sample hmem
    rcases List.mem_append.mp hmem with hmem | hmem
    · exact h.small sample hmem
    · rw [List.mem_singleton.mp hmem]
      exact hsmall
  · rw [hgranted]
    refine h.respected.concat ⟨?_, ?_⟩
    · rw [← hcounted, List.length_append, List.length_singleton]
      exact hcount
    · rw [← hcounted, List.map_append, List.sum_append]
      simpa [unicastRateLimit] using hsize
  · rw [hgranted]
    rcases hdelivered with heq | ⟨record, heq, hrecord, -⟩
    · rw [heq]
      exact h.granted.trans (List.sublist_append_left _ _)
    · rw [heq, List.map_append, List.map_singleton, hrecord]
      exact h.granted.append (List.Sublist.refl _)
  · rcases hdelivered with heq | ⟨record, heq, -, haddressed⟩
    · rw [heq]
      exact h.addressed
    · rw [heq]
      intro other hmem
      rcases List.mem_append.mp hmem with hmem | hmem
      · exact h.addressed other hmem
      · rw [List.mem_singleton.mp hmem]
        exact haddressed

end UnicastInv

/-! ## The steps -/

lemma RoomAppUnicast.deliver_eq_ok {env : SocketEnv} {unicast : RoomAppUnicast}
    {target : String} {candidates : List SocketCandidate} {sendable : Bool}
    {socket : SocketCandidate} (h : unicast.deliver env target candidates sendable = .ok socket) :
    ∃ participant, unicast.room.participants.get? target = some participant ∧
      participant.connected = true ∧ socket.attachment.participantId = target ∧
      socket.attachment.token = participant.token ∧
      participant.connectionNonce = some socket.attachment.connectionNonce := by
  simp only [deliver, Except.bind_eq_ok, Except.require_eq_ok, Except.pure_eq_ok] at h
  obtain ⟨participant, hparticipant, socket', hsocket, -, -, -, -, rfl⟩ := h
  obtain ⟨hget, hchecks⟩ := Option.filter_eq_some_iff.mp hparticipant
  simp only [Bool.and_eq_true, decide_eq_true_eq] at hchecks
  have hfound := List.find?_some hsocket
  simp only [Bool.and_eq_true, decide_eq_true_eq] at hfound
  obtain ⟨⟨⟨hid, htoken⟩, hnonce⟩, -⟩ := hfound
  exact ⟨participant, hget, hchecks.1.1.2, hid.trans (KeyedMap.key_of_get? hget), htoken,
    hnonce.symm⟩

lemma UnicastInv.resumeUnicast (env : SocketEnv) {s : HumanSocket} (h : UnicastInv s)
    {request : RoomAppUnicast} (catalog : RoomAppCatalog) (room : Option RoomRecord) (now : ℕ)
    (writable : Bool) (candidates : List SocketCandidate) (sendable : Bool)
    (hfresh : (request.handle env catalog now writable candidates sendable).written.isSome =
      true → request.attachment.roomAppUnicastRateSamples =
          s.attachment.roomAppUnicastRateSamples ∧
        (∀ sample ∈ s.granted, sample.at' ≤ now) ∧
        ∀ target, (request.message.get "targetParticipantId").asString? = some target →
          (room.elim KeyedMap.empty (·.participants)).get? target =
            request.room.participants.get? target) :
    UnicastInv (s.resumeUnicast env request catalog room now writable candidates sendable) := by
  unfold HumanSocket.resumeUnicast
  dsimp only
  split
  · rename_i attachment bytes hwritten hbytes
    obtain ⟨hread, hclock, htarget⟩ := hfresh (by simp [hwritten])
    obtain ⟨target, bytes', haddressee, hbytes', hsmall, hallowed, hdelivered⟩ :=
      RoomAppUnicast.handle_written hwritten
    obtain rfl : bytes = bytes' := Option.some.inj (hbytes.symm.trans hbytes')
    obtain ⟨heq, hcount, hsize⟩ := consumeRoomAppUnicastBudget_eq_allowed hallowed
    have hcounted : countedSamples request.attachment now = countedSamples s.attachment now := by
      rw [countedSamples, countedSamples, hread]
    rw [hcounted] at heq hcount hsize
    have hsamples : attachment.roomAppUnicastRateSamples =
        countedSamples s.attachment now ++ [{ at' := now, bytes }] := by
      rw [heq]
    split
    · exact h.grant hsmall hclock hcount hsize hsamples rfl (Or.inl rfl)
    · rename_i socket hsocket
      refine h.grant hsmall hclock hcount hsize hsamples rfl (Or.inr ⟨_, rfl, rfl, ?_⟩)
      rw [hdelivered] at hsocket
      obtain ⟨participant, hget, hparticipant⟩ := RoomAppUnicast.deliver_eq_ok hsocket
      refine ⟨participant, ?_, ?_⟩
      · rw [haddressee, Option.getD_some, htarget target haddressee]
        exact hget
      · rw [haddressee]
        exact hparticipant
  · exact h

lemma UnicastInv.step (env : SocketEnv) {s : HumanSocket} (h : UnicastInv s)
    {op : HumanSocketOp} (hguard : NoStaleUnicast env s op) : UnicastInv (s.step env op) := by
  cases op with
  | hostState appInstanceId ready room writable =>
    simp only [HumanSocket.step, HumanSocket.receiveHostState]
    split_ifs <;> exact h.of_eq rfl rfl rfl
  | unicast room message =>
    simp only [HumanSocket.step]
    split <;> exact h.of_eq rfl rfl rfl
  | taskSession discovery start => exact h.of_eq rfl rfl rfl
  | resume index catalog room now writable candidates sendable =>
    simp only [HumanSocket.step, HumanSocket.resume]
    split
    · exact h
    · rename_i readAt handler hget
      have hrunning : UnicastInv { s with suspended := s.suspended.eraseIdx index } :=
        h.of_eq rfl rfl rfl
      have hguard := hguard readAt handler hget
      cases handler with
      | hostState attachment arrival appInstanceId =>
        simp only [HumanSocket.resumeHostState]
        split
        · exact hrunning.of_eq rfl rfl rfl
        · rename_i metadata hmetadata
          obtain ⟨hready, hwrites⟩ := Option.filter_eq_some_iff.mp hmetadata
          have hread := (hguard (by simpa [SuspendedHandler.writes, hready] using hwrites)).1
          exact hrunning.of_eq hread rfl rfl
      | unicast request =>
        refine hrunning.resumeUnicast env catalog room now writable candidates sendable ?_
        intro hwritten
        rw [RoomAppUnicast.handle_written_congr env request catalog now writable candidates []
          sendable false] at hwritten
        exact ⟨(hguard hwritten).1, (hguard hwritten).2 request rfl⟩

/-- **The unicast budget.** When no handler writes samples that it read before other unicasts were
granted, the clock does not run backwards and the addressee of a unicast does not change while it
awaits the catalog, the unicasts of any second keep the limit, and each is delivered to its
addressee. -/
theorem unicastsBounded_of_noStaleUnicast (env : SocketEnv) {s : HumanSocket}
    (hreach : (humanSocketSystem env).ReachableWhen (NoStaleUnicast env) s) :
    UnicastsBounded s := by
  have hinv : UnicastInv s := by
    refine hreach.invariant ?_ ?_
    · rintro s ⟨participantId, token, connectionNonce, rfl⟩
      exact ⟨rfl, Nat.zero_le _, fun _ hmem => absurd hmem List.not_mem_nil,
        RateLimit.respected_nil, List.Sublist.refl _, fun _ hmem => absurd hmem List.not_mem_nil⟩
    · rintro s op s' h hguard rfl
      exact h.step env hguard
  exact ⟨hinv.respected.within_window, hinv.granted, hinv.addressed⟩

/-! ## Unicasts in the lobby -/

/-- A unicast of the first Human to the second. -/
def lobbyUnicast : JsValue :=
  .obj [("type", .str "room-app-unicast"), ("requestId", .str "move-1"),
    ("appInstanceId", .str "chess:64a80985"), ("targetParticipantId", .str "bob"),
    ("payload", .obj [])]

/-- The socket of the second Human. -/
def lobbyPeer : SocketCandidate :=
  { attachment := { participantId := "bob", token := "token-bob", connectionNonce := "nonce-bob" }
    isOpen := true }

/-- A unicast that goes on at once keeps the limit. -/
theorem unicastsBounded_of_noStaleUnicast_lobby :
    UnicastsBounded ((lobbySocket.step lobbyEnv (.unicast lobby lobbyUnicast)).step lobbyEnv
      (.resume 0 lobbyCatalog (some lobby) 1000 true [lobbyPeer] true)) := by
  refine unicastsBounded_of_noStaleUnicast lobbyEnv (HumanSocket.reachableWhen_step
    (HumanSocket.reachableWhen_step reachable_lobbySocket ?_) ?_)
  · exact trivial
  · intro readAt handler hget _
    cases hget
    refine ⟨rfl, ?_⟩
    rintro request hrequest
    cases hrequest
    exact ⟨fun _ hmem => absurd hmem List.not_mem_nil, fun _ _ => rfl⟩

/-- Eleven unicasts that await the catalog at once are all delivered within one second. -/
theorem not_unicastsBounded_concurrent :
    ¬ (∀ env s, (humanSocketSystem env).Reachable s → UnicastsBounded s) := by
  intro hall
  have hbounded := (hall lobbyEnv _ (HumanSocket.reachable_run lobbyEnv reachable_lobbySocket
    (List.replicate 11 (.unicast lobby lobbyUnicast) ++ List.replicate 11
      (.resume 0 lobbyCatalog (some lobby) 1000 true [lobbyPeer] true)))).bounded 1000
  revert hbounded
  unfold RateLimit.Holds
  decide +kernel

end Free4Chat
