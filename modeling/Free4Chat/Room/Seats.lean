import Free4Chat.Room.Frame

/-!
# Seats

Most operations leave everybody in the Room where it is: they change what a participant publishes or
when it was seen, and at most take back that its voice was found ready.

* `SamePlace` and `SameSeat`: what such an operation leaves of a participant.
* `SeatsKept`: the participants of two records correspond one by one.
* `seatsKept_updateParticipant`, `seatsKept_stageMediaGrantRevocations` and the others: the
  primitive updates keep the seats.
* `seatsKept_loadRoom` and `seatsKept_saveRoom`: so does storage.
-/

namespace Free4Chat

/-- Whether an Agent's voice was found ready. -/
def RoomParticipant.voiceReady (participant : RoomParticipant) : Bool :=
  participant.media.any fun media => media.agentVoiceReady = some true

/-- What an operation leaves of a participant that neither joins nor leaves nor loses a connection.
The connection of an Agent is its own affair. -/
structure SamePlace (before after : RoomParticipant) : Prop where
  id : after.id = before.id
  kind : after.kind = before.kind
  connected : before.kind = .human → after.connected = before.connected
  connectionNonce : before.kind = .human → after.connectionNonce = before.connectionNonce

/-- Such a participant, whose voice is not found ready by it. -/
structure SameSeat (before after : RoomParticipant) : Prop where
  place : SamePlace before after
  voiceReady : after.voiceReady = true → before.voiceReady = true

variable {first second third : RoomParticipant}

lemma SamePlace.trans (h : SamePlace first second)
    (h' : SamePlace second third) : SamePlace first third where
  id := h'.id.trans h.id
  kind := h'.kind.trans h.kind
  connected hhuman := (h'.connected (h.kind.trans hhuman)).trans (h.connected hhuman)
  connectionNonce hhuman :=
    (h'.connectionNonce (h.kind.trans hhuman)).trans (h.connectionNonce hhuman)

lemma SameSeat.refl (participant : RoomParticipant) : SameSeat participant participant :=
  ⟨⟨rfl, rfl, fun _ => rfl, fun _ => rfl⟩, fun h => h⟩

lemma SameSeat.trans (h : SameSeat first second)
    (h' : SameSeat second third) : SameSeat first third where
  place := h.place.trans h'.place
  voiceReady hready := h.voiceReady (h'.voiceReady hready)

/-- The participants of two records correspond one by one, and the Rooms expire together. -/
structure SeatsKept (R : RoomParticipant → RoomParticipant → Prop) (room room' : RoomRecord) :
    Prop where
  participants : List.Forall₂ R room.participants.values room'.participants.values
  expiresAt : room'.expiresAt = room.expiresAt

namespace SeatsKept

variable {R S : RoomParticipant → RoomParticipant → Prop} {room room' room'' : RoomRecord}

lemma forall₂_trans (hR : ∀ a b c, R a b → R b c → R a c) {l m n : List RoomParticipant}
    (h : List.Forall₂ R l m) (h' : List.Forall₂ R m n) : List.Forall₂ R l n := by
  induction h generalizing n with
  | nil => exact h'
  | cons hab _ ih =>
    cases h' with
    | cons hbc hrest => exact .cons (hR _ _ _ hab hbc) (ih hrest)

lemma exists_of_forall₂ {l m : List RoomParticipant} (h : List.Forall₂ R l m)
    {b : RoomParticipant} (hb : b ∈ m) : ∃ a ∈ l, R a b := by
  induction h with
  | nil => exact absurd hb List.not_mem_nil
  | cons hac _ ih =>
    rcases List.mem_cons.mp hb with rfl | hb
    · exact ⟨_, List.mem_cons_self, hac⟩
    · obtain ⟨a, ha, hab⟩ := ih hb
      exact ⟨a, List.mem_cons_of_mem _ ha, hab⟩

lemma trans_of (hR : ∀ a b c, R a b → R b c → R a c) (h : SeatsKept R room room')
    (h' : SeatsKept R room' room'') : SeatsKept R room room'' where
  participants := forall₂_trans hR h.participants h'.participants
  expiresAt := h'.expiresAt.trans h.expiresAt

lemma trans (h : SeatsKept SameSeat room room') (h' : SeatsKept SameSeat room' room'') :
    SeatsKept SameSeat room room'' :=
  h.trans_of (fun _ _ _ => SameSeat.trans) h'

lemma of_participants_eq (h : room'.participants = room.participants)
    (hexpires : room'.expiresAt = room.expiresAt) : SeatsKept SameSeat room room' where
  participants := by
    rw [h]
    exact List.forall₂_same.mpr fun participant _ => SameSeat.refl participant
  expiresAt := hexpires

lemma of_presence (h : room'.presence = room.presence)
    (hexpires : room'.expiresAt = room.expiresAt) : SeatsKept SameSeat room room' :=
  of_participants_eq (congrArg Presence.participants h) hexpires

lemma refl (room : RoomRecord) : SeatsKept SameSeat room room :=
  of_participants_eq rfl rfl

lemma of_map {f : RoomParticipant → RoomParticipant}
    (hvalues : room'.participants.values = room.participants.values.map f)
    (h : ∀ participant ∈ room.participants.values, R participant (f participant))
    (hexpires : room'.expiresAt = room.expiresAt) : SeatsKept R room room' where
  participants := by
    rw [hvalues, List.forall₂_map_right_iff]
    exact List.forall₂_same.mpr h
  expiresAt := hexpires

lemma exists_before (h : SeatsKept R room room') {after : RoomParticipant}
    (hafter : after ∈ room'.participants.values) :
    ∃ before ∈ room.participants.values, R before after :=
  exists_of_forall₂ h.participants hafter

lemma exists_after (h : SeatsKept R room room') {before : RoomParticipant}
    (hbefore : before ∈ room.participants.values) :
    ∃ after ∈ room'.participants.values, R before after :=
  exists_of_forall₂ (List.Forall₂.flip h.participants) hbefore

end SeatsKept

lemma SameSeat.forall₂_trans {first second third : List RoomParticipant}
    (h : List.Forall₂ SameSeat first second) (h' : List.Forall₂ SameSeat second third) :
    List.Forall₂ SameSeat first third :=
  SeatsKept.forall₂_trans (R := SameSeat) (fun _ _ _ => SameSeat.trans) h h'

/-! ## Primitive updates -/

section Primitives

variable (env : RoomEnv) (room : RoomRecord) {f : RoomParticipant → RoomParticipant}

lemma seatsKept_updateParticipant_of {R : RoomParticipant → RoomParticipant → Prop}
    (hrefl : ∀ participant, R participant participant) (participantId : String)
    (hf : ∀ participant, (f participant).id = participant.id)
    (h : ∀ participant ∈ room.participants.values, participant.id = participantId →
      R participant (f participant)) :
    SeatsKept R room (room.updateParticipant participantId f hf) := by
  refine SeatsKept.of_map rfl (fun participant hmem => ?_) rfl
  by_cases hid : Keyed.key participant = participantId
  · rw [if_pos hid]
    exact h participant hmem hid
  · rw [if_neg hid]
    exact hrefl participant

lemma seatsKept_updateParticipant (participantId : String)
    (hf : ∀ participant, (f participant).id = participant.id)
    (h : ∀ participant, SameSeat participant (f participant)) :
    SeatsKept SameSeat room (room.updateParticipant participantId f hf) :=
  seatsKept_updateParticipant_of room SameSeat.refl participantId hf fun participant _ _ =>
    h participant

lemma seatsKept_touch (participantId : String) :
    SeatsKept SameSeat room (room.touch env participantId) :=
  seatsKept_updateParticipant room participantId _ fun _ =>
    ⟨⟨rfl, rfl, fun _ => rfl, fun _ => rfl⟩, fun h => h⟩

lemma seatsKept_updateMedia (participantId : String) {f : RoomMediaState → RoomMediaState}
    (h : ∀ media, (f media).agentVoiceReady = some true → media.agentVoiceReady = some true) :
    SeatsKept SameSeat room (room.updateMedia participantId f) := by
  refine seatsKept_updateParticipant room participantId _ fun participant =>
    ⟨⟨rfl, rfl, fun _ => rfl, fun _ => rfl⟩, fun hready => ?_⟩
  rw [RoomParticipant.voiceReady] at hready ⊢
  cases hmedia : participant.media with
  | none => simp [hmedia] at hready
  | some media =>
    simp only [hmedia, Option.map_some, Option.any_some, decide_eq_true_eq] at hready ⊢
    exact h media hready

lemma agentVoiceReady_of_revokedMedia {media : RoomMediaState}
    {direction : AgentMediaRevocationDirection}
    (h : (revokedMedia media direction).agentVoiceReady = some true) :
    media.agentVoiceReady = some true := by
  cases direction with
  | subscribed => exact h
  | published | both => exact absurd h (Option.some_ne_none true).symm

lemma sameSeat_stage (participant : RoomParticipant) (pending : List PendingMediaCleanup)
    (direction : AgentMediaRevocationDirection) :
    SameSeat participant (stageAgentMediaRevocation participant pending direction).1 := by
  rw [stageAgentMediaRevocation]
  cases hmedia : participant.media with
  | none => exact SameSeat.refl participant
  | some media =>
    dsimp only
    split
    next => exact SameSeat.refl participant
    next =>
      refine ⟨⟨rfl, rfl, fun _ => rfl, fun _ => rfl⟩, fun hready => ?_⟩
      rw [RoomParticipant.voiceReady, hmedia]
      exact decide_eq_true (agentVoiceReady_of_revokedMedia (of_decide_eq_true hready))

lemma sameSeat_stageSelected (select : RoomParticipant → Bool)
    (direction : AgentMediaRevocationDirection) (participants : List RoomParticipant)
    (pending : List PendingMediaCleanup) : List.Forall₂ SameSeat participants
      (stageSelected select direction participants pending).1 := by
  induction participants generalizing pending with
  | nil => exact .nil
  | cons participant participants ih =>
    refine .cons ?_ (ih _)
    split
    · exact sameSeat_stage participant pending direction
    · exact SameSeat.refl participant

lemma seatsKept_stageAgentMediaRevocation (participantId : String)
    (direction : AgentMediaRevocationDirection) :
    SeatsKept SameSeat room (room.stageAgentMediaRevocation participantId direction) := by
  rw [RoomRecord.stageAgentMediaRevocation]
  cases hget : room.participants.get? participantId with
  | none => exact SeatsKept.refl room
  | some participant =>
    have hmem := KeyedMap.mem_of_get? hget
    have hid : Keyed.key participant = Keyed.key (stageAgentMediaRevocation participant
        room.pendingMediaCleanup direction).1 := (stageAgentMediaRevocation_id _ _ _).symm
    -- The staged participant takes the place of the one that it was.
    refine SeatsKept.of_map (f := fun other => if Keyed.key other = Keyed.key
      (stageAgentMediaRevocation participant room.pendingMediaCleanup direction).1 then
      (stageAgentMediaRevocation participant room.pendingMediaCleanup direction).1 else other)
      ?_ (fun other hother => ?_) rfl
    · show (room.participants.set _).values = _
      rw [KeyedMap.set, dif_pos ⟨participant, hmem, hid⟩]
    · split
      next hkey =>
        rw [room.participants.eq_of_key_eq hother hmem (hkey.trans hid.symm)]
        exact sameSeat_stage participant _ direction
      next => exact SameSeat.refl other

lemma seatsKept_stageMediaGrantRevocation (revocation : AgentMediaRevocationIntent) :
    SeatsKept SameSeat room (room.stageMediaGrantRevocation env revocation) := by
  simp only [RoomRecord.stageMediaGrantRevocation]
  split
  · split
    · exact seatsKept_stageAgentMediaRevocation room _ _
    · exact SeatsKept.refl room
  · exact seatsKept_stageAgentMediaRevocation room _ _

lemma seatsKept_stageMediaGrantRevocations (revocations : List AgentMediaRevocationIntent) :
    SeatsKept SameSeat room (room.stageMediaGrantRevocations env revocations) := by
  induction revocations generalizing room with
  | nil => exact SeatsKept.refl room
  | cons revocation revocations ih =>
    exact (seatsKept_stageMediaGrantRevocation env room revocation).trans (ih _)

lemma seatsKept_stageProducerSubscription (participant : RoomParticipant) :
    SeatsKept SameSeat room (room.stageProducerSubscription participant) := by
  rw [RoomRecord.stageProducerSubscription]
  split
  · exact SeatsKept.refl room
  · split
    · exact seatsKept_stageAgentMediaRevocation room _ _
    · exact SeatsKept.refl room

lemma seatsKept_stageDeparture (participant : RoomParticipant) :
    SeatsKept SameSeat room (room.stageDeparture env participant) :=
  seatsKept_stageMediaGrantRevocations env room _

lemma seatsKept_stageExpired (participant : RoomParticipant) :
    SeatsKept SameSeat room (room.stageExpired env participant) := by
  rw [RoomRecord.stageExpired]
  split
  · exact (seatsKept_stageDeparture env room participant).trans
      (seatsKept_stageProducerSubscription _ participant)
  · exact seatsKept_stageDeparture env room participant

lemma seatsKept_garbageCollectRuntimeHostAuthorization :
    SeatsKept SameSeat room (room.garbageCollectRuntimeHostAuthorization env) := by
  simp only [RoomRecord.garbageCollectRuntimeHostAuthorization,
    RoomRecord.normalizeLiveTranscriptForRoom]
  split
  · exact ⟨sameSeat_stageSelected _ _ _ _, rfl⟩
  · exact SeatsKept.of_participants_eq rfl rfl

/-! ## Conversation and storage -/

lemma expiresAt_appendMessage (message : RoomMessage) :
    (room.appendMessage env message).expiresAt = room.expiresAt := by
  obtain ⟨messages, -, -, heq⟩ := room.appendMessage_eq env message
  rw [heq]

lemma seatsKept_appendMessage (message : RoomMessage) :
    SeatsKept SameSeat room (room.appendMessage env message) :=
  SeatsKept.of_presence (room.presence_appendMessage env message)
    (expiresAt_appendMessage env room message)

lemma seatsKept_expirePermissionRequest (record : PermissionRequestRecord) :
    SeatsKept SameSeat room (room.expirePermissionRequest env record) := by
  have hremoved : SeatsKept SameSeat room (room.removePermission record.requestId) :=
    SeatsKept.of_participants_eq rfl rfl
  simp only [RoomRecord.expirePermissionRequest]
  split
  · exact hremoved
  · exact hremoved.trans (seatsKept_appendMessage env _ _)

lemma seatsKept_foldl_expirePermissionRequest (records : List PermissionRequestRecord) :
    SeatsKept SameSeat room (records.foldl (RoomRecord.expirePermissionRequest env) room) := by
  induction records generalizing room with
  | nil => exact SeatsKept.refl room
  | cons record records ih =>
    exact (seatsKept_expirePermissionRequest env room record).trans (ih _)

lemma seatsKept_expirePermissionRequests (departedAgentParticipantId : Option String) :
    SeatsKept SameSeat room (room.expirePermissionRequests env departedAgentParticipantId) :=
  seatsKept_foldl_expirePermissionRequest env room _

lemma seatsKept_saveRoom {saved : RoomRecord} (h : room.saveRoom env = some saved) :
    SeatsKept SameSeat room saved := by
  obtain ⟨messages, -, rfl⟩ := RoomRecord.saveRoom_eq_some env h
  exact SeatsKept.of_participants_eq rfl rfl

lemma agentVoiceReady_normalizeSubscribedMids (media : RoomMediaState) :
    (normalizeSubscribedMids media).agentVoiceReady = media.agentVoiceReady := by
  rw [normalizeSubscribedMids]
  split
  · rfl
  · split <;> rfl

lemma agentVoiceReady_of_normalizeAgentVoice {media : RoomMediaState}
    {agentVoice : AgentVoiceState} {participantId : String}
    (h : (normalizeAgentVoiceParticipantMedia media agentVoice participantId).1.agentVoiceReady =
      some true) : media.agentVoiceReady = some true := by
  rw [normalizeAgentVoiceParticipantMedia] at h
  split at h
  · exact h
  · split at h
    · exact h
    · exact absurd h (Option.some_ne_none true).symm

lemma sameSeat_normalizeParticipant (participant : RoomParticipant) :
    SameSeat participant (normalizeParticipant participant) := by
  rw [normalizeParticipant]
  split
  · refine ⟨⟨rfl, rfl, fun _ => rfl, fun _ => rfl⟩, fun hready => ?_⟩
    rw [RoomParticipant.voiceReady] at hready ⊢
    cases hmedia : participant.media with
    | none => simp [hmedia] at hready
    | some media =>
      rw [hmedia, Option.map_some, Option.any_some, decide_eq_true_eq] at hready
      rw [Option.any_some, decide_eq_true_eq, ← agentVoiceReady_normalizeSubscribedMids]
      exact hready
  · exact SameSeat.refl participant

lemma sameSeat_dropDanglingHost (runtimeHosts : RuntimeHostMap) (participant : RoomParticipant) :
    SameSeat participant (dropDanglingHost runtimeHosts participant) := by
  rw [dropDanglingHost]
  split
  · exact ⟨⟨rfl, rfl, fun _ => rfl, fun _ => rfl⟩, fun h => h⟩
  · exact SameSeat.refl participant

lemma sameSeat_normalizeVoiceMedia (agentVoice : AgentVoiceState) (participant : RoomParticipant) :
    SameSeat participant (normalizeVoiceMedia agentVoice participant) := by
  rw [normalizeVoiceMedia]
  split
  · refine ⟨⟨rfl, rfl, fun _ => rfl, fun _ => rfl⟩, fun hready => ?_⟩
    rw [RoomParticipant.voiceReady] at hready ⊢
    cases hmedia : participant.media with
    | none => simp [hmedia] at hready
    | some media =>
      rw [hmedia, Option.map_some, Option.any_some, decide_eq_true_eq] at hready
      exact decide_eq_true (agentVoiceReady_of_normalizeAgentVoice hready)
  · exact SameSeat.refl participant

lemma forall₂_map_sameSeat (h : ∀ participant, SameSeat participant (f participant))
    (participants : List RoomParticipant) :
    List.Forall₂ SameSeat participants (participants.map f) := by
  rw [List.forall₂_map_right_iff]
  exact List.forall₂_same.mpr fun participant _ => h participant

lemma seatsKept_normalizeRoom : SeatsKept SameSeat room (normalizeRoom env room) where
  participants := by
    have hrepaired := SameSeat.forall₂_trans (forall₂_map_sameSeat sameSeat_normalizeParticipant
      room.participants.values) (forall₂_map_sameSeat (sameSeat_dropDanglingHost
        (sanitizeStoredRuntimeHosts room.runtimeHosts)) _)
    -- The subscriptions of a transcript that the load stops are staged in between.
    refine SameSeat.forall₂_trans ?_ (forall₂_map_sameSeat (sameSeat_normalizeVoiceMedia _) _)
    split
    · exact SameSeat.forall₂_trans hrepaired (sameSeat_stageSelected _ _ _ _)
    · exact hrepaired
  expiresAt := rfl

lemma seatsKept_loadRoom {loaded stored : RoomRecord}
    (h : loadRoom env room = some (loaded, stored)) :
    SeatsKept SameSeat room loaded ∧ SeatsKept SameSeat room stored := by
  obtain ⟨⟨messages, -, rfl⟩, hstored⟩ := loadRoom_eq_some h
  have hloaded : SeatsKept SameSeat room { normalizeRoom env room with messages } :=
    (seatsKept_normalizeRoom env room).trans (SeatsKept.of_participants_eq rfl rfl)
  refine ⟨hloaded, ?_⟩
  rcases hstored with rfl | rfl
  · exact SeatsKept.refl _
  · exact hloaded

end Primitives

end Free4Chat
