import Free4Chat.Operation.MediaDirections

/-!
# Independence of the Media Directions

A transition on media grants that revokes the listening of Agents leaves their speaking alone, and
the other way round.

* `RevokesListening` and `RevokesSpeaking`: the transitions that revoke a direction.
* `keepsSpeaking_of_revokesListening` and `keepsListening_of_revokesSpeaking`: each keeps the other.
* `InScope`: the Agents whose grant a transition revokes.
* `directionsIndependent`: the transitions keep the other direction, and the Agents out of scope.

A transition on behalf of one Agent may revoke the media of another: a new note-taker replaces the
old one, and the projection of a Runtime Host is shared by its Agents.
-/

namespace Free4Chat

open JsString (nonempty?)

variable {participant : RoomParticipant} {env : RoomEnv} {room room' : RoomRecord}

/-! ## Transitions -/

/-- An Agent of a Runtime Host reports the host anew. -/
def Reprojects (room : RoomRecord) (participantId : String) (host previous : RuntimeHostProjection) :
    Prop :=
  (∃ agent, room.participants.get? participantId = some agent ∧
      agent.runtimeHostId = some host.runtimeHostId) ∧
    room.runtimeHosts.get? host.runtimeHostId = some previous

/-- A Runtime Host loses its speech recognition. -/
def LosesStt (room : RoomRecord) (participantId : String) (host : RuntimeHostProjection) : Prop :=
  ∃ previous, Reprojects room participantId host previous ∧ previous.speech.stt = true ∧
    host.speech.stt = false ∧ host.speech.tts = previous.speech.tts

/-- A Runtime Host loses its speech synthesis. -/
def LosesTts (room : RoomRecord) (participantId : String) (host : RuntimeHostProjection) : Prop :=
  ∃ previous, Reprojects room participantId host previous ∧ previous.speech.tts = true ∧
    host.speech.tts = false ∧ host.speech.stt = previous.speech.stt

/-- The transitions that revoke or reassign listening. -/
inductive RevokesListening (room : RoomRecord) : MediaOp → Prop
  | meetingNotesStart {participantId token agentParticipantId : String} :
    RevokesListening room (.human participantId token (.meetingNotesStart agentParticipantId))
  | meetingNotesStop {participantId token : String} :
    RevokesListening room (.human participantId token .meetingNotesStop)
  | liveTranscriptStop {participantId token : String} :
    RevokesListening room (.human participantId token .liveTranscriptStop)
  | hostLosesStt {participantId token : String} {host : ValidRuntimeHost}
      (h : LosesStt room participantId host.val) :
    RevokesListening room (.updateRuntimeHost participantId token host)

/-- The transitions that revoke speaking. -/
inductive RevokesSpeaking (room : RoomRecord) : MediaOp → Prop
  | agentVoiceStop {participantId token agentParticipantId : String} :
    RevokesSpeaking room (.human participantId token (.agentVoiceSet agentParticipantId false))
  | hostLosesTts {participantId token : String} {host : ValidRuntimeHost}
      (h : LosesTts room participantId host.val) :
    RevokesSpeaking room (.updateRuntimeHost participantId token host)

/-- The Agents whose grant a transition concerns: the note-taker that is stopped or replaced, the
Agents that produce the live transcript, the Agent whose voice is set, and the Agents of the host
that is reported. -/
def InScope (room : RoomRecord) (op : MediaOp) (id : String) : Prop :=
  match op with
  | .human _ _ (.meetingNotesStart _) => room.meetingNotes.agentParticipantId = some id
  | .human _ _ .meetingNotesStop => room.meetingNotes.agentParticipantId = some id
  | .human _ _ .liveTranscriptStop => ∃ p, room.participants.get? id = some p ∧
      isRevokedProducer room.meetingNotes room.liveTranscript p = true
  | .human _ _ (.agentVoiceSet agentParticipantId _) => id = agentParticipantId
  | .updateRuntimeHost _ _ host => ∃ p, room.participants.get? id = some p ∧
      p.runtimeHostId = some host.val.runtimeHostId
  | _ => False

/-- The media of a participant, if it is there. -/
def mediaOf (room : RoomRecord) (id : String) : Option (Option RoomMediaState) :=
  (room.participants.get? id).map (·.media)

/-! ### Runtime Hosts -/

lemma agentUpdateRuntimeHost_eq {participantId token : String} {host : ValidRuntimeHost}
    {previous : RuntimeHostProjection} (h : Reprojects room participantId host.val previous)
    (hupdate : room.agentUpdateRuntimeHost env participantId token host = .ok room') :
    ∃ agent, room.participants.get? participantId = some agent ∧
      let moved := { room with runtimeHosts := registerRuntimeHost room.runtimeHosts host.val }
      let transition := transitionAgentVoiceForRuntimeHostUpdate room.agentVoice room.participants
        agent host.val (some host.val.runtimeHostId) (some previous)
      room' = (({ moved with agentVoice := transition.1 }.stageMediaGrantRevocations env
        transition.2).garbageCollectRuntimeHostAuthorization env).touch env agent.id := by
  obtain ⟨⟨agent, hget, hhost⟩, hprevious⟩ := h
  rw [RoomRecord.agentUpdateRuntimeHost, Except.bind_eq_ok] at hupdate
  obtain ⟨found, hfound, hupdate⟩ := hupdate
  have hagent : room.participants.get? participantId = some found := by
    rw [RoomRecord.findAgent] at hfound
    split at hfound
    next => cases hfound
    next participant hparticipant =>
      split at hfound
      next =>
        obtain rfl := Except.ok.inj hfound
        exact (Option.filter_eq_some_iff.mp hparticipant).1
      next => cases hfound
  obtain rfl := Option.some.inj (hget.symm.trans hagent)
  have hid : agent.id = participantId := KeyedMap.key_of_get? hget
  refine ⟨agent, hget, ?_⟩
  -- The Agent refers to the host already, so that the update leaves the participants.
  have hself (hf : ∀ p : RoomParticipant, _) : room.participants.modify agent.id
      (fun p => { p with runtimeHostId := some host.val.runtimeHostId }) hf = room.participants := by
    refine KeyedMap.modify_eq_self hf fun p hp => ?_
    rw [hid, hget] at hp
    obtain rfl := Option.some.inj hp
    rw [← hhost]
  have hprior : (room.participants.get? agent.id).bind (·.runtimeHostId) =
      some host.val.runtimeHostId := by
    rw [hid, hget, Option.bind_some, hhost]
  rw [Except.pure_eq_ok] at hupdate
  simp only [updateRuntimeHost, RoomRecord.updateParticipant, hself, hprior, hprevious] at hupdate
  exact hupdate.symm

variable {host previous : RuntimeHostProjection}

lemma get?_registerRuntimeHost (ready : RuntimeHostSpeech → Bool)
    (hprevious : room.runtimeHosts.get? host.runtimeHostId = some previous)
    (hready : ready host.speech = ready previous.speech) (hostId : String) :
    ((registerRuntimeHost room.runtimeHosts host).get? hostId).map (fun host => ready host.speech) =
      (room.runtimeHosts.get? hostId).map fun host => ready host.speech := by
  rw [registerRuntimeHost, KeyedMap.get?_set, RuntimeHostProjection.key_eq]
  split
  next hid =>
    rw [← hid, hprevious, Option.map_some, Option.map_some, hready]
  next => rfl

variable {participants : Participants}

lemma get?_garbageCollectRuntimeHosts {hosts : RuntimeHostMap}
    {hostId : String} (hmem : participant ∈ participants.values)
    (hid : participant.runtimeHostId = some hostId) :
    (garbageCollectRuntimeHosts hosts participants).get? hostId = hosts.get? hostId := by
  rw [garbageCollectRuntimeHosts, KeyedMap.get?_filter]
  cases hget : hosts.get? hostId with
  | none => rfl
  | some host =>
    have hkey : host.runtimeHostId = hostId := KeyedMap.key_of_get? hget
    have hmember : participant.runtimeHostId = some host.runtimeHostId := hid.trans (congrArg some hkey.symm)
    rw [Option.filter_some, if_pos]
    exact List.any_eq_true.mpr ⟨participant, hmem, decide_eq_true hmember⟩

lemma hostsAgree_garbageCollect (ready : RuntimeHostSpeech → Bool) (room : RoomRecord) :
    HostsAgree ready room { room with
      runtimeHosts := garbageCollectRuntimeHosts room.runtimeHosts room.participants } :=
  fun _ hp _ hid => congrArg _ (get?_garbageCollectRuntimeHosts hp hid)

lemma keepsSpeaking_garbageCollect (env : RoomEnv) (room : RoomRecord) :
    KeepsSpeaking room (room.garbageCollectRuntimeHostAuthorization env) := by
  have hcollected : KeepsSpeaking room { room with
      runtimeHosts := garbageCollectRuntimeHosts room.runtimeHosts room.participants } :=
    ⟨rfl, rfl, hostsAgree_garbageCollect (·.tts) room, fun _ _ h => h, fun _ _ _ => Iff.rfl⟩
  refine hcollected.trans ?_
  rw [RoomRecord.garbageCollectRuntimeHostAuthorization, RoomRecord.normalizeLiveTranscriptForRoom]
  dsimp only
  split
  next => exact (keepsSpeaking_stageLiveTranscript _).of_eq rfl rfl rfl rfl
  next => exact .refl _

/-- Whether the transcript of a Room has a valid producer. -/
def ProducerValid (env : RoomEnv) (room : RoomRecord) : Prop :=
  isLiveTranscriptProducerValid room.liveTranscript room.participants room.runtimeHosts
    env.agentMediaEnabled = true

lemma ProducerValid.of_keepsListening (hvalid : ProducerValid env room)
    (h : KeepsListening room room') : ProducerValid env room' := by
  rw [ProducerValid, h.liveTranscript, isLiveTranscriptProducerValid_congr _ _ h.participants]
  · exact hvalid
  · intro p hp hostId hid
    obtain ⟨before, hbefore, heq⟩ :=
      exists_runtimeHostId_of_view withoutSpeaking (fun _ => rfl) h.participants hp
    have hany := congrArg (fun o : Option Bool => o.any id)
      (h.hosts before hbefore hostId (heq.trans hid))
    rwa [Option.any_map, Option.any_map] at hany

lemma producerValid_of_loadRoom {stored repaired : RoomRecord}
    (h : loadRoom env stored = some (room, repaired)) : ProducerValid env room := by
  obtain ⟨⟨messages, _, rfl⟩, _⟩ := loadRoom_eq_some h
  show isLiveTranscriptProducerValid (normalizeLiveTranscriptProducer _ _ _ _).1 _ _ _ = true
  rw [normalizeLiveTranscriptProducer]
  split
  next hvalid =>
    -- Nothing is staged, so that the participants are the repaired ones without their publications.
    have hstaged : (stagedOnLoad env stored).1 = repairedParticipants stored := by
      have hnone : (normalizeLiveTranscriptProducer (normalizeStoredLiveTranscript
          stored.liveTranscript stored.nextLiveTranscriptEpoch).1 (repairedParticipants stored)
          (sanitizeStoredRuntimeHosts stored.runtimeHosts) env.agentMediaEnabled).2 = false := by
        rw [normalizeLiveTranscriptProducer, if_pos]
        exact hvalid
      simp only [stagedOnLoad]
      rw [if_neg (ne_true_of_eq_false hnone)]
    have hview : listeningView (normalizeRoom env stored).participants =
        listeningView (repairedParticipants stored) := by
      refine KeyedMap.ext ?_
      rw [values_listeningView, values_listeningView, values_normalizeRoom, hstaged, List.map_map]
      exact List.map_congr_left fun p _ => withoutSpeaking_normalizeVoiceMedia _ p
    exact (isLiveTranscriptProducerValid_congr _ _ hview fun _ _ _ _ => rfl).trans hvalid
  next => rfl

lemma keepsListening_collected (room : RoomRecord) : KeepsListening room { room with
    runtimeHosts := garbageCollectRuntimeHosts room.runtimeHosts room.participants } :=
  ⟨rfl, rfl, rfl, hostsAgree_garbageCollect (·.stt) room⟩

lemma garbageCollect_eq (hvalid : ProducerValid env room) :
    room.garbageCollectRuntimeHostAuthorization env = { room with
      runtimeHosts := garbageCollectRuntimeHosts room.runtimeHosts room.participants } := by
  have hcollected := hvalid.of_keepsListening (keepsListening_collected room)
  rw [ProducerValid] at hcollected
  rw [RoomRecord.garbageCollectRuntimeHostAuthorization, RoomRecord.normalizeLiveTranscriptForRoom]
  simp only [normalizeLiveTranscriptProducer]
  rw [if_neg]
  rw [if_pos hcollected]
  exact Bool.false_ne_true

variable {meetingNotes : MeetingNotesState} {pendingMediaCleanup : List PendingMediaCleanup}
  {agentParticipantId : String}

lemma direction_of_transitionMeetingNotesStart {agentMediaEnabled : Bool} {now : ℕ}
    {transition : MeetingNotesState × List AgentMediaRevocationIntent × Bool}
    (h : transitionMeetingNotesStart meetingNotes participants pendingMediaCleanup agentMediaEnabled
      agentParticipantId now = .ok transition) :
    ∀ revocation ∈ transition.2.1, revocation.direction = .subscribed ∧
      meetingNotes.agentParticipantId = some revocation.participantId := by
  intro revocation hmem
  rw [transitionMeetingNotesStart] at h
  split at h
  next => cases h
  next =>
    split at h
    next => cases h
    next agent _ =>
      split_ifs at h
      · obtain rfl := Except.ok.inj h
        exact absurd hmem List.not_mem_nil
      · obtain rfl := Except.ok.inj h
        obtain ⟨id, hid, rfl⟩ := List.mem_map.mp hmem
        have hid := Option.mem_toList.mp (List.mem_filter.mp hid).1
        exact ⟨rfl, (JsString.nonempty?_eq_some_iff.mp hid).1⟩

lemma direction_of_transitionMeetingNotesStop :
    ∀ revocation ∈ (transitionMeetingNotesStop meetingNotes).2, revocation.direction = .subscribed ∧
      meetingNotes.agentParticipantId = some revocation.participantId := by
  intro revocation hmem
  obtain ⟨id, hid, rfl⟩ := List.mem_map.mp hmem
  exact ⟨rfl, (JsString.nonempty?_eq_some_iff.mp (Option.mem_toList.mp hid)).1⟩

variable {agentVoice : AgentVoiceState}

lemma direction_of_agentVoiceStop {runtimeHosts : RuntimeHostMap}
    {agentMediaEnabled : Bool} {now : ℕ}
    {transition : AgentVoiceState × List AgentMediaRevocationIntent}
    (h : transitionAgentVoiceSet agentVoice participants runtimeHosts pendingMediaCleanup
      agentMediaEnabled agentParticipantId false now = .ok transition) :
    ∀ revocation ∈ transition.2, revocation.direction = .published ∧
      revocation.participantId = agentParticipantId := by
  intro revocation hmem
  rw [transitionAgentVoiceSet, if_neg Bool.false_ne_true] at h
  split at h
  next =>
    obtain rfl := Except.ok.inj h
    exact absurd hmem List.not_mem_nil
  next =>
    obtain rfl := Except.ok.inj h
    obtain rfl := List.mem_singleton.mp hmem
    exact ⟨rfl, rfl⟩

lemma direction_of_transitionAgentVoiceForRuntimeHostUpdate (agentVoice : AgentVoiceState)
    (participants : Participants) (agent : RoomParticipant) (host : RuntimeHostProjection)
    (previousHostId : Option String) (previous : Option RuntimeHostProjection) :
    ∀ revocation ∈ (transitionAgentVoiceForRuntimeHostUpdate agentVoice participants agent host
      previousHostId previous).2, revocation.direction = .published := by
  intro revocation hmem
  obtain ⟨_, _, rfl⟩ := List.mem_map.mp hmem
  rfl

lemma runtimeHostId_of_revocation {agent : RoomParticipant}
    (hget : participants.get? agent.id = some agent)
    (hhost : agent.runtimeHostId = some host.runtimeHostId)
    {revocation : AgentMediaRevocationIntent}
    (hmem : revocation ∈ (transitionAgentVoiceForRuntimeHostUpdate agentVoice participants agent host
      (some host.runtimeHostId) (some previous)).2) :
    ∃ p, participants.get? revocation.participantId = some p ∧
      p.runtimeHostId = some host.runtimeHostId := by
  obtain ⟨id, hid, rfl⟩ := List.mem_map.mp hmem
  rw [List.mem_distinct] at hid
  rcases List.mem_append.mp (List.mem_filter.mp hid).1 with hmoved | hsilenced
  · split at hmoved
    next =>
      obtain rfl := List.mem_singleton.mp hmoved
      exact ⟨agent, hget, hhost⟩
    next => exact absurd hmoved List.not_mem_nil
  · split at hsilenced
    next =>
      rw [runtimeHostParticipantIds, List.mem_distinct] at hsilenced
      obtain ⟨p, hp, rfl⟩ := List.mem_map.mp hsilenced
      have hmember := (List.mem_filter.mp hp).2
      rw [Bool.and_eq_true, Bool.or_eq_true, decide_eq_true_iff, decide_eq_true_iff] at hmember
      have hgetp : participants.get? p.id = some p := KeyedMap.get?_key (List.mem_filter.mp hp).1
      refine ⟨p, hgetp, ?_⟩
      rcases hmember.2 with hsame | hself
      · exact hsame
      · rw [decide_eq_true_iff.mp hself, hget] at hgetp
        exact Option.some.inj hgetp ▸ hhost
    next => exact absurd hsilenced List.not_mem_nil

lemma transitionAgentVoiceForRuntimeHostUpdate_eq_self {agent : RoomParticipant}
    (htts : host.speech.tts = previous.speech.tts) :
    transitionAgentVoiceForRuntimeHostUpdate agentVoice participants agent host
      (some host.runtimeHostId) (some previous) = (agentVoice, []) := by
  have hmoved : (nonempty? (some host.runtimeHostId)).any (· ≠ host.runtimeHostId) = false := by
    cases hid : nonempty? (some host.runtimeHostId) with
    | none => rfl
    | some hostId =>
      obtain rfl := Option.some.inj (JsString.nonempty?_eq_some_iff.mp hid).1
      rw [Option.any_some, decide_eq_false_iff_not, not_not]
  have hsilenced : (((some previous).any fun host => host.speech.tts) && !host.speech.tts) =
      false := by
    rw [Option.any_some, htts, Bool.and_not_self]
  simp only [transitionAgentVoiceForRuntimeHostUpdate, hmoved, hsilenced]
  rfl

/-! ### The other direction -/

variable {op : MediaOp}

lemma keepsSpeaking_of_revokesListening (h : RevokesListening room op)
    (happly : op.apply env room = some room') : KeepsSpeaking room room' := by
  cases h with
  | meetingNotesStart =>
    simp only [MediaOp.apply, HumanMediaOp.apply, Option.bind_eq_some_iff, Option.join_eq_some_iff,
      Except.toOption_eq_some, RoomRecord.meetingNotesStart, Except.bind_eq_ok] at happly
    obtain ⟨human, -, transition, htransition, happly⟩ := happly
    split_ifs at happly <;>
      simp only [Except.pure_eq_ok, Option.some.injEq, reduceCtorEq] at happly
    obtain rfl := happly
    -- The only revocation is that of the note-taker that is replaced.
    refine KeepsSpeaking.trans ?_ (keepsSpeaking_stageGrants env _ fun revocation hmem =>
      (direction_of_transitionMeetingNotesStart htransition revocation hmem).1)
    exact (keepsSpeaking_touch env room human.id).of_eq rfl rfl rfl rfl
  | meetingNotesStop =>
    obtain ⟨human, -, ⟨⟩⟩ := Option.bind_eq_some_iff.mp happly
    refine KeepsSpeaking.trans ?_ (keepsSpeaking_stageGrants env _ fun revocation hmem =>
      (direction_of_transitionMeetingNotesStop revocation hmem).1)
    exact (keepsSpeaking_touch env room human.id).of_eq rfl rfl rfl rfl
  | liveTranscriptStop =>
    obtain ⟨human, -, ⟨⟩⟩ := Option.bind_eq_some_iff.mp happly
    exact ((keepsSpeaking_touch env room human.id).trans
      (keepsSpeaking_stageLiveTranscript (room.touch env human.id))).of_eq rfl rfl rfl rfl
  | hostLosesStt hloses =>
    obtain ⟨previous, hreprojects, _, _, htts⟩ := hloses
    rw [MediaOp.apply, Except.toOption_eq_some] at happly
    obtain ⟨agent, _, rfl⟩ := agentUpdateRuntimeHost_eq hreprojects happly
    rw [transitionAgentVoiceForRuntimeHostUpdate_eq_self htts]
    have hreported : KeepsSpeaking room
        { room with runtimeHosts := registerRuntimeHost room.runtimeHosts _ } :=
      ⟨rfl, rfl, fun _ _ hostId _ => get?_registerRuntimeHost (·.tts) hreprojects.2 htts hostId,
        fun _ _ h => h, fun _ _ _ => Iff.rfl⟩
    exact (hreported.trans (keepsSpeaking_garbageCollect env _)).trans (keepsSpeaking_touch env _ _)

lemma keepsListening_of_revokesSpeaking (hvalid : ProducerValid env room)
    (h : RevokesSpeaking room op) (happly : op.apply env room = some room') :
    KeepsListening room room' := by
  cases h with
  | agentVoiceStop =>
    simp only [MediaOp.apply, HumanMediaOp.apply, Option.bind_eq_some_iff, Except.toOption_eq_some,
      RoomRecord.agentVoiceSet, Except.bind_eq_ok, Except.pure_eq_ok] at happly
    obtain ⟨human, -, transition, htransition, rfl⟩ := happly
    have htouched := keepsListening_touch env room human.id
    have hgranted : KeepsListening room
        { room.touch env human.id with agentVoice := transition.1 } :=
      ⟨htouched.participants, rfl, rfl, htouched.hosts⟩
    exact hgranted.trans (keepsListening_stageGrants env _ fun revocation hmem =>
      (direction_of_agentVoiceStop htransition revocation hmem).1)
  | @hostLosesTts participantId token host hloses =>
    obtain ⟨previous, hreprojects, _, _, hstt⟩ := hloses
    rw [MediaOp.apply, Except.toOption_eq_some] at happly
    obtain ⟨agent, _, rfl⟩ := agentUpdateRuntimeHost_eq hreprojects happly
    have hreported (agentVoice : AgentVoiceState) : KeepsListening room
        { room with
          runtimeHosts := registerRuntimeHost room.runtimeHosts host.val
          agentVoice } :=
      ⟨rfl, rfl, rfl, fun _ _ hostId _ => get?_registerRuntimeHost (·.stt) hreprojects.2 hstt hostId⟩
    have hdirections := direction_of_transitionAgentVoiceForRuntimeHostUpdate room.agentVoice
      room.participants agent host.val (some host.val.runtimeHostId) (some previous)
    dsimp only
    generalize transitionAgentVoiceForRuntimeHostUpdate room.agentVoice room.participants agent
      host.val (some host.val.runtimeHostId) (some previous) = transition at hdirections
    have hstaged := (hreported transition.1).trans (keepsListening_stageGrants env _ hdirections)
    rw [garbageCollect_eq (hvalid.of_keepsListening hstaged)]
    exact (hstaged.trans (keepsListening_collected _)).trans (keepsListening_touch env _ _)

/-! ### The other Agents -/

lemma mediaOf_touch (env : RoomEnv) (room : RoomRecord) (participantId id : String) :
    mediaOf (room.touch env participantId) id = mediaOf room id := by
  rw [mediaOf, mediaOf, RoomRecord.touch, RoomRecord.updateParticipant, KeyedMap.get?_modify]
  split
  next =>
    rw [Option.map_map]
    rfl
  next => rfl

lemma mediaOf_stageAgentMediaRevocation {id participantId : String} (hne : participantId ≠ id)
    (room : RoomRecord) (direction : AgentMediaRevocationDirection) :
    mediaOf (room.stageAgentMediaRevocation participantId direction) id = mediaOf room id := by
  rw [RoomRecord.stageAgentMediaRevocation]
  cases hget : room.participants.get? participantId with
  | none => rfl
  | some participant =>
    have hid : participant.id = participantId := KeyedMap.key_of_get? hget
    rw [mediaOf, mediaOf]
    dsimp only
    rw [KeyedMap.get?_set_of_ne]
    rw [RoomParticipant.key_eq, stageAgentMediaRevocation_id, hid]
    exact hne

variable {id : String}

lemma mediaOf_stageGrants (env : RoomEnv) {revocations : List AgentMediaRevocationIntent}
    (h : ∀ revocation ∈ revocations, revocation.participantId ≠ id) (room : RoomRecord) :
    mediaOf (room.stageMediaGrantRevocations env revocations) id = mediaOf room id := by
  induction revocations generalizing room with
  | nil => rfl
  | cons revocation revocations ih =>
    have hne := h revocation List.mem_cons_self
    have hone : mediaOf (room.stageMediaGrantRevocation env revocation) id = mediaOf room id := by
      simp only [RoomRecord.stageMediaGrantRevocation]
      split
      next =>
        split
        next => exact mediaOf_stageAgentMediaRevocation hne room _
        next => rfl
      next => exact mediaOf_stageAgentMediaRevocation hne room _
    exact (ih (fun other hother => h other (List.mem_cons_of_mem _ hother)) _).trans hone

lemma mediaOf_stageLiveTranscript (room : RoomRecord) (h : ∀ p, room.participants.get? id = some p →
      isRevokedProducer room.meetingNotes room.liveTranscript p = false) :
    mediaOf room.stageLiveTranscriptMediaRevocation id = mediaOf room id := by
  have hkey (p : RoomParticipant) :
      (if isRevokedProducer room.meetingNotes room.liveTranscript p then unsubscribed p
        else p).id = p.id := by
    split
    next => exact stageAgentMediaRevocation_id p [] .subscribed
    next => rfl
  have hstaged : room.stageLiveTranscriptMediaRevocation.participants =
      room.participants.map (fun p =>
        if isRevokedProducer room.meetingNotes room.liveTranscript p then unsubscribed p
        else p) hkey := KeyedMap.ext (stageSelected_fst _ _ _)
  rw [mediaOf, mediaOf, hstaged, KeyedMap.get?_map]
  cases hget : room.participants.get? id with
  | none => rfl
  | some p =>
    rw [Option.map_some, if_neg (ne_true_of_eq_false (h p hget))]

lemma mediaOf_garbageCollect (env : RoomEnv) (room : RoomRecord)
    (h : ∀ p, room.participants.get? id = some p →
      isRevokedProducer room.meetingNotes room.liveTranscript p = false) :
    mediaOf (room.garbageCollectRuntimeHostAuthorization env) id = mediaOf room id := by
  rw [RoomRecord.garbageCollectRuntimeHostAuthorization, RoomRecord.normalizeLiveTranscriptForRoom]
  dsimp only
  split
  next => exact mediaOf_stageLiveTranscript { room with
    runtimeHosts := garbageCollectRuntimeHosts room.runtimeHosts room.participants } h
  next => rfl

lemma runtimeHostId_of_isRevokedProducer {hostId : String} {epoch startedAt : ℕ}
    (h : isRevokedProducer meetingNotes (.active hostId epoch startedAt) participant = true) :
    participant.runtimeHostId = some hostId := by
  rw [isRevokedProducer, Bool.and_eq_true, Bool.and_eq_true, decide_eq_true_iff,
    decide_eq_true_iff] at h
  exact h.1.2

section

variable (hvalid : ProducerValid env room)
include hvalid

lemma ProducerValid.registerRuntimeHost {host : RuntimeHostProjection} (hother : ∀ epoch startedAt,
      room.liveTranscript ≠ .active host.runtimeHostId epoch startedAt) : ProducerValid env
      { room with runtimeHosts := registerRuntimeHost room.runtimeHosts host } := by
  rw [ProducerValid] at hvalid
  show isLiveTranscriptProducerValid room.liveTranscript room.participants
    (Free4Chat.registerRuntimeHost room.runtimeHosts host) env.agentMediaEnabled = true
  cases hlive : room.liveTranscript with
  | inactive => rfl
  | active producer epoch startedAt =>
    have hne : host.runtimeHostId ≠ producer := by
      rintro rfl
      exact hother epoch startedAt hlive
    have hget : (Free4Chat.registerRuntimeHost room.runtimeHosts host).get? producer =
        room.runtimeHosts.get? producer := KeyedMap.get?_set_of_ne _ hne
    rw [hlive] at hvalid
    simp only [isLiveTranscriptProducerValid, isLiveTranscriptHostReady, hget] at hvalid ⊢
    exact hvalid

lemma mediaOf_registerRuntimeHost {host : RuntimeHostProjection}
    (hscope : ∀ p, room.participants.get? id = some p →
      p.runtimeHostId ≠ some host.runtimeHostId) : mediaOf ({ room with
      runtimeHosts := registerRuntimeHost room.runtimeHosts host
        }.garbageCollectRuntimeHostAuthorization env) id = mediaOf room id := by
  by_cases hproducer : ∃ epoch startedAt,
      room.liveTranscript = .active host.runtimeHostId epoch startedAt
  · -- The host produces the transcript, so that only its own Agents are revoked.
    obtain ⟨epoch, startedAt, hlive⟩ := hproducer
    refine mediaOf_garbageCollect env _ fun p hp => ?_
    show isRevokedProducer room.meetingNotes room.liveTranscript p = false
    rw [hlive]
    exact eq_false_of_ne_true fun h => hscope p hp (runtimeHostId_of_isRevokedProducer h)
  · have hother := hvalid.registerRuntimeHost fun epoch startedAt hlive =>
      hproducer ⟨epoch, startedAt, hlive⟩
    rw [garbageCollect_eq hother]
    rfl

lemma mediaOf_of_revokesListening
    (h : RevokesListening room op) (happly : op.apply env room = some room')
    (hscope : ¬InScope room op id) : mediaOf room' id = mediaOf room id := by
  cases h with
  | meetingNotesStart =>
    simp only [MediaOp.apply, HumanMediaOp.apply, Option.bind_eq_some_iff, Option.join_eq_some_iff,
      Except.toOption_eq_some, RoomRecord.meetingNotesStart, Except.bind_eq_ok] at happly
    obtain ⟨human, -, transition, htransition, happly⟩ := happly
    split_ifs at happly <;>
      simp only [Except.pure_eq_ok, Option.some.injEq, reduceCtorEq] at happly
    obtain rfl := happly
    rw [mediaOf_stageGrants env fun revocation hmem heq => hscope ?_]
    · exact mediaOf_touch env room human.id id
    · exact heq ▸ (direction_of_transitionMeetingNotesStart htransition revocation hmem).2
  | meetingNotesStop =>
    obtain ⟨human, -, ⟨⟩⟩ := Option.bind_eq_some_iff.mp happly
    rw [RoomRecord.meetingNotesStop, mediaOf_stageGrants env fun revocation hmem heq => hscope ?_]
    · exact mediaOf_touch env room human.id id
    · exact heq ▸ (direction_of_transitionMeetingNotesStop revocation hmem).2
  | liveTranscriptStop =>
    obtain ⟨human, -, ⟨⟩⟩ := Option.bind_eq_some_iff.mp happly
    refine (mediaOf_stageLiveTranscript (room.touch env human.id) fun p hp => ?_).trans
      (mediaOf_touch env room human.id id)
    rw [RoomRecord.touch, RoomRecord.updateParticipant, KeyedMap.get?_modify] at hp
    refine eq_false_of_ne_true fun hproducer => hscope ?_
    split at hp
    next =>
      obtain ⟨before, hbefore, rfl⟩ := Option.map_eq_some_iff.mp hp
      exact ⟨before, hbefore, hproducer⟩
    next => exact ⟨p, hp, hproducer⟩
  | @hostLosesStt participantId token host hloses =>
    obtain ⟨previous, hreprojects, _, _, htts⟩ := hloses
    rw [MediaOp.apply, Except.toOption_eq_some] at happly
    obtain ⟨agent, _, rfl⟩ := agentUpdateRuntimeHost_eq hreprojects happly
    rw [mediaOf_touch, transitionAgentVoiceForRuntimeHostUpdate_eq_self htts]
    show mediaOf (RoomRecord.garbageCollectRuntimeHostAuthorization env
      { room with runtimeHosts := registerRuntimeHost room.runtimeHosts host.val }) id = _
    exact mediaOf_registerRuntimeHost hvalid fun p hp hhost => hscope ⟨p, hp, hhost⟩

lemma mediaOf_of_revokesSpeaking
    (h : RevokesSpeaking room op) (happly : op.apply env room = some room')
    (hscope : ¬InScope room op id) : mediaOf room' id = mediaOf room id := by
  cases h with
  | agentVoiceStop =>
    simp only [MediaOp.apply, HumanMediaOp.apply, Option.bind_eq_some_iff, Except.toOption_eq_some,
      RoomRecord.agentVoiceSet, Except.bind_eq_ok, Except.pure_eq_ok] at happly
    obtain ⟨human, -, transition, htransition, rfl⟩ := happly
    rw [mediaOf_stageGrants env fun revocation hmem heq => hscope ?_]
    · exact mediaOf_touch env room human.id id
    · exact heq.symm.trans (direction_of_agentVoiceStop htransition revocation hmem).2
  | @hostLosesTts participantId token host hloses =>
    obtain ⟨previous, hreprojects, _, _, hstt⟩ := hloses
    rw [MediaOp.apply, Except.toOption_eq_some] at happly
    obtain ⟨agent, hget, rfl⟩ := agentUpdateRuntimeHost_eq hreprojects happly
    obtain ⟨⟨found, hfound, hhost⟩, hprevious⟩ := hreprojects
    obtain rfl := Option.some.inj (hget.symm.trans hfound)
    have hself : room.participants.get? agent.id = some agent :=
      KeyedMap.get?_key (KeyedMap.mem_of_get? hget)
    have hdirections := direction_of_transitionAgentVoiceForRuntimeHostUpdate room.agentVoice
      room.participants agent host.val (some host.val.runtimeHostId) (some previous)
    have hagents : ∀ revocation ∈ (transitionAgentVoiceForRuntimeHostUpdate room.agentVoice
        room.participants agent host.val (some host.val.runtimeHostId) (some previous)).2,
        ∃ p, room.participants.get? revocation.participantId = some p ∧
          p.runtimeHostId = some host.val.runtimeHostId :=
      fun _ => runtimeHostId_of_revocation hself hhost
    dsimp only
    generalize transitionAgentVoiceForRuntimeHostUpdate room.agentVoice room.participants agent
      host.val (some host.val.runtimeHostId) (some previous) = transition at hdirections hagents
    have hreported : KeepsListening room
        { room with
          runtimeHosts := registerRuntimeHost room.runtimeHosts host.val
          agentVoice := transition.1 } :=
      ⟨rfl, rfl, rfl, fun _ _ hostId _ => get?_registerRuntimeHost (·.stt) hprevious hstt hostId⟩
    have hstaged := hreported.trans (keepsListening_stageGrants env _ hdirections)
    rw [mediaOf_touch, garbageCollect_eq (hvalid.of_keepsListening hstaged)]
    refine mediaOf_stageGrants env (fun revocation hmem heq => hscope ?_)
      { room with
        runtimeHosts := registerRuntimeHost room.runtimeHosts host.val
        agentVoice := transition.1 }
    exact heq ▸ hagents revocation hmem

end

/-! ## Independence -/

/-- What a transition on media grants leaves alone: the other direction, now and on every later
load, and the media of the Agents that it does not concern. -/
structure DirectionsIndependent (room : RoomRecord) (op : MediaOp) (room' : RoomRecord) : Prop where
  listening : RevokesListening room op → KeepsSpeaking room room' ∧
    ∀ env : RoomEnv, speakingView (normalizeRoom env room').participants =
        speakingView (normalizeRoom env room).participants ∧
      (normalizeRoom env room').agentVoice = (normalizeRoom env room).agentVoice
  speaking : RevokesSpeaking room op → KeepsListening room room' ∧
    ∀ env : RoomEnv, listeningView (normalizeRoom env room').participants =
        listeningView (normalizeRoom env room).participants ∧
      (normalizeRoom env room').meetingNotes = (normalizeRoom env room).meetingNotes ∧
      (normalizeRoom env room').liveTranscript = (normalizeRoom env room).liveTranscript
  scope : RevokesListening room op ∨ RevokesSpeaking room op → ∀ id, ¬InScope room op id →
    mediaOf room' id = mediaOf room id

/-- In every Room, as an operation loads it, the directions of Agent media are independent, and so
are the Agents out of the scope of a transition. -/
theorem directionsIndependent {stored repaired : RoomRecord} {op : MediaOp}
    (hload : loadRoom env stored = some (room, repaired))
    (happly : op.apply env room = some room') : DirectionsIndependent room op room' := by
  have hvalid := producerValid_of_loadRoom hload
  refine ⟨fun h => ?_, fun h => ?_, ?_⟩
  · have hkeeps := keepsSpeaking_of_revokesListening h happly
    exact ⟨hkeeps, hkeeps.onLoad⟩
  · have hkeeps := keepsListening_of_revokesSpeaking hvalid h happly
    exact ⟨hkeeps, hkeeps.onLoad⟩
  · rintro (h | h) id hscope
    · exact mediaOf_of_revokesListening hvalid h happly hscope
    · exact mediaOf_of_revokesSpeaking hvalid h happly hscope

/-! ### A Room with two Agents -/

/-- An environment in which nothing is over budget. -/
def mediaEnv : RoomEnv where
  now := 1000
  now_pos := Nat.succ_pos 999
  agentMediaEnabled := true
  primaryRoomBytes _ := 0
  storageAccepts := true

/-- A Runtime Host of two Agents. -/
def sharedHost (stt tts : Bool) : ValidRuntimeHost :=
  ⟨{ runtimeHostId := "host-aaaa", speech := { stt, tts } }, by cases stt <;> cases tts <;> decide⟩

/-- An Agent of the host that listens and speaks. -/
def duoAgent (id : String) : RoomParticipant :=
  { id, name := id, kind := .agent, connected := true, joinedAt := 1, lastSeenAt := 1, token := id
    runtimeHostId := some "host-aaaa"
    media := some
      { sessionId := id
        tracks := [{ trackName := id, kind := .audio }]
        agentSubscribedMids := some ["0"]
        agentPublishedMid := some "1" } }

/-- A Room of a Human and two Agents that speak, one of which takes notes. -/
def duoRoom : RoomRecord :=
  { createdAt := 1
    expiresAt := NO_EXPIRY
    participants := ((KeyedMap.empty.set
      ({ id := "ann", name := "ann", kind := .human, connected := true, joinedAt := 1
         lastSeenAt := 1, token := "ann", media := some { sessionId := "ann" } } :
          RoomParticipant)).set (duoAgent "bot")).set (duoAgent "cat")
    runtimeHosts := KeyedMap.empty.set (sharedHost true true).val
    meetingNotes := { active := true, agentParticipantId := some "cat", startedAt := some 1 }
    agentVoice := (KeyedMap.empty.set ("bot", { enabledAt := 1 })).set ("cat", { enabledAt := 1 }) }

/-- The host loses its synthesis. -/
theorem directionsIndependent_duoRoom :
    ∃ room', (MediaOp.updateRuntimeHost "bot" "bot" (sharedHost true false)).apply mediaEnv duoRoom =
        some room' ∧
      DirectionsIndependent duoRoom (.updateRuntimeHost "bot" "bot" (sharedHost true false))
        room' := by
  have hload : loadRoom mediaEnv duoRoom = some (duoRoom, duoRoom) := by decide +kernel
  have happly : ((MediaOp.updateRuntimeHost "bot" "bot" (sharedHost true false)).apply mediaEnv
      duoRoom).isSome = true := by decide +kernel
  obtain ⟨room', happly⟩ := Option.isSome_iff_exists.mp happly
  exact ⟨room', happly, directionsIndependent hload happly⟩

/-- A transition on behalf of one Agent changes the media of another: the note-taker that it
replaces, and the Agents that share its host. -/
theorem mediaOf_ne_duoRoom :
    loadRoom mediaEnv duoRoom = some (duoRoom, duoRoom) ∧
      (((MediaOp.human "ann" "ann" (.meetingNotesStart "bot")).apply mediaEnv duoRoom).any
        fun room' => mediaOf room' "cat" ≠ mediaOf duoRoom "cat") = true ∧
      (((MediaOp.updateRuntimeHost "bot" "bot" (sharedHost true false)).apply mediaEnv duoRoom).any
        fun room' => mediaOf room' "cat" ≠ mediaOf duoRoom "cat") = true := by
  decide +kernel

end Free4Chat
