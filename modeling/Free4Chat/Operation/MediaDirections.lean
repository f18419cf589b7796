import Free4Chat.Room.MediaCleanup
import Free4Chat.Room.MessageLog

/-!
# The Directions of Agent Media

An Agent listens through its subscriptions to Human audio and speaks through its published track.
Both directions share one media session, one queue of pending closes, and the repair that runs on
every load.

* `speakingView` and `listeningView`: the participants without the other direction.
* `KeepsSpeaking` and `KeepsListening`: an update leaves one direction of every Agent alone.
* `keepsSpeaking_stage` and `keepsListening_stage`: staging the handles of the other direction.
* `KeepsSpeaking.onLoad` and `KeepsListening.onLoad`: a direction that is kept is repaired alike.
-/

namespace Free4Chat

open JsString (nonempty?)

/-! ## Views -/

/-- A participant without the direction in which it listens, and without the time it was seen. -/
def withoutListening (participant : RoomParticipant) : RoomParticipant :=
  { participant with
    lastSeenAt := 0
    media := participant.media.map fun media => { media with agentSubscribedMids := none } }

/-- Media without the direction in which an Agent speaks. -/
def silencedMedia (media : RoomMediaState) : RoomMediaState :=
  { media with
    tracks := []
    agentPublishedMid := none
    agentPublishedTrackName := none
    agentVoiceReady := none }

/-- A participant without the direction in which it speaks, and without the time it was seen. -/
def withoutSpeaking (participant : RoomParticipant) : RoomParticipant :=
  { participant with
    lastSeenAt := 0
    media := participant.media.map silencedMedia }

/-- The participants as far as they do not listen. -/
def speakingView (participants : Participants) : Participants :=
  participants.map withoutListening fun _ => rfl

/-- The participants as far as they do not speak. -/
def listeningView (participants : Participants) : Participants :=
  participants.map withoutSpeaking fun _ => rfl

@[simp]
lemma values_speakingView (participants : Participants) :
    (speakingView participants).values = participants.values.map withoutListening := rfl

@[simp]
lemma values_listeningView (participants : Participants) :
    (listeningView participants).values = participants.values.map withoutSpeaking := rfl

/-! ## Staging one direction -/

variable {participant : RoomParticipant} {pending : List PendingMediaCleanup}

lemma withoutListening_stage (participant : RoomParticipant) (pending : List PendingMediaCleanup) :
    withoutListening (stageAgentMediaRevocation participant pending .subscribed).1 =
      withoutListening participant := by
  rw [stageAgentMediaRevocation]
  cases hmedia : participant.media with
  | none => rfl
  | some media =>
    dsimp only
    split
    next => rfl
    next =>
      rw [withoutListening, withoutListening, hmedia]
      rfl

lemma withoutSpeaking_stage (participant : RoomParticipant) (pending : List PendingMediaCleanup) :
    withoutSpeaking (stageAgentMediaRevocation participant pending .published).1 =
      withoutSpeaking participant := by
  rw [stageAgentMediaRevocation]
  cases hmedia : participant.media with
  | none => rfl
  | some media =>
    dsimp only
    split
    next => rfl
    next =>
      rw [withoutSpeaking, withoutSpeaking, hmedia]
      rfl

/-- A participant is an Agent that holds a subscription handle on a session. -/
def Holds (participant : RoomParticipant) (sessionId mid : String) : Prop :=
  participant.kind = .agent ∧ ∃ media, participant.media = some media ∧
    media.sessionId = sessionId ∧ mid ∈ media.agentSubscribedMids.getD []

variable {sessionId mid : String}

lemma mem_cleanupPairs_stage (h : ¬Holds participant sessionId mid) : (sessionId, mid) ∈
        cleanupPairs (stageAgentMediaRevocation participant pending .subscribed).2 ↔
      (sessionId, mid) ∈ cleanupPairs pending := by
  rw [stageAgentMediaRevocation]
  cases hmedia : participant.media with
  | none => exact Iff.rfl
  | some media =>
    dsimp only
    split
    next => exact Iff.rfl
    next hstaged =>
      rw [Bool.or_eq_true, not_or, decide_eq_true_iff, not_not] at hstaged
      have hmids : revocableMids media .subscribed = media.agentSubscribedMids.getD [] := by
        show media.agentSubscribedMids.getD [] ++ [] = _
        exact List.append_nil _
      rw [mem_cleanupPairs_queuePendingCleanup, hmids]
      refine or_iff_left fun hqueued => h ⟨hstaged.1, media, hmedia, hqueued.1.symm, hqueued.2⟩

lemma map_withoutListening_stageSelected (select : RoomParticipant → Bool)
    (participants : List RoomParticipant) (pending : List PendingMediaCleanup) :
    (stageSelected select .subscribed participants pending).1.map withoutListening =
      participants.map withoutListening := by
  induction participants generalizing pending with
  | nil => rfl
  | cons participant participants ih =>
    rw [stageSelected, List.map_cons, List.map_cons, ih]
    split
    next => rw [withoutListening_stage]
    next => rfl

lemma mem_cleanupPairs_stageSelected (select : RoomParticipant → Bool)
    {participants : List RoomParticipant}
    (h : ∀ participant ∈ participants, ¬Holds participant sessionId mid) : (sessionId, mid) ∈
        cleanupPairs (stageSelected select .subscribed participants pending).2 ↔
      (sessionId, mid) ∈ cleanupPairs pending := by
  induction participants generalizing pending with
  | nil => exact Iff.rfl
  | cons participant participants ih =>
    rw [stageSelected]
    refine (ih fun other hother => h other (List.mem_cons_of_mem _ hother)).trans ?_
    split
    next => exact mem_cleanupPairs_stage (h participant List.mem_cons_self)
    next => exact Iff.rfl

lemma Holds.of_stage
    (h : Holds (stageAgentMediaRevocation participant pending .subscribed).1 sessionId mid) :
    Holds participant sessionId mid := by
  rw [stageAgentMediaRevocation] at h
  split at h
  next => exact h
  next media hmedia =>
    split at h
    next => exact h
    next =>
      obtain ⟨hkind, staged, hstaged, _, hmid⟩ := h
      obtain rfl := Option.some.inj hstaged
      exact absurd hmid List.not_mem_nil

lemma Holds.of_stageSelected {select : RoomParticipant → Bool} {participants : List RoomParticipant}
    (hmem : participant ∈ (stageSelected select .subscribed participants pending).1)
    (h : Holds participant sessionId mid) :
    ∃ before ∈ participants, Holds before sessionId mid := by
  induction participants generalizing pending with
  | nil => exact absurd hmem List.not_mem_nil
  | cons first participants ih =>
    rw [stageSelected] at hmem
    rcases List.mem_cons.mp hmem with rfl | hmem
    · refine ⟨first, List.mem_cons_self, ?_⟩
      split at h
      next => exact h.of_stage
      next => exact h
    · obtain ⟨before, hbefore, hholds⟩ := ih hmem
      exact ⟨before, List.mem_cons_of_mem _ hbefore, hholds⟩

/-! ## What a revocation keeps -/

/-- The same Runtime Hosts are known to the participants, with the same readiness in a respect. -/
def HostsAgree (ready : RuntimeHostSpeech → Bool) (room room' : RoomRecord) : Prop :=
  ∀ participant ∈ room.participants.values, ∀ hostId, participant.runtimeHostId = some hostId →
    (room'.runtimeHosts.get? hostId).map (fun host => ready host.speech) =
      (room.runtimeHosts.get? hostId).map fun host => ready host.speech

/-- The speaking direction of every Agent is as it was: its publication, its grant and the closes of
published tracks. Subscription handles are only given up. -/
structure KeepsSpeaking (room room' : RoomRecord) : Prop where
  participants : speakingView room'.participants = speakingView room.participants
  agentVoice : room'.agentVoice = room.agentVoice
  hosts : HostsAgree (·.tts) room room'
  holds : ∀ sessionId mid, (∀ p ∈ room.participants.values, ¬Holds p sessionId mid) →
    ∀ p ∈ room'.participants.values, ¬Holds p sessionId mid
  publishedCleanup : ∀ sessionId mid, (∀ p ∈ room.participants.values, ¬Holds p sessionId mid) →
    ((sessionId, mid) ∈ cleanupPairs room'.pendingMediaCleanup ↔
      (sessionId, mid) ∈ cleanupPairs room.pendingMediaCleanup)

/-- The listening direction of every Agent is as it was: its subscriptions and the grants for
them. -/
structure KeepsListening (room room' : RoomRecord) : Prop where
  participants : listeningView room'.participants = listeningView room.participants
  meetingNotes : room'.meetingNotes = room.meetingNotes
  liveTranscript : room'.liveTranscript = room.liveTranscript
  hosts : HostsAgree (·.stt) room room'

variable {env : RoomEnv} {room room' room'' : RoomRecord}
  {participants participants' : Participants}

lemma exists_runtimeHostId_of_view (view : RoomParticipant → RoomParticipant)
    {hview : ∀ p : RoomParticipant, Keyed.key (view p) = Keyed.key p}
    (hhost : ∀ p, (view p).runtimeHostId = p.runtimeHostId)
    (h : participants'.map view hview = participants.map view hview)
    (hmem : participant ∈ participants'.values) :
    ∃ before ∈ participants.values, before.runtimeHostId = participant.runtimeHostId := by
  have hmap : view participant ∈ (participants'.map view hview).values :=
    List.mem_map_of_mem hmem
  rw [h] at hmap
  obtain ⟨before, hbefore, heq⟩ := List.mem_map.mp hmap
  refine ⟨before, hbefore, ?_⟩
  rw [← hhost before, heq, hhost participant]

lemma HostsAgree.trans {ready : RuntimeHostSpeech → Bool} (h : HostsAgree ready room room')
    (h' : HostsAgree ready room' room'')
    (hrefs : ∀ p ∈ room.participants.values, ∃ p' ∈ room'.participants.values,
      p'.runtimeHostId = p.runtimeHostId) : HostsAgree ready room room'' := by
  intro p hp hostId hid
  obtain ⟨p', hp', heq⟩ := hrefs p hp
  exact (h' p' hp' hostId (heq.trans hid)).trans (h p hp hostId hid)

lemma KeepsSpeaking.refl (room : RoomRecord) : KeepsSpeaking room room :=
  ⟨rfl, rfl, fun _ _ _ _ => rfl, fun _ _ h => h, fun _ _ _ => Iff.rfl⟩

lemma KeepsSpeaking.trans (h : KeepsSpeaking room room') (h' : KeepsSpeaking room' room'') :
    KeepsSpeaking room room'' where
  participants := h'.participants.trans h.participants
  agentVoice := h'.agentVoice.trans h.agentVoice
  hosts := h.hosts.trans h'.hosts fun _ hp =>
    exists_runtimeHostId_of_view withoutListening (fun _ => rfl) h.participants.symm hp
  holds sessionId mid hnone := h'.holds sessionId mid (h.holds sessionId mid hnone)
  publishedCleanup sessionId mid hnone :=
    (h'.publishedCleanup sessionId mid (h.holds sessionId mid hnone)).trans
      (h.publishedCleanup sessionId mid hnone)

lemma KeepsSpeaking.of_eq (h : KeepsSpeaking room room')
    (hparticipants : room''.participants = room'.participants)
    (hvoice : room''.agentVoice = room'.agentVoice)
    (hhosts : room''.runtimeHosts = room'.runtimeHosts)
    (hpending : room''.pendingMediaCleanup = room'.pendingMediaCleanup) :
    KeepsSpeaking room room'' where
  participants := hparticipants ▸ h.participants
  agentVoice := hvoice.trans h.agentVoice
  hosts := by
    rw [HostsAgree, hhosts]
    exact h.hosts
  holds sessionId mid hnone := hparticipants ▸ h.holds sessionId mid hnone
  publishedCleanup sessionId mid hnone := hpending ▸ h.publishedCleanup sessionId mid hnone

lemma KeepsListening.refl (room : RoomRecord) : KeepsListening room room :=
  ⟨rfl, rfl, rfl, fun _ _ _ _ => rfl⟩

lemma KeepsListening.trans (h : KeepsListening room room') (h' : KeepsListening room' room'') :
    KeepsListening room room'' where
  participants := h'.participants.trans h.participants
  meetingNotes := h'.meetingNotes.trans h.meetingNotes
  liveTranscript := h'.liveTranscript.trans h.liveTranscript
  hosts := h.hosts.trans h'.hosts fun _ hp =>
    exists_runtimeHostId_of_view withoutSpeaking (fun _ => rfl) h.participants.symm hp

/-! ## Staging in a Room -/

lemma keepsSpeaking_updateParticipant (room : RoomRecord) (participantId : String)
    {f : RoomParticipant → RoomParticipant} (hf : ∀ p, (f p).id = p.id)
    (hview : ∀ p, room.participants.get? participantId = some p →
      withoutListening (f p) = withoutListening p)
    (hholds : ∀ p sessionId mid, Holds (f p) sessionId mid → Holds p sessionId mid) :
    KeepsSpeaking room (room.updateParticipant participantId f hf) where
  participants := by
    show (room.participants.modify participantId f hf).map withoutListening _ = _
    exact KeyedMap.map_modify_eq hview
  agentVoice := rfl
  hosts _ _ _ _ := rfl
  holds sessionId mid hnone p hp h := by
    rw [RoomRecord.updateParticipant, KeyedMap.mem_modify] at hp
    rcases hp with ⟨before, hbefore, _, rfl⟩ | ⟨hbefore, _⟩
    · exact hnone before hbefore (hholds before sessionId mid h)
    · exact hnone p hbefore h
  publishedCleanup _ _ _ := Iff.rfl

lemma keepsListening_updateParticipant (room : RoomRecord) (participantId : String)
    {f : RoomParticipant → RoomParticipant} (hf : ∀ p, (f p).id = p.id)
    (hview : ∀ p, room.participants.get? participantId = some p →
      withoutSpeaking (f p) = withoutSpeaking p) :
    KeepsListening room (room.updateParticipant participantId f hf) where
  participants := by
    show (room.participants.modify participantId f hf).map withoutSpeaking _ = _
    exact KeyedMap.map_modify_eq hview
  meetingNotes := rfl
  liveTranscript := rfl
  hosts _ _ _ _ := rfl

lemma keepsSpeaking_touch (env : RoomEnv) (room : RoomRecord) (participantId : String) :
    KeepsSpeaking room (room.touch env participantId) :=
  keepsSpeaking_updateParticipant room participantId _ (fun _ _ => rfl) fun _ _ _ h => h

lemma keepsListening_touch (env : RoomEnv) (room : RoomRecord) (participantId : String) :
    KeepsListening room (room.touch env participantId) :=
  keepsListening_updateParticipant room participantId _ fun _ _ => rfl

lemma keepsSpeaking_stage (room : RoomRecord) (participantId : String) :
    KeepsSpeaking room (room.stageAgentMediaRevocation participantId .subscribed) := by
  rw [RoomRecord.stageAgentMediaRevocation]
  cases hget : room.participants.get? participantId with
  | none => exact .refl room
  | some participant =>
    have hmem := KeyedMap.mem_of_get? hget
    have hkey : room.participants.get? (Keyed.key (stageAgentMediaRevocation participant
        room.pendingMediaCleanup .subscribed).1) = some participant := by
      rw [RoomParticipant.key_eq, stageAgentMediaRevocation_id]
      exact KeyedMap.get?_key hmem
    refine ⟨KeyedMap.map_set_eq hkey (withoutListening_stage _ _), rfl, fun _ _ _ _ => rfl, ?_,
      fun sessionId mid hnone => mem_cleanupPairs_stage (hnone participant hmem)⟩
    intro sessionId mid hnone p hp hholds
    rcases KeyedMap.mem_set.mp hp with rfl | ⟨hp, _⟩
    · exact hnone participant hmem hholds.of_stage
    · exact hnone p hp hholds

lemma keepsListening_stage (room : RoomRecord) (participantId : String) :
    KeepsListening room (room.stageAgentMediaRevocation participantId .published) := by
  rw [RoomRecord.stageAgentMediaRevocation]
  cases hget : room.participants.get? participantId with
  | none => exact .refl room
  | some participant =>
    have hkey : room.participants.get? (Keyed.key (stageAgentMediaRevocation participant
        room.pendingMediaCleanup .published).1) = some participant := by
      rw [RoomParticipant.key_eq, stageAgentMediaRevocation_id]
      exact KeyedMap.get?_key (KeyedMap.mem_of_get? hget)
    exact ⟨KeyedMap.map_set_eq hkey (withoutSpeaking_stage _ _), rfl, rfl, fun _ _ _ _ => rfl⟩

lemma keepsSpeaking_stageLiveTranscript (room : RoomRecord) :
    KeepsSpeaking room room.stageLiveTranscriptMediaRevocation where
  participants := KeyedMap.ext (map_withoutListening_stageSelected _ _ _)
  agentVoice := rfl
  hosts _ _ _ _ := rfl
  holds sessionId mid hnone p hp hholds := by
    obtain ⟨before, hbefore, hheld⟩ := hholds.of_stageSelected hp
    exact hnone before hbefore hheld
  publishedCleanup _ _ hnone := mem_cleanupPairs_stageSelected _ hnone

lemma keepsSpeaking_stageGrants (env : RoomEnv) (room : RoomRecord)
    {revocations : List AgentMediaRevocationIntent}
    (h : ∀ revocation ∈ revocations, revocation.direction = .subscribed) :
    KeepsSpeaking room (room.stageMediaGrantRevocations env revocations) := by
  induction revocations generalizing room with
  | nil => exact .refl room
  | cons revocation revocations ih =>
    have hrest := fun other hother => h other (List.mem_cons_of_mem _ hother)
    have hone : KeepsSpeaking room (room.stageMediaGrantRevocation env revocation) := by
      have hdirection := h revocation List.mem_cons_self
      rw [RoomRecord.stageMediaGrantRevocation, hdirection]
      split
      next => exact .refl room
      next => exact keepsSpeaking_stage room _
    exact hone.trans (ih _ hrest)

lemma keepsListening_stageGrants (env : RoomEnv) (room : RoomRecord)
    {revocations : List AgentMediaRevocationIntent}
    (h : ∀ revocation ∈ revocations, revocation.direction = .published) :
    KeepsListening room (room.stageMediaGrantRevocations env revocations) := by
  induction revocations generalizing room with
  | nil => exact .refl room
  | cons revocation revocations ih =>
    have hrest := fun other hother => h other (List.mem_cons_of_mem _ hother)
    have hone : KeepsListening room (room.stageMediaGrantRevocation env revocation) := by
      have hdirection := h revocation List.mem_cons_self
      rw [RoomRecord.stageMediaGrantRevocation, hdirection]
      exact keepsListening_stage room _
    exact hone.trans (ih _ hrest)

/-! ## Loading -/

lemma withoutListening_normalizeParticipant (participant : RoomParticipant) :
    withoutListening (normalizeParticipant participant) =
      normalizeParticipant (withoutListening participant) := by
  have hmedia (media : RoomMediaState) :
      ({ normalizeSubscribedMids media with agentSubscribedMids := none } : RoomMediaState) =
        normalizeSubscribedMids { media with agentSubscribedMids := none } := by
    rw [normalizeSubscribedMids]
    split
    next => rfl
    next => split <;> rfl
  by_cases hkind : participant.kind = .agent
  · have hview : (withoutListening participant).kind = .agent := hkind
    rw [normalizeParticipant, if_pos hkind, normalizeParticipant, if_pos hview]
    simp only [withoutListening, Option.map_map, Function.comp_def, hmedia]
  · have hview : (withoutListening participant).kind ≠ .agent := hkind
    rw [normalizeParticipant, if_neg hkind, normalizeParticipant, if_neg hview]

lemma withoutListening_dropDanglingHost (runtimeHosts : RuntimeHostMap)
    (participant : RoomParticipant) : withoutListening (dropDanglingHost runtimeHosts participant) =
      dropDanglingHost runtimeHosts (withoutListening participant) := by
  have hview : hasDanglingHost runtimeHosts (withoutListening participant) =
      hasDanglingHost runtimeHosts participant := rfl
  rw [dropDanglingHost, dropDanglingHost, hview]
  split <;> rfl

lemma withoutListening_normalizeVoiceMedia (agentVoice : AgentVoiceState)
    (participant : RoomParticipant) :
    withoutListening (normalizeVoiceMedia agentVoice participant) =
      normalizeVoiceMedia agentVoice (withoutListening participant) := by
  have hmedia (media : RoomMediaState) (id : String) :
      ({ (normalizeAgentVoiceParticipantMedia media agentVoice id).1 with
          agentSubscribedMids := none } : RoomMediaState) =
        (normalizeAgentVoiceParticipantMedia { media with agentSubscribedMids := none } agentVoice
          id).1 := by
    have hshape : isVoicePublication { media with agentSubscribedMids := none } =
        isVoicePublication media := rfl
    rw [normalizeAgentVoiceParticipantMedia, normalizeAgentVoiceParticipantMedia, hshape]
    split
    next => rfl
    next => split <;> rfl
  by_cases hkind : participant.kind = .agent
  · have hview : (withoutListening participant).kind = .agent := hkind
    rw [normalizeVoiceMedia, if_pos hkind, normalizeVoiceMedia, if_pos hview]
    simp only [withoutListening, Option.map_map, Function.comp_def, hmedia]
  · have hview : (withoutListening participant).kind ≠ .agent := hkind
    rw [normalizeVoiceMedia, if_neg hkind, normalizeVoiceMedia, if_neg hview]

lemma key_normalizeParticipant (participant : RoomParticipant) :
    Keyed.key (normalizeParticipant participant) = Keyed.key participant := by
  simp only [normalizeParticipant, RoomParticipant.key_eq]
  split <;> rfl

lemma key_dropDanglingHost (stored : RoomRecord) (participant : RoomParticipant) :
    Keyed.key (dropDanglingHost (sanitizeStoredRuntimeHosts stored.runtimeHosts) participant) =
      Keyed.key participant := by
  simp only [dropDanglingHost, RoomParticipant.key_eq]
  split <;> rfl

/-- The participants of a load before the grants are applied. -/
def repairedParticipants (stored : RoomRecord) : Participants :=
  (stored.participants.map normalizeParticipant key_normalizeParticipant).map
    (dropDanglingHost (sanitizeStoredRuntimeHosts stored.runtimeHosts))
    (key_dropDanglingHost stored)

/-- The participants and the queue of a load after the subscriptions of a transcript that it stops
are staged. -/
def stagedOnLoad (env : RoomEnv) (stored : RoomRecord) :
    Participants × List PendingMediaCleanup :=
  let storedTranscript := (normalizeStoredLiveTranscript stored.liveTranscript
    stored.nextLiveTranscriptEpoch).1
  let pending :=
    if validPendingMediaCleanup stored.pendingMediaCleanup then stored.pendingMediaCleanup
    else []
  if (normalizeLiveTranscriptProducer storedTranscript (repairedParticipants stored)
      (sanitizeStoredRuntimeHosts stored.runtimeHosts) env.agentMediaEnabled).2 then
    stageParticipants (isRevokedProducer
        (normalizeMeetingNotesGrant stored.meetingNotes (repairedParticipants stored)).1
        storedTranscript) .subscribed (repairedParticipants stored) pending
  else (repairedParticipants stored, pending)

lemma values_normalizeRoom (env : RoomEnv) (stored : RoomRecord) :
    (normalizeRoom env stored).participants.values =
      (stagedOnLoad env stored).1.values.map
        (normalizeVoiceMedia (normalizeRoom env stored).agentVoice) := rfl

lemma agentVoice_normalizeRoom (env : RoomEnv) (stored : RoomRecord) :
    (normalizeRoom env stored).agentVoice = stored.agentVoice.filter
      (isValidVoiceGrant (repairedParticipants stored)
        (sanitizeStoredRuntimeHosts stored.runtimeHosts)) := rfl

lemma map_withoutListening_stagedOnLoad (env : RoomEnv) (stored : RoomRecord) :
    (stagedOnLoad env stored).1.values.map withoutListening =
      (repairedParticipants stored).values.map withoutListening := by
  simp only [stagedOnLoad]
  split
  next => exact map_withoutListening_stageSelected _ _ _
  next => rfl

variable {hosts hosts' : RuntimeHostMap} {hostId : String}

lemma map_get?_sanitize (ready : RuntimeHostSpeech → Bool)
    (h : (hosts'.get? hostId).map (fun host => ready host.speech) =
      (hosts.get? hostId).map fun host => ready host.speech) :
    ((sanitizeStoredRuntimeHosts hosts').get? hostId).map (fun host => ready host.speech) =
      ((sanitizeStoredRuntimeHosts hosts).get? hostId).map fun host => ready host.speech := by
  have hsanitize (hosts : RuntimeHostMap) :
      (sanitizeStoredRuntimeHosts hosts).get? hostId =
        if isValidRuntimeHostId hostId then hosts.get? hostId else none := by
    rw [sanitizeStoredRuntimeHosts, KeyedMap.get?_filter]
    cases hget : hosts.get? hostId with
    | none => simp
    | some host =>
      have hid : host.runtimeHostId = hostId := KeyedMap.key_of_get? hget
      simp [Option.filter, hid]
  rw [hsanitize, hsanitize]
  split
  next => exact h
  next => rfl

lemma dropDanglingHost_congr (ready : RuntimeHostSpeech → Bool)
    (h : ∀ hostId, participant.runtimeHostId = some hostId →
      (hosts'.get? hostId).map (fun host => ready host.speech) =
        (hosts.get? hostId).map fun host => ready host.speech) :
    dropDanglingHost hosts' participant = dropDanglingHost hosts participant := by
  have hdangling : hasDanglingHost hosts' participant = hasDanglingHost hosts participant := by
    rw [hasDanglingHost, hasDanglingHost]
    cases hid : participant.runtimeHostId with
    | none => rfl
    | some hostId =>
      have hsome := congrArg Option.isSome (h hostId hid)
      rw [Option.isSome_map, Option.isSome_map] at hsome
      show (!isValidRuntimeHostId hostId || !(hosts'.get? hostId).isSome) = _
      rw [hsome]
      rfl
  rw [dropDanglingHost, dropDanglingHost, hdangling]

lemma any_get?_of_view {view : RoomParticipant → RoomParticipant}
    {hview : ∀ p : RoomParticipant, Keyed.key (view p) = Keyed.key p}
    (h : participants'.map view hview = participants.map view hview)
    (q q' : RoomParticipant → Bool) (hq : ∀ p ∈ participants'.values, q' p = q (view p)) (hq' : ∀ p, q p = q (view p)) (id : String) :
    (participants'.get? id).any q' = (participants.get? id).any q := by
  have hget : (participants'.get? id).map view = (participants.get? id).map view := by
    rw [← KeyedMap.get?_map participants' view hview, ← KeyedMap.get?_map participants view hview, h]
  cases hp' : participants'.get? id with
  | none =>
    rw [hp', Option.map_none, eq_comm, Option.map_eq_none_iff] at hget
    rw [hget]
    rfl
  | some p' =>
    rw [hp', Option.map_some, eq_comm, Option.map_eq_some_iff] at hget
    obtain ⟨p, hp, heq⟩ := hget
    rw [hp, Option.any_some, Option.any_some, hq p' (KeyedMap.mem_of_get? hp'), hq' p, heq]

lemma runtimeHostId_of_repaired {stored : RoomRecord}
    (hmem : participant ∈ (repairedParticipants stored).values)
    (hid : participant.runtimeHostId = some hostId) :
    ∃ before ∈ stored.participants.values, before.runtimeHostId = some hostId := by
  rw [repairedParticipants, KeyedMap.values_map, KeyedMap.values_map, List.map_map] at hmem
  obtain ⟨before, hbefore, rfl⟩ := List.mem_map.mp hmem
  refine ⟨before, hbefore, ?_⟩
  have hnormalized : (normalizeParticipant before).runtimeHostId = before.runtimeHostId := by
    rw [normalizeParticipant]
    split <;> rfl
  rw [Function.comp_apply, dropDanglingHost] at hid
  split at hid
  next => exact absurd hid.symm (Option.some_ne_none hostId)
  next => exact hnormalized.symm.trans hid

lemma map_repairedParticipants (ready : RuntimeHostSpeech → Bool)
    {view : RoomParticipant → RoomParticipant}
    (hhost : ∀ p, (view p).runtimeHostId = p.runtimeHostId)
    (hnormalize : ∀ p, view (normalizeParticipant p) = normalizeParticipant (view p))
    (hdrop : ∀ hosts p, view (dropDanglingHost hosts p) = dropDanglingHost hosts (view p))
    (hsame : room'.participants.values.map view = room.participants.values.map view)
    (hhosts : HostsAgree ready room room') :
    (repairedParticipants room').values.map view = (repairedParticipants room).values.map view := by
  have hrepaired (stored : RoomRecord) : (repairedParticipants stored).values.map view =
      (stored.participants.values.map view).map fun p =>
        dropDanglingHost (sanitizeStoredRuntimeHosts stored.runtimeHosts)
          (normalizeParticipant p) := by
    rw [repairedParticipants, KeyedMap.values_map, KeyedMap.values_map, List.map_map, List.map_map,
      List.map_map]
    refine List.map_congr_left fun p _ => ?_
    rw [Function.comp_apply, Function.comp_apply, Function.comp_apply, hdrop, hnormalize]
  rw [hrepaired, hrepaired, hsame]
  refine List.map_congr_left fun p hp => dropDanglingHost_congr ready fun hostId hid => ?_
  obtain ⟨before, hbefore, rfl⟩ := List.mem_map.mp hp
  have hnormalized : (normalizeParticipant (view before)).runtimeHostId =
      before.runtimeHostId := by
    rw [← hhost before, normalizeParticipant]
    split <;> rfl
  exact map_get?_sanitize ready (hhosts before hbefore hostId (hnormalized.symm.trans hid))

lemma any_get?_sanitize_of_repaired {ready : RuntimeHostSpeech → Bool}
    (hhosts : HostsAgree ready room room')
    (hrefs : ∀ p ∈ room'.participants.values, ∃ before ∈ room.participants.values,
      before.runtimeHostId = p.runtimeHostId)
    (hmem : participant ∈ (repairedParticipants room').values)
    (hid : participant.runtimeHostId = some hostId) :
    ((sanitizeStoredRuntimeHosts room'.runtimeHosts).get? hostId).any (ready ·.speech) =
      ((sanitizeStoredRuntimeHosts room.runtimeHosts).get? hostId).any (ready ·.speech) := by
  obtain ⟨p, hp, hpid⟩ := runtimeHostId_of_repaired hmem hid
  obtain ⟨before, hbefore, heq⟩ := hrefs p hp
  have hagree := map_get?_sanitize ready (hhosts before hbefore hostId (heq.trans hpid))
  have hany := congrArg (fun o : Option Bool => o.any id) hagree
  rwa [Option.any_map, Option.any_map] at hany

lemma KeepsSpeaking.onLoad (h : KeepsSpeaking room room') (env : RoomEnv) :
    speakingView (normalizeRoom env room').participants =
        speakingView (normalizeRoom env room).participants ∧
      (normalizeRoom env room').agentVoice = (normalizeRoom env room).agentVoice := by
  have hsame := congrArg KeyedMap.values h.participants
  have hrefs := fun p (hp : p ∈ room'.participants.values) =>
    exists_runtimeHostId_of_view withoutListening (fun _ => rfl) h.participants hp
  have hrepaired : speakingView (repairedParticipants room') =
      speakingView (repairedParticipants room) :=
    KeyedMap.ext (map_repairedParticipants (·.tts) (fun _ => rfl)
      withoutListening_normalizeParticipant withoutListening_dropDanglingHost hsame h.hosts)
  have hvoice : (normalizeRoom env room').agentVoice = (normalizeRoom env room).agentVoice := by
    rw [agentVoice_normalizeRoom, agentVoice_normalizeRoom, h.agentVoice]
    congr 1
    funext entry
    rw [isValidVoiceGrant, isValidVoiceGrant]
    congr 1
    refine any_get?_of_view hrepaired _ _ (fun p hp => ?_) (fun _ => rfl) entry.1
    show (_ && _ && _) = (_ && _ && _)
    congr 1
    show (runtimeHostForParticipant _ p).any _ = (runtimeHostForParticipant _ p).any _
    rw [runtimeHostForParticipant, runtimeHostForParticipant]
    cases hid : nonempty? p.runtimeHostId with
    | none => rfl
    | some hostId =>
      exact any_get?_sanitize_of_repaired h.hosts hrefs hp (JsString.nonempty?_eq_some_iff.mp hid).1
  refine ⟨KeyedMap.ext ?_, hvoice⟩
  rw [values_speakingView, values_speakingView, values_normalizeRoom, values_normalizeRoom, hvoice]
  have hmap (stored : RoomRecord) (agentVoice : AgentVoiceState) :
      ((stagedOnLoad env stored).1.values.map (normalizeVoiceMedia agentVoice)).map
        withoutListening =
      ((repairedParticipants stored).values.map withoutListening).map
        (normalizeVoiceMedia agentVoice) := by
    rw [← map_withoutListening_stagedOnLoad env stored, List.map_map, List.map_map]
    exact List.map_congr_left fun p _ => withoutListening_normalizeVoiceMedia agentVoice p
  have hvalues := congrArg KeyedMap.values hrepaired
  rw [values_speakingView, values_speakingView] at hvalues
  rw [hmap, hmap, hvalues]

lemma withoutSpeaking_normalizeParticipant (participant : RoomParticipant) :
    withoutSpeaking (normalizeParticipant participant) =
      normalizeParticipant (withoutSpeaking participant) := by
  have hmedia (media : RoomMediaState) :
      silencedMedia (normalizeSubscribedMids media) =
        normalizeSubscribedMids (silencedMedia media) := by
    obtain ⟨_, _, _, _, _, mids, _, _, _⟩ := media
    cases mids with
    | none => rfl
    | some mids =>
      simp only [normalizeSubscribedMids, silencedMedia]
      split <;> rfl
  by_cases hkind : participant.kind = .agent
  · have hview : (withoutSpeaking participant).kind = .agent := hkind
    rw [normalizeParticipant, if_pos hkind, normalizeParticipant, if_pos hview]
    simp only [withoutSpeaking, Option.map_map, Function.comp_def, hmedia]
  · have hview : (withoutSpeaking participant).kind ≠ .agent := hkind
    rw [normalizeParticipant, if_neg hkind, normalizeParticipant, if_neg hview]

lemma withoutSpeaking_dropDanglingHost (runtimeHosts : RuntimeHostMap)
    (participant : RoomParticipant) : withoutSpeaking (dropDanglingHost runtimeHosts participant) =
      dropDanglingHost runtimeHosts (withoutSpeaking participant) := by
  have hview : hasDanglingHost runtimeHosts (withoutSpeaking participant) =
      hasDanglingHost runtimeHosts participant := rfl
  rw [dropDanglingHost, dropDanglingHost, hview]
  split <;> rfl

lemma withoutSpeaking_normalizeVoiceMedia (agentVoice : AgentVoiceState)
    (participant : RoomParticipant) :
    withoutSpeaking (normalizeVoiceMedia agentVoice participant) = withoutSpeaking participant := by
  have hmedia (media : RoomMediaState) (id : String) :
      silencedMedia (normalizeAgentVoiceParticipantMedia media agentVoice id).1 =
        silencedMedia media := by
    rw [normalizeAgentVoiceParticipantMedia]
    split
    next => rfl
    next => split <;> rfl
  rw [normalizeVoiceMedia]
  split
  next => simp only [withoutSpeaking, Option.map_map, Function.comp_def, hmedia]
  next => rfl

/-- A participant after its subscriptions are staged. -/
def unsubscribed (participant : RoomParticipant) : RoomParticipant :=
  (stageAgentMediaRevocation participant [] .subscribed).1

lemma stageAgentMediaRevocation_fst (participant : RoomParticipant)
    (pending : List PendingMediaCleanup) :
    (stageAgentMediaRevocation participant pending .subscribed).1 = unsubscribed participant := by
  rw [unsubscribed, stageAgentMediaRevocation, stageAgentMediaRevocation]
  cases participant.media with
  | none => rfl
  | some media =>
    dsimp only
    split <;> rfl

lemma stageSelected_fst (select : RoomParticipant → Bool) (participants : List RoomParticipant)
    (pending : List PendingMediaCleanup) :
    (stageSelected select .subscribed participants pending).1 =
      participants.map fun p => if select p then unsubscribed p else p := by
  induction participants generalizing pending with
  | nil => rfl
  | cons participant participants ih =>
    simp only [stageSelected, List.map_cons, ih]
    split
    next => rw [stageAgentMediaRevocation_fst]
    next => rfl

/-- The subscription handles of an Agent. -/
def subscriptions (participant : RoomParticipant) : List String :=
  if participant.kind = .agent then
    (participant.media.bind (·.agentSubscribedMids)).getD []
  else []

lemma unsubscribed_eq_self (h : subscriptions participant = []) :
    unsubscribed participant = participant := by
  rw [unsubscribed, stageAgentMediaRevocation]
  cases hmedia : participant.media with
  | none => rfl
  | some media =>
    have hnone : (decide (participant.kind ≠ .agent) ||
        (revocableMids media .subscribed).isEmpty) = true := by
      by_cases hkind : participant.kind = .agent
      · rw [subscriptions, if_pos hkind, hmedia, Option.bind_some] at h
        show (_ || (media.agentSubscribedMids.getD [] ++ []).isEmpty) = true
        rw [h]
        exact Bool.or_true _
      · rw [decide_eq_true hkind, Bool.true_or]
    dsimp only
    rw [if_pos hnone]

lemma unsubscribed_eq (h : subscriptions participant ≠ []) : unsubscribed participant =
      { participant with
        media := participant.media.map fun media => { media with agentSubscribedMids := some [] } } := by
  rw [unsubscribed, stageAgentMediaRevocation]
  rw [subscriptions] at h
  split at h
  next hkind =>
    cases hmedia : participant.media with
    | none =>
      rw [hmedia] at h
      exact absurd rfl h
    | some media =>
      rw [hmedia, Option.bind_some] at h
      have hsome : ¬(decide (participant.kind ≠ .agent) ||
          (revocableMids media .subscribed).isEmpty) = true := by
        show ¬(_ || (media.agentSubscribedMids.getD [] ++ []).isEmpty) = true
        rw [List.append_nil, Bool.or_eq_true, not_or, decide_eq_true_iff, not_not,
          List.isEmpty_iff]
        exact ⟨hkind, h⟩
      dsimp only
      rw [if_neg hsome]
      rfl
  next => exact absurd rfl h

lemma withoutSpeaking_unsubscribed (participant : RoomParticipant) :
    withoutSpeaking (unsubscribed participant) = unsubscribed (withoutSpeaking participant) := by
  have hsame : subscriptions (withoutSpeaking participant) = subscriptions participant := by
    rw [subscriptions, subscriptions, withoutSpeaking, Option.bind_map]
    rfl
  by_cases hnone : subscriptions participant = []
  · rw [unsubscribed_eq_self hnone, unsubscribed_eq_self (hsame.trans hnone)]
  · rw [unsubscribed_eq hnone, unsubscribed_eq fun h => hnone (hsame.symm.trans h)]
    simp only [withoutSpeaking, Option.map_map]
    rfl

lemma isLiveTranscriptProducerValid_congr (liveTranscript : LiveTranscriptState) (available : Bool)
    (hsame : listeningView participants' = listeningView participants)
    (hhosts : ∀ p ∈ participants'.values, ∀ hostId, p.runtimeHostId = some hostId →
      ((hosts'.get? hostId).any (·.speech.stt)) = (hosts.get? hostId).any (·.speech.stt)) :
    isLiveTranscriptProducerValid liveTranscript participants' hosts' available =
      isLiveTranscriptProducerValid liveTranscript participants hosts available := by
  cases liveTranscript with
  | inactive => rfl
  | active hostId epoch startedAt =>
    have hvalues := congrArg KeyedMap.values hsame
    rw [values_listeningView, values_listeningView] at hvalues
    -- Whether a connected Agent of the host is there is seen in the view.
    have hany (l : List RoomParticipant) : (l.any fun p => p.kind = .agent && p.connected &&
        p.runtimeHostId = some hostId) = ((l.map withoutSpeaking).any fun p => p.kind = .agent &&
          p.connected && p.runtimeHostId = some hostId) := by
      rw [List.any_map]
      rfl
    have hmembers : (participants'.values.any fun p => p.kind = .agent && p.connected &&
        p.runtimeHostId = some hostId) = participants.values.any fun p => p.kind = .agent &&
          p.connected && p.runtimeHostId = some hostId := by
      rw [hany, hvalues, ← hany]
    simp only [isLiveTranscriptProducerValid, isLiveTranscriptHostReady, hmembers]
    cases hready : participants.values.any fun p => p.kind = .agent && p.connected &&
        p.runtimeHostId = some hostId with
    | false => simp only [Bool.and_false]
    | true =>
      rw [hready] at hmembers
      obtain ⟨p, hp, hmember⟩ := List.any_eq_true.mp hmembers
      rw [Bool.and_eq_true, decide_eq_true_iff] at hmember
      rw [hhosts p hp hostId hmember.2]

lemma map_withoutSpeaking_stagedOnLoad (env : RoomEnv) (stored : RoomRecord) :
    (stagedOnLoad env stored).1.values.map withoutSpeaking =
      if (normalizeLiveTranscriptProducer (normalizeStoredLiveTranscript stored.liveTranscript
          stored.nextLiveTranscriptEpoch).1 (repairedParticipants stored)
          (sanitizeStoredRuntimeHosts stored.runtimeHosts) env.agentMediaEnabled).2 then
        ((repairedParticipants stored).values.map withoutSpeaking).map fun p =>
          if isRevokedProducer
              (normalizeMeetingNotesGrant stored.meetingNotes (repairedParticipants stored)).1
              (normalizeStoredLiveTranscript stored.liveTranscript
                stored.nextLiveTranscriptEpoch).1 p then unsubscribed p
          else p
      else (repairedParticipants stored).values.map withoutSpeaking := by
  simp only [stagedOnLoad]
  split
  next =>
    simp only [stageParticipants, stageSelected_fst, List.map_map]
    refine List.map_congr_left fun p _ => ?_
    have hselect (meetingNotes : MeetingNotesState) (liveTranscript : LiveTranscriptState) :
        isRevokedProducer meetingNotes liveTranscript (withoutSpeaking p) =
          isRevokedProducer meetingNotes liveTranscript p := by
      cases liveTranscript <;> rfl
    rw [Function.comp_apply, Function.comp_apply, hselect]
    split
    next => exact withoutSpeaking_unsubscribed p
    next => rfl
  next => rfl

lemma KeepsListening.onLoad (h : KeepsListening room room') (env : RoomEnv) :
    listeningView (normalizeRoom env room').participants =
        listeningView (normalizeRoom env room).participants ∧
      (normalizeRoom env room').meetingNotes = (normalizeRoom env room).meetingNotes ∧
      (normalizeRoom env room').liveTranscript = (normalizeRoom env room).liveTranscript := by
  have hsame := congrArg KeyedMap.values h.participants
  have hrefs := fun p (hp : p ∈ room'.participants.values) =>
    exists_runtimeHostId_of_view withoutSpeaking (fun _ => rfl) h.participants hp
  have hrepaired : listeningView (repairedParticipants room') =
      listeningView (repairedParticipants room) :=
    KeyedMap.ext (map_repairedParticipants (·.stt) (fun _ => rfl)
      withoutSpeaking_normalizeParticipant withoutSpeaking_dropDanglingHost hsame h.hosts)
  have hnotes : (normalizeMeetingNotesGrant room'.meetingNotes (repairedParticipants room')).1 =
      (normalizeMeetingNotesGrant room.meetingNotes (repairedParticipants room)).1 := by
    have hagent (id : String) : ((repairedParticipants room').get? id).any (·.kind = .agent) =
        ((repairedParticipants room).get? id).any (·.kind = .agent) :=
      any_get?_of_view hrepaired (·.kind = .agent) _ (fun _ _ => rfl) (fun _ => rfl) id
    rw [normalizeMeetingNotesGrant, normalizeMeetingNotesGrant, h.meetingNotes]
    simp only [hagent]
  have hstored : (normalizeStoredLiveTranscript room'.liveTranscript
      room'.nextLiveTranscriptEpoch).1 = (normalizeStoredLiveTranscript room.liveTranscript
        room.nextLiveTranscriptEpoch).1 := by
    rw [normalizeStoredLiveTranscript, normalizeStoredLiveTranscript, h.liveTranscript]
  have hproducer : normalizeLiveTranscriptProducer (normalizeStoredLiveTranscript
        room'.liveTranscript room'.nextLiveTranscriptEpoch).1 (repairedParticipants room')
        (sanitizeStoredRuntimeHosts room'.runtimeHosts) env.agentMediaEnabled =
      normalizeLiveTranscriptProducer (normalizeStoredLiveTranscript room.liveTranscript
        room.nextLiveTranscriptEpoch).1 (repairedParticipants room)
        (sanitizeStoredRuntimeHosts room.runtimeHosts) env.agentMediaEnabled := by
    rw [hstored, normalizeLiveTranscriptProducer, normalizeLiveTranscriptProducer,
      isLiveTranscriptProducerValid_congr _ _ hrepaired fun p hp hostId hid =>
        any_get?_sanitize_of_repaired h.hosts hrefs hp hid]
  refine ⟨KeyedMap.ext ?_, hnotes, congrArg Prod.fst hproducer⟩
  have hmap (stored : RoomRecord) :
      (normalizeRoom env stored).participants.values.map withoutSpeaking =
        (stagedOnLoad env stored).1.values.map withoutSpeaking := by
    rw [values_normalizeRoom, List.map_map]
    exact List.map_congr_left fun p _ => withoutSpeaking_normalizeVoiceMedia _ p
  have hvalues := congrArg KeyedMap.values hrepaired
  rw [values_listeningView, values_listeningView] at hvalues
  rw [values_listeningView, values_listeningView, hmap, hmap, map_withoutSpeaking_stagedOnLoad,
    map_withoutSpeaking_stagedOnLoad, hproducer, hnotes, hstored, hvalues]

end Free4Chat
