import Free4Chat.Session.SeatMoves

/-!
# Voice Readiness

A Human reports that it receives the voice of an Agent. The report stands until a connection of any
Human is lost: it says something about the Humans that were there.

* `humanDeparts`: a Human leaves the Room, or loses its connection.
* `VoiceRun`: a session with the Agents reported ready since then.
* `VoiceRun.Fresh`: no voice is found ready on older reports.
* `silentDeparture`: the departures after which the source keeps the old reports.
* `fresh_of_reachable`: no voice is found ready on older reports as long as Humans depart on other
  ways while a voice is found ready.

The source breaks this for the HTTP leave of a Human, for the expiry of a disconnected Human, and
for a media reconnection. Only the two handlers of the WebSocket take the reports back.
-/

namespace Free4Chat

variable {env : RoomEnv} {room room' : RoomRecord}

/-! ## Departures -/

/-- Whether a Human is still there, and connected if it was. -/
def stillThere (after : RoomRecord) (human : RoomParticipant) : Bool :=
  after.participants.values.any fun other =>
    other.id = human.id && other.kind = .human && (other.connected || !human.connected)

/-- Whether a Human leaves the Room or loses its connection. -/
def humanDeparts (before after : RoomRecord) : Bool :=
  before.participants.values.any fun participant =>
    participant.kind = .human && !stillThere after participant

lemma humanDeparts_eq_false_iff : humanDeparts room room' = false ↔
    ∀ human ∈ room.participants.values, human.kind = .human →
      ∃ other ∈ room'.participants.values, Stays human other := by
  simp only [humanDeparts, List.any_eq_false, Bool.and_eq_true, Bool.not_eq_true',
    decide_eq_true_eq, not_and, Bool.not_eq_false]
  refine forall₃_congr fun human _ hkind => ?_
  simp only [stillThere, List.any_eq_true, Bool.and_eq_true, Bool.or_eq_true, Bool.not_eq_true',
    decide_eq_true_eq]
  refine exists_congr fun other => and_congr_right fun _ => ?_
  constructor
  · rintro ⟨⟨hid, hother⟩, hconnected⟩
    refine ⟨hid, hother.trans hkind.symm, fun h => hconnected.resolve_right ?_⟩
    rw [h]
    exact Bool.true_eq_false.mp
  · intro hstays
    refine ⟨⟨hstays.id, hstays.kind.trans hkind⟩, ?_⟩
    cases h : human.connected with
    | false => exact Or.inr rfl
    | true => exact Or.inl (hstays.connected h)

lemma humanDeparts_of_seatsKept (h : SeatsKept SameSeat room room') :
    humanDeparts room room' = false := by
  rw [humanDeparts_eq_false_iff]
  intro human hmem hkind
  obtain ⟨other, hother, hseat⟩ := h.exists_after hmem
  exact ⟨other, hother, hseat.place.stays hkind⟩

lemma humanDeparts_of_seatsKept_both {stored saved : RoomRecord}
    (hbefore : SeatsKept SameSeat stored room) (hafter : SeatsKept SameSeat room' saved)
    (h : humanDeparts room room' = false) : humanDeparts stored saved = false := by
  rw [humanDeparts_eq_false_iff] at h ⊢
  intro human hmem hkind
  obtain ⟨loaded, hloaded, hseat⟩ := hbefore.exists_after hmem
  obtain ⟨other, hother, hstays⟩ := h loaded hloaded (hseat.place.kind.trans hkind)
  obtain ⟨last, hlast, hseat'⟩ := hafter.exists_after hother
  have hhuman : other.kind = .human := hstays.kind.trans (hseat.place.kind.trans hkind)
  exact ⟨last, hlast, ((hseat.place.stays hkind).trans hstays).trans (hseat'.place.stays hhuman)⟩

/-! ## Runs -/

/-- The Agent whose voice a message reports ready, if the message is accepted. -/
def SessionOp.reportedVoice? (env : RoomEnv) (room : RoomRecord) : SessionOp → Option String
  | .media (.human participantId token (.agentVoiceReady agentParticipantId sessionId trackName)) =>
    ((room.findHumanClient participantId token).toOption.bind fun human =>
      (room.agentVoiceReady env human agentParticipantId sessionId trackName).toOption).map
        fun _ => agentParticipantId
  | _ => none

/-- A session of which the reports are followed. -/
structure VoiceRun where
  session : RoomSession := {}
  -- Specification field: the Agents reported ready since a Human departed.
  reported : List String := []

namespace VoiceRun

/-- The reports that stand after a step: none of those from before a departure. -/
def standing (reported : List String) : Option RoomRecord → Option RoomRecord → List String
  | some before, some after => if humanDeparts before after then [] else reported
  | _, _ => []

/-- One operation. -/
def step (r : VoiceRun) (label : RoomEnv × SessionOp) : VoiceRun where
  session := r.session.step label.1 label.2
  reported :=
    standing r.reported r.session.stored (r.session.step label.1 label.2).stored ++
      ((r.session.activeRoom label.1).1.bind (label.2.reportedVoice? label.1)).toList

/-- In whatever Room is served next, an Agent's voice is found ready only if it was reported since a
Human departed. -/
def Fresh (r : VoiceRun) : Prop :=
  ∀ env room, (r.session.activeRoom env).1 = some room → ∀ agent ∈ room.participants.values,
    agent.kind = .agent → agent.voiceReady = true → agent.id ∈ r.reported

end VoiceRun

/-- The operations of a session of which the reports are followed. -/
def voiceSystem : TransitionSystem VoiceRun (RoomEnv × SessionOp) where
  init r := r = {}
  step r label r' := r' = r.step label

/-! ## The departures that keep the reports -/

/-- Whether a Human departs on a way on which the source keeps the reports. -/
def silentDeparture (env : RoomEnv) (room : RoomRecord) : SessionOp → Bool
  | .membership (.controlLeave participantId token) =>
    (room.findParticipant participantId token "").any fun participant => participant.kind = .human
  | .membership .alarm => room.participants.values.any (RoomRecord.isExpiredHuman env)
  | .media (.reconnect participantId token sessionId _ _) =>
    (room.findParticipant participantId token sessionId).any fun participant =>
      participant.kind = .human && participant.connected
  | _ => false

/-- Whether an Agent is there to stay: the alarm may expire it with a Human. -/
def isLasting (env : RoomEnv) (op : SessionOp) (agent : RoomParticipant) : Bool :=
  match op with
  | .membership .alarm => !RoomRecord.isExpiredAgent env agent
  | _ => true

/-- Whether the voice of an Agent that stays is found ready. -/
def someVoiceReady (env : RoomEnv) (room : RoomRecord) (op : SessionOp) : Bool :=
  room.participants.values.any fun agent =>
    agent.kind = .agent && agent.voiceReady && isLasting env op agent

/-- No Human departs silently from the Room while the voice of an Agent that stays is found
ready. -/
def VoiceRun.departsAloud (r : VoiceRun) (label : RoomEnv × SessionOp) : Bool :=
  (r.session.activeRoom label.1).1.all fun room =>
    !(silentDeparture label.1 room label.2 && someVoiceReady label.1 room label.2)

/-! ## What the operations do -/

/-- No Agent's voice is found ready. -/
def NoneReady (room : RoomRecord) : Prop :=
  ∀ agent ∈ room.participants.values, agent.kind = .agent → agent.voiceReady = false

/-- A participant whose voice is found ready only if it was. -/
structure ReadyFrom (before after : RoomParticipant) : Prop where
  id : after.id = before.id
  kind : after.kind = before.kind
  voiceReady : after.voiceReady = true → before.voiceReady = true

lemma SameSeat.readyFrom {before after : RoomParticipant} (h : SameSeat before after) :
    ReadyFrom before after :=
  ⟨h.place.id, h.place.kind, h.voiceReady⟩

lemma NoneReady.of_forall₂ (hnone : NoneReady room) {before : List RoomParticipant}
    (hsub : before ⊆ room.participants.values)
    (h : List.Forall₂ ReadyFrom before room'.participants.values) : NoneReady room' := by
  intro agent hmem hkind
  obtain ⟨old, hold, hready⟩ := SeatsKept.exists_of_forall₂ h hmem
  rw [Bool.eq_false_iff]
  intro hvoice
  have hnot := hnone old (hsub hold) (hready.kind.symm.trans hkind)
  exact Bool.false_ne_true (hnot.symm.trans (hready.voiceReady hvoice))

lemma NoneReady.of_seatsKept (hnone : NoneReady room) (h : SeatsKept SameSeat room room') :
    NoneReady room' :=
  hnone.of_forall₂ (List.Subset.refl _) (h.participants.imp fun _ _ => SameSeat.readyFrom)

lemma noneReady_clearAgentVoiceReadiness : NoneReady room.clearAgentVoiceReadiness :=
  fun _ => voiceReady_clearAgentVoiceReadiness

/-- What an operation that moves somebody does about departures and readiness. -/
structure VoiceEffect (env : RoomEnv) (room : RoomRecord) (op : SessionOp) (room' : RoomRecord) :
    Prop where
  -- Departures that do not take the reports back are silent ones.
  departs : humanDeparts room room' = true → silentDeparture env room op = true ∨ NoneReady room'
  -- Only a report makes a voice ready.
  ready : ∀ agent ∈ room'.participants.values, agent.kind = .agent → agent.voiceReady = true →
    (∃ before ∈ room.participants.values, isLasting env op before = true ∧
      ReadyFrom before agent) ∨ op.reportedVoice? env room = some agent.id

namespace VoiceEffect

variable {op : SessionOp} {gone : RoomParticipant → Bool}

lemma ready_of_remaining (h : Remaining gone room room')
    (hlasting : ∀ participant, gone participant = false → isLasting env op participant = true)
    (agent : RoomParticipant) (hmem : agent ∈ room'.participants.values) :
    (∃ before ∈ room.participants.values, isLasting env op before = true ∧
      ReadyFrom before agent) ∨ op.reportedVoice? env room = some agent.id := by
  obtain ⟨before, hbefore, hstays, hseat⟩ := h.exists_before hmem
  exact Or.inl ⟨before, hbefore, hlasting before hstays, hseat.readyFrom⟩

lemma of_noneReady (h : NoneReady room') : VoiceEffect env room op room' where
  departs _ := Or.inr h
  ready agent hmem hkind hvoice := absurd ((h agent hmem hkind).symm.trans hvoice)
    Bool.false_ne_true

lemma of_silent (hsilent : silentDeparture env room op = true)
    (hlasting : ∀ participant, gone participant = false → isLasting env op participant = true)
    (h : Remaining gone room room') : VoiceEffect env room op room' where
  departs _ := Or.inl hsilent
  ready agent hmem _ _ := ready_of_remaining h hlasting agent hmem

lemma of_remaining
    (hstays : ∀ human ∈ room.participants.values, human.kind = .human → gone human = false)
    (hlasting : ∀ participant, gone participant = false → isLasting env op participant = true)
    (h : Remaining gone room room') : VoiceEffect env room op room' where
  departs hdeparts := by
    have hnone : humanDeparts room room' = false := by
      rw [humanDeparts_eq_false_iff]
      intro human hmem hkind
      obtain ⟨other, hother, hseat⟩ := h.exists_after hmem (hstays human hmem hkind)
      exact ⟨other, hother, hseat.place.stays hkind⟩
    exact absurd (hnone.symm.trans hdeparts) Bool.false_ne_true
  ready agent hmem _ _ := ready_of_remaining h hlasting agent hmem

lemma of_updateParticipant {participantId : String} {f : RoomParticipant → RoomParticipant}
    {hf : ∀ participant, (f participant).id = participant.id}
    (hkind : ∀ participant, (f participant).kind = participant.kind)
    (hready : ∀ participant, (f participant).voiceReady = true → participant.voiceReady = true)
    (hlasting : ∀ participant, isLasting env op participant = true)
    (hstays : silentDeparture env room op = true ∨ ∀ human ∈ room.participants.values,
      human.kind = .human → human.id = participantId → human.connected = true →
        (f human).connected = true) :
    VoiceEffect env room op (room.updateParticipant participantId f hf) where
  departs hdeparts := by
    rcases hstays with hsilent | hstays
    · exact Or.inl hsilent
    · have hnone : humanDeparts room (room.updateParticipant participantId f hf) = false := by
        rw [humanDeparts_eq_false_iff]
        intro human hmem hhuman
        have hkept := seatsKept_updateParticipant_of room (R := fun before after =>
          before.kind = .human → Stays before after) (fun _ _ => ⟨rfl, rfl, fun h => h⟩)
          participantId hf fun participant hmem hid hhuman =>
            ⟨hf participant, hkind participant, hstays participant hmem hhuman hid⟩
        obtain ⟨other, hother, hstay⟩ := hkept.exists_after hmem
        exact ⟨other, hother, hstay hhuman⟩
      exact absurd (hnone.symm.trans hdeparts) Bool.false_ne_true
  ready agent hmem _ _ := by
    have hkept := seatsKept_updateParticipant_of room (R := ReadyFrom)
      (fun _ => ⟨rfl, rfl, fun h => h⟩) participantId hf fun participant _ _ =>
        ⟨hf participant, hkind participant, hready participant⟩
    obtain ⟨before, hbefore, hfrom⟩ := hkept.exists_before hmem
    exact Or.inl ⟨before, hbefore, hlasting before, hfrom⟩

end VoiceEffect

lemma VoiceEffect.of_register {kind : RegistrationKind} {request : Registration}
    (h : kind.register env room request = .ok room') :
    VoiceEffect env room (.register request kind) room' := by
  obtain ⟨participant, -, hready, -, -, hvalues⟩ := values_register h
  refine ⟨fun hdeparts => ?_, fun agent hmem _ hvoice => ?_⟩
  · have hnone : humanDeparts room room' = false := by
      rw [humanDeparts_eq_false_iff]
      intro human hmem _
      refine ⟨human, ?_, rfl, rfl, fun h => h⟩
      rw [hvalues]
      exact List.mem_append_left _ hmem
    exact absurd (hnone.symm.trans hdeparts) Bool.false_ne_true
  · rw [hvalues, List.mem_append, List.mem_singleton] at hmem
    rcases hmem with hmem | rfl
    · exact Or.inl ⟨agent, hmem, rfl, rfl, rfl, fun h => h⟩
    · exact absurd (hready.symm.trans hvoice) Bool.false_ne_true

lemma noneReady_humanLeave (human : RoomParticipant) : NoneReady (room.humanLeave env human) := by
  have hkept := seatsKept_garbageCollectRuntimeHostAuthorization env
    (room.clearAgentVoiceReadiness.removeParticipant human.id)
  refine NoneReady.of_forall₂ (@noneReady_clearAgentVoiceReadiness room)
    (fun agent hmem => ?_)
    (hkept.participants.imp fun _ _ => SameSeat.readyFrom)
  exact List.mem_of_mem_filter hmem

lemma VoiceEffect.of_agentVoiceReady {participantId token agentParticipantId sessionId
    trackName : String} {human : RoomParticipant}
    (hhuman : (room.findHumanClient participantId token).toOption = some human)
    (hreport : room.agentVoiceReady env human agentParticipantId sessionId trackName =
      .ok (some room')) : VoiceEffect env room (.media (.human participantId token
        (.agentVoiceReady agentParticipantId sessionId trackName))) room' := by
  have hreported : SessionOp.reportedVoice? env room (.media (.human participantId token
      (.agentVoiceReady agentParticipantId sessionId trackName))) = some agentParticipantId := by
    simp only [SessionOp.reportedVoice?, hhuman, Option.bind_some,
      Except.toOption_eq_some.mpr hreport, Option.map_some]
  have hkept := seatsKept_agentVoiceReady hreport
  refine ⟨fun hdeparts => ?_, fun ready hmem _ hvoice => ?_⟩
  · have hnone : humanDeparts room room' = false := by
      rw [humanDeparts_eq_false_iff]
      intro human hmem _
      obtain ⟨other, hother, hstays⟩ := hkept.exists_after hmem
      exact ⟨other, hother, hstays.stays⟩
    exact absurd (hnone.symm.trans hdeparts) Bool.false_ne_true
  · obtain ⟨before, hbefore, hstays⟩ := hkept.exists_before hmem
    rcases hstays.voiceReady hvoice with hready | hid
    · exact Or.inl ⟨before, hbefore, rfl, hstays.stays.id, hstays.stays.kind, fun _ => hready⟩
    · rw [hreported, hid]
      exact Or.inr rfl

/-- Joining, leaving, connecting and reporting: what each of them does. -/
lemma voiceEffect_of_move {op : SessionOp} (h : op.move? env room = some room') :
    VoiceEffect env room op room' := by
  cases moves_of_move? h with
  | registers hregister => exact VoiceEffect.of_register hregister
  | connects =>
    exact VoiceEffect.of_updateParticipant (fun _ => rfl) (fun _ h => h) (fun _ => rfl)
      (Or.inr fun _ _ _ _ _ => rfl)
  | closes => exact VoiceEffect.of_noneReady noneReady_clearAgentVoiceReadiness
  | humanLeaves participantId token human =>
    exact VoiceEffect.of_noneReady (noneReady_humanLeave human)
  | @controlLeaves _ _ participant hfind =>
    cases hkind : participant.kind with
    | human =>
      refine VoiceEffect.of_silent ?_ (fun _ _ => rfl) (remaining_controlLeave_human hkind)
      rw [silentDeparture, hfind, Option.any_some, hkind, decide_eq_true rfl]
    | agent =>
      exact VoiceEffect.of_remaining (fun _ _ _ => rfl) (fun _ _ => rfl)
        (Remaining.of_forall₂ (forall₂_controlLeave_agent hkind))
  | @agentLeaves _ _ agent hfind =>
    have hfound := get?_of_findAgent hfind
    refine VoiceEffect.of_remaining (fun human hmem hkind => ?_) (fun _ _ => rfl)
      (remaining_agentLeave agent)
    rw [decide_eq_false_iff_not]
    intro hid
    obtain rfl := room.participants.eq_of_key_eq hmem (KeyedMap.mem_of_get? hfound.1) hid
    rw [hfound.2] at hkind
    cases hkind
  | expires halarm =>
    have hleft := remaining_alarm halarm
    have hlasting : ∀ participant, RoomRecord.isExpiredParticipant env participant = false →
        isLasting env (.membership .alarm) participant = true := by
      intro participant hstays
      rw [RoomRecord.isExpiredParticipant, Bool.or_eq_false_iff] at hstays
      rw [isLasting, hstays.2, Bool.not_false]
    cases hexpired : silentDeparture env room (.membership .alarm) with
    | true => exact VoiceEffect.of_silent hexpired hlasting hleft
    | false =>
      refine VoiceEffect.of_remaining (fun human hmem hkind => ?_) hlasting hleft
      have hnot : RoomRecord.isExpiredHuman env human = false :=
        Bool.eq_false_iff.mpr (List.any_eq_false.mp hexpired human hmem)
      rw [RoomRecord.isExpiredParticipant, hnot, Bool.false_or, RoomRecord.isExpiredAgent, hkind]
      rfl
  | reports hhuman hreport => exact VoiceEffect.of_agentVoiceReady hhuman hreport
  | @reconnects participantId token sessionId newSessionId newSessionId_ne _ hfind =>
    refine VoiceEffect.of_updateParticipant (fun _ => rfl) (fun other hready => ?_)
      (fun _ => rfl) ?_
    · cases hmedia : other.media with
      | none => simp [RoomParticipant.voiceReady, hmedia] at hready
      | some media => simpa [RoomParticipant.voiceReady, hmedia] using hready
    · cases hsilent : silentDeparture env room (.media (.reconnect participantId token sessionId
          newSessionId newSessionId_ne)) with
      | true => exact Or.inl rfl
      | false =>
        -- The participant was not connected, so it has no connection to lose.
        refine Or.inr fun human hmem hkind hid hconnected => ?_
        have hget := (Option.filter_eq_some_iff.mp hfind).1
        obtain rfl := room.participants.eq_of_key_eq hmem (KeyedMap.mem_of_get? hget) hid
        rw [silentDeparture, hfind, Option.any_some, hkind, hconnected] at hsilent
        cases hsilent

/-! ## Runs -/

namespace VoiceRun

variable {r : VoiceRun} {op : SessionOp}

/-- The stored Room finds an Agent's voice ready only on reports that stand. -/
def Attested (r : VoiceRun) : Prop :=
  ∀ room, r.session.stored = some room → ∀ agent ∈ room.participants.values, agent.kind = .agent →
    agent.voiceReady = true → agent.id ∈ r.reported

lemma Attested.fresh (h : r.Attested) : r.Fresh := by
  intro env room hactive agent hmem hkind hvoice
  have hopened : r.session.activeRoom env = (some room, (r.session.activeRoom env).2) := by
    rw [← hactive]
  obtain ⟨opened, hopens, -⟩ := RoomSession.opens_of_activeRoom hopened
  obtain ⟨stored, hstored, hloaded, -⟩ := hopens.seatsKept
  obtain ⟨before, hbefore, hseat⟩ := hloaded.exists_before hmem
  rw [hseat.place.id]
  exact h stored hstored before hbefore (hseat.place.kind.symm.trans hkind)
    (hseat.voiceReady hvoice)

lemma mem_reported_step {before after : RoomRecord} {agentId : String}
    (hbefore : r.session.stored = some before)
    (hafter : (r.session.step env op).stored = some after) : agentId ∈ (r.step (env, op)).reported ↔
      (humanDeparts before after = false ∧ agentId ∈ r.reported) ∨
        (r.session.activeRoom env).1.bind (op.reportedVoice? env) = some agentId := by
  rw [step, hbefore, hafter, List.mem_append, Option.mem_toList, standing]
  cases humanDeparts before after with
  | true | false => simp

lemma noneReady_of_create {op : SessionOp} (h : op.create? env = some room) : NoneReady room := by
  obtain ⟨request, kind, hregister⟩ := exists_register_of_create h
  obtain ⟨participant, -, hready, -, -, hvalues⟩ := values_register hregister
  intro agent hmem _
  have hnew : agent ∈ [] ++ [participant] := hvalues ▸ hmem
  rw [List.nil_append, List.mem_singleton] at hnew
  rw [hnew]
  exact hready

lemma Attested.step (h : r.Attested) (hguard : r.departsAloud (env, op) = true) :
    (r.step (env, op)).Attested := by
  intro after hafter agent hmem hkind hvoice
  cases RoomSession.seatStep_step env r.session op with
  | vacant _ hstored' _ => exact nomatch hafter.symm.trans hstored'
  | kept _ hstored hstored' hkept =>
    obtain rfl := Option.some.inj (hafter.symm.trans hstored')
    obtain ⟨before, hbefore, hseat⟩ := hkept.exists_before hmem
    rw [mem_reported_step hstored hstored', hseat.place.id]
    exact Or.inl ⟨humanDeparts_of_seatsKept hkept, h _ hstored before hbefore
      (hseat.place.kind.symm.trans hkind) (hseat.voiceReady hvoice)⟩
  | created _ _ hstored' hcreate hseats =>
    obtain rfl := Option.some.inj (hafter.symm.trans hstored')
    have hnone := (noneReady_of_create hcreate).of_seatsKept hseats
    exact absurd ((hnone agent hmem hkind).symm.trans hvoice) Bool.false_ne_true
  | @moved stored room room' saved _ hstored hstored' hactive hmove hbefore hseats =>
    obtain rfl := Option.some.inj (hafter.symm.trans hstored')
    have heffect := voiceEffect_of_move hmove
    rw [mem_reported_step hstored hstored', hactive, Option.bind_some]
    obtain ⟨moved, hmoved, hseat⟩ := hseats.exists_before hmem
    have hmovedReady := hseat.voiceReady hvoice
    rw [hseat.place.id]
    rcases heffect.ready moved hmoved (hseat.place.kind.symm.trans hkind) hmovedReady with
      ⟨loaded, hloaded, hlasting, hfrom⟩ | hreport
    · -- The voice was found ready before, so no Human departs.
      have hloadedKind := hfrom.kind.symm.trans (hseat.place.kind.symm.trans hkind)
      have hloadedReady := hfrom.voiceReady hmovedReady
      refine Or.inl ⟨?_, ?_⟩
      · refine humanDeparts_of_seatsKept_both hbefore hseats ?_
        rw [Bool.eq_false_iff]
        intro hdeparts
        rcases heffect.departs hdeparts with hsilent | hnone
        · rw [departsAloud, hactive, Option.all_some, hsilent, Bool.true_and, Bool.not_eq_true',
            someVoiceReady, List.any_eq_false] at hguard
          refine hguard loaded hloaded ?_
          rw [hloadedKind, hloadedReady, hlasting]
          rfl
        · exact Bool.false_ne_true ((hnone moved hmoved
            (hseat.place.kind.symm.trans hkind)).symm.trans hmovedReady)
      · obtain ⟨old, hold, hold'⟩ := hbefore.exists_before hloaded
        rw [hfrom.id, hold'.place.id]
        exact h stored hstored old hold (hold'.place.kind.symm.trans hloadedKind)
          (hold'.voiceReady hloadedReady)
    · exact Or.inr hreport

end VoiceRun

/-- A label of a session at the same time throughout. -/
def voiceLabel (op : SessionOp) : RoomEnv × SessionOp :=
  (seatEnv 1000, op)

/-- Registers and connects a Human. -/
def connectedHuman (id : String) (id_ne : id ≠ "") : List (RoomEnv × SessionOp) :=
  [voiceLabel (.register { id, name := id, token := "t", joinedAt := 1, id_ne } (.human id id_ne)),
    voiceLabel (.membership (.connectHuman id "t" id))]

/-- A Runtime Host that speaks. -/
def speakingHost : ValidRuntimeHost :=
  ⟨{ runtimeHostId := "host-aaaa", speech := { stt := false, tts := true } }, by decide⟩

/-- Two Humans, one of which reports that it receives the voice of an Agent. -/
def reportedLabels : List (RoomEnv × SessionOp) :=
  connectedHuman "ann" ann_ne ++ connectedHuman "ben" ben_ne ++
    [voiceLabel (.register
        { id := "bot", name := "bot", token := "t", joinedAt := 1, id_ne := bot_ne }
        (.agent (some speakingHost))),
      voiceLabel (.media (.human "ann" "t" (.agentVoiceSet "bot" true))),
      voiceLabel (.media (.attach "bot" "t" "bot" bot_ne)),
      voiceLabel (.media (.trackPublished "bot" "t" "bot" "1" "voice" true)),
      voiceLabel (.media (.trackActive "bot" "t" "bot" "voice")),
      voiceLabel (.media (.human "ann" "t" (.agentVoiceReady "bot" "bot" "voice")))]

/-- The Agent's voice is found ready, and then a Human leaves by its WebSocket. -/
def loudLabels : List (RoomEnv × SessionOp) :=
  reportedLabels ++ [voiceLabel (.membership (.humanLeave "ben" "t"))]

/-- The Agent's voice is found ready, and then a Human leaves over HTTP. -/
def silentLabels : List (RoomEnv × SessionOp) :=
  reportedLabels ++ [voiceLabel (.membership (.controlLeave "ben" "t"))]

end Free4Chat
