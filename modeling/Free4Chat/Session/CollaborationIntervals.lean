import Free4Chat.Room.CollaborationActivity
import Free4Chat.Session.SeatMoves

/-!
# Collaboration Intervals

The summaries that a Room produces, one for each interval during which at least two participants
were in it. The open interval is stored with the Room, and each operation by which participants
come or go brings it up to date and produces the summary of an interval that it ends.

* `SessionOp.collaborationUpdates`: where an operation brings the interval up to date.
* `CollaborationRun`: a session with the stored interval, the summaries and who was there.
* `IntervalsAccounted`: the summaries are those of the maximal intervals that have ended.
* `intervalsAccounted_of_reachable`: this holds in every run.
-/

namespace Free4Chat

variable {env : RoomEnv} {room room' : RoomRecord}

/-! ## Operations -/

/-- The kinds of the participants of a Room. -/
def kindsOf (room : RoomRecord) : List ParticipantKind :=
  room.participants.values.map (·.kind)

/-- The records after each of the removals of an alarm. -/
def expirySteps (env : RoomEnv) : RoomRecord → List RoomParticipant → List RoomRecord
  | _, [] => []
  | room, participant :: expired =>
    room.expireParticipant env participant ::
      expirySteps env (room.expireParticipant env participant) expired

/-- Who is there when an operation brings the interval of a Room up to date. -/
def SessionOp.collaborationUpdates (env : RoomEnv) (room : RoomRecord) :
    SessionOp → List (List ParticipantKind)
  | .register request kind => ((kind.register env room request).toOption.map kindsOf).toList
  | .membership .alarm =>
    (expirySteps env (room.expirePermissionRequests env none)
      (room.participants.values.filter (RoomRecord.isExpiredParticipant env))).map kindsOf
  | .membership (.humanLeave participantId token) =>
    ((MembershipOp.apply env room (.humanLeave participantId token)).map kindsOf).toList
  | .membership (.controlLeave participantId token) =>
    ((MembershipOp.apply env room (.controlLeave participantId token)).map kindsOf).toList
  | .membership (.agentLeave participantId token) =>
    ((MembershipOp.apply env room (.agentLeave participantId token)).map kindsOf).toList
  | _ => []

/-- Whether an operation passes on the summary of an interval that it ends: the registration of a
Human does not. -/
def SessionOp.producesSummary : SessionOp → Bool
  | .register _ (.human ..) => false
  | _ => true

/-- The updates of an operation whose record is saved. -/
def RoomSession.savedUpdates (env : RoomEnv) (s : RoomSession) (op : SessionOp) :
    List (List ParticipantKind) :=
  if (s.moved? env op).isNone then []
  else
    match s.stored with
    | none => ((op.create? env).map kindsOf).toList
    | some _ => ((s.activeRoom env).1.map (op.collaborationUpdates env)).getD []

/-! ## Runs -/

/-- A session with the interval that is stored in its Room. -/
structure CollaborationRun where
  session : RoomSession := {}
  collaborationActivity : Option CollaborationActivity := none
  -- The summaries produced for the Room that is stored.
  summaries : List CollaborationDurationSummary := []
  -- Specification field: who was in that Room after each operation.
  snapshots : List Snapshot := []

namespace CollaborationRun

/-- The stored interval as an operation loads it. -/
def loadedActivity (r : CollaborationRun) : Option CollaborationActivity :=
  normalizeStoredCollaborationActivity r.collaborationActivity

/-- One operation. The summaries and the snapshots of a Room go with it. -/
def step (r : CollaborationRun) (label : RoomEnv × SessionOp) : CollaborationRun :=
  match (r.session.step label.1 label.2).stored with
  | none => { session := r.session.step label.1 label.2 }
  | some saved =>
    let result := collaborationTransitions label.1.now (r.session.savedUpdates label.1 label.2)
      r.loadedActivity
    { session := r.session.step label.1 label.2
      collaborationActivity := result.1
      summaries := r.summaries ++ if label.2.producesSummary then result.2 else []
      snapshots := r.snapshots ++ [{ time := label.1.now, kinds := kindsOf saved }] }

end CollaborationRun

/-- The operations of a session with the interval that is stored in its Room. -/
def collaborationSystem : TransitionSystem CollaborationRun (RoomEnv × SessionOp) where
  init r := r = {}
  step r label r' := r' = r.step label

/-- There is one summary for each maximal interval that has ended, in order, and none other. No
interval is lost with the Room: a Room with participants has no deadline. -/
structure IntervalsAccounted (r : CollaborationRun) : Prop where
  summaries : ∃ intervals : List (ℕ × ℕ),
    (∀ i j, (i, j) ∈ intervals ↔ List.EndedRun Snapshot.holdsTwo r.snapshots i j) ∧
      (intervals.Pairwise fun p q => p.2 ≤ q.1) ∧
      r.summaries = intervals.map (summaryOf r.snapshots)
  occupied : ∀ room, r.session.stored = some room → kindsOf room ≠ [] → room.expiresAt = NO_EXPIRY

/-! ## What the operations do -/

/-- A Room with participants has no deadline. -/
def Occupied (room : RoomRecord) : Prop := kindsOf room ≠ [] → room.expiresAt = NO_EXPIRY

lemma kindsOf_of_forall₂ {before after : List RoomParticipant}
    (h : List.Forall₂ (fun a b : RoomParticipant => b.kind = a.kind) before after) :
    after.map (·.kind) = before.map (·.kind) := by
  induction h with
  | nil => rfl
  | cons hkind _ ih => rw [List.map_cons, List.map_cons, hkind, ih]

lemma SeatsKept.kindsOf_eq (h : SeatsKept SameSeat room room') : kindsOf room' = kindsOf room :=
  kindsOf_of_forall₂ (h.participants.imp fun _ _ hseat => hseat.place.kind)

lemma Occupied.congr (hkinds : kindsOf room' = kindsOf room)
    (hexpires : room'.expiresAt = room.expiresAt) (h : Occupied room) : Occupied room' := by
  rw [Occupied, hkinds, hexpires]
  exact h

lemma Occupied.of_seatsKept (h : Occupied room) (hkept : SeatsKept SameSeat room room') :
    Occupied room' :=
  h.congr hkept.kindsOf_eq hkept.expiresAt

lemma kindsOf_updateParticipant {participantId : String} {f : RoomParticipant → RoomParticipant}
    {hf : ∀ participant, (f participant).id = participant.id}
    (hkind : ∀ participant, (f participant).kind = participant.kind) :
    kindsOf (room.updateParticipant participantId f hf) = kindsOf room := by
  have hkept := seatsKept_updateParticipant_of room (R := fun before after : RoomParticipant =>
    after.kind = before.kind) (fun _ => rfl) participantId hf fun participant _ _ =>
      hkind participant
  exact kindsOf_of_forall₂ hkept.participants

lemma Remaining.kindsOf_sublist {gone : RoomParticipant → Bool} (h : Remaining gone room room') :
    List.Sublist (kindsOf room') (kindsOf room) := by
  rw [kindsOf, kindsOf_of_forall₂ (h.imp fun _ _ hseat => hseat.place.kind)]
  exact List.filter_sublist.map _

lemma occupied_applyEmptyRoomExpiry (room : RoomRecord) :
    Occupied (room.applyEmptyRoomExpiry env) := by
  intro hkinds
  have hpos : 0 < room.participants.size := by
    rw [KeyedMap.size, List.length_pos_iff]
    exact fun hnil => hkinds (by rw [kindsOf]; exact List.map_eq_nil_iff.mpr hnil)
  exact if_pos hpos

lemma occupied_register {kind : RegistrationKind} {request : Registration}
    (h : kind.register env room request = .ok room') : Occupied room' := by
  cases kind with
  | human sessionId sessionId_ne =>
    simp only [RegistrationKind.register, RoomRecord.registerHuman, Except.bind_eq_ok,
      Except.pure_eq_ok] at h
    obtain ⟨added, -, rfl⟩ := h
    exact occupied_applyEmptyRoomExpiry added
  | agent runtimeHost =>
    simp only [RegistrationKind.register, RoomRecord.registerAgent, Except.bind_eq_ok,
      Except.pure_eq_ok] at h
    obtain ⟨added, -, rfl⟩ := h
    exact occupied_applyEmptyRoomExpiry _

/-- What an operation that moves somebody does about who is there. -/
inductive CollaborationEffect (env : RoomEnv) (room : RoomRecord) (op : SessionOp)
    (room' : RoomRecord) : Prop
  -- A participant joins.
  | joins {kind : ParticipantKind} (hupdates : op.collaborationUpdates env room = [kindsOf room'])
    (hkinds : kindsOf room' = kindsOf room ++ [kind])
    (hsize : room.participants.size < MAX_ROOM_PARTICIPANTS) (hoccupied : Occupied room')
  -- Participants leave, or nobody does.
  | leaves (hremovals : Removals (kindsOf room) (op.collaborationUpdates env room))
    (hkinds : kindsOf room' = (op.collaborationUpdates env room).getLastD (kindsOf room))
    (hproduces : op.producesSummary = true) (hoccupied : Occupied room → Occupied room')

namespace CollaborationEffect

variable {op : SessionOp}

lemma of_leave (hmove : op.move? env room = some room')
    (hupdates : op.collaborationUpdates env room = ((op.move? env room).map kindsOf).toList)
    (h : List.Sublist (kindsOf room') (kindsOf room)) (hproduces : op.producesSummary = true)
    (hoccupied : Occupied room') : CollaborationEffect env room op room' := by
  rw [hmove] at hupdates
  refine .leaves ?_ ?_ hproduces fun _ => hoccupied
  · rw [hupdates]
    exact ⟨h, trivial⟩
  · rw [hupdates]
    rfl

lemma of_kindsOf_eq (hupdates : op.collaborationUpdates env room = [])
    (h : kindsOf room' = kindsOf room) (hproduces : op.producesSummary = true)
    (hexpires : room'.expiresAt = room.expiresAt) : CollaborationEffect env room op room' := by
  refine .leaves ?_ ?_ hproduces (Occupied.congr h hexpires)
  · rw [hupdates]
    trivial
  · rw [hupdates]
    exact h

end CollaborationEffect

lemma removals_expirySteps (env : RoomEnv) (room : RoomRecord) (expired : List RoomParticipant) :
    Removals (kindsOf room) ((expirySteps env room expired).map kindsOf) := by
  induction expired generalizing room with
  | nil => trivial
  | cons participant expired ih =>
    exact ⟨(remaining_expireParticipant env room participant).kindsOf_sublist, ih _⟩

lemma getLastD_expirySteps (env : RoomEnv) (room : RoomRecord) (expired : List RoomParticipant) :
    ((expirySteps env room expired).map kindsOf).getLastD (kindsOf room) =
      kindsOf (expired.foldl (RoomRecord.expireParticipant env) room) := by
  induction expired generalizing room with
  | nil => rfl
  | cons participant expired ih =>
    rw [expirySteps, List.map_cons, List.getLastD_cons, List.foldl_cons]
    exact ih _

/-- Joining, leaving, connecting and reporting: who is there afterwards. -/
lemma collaborationEffect_of_move {op : SessionOp} (h : op.move? env room = some room') :
    CollaborationEffect env room op room' := by
  cases moves_of_move? h with
  | registers hregister =>
    obtain ⟨participant, -, -, -, hsize, hvalues⟩ := values_register hregister
    refine @CollaborationEffect.joins env room _ room' participant.kind ?_ ?_ hsize
      (occupied_register hregister)
    · exact congrArg (fun moved => (moved.map kindsOf).toList) h
    · rw [kindsOf, hvalues, List.map_append]
      rfl
  | connects | reconnects =>
    exact CollaborationEffect.of_kindsOf_eq rfl (kindsOf_updateParticipant fun _ => rfl) rfl rfl
  | closes =>
    refine CollaborationEffect.of_kindsOf_eq rfl ?_ rfl rfl
    rw [seatsKept_clearAgentVoiceReadiness.kindsOf_eq]
    exact kindsOf_updateParticipant fun _ => rfl
  | humanLeaves participantId token human =>
    exact CollaborationEffect.of_leave h rfl (remaining_humanLeave human).kindsOf_sublist rfl
      (occupied_applyEmptyRoomExpiry _)
  | @controlLeaves _ _ participant _ =>
    refine CollaborationEffect.of_leave h rfl ?_ rfl (occupied_applyEmptyRoomExpiry _)
    cases hkind : participant.kind with
    | human => exact (remaining_controlLeave_human hkind).kindsOf_sublist
    | agent => exact (Remaining.of_forall₂ (forall₂_controlLeave_agent hkind)).kindsOf_sublist
  | @agentLeaves _ _ agent _ =>
    exact CollaborationEffect.of_leave h rfl (remaining_agentLeave agent).kindsOf_sublist rfl
      (occupied_applyEmptyRoomExpiry _)
  | expires halarm =>
    have hkept := (seatsKept_expirePermissionRequests env room none).kindsOf_eq
    simp only [RoomRecord.alarm] at halarm
    obtain ⟨-, rfl⟩ := Option.of_guarded halarm
    refine .leaves ?_ ?_ rfl fun _ => occupied_applyEmptyRoomExpiry _
    · rw [SessionOp.collaborationUpdates, ← hkept]
      exact removals_expirySteps env _ _
    · rw [SessionOp.collaborationUpdates, ← hkept]
      exact (getLastD_expirySteps env _ _).symm
  | reports _ hreport =>
    have hkept := seatsKept_agentVoiceReady hreport
    refine CollaborationEffect.of_kindsOf_eq rfl (kindsOf_of_forall₂ ?_) rfl hkept.expiresAt
    exact hkept.participants.imp fun _ _ h => h.stays.kind

/-! ## Runs -/

namespace CollaborationRun

variable {r : CollaborationRun} {op : SessionOp}

/-- What the stored interval, the summaries and the snapshots say about the stored Room. -/
structure Tracks (r : CollaborationRun) (room : RoomRecord) : Prop where
  accounted : Accounted r.snapshots r.collaborationActivity r.summaries
  -- The last snapshot is of those who are there.
  current : ∃ last, r.snapshots.getLast? = some last ∧ last.kinds = kindsOf room
  times : ∀ snapshot ∈ r.snapshots, 0 < snapshot.time
  counts : ∀ snapshot ∈ r.snapshots, snapshot.kinds.length ≤ MAX_ROOM_PARTICIPANTS
  occupied : Occupied room

/-- There is nothing to say without a Room. -/
structure IntervalInv (r : CollaborationRun) : Prop where
  vacant : r.session.stored = none → r.collaborationActivity = none ∧ r.summaries = [] ∧
    r.snapshots = []
  tracks : ∀ room, r.session.stored = some room → r.Tracks room

lemma Tracks.loadedActivity_eq (h : r.Tracks room) : r.loadedActivity = r.collaborationActivity :=
  h.accounted.normalize_eq h.times fun snapshot hmem => (h.counts snapshot hmem).trans (by decide)

variable {saved : RoomRecord}

section

variable (hstored : (r.session.step env op).stored = some saved)
include hstored

lemma step_of_stored : r.step (env, op) =
      { session := r.session.step env op
        collaborationActivity := (collaborationTransitions env.now
          (r.session.savedUpdates env op) r.loadedActivity).1
        summaries := r.summaries ++ if op.producesSummary then (collaborationTransitions env.now
          (r.session.savedUpdates env op) r.loadedActivity).2 else []
        snapshots := r.snapshots ++ [{ time := env.now, kinds := kindsOf saved }] } := by
  rw [step, hstored]

lemma IntervalInv.of_tracks (h : (r.step (env, op)).Tracks saved) :
    IntervalInv (r.step (env, op)) := by
  have hsession : (r.step (env, op)).session.stored = some saved := by
    rw [step_of_stored hstored]
    exact hstored
  refine ⟨fun hnone => (nomatch hnone.symm.trans hsession), fun room hroom => ?_⟩
  obtain rfl := Option.some.inj (hroom.symm.trans hsession)
  exact h

lemma tracks_step
    (haccounted : Accounted (r.snapshots ++ [{ time := env.now, kinds := kindsOf saved }])
      (r.step (env, op)).collaborationActivity (r.step (env, op)).summaries)
    (htimes : ∀ snapshot ∈ r.snapshots, 0 < snapshot.time)
    (hcounts : ∀ snapshot ∈ r.snapshots, snapshot.kinds.length ≤ MAX_ROOM_PARTICIPANTS)
    (hcount : (kindsOf saved).length ≤ MAX_ROOM_PARTICIPANTS) (hoccupied : Occupied saved) :
    (r.step (env, op)).Tracks saved := by
  have hstep := step_of_stored hstored
  have hsnapshots : (r.step (env, op)).snapshots =
      r.snapshots ++ [{ time := env.now, kinds := kindsOf saved }] := by
    rw [hstep]
  refine ⟨hsnapshots ▸ haccounted, ⟨{ time := env.now, kinds := kindsOf saved }, ?_, rfl⟩,
    fun snapshot hmem => ?_, fun snapshot hmem => ?_, hoccupied⟩
  · rw [hsnapshots, List.getLast?_concat]
  · rw [hsnapshots, List.mem_append, List.mem_singleton] at hmem
    rcases hmem with hmem | rfl
    · exact htimes snapshot hmem
    · exact env.now_pos
  · rw [hsnapshots, List.mem_append, List.mem_singleton] at hmem
    rcases hmem with hmem | rfl
    · exact hcounts snapshot hmem
    · exact hcount

end

lemma tracks_of_leaves {stored saved : RoomRecord} (h : r.Tracks stored)
    (hstored : (r.session.step env op).stored = some saved)
    (hremovals : Removals (kindsOf stored) (r.session.savedUpdates env op))
    (hkinds : kindsOf saved = (r.session.savedUpdates env op).getLastD (kindsOf stored))
    (hproduces : op.producesSummary = true ∨ r.session.savedUpdates env op = [])
    (hoccupied : Occupied saved) : (r.step (env, op)).Tracks saved := by
  obtain ⟨last, hlast, hlastKinds⟩ := h.current
  rw [← hlastKinds] at hremovals hkinds
  have hcount : (kindsOf saved).length ≤ MAX_ROOM_PARTICIPANTS := by
    rw [hkinds]
    exact hremovals.getLastD_sublist.length_le.trans
      (h.counts last (List.mem_of_getLast? hlast))
  have haccounted := h.accounted.removals { time := env.now, kinds := kindsOf saved } hlast
    hremovals hkinds
  refine tracks_step hstored ?_ h.times h.counts hcount hoccupied
  rw [step_of_stored hstored, h.loadedActivity_eq]
  rcases hproduces with hproduces | hnone
  · rw [if_pos hproduces]
    exact haccounted
  · have hempty : (collaborationTransitions env.now (r.session.savedUpdates env op)
        r.collaborationActivity).2 = [] := by
      rw [hnone]
      rfl
    rw [hempty, ite_self]
    rwa [hempty] at haccounted

lemma tracks_of_joins (haccounted : Accounted r.snapshots r.collaborationActivity r.summaries)
    (htimes : ∀ snapshot ∈ r.snapshots, 0 < snapshot.time)
    (hcounts : ∀ snapshot ∈ r.snapshots, snapshot.kinds.length ≤ MAX_ROOM_PARTICIPANTS)
    (hstored : (r.session.step env op).stored = some saved)
    (hupdates : r.session.savedUpdates env op = [kindsOf saved])
    (hfew : (kindsOf saved).length < 2 → r.collaborationActivity = none)
    (hcount : (kindsOf saved).length ≤ MAX_ROOM_PARTICIPANTS) (hoccupied : Occupied saved) :
    (r.step (env, op)).Tracks saved := by
  have hloaded : r.loadedActivity = r.collaborationActivity :=
    haccounted.normalize_eq htimes fun snapshot hmem => (hcounts snapshot hmem).trans (by decide)
  obtain ⟨hnone, hjoined⟩ :=
    haccounted.joins { time := env.now, kinds := kindsOf saved } hfew
  have hresult : collaborationTransitions env.now (r.session.savedUpdates env op)
      r.loadedActivity =
        ((transitionCollaborationActivity (kindsOf saved) r.collaborationActivity env.now).1,
          []) := by
    rw [hupdates, hloaded, collaborationTransitions, List.foldl_cons, List.foldl_nil,
      advanceCollaboration, hnone]
    rfl
  refine tracks_step hstored ?_ htimes hcounts hcount hoccupied
  rw [step_of_stored hstored, hresult, ite_self, List.append_nil]
  exact hjoined

/-- A step keeps track of the interval. -/
lemma IntervalInv.step (h : IntervalInv r) (env : RoomEnv) (op : SessionOp) :
    IntervalInv (r.step (env, op)) := by
  cases RoomSession.seatStep_step env r.session op with
  | vacant _ hstored' _ =>
    have hstep : r.step (env, op) = { session := r.session.step env op } := by
      rw [CollaborationRun.step, hstored']
    rw [hstep]
    exact ⟨fun _ => ⟨rfl, rfl, rfl⟩, fun room hroom => nomatch hstored'.symm.trans hroom⟩
  | @kept stored saved hmoved hstored hstored' hkept =>
    have hupdates : r.session.savedUpdates env op = [] := by
      rw [RoomSession.savedUpdates, hmoved]
      rfl
    have htracks := h.tracks stored hstored
    refine of_tracks hstored' (tracks_of_leaves htracks hstored' ?_ ?_ (Or.inr hupdates)
      (htracks.occupied.of_seatsKept hkept))
    · rw [hupdates]
      trivial
    · rw [hupdates]
      exact hkept.kindsOf_eq
  | @created room' saved hmoved hstored hstored' hcreate hseats =>
    obtain ⟨hactivity, hsummaries, hsnapshots⟩ := h.vacant hstored
    obtain ⟨request, kind, hregister⟩ := exists_register_of_create hcreate
    obtain ⟨participant, -, -, -, -, hvalues⟩ := values_register hregister
    have hkinds : kindsOf saved = [participant.kind] := by
      rw [hseats.kindsOf_eq, kindsOf, hvalues]
      rfl
    have hupdates : r.session.savedUpdates env op = [kindsOf saved] := by
      rw [RoomSession.savedUpdates, hmoved, hstored, hcreate, hseats.kindsOf_eq]
      rfl
    have haccounted : Accounted r.snapshots r.collaborationActivity r.summaries := by
      rw [hactivity, hsummaries, hsnapshots]
      exact ⟨none, [], List.RunsOf.nil _, rfl, rfl⟩
    refine of_tracks hstored' (tracks_of_joins haccounted ?_ ?_ hstored' hupdates
      (fun _ => hactivity) ?_ ((occupied_register hregister).of_seatsKept hseats))
    · rw [hsnapshots]
      exact fun _ hmem => absurd hmem List.not_mem_nil
    · rw [hsnapshots]
      exact fun _ hmem => absurd hmem List.not_mem_nil
    · rw [hkinds, List.length_singleton]
      decide
  | @moved stored room room' saved hmoved hstored hstored' hactive hmove hbefore hseats =>
    have htracks := h.tracks stored hstored
    have hupdates : r.session.savedUpdates env op = op.collaborationUpdates env room := by
      rw [RoomSession.savedUpdates, hmoved, hstored, hactive]
      rfl
    cases collaborationEffect_of_move hmove with
    | @joins kind hjoins hkinds hsize hoccupied =>
      obtain ⟨last, hlast, hlastKinds⟩ := htracks.current
      have hsaved : kindsOf saved = kindsOf room ++ [kind] := hseats.kindsOf_eq.trans hkinds
      have hlength : (kindsOf saved).length = last.kinds.length + 1 := by
        rw [hsaved, List.length_append, List.length_singleton, hbefore.kindsOf_eq, hlastKinds]
      have hroom : (kindsOf room).length < MAX_ROOM_PARTICIPANTS := by
        rw [kindsOf, List.length_map]
        exact hsize
      refine of_tracks hstored' (tracks_of_joins htracks.accounted htracks.times htracks.counts
        hstored' ?_ (fun hfew => ?_) ?_ (hoccupied.of_seatsKept hseats))
      · rw [hupdates, hjoins, hseats.kindsOf_eq]
      · exact htracks.accounted.eq_none_of_last hlast (by omega)
      · rw [hsaved, List.length_append, List.length_singleton]
        exact hroom
    | leaves hremovals hkinds hproduces hoccupied =>
      refine of_tracks hstored' (tracks_of_leaves htracks hstored' ?_ ?_ (Or.inl hproduces)
        ((hoccupied (htracks.occupied.of_seatsKept hbefore)).of_seatsKept hseats))
      · rw [hupdates, ← hbefore.kindsOf_eq]
        exact hremovals
      · rw [hupdates, ← hbefore.kindsOf_eq, hseats.kindsOf_eq]
        exact hkinds

end CollaborationRun

/-- A Human and an Agent meet, the instance is evicted, another Human joins, and both leave
again. -/
def meetingLabels : List (RoomEnv × SessionOp) :=
  [(seatEnv 1000, .register
      { id := "ann", name := "ann", token := "t", joinedAt := 1, id_ne := ann_ne }
      (.human "ann" ann_ne)),
    (seatEnv 2000, .register
      { id := "bot", name := "bot", token := "t", joinedAt := 1, id_ne := bot_ne }
      (.agent none)),
    (seatEnv 3000, .restart),
    (seatEnv 4000, .register
      { id := "ben", name := "ben", token := "t", joinedAt := 1, id_ne := ben_ne }
      (.human "ben" ben_ne)),
    (seatEnv 5000, .membership (.humanLeave "ben" "t")),
    (seatEnv 7000, .membership (.agentLeave "bot" "t"))]

end Free4Chat
