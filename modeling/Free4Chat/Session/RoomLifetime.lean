import Free4Chat.Session.CollaborationIntervals

/-!
# The Lifetime of a Room

A Room has no deadline while somebody is in it. It gets one when the last participant goes, and
nothing pushes that back until somebody joins. Only then may the Room be deleted.

* `Lifetime`: how many a Room has, and whether it has a deadline.
* `lifetimeKept_of_reachable`: the deadline of a Room, over every run.
-/

namespace Free4Chat

variable {env : RoomEnv} {room room' left : RoomRecord} {s s' : RoomSession} {op : SessionOp}

/-- A Room has a bounded number of participants, and a deadline if there are none. -/
structure Lifetime (room : RoomRecord) : Prop where
  bounded : room.participants.size ≤ MAX_ROOM_PARTICIPANTS
  expiresAt_iff : room.expiresAt = NO_EXPIRY ↔ 0 < room.participants.size

/-- The deadline of the second record is that of the first one, recomputed for its participants. -/
def Recomputed (env : RoomEnv) (room room' : RoomRecord) : Prop :=
  room'.expiresAt =
    RoomRecord.computeExpiresAt room'.participants.size room.expiresAt env.now

/-- Every deadline that is given out is before the one that stands for none. -/
def GivesDeadline (_ : RoomSession) (label : RoomEnv × SessionOp) : Prop :=
  label.1.now + EMPTY_ROOM_TIMEOUT_MS < NO_EXPIRY

lemma Recomputed.lifetime (h : Recomputed env room room')
    (hnow : env.now + EMPTY_ROOM_TIMEOUT_MS < NO_EXPIRY)
    (hbounded : room'.participants.size ≤ MAX_ROOM_PARTICIPANTS) : Lifetime room' := by
  refine ⟨hbounded, ?_⟩
  rw [h, RoomRecord.computeExpiresAt]
  split_ifs <;> omega

lemma length_kindsOf (room : RoomRecord) : (kindsOf room).length = room.participants.size :=
  List.length_map _

lemma size_eq_of_kindsOf (h : kindsOf room' = kindsOf room) :
    room'.participants.size = room.participants.size := by
  rw [← length_kindsOf, h, length_kindsOf]

namespace Lifetime

lemma recomputed (h : Lifetime room) (hkinds : kindsOf room' = kindsOf room)
    (hexpires : room'.expiresAt = room.expiresAt) : Recomputed env room room' := by
  rw [Recomputed, size_eq_of_kindsOf hkinds, hexpires, RoomRecord.computeExpiresAt]
  split_ifs with hpos hnone
  · exact h.expiresAt_iff.mpr hpos
  · exact absurd (h.expiresAt_iff.mp hnone) hpos
  · rfl

lemma of_seatsKept (h : Lifetime room) (hkept : SeatsKept SameSeat room room') :
    Lifetime room' := by
  have hsize := size_eq_of_kindsOf hkept.kindsOf_eq
  refine ⟨hsize ▸ h.bounded, ?_⟩
  rw [hkept.expiresAt, hsize]
  exact h.expiresAt_iff

end Lifetime

/-! ## Leaving -/

lemma recomputed_applyEmptyRoomExpiry (h : left.expiresAt = room.expiresAt) :
    Recomputed env room (left.applyEmptyRoomExpiry env) := by
  rw [Recomputed, ← h]
  rfl

lemma expiresAt_expireParticipant (participant : RoomParticipant) :
    (room.expireParticipant env participant).expiresAt = room.expiresAt := by
  have hstaged := (seatsKept_stageExpired env room participant).expiresAt
  refine (seatsKept_garbageCollectRuntimeHostAuthorization env _).expiresAt.trans ?_
  show (if _ then if _ then _ else _ else _ : RoomRecord).expiresAt = _
  split_ifs
  · exact (seatsKept_expirePermissionRequests env _ _).expiresAt.trans hstaged
  · exact hstaged
  · exact hstaged

lemma expiresAt_foldl_expireParticipant (room : RoomRecord) (expired : List RoomParticipant) :
    (expired.foldl (RoomRecord.expireParticipant env) room).expiresAt = room.expiresAt := by
  induction expired generalizing room with
  | nil => rfl
  | cons participant expired ih => exact (ih _).trans (expiresAt_expireParticipant participant)

/-! ## What the operations do -/

lemma lifetime_register {kind : RegistrationKind} {request : Registration}
    (h : kind.register env room request = .ok room') :
    Lifetime room' ∧ 0 < room'.participants.size := by
  obtain ⟨participant, -, -, -, hsize, hvalues⟩ := values_register h
  have hlength : room'.participants.size = room.participants.size + 1 := by
    rw [KeyedMap.size, hvalues, List.length_append]
    rfl
  have hpos : 0 < room'.participants.size := hlength ▸ Nat.succ_pos _
  have hkinds : kindsOf room' ≠ [] := by
    rwa [← List.length_pos_iff, length_kindsOf]
  exact ⟨⟨hlength ▸ hsize, iff_of_true (occupied_register h hkinds) hpos⟩, hpos⟩

/-- Joining, leaving, connecting and reporting: the deadline afterwards. -/
lemma recomputed_of_move (h : op.move? env room = some room') (hlife : Lifetime room) :
    Recomputed env room room' := by
  cases moves_of_move? h with
  | registers hregister =>
    obtain ⟨hjoined, hpos⟩ := lifetime_register hregister
    rw [Recomputed, RoomRecord.computeExpiresAt, if_pos hpos]
    exact hjoined.expiresAt_iff.mpr hpos
  | connects | reconnects => exact hlife.recomputed (kindsOf_updateParticipant fun _ => rfl) rfl
  | closes =>
    refine hlife.recomputed ?_ rfl
    rw [seatsKept_clearAgentVoiceReadiness.kindsOf_eq]
    exact kindsOf_updateParticipant fun _ => rfl
  | humanLeaves =>
    exact recomputed_applyEmptyRoomExpiry
      (seatsKept_garbageCollectRuntimeHostAuthorization env _).expiresAt
  | @controlLeaves _ _ participant _ =>
    have hstaged := (seatsKept_stageDeparture env room participant).expiresAt
    refine recomputed_applyEmptyRoomExpiry
      ((seatsKept_garbageCollectRuntimeHostAuthorization env _).expiresAt.trans ?_)
    cases hkind : participant.kind with
    | human => exact hstaged
    | agent => exact (seatsKept_expirePermissionRequests env _ _).expiresAt.trans hstaged
  | @agentLeaves _ _ agent _ =>
    have hstaged := (seatsKept_stageDeparture env room agent).trans
      (seatsKept_stageProducerSubscription _ agent)
    refine recomputed_applyEmptyRoomExpiry
      ((seatsKept_garbageCollectRuntimeHostAuthorization env _).expiresAt.trans ?_)
    exact (hstaged.trans (seatsKept_expirePermissionRequests env _ _)).expiresAt
  | expires halarm =>
    simp only [RoomRecord.alarm] at halarm
    obtain ⟨-, rfl⟩ := Option.of_guarded halarm
    exact recomputed_applyEmptyRoomExpiry ((expiresAt_foldl_expireParticipant _ _).trans
      (seatsKept_expirePermissionRequests env room none).expiresAt)
  | reports _ hreport =>
    have hkept := seatsKept_agentVoiceReady hreport
    refine hlife.recomputed (kindsOf_of_forall₂ ?_) hkept.expiresAt
    exact hkept.participants.imp fun _ _ h => h.stays.kind

lemma bounded_of_move (h : op.move? env room = some room') (hlife : Lifetime room) :
    room'.participants.size ≤ MAX_ROOM_PARTICIPANTS := by
  rw [← length_kindsOf]
  cases collaborationEffect_of_move h with
  | joins _ hkinds hsize _ =>
    rw [hkinds, List.length_append, length_kindsOf]
    exact hsize
  | leaves hremovals hkinds _ _ =>
    rw [hkinds]
    exact hremovals.getLastD_sublist.length_le.trans (length_kindsOf room ▸ hlife.bounded)

lemma lifetime_step {saved : RoomRecord}
    (hlife : ∀ stored, s.stored = some stored → Lifetime stored)
    (hsaved : (s.step env op).stored = some saved) :
    (s.stored = none ∧ Lifetime saved) ∨ ∃ stored, s.stored = some stored ∧
      Recomputed env stored saved ∧ saved.participants.size ≤ MAX_ROOM_PARTICIPANTS := by
  cases RoomSession.seatStep_step env s op with
  | vacant _ hnone _ => cases hnone.symm.trans hsaved
  | @kept stored _ _ hstored hstored' hkept =>
    obtain rfl := Option.some.inj (hstored'.symm.trans hsaved)
    refine Or.inr ⟨stored, hstored, ?_, ((hlife stored hstored).of_seatsKept hkept).bounded⟩
    exact (hlife stored hstored).recomputed hkept.kindsOf_eq hkept.expiresAt
  | @moved stored room room' _ _ hstored hstored' _ hmove hbefore hafter =>
    obtain rfl := Option.some.inj (hstored'.symm.trans hsaved)
    have hroom := (hlife stored hstored).of_seatsKept hbefore
    have hsize := size_eq_of_kindsOf hafter.kindsOf_eq
    refine Or.inr ⟨stored, hstored, ?_, hsize ▸ bounded_of_move hmove hroom⟩
    rw [Recomputed, hafter.expiresAt, hsize, ← hbefore.expiresAt]
    exact recomputed_of_move hmove hroom
  | created _ hstored hstored' hcreate hafter =>
    obtain rfl := Option.some.inj (hstored'.symm.trans hsaved)
    obtain ⟨request, kind, hregister⟩ := exists_register_of_create hcreate
    exact Or.inl ⟨hstored, (lifetime_register hregister).1.of_seatsKept hafter⟩

/-! ## Runs -/

/-- In every run a Room has at most 32 participants, and a deadline exactly while it has none. An
operation recomputes the deadline, and deletes the Room only when nobody is in it any more. -/
theorem lifetimeKept_of_reachable (hreach : roomSessionSystem.ReachableWhen GivesDeadline s)
    (hstored : s.stored = some room) :
    Lifetime room ∧ ∀ env op,
      (∀ saved, (s.step env op).stored = some saved → Recomputed env room saved) ∧
      ((s.step env op).stored = none → env.now < NO_EXPIRY →
        room.participants.size = 0 ∧ room.expiresAt ≤ env.now) := by
  have hlife : ∀ stored, s.stored = some stored → Lifetime stored := by
    clear hstored
    refine hreach.invariant
      (P := fun s => ∀ stored, s.stored = some stored → Lifetime stored) ?_ ?_
    · rintro s rfl stored hstored
      cases hstored
    · rintro s label s' hlife hnow rfl saved hsaved
      rcases lifetime_step hlife hsaved with ⟨-, hnew⟩ | ⟨stored, -, hrecomputed, hbounded⟩
      · exact hnew
      · exact hrecomputed.lifetime hnow hbounded
  refine ⟨hlife room hstored, fun env op => ⟨fun saved hsaved => ?_, fun hnone hnow => ?_⟩⟩
  · rcases lifetime_step hlife hsaved with ⟨hvacant, -⟩ | ⟨stored, hsame, hrecomputed, -⟩
    · cases hvacant.symm.trans hstored
    · obtain rfl := Option.some.inj (hsame.symm.trans hstored)
      exact hrecomputed
  · cases RoomSession.seatStep_step env s op with
    | vacant _ _ hexpired =>
      have hle := hexpired room hstored
      refine ⟨Nat.eq_zero_of_not_pos fun hpos => ?_, hle⟩
      rw [(hlife room hstored).expiresAt_iff.mpr hpos] at hle
      exact Nat.not_lt_of_le hle hnow
    | kept _ _ hstored' _ | moved _ _ hstored' _ _ _ _ | created _ _ hstored' _ _ =>
      cases hnone.symm.trans hstored'

/-- The meeting, and then the last participant leaves. -/
def emptiedLabels : List (RoomEnv × SessionOp) :=
  meetingLabels ++ [(seatEnv 9000, .membership (.humanLeave "ann" "t"))]

/-- The Room that everybody has left. -/
def emptiedSession : RoomSession := emptiedLabels.foldl (fun s label => s.step label.1 label.2) {}

/-- It has half an hour from then on. -/
theorem lifetimeKept_emptied : ∃ room, emptiedSession.stored = some room ∧ Lifetime room ∧
    room.expiresAt = 9000 + EMPTY_ROOM_TIMEOUT_MS := by
  have hrun : TransitionSystem.enabledRun
      (fun _ label => decide (label.1.now + EMPTY_ROOM_TIMEOUT_MS < NO_EXPIRY))
      (fun s label => s.step label.1 label.2) ({} : RoomSession) emptiedLabels = true := by
    decide +kernel
  have hreach : roomSessionSystem.ReachableWhen GivesDeadline emptiedSession := by
    refine TransitionSystem.ReachableWhen.foldl (fun _ label henabled => ?_) (.init rfl) hrun
    have hgives := of_decide_eq_true henabled
    exact ⟨hgives, rfl⟩
  have hexpires : emptiedSession.stored.map (·.expiresAt) =
      some (9000 + EMPTY_ROOM_TIMEOUT_MS) := by decide +kernel
  obtain ⟨room, hstored, hexpires⟩ := Option.map_eq_some_iff.mp hexpires
  exact ⟨room, hstored, (lifetimeKept_of_reachable hreach hstored).1, hexpires⟩

end Free4Chat
