import Free4Chat.Socket.HumanSocket

/-!
# Host States

A browser declares which Room Apps it hosts, and the socket should list them as if the
declarations had been handled one after another. A handler that awaits the catalog writes back an
attachment that it read before, so this is so as long as nothing else writes the attachment while
a handler that is going to write it awaits the catalog.

* `foldHostStates`: the declarations, one after another in arrival order.
* `Linearized`: the socket lists what the fold says, and keeps what other operations wrote.
* `NoStaleWrite`: no handler writes over an attachment that was written since it was read.
* `linearized_of_noStaleWrite`: then every state reached is linearized.
-/

namespace Free4Chat

/-- The instances after one more host state, if it took effect. -/
def HostStateArrival.apply (instances : List String) (arrival : HostStateArrival) : List String :=
  if arrival.decision ≠ .accepted then instances
  else if arrival.ready then declareReady instances arrival.appInstanceId
  else declareNotReady instances arrival.appInstanceId

/-- The instances after host states that arrived in an order. -/
def foldHostStates (arrivals : List HostStateArrival) : List String :=
  arrivals.foldl HostStateArrival.apply []

/-- The attachment lists the instances that the host states declare in arrival order, and its other
fields are what their own operations wrote last. -/
structure Linearized (s : HumanSocket) : Prop where
  instances : s.attachment.activeRoomAppInstances = foldHostStates s.arrivals
  samples : s.attachment.roomAppUnicastRateSamples = s.lastSamples
  discovery : s.attachment.pendingTaskSessionDiscovery = s.lastDiscovery
  start : s.attachment.pendingTaskSessionStart = s.lastStart

/-- Whether a suspended handler is going to write the attachment. -/
def SuspendedHandler.writes (env : SocketEnv) (catalog : RoomAppCatalog)
    (room : Option RoomRecord) (now : ℕ) (writable : Bool) : SuspendedHandler → Bool
  | .hostState attachment _ appInstanceId =>
    (readyMetadata env catalog appInstanceId).isSome && isCurrentHost room attachment && writable
  | .unicast request => (request.handle env catalog now writable [] false).written.isSome

/-- A handler that goes on and writes the attachment does so only if nothing has written it since
the handler read it. -/
def NoStaleWrite (env : SocketEnv) (s : HumanSocket) : HumanSocketOp → Prop
  | .resume index catalog room now writable _ _ => ∀ readAt handler,
      s.suspended[index]? = some (readAt, handler) →
      handler.writes env catalog room now writable = true → readAt = s.writes
  | _ => True

/-! ## The fold -/

variable {arrivals : List HostStateArrival}

lemma foldl_apply_of_not_accepted
    (h : ∀ arrival ∈ arrivals, arrival.decision ≠ .accepted) (instances : List String) :
    arrivals.foldl HostStateArrival.apply instances = instances := by
  induction arrivals with
  | nil => rfl
  | cons arrival arrivals ih =>
    have hfirst : HostStateArrival.apply instances arrival = instances := by
      rw [HostStateArrival.apply, if_pos (h arrival List.mem_cons_self)]
    rw [List.foldl_cons, hfirst]
    exact ih fun other hother => h other (List.mem_cons_of_mem _ hother)

variable {i : ℕ}

lemma eq_take_cons_drop {arrived : HostStateArrival} (hget : arrivals[i]? = some arrived) :
    arrivals = arrivals.take i ++ arrived :: arrivals.drop (i + 1) := by
  obtain ⟨hlt, rfl⟩ := List.getElem?_eq_some_iff.mp hget
  rw [List.getElem_cons_drop, List.take_append_drop]

lemma modify_eq_take_cons_drop {arrived : HostStateArrival} (hget : arrivals[i]? = some arrived)
    (f : HostStateArrival → HostStateArrival) :
    arrivals.modify i f = arrivals.take i ++ f arrived :: arrivals.drop (i + 1) := by
  obtain ⟨hlt, rfl⟩ := List.getElem?_eq_some_iff.mp hget
  rw [List.modify_eq_take_cons_drop hlt]

lemma foldHostStates_drop {arrived : HostStateArrival} (hget : arrivals[i]? = some arrived)
    (hpending : arrived.decision = .pending) :
    foldHostStates (arrivals.modify i fun arrived => { arrived with decision := .dropped }) =
      foldHostStates arrivals := by
  rw [modify_eq_take_cons_drop hget]
  conv_rhs => rw [eq_take_cons_drop hget]
  simp [foldHostStates, HostStateArrival.apply, hpending]

lemma foldHostStates_accept {arrived : HostStateArrival} (hget : arrivals[i]? = some arrived)
    (hpending : arrived.decision = .pending)
    (hlater : ∀ j, i < j → ∀ later, arrivals[j]? = some later → later.decision ≠ .accepted) :
    foldHostStates (arrivals.modify i fun arrived => { arrived with decision := .accepted }) =
      HostStateArrival.apply (foldHostStates arrivals) { arrived with decision := .accepted } := by
  have hdrop : ∀ later ∈ arrivals.drop (i + 1), later.decision ≠ .accepted := by
    intro later hmem
    obtain ⟨k, hk, rfl⟩ := List.mem_drop_iff_getElem.mp hmem
    exact hlater (i + 1 + k) (by omega) _ (List.getElem?_eq_getElem _)
  have hbefore : foldHostStates arrivals = foldHostStates (arrivals.take i) := by
    conv_lhs => rw [eq_take_cons_drop hget]
    rw [foldHostStates, List.foldl_append, List.foldl_cons, foldl_apply_of_not_accepted hdrop]
    simp [HostStateArrival.apply, hpending, foldHostStates]
  rw [modify_eq_take_cons_drop hget, hbefore, foldHostStates, List.foldl_append, List.foldl_cons,
    foldl_apply_of_not_accepted hdrop]
  rfl

lemma foldHostStates_arrive (arrivals : List HostStateArrival) (appInstanceId : String)
    (ready : Bool) : foldHostStates (arrivals ++ [{ appInstanceId, ready, decision := .pending }]) =
      foldHostStates arrivals := by
  simp [foldHostStates, HostStateArrival.apply]

/-! ## The invariant -/

/-- The listed instances are valid and few. -/
def InstancesValid (attachment : ConnectionAttachment) : Prop :=
  (∀ id ∈ attachment.activeRoomAppInstances, isValidRoomAppInstanceId id = true) ∧
    attachment.activeRoomAppInstances.length ≤ ROOM_APP_MAX_INSTANCES

variable {attachment : ConnectionAttachment}

section

variable (h : InstancesValid attachment)
include h

lemma InstancesValid.currentInstances_eq :
    currentInstances attachment = attachment.activeRoomAppInstances := by
  rw [currentInstances, List.filter_eq_self.mpr h.1, List.take_of_length_le h.2]

lemma InstancesValid.writeReady {metadata : RoomAppHostMetadata}
    (hvalid : isValidRoomAppInstanceId metadata.appInstanceId = true) :
    InstancesValid (writeReady attachment metadata) := by
  refine ⟨fun id hid => ?_, List.length_take_le _ _⟩
  have hmem := List.mem_of_mem_take hid
  rw [List.mem_distinct, List.mem_append, h.currentInstances_eq, List.mem_singleton] at hmem
  rcases hmem with hmem | rfl
  · exact h.1 id hmem
  · exact hvalid

lemma InstancesValid.writeNotReady (appInstanceId : String) :
    InstancesValid (writeNotReady attachment appInstanceId) := by
  refine ⟨fun id hid => h.1 id ?_, ?_⟩
  · rw [← h.currentInstances_eq]
    exact List.mem_of_mem_filter hid
  · refine (List.length_filter_le _ _).trans ?_
    rw [h.currentInstances_eq]
    exact h.2

end

/-- The arrival that a suspended handler is about, if it is a host state. -/
def SuspendedHandler.arrival? : SuspendedHandler → Option ℕ
  | .hostState _ arrival _ => some arrival
  | .unicast _ => none

/-- What holds of a suspended handler: as long as the attachment was not written since, the handler
has the current one, and no later host state took effect. -/
structure Awaits (s : HumanSocket) (readAt : ℕ) (handler : SuspendedHandler) : Prop where
  readAt_le : readAt ≤ s.writes
  current : readAt = s.writes → handler.attachment = s.attachment
  arrived : ∀ attachment arrival appInstanceId,
    handler = .hostState attachment arrival appInstanceId →
    isValidRoomAppInstanceId appInstanceId = true ∧
      s.arrivals[arrival]? = some { appInstanceId, ready := true, decision := .pending }
  latest : readAt = s.writes → ∀ arrival, handler.arrival? = some arrival →
    ∀ j, arrival < j → ∀ later, s.arrivals[j]? = some later → later.decision ≠ .accepted

/-- The invariant of a Human socket when no stale attachment is written. -/
structure HostStateInv (s : HumanSocket) : Prop where
  linearized : Linearized s
  valid : InstancesValid s.attachment
  awaits : ∀ readAt handler, (readAt, handler) ∈ s.suspended → Awaits s readAt handler
  -- No two suspended handlers are about the same arrival.
  distinct : s.suspended.Pairwise fun p q =>
    ∀ arrival, p.2.arrival? = some arrival → q.2.arrival? ≠ some arrival

lemma Awaits.mono {s s' : HumanSocket} {readAt : ℕ} {handler : SuspendedHandler}
    (h : Awaits s readAt handler) (hwrites : s.writes ≤ s'.writes)
    (harrival : ∀ arrival, handler.arrival? = some arrival →
      s'.arrivals[arrival]? = s.arrivals[arrival]?)
    (hquiet : s'.writes = s.writes → s'.attachment = s.attachment ∧
      ∀ (j : ℕ) (later : HostStateArrival), s'.arrivals[j]? = some later →
        later.decision = .accepted → s.arrivals[j]? = some later) : Awaits s' readAt handler := by
  refine ⟨h.readAt_le.trans hwrites, ?_, ?_, ?_⟩
  · intro hread
    have heq : s'.writes = s.writes := le_antisymm (hread ▸ h.readAt_le) hwrites
    exact (h.current (hread.trans heq)).trans (hquiet heq).1.symm
  · rintro attachment arrival appInstanceId rfl
    rw [harrival arrival rfl]
    exact h.arrived attachment arrival appInstanceId rfl
  · intro hread arrival hhandler j hlt later hget haccepted
    have heq : s'.writes = s.writes := le_antisymm (hread ▸ h.readAt_le) hwrites
    exact h.latest (hread.trans heq) arrival hhandler j hlt later
      ((hquiet heq).2 j later hget haccepted) haccepted

namespace HostStateInv

variable {s : HumanSocket} (h : HostStateInv s)
include h

variable {handler : SuspendedHandler}

lemma arrival_lt {readAt : ℕ} (hmem : (readAt, handler) ∈ s.suspended) {arrival : ℕ}
    (harrival : handler.arrival? = some arrival) : arrival < s.arrivals.length := by
  cases handler with
  | unicast request => cases harrival
  | hostState attachment arrival' appInstanceId =>
    cases harrival
    have hget := ((h.awaits _ _ hmem).arrived attachment arrival appInstanceId rfl).2
    exact (List.getElem?_eq_some_iff.mp hget).1

lemma arrive (appInstanceId : String) (ready : Bool) :
    HostStateInv (s.arrive appInstanceId ready) := by
  refine ⟨⟨?_, h.linearized.samples, h.linearized.discovery, h.linearized.start⟩, h.valid, ?_,
    h.distinct⟩
  · rw [HumanSocket.arrive, foldHostStates_arrive]
    exact h.linearized.instances
  · intro readAt handler hmem
    refine (h.awaits readAt handler hmem).mono le_rfl ?_ fun _ => ⟨rfl, ?_⟩
    · intro arrival harrival
      exact List.getElem?_append_left (h.arrival_lt hmem harrival)
    · intro j later hget haccepted
      rcases Nat.lt_or_ge j s.arrivals.length with hlt | hge
      · rwa [HumanSocket.arrive, List.getElem?_append_left hlt] at hget
      · rw [HumanSocket.arrive, List.getElem?_append_right hge, List.getElem?_singleton] at hget
        split at hget
        · cases hget
          cases haccepted
        · cases hget

lemma suspend (hawaits : Awaits s s.writes handler)
    (hothers : ∀ p ∈ s.suspended, ∀ arrival, p.2.arrival? = some arrival →
      handler.arrival? ≠ some arrival) : HostStateInv (s.suspend handler) := by
  refine ⟨⟨h.linearized.instances, h.linearized.samples, h.linearized.discovery,
    h.linearized.start⟩, h.valid, ?_, ?_⟩
  · intro readAt other hmem
    rcases List.mem_append.mp hmem with hmem | hmem
    · exact (h.awaits readAt other hmem).mono le_rfl (fun _ _ => rfl) fun _ =>
        ⟨rfl, fun _ _ hget _ => hget⟩
    · obtain ⟨rfl, rfl⟩ := Prod.mk.inj (List.mem_singleton.mp hmem)
      exact hawaits.mono le_rfl (fun _ _ => rfl) fun _ => ⟨rfl, fun _ _ hget _ => hget⟩
  · refine List.pairwise_append.mpr ⟨h.distinct, List.pairwise_singleton _ _, ?_⟩
    intro p hp q hq
    obtain rfl := List.mem_singleton.mp hq
    exact hothers p hp

lemma erase (index : ℕ) : HostStateInv { s with suspended := s.suspended.eraseIdx index } := by
  refine ⟨⟨h.linearized.instances, h.linearized.samples, h.linearized.discovery,
    h.linearized.start⟩, h.valid, fun readAt handler hmem => ?_,
    h.distinct.sublist (List.eraseIdx_sublist _ _)⟩
  exact (h.awaits readAt handler (List.mem_of_mem_eraseIdx hmem)).mono le_rfl (fun _ _ => rfl)
    fun _ => ⟨rfl, fun _ _ hget _ => hget⟩

lemma arrival_ne_of_erase {index readAt : ℕ}
    (hget : s.suspended[index]? = some (readAt, handler)) {arrival : ℕ}
    (harrival : handler.arrival? = some arrival) :
    ∀ p ∈ s.suspended.eraseIdx index, p.2.arrival? ≠ some arrival := by
  intro p hp hsame
  obtain ⟨i, hne, hi⟩ := List.mem_eraseIdx_iff_getElem?.mp hp
  obtain ⟨hlt, hindex⟩ := List.getElem?_eq_some_iff.mp hget
  obtain ⟨hilt, hother⟩ := List.getElem?_eq_some_iff.mp hi
  have hpairwise := List.pairwise_iff_getElem.mp h.distinct
  rcases Nat.lt_or_gt_of_ne hne with hlt' | hgt
  · have := hpairwise i index hilt hlt hlt'
    rw [hindex, hother] at this
    exact this arrival hsame harrival
  · have := hpairwise index i hlt hilt hgt
    rw [hindex, hother] at this
    exact this arrival harrival hsame

lemma write {attachment : ConnectionAttachment}
    (hinstances : attachment.activeRoomAppInstances = s.attachment.activeRoomAppInstances)
    {lastSamples : List RoomAppUnicastRateSample}
    {lastDiscovery : Option PendingTaskSessionDiscovery}
    {lastStart : Option PendingTaskSessionStart}
    (hsamples : attachment.roomAppUnicastRateSamples = lastSamples)
    (hdiscovery : attachment.pendingTaskSessionDiscovery = lastDiscovery)
    (hstart : attachment.pendingTaskSessionStart = lastStart)
    (granted : List RoomAppUnicastRateSample) (delivered : List UnicastRecord) :
    HostStateInv { s.write attachment with lastSamples, lastDiscovery, lastStart, granted,
                                           delivered } := by
  refine ⟨⟨hinstances.trans h.linearized.instances, hsamples, hdiscovery, hstart⟩, ?_, ?_,
    h.distinct⟩
  · rw [InstancesValid, HumanSocket.write, hinstances]
    exact h.valid
  · intro readAt handler hmem
    refine (h.awaits readAt handler hmem).mono (Nat.le_succ _) (fun _ _ => rfl) fun hsame => ?_
    exact absurd hsame (Nat.succ_ne_self _)

variable {arrival : ℕ} {arrived : HostStateArrival}
  (hget : s.arrivals[arrival]? = some arrived) (hpending : arrived.decision = .pending)
  (hothers : ∀ p ∈ s.suspended, p.2.arrival? ≠ some arrival)
include hget hpending hothers

lemma drop : HostStateInv (s.decide arrival .dropped) := by
  refine ⟨⟨?_, h.linearized.samples, h.linearized.discovery, h.linearized.start⟩, h.valid, ?_,
    h.distinct⟩
  · rw [HumanSocket.decide, foldHostStates_drop hget hpending]
    exact h.linearized.instances
  · intro readAt handler hmem
    refine (h.awaits readAt handler hmem).mono le_rfl ?_ fun _ => ⟨rfl, ?_⟩
    · intro other hother
      refine List.getElem?_modify_ne _ _ ?_
      rintro rfl
      exact hothers _ hmem hother
    · intro j later hlater haccepted
      by_cases hj : arrival = j
      · subst hj
        rw [HumanSocket.decide, List.getElem?_modify_eq, hget] at hlater
        cases hlater
        cases haccepted
      · rwa [HumanSocket.decide, List.getElem?_modify_ne _ _ hj] at hlater

lemma accept (hlater : ∀ j, arrival < j → ∀ later, s.arrivals[j]? = some later →
      later.decision ≠ .accepted) {attachment : ConnectionAttachment}
    (hinstances : attachment.activeRoomAppInstances = HostStateArrival.apply
      s.attachment.activeRoomAppInstances { arrived with decision := .accepted })
    (hvalid : InstancesValid attachment)
    (hsamples : attachment.roomAppUnicastRateSamples = s.attachment.roomAppUnicastRateSamples)
    (hdiscovery : attachment.pendingTaskSessionDiscovery =
      s.attachment.pendingTaskSessionDiscovery)
    (hstart : attachment.pendingTaskSessionStart = s.attachment.pendingTaskSessionStart) :
    HostStateInv ((s.write attachment).decide arrival .accepted) := by
  refine ⟨⟨?_, hsamples.trans h.linearized.samples, hdiscovery.trans h.linearized.discovery,
    hstart.trans h.linearized.start⟩, hvalid, ?_, h.distinct⟩
  · refine hinstances.trans ?_
    rw [h.linearized.instances]
    exact (foldHostStates_accept hget hpending hlater).symm
  · intro readAt handler hmem
    refine (h.awaits readAt handler hmem).mono (Nat.le_succ _) ?_ fun hsame => ?_
    · intro other hother
      refine List.getElem?_modify_ne _ _ ?_
      rintro rfl
      exact hothers _ hmem hother
    · exact absurd hsame (Nat.succ_ne_self _)

end HostStateInv

/-! ## The steps -/

lemma HostStateInv.receiveHostState (env : SocketEnv) {s : HumanSocket} (h : HostStateInv s)
    (appInstanceId : String) (ready : Bool) (room : Option RoomRecord) (writable : Bool) :
    HostStateInv (s.receiveHostState env appInstanceId ready room writable) := by
  have harrive := h.arrive appInstanceId ready
  have hnew : (s.arrive appInstanceId ready).arrivals[s.arrivals.length]? =
      some { appInstanceId, ready, decision := .pending } := by
    simp [HumanSocket.arrive]
  have hothers : ∀ p ∈ s.suspended, p.2.arrival? ≠ some s.arrivals.length := by
    intro p hp hsame
    exact absurd (h.arrival_lt hp hsame) (Nat.lt_irrefl _)
  have hlater : ∀ j, s.arrivals.length < j → ∀ later,
      (s.arrive appInstanceId ready).arrivals[j]? = some later → later.decision ≠ .accepted := by
    intro j hlt later hget
    have hlt' := (List.getElem?_eq_some_iff.mp hget).1
    simp only [HumanSocket.arrive, List.length_append, List.length_singleton] at hlt'
    omega
  unfold HumanSocket.receiveHostState
  split
  · exact h
  · rename_i hvalid
    simp only [not_or, Bool.not_eq_false] at hvalid
    cases ready with
    | true =>
      refine harrive.suspend ⟨le_rfl, fun _ => rfl, ?_, ?_⟩ ?_
      · rintro attachment arrival id heq
        obtain ⟨rfl, rfl, rfl⟩ := SuspendedHandler.hostState.inj heq
        exact ⟨hvalid.1, hnew⟩
      · rintro - arrival harrival
        cases harrival
        exact hlater
      · rintro p hp arrival harrival hsame
        cases hsame
        exact hothers p hp harrival
    | false =>
      dsimp only
      rw [if_neg Bool.false_ne_true]
      split
      · refine harrive.accept hnew rfl hothers hlater ?_ (h.valid.writeNotReady appInstanceId)
          rfl rfl rfl
        simp [writeNotReady, h.valid.currentInstances_eq, HostStateArrival.apply,
          HumanSocket.arrive]
      · exact harrive.drop hnew rfl hothers

lemma HostStateInv.resumeHostState (env : SocketEnv) {s : HumanSocket} (h : HostStateInv s)
    {arrival readAt : ℕ} {appInstanceId : String}
    (hawaits : Awaits s readAt (.hostState attachment arrival appInstanceId))
    (hothers : ∀ p ∈ s.suspended, p.2.arrival? ≠ some arrival)
    (catalog : RoomAppCatalog) (room : Option RoomRecord) (writable : Bool)
    (hfresh : (readyMetadata env catalog appInstanceId).isSome = true →
      isCurrentHost room attachment = true → writable = true → readAt = s.writes) :
    HostStateInv (s.resumeHostState env attachment arrival appInstanceId catalog room writable) := by
  have harrived := hawaits.arrived _ _ _ rfl
  unfold HumanSocket.resumeHostState
  split
  · exact h.drop harrived.2 rfl hothers
  · rename_i metadata hmetadata
    obtain ⟨hready, hwrites⟩ := Option.filter_eq_some_iff.mp hmetadata
    rw [Bool.and_eq_true] at hwrites
    have hread := hfresh (by simp [hready]) hwrites.1 hwrites.2
    obtain rfl : attachment = s.attachment := hawaits.current hread
    have hid : metadata.appInstanceId = appInstanceId := by
      simp only [readyMetadata, Option.map_eq_some_iff] at hready
      obtain ⟨definition, -, rfl⟩ := hready
      rfl
    refine h.accept harrived.2 rfl hothers (hawaits.latest hread arrival rfl) ?_
      (h.valid.writeReady (hid ▸ harrived.1)) rfl rfl rfl
    simp [writeReady, h.valid.currentInstances_eq, HostStateArrival.apply, hid]

lemma HostStateInv.resumeUnicast (env : SocketEnv) {s : HumanSocket} (h : HostStateInv s)
    {request : RoomAppUnicast} (catalog : RoomAppCatalog) (room : Option RoomRecord) (now : ℕ)
    (writable : Bool) (candidates : List SocketCandidate) (sendable : Bool)
    (hfresh : (request.handle env catalog now writable candidates sendable).written.isSome =
      true → request.attachment = s.attachment) :
    HostStateInv (s.resumeUnicast env request catalog room now writable candidates sendable) := by
  unfold HumanSocket.resumeUnicast
  dsimp only
  split
  · rename_i attachment bytes hwritten hbytes
    have hcurrent := hfresh (by simp [hwritten])
    obtain ⟨_, _, -, -, -, hallowed, -⟩ := RoomAppUnicast.handle_written hwritten
    obtain ⟨heq, -, -⟩ := consumeRoomAppUnicastBudget_eq_allowed hallowed
    rw [hcurrent] at heq
    have hinstances : attachment.activeRoomAppInstances = s.attachment.activeRoomAppInstances := by
      rw [heq]
    have hdiscovery : attachment.pendingTaskSessionDiscovery = s.lastDiscovery := by
      rw [heq, ← h.linearized.discovery]
    have hstart : attachment.pendingTaskSessionStart = s.lastStart := by
      rw [heq, ← h.linearized.start]
    split
    · exact h.write hinstances rfl hdiscovery hstart _ _
    · exact h.write hinstances rfl hdiscovery hstart _ _
  · exact h

lemma HostStateInv.step (env : SocketEnv) {s : HumanSocket} (h : HostStateInv s)
    {op : HumanSocketOp} (hguard : NoStaleWrite env s op) : HostStateInv (s.step env op) := by
  cases op with
  | hostState appInstanceId ready room writable =>
    exact h.receiveHostState env appInstanceId ready room writable
  | unicast room message =>
    simp only [HumanSocket.step]
    split
    · exact h
    · rename_i request hreceive
      refine h.suspend ⟨le_rfl, fun _ => attachment_of_receiveRoomAppUnicast hreceive, ?_, ?_⟩ ?_
      · exact fun _ _ _ heq => nomatch heq
      · exact fun _ _ heq => nomatch heq
      · exact fun _ _ _ _ heq => nomatch heq
  | taskSession discovery start =>
    refine h.write ?_ ?_ ?_ ?_ _ _
    · rfl
    · exact h.linearized.samples
    · rfl
    · rfl
  | resume index catalog room now writable candidates sendable =>
    simp only [HumanSocket.step, HumanSocket.resume]
    split
    · exact h
    · rename_i readAt handler hget
      have hawaits := h.awaits readAt handler (List.mem_of_getElem? hget)
      have hrunning := h.erase index
      have hguard := hguard readAt handler hget
      cases handler with
      | hostState attachment arrival appInstanceId =>
        have hawaits' : Awaits { s with suspended := s.suspended.eraseIdx index } readAt
            (.hostState attachment arrival appInstanceId) :=
          hawaits.mono le_rfl (fun _ _ => rfl) fun _ => ⟨rfl, fun _ _ hget _ => hget⟩
        refine hrunning.resumeHostState env hawaits' (h.arrival_ne_of_erase hget rfl) catalog
          room writable ?_
        intro hready hhost hwritable
        exact hguard (by simp [SuspendedHandler.writes, hready, hhost, hwritable])
      | unicast request =>
        refine hrunning.resumeUnicast env catalog room now writable candidates sendable ?_
        intro hwritten
        rw [RoomAppUnicast.handle_written_congr env request catalog now writable candidates []
          sendable false] at hwritten
        exact hawaits.current (hguard hwritten)

end Free4Chat
