import Free4Chat.Room.MediaGrants

/-!
# Closing Media

An attempt to close media takes a snapshot of the queue of pending closes, asks for the closes, and
takes the ones that were confirmed out of the queue as it is by then. Mids may have been queued while
the closes were in flight.

* `snapshotMediaCloseEffects`, `executeMediaCloseEffects` and `attemptCleanupNow`: one attempt.
* `Confirmed`: a pair of a session and a mid was requested and confirmed.
* `reconcileMediaCloseResults_eq`: what reconciliation does to a queue, entry by entry.
* `UniqueCleanup`: no session is queued twice, and no mid of a session.
* `mediaCloseExact`: reconciliation takes out the confirmed pairs and no others. It commutes with the
  mids that were queued in between, as long as these leave the confirmed pairs alone.

The source promises the same queue in either order. The order of the sessions depends on it: a
session whose mids were all confirmed leaves the queue, and returns at its end.
-/

namespace Free4Chat

variable {entries : List PendingMediaCleanup} {results : List MediaCloseResult}
  {ops : List PendingMediaCleanup}

/-! ## Attempts -/

/-- The closes that an attempt asks for. -/
def snapshotMediaCloseEffects (entries : List PendingMediaCleanup) : List PendingMediaCleanup :=
  entries.filter fun effect => !effect.mids.isEmpty

/-- The results of the closes, where `close` says which mids of an effect are confirmed. -/
def executeMediaCloseEffects (close : PendingMediaCleanup → List String)
    (effects : List PendingMediaCleanup) : List MediaCloseResult :=
  effects.map fun effect => { effect, confirmedMids := close effect }

/-- One attempt to close the media of some entries. The queue is loaded anew when the closes have
returned, and nothing is saved where none was confirmed. -/
def attemptCleanupNow (close : PendingMediaCleanup → List String)
    (entries fresh : List PendingMediaCleanup) : List PendingMediaCleanup :=
  let effects := snapshotMediaCloseEffects entries
  if effects.isEmpty then fresh
  else
    let results := executeMediaCloseEffects close effects
    if results.any fun result => !result.confirmedMids.isEmpty then
      reconcileMediaCloseResults fresh results
    else fresh

/-- Queues several closes, one session after the other. -/
def queueAll (entries ops : List PendingMediaCleanup) : List PendingMediaCleanup :=
  ops.foldl (fun queue op => queuePendingCleanup queue op.sessionId op.mids) entries

/-! ## Pairs -/

/-- The pairs of a session and a mid in a queue. -/
def cleanupPairs (entries : List PendingMediaCleanup) : List (String × String) :=
  entries.flatMap fun entry => entry.mids.map fun mid => (entry.sessionId, mid)

/-- The mids in a queue for one session. -/
def midsOf (entries : List PendingMediaCleanup) (sessionId : String) : List String :=
  entries.flatMap fun entry => if entry.sessionId = sessionId then entry.mids else []

/-- A close of a mid was requested and confirmed. -/
def Confirmed (results : List MediaCloseResult) (sessionId mid : String) : Prop :=
  ∃ result ∈ results, result.effect.sessionId = sessionId ∧ mid ∈ result.effect.mids ∧
    mid ∈ result.confirmedMids

instance (results : List MediaCloseResult) (sessionId mid : String) :
    Decidable (Confirmed results sessionId mid) :=
  inferInstanceAs (Decidable (∃ result ∈ results, result.effect.sessionId = sessionId ∧
    mid ∈ result.effect.mids ∧ mid ∈ result.confirmedMids))

/-- No session is queued twice, no mid of a session is queued twice, and every entry has mids. -/
structure UniqueCleanup (entries : List PendingMediaCleanup) : Prop where
  sessions : (entries.map (·.sessionId)).Nodup
  mids : ∀ entry ∈ entries, entry.mids.Nodup
  nonempty : ∀ entry ∈ entries, entry.mids ≠ []

variable {sessionId mid : String}

lemma mem_cleanupPairs : (sessionId, mid) ∈ cleanupPairs entries ↔
      ∃ entry ∈ entries, entry.sessionId = sessionId ∧ mid ∈ entry.mids := by
  simp [cleanupPairs, and_comm]

lemma mem_midsOf : mid ∈ midsOf entries sessionId ↔ (sessionId, mid) ∈ cleanupPairs entries := by
  rw [mem_cleanupPairs, midsOf, List.mem_flatMap]
  refine exists_congr fun entry => and_congr_right fun _ => ?_
  by_cases h : entry.sessionId = sessionId
  · rw [if_pos h]
    exact ⟨fun hmid => ⟨h, hmid⟩, fun hmid => hmid.2⟩
  · rw [if_neg h]
    exact ⟨fun hmid => absurd hmid List.not_mem_nil, fun hmid => absurd hmid.1 h⟩

lemma midsOf_cons (entry : PendingMediaCleanup) (entries : List PendingMediaCleanup)
    (sessionId : String) : midsOf (entry :: entries) sessionId =
      (if entry.sessionId = sessionId then entry.mids else []) ++ midsOf entries sessionId := by
  rw [midsOf, List.flatMap_cons]
  rfl

/-! ## Reconciliation -/

/-- The mids of an entry that were not confirmed. -/
def unconfirmed (results : List MediaCloseResult) (entry : PendingMediaCleanup) :
    PendingMediaCleanup :=
  { entry with mids := entry.mids.filter fun mid => ¬Confirmed results entry.sessionId mid }

@[simp]
lemma unconfirmed_sessionId (results : List MediaCloseResult) (entry : PendingMediaCleanup) :
    (unconfirmed results entry).sessionId = entry.sessionId := rfl

variable {result : MediaCloseResult}

lemma mem_confirmedMidsForEffect {mid : String} : mid ∈ confirmedMidsForEffect result ↔
      mid ∈ result.effect.mids ∧ mid ∈ result.confirmedMids := by
  rw [confirmedMidsForEffect, List.mem_distinct, List.mem_filter, decide_eq_true_iff]
  exact and_comm

lemma confirmed_singleton : Confirmed [result] sessionId mid ↔
      result.effect.sessionId = sessionId ∧ mid ∈ confirmedMidsForEffect result := by
  rw [mem_confirmedMidsForEffect]
  simp [Confirmed]

lemma not_confirmed_nil : ¬Confirmed [] sessionId mid := by
  rintro ⟨result, hmem, _⟩
  exact List.not_mem_nil hmem

lemma confirmed_cons : Confirmed (result :: results) sessionId mid ↔
      Confirmed [result] sessionId mid ∨ Confirmed results sessionId mid := by
  simp [Confirmed]

variable {entry : PendingMediaCleanup}

lemma unconfirmed_eq_self (h : ∀ mid ∈ entry.mids, ¬Confirmed results entry.sessionId mid) :
    unconfirmed results entry = entry := by
  have hmids : (entry.mids.filter fun mid => ¬Confirmed results entry.sessionId mid) =
      entry.mids :=
    List.filter_eq_self.mpr fun mid hmid => decide_eq_true (h mid hmid)
  rw [unconfirmed, hmids]

lemma unconfirmed_cons (result : MediaCloseResult) (results : List MediaCloseResult)
    (entry : PendingMediaCleanup) :
    unconfirmed (result :: results) entry = unconfirmed results (unconfirmed [result] entry) := by
  simp only [unconfirmed, List.filter_filter, PendingMediaCleanup.mk.injEq, true_and]
  refine List.filter_congr fun mid _ => ?_
  have hiff : ¬Confirmed (result :: results) entry.sessionId mid ↔
      ¬Confirmed results entry.sessionId mid ∧ ¬Confirmed [result] entry.sessionId mid := by
    rw [confirmed_cons, not_or]
    exact and_comm
  rw [decide_eq_decide.mpr hiff, Bool.decide_and]
  rfl

/-- A queue without the entries that have no mids left. -/
def dropEmpty (entries : List PendingMediaCleanup) : List PendingMediaCleanup :=
  entries.filter fun entry => !entry.mids.isEmpty

lemma dropEmpty_eq_self (h : ∀ entry ∈ entries, entry.mids ≠ []) : dropEmpty entries = entries := by
  refine List.filter_eq_self.mpr fun entry hentry => ?_
  rw [Bool.not_eq_true', List.isEmpty_eq_false_iff]
  exact h entry hentry

lemma dropEmpty_cons_of_nil (h : entry.mids = []) :
    dropEmpty (entry :: entries) = dropEmpty entries :=
  List.filter_cons_of_neg (by simp [h])

lemma dropEmpty_cons_of_ne_nil (h : entry.mids ≠ []) :
    dropEmpty (entry :: entries) = entry :: dropEmpty entries :=
  List.filter_cons_of_pos (by simp [h])

lemma reconcileMediaCloseResult_eq (h : ∀ entry ∈ entries, entry.mids ≠ [])
    (result : MediaCloseResult) :
    reconcileMediaCloseResult entries result = dropEmpty (entries.map (unconfirmed [result])) := by
  have hentry (entry : PendingMediaCleanup) :
      (if entry.sessionId = result.effect.sessionId then
        { entry with mids := entry.mids.filter (· ∉ confirmedMidsForEffect result) }
      else entry) = unconfirmed [result] entry := by
    split
    next hid =>
      have hmids (mid : String) : decide (mid ∉ confirmedMidsForEffect result) =
          decide (¬Confirmed [result] entry.sessionId mid) := by
        refine decide_eq_decide.mpr (not_congr ?_)
        rw [confirmed_singleton, hid, eq_self, true_and]
      rw [unconfirmed, funext hmids]
    next hid =>
      refine (unconfirmed_eq_self fun mid _ hconfirmed => hid ?_).symm
      exact (confirmed_singleton.mp hconfirmed).1.symm
  rw [reconcileMediaCloseResult]
  simp only [hentry]
  split
  next hempty =>
    -- Where the result confirms nothing, every entry stays, and none is empty.
    have hself : entries.map (unconfirmed [result]) = entries := by
      refine (List.map_congr_left fun entry _ => ?_).trans (List.map_id entries)
      refine unconfirmed_eq_self fun mid _ hconfirmed => ?_
      have hmem := (confirmed_singleton.mp hconfirmed).2
      rw [List.isEmpty_iff.mp hempty] at hmem
      exact List.not_mem_nil hmem
    rw [hself, dropEmpty_eq_self h]
  next => rfl

lemma nonempty_of_mem_dropEmpty (h : entry ∈ dropEmpty entries) : entry.mids ≠ [] := by
  have hne := (List.mem_filter.mp h).2
  rwa [Bool.not_eq_true', List.isEmpty_eq_false_iff] at hne

lemma dropEmpty_map_dropEmpty (result : MediaCloseResult) (results : List MediaCloseResult)
    (entries : List PendingMediaCleanup) :
    dropEmpty ((dropEmpty (entries.map (unconfirmed [result]))).map (unconfirmed results)) =
      dropEmpty (entries.map (unconfirmed (result :: results))) := by
  induction entries with
  | nil => rfl
  | cons entry entries ih =>
    rw [List.map_cons, List.map_cons, unconfirmed_cons result results]
    by_cases hempty : (unconfirmed [result] entry).mids = []
    · have hnone : (unconfirmed results (unconfirmed [result] entry)).mids = [] := by
        show List.filter _ (unconfirmed [result] entry).mids = []
        rw [hempty, List.filter_nil]
      rw [dropEmpty_cons_of_nil hempty, dropEmpty_cons_of_nil hnone, ih]
    · rw [dropEmpty_cons_of_ne_nil hempty, List.map_cons]
      by_cases hrest : (unconfirmed results (unconfirmed [result] entry)).mids = []
      · rw [dropEmpty_cons_of_nil hrest, dropEmpty_cons_of_nil hrest, ih]
      · rw [dropEmpty_cons_of_ne_nil hrest, dropEmpty_cons_of_ne_nil hrest, ih]

lemma reconcileMediaCloseResults_eq (h : ∀ entry ∈ entries, entry.mids ≠ [])
    (results : List MediaCloseResult) :
    reconcileMediaCloseResults entries results = dropEmpty (entries.map (unconfirmed results)) := by
  induction results generalizing entries with
  | nil =>
    have hself : entries.map (unconfirmed []) = entries :=
      (List.map_congr_left fun entry _ => unconfirmed_eq_self fun _ _ => not_confirmed_nil).trans
        (List.map_id entries)
    rw [hself, dropEmpty_eq_self h]
    rfl
  | cons result results ih =>
    show reconcileMediaCloseResults (reconcileMediaCloseResult entries result) results = _
    rw [reconcileMediaCloseResult_eq h, ih fun _ => nonempty_of_mem_dropEmpty]
    exact dropEmpty_map_dropEmpty result results entries

lemma cleanupPairs_cons (entry : PendingMediaCleanup) (entries : List PendingMediaCleanup) :
    cleanupPairs (entry :: entries) =
      (entry.mids.map fun mid => (entry.sessionId, mid)) ++ cleanupPairs entries := by
  rw [cleanupPairs, List.flatMap_cons]
  rfl

lemma cleanupPairs_dropEmpty (entries : List PendingMediaCleanup) :
    cleanupPairs (dropEmpty entries) = cleanupPairs entries := by
  induction entries with
  | nil => rfl
  | cons entry entries ih =>
    by_cases hempty : entry.mids = []
    · rw [dropEmpty_cons_of_nil hempty, ih, cleanupPairs_cons, hempty, List.map_nil, List.nil_append]
    · rw [dropEmpty_cons_of_ne_nil hempty, cleanupPairs_cons, cleanupPairs_cons, ih]

lemma cleanupPairs_reconcile (h : ∀ entry ∈ entries, entry.mids ≠ [])
    (results : List MediaCloseResult) : cleanupPairs (reconcileMediaCloseResults entries results) =
      (cleanupPairs entries).filter fun pair => ¬Confirmed results pair.1 pair.2 := by
  rw [reconcileMediaCloseResults_eq h, cleanupPairs_dropEmpty]
  clear h
  induction entries with
  | nil => rfl
  | cons entry entries ih =>
    rw [List.map_cons, cleanupPairs_cons, cleanupPairs_cons, List.filter_append, ih, List.filter_map]
    rfl

lemma midsOf_reconcile (h : ∀ entry ∈ entries, entry.mids ≠ []) (results : List MediaCloseResult)
    (sessionId : String) : midsOf (reconcileMediaCloseResults entries results) sessionId =
      (midsOf entries sessionId).filter fun mid => ¬Confirmed results sessionId mid := by
  rw [reconcileMediaCloseResults_eq h]
  clear h
  induction entries with
  | nil => rfl
  | cons entry entries ih =>
    rw [midsOf_cons, List.filter_append, ← ih, List.map_cons]
    by_cases hempty : (unconfirmed results entry).mids = []
    · rw [dropEmpty_cons_of_nil hempty, ← List.nil_append (midsOf _ sessionId)]
      congr 1
      by_cases hid : entry.sessionId = sessionId
      · subst hid
        rw [if_pos rfl]
        exact hempty.symm
      · rw [if_neg hid, List.filter_nil]
    · rw [dropEmpty_cons_of_ne_nil hempty, midsOf_cons]
      congr 1
      show (if entry.sessionId = sessionId then (unconfirmed results entry).mids else []) = _
      by_cases hid : entry.sessionId = sessionId
      · subst hid
        rw [if_pos rfl, if_pos rfl]
        rfl
      · rw [if_neg hid, if_neg hid, List.filter_nil]

lemma UniqueCleanup.reconcile (h : UniqueCleanup entries) (results : List MediaCloseResult) :
    UniqueCleanup (reconcileMediaCloseResults entries results) := by
  rw [reconcileMediaCloseResults_eq h.nonempty]
  refine ⟨?_, ?_, fun _ => nonempty_of_mem_dropEmpty⟩
  · have hsessions : ((entries.map (unconfirmed results)).map (·.sessionId)).Nodup := by
      rw [List.map_map]
      exact h.sessions
    exact hsessions.sublist (List.filter_sublist.map _)
  · intro entry hentry
    obtain ⟨old, hold, rfl⟩ := List.mem_map.mp (List.mem_filter.mp hentry).1
    exact (h.mids old hold).filter _

/-! ## Queuing -/

lemma map_sessionId_mergePendingCleanup (sessionId : String) (mids : List String)
    (entries : List PendingMediaCleanup) :
    (mergePendingCleanup sessionId mids entries).map (·.sessionId) =
      if sessionId ∈ entries.map (·.sessionId) then entries.map (·.sessionId)
      else entries.map (·.sessionId) ++ [sessionId] := by
  induction entries with
  | nil => rfl
  | cons entry entries ih =>
    rw [mergePendingCleanup]
    by_cases hid : entry.sessionId = sessionId
    · rw [if_pos hid, List.map_cons, List.map_cons, hid, if_pos List.mem_cons_self]
    · rw [if_neg hid, List.map_cons, ih, List.map_cons]
      have hmem : sessionId ∈ entry.sessionId :: entries.map (·.sessionId) ↔
          sessionId ∈ entries.map (·.sessionId) := by
        rw [List.mem_cons]
        exact or_iff_right (Ne.symm hid)
      by_cases hin : sessionId ∈ entries.map (·.sessionId)
      · rw [if_pos hin, if_pos (hmem.mpr hin)]
      · rw [if_neg hin, if_neg (mt hmem.mp hin), List.cons_append]

variable {mids : List String}

lemma mem_mergePendingCleanup {sessionId : String}
    (h : entry ∈ mergePendingCleanup sessionId mids entries) :
    entry ∈ entries ∨ entry = { sessionId, mids := mids.distinct } ∨
      ∃ old ∈ entries, old.sessionId = sessionId ∧
        entry = { sessionId, mids := (old.mids ++ mids).distinct } := by
  induction entries with
  | nil => exact .inr (.inl (List.mem_singleton.mp h))
  | cons first entries ih =>
    rw [mergePendingCleanup] at h
    split at h
    next hid =>
      rcases List.mem_cons.mp h with rfl | h
      · exact .inr (.inr ⟨first, List.mem_cons_self, hid, rfl⟩)
      · exact .inl (List.mem_cons_of_mem _ h)
    next =>
      rcases List.mem_cons.mp h with rfl | h
      · exact .inl List.mem_cons_self
      · rcases ih h with h | h | ⟨old, hold, heq⟩
        · exact .inl (List.mem_cons_of_mem _ h)
        · exact .inr (.inl h)
        · exact .inr (.inr ⟨old, List.mem_cons_of_mem _ hold, heq⟩)

lemma UniqueCleanup.queue (h : UniqueCleanup entries) (sessionId : String) (mids : List String) :
    UniqueCleanup (queuePendingCleanup entries sessionId mids) := by
  rw [queuePendingCleanup]
  split
  next => exact h
  next hmids =>
    have hne : mids ≠ [] := fun hnil => hmids (by rw [hnil]; rfl)
    refine ⟨?_, ?_, ?_⟩
    · rw [map_sessionId_mergePendingCleanup]
      split
      next => exact h.sessions
      next hnew =>
        rw [← List.concat_eq_append]
        exact h.sessions.concat hnew
    · intro entry hentry
      rcases mem_mergePendingCleanup hentry with hentry | rfl | ⟨old, _, _, rfl⟩
      · exact h.mids entry hentry
      · exact List.nodup_distinct _
      · exact List.nodup_distinct _
    · intro entry hentry
      rcases mem_mergePendingCleanup hentry with hentry | rfl | ⟨old, _, _, rfl⟩
      · exact h.nonempty entry hentry
      · exact List.distinct_ne_nil hne
      · exact List.distinct_ne_nil (List.append_ne_nil_of_right_ne_nil _ hne)

lemma UniqueCleanup.queueAll (h : UniqueCleanup entries) (ops : List PendingMediaCleanup) :
    UniqueCleanup (queueAll entries ops) := by
  induction ops generalizing entries with
  | nil => exact h
  | cons op ops ih => exact ih (h.queue op.sessionId op.mids)

lemma midsOf_eq_nil {sessionId : String} (h : sessionId ∉ entries.map (·.sessionId)) :
    midsOf entries sessionId = [] := by
  refine List.eq_nil_iff_forall_not_mem.mpr fun mid hmid => h ?_
  obtain ⟨entry, hentry, hid, _⟩ := mem_cleanupPairs.mp (mem_midsOf.mp hmid)
  exact hid ▸ List.mem_map_of_mem hentry

lemma UniqueCleanup.nodup_midsOf (h : UniqueCleanup entries) (sessionId : String) :
    (midsOf entries sessionId).Nodup := by
  obtain ⟨hsessions, hmids, hnonempty⟩ := h
  clear hnonempty
  induction entries with
  | nil => exact List.nodup_nil
  | cons entry entries ih =>
    rw [List.map_cons, List.nodup_cons] at hsessions
    rw [midsOf_cons]
    by_cases hid : entry.sessionId = sessionId
    · rw [if_pos hid, midsOf_eq_nil (hid ▸ hsessions.1), List.append_nil]
      exact hmids entry List.mem_cons_self
    · rw [if_neg hid, List.nil_append]
      exact ih hsessions.2 fun other hother => hmids other (List.mem_cons_of_mem _ hother)

lemma UniqueCleanup.nodup_cleanupPairs (h : UniqueCleanup entries) :
    (cleanupPairs entries).Nodup := by
  refine List.nodup_flatMap.mpr ⟨fun entry hentry => ?_, ?_⟩
  · exact (h.mids entry hentry).map fun _ _ heq => (Prod.mk.inj heq).2
  · refine (List.pairwise_map.mp h.sessions).imp fun {first second} hne => ?_
    intro pair hfirst hsecond
    obtain ⟨_, _, rfl⟩ := List.mem_map.mp hfirst
    obtain ⟨_, _, heq⟩ := List.mem_map.mp hsecond
    exact hne (Prod.mk.inj heq).1.symm

lemma midsOf_mergePendingCleanup (h : (entries.map (·.sessionId)).Nodup)
    (op : PendingMediaCleanup) (sessionId : String) :
    midsOf (mergePendingCleanup op.sessionId op.mids entries) sessionId =
      if op.sessionId = sessionId then (midsOf entries sessionId ++ op.mids).distinct
      else midsOf entries sessionId := by
  induction entries with
  | nil =>
    rw [mergePendingCleanup, midsOf_cons]
    exact List.append_nil _
  | cons entry entries ih =>
    rw [List.map_cons, List.nodup_cons] at h
    rw [mergePendingCleanup]
    by_cases hentry : entry.sessionId = op.sessionId
    · rw [if_pos hentry, midsOf_cons, midsOf_cons, hentry]
      by_cases hid : op.sessionId = sessionId
      · -- The session is in no later entry.
        have hrest : midsOf entries sessionId = [] := midsOf_eq_nil (hid ▸ hentry ▸ h.1)
        rw [if_pos hid, if_pos hid, if_pos hid, hrest, List.append_nil, List.append_nil]
      · rw [if_neg hid, if_neg hid, if_neg hid]
    · rw [if_neg hentry, midsOf_cons, midsOf_cons, ih h.2]
      by_cases hid : op.sessionId = sessionId
      · have hne : entry.sessionId ≠ sessionId := hid ▸ hentry
        rw [if_pos hid, if_pos hid, if_neg hne, List.nil_append, List.nil_append]
      · rw [if_neg hid, if_neg hid]

lemma UniqueCleanup.midsOf_queueAll (h : UniqueCleanup entries) (ops : List PendingMediaCleanup)
    (sessionId : String) : midsOf (Free4Chat.queueAll entries ops) sessionId =
      (midsOf entries sessionId ++ midsOf ops sessionId).distinct := by
  induction ops generalizing entries with
  | nil =>
    show midsOf entries sessionId = (midsOf entries sessionId ++ []).distinct
    rw [List.append_nil, List.distinct_of_nodup (h.nodup_midsOf sessionId)]
  | cons op ops ih =>
    have hqueue : midsOf (queuePendingCleanup entries op.sessionId op.mids) sessionId =
        if op.sessionId = sessionId then (midsOf entries sessionId ++ op.mids).distinct
        else midsOf entries sessionId := by
      rw [queuePendingCleanup]
      split
      next hmids =>
        rw [List.isEmpty_iff.mp hmids, List.append_nil,
          List.distinct_of_nodup (h.nodup_midsOf sessionId), ite_self]
      next => exact midsOf_mergePendingCleanup h.sessions op sessionId
    show midsOf (Free4Chat.queueAll (queuePendingCleanup entries op.sessionId op.mids) ops)
      sessionId = _
    rw [ih (h.queue op.sessionId op.mids), hqueue, midsOf_cons]
    by_cases hid : op.sessionId = sessionId
    · rw [if_pos hid, if_pos hid, List.distinct_distinct_append, List.append_assoc]
    · rw [if_neg hid, if_neg hid, List.nil_append]

lemma UniqueCleanup.mem_cleanupPairs_queueAll (h : UniqueCleanup entries)
    (ops : List PendingMediaCleanup) (pair : String × String) :
    pair ∈ cleanupPairs (Free4Chat.queueAll entries ops) ↔
      pair ∈ cleanupPairs entries ∨ pair ∈ cleanupPairs ops := by
  rw [← mem_midsOf, ← mem_midsOf, ← mem_midsOf, h.midsOf_queueAll, List.mem_distinct,
    List.mem_append]

lemma mem_cleanupPairs_mergePendingCleanup {sessionId : String} {pair : String × String} :
    pair ∈ cleanupPairs (mergePendingCleanup sessionId mids entries) ↔
      pair ∈ cleanupPairs entries ∨ pair.1 = sessionId ∧ pair.2 ∈ mids := by
  obtain ⟨s, mid⟩ := pair
  induction entries with
  | nil =>
    rw [mem_cleanupPairs, mergePendingCleanup]
    simp [cleanupPairs, eq_comm]
  | cons entry entries ih =>
    rw [mergePendingCleanup]
    split
    next hid =>
      rw [cleanupPairs_cons, cleanupPairs_cons, List.mem_append, List.mem_append, hid]
      simp only [List.mem_map, List.mem_distinct, List.mem_append, Prod.mk.injEq]
      grind
    next =>
      rw [cleanupPairs_cons, cleanupPairs_cons, List.mem_append, List.mem_append, ih, or_assoc]

lemma mem_cleanupPairs_queuePendingCleanup {sessionId : String} {pair : String × String} :
    pair ∈ cleanupPairs (queuePendingCleanup entries sessionId mids) ↔
      pair ∈ cleanupPairs entries ∨ pair.1 = sessionId ∧ pair.2 ∈ mids := by
  rw [queuePendingCleanup]
  split
  next hmids =>
    rw [List.isEmpty_iff.mp hmids]
    simp
  next => exact mem_cleanupPairs_mergePendingCleanup

lemma cleanupPairs_sublist_merge (h : ∀ entry ∈ entries, entry.mids.Nodup) (sessionId : String)
    (mids : List String) :
    (cleanupPairs entries).Sublist (cleanupPairs (mergePendingCleanup sessionId mids entries)) := by
  induction entries with
  | nil => exact List.nil_sublist _
  | cons entry entries ih =>
    rw [mergePendingCleanup]
    split
    next hid =>
      rw [cleanupPairs_cons, cleanupPairs_cons, hid]
      have hstart := List.distinct_prefix_append entry.mids mids
      rw [List.distinct_of_nodup (h entry List.mem_cons_self)] at hstart
      exact (hstart.sublist.map _).append (List.Sublist.refl _)
    next =>
      rw [cleanupPairs_cons, cleanupPairs_cons]
      have hrest := ih fun other hother => h other (List.mem_cons_of_mem _ hother)
      exact (List.Sublist.refl _).append hrest

lemma UniqueCleanup.cleanupPairs_sublist_queueAll (h : UniqueCleanup entries)
    (ops : List PendingMediaCleanup) :
    (cleanupPairs entries).Sublist (cleanupPairs (Free4Chat.queueAll entries ops)) := by
  induction ops generalizing entries with
  | nil => exact List.Sublist.refl _
  | cons op ops ih =>
    have hone : (cleanupPairs entries).Sublist
        (cleanupPairs (queuePendingCleanup entries op.sessionId op.mids)) := by
      rw [queuePendingCleanup]
      split
      next => exact List.Sublist.refl _
      next => exact cleanupPairs_sublist_merge h.mids op.sessionId op.mids
    exact hone.trans (ih (h.queue op.sessionId op.mids))

/-! ## Closes in flight -/

/-- What is queued leaves the confirmed closes alone: none of its mids is confirmed, and its session
keeps a mid where it is queued already. -/
structure Undisturbed (entries : List PendingMediaCleanup) (results : List MediaCloseResult)
    (op : PendingMediaCleanup) : Prop where
  notConfirmed : ∀ mid ∈ op.mids, ¬Confirmed results op.sessionId mid
  keepsSession : ∀ entry ∈ entries, entry.sessionId = op.sessionId →
    (unconfirmed results entry).mids ≠ []

lemma dropEmpty_unconfirmed_merge {op : PendingMediaCleanup} (hmids : op.mids ≠ [])
    (h : Undisturbed entries results op) :
    dropEmpty ((mergePendingCleanup op.sessionId op.mids entries).map (unconfirmed results)) =
      mergePendingCleanup op.sessionId op.mids
        (dropEmpty (entries.map (unconfirmed results))) := by
  have hself : op.mids.filter (fun mid => ¬Confirmed results op.sessionId mid) = op.mids :=
    List.filter_eq_self.mpr fun mid hmid => decide_eq_true (h.notConfirmed mid hmid)
  -- What is left of the mids of an entry, with the new ones behind.
  have hentry (mids : List String) :
      unconfirmed results { sessionId := op.sessionId, mids := (mids ++ op.mids).distinct } =
        { sessionId := op.sessionId
          mids := ((mids.filter fun mid => ¬Confirmed results op.sessionId mid) ++
            op.mids).distinct } := by
    rw [unconfirmed, List.filter_distinct, List.filter_append, hself]
  obtain ⟨_, hkeeps⟩ := h
  induction entries with
  | nil =>
    have hnil := hentry []
    rw [List.nil_append, List.filter_nil, List.nil_append] at hnil
    rw [mergePendingCleanup, List.map_cons, hnil, dropEmpty_cons_of_ne_nil (List.distinct_ne_nil hmids)]
    rfl
  | cons entry entries ih =>
    have ih := ih fun other hother => hkeeps other (List.mem_cons_of_mem _ hother)
    rw [mergePendingCleanup, List.map_cons]
    split
    next hid =>
      have hne := hkeeps entry List.mem_cons_self hid
      have hnew := List.append_ne_nil_of_right_ne_nil
        (entry.mids.filter fun mid => ¬Confirmed results op.sessionId mid) hmids
      rw [List.map_cons, hentry, dropEmpty_cons_of_ne_nil (List.distinct_ne_nil hnew),
        dropEmpty_cons_of_ne_nil hne, mergePendingCleanup, unconfirmed_sessionId, if_pos hid, ← hid]
      rfl
    next hid =>
      rw [List.map_cons]
      by_cases hempty : (unconfirmed results entry).mids = []
      · rw [dropEmpty_cons_of_nil hempty, dropEmpty_cons_of_nil hempty, ih]
      · rw [dropEmpty_cons_of_ne_nil hempty, dropEmpty_cons_of_ne_nil hempty, ih,
          mergePendingCleanup, unconfirmed_sessionId, if_neg hid]

lemma Undisturbed.queue {first op : PendingMediaCleanup} (hfirst : Undisturbed entries results first)
    (h : Undisturbed entries results op) :
    Undisturbed (queuePendingCleanup entries first.sessionId first.mids) results op := by
  refine ⟨h.notConfirmed, fun entry hentry hid => ?_⟩
  rw [queuePendingCleanup] at hentry
  split at hentry
  next => exact h.keepsSession entry hentry hid
  next hmids =>
    have hne : first.mids ≠ [] := fun hnil => hmids (by rw [hnil]; rfl)
    obtain ⟨mid, hmid⟩ := List.exists_mem_of_ne_nil _ hne
    have hnot := decide_eq_true (hfirst.notConfirmed mid hmid)
    -- An entry that was queued has the first of the new mids, which is not confirmed.
    rcases mem_mergePendingCleanup hentry with hentry | rfl | ⟨old, _, _, rfl⟩
    · exact h.keepsSession entry hentry hid
    · exact List.ne_nil_of_mem (List.mem_filter.mpr ⟨List.mem_distinct.mpr hmid, hnot⟩)
    · have hmem := List.mem_distinct.mpr (List.mem_append_right old.mids hmid)
      exact List.ne_nil_of_mem (List.mem_filter.mpr ⟨hmem, hnot⟩)

lemma UniqueCleanup.reconcile_queueAll (hunique : UniqueCleanup entries)
    (h : ∀ op ∈ ops, Undisturbed entries results op) :
    reconcileMediaCloseResults (Free4Chat.queueAll entries ops) results =
      Free4Chat.queueAll (reconcileMediaCloseResults entries results) ops := by
  induction ops generalizing entries with
  | nil => rfl
  | cons op ops ih =>
    have hfirst := h op List.mem_cons_self
    have hone : reconcileMediaCloseResults
        (queuePendingCleanup entries op.sessionId op.mids) results =
        queuePendingCleanup (reconcileMediaCloseResults entries results) op.sessionId op.mids := by
      have hqueued := hunique.queue op.sessionId op.mids
      rw [reconcileMediaCloseResults_eq hqueued.nonempty,
        reconcileMediaCloseResults_eq hunique.nonempty]
      simp only [queuePendingCleanup]
      split
      next => rfl
      next hmids =>
        have hne : op.mids ≠ [] := fun hnil => hmids (by rw [hnil]; rfl)
        exact dropEmpty_unconfirmed_merge hne hfirst
    have hrest := ih (hunique.queue op.sessionId op.mids) fun other hother =>
      hfirst.queue (h other (List.mem_cons_of_mem _ hother))
    show reconcileMediaCloseResults (Free4Chat.queueAll
      (queuePendingCleanup entries op.sessionId op.mids) ops) results = _
    rw [hrest, hone]
    rfl

/-! ## Exactness -/

/-- What a queue is after closes were confirmed, while other mids were queued. -/
structure MediaCloseExact (entries : List PendingMediaCleanup) (results : List MediaCloseResult)
    (ops : List PendingMediaCleanup) : Prop where
  -- The confirmed pairs are gone, and the others are there once and in order.
  removesConfirmed : cleanupPairs (reconcileMediaCloseResults entries results) =
    (cleanupPairs entries).filter fun pair => ¬Confirmed results pair.1 pair.2
  keptOnce : (cleanupPairs (reconcileMediaCloseResults entries results)).Nodup
  keptUnique : UniqueCleanup (reconcileMediaCloseResults entries results)
  -- What is queued in between could as well have been queued afterwards.
  commutes : (∀ op ∈ ops, Undisturbed entries results op) →
    reconcileMediaCloseResults (queueAll entries ops) results =
      queueAll (reconcileMediaCloseResults entries results) ops
  -- Whatever is queued, the mids of every session are the same but for the confirmed ones.
  sameMids : ∀ sessionId, midsOf (reconcileMediaCloseResults (queueAll entries ops) results) sessionId =
    (midsOf (queueAll (reconcileMediaCloseResults entries results) ops) sessionId).filter
      fun mid => ¬Confirmed results sessionId mid
  -- Queuing keeps sessions and mids unique, and drops no pair.
  queuedUnique : UniqueCleanup (queueAll entries ops)
  queuedKeeps : (cleanupPairs entries).Sublist (cleanupPairs (queueAll entries ops))
  queuedAdds : ∀ pair, pair ∈ cleanupPairs (queueAll entries ops) ↔
    pair ∈ cleanupPairs entries ∨ pair ∈ cleanupPairs ops

/-- Reconciliation is exact on every queue without repetition, whatever was requested, confirmed and
queued in between. -/
theorem mediaCloseExact (h : UniqueCleanup entries) (results : List MediaCloseResult)
    (ops : List PendingMediaCleanup) : MediaCloseExact entries results ops where
  removesConfirmed := cleanupPairs_reconcile h.nonempty results
  keptOnce := (h.reconcile results).nodup_cleanupPairs
  keptUnique := h.reconcile results
  commutes := h.reconcile_queueAll
  sameMids sessionId := by
    rw [midsOf_reconcile (h.queueAll ops).nonempty, h.midsOf_queueAll,
      (h.reconcile results).midsOf_queueAll, midsOf_reconcile h.nonempty, List.filter_distinct,
      List.filter_distinct, List.filter_append, List.filter_append, List.filter_filter]
    simp only [Bool.and_self]
  queuedUnique := h.queueAll ops
  queuedKeeps := h.cleanupPairs_sublist_queueAll ops
  queuedAdds := h.mem_cleanupPairs_queueAll ops

/-- A queue of two sessions with a mid each. -/
def twoCleanups : List PendingMediaCleanup := [⟨"s1", ["a"]⟩, ⟨"s2", ["b"]⟩]

/-- Cloudflare closes the mids of the first session only. -/
def closeFirst (effect : PendingMediaCleanup) : List String :=
  if effect.sessionId = "s1" then effect.mids else []

/-- On the queue of two sessions, whatever is queued in between. -/
theorem mediaCloseExact_twoCleanups :
    UniqueCleanup twoCleanups ∧ MediaCloseExact twoCleanups
      (executeMediaCloseEffects closeFirst (snapshotMediaCloseEffects twoCleanups))
      [⟨"s2", ["c"]⟩] := by
  have hunique : UniqueCleanup twoCleanups := ⟨by decide, by decide, by decide⟩
  exact ⟨hunique, mediaCloseExact hunique _ _⟩

/-- The queue depends on the order of closing and queuing: a session that was closed altogether
keeps its place where a mid is queued for it in time, and returns at the end otherwise. -/
theorem reconcile_queue_ne_queue_reconcile :
    UniqueCleanup twoCleanups ∧
      attemptCleanupNow closeFirst twoCleanups (queuePendingCleanup twoCleanups "s1" ["c"]) ≠
        queuePendingCleanup (attemptCleanupNow closeFirst twoCleanups twoCleanups) "s1" ["c"] :=
  ⟨⟨by decide, by decide, by decide⟩, by decide⟩

end Free4Chat
