import Free4Chat.Speech.Transcript

/-!
# Memory of the Transcript Store

The segments in memory are the longest suffix of what was recorded that fits. Writes reach the file
in the order in which they were recorded, and none does once the file was removed for a call that
has returned.

* `TranscriptStore.MemoryKept`: what holds in every state that is reached.
* `TranscriptStore.Memory` and `TranscriptStore.Disposal`: the invariants.
-/

namespace Free4Chat

/-! ## What should hold -/

/-- The contents that records have rendered, in their order. -/
def renderings (accepted : List TranscriptSegment) : List String :=
  accepted.inits.tail.map fun recorded => renderLocked (recorded.longestSuffix TranscriptFits)

/-- What holds of the memory and of the file. -/
structure TranscriptStore.MemoryKept (s : TranscriptStore) : Prop where
  segments : s.accepted.IsLongestSuffix TranscriptFits s.segments
  numbered : s.accepted.map TranscriptSegment.sequence = List.range' 1 s.accepted.length
  spoken : ∀ segment ∈ s.accepted, segment.text ≠ ""
  written : s.writes.Sublist (renderings s.accepted)
  -- The file is gone when `Dispose` has returned, and nothing is written any more.
  removed : ∀ id snapshot, s.calls id = (.dispose, .returned snapshot) →
    s.file = none ∧ ∀ step s', s.next? step = some s' → s'.file = none ∧ s'.writes = s.writes

/-- The contents that a task writes. -/
def WriterTask.contents? : WriterTask → Option String
  | write contents => some contents
  | flush _ => none
  | remove _ => none

namespace TranscriptStore

variable {s s' : TranscriptStore} {id : ℕ} {step : TranscriptStep}

/-! ## Steps -/

variable (s) in
/-- The tasks that are not done, in the order in which they were sent. -/
def pending : List WriterTask := s.task.toList ++ s.writeQ

@[simp]
lemma pending_setPhase (phase : CallPhase) : (s.setPhase id phase).pending = s.pending := rfl

@[simp]
lemma lock_setPhase (phase : CallPhase) : (s.setPhase id phase).lock = s.lock := rfl

@[simp]
lemma disposeDone_setPhase (phase : CallPhase) :
    (s.setPhase id phase).disposeDone = s.disposeDone := rfl

@[simp]
lemma pending_send (task : WriterTask) : (s.send task).pending = s.pending ++ [task] :=
  (List.append_assoc _ _ _).symm

lemma call?_eq_some {call : TranscriptCall} (hnext : s.next? (.call id call) = some s') :
    s.phase id = .unmade ∧
      s' = { s with calls := Function.update s.calls id (call, .entering) } := by
  rw [next?] at hnext
  split at hnext
  next hunmade => exact ⟨hunmade, (Option.some.inj hnext).symm⟩
  next => cases hnext

lemma goOn?_eq_some (hnext : s.goOn? id = some s') :
    (s.phase id = .entering ∧ (needsLock (s.calls id).1 = true → s.lock = none) ∧
      s' = s.enter id (s.calls id).1) ∨
    (s.phase id = .sent ∧ s' = { s.setPhase id (.awaiting id) with lock := none }) ∨
    ∃ call, s.phase id = .awaiting call ∧ call ∈ s.closed ∧
      s' = s.setPhase id (.returned none) := by
  rw [goOn?] at hnext
  cases hphase : s.phase id with
  | unmade | sending | returned snapshot => simp only [hphase, reduceCtorEq] at hnext
  | entering =>
    simp only [hphase, Option.ite_none_left_eq_some, Option.some.injEq] at hnext
    obtain ⟨hfree, rfl⟩ := hnext
    exact Or.inl ⟨rfl, fun hneeds => not_not.mp fun hheld => hfree ⟨hneeds, hheld⟩, rfl⟩
  | sent =>
    simp only [hphase, Option.some.injEq] at hnext
    exact Or.inr (Or.inl ⟨rfl, hnext.symm⟩)
  | awaiting call =>
    simp only [hphase, Option.ite_none_right_eq_some, Option.some.injEq] at hnext
    exact Or.inr (Or.inr ⟨call, rfl, hnext.1, hnext.2.symm⟩)

lemma receive?_eq_some (hnext : s.receive? = some s') :
    ∃ task rest, s.task = none ∧ s.writeQ = task :: rest ∧
      s' = ({ s with task := some task, writeQ := rest } : TranscriptStore).serveSender := by
  unfold receive? at hnext
  split at hnext
  next task rest htask hqueue => exact ⟨task, rest, htask, hqueue, (Option.some.inj hnext).symm⟩
  next => cases hnext

lemma serveSender_eq (s : TranscriptStore) : (∃ id, s.lock = some id ∧ s.phase id = .sending ∧
      s.serveSender = (s.send (.remove id)).setPhase id .sent) ∨
    ((∀ id, s.lock = some id → s.phase id ≠ .sending) ∧ s.serveSender = s) := by
  rw [serveSender]
  cases hlock : s.lock with
  | none => exact Or.inr ⟨fun id hno => (by cases hno), rfl⟩
  | some id =>
    dsimp only
    by_cases hsending : s.phase id = .sending
    · rw [if_pos hsending]
      exact Or.inl ⟨id, rfl, hsending, rfl⟩
    · rw [if_neg hsending]
      refine Or.inr ⟨fun other heq => ?_, rfl⟩
      cases heq
      exact hsending

lemma doTask?_eq_some {ok : Bool} (hnext : s.doTask? ok = some s') :
    ∃ task, s.task = some task ∧ s.pending = task :: s'.pending ∧
      s' = match task with
        | .write contents => if ok
          then { s with task := none, file := some contents, writes := s.writes ++ [contents] }
          else { s with task := none }
        | .flush call => { s with task := none, closed := call :: s.closed }
        | .remove call => { s with task := none, file := none, closed := call :: s.closed } := by
  obtain ⟨task, htask, rfl⟩ := Option.map_eq_some_iff.mp hnext
  refine ⟨task, htask, ?_, rfl⟩
  rw [pending, htask]
  cases task with
  | write contents => cases ok <;> rfl
  | flush call | remove call => rfl

/-! ## Memory -/

lemma transcriptFits_of_append {segments more : List TranscriptSegment}
    (h : TranscriptFits (segments ++ more)) : TranscriptFits segments := by
  obtain ⟨hlength, hchars⟩ := h
  rw [List.length_append] at hlength
  rw [totalChars, List.map_append, List.sum_append] at hchars
  exact ⟨by omega, by rw [totalChars]; omega⟩

lemma renderings_concat (accepted : List TranscriptSegment) (segment : TranscriptSegment) :
    renderings (accepted ++ [segment]) = renderings accepted ++
      [renderLocked ((accepted ++ [segment]).longestSuffix TranscriptFits)] := by
  have hne : accepted.inits ≠ [] := by
    cases accepted <;> exact List.cons_ne_nil _ _
  rw [renderings, List.inits_append, List.tail_append_of_ne_nil hne, List.map_append]
  rfl

variable (s) in
/-- The contents that were written or are about to be. -/
def contents : List String := s.writes ++ s.pending.filterMap WriterTask.contents?

variable (s) in
/-- The invariant of the memory. -/
structure Memory : Prop where
  segments : s.segments = s.accepted.longestSuffix TranscriptFits
  numbered : s.accepted.map TranscriptSegment.sequence = List.range' 1 s.nextSequence
  spoken : ∀ segment ∈ s.accepted, segment.text ≠ ""
  written : s.contents.Sublist (renderings s.accepted)

namespace Memory

section

variable (h : Memory s)
include h

lemma of_eq (hsegments : s'.segments = s.segments)
    (hsequence : s'.nextSequence = s.nextSequence) (haccepted : s'.accepted = s.accepted)
    (hcontents : s'.contents.Sublist s.contents) : Memory s' where
  segments := by
    rw [hsegments, haccepted]
    exact h.segments
  numbered := by
    rw [hsequence, haccepted]
    exact h.numbered
  spoken := by
    rw [haccepted]
    exact h.spoken
  written := by
    rw [haccepted]
    exact hcontents.trans h.written

lemma send {task : WriterTask} (htask : task.contents? = none) : Memory (s.send task) := by
  refine h.of_eq rfl rfl rfl ?_
  rw [contents, pending_send, List.filterMap_append, List.filterMap_cons_none htask,
    List.filterMap_nil, List.append_nil]
  exact List.Sublist.refl _

lemma record (source : AudioSource) (text : String) : Memory (s.record source text) := by
  rw [TranscriptStore.record]
  dsimp only
  split_ifs with hignored
  · exact h
  rw [not_or] at hignored
  set segment : TranscriptSegment := {
    sequence := s.nextSequence + 1
    participantID := source.participantID
    speaker := source.participantName
    text := trimSpace text }
  set segments := (s.segments ++ [segment]).longestSuffix TranscriptFits with hsegments
  have hlongest : segments = (s.accepted ++ [segment]).longestSuffix TranscriptFits := by
    rw [hsegments, h.segments]
    exact List.longestSuffix_longestSuffix_append (fun _ _ => transcriptFits_of_append) _ _
  have hrecorded : Memory { s with
      nextSequence := s.nextSequence + 1, segments, accepted := s.accepted ++ [segment] } := by
    refine ⟨hlongest, ?_, fun spoken hmem => ?_, ?_⟩
    · rw [List.map_append, h.numbered, List.range'_1_concat, Nat.add_comm 1]
      rfl
    · rcases List.mem_append.mp hmem with hold | hnew
      · exact h.spoken spoken hold
      · rw [List.mem_singleton.mp hnew]
        exact hignored.1
    · rw [renderings_concat]
      exact h.written.trans (List.sublist_append_left _ _)
  rw [scheduleWrite]
  split_ifs with hslot
  · refine ⟨hrecorded.segments, hrecorded.numbered, hrecorded.spoken, ?_⟩
    rw [contents, pending_send, List.filterMap_append, ← List.append_assoc]
    show (s.contents ++ [renderLocked segments]).Sublist (renderings (s.accepted ++ [segment]))
    rw [renderings_concat, ← hlongest]
    exact h.written.append (List.Sublist.refl _)
  · exact hrecorded

lemma setPhase (id : ℕ) (phase : CallPhase) : Memory (s.setPhase id phase) :=
  h.of_eq rfl rfl rfl (List.Sublist.refl _)

lemma dispose (id : ℕ) : Memory (s.dispose id) := by
  have hdisposed : Memory { s with disposed := true, disposeDone := some id } :=
    h.of_eq rfl rfl rfl (List.Sublist.refl _)
  rw [TranscriptStore.dispose]
  split_ifs
  · cases s.disposeDone with
    | none | some done => exact h.setPhase id _
  · exact (hdisposed.send rfl).setPhase id _
  · exact h.of_eq rfl rfl rfl (List.Sublist.refl _)

lemma enter (id : ℕ) (call : TranscriptCall) : Memory (s.enter id call) := by
  cases call with
  | record source text =>
    rw [TranscriptStore.enter]
    exact (h.record source text).setPhase id _
  | snapshot => exact h.setPhase id _
  | flush =>
    rw [TranscriptStore.enter, flush]
    split_ifs
    · exact (h.send rfl).setPhase id _
    · exact h.setPhase id _
  | dispose => exact h.dispose id

lemma next (hnext : s.next? step = some s') : Memory s' := by
  cases step with
  | call id call =>
    obtain ⟨-, rfl⟩ := call?_eq_some hnext
    exact h.of_eq rfl rfl rfl (List.Sublist.refl _)
  | goOn id =>
    rcases goOn?_eq_some hnext with ⟨-, -, rfl⟩ | ⟨-, rfl⟩ | ⟨call, -, -, rfl⟩
    · exact h.enter id _
    · exact h.of_eq rfl rfl rfl (List.Sublist.refl _)
    · exact h.of_eq rfl rfl rfl (List.Sublist.refl _)
  | receive =>
    obtain ⟨task, rest, htask, hqueue, rfl⟩ := receive?_eq_some hnext
    have htaken : Memory { s with task := some task, writeQ := rest } := by
      refine h.of_eq rfl rfl rfl ?_
      rw [contents, contents, pending, pending, htask, hqueue]
      exact List.Sublist.refl _
    rcases serveSender_eq { s with task := some task, writeQ := rest } with
      ⟨id, -, -, heq⟩ | ⟨-, heq⟩
    · rw [heq]
      exact (htaken.send rfl).of_eq rfl rfl rfl (List.Sublist.refl _)
    · rw [heq]
      exact htaken
  | doTask ok =>
    obtain ⟨task, htask, hpending, hdone⟩ := doTask?_eq_some hnext
    have hcontents : s.contents =
        s.writes ++ task.contents?.toList ++ s'.pending.filterMap WriterTask.contents? := by
      rw [contents, hpending, List.filterMap_cons, List.append_assoc]
      cases task.contents? <;> rfl
    cases task with
    | write written =>
      cases ok with
      | true =>
        refine h.of_eq (by rw [hdone]; rfl) (by rw [hdone]; rfl) (by rw [hdone]; rfl) ?_
        rw [hcontents, contents, show s'.writes = s.writes ++ [written] by rw [hdone]; rfl]
        exact List.Sublist.refl _
      | false =>
        refine h.of_eq (by rw [hdone]; rfl) (by rw [hdone]; rfl) (by rw [hdone]; rfl) ?_
        rw [hcontents, contents, show s'.writes = s.writes by rw [hdone]; rfl]
        exact (List.sublist_append_left _ _).append (List.Sublist.refl _)
    | flush call | remove call =>
      refine h.of_eq (by rw [hdone]) (by rw [hdone]) (by rw [hdone]) ?_
      rw [hcontents, contents, show s'.writes = s.writes by rw [hdone]]
      exact (List.sublist_append_left _ _).append (List.Sublist.refl _)

end

end Memory

/-! ## Disposal -/

variable (s) in
/-- The file is gone for good. -/
structure Gone : Prop where
  disposed : s.disposed = true
  file : s.file = none
  pending : ∀ contents, .write contents ∉ s.pending

variable (s) in
/-- A call was made. -/
def Made (id : ℕ) (call : TranscriptCall) : Prop :=
  (s.calls id).1 = call ∧ s.phase id ≠ .unmade

variable (s) in
/-- The invariant of disposal. -/
structure Disposal : Prop where
  disposed : s.disposed = true ↔ s.disposeDone ≠ none
  disposer : ∀ id, s.disposeDone = some id → s.Made id .dispose
  lock : ∀ id, s.lock = some id → s.disposeDone = some id
  holder : ∀ id, s.phase id = .sending ∨ s.phase id = .sent → s.lock = some id
  flushing : ∀ id, .flush id ∈ s.pending → s.Made id .flush
  removing : ∀ id, .remove id ∈ s.pending → s.disposeDone = some id
  -- Nothing is written after a removal.
  ordered : ∃ before after, s.pending = before ++ after ∧ (∀ id, .remove id ∉ before) ∧
    ∀ contents, .write contents ∉ after
  closed : ∀ id ∈ s.closed, s.Made id .flush ∨ s.disposeDone = some id
  gone : ∀ id ∈ s.closed, s.disposeDone = some id → s.Gone
  awaiting : ∀ id call, s.calls id = (.dispose, .awaiting call) → s.disposeDone = some call
  returned : ∀ id snapshot, s.calls id = (.dispose, .returned snapshot) → s.Gone

lemma calls_setPhase (s : TranscriptStore) (id other : ℕ) (phase : CallPhase) :
    (s.setPhase id phase).calls other =
      if other = id then ((s.calls id).1, phase) else s.calls other := by
  rw [setPhase]
  exact Function.update_apply _ _ _ _

lemma phase_setPhase (s : TranscriptStore) (id other : ℕ) (phase : CallPhase) :
    (s.setPhase id phase).phase other = if other = id then phase else s.phase other := by
  rw [TranscriptStore.phase, calls_setPhase]
  split_ifs <;> rfl

lemma Made.setPhase {other : ℕ} {call : TranscriptCall} {phase : CallPhase}
    (h : s.Made other call) (hphase : phase ≠ .unmade) : (s.setPhase id phase).Made other call := by
  rw [Made, phase_setPhase, calls_setPhase]
  split_ifs with hsame
  · rw [hsame] at h
    exact ⟨h.1, hphase⟩
  · exact h

namespace Disposal

lemma setPhase (h : Disposal s) {phase : CallPhase} (hphase : phase ≠ .unmade)
    (hholder : phase = .sending ∨ phase = .sent → s.lock = some id)
    (hawaiting : ∀ call, (s.calls id).1 = .dispose → phase = .awaiting call →
      s.disposeDone = some call)
    (hreturned : ∀ snapshot, (s.calls id).1 = .dispose → phase = .returned snapshot → s.Gone) :
    Disposal (s.setPhase id phase) where
  disposed := h.disposed
  disposer other hdone := (h.disposer other hdone).setPhase hphase
  lock := h.lock
  holder other hother := by
    rw [phase_setPhase] at hother
    split_ifs at hother with hsame
    · rw [hsame]
      exact hholder hother
    · exact h.holder other hother
  flushing other hmem := (h.flushing other hmem).setPhase hphase
  removing := h.removing
  ordered := h.ordered
  closed other hmem := (h.closed other hmem).imp_left fun hmade => hmade.setPhase hphase
  gone other hmem hdone := ⟨(h.gone other hmem hdone).1, (h.gone other hmem hdone).2,
    (h.gone other hmem hdone).3⟩
  awaiting other call hother := by
    rw [calls_setPhase] at hother
    split_ifs at hother with hsame
    · obtain ⟨hdispose, hat⟩ := Prod.mk.injEq .. ▸ hother
      exact hawaiting call hdispose hat
    · exact h.awaiting other call hother
  returned other snapshot hother := by
    rw [calls_setPhase] at hother
    have hgone : s.Gone := by
      split_ifs at hother with hsame
      · obtain ⟨hdispose, hat⟩ := Prod.mk.injEq .. ▸ hother
        exact hreturned snapshot hdispose hat
      · exact h.returned other snapshot hother
    exact ⟨hgone.1, hgone.2, hgone.3⟩

lemma setPhase_of_ne (h : Disposal s) {phase : CallPhase} (hphase : phase ≠ .unmade)
    (hfree : ¬(phase = .sending ∨ phase = .sent)) (hkind : (s.calls id).1 ≠ .dispose) :
    Disposal (s.setPhase id phase) :=
  h.setPhase hphase (fun hno => absurd hno hfree) (fun _ hno _ => absurd hno hkind)
    fun _ hno _ => absurd hno hkind

lemma send (h : Disposal s) {task : WriterTask}
    (hwrite : ∀ contents, task = .write contents → s.disposed = false)
    (hflush : ∀ id, task = .flush id → s.Made id .flush)
    (hremove : ∀ id, task = .remove id → s.disposeDone = some id) : Disposal (s.send task) := by
  have hgone : s.Gone → (s.send task).Gone := by
    intro hgone
    refine ⟨hgone.disposed, hgone.file, fun contents hmem => ?_⟩
    rw [pending_send, List.mem_append, List.mem_singleton] at hmem
    rcases hmem with hold | hnew
    · exact hgone.pending contents hold
    · have hno := hwrite contents hnew.symm
      rw [hgone.disposed] at hno
      cases hno
  have hremoving : ∀ id, .remove id ∈ (s.send task).pending → s.disposeDone = some id := by
    intro id hmem
    rw [pending_send, List.mem_append, List.mem_singleton] at hmem
    exact hmem.elim (h.removing id) fun heq => hremove id heq.symm
  refine {
    disposed := h.disposed
    disposer := h.disposer
    lock := h.lock
    holder := h.holder
    flushing := fun id hmem => ?_
    removing := fun id hmem => ?_
    ordered := ?_
    closed := h.closed
    gone := fun id hmem hdone => hgone (h.gone id hmem hdone)
    awaiting := h.awaiting
    returned := fun id snapshot hid => hgone (h.returned id snapshot hid) }
  · rw [pending_send, List.mem_append, List.mem_singleton] at hmem
    exact hmem.elim (h.flushing id) fun heq => hflush id heq.symm
  · exact hremoving id hmem
  · obtain ⟨before, after, hpending, hbefore, hafter⟩ := h.ordered
    by_cases hno : s.disposed = false
    · -- No removal was sent yet.
      refine ⟨(s.send task).pending, [], (List.append_nil _).symm, fun id hmem => ?_,
        fun contents hmem => (List.not_mem_nil hmem).elim⟩
      have hdone := h.disposed.mpr (by rw [hremoving id hmem]; exact Option.some_ne_none id)
      rw [hno] at hdone
      cases hdone
    · refine ⟨before, after ++ [task], ?_, hbefore, fun contents hmem => ?_⟩
      · rw [pending_send, hpending, List.append_assoc]
      · rw [List.mem_append, List.mem_singleton] at hmem
        rcases hmem with hold | hnew
        · exact hafter contents hold
        · exact hno (hwrite contents hnew.symm)

lemma of_eq (h : Disposal s) (hdisposed : s'.disposed = s.disposed)
    (hdone : s'.disposeDone = s.disposeDone) (hlock : s'.lock = s.lock)
    (hpending : s'.pending = s.pending) (hcalls : s'.calls = s.calls)
    (hclosed : s'.closed = s.closed) (hfile : s.file = none → s'.file = none) : Disposal s' := by
  have hphase : ∀ id, s'.phase id = s.phase id := fun id => by rw [phase, phase, hcalls]
  have hmade : ∀ id call, s'.Made id call ↔ s.Made id call := fun id call => by
    rw [Made, Made, hphase, hcalls]
  have hgone : s.Gone → s'.Gone := fun hgone =>
    ⟨by rw [hdisposed]; exact hgone.disposed, hfile hgone.file,
      by rw [hpending]; exact hgone.pending⟩
  refine {
    disposed := by rw [hdisposed, hdone]; exact h.disposed
    disposer := fun id hid => (hmade id _).mpr (h.disposer id (by rw [← hdone]; exact hid))
    lock := fun id hid => ?_
    holder := fun id hid => ?_
    flushing := fun id hid => (hmade id _).mpr (h.flushing id (by rw [← hpending]; exact hid))
    removing := fun id hid => ?_
    ordered := by rw [hpending]; exact h.ordered
    closed := fun id hid => ?_
    gone := fun id hid heq => ?_
    awaiting := fun id call hid => ?_
    returned := fun id snapshot hid => hgone (h.returned id snapshot (by rw [← hcalls]; exact hid)) }
  · rw [hdone]
    exact h.lock id (by rw [← hlock]; exact hid)
  · rw [hphase] at hid
    rw [hlock]
    exact h.holder id hid
  · rw [hdone]
    exact h.removing id (by rw [← hpending]; exact hid)
  · rw [hclosed] at hid
    rw [hmade, hdone]
    exact h.closed id hid
  · rw [hclosed] at hid
    rw [hdone] at heq
    exact hgone (h.gone id hid heq)
  · rw [hcalls] at hid
    rw [hdone]
    exact h.awaiting id call hid

lemma calls_record (s : TranscriptStore) (source : AudioSource) (text : String) :
    (s.record source text).calls = s.calls := by
  rw [TranscriptStore.record]
  dsimp only
  split_ifs
  · rfl
  · rw [scheduleWrite]
    split_ifs <;> rfl

section

variable (h : Disposal s)
include h

lemma record (source : AudioSource) (text : String) : Disposal (s.record source text) := by
  rw [TranscriptStore.record]
  dsimp only
  split_ifs with hignored
  · exact h
  rw [scheduleWrite]
  have hlive : s.disposed = false := Bool.eq_false_iff.mpr fun hyes => hignored (Or.inr hyes)
  split_ifs
  · refine Disposal.send ?_ (fun _ _ => hlive) (fun id hno => ?_) fun id hno => ?_
    · exact h.of_eq rfl rfl rfl rfl rfl rfl id
    · cases hno
    · cases hno
  · exact h.of_eq rfl rfl rfl rfl rfl rfl id

lemma dispose_first (hentering : s.calls id = (.dispose, .entering)) (hlive : s.disposed = false) :
    Disposal { s with disposed := true, disposeDone := some id } := by
  have hdone : s.disposeDone = none := by
    by_contra hne
    have hyes := h.disposed.mpr hne
    rw [hlive] at hyes
    cases hyes
  have hnotgone : ¬s.Gone := fun hgone => by
    have hyes := hgone.disposed
    rw [hlive] at hyes
    cases hyes
  have hmade : s.Made id .dispose := by
    rw [Made, phase, hentering]
    exact ⟨rfl, by intro hno; cases hno⟩
  refine {
    disposed := ⟨fun _ => Option.some_ne_none id, fun _ => rfl⟩
    disposer := fun other heq => ?_
    lock := fun other heq => ?_
    holder := h.holder
    flushing := h.flushing
    removing := fun other hmem => ?_
    ordered := h.ordered
    closed := fun other hmem => ?_
    gone := fun other hmem heq => ?_
    awaiting := fun other call heq => ?_
    returned := fun other snapshot heq => absurd (h.returned other snapshot heq) hnotgone }
  · cases heq
    exact hmade
  · have hno := h.lock other heq
    rw [hdone] at hno
    cases hno
  · have hno := h.removing other hmem
    rw [hdone] at hno
    cases hno
  · refine (h.closed other hmem).imp_right fun hno => ?_
    rw [hdone] at hno
    cases hno
  · -- Only a call of `Flush` can have been told.
    cases heq
    rcases h.closed id hmem with hflush | hno
    · have hkind := hflush.1
      rw [hentering] at hkind
      cases hkind
    · rw [hdone] at hno
      cases hno
  · have hno := h.awaiting other call heq
    rw [hdone] at hno
    cases hno

lemma dispose (hentering : s.calls id = (.dispose, .entering)) : Disposal (s.dispose id) := by
  rw [TranscriptStore.dispose]
  split_ifs with hdisposed hslot
  · cases hdone : s.disposeDone with
    | none => exact absurd hdone (h.disposed.mp hdisposed)
    | some done =>
      refine h.setPhase (fun hno => by cases hno) (fun hno => ?_) (fun call _ heq => ?_)
        fun _ _ hno => by cases hno
      · rcases hno with hno | hno <;> cases hno
      · cases heq
        exact hdone
  · have hfirst := h.dispose_first hentering (Bool.eq_false_iff.mpr hdisposed)
    have hsent : Disposal
        (TranscriptStore.send { s with disposed := true, disposeDone := some id } (.remove id)) := by
      refine hfirst.send (fun _ hno => by cases hno) (fun _ hno => by cases hno) fun other heq => ?_
      cases heq
      rfl
    refine hsent.setPhase (fun hno => by cases hno) (fun hno => ?_) (fun call _ heq => ?_)
      fun _ _ hno => by cases hno
    · rcases hno with hno | hno <;> cases hno
    · cases heq
      rfl
  · have hfirst := h.dispose_first hentering (Bool.eq_false_iff.mpr hdisposed)
    -- The lock was free: only the disposer holds it.
    have hlocked : Disposal
        { s with disposed := true, disposeDone := some id, lock := some id } := by
      refine { hfirst with lock := fun other heq => heq, holder := fun other heq => ?_, gone := ?_, returned := ?_ }
      · have hlock := hfirst.lock other (hfirst.holder other heq)
        exact hlock
      · exact fun other hmem heq => ⟨rfl, (hfirst.gone other hmem heq).2, (hfirst.gone other hmem heq).3⟩
      · exact fun other snapshot heq => ⟨rfl, (hfirst.returned other snapshot heq).2,
          (hfirst.returned other snapshot heq).3⟩
    refine hlocked.setPhase (fun hno => by cases hno) (fun _ => rfl) (fun _ _ hno => ?_)
      fun _ _ hno => by cases hno
    cases hno

lemma enter (hphase : s.phase id = .entering) : Disposal (s.enter id (s.calls id).1) := by
  have hentering : s.calls id = ((s.calls id).1, .entering) := Prod.ext rfl hphase
  have hother : ∀ call, (s.calls id).1 = call → call ≠ .dispose → (s.calls id).1 ≠ .dispose := by
    rintro call rfl hne
    exact hne
  cases hcall : (s.calls id).1 with
  | record source text =>
    rw [TranscriptStore.enter]
    refine (h.record source text).setPhase_of_ne (by simp) (by simp) ?_
    rw [calls_record]
    exact hother _ hcall (by simp)
  | snapshot =>
    rw [TranscriptStore.enter]
    exact h.setPhase_of_ne (by simp) (by simp) (hother _ hcall (by simp))
  | flush =>
    rw [TranscriptStore.enter, flush]
    have hmade : s.Made id .flush := ⟨hcall, by rw [hphase]; simp⟩
    split_ifs
    · have hsent : Disposal (s.send (.flush id)) := by
        refine h.send (fun _ hno => by cases hno) (fun other heq => ?_) fun _ hno => by cases hno
        cases heq
        exact hmade
      exact hsent.setPhase_of_ne (by simp) (by simp) (hother _ hcall (by simp))
    · exact h.setPhase_of_ne (by simp) (by simp) (hother _ hcall (by simp))
  | dispose =>
    rw [TranscriptStore.enter]
    rw [hcall] at hentering
    exact h.dispose hentering

lemma call (call : TranscriptCall) (hunmade : s.phase id = .unmade) :
    Disposal { s with calls := Function.update s.calls id (call, .entering) } := by
  have hcalls : ∀ other entry, Function.update s.calls id (call, .entering) other = entry →
      other = id ∧ entry = (call, .entering) ∨ s.calls other = entry := by
    intro other entry heq
    rw [Function.update_apply] at heq
    split_ifs at heq with hsame
    · exact Or.inl ⟨hsame, heq.symm⟩
    · exact Or.inr heq
  have hmade : ∀ other kind, s.Made other kind →
      ({ s with calls := Function.update s.calls id (call, .entering) } : TranscriptStore).Made
        other kind := by
    intro other kind hold
    have hne : other ≠ id := by
      rintro rfl
      exact hold.2 hunmade
    rw [Made, phase]
    show (Function.update s.calls id (call, .entering) other).1 = kind ∧
      (Function.update s.calls id (call, .entering) other).2 ≠ .unmade
    rw [Function.update_of_ne hne]
    exact hold
  refine {
    disposed := h.disposed
    disposer := fun other heq => hmade other _ (h.disposer other heq)
    lock := h.lock
    holder := fun other hat => ?_
    flushing := fun other hmem => hmade other _ (h.flushing other hmem)
    removing := h.removing
    ordered := h.ordered
    closed := fun other hmem => (h.closed other hmem).imp_left (hmade other _)
    gone := fun other hmem heq =>
      ⟨(h.gone other hmem heq).1, (h.gone other hmem heq).2, (h.gone other hmem heq).3⟩
    awaiting := fun other target heq => ?_
    returned := fun other snapshot heq => ?_ }
  · rw [phase] at hat
    dsimp only at hat
    rcases hcalls other _ rfl with ⟨-, hnew⟩ | hold
    · rw [hnew] at hat
      rcases hat with hno | hno <;> cases hno
    · refine h.holder other ?_
      rw [phase, hold]
      exact hat
  · rcases hcalls other _ heq with ⟨-, hno⟩ | hold
    · cases hno
    · exact h.awaiting other target hold
  · rcases hcalls other _ heq with ⟨-, hno⟩ | hold
    · cases hno
    · have hgone := h.returned other snapshot hold
      exact ⟨hgone.1, hgone.2, hgone.3⟩

lemma unlock (hsent : s.phase id = .sent) :
    Disposal { s.setPhase id (.awaiting id) with lock := none } := by
  have hlock := h.holder id (Or.inr hsent)
  have hat : Disposal (s.setPhase id (.awaiting id)) := by
    refine h.setPhase (by simp) (by simp) (fun call _ heq => ?_) (by simp)
    cases heq
    exact h.lock id hlock
  refine { hat with lock := fun _ hno => (by cases hno), holder := fun other hother => ?_, gone := ?_, returned := ?_ }
  · -- No other call holds the lock.
    have hother' : (s.setPhase id (.awaiting id)).phase other = .sending ∨
        (s.setPhase id (.awaiting id)).phase other = .sent := hother
    rw [phase_setPhase] at hother'
    split_ifs at hother' with hsame
    · rcases hother' with hno | hno <;> cases hno
    · have hsecond := h.holder other hother'
      rw [hlock] at hsecond
      cases hsecond
      exact absurd rfl hsame
  · exact fun other hmem heq => ⟨(hat.gone other hmem heq).1, (hat.gone other hmem heq).2,
      (hat.gone other hmem heq).3⟩
  · exact fun other snapshot heq => ⟨(hat.returned other snapshot heq).1,
      (hat.returned other snapshot heq).2, (hat.returned other snapshot heq).3⟩

lemma receive (hnext : s.receive? = some s') : Disposal s' := by
  obtain ⟨task, rest, htask, hqueue, rfl⟩ := receive?_eq_some hnext
  have htaken : Disposal { s with task := some task, writeQ := rest } := by
    refine h.of_eq rfl rfl rfl ?_ rfl rfl id
    rw [pending, pending, htask, hqueue]
    rfl
  rcases serveSender_eq { s with task := some task, writeQ := rest } with
    ⟨id, hlock, hsending, heq⟩ | ⟨-, heq⟩
  · rw [heq]
    have hsent : Disposal (TranscriptStore.send { s with task := some task, writeQ := rest }
        (.remove id)) := by
      refine htaken.send (fun _ hno => by cases hno) (fun _ hno => by cases hno) fun other heq => ?_
      cases heq
      exact htaken.lock id hlock
    exact hsent.setPhase (by simp) (fun _ => hlock) (by simp) (by simp)
  · rw [heq]
    exact htaken

lemma notMem_of_remove {rest : List WriterTask}
    (hpending : s.pending = .remove id :: rest) (contents : String) : .write contents ∉ rest := by
  obtain ⟨before, after, heq, hbefore, hafter⟩ := h.ordered
  rw [hpending] at heq
  cases before with
  | nil =>
    rw [List.nil_append] at heq
    intro hmem
    refine hafter contents ?_
    rw [← heq]
    exact List.mem_cons_of_mem _ hmem
  | cons first before =>
    have hfirst : WriterTask.remove id = first := (List.cons.inj heq).1
    exact absurd (by rw [hfirst]; exact List.mem_cons_self) (hbefore id)

lemma pop {task : WriterTask} (hpending : s.pending = task :: s'.pending)
    (hdisposed : s'.disposed = s.disposed) (hdone : s'.disposeDone = s.disposeDone)
    (hlock : s'.lock = s.lock) (hcalls : s'.calls = s.calls) (hfile : s.Gone → s'.file = none)
    (hclosed : ∀ id ∈ s'.closed,
      id ∈ s.closed ∨ s.Made id .flush ∨ s.disposeDone = some id ∧ s'.Gone) : Disposal s' := by
  have hphase : ∀ id, s'.phase id = s.phase id := fun id => by rw [phase, phase, hcalls]
  have hmade : ∀ id call, s'.Made id call ↔ s.Made id call := fun id call => by
    rw [Made, Made, hphase, hcalls]
  have hmem : ∀ other, other ∈ s'.pending → other ∈ s.pending := fun other hother => by
    rw [hpending]
    exact List.mem_cons_of_mem _ hother
  have hgone : s.Gone → s'.Gone := fun hgone =>
    ⟨by rw [hdisposed]; exact hgone.disposed, hfile hgone,
      fun contents hno => hgone.pending contents (hmem _ hno)⟩
  refine {
    disposed := by rw [hdisposed, hdone]; exact h.disposed
    disposer := fun id hid => (hmade id _).mpr (h.disposer id (by rw [← hdone]; exact hid))
    lock := fun id hid => ?_
    holder := fun id hid => ?_
    flushing := fun id hid => (hmade id _).mpr (h.flushing id (hmem _ hid))
    removing := fun id hid => ?_
    ordered := ?_
    closed := fun id hid => ?_
    gone := fun id hid heq => ?_
    awaiting := fun id call hid => ?_
    returned := fun id snapshot hid => hgone (h.returned id snapshot (by rw [← hcalls]; exact hid)) }
  · rw [hdone]
    exact h.lock id (by rw [← hlock]; exact hid)
  · rw [hphase] at hid
    rw [hlock]
    exact h.holder id hid
  · rw [hdone]
    exact h.removing id (hmem _ hid)
  · obtain ⟨before, after, heq, hbefore, hafter⟩ := h.ordered
    rw [hpending] at heq
    cases before with
    | nil =>
      rw [List.nil_append] at heq
      refine ⟨[], s'.pending, rfl, fun id hno => (List.not_mem_nil hno).elim, fun contents hno => ?_⟩
      refine hafter contents ?_
      rw [← heq]
      exact List.mem_cons_of_mem _ hno
    | cons first before =>
      refine ⟨before, after, (List.cons.inj heq).2, fun id hno => ?_, hafter⟩
      exact hbefore id (List.mem_cons_of_mem _ hno)
  · rw [hmade, hdone]
    rcases hclosed id hid with hold | hflush | ⟨hremoved, -⟩
    · exact h.closed id hold
    · exact Or.inl hflush
    · exact Or.inr hremoved
  · rw [hdone] at heq
    rcases hclosed id hid with hold | hflush | ⟨-, hall⟩
    · exact hgone (h.gone id hold heq)
    · have hkind := (h.disposer id heq).1
      rw [hflush.1] at hkind
      cases hkind
    · exact hall
  · rw [hcalls] at hid
    rw [hdone]
    exact h.awaiting id call hid

lemma doTask {ok : Bool} (hnext : s.doTask? ok = some s') : Disposal s' := by
  obtain ⟨task, htask, hpending, hdone⟩ := doTask?_eq_some hnext
  have hmem : task ∈ s.pending := by
    rw [hpending]
    exact List.mem_cons_self
  cases task with
  | write contents =>
    have hnotgone : s.Gone → s'.file = none := fun hgone => absurd hmem (hgone.pending contents)
    cases ok <;> subst hdone <;>
      exact h.pop hpending rfl rfl rfl rfl hnotgone fun id hid => Or.inl hid
  | flush call =>
    subst hdone
    refine h.pop hpending rfl rfl rfl rfl (fun hgone => hgone.file) fun id hid => ?_
    rcases List.mem_cons.mp hid with rfl | hold
    · exact Or.inr (Or.inl (h.flushing id hmem))
    · exact Or.inl hold
  | remove call =>
    have hdisposer := h.removing call hmem
    have hgone : s'.Gone := by
      refine ⟨?_, by rw [hdone], h.notMem_of_remove hpending⟩
      rw [hdone]
      exact h.disposed.mpr (by rw [hdisposer]; exact Option.some_ne_none call)
    subst hdone
    refine h.pop hpending rfl rfl rfl rfl (fun _ => rfl) fun id hid => ?_
    rcases List.mem_cons.mp hid with rfl | hold
    · exact Or.inr (Or.inr ⟨hdisposer, hgone⟩)
    · exact Or.inl hold

lemma next (hnext : s.next? step = some s') : Disposal s' := by
  cases step with
  | call id call =>
    obtain ⟨hunmade, rfl⟩ := call?_eq_some hnext
    exact h.call call hunmade
  | goOn id =>
    rcases goOn?_eq_some hnext with ⟨hentering, -, rfl⟩ | ⟨hsent, rfl⟩ | ⟨call, hat, hclosed, rfl⟩
    · exact h.enter hentering
    · exact h.unlock hsent
    · refine h.setPhase (by simp) (by simp) (by simp) fun _ hdispose _ => ?_
      exact h.gone call hclosed (h.awaiting id call (Prod.ext hdispose hat))
  | receive => exact h.receive hnext
  | doTask ok => exact h.doTask hnext

end

end Disposal

/-! ## Every run -/

lemma inv_of_reachable (h : transcriptStoreSystem.Reachable s) : s.Memory ∧ s.Disposal := by
  refine h.invariant (P := fun s => s.Memory ∧ s.Disposal) ?_ fun _ _ _ hinv _ hnext =>
    ⟨hinv.1.next hnext, hinv.2.next hnext⟩
  rintro s ⟨file, rfl⟩
  refine ⟨⟨rfl, rfl, fun segment hmem => (List.not_mem_nil hmem).elim, List.Sublist.refl _⟩, ?_⟩
  refine {
    disposed := ⟨fun hno => (by cases hno), fun hno => absurd rfl hno⟩
    disposer := fun id hno => (by cases hno)
    lock := fun id hno => (by cases hno)
    holder := fun id hno => (by rcases hno with hno | hno <;> cases hno)
    flushing := fun id hmem => (List.not_mem_nil hmem).elim
    removing := fun id hmem => (List.not_mem_nil hmem).elim
    ordered := ⟨[], [], rfl, fun id hmem => (List.not_mem_nil hmem).elim,
      fun contents hmem => (List.not_mem_nil hmem).elim⟩
    closed := fun id hmem => (List.not_mem_nil hmem).elim
    gone := fun id hmem => (List.not_mem_nil hmem).elim
    awaiting := fun id call hno => (by cases hno)
    returned := fun id snapshot hno => (by cases hno) }

lemma enter_file (s : TranscriptStore) (id : ℕ) (call : TranscriptCall) :
    (s.enter id call).file = s.file ∧ (s.enter id call).writes = s.writes := by
  cases call with
  | record source text =>
    rw [enter, record]
    dsimp only
    split_ifs
    · exact ⟨rfl, rfl⟩
    · rw [scheduleWrite]
      split_ifs <;> exact ⟨rfl, rfl⟩
  | snapshot => exact ⟨rfl, rfl⟩
  | flush =>
    rw [enter, flush]
    split_ifs <;> exact ⟨rfl, rfl⟩
  | dispose =>
    rw [enter, dispose]
    split_ifs
    · cases s.disposeDone <;> exact ⟨rfl, rfl⟩
    · exact ⟨rfl, rfl⟩
    · exact ⟨rfl, rfl⟩

lemma Gone.next (h : s.Gone) (hnext : s.next? step = some s') :
    s'.file = none ∧ s'.writes = s.writes := by
  cases step with
  | call id call =>
    obtain ⟨-, rfl⟩ := call?_eq_some hnext
    exact ⟨h.file, rfl⟩
  | goOn id =>
    rcases goOn?_eq_some hnext with ⟨-, -, rfl⟩ | ⟨-, rfl⟩ | ⟨call, -, -, rfl⟩
    · obtain ⟨hfile, hwrites⟩ := enter_file s id (s.calls id).1
      exact ⟨hfile.trans h.file, hwrites⟩
    · exact ⟨h.file, rfl⟩
    · exact ⟨h.file, rfl⟩
  | receive =>
    obtain ⟨task, rest, -, -, rfl⟩ := receive?_eq_some hnext
    rcases serveSender_eq { s with task := some task, writeQ := rest } with
      ⟨id, -, -, heq⟩ | ⟨-, heq⟩ <;> rw [heq] <;> exact ⟨h.file, rfl⟩
  | doTask ok =>
    obtain ⟨task, -, hpending, hdone⟩ := doTask?_eq_some hnext
    subst hdone
    cases task with
    | write contents =>
      refine absurd ?_ (h.pending contents)
      rw [hpending]
      exact List.mem_cons_self
    | flush call => exact ⟨h.file, rfl⟩
    | remove call => exact ⟨rfl, rfl⟩

lemma memoryKept_of_reachable (h : transcriptStoreSystem.Reachable s) : s.MemoryKept := by
  obtain ⟨hmemory, hdisposal⟩ := inv_of_reachable h
  refine {
    segments := ?_
    numbered := ?_
    spoken := hmemory.spoken
    written := (List.sublist_append_left _ _).trans hmemory.written
    removed := fun id snapshot hid => ?_ }
  · rw [hmemory.segments]
    exact List.isLongestSuffix_longestSuffix ⟨Nat.zero_le _, Nat.zero_le _⟩ _
  · have hlength := congrArg List.length hmemory.numbered
    rw [List.length_map, List.length_range'] at hlength
    rw [hlength]
    exact hmemory.numbered
  · have hgone := hdisposal.returned id snapshot hid
    exact ⟨hgone.file, fun step s' hnext => hgone.next hnext⟩

end TranscriptStore

end Free4Chat
