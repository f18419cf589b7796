import Free4Chat.Speech.TranscriptMemory

/-!
# Calls of the Transcript Store

No call of the store waits for ever, however full the channel is: the writer does not need the lock,
so that it gets to the task that a call waits for, and makes room for a disposal that waits with the
lock held.

* `TranscriptStore.Waits`: the invariant. What a call waits for is about to come.
* `FairTranscriptRun`: the writer and the calls are scheduled, and the lock is fair.
* `transcriptStore_kept`: what holds of memory, file and calls.
-/

namespace Free4Chat

namespace TranscriptStore

variable {s s' : TranscriptStore} {id : ℕ} {step : TranscriptStep}

/-! ## Phases -/

variable (s) in
/-- A call was told, or is going to be. -/
def Told (call : ℕ) : Prop :=
  call ∈ s.closed ∨ ∃ task ∈ s.pending, task.tells = some call

lemma phase_goOn (hnext : s.goOn? id = some s') :
    (s.phase id = .entering ∧ (s'.phase id = .sending ∨ (∃ call, s'.phase id = .awaiting call) ∨
      ∃ snapshot, s'.phase id = .returned snapshot)) ∨
    (s.phase id = .sent ∧ s'.phase id = .awaiting id ∧ s'.lock = none) ∨
    ∃ call, s.phase id = .awaiting call ∧ s'.phase id = .returned none := by
  rcases goOn?_eq_some hnext with ⟨hentering, -, rfl⟩ | ⟨hsent, rfl⟩ | ⟨call, hat, -, rfl⟩
  · refine Or.inl ⟨hentering, ?_⟩
    have hat : ∀ (t : TranscriptStore) phase, (t.setPhase id phase).phase id = phase :=
      fun t phase => by rw [phase_setPhase, if_pos rfl]
    cases (s.calls id).1 with
    | record source text | snapshot =>
      rw [enter, hat]
      exact Or.inr (Or.inr ⟨_, rfl⟩)
    | flush =>
      rw [enter, flush]
      split_ifs
      · rw [hat]
        exact Or.inr (Or.inl ⟨_, rfl⟩)
      · rw [hat]
        exact Or.inr (Or.inr ⟨_, rfl⟩)
    | dispose =>
      rw [enter, dispose]
      split_ifs
      · cases s.disposeDone with
        | none => exact Or.inr (Or.inr ⟨none, hat _ _⟩)
        | some done => exact Or.inr (Or.inl ⟨done, hat _ _⟩)
      · exact Or.inr (Or.inl ⟨id, hat _ _⟩)
      · exact Or.inl (hat _ _)
  · refine Or.inr (Or.inl ⟨hsent, ?_, rfl⟩)
    show (s.setPhase id (.awaiting id)).phase id = .awaiting id
    rw [phase_setPhase, if_pos rfl]
  · refine Or.inr (Or.inr ⟨call, hat, ?_⟩)
    rw [phase_setPhase, if_pos rfl]

lemma phase_goOn_of_ne {other : ℕ} (hne : other ≠ id) (hnext : s.goOn? id = some s') :
    s'.phase other = s.phase other := by
  have hat : ∀ (t : TranscriptStore) phase, t.calls = s.calls →
      (t.setPhase id phase).phase other = s.phase other := fun t phase heq => by
    rw [phase_setPhase, if_neg hne, TranscriptStore.phase, heq]
    rfl
  rcases goOn?_eq_some hnext with ⟨-, -, rfl⟩ | ⟨-, rfl⟩ | ⟨call, -, -, rfl⟩
  · cases (s.calls id).1 with
    | record source text => exact hat _ _ (Disposal.calls_record s source text)
    | snapshot => exact hat _ _ rfl
    | flush =>
      rw [enter, flush]
      split_ifs <;> exact hat _ _ rfl
    | dispose =>
      rw [enter, dispose]
      split_ifs
      · cases s.disposeDone <;> exact hat _ _ rfl
      · exact hat _ _ rfl
      · exact hat _ _ rfl
  · exact hat _ _ rfl
  · exact hat _ _ rfl

lemma phase_next (hnext : s.next? step = some s') : s'.phase id = s.phase id ∨ step = .goOn id ∨
      (s.phase id = .unmade ∧ s'.phase id = .entering ∧ ∃ call, step = .call id call) ∨
      (s.phase id = .sending ∧ s'.phase id = .sent ∧ s'.Told id) := by
  cases step with
  | call other call =>
    obtain ⟨hunmade, rfl⟩ := call?_eq_some hnext
    by_cases hsame : id = other
    · subst hsame
      refine Or.inr (Or.inr (Or.inl ⟨hunmade, ?_, call, rfl⟩))
      rw [phase]
      dsimp only
      rw [Function.update_self]
    · refine Or.inl ?_
      rw [phase]
      dsimp only
      rw [Function.update_of_ne hsame]
      rfl
  | goOn other =>
    by_cases hsame : id = other
    · exact Or.inr (Or.inl (by rw [hsame]))
    · exact Or.inl (phase_goOn_of_ne hsame hnext)
  | receive =>
    obtain ⟨task, rest, -, -, rfl⟩ := receive?_eq_some hnext
    rcases serveSender_eq { s with task := some task, writeQ := rest } with
      ⟨other, -, hsending, heq⟩ | ⟨-, heq⟩
    · rw [heq, phase_setPhase]
      split_ifs with hsame
      · subst hsame
        refine Or.inr (Or.inr (Or.inr ⟨hsending, rfl, Or.inr ⟨.remove id, ?_, rfl⟩⟩))
        rw [pending_setPhase, pending_send]
        exact List.mem_append_right _ List.mem_cons_self
      · exact Or.inl rfl
    · rw [heq]
      exact Or.inl rfl
  | doTask ok =>
    obtain ⟨task, -, -, hdone⟩ := doTask?_eq_some hnext
    subst hdone
    cases task <;> cases ok <;> exact Or.inl rfl

/-! ## The channel -/

lemma pending_goOn (hnext : s.goOn? id = some s') :
    s'.task = s.task ∧ s'.closed = s.closed ∧ ∃ more, s'.pending = s.pending ++ more := by
  have hnone : s.pending = s.pending ++ [] := (List.append_nil _).symm
  rcases goOn?_eq_some hnext with ⟨-, -, rfl⟩ | ⟨-, rfl⟩ | ⟨call, -, -, rfl⟩
  · cases (s.calls id).1 with
    | record source text =>
      rw [enter, record]
      dsimp only
      split_ifs
      · exact ⟨rfl, rfl, [], hnone⟩
      · rw [scheduleWrite]
        split_ifs
        · exact ⟨rfl, rfl, _, (List.append_assoc _ _ _).symm⟩
        · exact ⟨rfl, rfl, [], hnone⟩
    | snapshot => exact ⟨rfl, rfl, [], hnone⟩
    | flush =>
      rw [enter, flush]
      split_ifs
      · exact ⟨rfl, rfl, _, (List.append_assoc _ _ _).symm⟩
      · exact ⟨rfl, rfl, [], hnone⟩
    | dispose =>
      rw [enter, dispose]
      split_ifs
      · cases s.disposeDone <;> exact ⟨rfl, rfl, [], hnone⟩
      · exact ⟨rfl, rfl, _, (List.append_assoc _ _ _).symm⟩
      · exact ⟨rfl, rfl, [], hnone⟩
  · exact ⟨rfl, rfl, [], hnone⟩
  · exact ⟨rfl, rfl, [], hnone⟩

lemma pending_receive (hnext : s.receive? = some s') :
    s.task = none ∧ s'.task ≠ none ∧ s'.closed = s.closed ∧
      ∃ more, s'.pending = s.pending ++ more := by
  obtain ⟨task, rest, htask, hqueue, rfl⟩ := receive?_eq_some hnext
  have htaken : ({ s with task := some task, writeQ := rest } : TranscriptStore).pending =
      s.pending := by
    rw [pending, pending, htask, hqueue]
    rfl
  rcases serveSender_eq { s with task := some task, writeQ := rest } with
    ⟨other, -, -, heq⟩ | ⟨-, heq⟩
  · rw [heq]
    refine ⟨htask, Option.some_ne_none task, rfl, [.remove other], ?_⟩
    rw [pending_setPhase, pending_send, htaken]
  · rw [heq]
    exact ⟨htask, Option.some_ne_none task, rfl, [], by rw [htaken, List.append_nil]⟩

lemma pending_doTask {ok : Bool} (hnext : s.doTask? ok = some s') :
    s'.task = none ∧ ∃ task, s.task = some task ∧ s.pending = task :: s'.pending ∧
      s'.closed = task.tells.toList ++ s.closed := by
  obtain ⟨task, htask, hpending, hdone⟩ := doTask?_eq_some hnext
  refine ⟨?_, task, htask, hpending, ?_⟩
  · subst hdone
    cases task <;> cases ok <;> rfl
  · subst hdone
    cases task <;> cases ok <;> rfl

/-! ## The invariant -/

lemma Told.next {call : ℕ} (h : s.Told call) (hnext : s.next? step = some s') : s'.Told call := by
  cases step with
  | call id made =>
    obtain ⟨-, rfl⟩ := call?_eq_some hnext
    exact h
  | goOn id =>
    obtain ⟨-, hclosed, more, hpending⟩ := pending_goOn hnext
    rw [Told, hclosed, hpending]
    refine h.imp_right fun ⟨task, hmem, htells⟩ => ⟨task, ?_, htells⟩
    exact List.mem_append_left _ hmem
  | receive =>
    obtain ⟨-, -, hclosed, more, hpending⟩ := pending_receive hnext
    rw [Told, hclosed, hpending]
    refine h.imp_right fun ⟨task, hmem, htells⟩ => ⟨task, ?_, htells⟩
    exact List.mem_append_left _ hmem
  | doTask ok =>
    obtain ⟨-, first, -, hpending, hclosed⟩ := pending_doTask hnext
    rw [Told, hclosed, List.mem_append]
    rcases h with hclosed | ⟨task, hmem, htells⟩
    · exact Or.inl (Or.inr hclosed)
    · rw [hpending] at hmem
      rcases List.mem_cons.mp hmem with rfl | hlater
      · rw [htells]
        exact Or.inl (Or.inl List.mem_cons_self)
      · exact Or.inr ⟨task, hlater, htells⟩

variable (s) in
/-- What a call waits for is about to come. -/
structure Waits : Prop where
  -- The lock is held by a disposal that waits for its slot, or has got it.
  holding : ∀ id, s.lock = some id → s.phase id = .sending ∨ s.phase id = .sent
  sending : ∀ id, s.phase id = .sending → s.writeQ ≠ []
  awaiting : ∀ id call, s.phase id = .awaiting call → s.Told call
  disposing : ∀ call, s.disposeDone = some call → s.phase call = .sending ∨ s.Told call

/-- What a call that has entered waits for. -/
lemma enter_spec (s : TranscriptStore) (id : ℕ) (made : TranscriptCall) :
    ((s.enter id made).phase id = .sending → (s.enter id made).writeQ ≠ []) ∧
    ((s.enter id made).lock = s.lock ∨
      (s.enter id made).lock = some id ∧ (s.enter id made).phase id = .sending) ∧
    ((s.enter id made).disposeDone = s.disposeDone ∨ (s.enter id made).disposeDone = some id ∧
      ((s.enter id made).phase id = .sending ∨ (s.enter id made).Told id)) ∧
    ∀ call, (s.enter id made).phase id = .awaiting call →
      (s.enter id made).Told call ∨ s.disposeDone = some call ∧ needsLock made = true := by
  have hat : ∀ (t : TranscriptStore) phase, (t.setPhase id phase).phase id = phase :=
    fun t phase => by rw [phase_setPhase, if_pos rfl]
  have hsent : ∀ (t : TranscriptStore) (task : WriterTask) phase, task.tells = some id →
      ((t.send task).setPhase id phase).Told id := fun t task phase htells => by
    refine Or.inr ⟨task, ?_, htells⟩
    rw [pending_setPhase, pending_send]
    exact List.mem_append_right _ List.mem_cons_self
  cases made with
  | record source text =>
    have hsame : (s.record source text).lock = s.lock ∧
        (s.record source text).disposeDone = s.disposeDone := by
      rw [record]
      dsimp only
      split_ifs
      · exact ⟨rfl, rfl⟩
      · rw [scheduleWrite]
        split_ifs <;> exact ⟨rfl, rfl⟩
    rw [enter, hat, lock_setPhase, disposeDone_setPhase]
    exact ⟨fun hno => (by cases hno), Or.inl hsame.1, Or.inl hsame.2, fun _ hno => (by cases hno)⟩
  | snapshot =>
    rw [enter, hat]
    exact ⟨fun hno => (by cases hno), Or.inl rfl, Or.inl rfl, fun _ hno => (by cases hno)⟩
  | flush =>
    rw [enter, flush]
    split_ifs
    · rw [hat]
      refine ⟨fun hno => (by cases hno), Or.inl rfl, Or.inl rfl, fun call heq => Or.inl ?_⟩
      cases heq
      exact hsent s (.flush id) _ rfl
    · rw [hat]
      exact ⟨fun hno => (by cases hno), Or.inl rfl, Or.inl rfl, fun _ hno => (by cases hno)⟩
  | dispose =>
    rw [enter, dispose]
    split_ifs with hdisposed hslot
    · cases hdone : s.disposeDone with
      | none =>
        dsimp only
        rw [hat]
        exact ⟨fun hno => (by cases hno), Or.inl rfl, Or.inl hdone, fun _ hno => (by cases hno)⟩
      | some done =>
        dsimp only
        rw [hat]
        refine ⟨fun hno => (by cases hno), Or.inl rfl, Or.inl hdone, fun call heq => Or.inr ?_⟩
        cases heq
        exact ⟨rfl, rfl⟩
    · dsimp only
      rw [hat]
      refine ⟨fun hno => (by cases hno), Or.inl rfl, Or.inr ⟨rfl, Or.inr ?_⟩, fun call heq => ?_⟩
      · exact hsent _ (.remove id) _ rfl
      · cases heq
        exact Or.inl (hsent _ (.remove id) _ rfl)
    · dsimp only
      rw [hat]
      refine ⟨fun _ hempty => ?_, Or.inr ⟨rfl, rfl⟩, Or.inr ⟨rfl, Or.inl rfl⟩,
        fun _ hno => (by cases hno)⟩
      have hqueue : s.writeQ = [] := hempty
      rw [hqueue] at hslot
      exact hslot (by decide)

lemma sending_goOn (hnext : s.goOn? id = some s') (hsending : s'.phase id = .sending) :
    s'.writeQ ≠ [] := by
  rcases goOn?_eq_some hnext with ⟨-, -, rfl⟩ | ⟨hsent, -⟩ | ⟨call, hat, -⟩
  · exact (enter_spec s id _).1 hsending
  · rcases phase_goOn hnext with ⟨hno, -⟩ | ⟨-, hno, -⟩ | ⟨call, hno, -⟩
    · rw [hsent] at hno
      cases hno
    · rw [hsending] at hno
      cases hno
    · rw [hsent] at hno
      cases hno
  · rcases phase_goOn hnext with ⟨hno, -⟩ | ⟨hno, -⟩ | ⟨call, -, hno⟩
    · rw [hat] at hno
      cases hno
    · rw [hat] at hno
      cases hno
    · rw [hsending] at hno
      cases hno

lemma Disposal.sent_of_receive (h : Disposal s) (hsending : s.phase id = .sending)
    (hnext : s.receive? = some s') : s'.phase id = .sent := by
  obtain ⟨task, rest, -, -, rfl⟩ := receive?_eq_some hnext
  have hlock := h.holder id (Or.inl hsending)
  rcases serveSender_eq { s with task := some task, writeQ := rest } with
    ⟨other, hother, -, heq⟩ | ⟨hno, -⟩
  · have hother' : s.lock = some other := hother
    rw [hlock] at hother'
    cases hother'
    rw [heq, phase_setPhase, if_pos rfl]
  · exact absurd hsending (hno id hlock)

namespace Waits

lemma sending_next (h : Waits s) (hinv : s.Disposal) (hnext : s.next? step = some s')
    (hsending : s'.phase id = .sending) : s'.writeQ ≠ [] := by
  rcases @phase_next s s' id step hnext with hsame | hgo | ⟨-, hno, -⟩ | ⟨-, hno, -⟩
  · rw [hsame] at hsending
    have hqueue := h.sending id hsending
    cases step with
    | call other made =>
      obtain ⟨-, rfl⟩ := call?_eq_some hnext
      exact hqueue
    | goOn other =>
      obtain ⟨htask, -, more, hpending⟩ := pending_goOn hnext
      rw [pending, pending, htask, List.append_assoc] at hpending
      rw [List.append_cancel_left hpending]
      exact List.append_ne_nil_of_left_ne_nil hqueue more
    | receive =>
      rw [hinv.sent_of_receive hsending hnext, hsending] at hsame
      cases hsame
    | doTask ok =>
      obtain ⟨hnone, task, htask, hpending, -⟩ := pending_doTask hnext
      rw [pending, pending, htask, hnone] at hpending
      have heq : s.writeQ = s'.writeQ := (List.cons.inj hpending).2
      rw [← heq]
      exact hqueue
  · subst hgo
    exact sending_goOn hnext hsending
  · rw [hno] at hsending
    cases hsending
  · rw [hno] at hsending
    cases hsending

lemma slots_next (hnext : s.next? step = some s') :
    (s'.lock = s.lock ∨ s'.lock = none ∨ ∃ id, s'.lock = some id ∧ s'.phase id = .sending) ∧
      (s'.disposeDone = s.disposeDone ∨
        ∃ id, s'.disposeDone = some id ∧ (s'.phase id = .sending ∨ s'.Told id)) := by
  cases step with
  | call other made =>
    obtain ⟨-, rfl⟩ := call?_eq_some hnext
    exact ⟨Or.inl rfl, Or.inl rfl⟩
  | goOn other =>
    rcases goOn?_eq_some hnext with ⟨-, -, rfl⟩ | ⟨-, rfl⟩ | ⟨call, -, -, rfl⟩
    · obtain ⟨-, hlock, hdone, -⟩ := enter_spec s other _
      exact ⟨hlock.imp_right fun hlocked => Or.inr ⟨other, hlocked⟩,
        hdone.imp_right fun hfirst => ⟨other, hfirst⟩⟩
    · exact ⟨Or.inr (Or.inl rfl), Or.inl rfl⟩
    · exact ⟨Or.inl rfl, Or.inl rfl⟩
  | receive =>
    obtain ⟨task, rest, -, -, rfl⟩ := receive?_eq_some hnext
    rcases serveSender_eq { s with task := some task, writeQ := rest } with
      ⟨other, -, -, heq⟩ | ⟨-, heq⟩ <;> rw [heq] <;> exact ⟨Or.inl rfl, Or.inl rfl⟩
  | doTask ok =>
    obtain ⟨task, -, -, hdone⟩ := doTask?_eq_some hnext
    subst hdone
    cases task <;> cases ok <;> exact ⟨Or.inl rfl, Or.inl rfl⟩

lemma awaiting_goOn (h : Waits s) (hinv : s.Disposal) (hnext : s.next? (.goOn id) = some s')
    {call : ℕ} (hat : s'.phase id = .awaiting call) : s'.Told call := by
  have htold : s.Told call → s'.Told call := fun htold => htold.next hnext
  rcases goOn?_eq_some hnext with ⟨-, hfree, rfl⟩ | ⟨hsent, rfl⟩ | ⟨other, -, -, rfl⟩
  · rcases (enter_spec s id _).2.2.2 call hat with hnew | ⟨hdone, hneeds⟩
    · exact hnew
    · -- The lock is free, so that the other disposal got its slot before.
      rcases h.disposing call hdone with hsending | hold
      · have hlock := hinv.holder call (Or.inl hsending)
        rw [hfree hneeds] at hlock
        cases hlock
      · exact htold hold
  · have hat' : (s.setPhase id (.awaiting id)).phase id = .awaiting call := hat
    rw [phase_setPhase, if_pos rfl] at hat'
    cases hat'
    rcases h.disposing id (hinv.lock id (hinv.holder id (Or.inr hsent))) with hno | hold
    · rw [hsent] at hno
      cases hno
    · exact htold hold
  · rw [phase_setPhase, if_pos rfl] at hat
    cases hat

lemma next (h : Waits s) (hinv : s.Disposal) (hnext : s.next? step = some s') : Waits s' where
  holding id hlock := by
    rcases (slots_next hnext).1 with hsame | hfree | ⟨other, hother, hsending⟩
    · rw [hsame] at hlock
      have hat := h.holding id hlock
      rcases @phase_next s s' id step hnext with hphase | rfl | ⟨hno, -⟩ | ⟨-, hsent, -⟩
      · rw [hphase]
        exact hat
      · rcases phase_goOn hnext with ⟨hno, -⟩ | ⟨-, -, hfree⟩ | ⟨call, hno, -⟩
        · rcases hat with hat | hat <;> rw [hno] at hat <;> cases hat
        · rw [hfree, hlock] at hsame
          cases hsame
        · rcases hat with hat | hat <;> rw [hno] at hat <;> cases hat
      · rcases hat with hat | hat <;> rw [hno] at hat <;> cases hat
      · exact Or.inr hsent
    · rw [hfree] at hlock
      cases hlock
    · rw [hother] at hlock
      cases hlock
      exact Or.inl hsending
  sending id hsending := h.sending_next hinv hnext hsending
  awaiting id call hat := by
    rcases @phase_next s s' id step hnext with hphase | rfl | ⟨-, hno, -⟩ | ⟨-, hno, -⟩
    · rw [hphase] at hat
      exact (h.awaiting id call hat).next hnext
    · exact h.awaiting_goOn hinv hnext hat
    · rw [hat] at hno
      cases hno
    · rw [hat] at hno
      cases hno
  disposing call hdone := by
    rcases (slots_next hnext).2 with hsame | ⟨id, hfirst, hat⟩
    · rw [hsame] at hdone
      rcases h.disposing call hdone with hsending | htold
      · rcases @phase_next s s' call step hnext with hphase | rfl | ⟨hno, -⟩ | ⟨-, -, htold⟩
        · rw [hphase]
          exact Or.inl hsending
        · rcases phase_goOn hnext with ⟨hno, -⟩ | ⟨hno, -⟩ | ⟨other, hno, -⟩ <;>
            rw [hsending] at hno <;> cases hno
        · rw [hsending] at hno
          cases hno
        · exact Or.inr htold
      · exact Or.inr (htold.next hnext)
    · rw [hfirst] at hdone
      cases hdone
      exact hat

end Waits

lemma waits_of_reachable (h : transcriptStoreSystem.Reachable s) : s.Waits := by
  refine h.invariant_of (Q := TranscriptStore.Disposal) (fun s h => (inv_of_reachable h).2) ?_
    fun _ _ _ hinv hwaits _ hnext => hwaits.next hinv hnext
  rintro s ⟨file, rfl⟩
  exact {
    holding := fun id hno => (by cases hno)
    sending := fun id hno => (by cases hno)
    awaiting := fun id call hno => (by cases hno)
    disposing := fun call hno => (by cases hno) }

end TranscriptStore

/-! ## Fair runs -/

/-- Whether a step is one of the writer. -/
def TranscriptStep.IsWriter (step : TranscriptStep) : Prop :=
  step = .receive ∨ ∃ ok, step = .doTask ok

/-- A run in which the writer and the calls are scheduled. A call that may take the lock again and
again takes it in the end. -/
structure FairTranscriptRun (run : transcriptStoreSystem.InfiniteRun) : Prop where
  writer : run.WeaklyFair TranscriptStep.IsWriter
  call : ∀ id, run.StronglyFair (· = .goOn id)

namespace TranscriptStore

open TransitionSystem

variable {s s' : TranscriptStore} {id : ℕ} {step : TranscriptStep}

lemma enabled_writer (h : s.pending ≠ []) : transcriptStoreSystem.Enabled TranscriptStep.IsWriter s := by
  cases htask : s.task with
  | none =>
    cases hqueue : s.writeQ with
    | nil =>
      rw [pending, htask, hqueue] at h
      exact absurd rfl h
    | cons task rest =>
      have hnext : ∃ s', s.receive? = some s' := by
        rw [receive?, htask, hqueue]
        exact ⟨_, rfl⟩
      obtain ⟨s', hnext⟩ := hnext
      exact ⟨.receive, s', Or.inl rfl, hnext⟩
  | some task =>
    have hnext : ∃ s', s.doTask? true = some s' := by
      rw [doTask?, htask, Option.map_some]
      exact ⟨_, rfl⟩
    obtain ⟨s', hnext⟩ := hnext
    exact ⟨.doTask true, s', Or.inr ⟨true, rfl⟩, hnext⟩

variable {run : transcriptStoreSystem.InfiniteRun}

variable (s) in
/-- How far the writer is from telling a call. -/
def rankTold (call : ℕ) : ℕ :=
  2 * s.pending.findIdx (·.tells = some call) + if s.task = none then 1 else 0

lemma findIdx_pending {call : ℕ} (h : ∃ task ∈ s.pending, task.tells = some call)
    {more : List WriterTask} (hpending : s'.pending = s.pending ++ more) :
    (∃ task ∈ s'.pending, task.tells = some call) ∧
      s'.pending.findIdx (·.tells = some call) = s.pending.findIdx (·.tells = some call) := by
  obtain ⟨task, hmem, htells⟩ := h
  refine ⟨⟨task, by rw [hpending]; exact List.mem_append_left _ hmem, htells⟩, ?_⟩
  rw [hpending, List.findIdx_append, if_pos]
  exact List.findIdx_lt_length.mpr ⟨task, hmem, decide_eq_true htells⟩

lemma rankTold_writer {call : ℕ} (h : ∃ task ∈ s.pending, task.tells = some call)
    (hwriter : step.IsWriter) (hnext : s.next? step = some s') :
    ((∃ task ∈ s'.pending, task.tells = some call) ∧ s'.rankTold call < s.rankTold call) ∨
      call ∈ s'.closed := by
  rcases hwriter with rfl | ⟨ok, rfl⟩
  · obtain ⟨hnone, hsome, -, more, hpending⟩ := pending_receive hnext
    obtain ⟨hqueued, hindex⟩ := findIdx_pending h hpending
    refine Or.inl ⟨hqueued, ?_⟩
    rw [rankTold, rankTold, hindex, if_pos hnone, if_neg hsome]
    omega
  · obtain ⟨hnone, first, hfirst, hpending, hclosed⟩ := pending_doTask hnext
    obtain ⟨task, hmem, htells⟩ := h
    by_cases htold : first.tells = some call
    · rw [hclosed, htold]
      exact Or.inr List.mem_cons_self
    · have hlater : task ∈ s'.pending := by
        rw [hpending] at hmem
        refine (List.mem_cons.mp hmem).resolve_left ?_
        rintro rfl
        exact htold htells
      refine Or.inl ⟨⟨task, hlater, htells⟩, ?_⟩
      rw [rankTold, rankTold, hpending, List.findIdx_cons, decide_eq_false htold, cond_false,
        hfirst, if_pos hnone, if_neg (Option.some_ne_none first)]
      omega

lemma leadsTo_closed (hfair : FairTranscriptRun run) (call : ℕ) :
    run.LeadsTo (·.Told call) (call ∈ ·.closed) := by
  refine InfiniteRun.LeadsTo.or (.of_imp fun _ _ h => h) ?_
  refine .of_rank (·.rankTold call) fun k => ?_
  refine .of_weaklyFair hfair.writer ?_ ?_ ?_
  · rintro s step s' - ⟨hqueued, hrank⟩ hother hnext
    refine Or.inl ?_
    cases step with
    | call id made =>
      obtain ⟨-, rfl⟩ := call?_eq_some hnext
      exact ⟨hqueued, hrank⟩
    | goOn id =>
      obtain ⟨htask, -, more, hpending⟩ := pending_goOn hnext
      obtain ⟨hstill, hindex⟩ := findIdx_pending hqueued hpending
      refine ⟨hstill, ?_⟩
      rw [rankTold, hindex, htask]
      exact hrank
    | receive => exact absurd (Or.inl rfl) hother
    | doTask ok => exact absurd (Or.inr ⟨ok, rfl⟩) hother
  · rintro s - ⟨⟨task, hmem, -⟩, -⟩
    exact enabled_writer (List.ne_nil_of_mem hmem)
  · rintro s step s' - ⟨hqueued, rfl⟩ hwriter hnext
    exact rankTold_writer hqueued hwriter hnext

lemma sending_next (h : s.phase id = .sending) (hnext : s.next? step = some s') :
    s'.phase id = .sending ∨ s'.phase id = .sent := by
  rcases @phase_next s s' id step hnext with hsame | rfl | ⟨hno, -⟩ | ⟨-, hsent, -⟩
  · rw [hsame]
    exact Or.inl h
  · rcases phase_goOn hnext with ⟨hno, -⟩ | ⟨hno, -⟩ | ⟨call, hno, -⟩ <;> rw [h] at hno <;> cases hno
  · rw [h] at hno
    cases hno
  · exact Or.inr hsent

section

variable (hfair : FairTranscriptRun run)
include hfair

lemma leadsTo_sent (id : ℕ) : run.LeadsTo (·.phase id = .sending) (·.phase id = .sent) := by
  refine .of_rank (fun s => if s.task = none then 0 else 1) fun k => ?_
  refine .of_weaklyFair hfair.writer ?_ ?_ ?_
  · rintro s step s' - ⟨hsending, hrank⟩ hother hnext
    rcases sending_next hsending hnext with hstill | hsent
    · refine Or.inl ⟨hstill, ?_⟩
      cases step with
      | call other made =>
        obtain ⟨-, rfl⟩ := call?_eq_some hnext
        exact hrank
      | goOn other =>
        rw [(pending_goOn hnext).1]
        exact hrank
      | receive => exact absurd (Or.inl rfl) hother
      | doTask ok => exact absurd (Or.inr ⟨ok, rfl⟩) hother
    · exact Or.inr (Or.inr hsent)
  · rintro s hreach ⟨hsending, -⟩
    have hqueue := (waits_of_reachable hreach).sending id hsending
    exact enabled_writer (List.append_ne_nil_of_right_ne_nil _ hqueue)
  · rintro s step s' hreach ⟨hsending, rfl⟩ hwriter hnext
    rcases sending_next hsending hnext with hstill | hsent
    · refine Or.inl ⟨hstill, ?_⟩
      rcases hwriter with rfl | ⟨ok, rfl⟩
      · have hinv := (inv_of_reachable hreach).2
        rw [hinv.sent_of_receive hsending hnext] at hstill
        cases hstill
      · obtain ⟨hnone, task, htask, -⟩ := pending_doTask hnext
        rw [if_pos hnone, htask, if_neg (Option.some_ne_none task)]
        exact Nat.one_pos
    · exact Or.inr hsent

lemma leadsTo_unlock (id : ℕ) :
    run.LeadsTo (·.phase id = .sent) fun s => s.lock = none ∧ s.phase id = .awaiting id := by
  refine .of_weaklyFair (hfair.call id).weaklyFair ?_ ?_ ?_
  · intro s step s' _ hsent hother hnext
    rcases @phase_next s s' id step hnext with hsame | hgo | ⟨hno, -⟩ | ⟨hno, -⟩
    · rw [hsame]
      exact Or.inl hsent
    · exact absurd hgo hother
    · rw [hsent] at hno
      cases hno
    · rw [hsent] at hno
      cases hno
  · intro s _ hsent
    refine ⟨.goOn id, { s.setPhase id (.awaiting id) with lock := none }, rfl, ?_⟩
    show s.goOn? id = some _
    rw [goOn?, hsent]
    rfl
  · rintro s step s' - hsent rfl hnext
    rcases phase_goOn hnext with ⟨hno, -⟩ | ⟨-, hat, hfree⟩ | ⟨call, hno, -⟩
    · rw [hsent] at hno
      cases hno
    · exact ⟨hfree, hat⟩
    · rw [hsent] at hno
      cases hno

lemma exists_lock_eq_none (n : ℕ) : ∃ m, n ≤ m ∧ (run.state m).lock = none := by
  cases hlock : (run.state n).lock with
  | none => exact ⟨n, le_rfl, hlock⟩
  | some id =>
    have hfree : run.LeadsTo (·.phase id = .sent) (·.lock = none) :=
      (leadsTo_unlock hfair id).trans (.of_imp fun _ _ h => h.1)
    rcases (waits_of_reachable (run.reachable n)).holding id hlock with hsending | hsent
    · exact (leadsTo_sent hfair id).trans hfree n hsending
    · exact hfree n hsent

lemma leadsTo_entered (id : ℕ) :
    run.LeadsTo (·.phase id = .entering) fun s => s.phase id = .sending ∨
      (∃ call, s.phase id = .awaiting call) ∨ ∃ snapshot, s.phase id = .returned snapshot := by
  refine .of_stronglyFair (hfair.call id) ?_ ?_ ?_
  · intro s step s' _ hentering hother hnext
    rcases @phase_next s s' id step hnext with hsame | hgo | ⟨hno, -⟩ | ⟨hno, -⟩
    · rw [hsame]
      exact Or.inl hentering
    · exact absurd hgo hother
    · rw [hentering] at hno
      cases hno
    · rw [hentering] at hno
      cases hno
  · intro n
    obtain ⟨m, hm, hfree⟩ := exists_lock_eq_none hfair n
    refine ⟨m, hm, fun hentering => ?_⟩
    refine ⟨.goOn id, (run.state m).enter id ((run.state m).calls id).1, rfl, ?_⟩
    show (run.state m).goOn? id = some _
    rw [goOn?, hentering]
    exact if_neg fun hno => hno.2 hfree
  · rintro s step s' - hentering rfl hnext
    rcases phase_goOn hnext with ⟨-, hentered⟩ | ⟨hno, -⟩ | ⟨call, hno, -⟩
    · exact hentered
    · rw [hentering] at hno
      cases hno
    · rw [hentering] at hno
      cases hno

lemma leadsTo_returned (id call : ℕ) : run.LeadsTo (·.phase id = .awaiting call)
      fun s => ∃ snapshot, s.phase id = .returned snapshot := by
  refine .of_stronglyFair (hfair.call id) ?_ ?_ ?_
  · intro s step s' _ hat hother hnext
    rcases @phase_next s s' id step hnext with hsame | hgo | ⟨hno, -⟩ | ⟨hno, -⟩
    · rw [hsame]
      exact Or.inl hat
    · exact absurd hgo hother
    · rw [hat] at hno
      cases hno
    · rw [hat] at hno
      cases hno
  · intro n
    by_cases hat : (run.state n).phase id = .awaiting call
    · have htold := (waits_of_reachable (run.reachable n)).awaiting id call hat
      obtain ⟨m, hm, hclosed⟩ := leadsTo_closed hfair call n htold
      refine ⟨m, hm, fun hstill => ?_⟩
      refine ⟨.goOn id, (run.state m).setPhase id (.returned none), rfl, ?_⟩
      show (run.state m).goOn? id = some _
      rw [goOn?, hstill]
      exact if_pos hclosed
    · exact ⟨n, le_rfl, fun hno => absurd hno hat⟩
  · rintro s step s' - hat rfl hnext
    rcases phase_goOn hnext with ⟨hno, -⟩ | ⟨hno, -⟩ | ⟨other, -, hreturned⟩
    · rw [hat] at hno
      cases hno
    · rw [hat] at hno
      cases hno
    · exact ⟨none, hreturned⟩

lemma exists_returned {n : ℕ} (hmade : (run.state n).phase id ≠ .unmade) :
    ∃ m, n ≤ m ∧ ∃ snapshot, (run.state m).phase id = .returned snapshot := by
  have hsent : run.LeadsTo (·.phase id = .sent)
      fun s => ∃ snapshot, s.phase id = .returned snapshot :=
    (leadsTo_unlock hfair id).trans ((InfiniteRun.LeadsTo.of_imp fun _ _ h => h.2).trans
      (leadsTo_returned hfair id id))
  have hsending := (leadsTo_sent hfair id).trans hsent
  have hawaiting : run.LeadsTo (fun s => ∃ call, s.phase id = .awaiting call)
      fun s => ∃ snapshot, s.phase id = .returned snapshot := fun n ⟨call, hat⟩ =>
    leadsTo_returned hfair id call n hat
  have hreturned : run.LeadsTo (fun s => ∃ snapshot, s.phase id = .returned snapshot)
      fun s => ∃ snapshot, s.phase id = .returned snapshot := .of_imp fun _ _ h => h
  cases hphase : (run.state n).phase id with
  | unmade => exact absurd hphase hmade
  | entering =>
    exact (leadsTo_entered hfair id).trans (hsending.or (hawaiting.or hreturned)) n hphase
  | sending => exact hsending n hphase
  | sent => exact hsent n hphase
  | awaiting call => exact hawaiting n ⟨call, hphase⟩
  | returned snapshot => exact ⟨n, le_rfl, snapshot, hphase⟩

end

end TranscriptStore

namespace TranscriptStore

/-- The steps in which an utterance is recorded and written, and the store is disposed of. -/
def recordAndDispose : List TranscriptStep :=
  [.call 0 (.record ⟨"h1", "Alice", "mic"⟩ " first "), .goOn 0, .call 1 .dispose, .receive,
    .goOn 1, .doTask true, .receive, .doTask true, .goOn 1]

/-- Whether a step makes no call but the first two. -/
def makesTwo (_ : TranscriptStore) : TranscriptStep → Bool
  | .call id _ => id < 2
  | _ => true

lemma phase_eq_unmade {s : TranscriptStore} {id : ℕ} (hid : 2 ≤ id)
    (h : transcriptStoreSystem.ReachableWhen (fun s step => s.makesTwo step = true) s) :
    s.phase id = .unmade := by
  refine h.invariant (P := fun s => s.phase id = .unmade) ?_ fun s step s' hunmade hguard hnext => ?_
  · rintro s ⟨file, rfl⟩
    rfl
  rcases @phase_next s s' id step hnext with hsame | rfl | ⟨-, -, call, rfl⟩ | ⟨hno, -⟩
  · rw [hsame]
    exact hunmade
  · rcases phase_goOn hnext with ⟨hno, -⟩ | ⟨hno, -⟩ | ⟨call, hno, -⟩ <;>
      rw [hunmade] at hno <;> cases hno
  · have hother : id < 2 := of_decide_eq_true hguard
    omega
  · rw [hunmade] at hno
    cases hno

end TranscriptStore

end Free4Chat
