import Free4Chat.Runtime.LiveTranscript

/-!
# Text Stays in Its Epoch

The text of a session that was created while the Live Transcript was produced is appended to the
Room only under the epoch that was produced then, and is never recorded in the local Meeting Notes.
What is published or recorded belongs to the current generation. This holds in every run in which
no attempt to publish looks at the epoch between the change of the producer and that of the
generation, and the local notes are recorded only for the current generation while the Runtime
does not produce.

The source breaks this in three ways. `Transcriber.Close` forgets its tracks before it ends them,
so that the sessions of a replaced transcriber go on committing text. `handleSttEvent` records
whatever it does not publish, without a look at the generation. And the epoch changes before the
generation does.

* `LiveRun.TextStaysInEpoch`: what holds of states.
* `LiveRun.keepsEpochs`: the condition on the sections of the handlers.
* `textStaysInEpoch_of_keepsEpochs`: the property, over every run.
* `not_textStaysInEpoch_replaced` and `not_textStaysInEpoch_rotated`: runs in which a text is
  recorded, and in which it is published under another epoch.
-/

namespace Free4Chat

/-! ## The property -/

/-- Text is published under the epoch of its session, or recorded outside of all epochs, and only
while the generation of its session is the current one. -/
structure LiveRun.TextStaysInEpoch (s : LiveRun) : Prop where
  published : ∀ text ∈ s.published, text.created = some text.epoch ∧ text.generation = text.current
  recorded : ∀ text ∈ s.recorded, text.created = none ∧ text.generation = text.current

/-- Whether the producer changed, and the generation did not yet. -/
def MediaSection.isChanged : MediaSection → Bool
  | .changed _ => true
  | _ => false

namespace LiveRun

variable (s : LiveRun)

/-- Whether the next section of a handler keeps its text in its epoch. -/
def handlerKeepsEpochs (handler : SttHandler) : Bool :=
  match handler.phase with
  | .publishing _ => !(s.mediaMu.isChanged && s.isCurrentLiveProducer handler.generation)
  | .fallingBack =>
    !s.transcript || s.isCurrentLiveProducer handler.generation ||
      (handler.generation = s.sttGeneration && !s.liveTranscriptProducing)
  | _ => true

/-- No handler looks at an epoch that its generation does not belong to, or records a text of
another generation or of the Live Transcript. -/
def keepsEpochs : LiveStep → Bool
  | .goOn index _ => s.handlers[index]?.all s.handlerKeepsEpochs
  | _ => true

end LiveRun

/-! ## The invariant -/

namespace LiveRun

/-- What is known of the epoch of a session by its generation: it is the epoch that is produced, if
the generation is the current one. -/
structure Fresh (s : LiveRun) (generation : ℕ) (created : Option ℕ) : Prop where
  le : generation ≤ s.sttGeneration
  current : generation = s.sttGeneration → s.mediaMu.isChanged = false →
    created = s.producedEpoch ∨ (s.transcript = false ∧ s.liveTranscriptProducing = false)

/-- What is known of a handler. -/
structure HandlerFresh (s : LiveRun) (handler : SttHandler) : Prop where
  fresh : s.Fresh handler.generation handler.created
  appending : ∀ attempt epoch current, handler.phase = .appending attempt epoch current →
    handler.created = some epoch ∧ handler.generation = current

/-- The invariant. -/
structure Invariant (s : LiveRun) : Prop where
  states : ∀ state ∈ s.states.values, state.generation ≤ s.sttGeneration ∧
    ∀ created, state.session = some created → s.Fresh state.generation created
  transcriber : ∀ t, s.transcriber = some t → t.generation ≤ s.sttGeneration
  handlers : ∀ handler ∈ s.handlers, s.HandlerFresh handler
  stays : s.TextStaysInEpoch

variable {s s' : LiveRun} {generation : ℕ} {created : Option ℕ}

lemma Fresh.congr (h : s.Fresh generation created) (hgeneration : s'.sttGeneration = s.sttGeneration)
    (hmedia : s'.mediaMu.isChanged = s.mediaMu.isChanged)
    (hepoch : s'.producedEpoch = s.producedEpoch) (htranscript : s'.transcript = s.transcript)
    (hproducing : s'.liveTranscriptProducing = s.liveTranscriptProducing) :
    s'.Fresh generation created where
  le := by rw [hgeneration]; exact h.le
  current := by
    rw [hgeneration, hmedia, hepoch, htranscript, hproducing]
    exact h.current

lemma Fresh.of_changed (h : s.Fresh generation created)
    (hgeneration : s'.sttGeneration = s.sttGeneration) (hmedia : s'.mediaMu.isChanged = true) :
    s'.Fresh generation created where
  le := by rw [hgeneration]; exact h.le
  current := fun _ hnot => absurd hnot (by rw [hmedia]; decide)

lemma Fresh.of_lt (h : generation < s.sttGeneration) : s.Fresh generation created where
  le := Nat.le_of_lt h
  current := fun heq => absurd heq (Nat.ne_of_lt h)

namespace Invariant

section

variable (h : s.Invariant)
include h

lemma of_fresh
    (hfresh : ∀ generation created, s.Fresh generation created → s'.Fresh generation created)
    (hgeneration : s.sttGeneration ≤ s'.sttGeneration) (hstates : s'.states = s.states)
    (htranscriber : ∀ t, s'.transcriber = some t → t.generation ≤ s'.sttGeneration)
    (hhandlers : s'.handlers = s.handlers) (hpublished : s'.published = s.published)
    (hrecorded : s'.recorded = s.recorded) : s'.Invariant where
  states := by
    rw [hstates]
    intro state hstate
    obtain ⟨hle, hsession⟩ := h.states state hstate
    exact ⟨hle.trans hgeneration, fun created hcreated => hfresh _ _ (hsession created hcreated)⟩
  transcriber := htranscriber
  handlers := by
    rw [hhandlers]
    intro handler hhandler
    obtain ⟨hold, happending⟩ := h.handlers handler hhandler
    exact ⟨hfresh _ _ hold, happending⟩
  stays := ⟨by rw [hpublished]; exact h.stays.published, by rw [hrecorded]; exact h.stays.recorded⟩

lemma of_states {states : KeyedMap TrackState} {next : ℕ} {transcriber : Option Transcriber}
    (hstates : ∀ state ∈ states.values, state.generation ≤ s.sttGeneration ∧
      ∀ created, state.session = some created → s.Fresh state.generation created)
    (htranscriber : ∀ t, transcriber = some t → t.generation ≤ s.sttGeneration) :
    Invariant { s with states := states, nextState := next, transcriber := transcriber } where
  states := by
    intro state hstate
    obtain ⟨hle, hsession⟩ := hstates state hstate
    exact ⟨hle, fun created hcreated => (hsession created hcreated).congr rfl rfl rfl rfl rfl⟩
  transcriber := htranscriber
  handlers := by
    intro handler hhandler
    obtain ⟨hold, happending⟩ := h.handlers handler hhandler
    exact ⟨hold.congr rfl rfl rfl rfl rfl, happending⟩
  stays := ⟨h.stays.published, h.stays.recorded⟩

lemma of_texts {handlers : List SttHandler} {published : List PublishedText}
    {recorded : List RecordedText} (hhandlers : ∀ handler ∈ handlers, s.HandlerFresh handler)
    (hpublished : ∀ text ∈ published,
      text.created = some text.epoch ∧ text.generation = text.current)
    (hrecorded : ∀ text ∈ recorded, text.created = none ∧ text.generation = text.current) :
    Invariant { s with handlers := handlers, published := published, recorded := recorded } where
  states := by
    intro state hstate
    obtain ⟨hle, hsession⟩ := h.states state hstate
    exact ⟨hle, fun created hcreated => (hsession created hcreated).congr rfl rfl rfl rfl rfl⟩
  transcriber := h.transcriber
  handlers := by
    intro handler hhandler
    obtain ⟨hold, happending⟩ := hhandlers handler hhandler
    exact ⟨hold.congr rfl rfl rfl rfl rfl, happending⟩
  stays := ⟨hpublished, hrecorded⟩

lemma modify_states {f : TrackState → TrackState}
    (hf : ∀ state, Keyed.key (f state) = Keyed.key state)
    (hgeneration : ∀ state, (f state).generation = state.generation)
    (hsession : ∀ state, (f state).session = state.session) (id : ℕ) :
    ∀ state ∈ (s.states.modify id f hf).values, state.generation ≤ s.sttGeneration ∧
      ∀ created, state.session = some created → s.Fresh state.generation created := by
  intro state hstate
  rcases KeyedMap.mem_modify.mp hstate with ⟨old, hold, -, rfl⟩ | ⟨hold, -⟩
  · rw [hgeneration, hsession]
    exact h.states old hold
  · exact h.states state hold

lemma of_setLiveTranscriptProducer (state : LiveTranscriptInfo) (producing sttEnabled : Bool) :
    (s.setLiveTranscriptProducer state producing sttEnabled).Invariant := by
  unfold setLiveTranscriptProducer
  split
  · exact h.of_fresh (fun _ _ hold => hold.of_changed rfl rfl) (Nat.le_refl _) rfl h.transcriber
      rfl rfl rfl
  · exact h

lemma of_restartMediaController (sttEnabled : Bool) :
    (s.restartMediaController sttEnabled).Invariant := by
  unfold restartMediaController
  split
  · exact h
  · exact h.of_fresh (fun _ _ hold => hold.of_changed rfl rfl) (Nat.le_refl _) rfl h.transcriber
      rfl rfl rfl

end

lemma closeTranscriber_states (s : LiveRun) : s.closeTranscriber.states = s.states := by
  show ((s.transcriber.map fun t => (t.close s.states).2).getD s.states) = s.states
  cases s.transcriber with
  | none => rfl
  | some t => exact t.close_states s.states

section

variable (h : s.Invariant)
include h

lemma of_replaceTranscriber (hstep : s.replaceTranscriber? = some s') : s'.Invariant := by
  unfold replaceTranscriber? at hstep
  cases hmedia : s.mediaMu with
  | idle => rw [hmedia] at hstep; cases hstep
  | changed sttEnabled =>
    rw [hmedia] at hstep
    cases hstep
    -- Every session belongs to an earlier generation from now on.
    refine h.of_fresh (fun _ _ hold => .of_lt (Nat.lt_succ_of_le hold.le)) (Nat.le_succ _) rfl
      (fun t ht => ?_) rfl rfl rfl
    exact Nat.le_succ_of_le (h.transcriber t ht)
  | replacing sttEnabled =>
    rw [hmedia] at hstep
    cases hstep
    refine h.of_fresh (fun _ _ hold => hold.congr rfl (by rw [hmedia]; rfl) rfl rfl rfl)
      (Nat.le_refl _) (closeTranscriber_states s) (fun t ht => ?_) rfl rfl rfl
    cases sttEnabled with
    | false => cases ht
    | true =>
      cases ht
      exact Nat.le_refl _

lemma of_releaseResources : s.releaseResources.Invariant := by
  refine h.of_fresh (fun _ _ hold => ⟨hold.le, fun _ _ => Or.inr ⟨rfl, rfl⟩⟩) (Nat.le_refl _)
    (closeTranscriber_states s) (fun t ht => ?_) rfl rfl rfl
  cases ht

lemma of_acceptAudio (key : String) : (s.acceptAudio key).Invariant := by
  unfold acceptAudio
  cases ht : s.transcriber with
  | none => exact h
  | some t =>
    dsimp only
    split
    · exact h
    · refine h.of_states (fun state hstate => ?_) fun t' ht' => ?_
      · rcases KeyedMap.mem_set.mp hstate with rfl | ⟨hold, -⟩
        · exact ⟨h.transcriber t ht, fun created hcreated => by cases hcreated⟩
        · exact h.states state hold
      · cases ht'
        exact h.transcriber t ht

lemma of_endTrack (key : String) : (s.endTrack key).Invariant := by
  unfold endTrack
  cases ht : s.transcriber with
  | none => exact h
  | some t =>
    dsimp only
    unfold Transcriber.endTrack
    cases t.tracks.get? key with
    | none =>
      refine h.of_states h.states fun t' ht' => ?_
      cases ht'
      exact h.transcriber t ht
    | some track =>
      refine h.of_states (h.modify_states TrackState.key_stop (fun _ => rfl) (fun _ => rfl) track.2)
        fun t' ht' => ?_
      cases ht'
      exact h.transcriber t ht

lemma of_failTrack (id : ℕ) : (s.failTrack id).Invariant := by
  refine h.of_states (h.modify_states _ (fun state => ?_) (fun state => ?_) id) h.transcriber
  all_goals
    unfold TrackState.fail
    split <;> rfl

lemma of_createSession {id : ℕ} (hstep : s.createSession? id = some s') : s'.Invariant := by
  unfold createSession? at hstep
  cases hget : s.states.get? id with
  | none => rw [hget] at hstep; cases hstep
  | some found =>
    rw [hget] at hstep
    dsimp only at hstep
    split at hstep
    · cases hstep
    · cases hstep
      refine h.of_states (fun state hstate => ?_) h.transcriber
      rcases KeyedMap.mem_modify.mp hstate with ⟨old, hold, -, rfl⟩ | ⟨hold, -⟩
      · refine ⟨(h.states old hold).1, fun created hcreated => ?_⟩
        obtain rfl := Option.some.inj hcreated
        exact ⟨(h.states old hold).1, fun _ _ => Or.inl rfl⟩
      · exact h.states state hold

lemma of_commit {id : ℕ} {text : String} (hstep : s.commit? id text = some s') : s'.Invariant := by
  unfold commit? at hstep
  cases hget : s.states.get? id with
  | none => rw [hget] at hstep; cases hstep
  | some state =>
    rw [hget] at hstep
    dsimp only at hstep
    cases hsession : state.session with
    | none => rw [hsession] at hstep; cases hstep
    | some created =>
      rw [hsession] at hstep
      dsimp only at hstep
      split at hstep
      · cases hstep
      · split at hstep
        · cases hstep
          exact h
        · cases hstep
          have hfresh := (h.states state (KeyedMap.mem_of_get? hget)).2 created hsession
          refine h.of_texts (fun handler hhandler => ?_) h.stays.published h.stays.recorded
          rcases List.mem_append.mp hhandler with hold | hnew
          · exact h.handlers handler hold
          · rw [List.mem_singleton.mp hnew]
            exact ⟨hfresh, fun attempt epoch current hphase => by cases hphase⟩

end

variable {handler : SttHandler}

lemma of_record (h : s.Invariant) (hfresh : s.HandlerFresh handler)
    (hidle : s.mediaMu.isChanged = false)
    (hguard : (!s.transcript || s.isCurrentLiveProducer handler.generation ||
      (handler.generation = s.sttGeneration && !s.liveTranscriptProducing)) = true) :
    ∀ text ∈ (s.record handler).recorded, text.created = none ∧ text.generation = text.current := by
  unfold record
  split
  · next hrecords =>
    intro text htext
    rcases List.mem_append.mp htext with hold | hnew
    · exact h.stays.recorded text hold
    · rw [List.mem_singleton.mp hnew]
      rw [Bool.and_eq_true, Bool.not_eq_true'] at hrecords
      rw [hrecords.1, hrecords.2] at hguard
      simp only [Bool.not_true, Bool.false_or, Bool.and_eq_true, decide_eq_true_eq,
        Bool.not_eq_true'] at hguard
      obtain ⟨hgeneration, hproducing⟩ := hguard
      refine ⟨?_, hgeneration⟩
      -- The session was created in the current generation, in which nothing is produced.
      rcases hfresh.fresh.current hgeneration hidle with hcreated | ⟨hnone, -⟩
      · show handler.created = none
        rw [hcreated, producedEpoch, hproducing]
        rfl
      · rw [hrecords.1] at hnone
        cases hnone
  · exact h.stays.recorded

lemma created_of_snapshot {epoch : ℕ} (hfresh : s.Fresh generation created)
    (hguard : (!(s.mediaMu.isChanged && s.isCurrentLiveProducer generation)) = true)
    (hsnapshot : s.liveProducerSnapshot? generation = some epoch) :
    created = some epoch ∧ generation = s.sttGeneration := by
  rw [liveProducerSnapshot?, Option.ite_none_right_eq_some] at hsnapshot
  obtain ⟨hcurrent, hepoch⟩ := hsnapshot
  rw [hcurrent, Bool.and_true, Bool.not_eq_true'] at hguard
  have hparts := hcurrent
  simp only [isCurrentLiveProducer, Bool.and_eq_true, decide_eq_true_eq] at hparts
  obtain ⟨⟨⟨⟨⟨-, hproducing⟩, -⟩, -⟩, hgeneration⟩, -⟩ := hparts
  refine ⟨?_, hgeneration.symm⟩
  rcases hfresh.current hgeneration.symm hguard with hcreated | ⟨-, hnot⟩
  · rw [hcreated, producedEpoch, if_pos hproducing, Option.some.inj hepoch]
  · rw [hproducing] at hnot
    cases hnot

lemma of_publish (h : s.Invariant) {epoch current : ℕ}
    (hcreated : handler.created = some epoch ∧ handler.generation = current) :
    ∀ text ∈ (s.publish handler epoch current).published,
      text.created = some text.epoch ∧ text.generation = text.current := by
  intro text htext
  rcases List.mem_append.mp htext with hold | hnew
  · exact h.stays.published text hold
  · rw [List.mem_singleton.mp hnew]
    exact hcreated

lemma handlerFresh_of_phase (hfresh : s.HandlerFresh handler)
    {phase : SttPhase} (hphase : ∀ attempt epoch current, phase ≠ .appending attempt epoch current) :
    s.HandlerFresh { handler with phase } where
  fresh := hfresh.fresh
  appending := fun attempt epoch current heq => absurd heq (hphase attempt epoch current)

lemma handlerFresh_handle (hfresh : s.HandlerFresh handler)
    (hguard : s.handlerKeepsEpochs handler = true) (outcome : AppendOutcome) {phase : SttPhase}
    (hphase : (s.handle handler outcome).2 = some phase) :
    s.HandlerFresh { handler with phase } := by
  unfold handle at hphase
  unfold handlerKeepsEpochs at hguard
  cases hold : handler.phase with
  | committed =>
    rw [hold] at hphase
    refine handlerFresh_of_phase hfresh ?_
    intro attempt epoch current heq
    rw [heq] at hphase
    dsimp only at hphase
    split at hphase <;> cases hphase
  | fallingBack => rw [hold] at hphase; cases hphase
  | publishing attempt =>
    rw [hold] at hphase hguard
    obtain ⟨epoch, hsnapshot, rfl⟩ := Option.map_eq_some_iff.mp hphase
    refine ⟨hfresh.fresh, fun attempt' epoch' current' heq => ?_⟩
    cases heq
    exact created_of_snapshot hfresh.fresh hguard hsnapshot
  | appending attempt epoch current =>
    rw [hold] at hphase
    refine handlerFresh_of_phase hfresh ?_
    intro attempt' epoch' current' heq
    rw [heq] at hphase
    cases outcome <;> dsimp only at hphase <;> first
      | cases hphase
      | (split at hphase <;> cases hphase)

lemma handle_eq (s : LiveRun) (handler : SttHandler) (outcome : AppendOutcome) :
    (s.handle handler outcome).1 =
      { s with
        published := (s.handle handler outcome).1.published
        recorded := (s.handle handler outcome).1.recorded } := by
  unfold handle
  cases handler.phase with
  | committed | publishing attempt => rfl
  | fallingBack =>
    dsimp only
    unfold record
    split <;> rfl
  | appending attempt epoch current => cases outcome <;> rfl

section

variable (h : s.Invariant)
include h

lemma published_handle (hfresh : s.HandlerFresh handler) (outcome : AppendOutcome) :
    ∀ text ∈ (s.handle handler outcome).1.published,
      text.created = some text.epoch ∧ text.generation = text.current := by
  unfold handle
  cases hphase : handler.phase with
  | committed | publishing attempt => exact h.stays.published
  | fallingBack =>
    dsimp only
    unfold record
    split <;> exact h.stays.published
  | appending attempt epoch current =>
    have hcreated := hfresh.appending attempt epoch current hphase
    cases outcome with
    | appended | unconfirmed => exact h.of_publish hcreated
    | transient | rejected => exact h.stays.published

lemma recorded_handle
    (hfresh : s.HandlerFresh handler) (hguard : s.handlerKeepsEpochs handler = true)
    (hfree : ¬(handler.phase = .fallingBack ∧ s.mediaMu ≠ .idle)) (outcome : AppendOutcome) :
    ∀ text ∈ (s.handle handler outcome).1.recorded,
      text.created = none ∧ text.generation = text.current := by
  unfold handle
  unfold handlerKeepsEpochs at hguard
  cases hphase : handler.phase with
  | committed | publishing attempt => exact h.stays.recorded
  | fallingBack =>
    rw [hphase] at hguard
    have hidle : s.mediaMu = .idle := by
      by_contra hne
      exact hfree ⟨hphase, hne⟩
    exact h.of_record hfresh (by rw [hidle]; rfl) hguard
  | appending attempt epoch current => cases outcome <;> exact h.stays.recorded

lemma of_goOn {index : ℕ} {outcome : AppendOutcome}
    (hguard : s.keepsEpochs (.goOn index outcome) = true)
    (hstep : s.goOn? index outcome = some s') : s'.Invariant := by
  unfold goOn? at hstep
  cases hget : s.handlers[index]? with
  | none => rw [hget] at hstep; cases hstep
  | some handler =>
    rw [keepsEpochs, hget] at hguard
    have hkeeps : s.handlerKeepsEpochs handler = true := hguard
    rw [hget] at hstep
    dsimp only at hstep
    split at hstep
    · cases hstep
    · next hfree =>
      cases hstep
      have hfresh := h.handlers handler (List.mem_of_getElem? hget)
      rw [handle_eq]
      refine h.of_texts (fun other hother => ?_) (h.published_handle hfresh outcome)
        (h.recorded_handle hfresh hkeeps hfree outcome)
      rcases List.mem_updateIdx hother with hold | hnew
      · exact h.handlers other hold
      · obtain ⟨phase, hphase, rfl⟩ := Option.map_eq_some_iff.mp hnew
        exact handlerFresh_handle hfresh hkeeps outcome hphase

lemma of_locked {current : Bool} {after : LiveRun}
    (hafter : after.Invariant) (hstep : s.locked? current after = some s') : s'.Invariant := by
  rw [locked?, Option.ite_none_right_eq_some] at hstep
  obtain ⟨-, hstep⟩ := hstep
  split at hstep
  · cases hstep
    exact hafter
  · cases hstep
    exact h

lemma of_next {label : LiveStep} (hguard : s.keepsEpochs label = true)
    (hstep : s.next? label = some s') : s'.Invariant := by
  cases label with
  | setHandle handle | stop =>
    cases hstep
    exact h.of_fresh (fun _ _ hold => hold.congr rfl rfl rfl rfl rfl) (Nat.le_refl _) rfl
      h.transcriber rfl rfl rfl
  | setProducer mediaGeneration state producing sttEnabled =>
    exact h.of_locked (h.of_setLiveTranscriptProducer state producing sttEnabled) hstep
  | restartMediaController sttEnabled =>
    exact h.of_locked (h.of_restartMediaController sttEnabled) hstep
  | replaceTranscriber => exact h.of_replaceTranscriber hstep
  | releaseResources =>
    rw [next?, Option.ite_none_right_eq_some] at hstep
    exact h.of_locked h.of_releaseResources hstep.2
  | acceptAudio mediaGeneration key => exact h.of_locked (h.of_acceptAudio key) hstep
  | endTrack mediaGeneration key => exact h.of_locked (h.of_endTrack key) hstep
  | failTrack id =>
    cases hstep
    exact h.of_failTrack id
  | createSession id => exact h.of_createSession hstep
  | commit id text => exact h.of_commit hstep
  | goOn index outcome => exact h.of_goOn hguard hstep

end

lemma init (transcript : Bool) : Invariant { transcript } where
  states := fun _ h => absurd h List.not_mem_nil
  transcriber := fun _ h => by cases h
  handlers := fun _ h => absurd h List.not_mem_nil
  stays := ⟨fun _ h => absurd h List.not_mem_nil, fun _ h => absurd h List.not_mem_nil⟩

end Invariant

end LiveRun

/-! ## Runs -/

/-- In every run in which no handler looks at an epoch that its generation does not belong to, or
records a text of another generation or of the Live Transcript, text stays in its epoch. -/
theorem textStaysInEpoch_of_keepsEpochs {s : LiveRun}
    (h : liveSystem.ReachableWhen (fun s label => s.keepsEpochs label = true) s) :
    s.TextStaysInEpoch := by
  refine LiveRun.Invariant.stays (h.invariant ?_ ?_)
  · rintro _ ⟨transcript, rfl⟩
    exact LiveRun.Invariant.init transcript
  · exact fun _ _ _ hinvariant hguard hstep => hinvariant.of_next hguard hstep

/-- The labels under which a Runtime produces an epoch, and a session commits a text in it. -/
def spokenInEpoch : List LiveStep :=
  [.setHandle "handle", .restartMediaController true, .replaceTranscriber, .replaceTranscriber,
    .setProducer 1 { active := true, epoch := 1 } true true, .replaceTranscriber,
    .replaceTranscriber, .acceptAudio 1 "human:audio", .createSession 0, .commit 0 "private"]

/-- A text of an epoch is published in this epoch. -/
theorem textStaysInEpoch_published : ∃ s,
    TransitionSystem.runWhen? LiveRun.next? LiveRun.keepsEpochs { transcript := true }
      (spokenInEpoch ++ [.goOn 0 .appended, .goOn 0 .appended, .goOn 0 .appended]) = some s ∧
      s.published.map PublishedText.epoch = [1] ∧ s.TextStaysInEpoch := by
  have hrun : (TransitionSystem.runWhen? LiveRun.next? LiveRun.keepsEpochs { transcript := true }
      (spokenInEpoch ++ [.goOn 0 .appended, .goOn 0 .appended, .goOn 0 .appended])).any
      (fun s => decide (s.published.map PublishedText.epoch = [1])) = true := by
    decide +kernel
  obtain ⟨s, hs, hepoch⟩ := (Option.any_eq_true _ _).mp hrun
  refine ⟨s, hs, of_decide_eq_true hepoch, textStaysInEpoch_of_keepsEpochs ?_⟩
  exact TransitionSystem.reachableWhen_of_runWhen (fun _ _ _ h => h) ⟨true, rfl⟩ hs

/-- The labels of a run in which the Live Transcript stops before its session commits a text. The
session is not ended with its transcriber. -/
def committedLate : List LiveStep :=
  spokenInEpoch ++ [.setProducer 1 {} false true, .replaceTranscriber, .replaceTranscriber,
    .commit 0 "afterwards", .goOn 1 .appended, .goOn 1 .appended]

/-- Text does not stay in its epoch in every run. What the session of a replaced generation commits
after the Live Transcript has stopped is recorded in the local Meeting Notes. -/
theorem not_textStaysInEpoch_replaced :
    ¬ ∀ s, liveSystem.Reachable s → s.TextStaysInEpoch := by
  intro hall
  have hrun : (TransitionSystem.runWhen? LiveRun.next? (fun _ _ => true) { transcript := true }
      committedLate).any (fun s => s.recorded.any fun text => decide (text.created = some 1)) =
        true := by
    decide +kernel
  obtain ⟨s, hs, hrecorded⟩ := (Option.any_eq_true _ _).mp hrun
  obtain ⟨text, hmem, hcreated⟩ := List.any_eq_true.mp hrecorded
  have hstays := hall s (TransitionSystem.reachable_of_runWhen (fun _ _ _ h => h) ⟨true, rfl⟩ hs)
  have hnone := (hstays.recorded text hmem).1
  rw [of_decide_eq_true hcreated] at hnone
  cases hnone

/-- The labels of a run in which an attempt to publish looks at the epoch after it was rotated, and
before the generation is. -/
def committedAtRotation : List LiveStep :=
  spokenInEpoch ++ [.goOn 0 .appended, .setProducer 1 { active := true, epoch := 2 } true true,
    .goOn 0 .appended, .goOn 0 .appended]

lemma not_textStaysInEpoch_rotated : ∃ s, liveSystem.Reachable s ∧
    ∃ text ∈ s.published, text.created = some 1 ∧ text.epoch = 2 := by
  have hrun : (TransitionSystem.runWhen? LiveRun.next? (fun _ _ => true) { transcript := true }
      committedAtRotation).any (fun s => s.published.any fun text =>
        decide (text.created = some 1 ∧ text.epoch = 2)) = true := by
    decide +kernel
  obtain ⟨s, hs, hpublished⟩ := (Option.any_eq_true _ _).mp hrun
  obtain ⟨text, hmem, hepochs⟩ := List.any_eq_true.mp hpublished
  exact ⟨s, TransitionSystem.reachable_of_runWhen (fun _ _ _ h => h) ⟨true, rfl⟩ hs, text, hmem,
    of_decide_eq_true hepochs⟩

end Free4Chat
