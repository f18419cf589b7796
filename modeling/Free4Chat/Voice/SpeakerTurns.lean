import Free4Chat.Voice.Speaker

/-!
# Turns End Once

As long as cancellations and failures come in time, every turn of the Speaker ends once, and what is
spoken of it comes before.

* `Speaker.StageOk`: what is known at each stage of a drain.
* `Speaker.InTurn`: the invariant of the Speaker, and one lemma for each step.
* `turnsEndOnce_of_reachable`: turns end once in every run in time.
-/

namespace Free4Chat

/-- The chunk that was taken and has not been given to the provider. -/
def DrainStage.inHand : DrainStage → Option TurnChunk
  | .create chunk => some chunk
  | .recheck chunk => some chunk
  | .call chunk => some chunk
  | _ => none

namespace Speaker

variable {s s' : Speaker} {d d' : Drain}

/-! ## The invariant -/

/-- The drain has taken chunks of the turn that was started last, which has not ended. -/
def Speaks (s : Speaker) (d : Drain) : Prop :=
  d.turn = some s.lastStarted ∧ s.lastStarted ∉ s.endings ∧ s.lastStartedSet = true

/-- The drain has a chunk in hand, whose turn it knows. -/
def Holds (d : Drain) (chunk : TurnChunk) : Prop :=
  d.turn = some chunk.turn ∧ d.turnToken = chunk.turn

/-- What is known once a chunk was taken. -/
def Takes (s : Speaker) (d : Drain) (chunk : TurnChunk) : Prop :=
  d.failed = false ∧ Holds d chunk ∧ (s.current d = true → Speaks s d)

/-- What is known while the provider synthesizes a chunk. -/
def Synthesizes (s : Speaker) (d : Drain) (chunk : TurnChunk) : Prop :=
  Takes s d chunk ∧ (d.stale = true → s.current d = false)

/-- What is known at each stage. A drain that is committed speaks the turn even if the Speaker was
closed in between. -/
def StageOk (s : Speaker) (d : Drain) : DrainStage → Prop
  | .acquire => d.turn = none ∧ d.failed = false ∧ d.stale = false
  | .readEpoch => d.turn = none ∧ d.failed = false ∧ d.stale = false
  | .next => d.failed = false ∧ d.stale = false ∧
      (s.current d = true → Speaks s d ∨ d.turn = none ∧ s.pending ≠ [])
  | .create chunk => Takes s d chunk ∧ d.stale = false
  | .recheck chunk => Takes s d chunk ∧ d.stale = false
  | .call chunk => Takes s d chunk ∧ d.stale = false ∧ Speaks s d
  | .synthesize chunk => Synthesizes s d chunk
  | .ensureSink chunk => Synthesizes s d chunk
  | .createSink chunk => Synthesizes s d chunk
  | .write chunk sink => Synthesizes s d chunk ∧ sink = chunk.turn
  | .settle => d.failed = true ∨ s.current d = true → Speaks s d
  | .report => d.failed = false ∧ Speaks s d
  | .endTurn _ started turn => d.failed = false ∧ Speaks s d ∧ started = true ∧ turn = s.lastStarted
  | .finish turn => d.failed = false ∧ Speaks s d ∧ turn = s.lastStarted
  | .fail => Speaks s d
  | .failed turn => Speaks s d ∧ turn = s.lastStarted
  | .unwind => d.failed = true → ∀ turn ∈ d.turn, turn ∈ s.endings

/-- What is known about a drain. -/
structure DrainOk (s : Speaker) (d : Drain) : Prop where
  stage : StageOk s d d.stage
  epoch : d.epoch ≤ s.epoch
  bound : ∀ turn ∈ d.turn, turn ≤ s.turnCounter
  current : s.current d = true → ∀ turn ∈ d.turn, turn = s.lastStarted
  -- While the turn has not ended, only `Close` makes the drain stale.
  stale : d.turn = some s.lastStarted → s.lastStarted ∉ s.endings →
    s.stopped = true ∨ s.epoch = d.epoch

/-- The text that the drain has in hand, if it is of the turn that was started last. -/
def inHand (s : Speaker) : List String :=
  (((s.drain.bind fun d => d.stage.inHand).filter fun chunk => chunk.turn = s.lastStarted).map
    (·.text)).toList

/-- The texts that are queued. -/
def queued (s : Speaker) : List String := s.pending.map (·.text)

/-- The invariant of the Speaker. -/
structure InTurn (s : Speaker) : Prop where
  drain : ∀ d, s.drain = some d → DrainOk s d
  queue : s.pending ≠ [] → s.turnCounter = s.lastStarted ∧
    ∀ chunk ∈ s.pending, chunk.turn = s.lastStarted
  stopped : s.stopped = true → s.pending = []
  -- A turn was started before anything is to be done.
  set : s.busy = true ∨ (∃ call ∈ s.calls, call.starts = true) → s.lastStartedSet = true
  -- What was spoken, is in hand and is queued are the first chunks of the turn, unless its drain
  -- failed.
  inOrder : ∀ started ∈ s.turns, s.spokenOf started.turn <+: started.chunks
  ahead : s.lastStarted ∉ s.endings →
    (∀ d, s.drain = some d → d.failed = true → d.turn ≠ some s.lastStarted) →
    ∀ started ∈ s.turns, started.turn = s.lastStarted →
      s.spokenOf s.lastStarted ++ s.inHand ++ s.queued <+: started.chunks
  sink : ∀ token ∈ s.sink, token = s.sinkTurn
  counter : s.lastStarted ≤ s.turnCounter
  spokenBound : ∀ entry ∈ s.spoken, entry.chunk.turn ≤ s.turnCounter
  endingsBound : ∀ turn ∈ s.endings, turn ≤ s.turnCounter
  turnsBound : ∀ started ∈ s.turns, started.turn ≤ s.turnCounter ∧ s.lastStartedSet = true
  -- The turn that was started last is queued or spoken until it ends, and the others have ended.
  unended : s.stopped = false → s.lastStartedSet = true → s.lastStarted ∉ s.endings →
    s.pending ≠ [] ∨ ∃ d, s.drain = some d ∧ Speaks s d ∧ d.stage ≠ .unwind
  earlier : ∀ started ∈ s.turns, started.turn ≠ s.lastStarted → started.turn ∈ s.endings
  endedOnce : s.endings.Nodup
  attributed : ∀ entry ∈ s.events, entry.event.type.terminal = true → entry.Attributed
  silent : ∀ entry ∈ s.spoken, entry.late = false
  ownToken : ∀ entry ∈ s.writes, entry.2 = entry.1

lemma InTurn.turnsEndOnce (h : s.InTurn) : s.TurnsEndOnce :=
  { endedOnce := h.endedOnce
    allEnded := fun hopen hdrain hpending started hmem => by
      by_cases hlast : started.turn = s.lastStarted
      · rw [hlast]
        by_contra hlive
        rcases h.unended hopen (h.turnsBound started hmem).2 hlive with hqueued | ⟨d, hsome, -⟩
        · exact hqueued hpending
        · exact absurd (hdrain.symm.trans hsome) (Option.some_ne_none d).symm
      · exact h.earlier started hmem hlast
    attributed := h.attributed
    silent := h.silent
    inOrder := h.inOrder
    ownToken := h.ownToken }

/-! ## The steps of the drain -/

lemma DrainOk.turn_of_inHand (h : DrainOk s d) {chunk : TurnChunk}
    (hhand : d.stage.inHand = some chunk) : d.turn = some chunk.turn := by
  have hstage := h.stage
  match hcase : d.stage with
  | .create held | .recheck held | .call held =>
    rw [hcase] at hstage hhand
    obtain rfl := Option.some.inj hhand
    exact hstage.1.2.1.1
  | .acquire | .readEpoch | .next | .synthesize _ | .ensureSink _ | .createSink _ | .write _ _
  | .settle | .report | .endTurn _ _ _ | .finish _ | .fail | .failed _ | .unwind =>
    rw [hcase] at hhand
    cases hhand

lemma inHand_goOn (stage : DrainStage) : (s.goOn d stage).inHand =
    ((stage.inHand.filter fun chunk => chunk.turn = s.lastStarted).map (·.text)).toList := rfl

lemma inHand_of_drain (hdrain : s.drain = some d) : s.inHand =
    ((d.stage.inHand.filter fun chunk => chunk.turn = s.lastStarted).map (·.text)).toList := by
  rw [inHand, hdrain]
  rfl

lemma inHand_congr (hstage : s'.drain.map (·.stage) = s.drain.map (·.stage))
    (hlast : s'.lastStarted = s.lastStarted) : s'.inHand = s.inHand := by
  have hbind : ∀ drain : Option Drain, (drain.bind fun d => d.stage.inHand) =
      (drain.map (·.stage)).bind DrainStage.inHand := by
    intro drain
    cases drain <;> rfl
  rw [inHand, inHand, hbind, hbind, hstage, hlast]

lemma inHand_eq (hdrain : s.drain = some d) {chunk : TurnChunk}
    (hhand : d.stage.inHand = some chunk) (hturn : chunk.turn = s.lastStarted) :
    s.inHand = [chunk.text] := by
  rw [inHand_of_drain hdrain, hhand, Option.filter_some, if_pos (decide_eq_true hturn)]
  rfl

lemma inHand_eq_nil (hdrain : s.drain = some d) (hhand : d.stage.inHand = none) :
    s.inHand = [] := by
  rw [inHand_of_drain hdrain, hhand]
  rfl

namespace InTurn

/-- A drain that goes on keeps the invariant, if it keeps what it has in hand, or nothing is left of
the turn, or it fails. -/
lemma goOn (h : s.InTurn) (hdrain : s.drain = some d) {stage : DrainStage}
    (hsame : d'.turn = d.turn) (hepoch : d'.epoch = d.epoch ∨ d.turn = none ∧ d'.epoch = s.epoch)
    (hfailed : d.failed = true → d'.failed = true) (hstage : StageOk s { d' with stage } stage)
    (hhand : stage.inHand = d.stage.inHand ∨ stage.inHand = none ∧
      (d.turn = some s.lastStarted → s.lastStarted ∉ s.endings → d'.failed = true ∨ s.pending = []))
    (hunwind : stage = .unwind → s.stopped = false → s.lastStarted ∉ s.endings → s.pending ≠ []) :
    (s.goOn d' stage).InTurn := by
  have hd := h.drain d hdrain
  refine
    { h with
      drain := fun other hother => ?_
      set := fun _ => h.set (Or.inl ?_)
      ahead := fun hlive hfine started hmem hturn => ?_
      unended := fun hopen hset hlive => ?_ }
  · obtain rfl := Option.some.inj hother
    rcases hepoch with hepoch | ⟨hnone, hepoch⟩
    · exact
        { stage := hstage
          epoch := hepoch ▸ hd.epoch
          bound := hsame ▸ hd.bound
          current := fun hcurrent turn hturn => by
            refine hd.current ?_ turn (hsame ▸ hturn)
            rw [Speaker.current, ← hepoch]
            exact hcurrent
          stale := fun hturn hlive => by
            show s.stopped = true ∨ s.epoch = d'.epoch
            rw [hepoch]
            exact hd.stale (hsame ▸ hturn) hlive }
    · have hnothing : d'.turn = none := hsame.trans hnone
      exact
        { stage := hstage
          epoch := hepoch.le
          bound := fun turn hturn => absurd (hnothing.symm.trans hturn) (by simp)
          current := fun _ turn hturn => absurd (hnothing.symm.trans hturn) (by simp)
          stale := fun _ _ => Or.inr hepoch.symm }
  · rw [busy, hdrain, Option.isSome_some, Bool.or_true]
  · have hbefore := h.ahead hlive (fun other hother hyes => by
      obtain rfl := Option.some.inj (hdrain.symm.trans hother)
      have hnot := hfine { d' with stage } rfl (hfailed hyes)
      exact hsame ▸ hnot) started hmem hturn
    rw [inHand_of_drain hdrain] at hbefore
    show s.spokenOf s.lastStarted ++ (s.goOn d' stage).inHand ++ s.queued <+: started.chunks
    rw [inHand_goOn]
    rcases hhand with hkept | ⟨hnone, hdropped⟩
    · rw [hkept]
      exact hbefore
    · rw [hnone]
      show s.spokenOf s.lastStarted ++ [] ++ s.queued <+: started.chunks
      rw [List.append_nil]
      cases hchunk : d.stage.inHand.filter fun chunk => chunk.turn = s.lastStarted with
      | none =>
        rw [hchunk] at hbefore
        simpa using hbefore
      | some chunk =>
        -- Nothing of the turn is left to be queued behind what is dropped.
        obtain ⟨hold, hlast⟩ := Option.filter_eq_some_iff.mp hchunk
        have hspoke := hd.turn_of_inHand hold
        rw [of_decide_eq_true hlast] at hspoke
        rcases hdropped hspoke hlive with hfail | hempty
        · exact absurd (hsame.trans hspoke) (hfine { d' with stage } rfl hfail)
        · rw [queued, hempty, List.map_nil, List.append_nil] at hbefore ⊢
          exact (List.prefix_append _ _).trans hbefore
  · rcases h.unended hopen hset hlive with hqueued | ⟨other, hother, hspeaks, -⟩
    · exact Or.inl hqueued
    · obtain rfl := Option.some.inj (hdrain.symm.trans hother)
      by_cases hunwinds : stage = .unwind
      · exact Or.inl (hunwind hunwinds hopen hlive)
      · refine Or.inr ⟨{ d' with stage }, rfl, ⟨hsame.trans hspeaks.1, hspeaks.2⟩, hunwinds⟩

lemma goesOn (h : s.InTurn) (hdrain : s.drain = some d) {stage before : DrainStage}
    (hat : d.stage = before) (hhand : stage.inHand = before.inHand) (hunwind : stage ≠ .unwind)
    (hstage : StageOk s { d with stage } stage) : (s.goOn d stage).InTurn :=
  h.goOn hdrain rfl (Or.inl rfl) id hstage
    (Or.inl (hhand.trans (congrArg DrainStage.inHand hat).symm)) fun heq => absurd heq hunwind

/-! ### Steps that only move the drain -/

lemma stageOk (h : s.InTurn) (hdrain : s.drain = some d) {stage : DrainStage}
    (hstage : d.stage = stage) : StageOk s d stage := by
  rw [← hstage]
  exact (h.drain d hdrain).stage

lemma set_of_drain (h : s.InTurn) (hdrain : s.drain = some d) : s.lastStartedSet = true :=
  h.set (Or.inl (by rw [busy, hdrain, Option.isSome_some, Bool.or_true]))

variable {chunk : TurnChunk}

section

variable (h : s.InTurn) (hdrain : s.drain = some d)
include h hdrain

lemma speaks_of_token (hholds : Holds d chunk)
    (hguard : (s.live && s.drain.all fun d => d.turnToken = s.lastStarted) = true) :
    Speaks s d := by
  rw [hdrain, Option.all_some, Bool.and_eq_true, live, decide_eq_true_eq, decide_eq_true_eq,
    hholds.2] at hguard
  exact ⟨hguard.2 ▸ hholds.1, hguard.1, h.set_of_drain hdrain⟩

lemma acquire (hat : d.stage = .acquire)
    (acquired : Bool) : (s.goOn d (if acquired then .readEpoch else .unwind)).InTurn := by
  have hstage := h.stageOk hdrain hat
  have hhand : ∀ {stage : DrainStage}, stage.inHand = none → stage.inHand = d.stage.inHand :=
    fun hnone => by rw [hnone, hat]; rfl
  cases acquired with
  | true =>
    exact h.goOn hdrain rfl (Or.inl rfl) id hstage (Or.inl (hhand rfl)) fun heq => by cases heq
  | false =>
    refine h.goOn hdrain rfl (Or.inl rfl) id (fun hfailed => ?_) (Or.inl (hhand rfl))
      fun _ hopen hlive => ?_
    · exact absurd (hstage.2.1.symm.trans hfailed) Bool.false_ne_true
    · rcases h.unended hopen (h.set_of_drain hdrain) hlive with
        hqueued | ⟨other, hother, hspeaks, -⟩
      · exact hqueued
      · obtain rfl := Option.some.inj (hdrain.symm.trans hother)
        exact absurd (hstage.1.symm.trans hspeaks.1) (Option.some_ne_none _).symm

lemma readEpoch (hat : d.stage = .readEpoch) (hguard : s.inTime .readEpoch = true) :
    (s.goOn { d with epoch := s.epoch } .next).InTurn := by
  have hstage := h.stageOk hdrain hat
  refine h.goOn hdrain rfl (Or.inr ⟨hstage.1, rfl⟩) id ⟨hstage.2.1, hstage.2.2, fun hcurrent => ?_⟩
    (Or.inl (congrArg DrainStage.inHand hat).symm) fun heq => by cases heq
  rw [inTime, Bool.or_eq_true] at hguard
  rcases hguard with hstopped | hqueued
  · rw [current, hstopped, Bool.not_true, Bool.false_and] at hcurrent
    cases hcurrent
  · exact Or.inr ⟨hstage.1, by simpa using hqueued⟩

lemma createSession (hat : d.stage = .create chunk) {failure : Option (List UInt8)}
    (hguard : s.inTime (.create failure) = true) : (s.createSession d chunk failure).InTurn := by
  obtain ⟨htakes, hfresh⟩ := h.stageOk hdrain hat
  cases failure with
  | some code =>
    have hspeaks := h.speaks_of_token hdrain htakes.2.1 hguard
    exact h.goOn hdrain rfl (Or.inl rfl) (fun _ => rfl) (fun _ => hspeaks)
      (Or.inr ⟨rfl, fun _ _ => Or.inl rfl⟩) fun heq => by cases heq
  | none =>
    exact h.goOn hdrain rfl (Or.inl rfl) id ⟨htakes, hfresh⟩
      (Or.inl (congrArg DrainStage.inHand hat).symm) fun heq => by cases heq

lemma recheck (hat : d.stage = .recheck chunk) :
    (s.goOn d (if s.current d then .call chunk else .settle)).InTurn := by
  obtain ⟨htakes, hfresh⟩ := h.stageOk hdrain hat
  split
  next hcurrent =>
    exact h.goesOn hdrain hat rfl (by simp) ⟨htakes, hfresh, htakes.2.2 hcurrent⟩
  next hstale =>
    refine h.goOn hdrain rfl (Or.inl rfl) id (fun hyes => ?_)
      (Or.inr ⟨rfl, fun hturn hlive => Or.inr ?_⟩) fun heq => by cases heq
    · rcases hyes with hfailed | hcurrent
      · exact absurd (htakes.1.symm.trans hfailed) Bool.false_ne_true
      · exact absurd hcurrent hstale
    · -- The turn has not ended, so that the Speaker was closed.
      rcases (h.drain d hdrain).stale hturn hlive with hstopped | hepoch
      · exact h.stopped hstopped
      · by_cases hstopped : s.stopped = true
        · exact h.stopped hstopped
        · exact absurd (by
            rw [current, Bool.eq_false_of_not_eq_true hstopped, hepoch, decide_eq_true rfl]
            rfl) hstale

lemma audio (hat : d.stage = .synthesize chunk) : (s.audio d chunk).InTurn := by
  obtain ⟨htakes, hfresh⟩ := h.stageOk hdrain hat
  rw [Speaker.audio]
  split
  next hcurrent =>
    exact h.goesOn hdrain hat rfl (by simp) ⟨htakes, hfresh⟩
  next hstale =>
    exact h.goOn hdrain rfl (Or.inl rfl) id
      ⟨htakes, fun _ => Bool.eq_false_of_not_eq_true hstale⟩
      (Or.inl (congrArg DrainStage.inHand hat).symm) fun heq => by cases heq

lemma ensureSink (hat : d.stage = .ensureSink chunk) : (s.ensureSink d chunk).InTurn := by
  have hstage : Synthesizes s d chunk := h.stageOk hdrain hat
  have hcreate : (s.goOn d (.createSink chunk)).InTurn :=
    h.goesOn hdrain hat rfl (by simp) hstage
  rw [Speaker.ensureSink]
  split
  next sink hsink =>
    split
    next hmatches =>
      rw [Bool.and_eq_true, decide_eq_true_eq] at hmatches
      have htoken : sink = chunk.turn := by
        rw [h.sink sink hsink, hmatches.2, hstage.1.2.1.2]
      exact h.goesOn hdrain hat rfl (by simp) ⟨hstage, htoken⟩
    next => exact hcreate
  next => exact hcreate

lemma settle (hat : d.stage = .settle) : (s.settle d).InTurn := by
  have hstage : d.failed = true ∨ s.current d = true → Speaks s d := h.stageOk hdrain hat
  have hhand : ∀ {stage : DrainStage}, stage.inHand = none → stage.inHand = d.stage.inHand :=
    fun hnone => by rw [hnone, hat]; rfl
  rw [Speaker.settle]
  split
  next hfailed =>
    exact h.goOn hdrain rfl (Or.inl rfl) id (hstage (Or.inl hfailed)) (Or.inl (hhand rfl))
      fun heq => by cases heq
  next hfine =>
    split
    next hcurrent =>
      exact h.goOn hdrain rfl (Or.inl rfl) id
        ⟨Bool.eq_false_of_not_eq_true hfine, hstage (Or.inr hcurrent)⟩ (Or.inl (hhand rfl))
        fun heq => by cases heq
    next hstale =>
      refine h.goOn hdrain rfl (Or.inl rfl) id (fun hfailed => absurd hfailed hfine)
        (Or.inl (hhand rfl)) fun _ hopen hlive => ?_
      rcases h.unended hopen (h.set_of_drain hdrain) hlive with
        hqueued | ⟨other, hother, hspeaks, -⟩
      · exact hqueued
      · obtain rfl := Option.some.inj (hdrain.symm.trans hother)
        rcases (h.drain _ hdrain).stale hspeaks.1 hlive with hstopped | hepoch
        · exact absurd (hopen.symm.trans hstopped) Bool.false_ne_true
        · exact absurd (by rw [current, hopen, hepoch, decide_eq_true rfl]; rfl) hstale

lemma report (hat : d.stage = .report) :
    (s.goOn d (.endTurn s.sink s.lastStartedSet s.lastStarted)).InTurn := by
  have hstage : d.failed = false ∧ Speaks s d := h.stageOk hdrain hat
  exact h.goesOn hdrain hat rfl (by simp) ⟨hstage.1, hstage.2, hstage.2.2.2, rfl⟩

lemma endTurn {sink : Option ℕ} {started : Bool}
    {turn : ℕ} (hat : d.stage = .endTurn sink started turn) (failure : Option (List UInt8)) :
    (s.endTurn d sink started turn failure).InTurn := by
  obtain ⟨hfine, hspeaks, hstarted, hturn⟩ := h.stageOk hdrain hat
  have hfinish : (s.goOn d (if started then .finish turn else .unwind)).InTurn := by
    rw [if_pos hstarted]
    exact h.goesOn hdrain hat rfl (by simp) ⟨hfine, hspeaks, hturn⟩
  cases sink with
  | none => exact hfinish
  | some sink =>
    cases failure with
    | none => exact hfinish
    | some code =>
      rw [Speaker.endTurn]
      by_cases hframes : 0 < d.frames
      · rw [if_pos hframes]
        exact h.goOn hdrain rfl (Or.inl rfl) (fun _ => rfl) hspeaks
          (Or.inl (congrArg DrainStage.inHand hat).symm) fun heq => by cases heq
      · rw [if_neg hframes]
        exact hfinish

lemma fail (hat : d.stage = .fail) : (s.goOn d (.failed s.lastStarted)).InTurn :=
  h.goesOn hdrain hat rfl (by simp) ⟨h.stageOk hdrain hat, rfl⟩

end

/-! ### Steps that change the Speaker -/

lemma of_sinks (h : s.InTurn) (sink : Option ℕ) {sinkTurn : ℕ} (broken : Bool)
    (hsink : ∀ token ∈ sink, token = sinkTurn) :
    ({ s with sink, sinkTurn, sinkBroken := broken } : Speaker).InTurn :=
  { h with
    drain := fun d hdrain =>
      let hd := h.drain d hdrain
      { hd with stage := hd.stage }
    sink := hsink }

section

variable (h : s.InTurn) (hdrain : s.drain = some d)
include h hdrain

lemma createSink (hat : d.stage = .createSink chunk) (created : Bool) :
    (s.createSink d chunk created).InTurn := by
  have hstage : Synthesizes s d chunk := h.stageOk hdrain hat
  cases created with
  | true =>
    have hstored := h.of_sinks (some d.turnToken) false fun token htoken =>
      (Option.some.inj htoken).symm
    exact hstored.goesOn hdrain hat rfl (by simp) ⟨hstage, hstage.1.2.1.2⟩
  | false =>
    exact h.goesOn hdrain hat rfl (by simp) hstage

lemma write {sink : ℕ} (hat : d.stage = .write chunk sink) (written : Bool) :
    (s.write d chunk sink written).InTurn := by
  obtain ⟨hstage, htoken⟩ := h.stageOk hdrain hat
  have hwritten : ({ s with writes := s.writes ++ [(chunk.turn, sink)] } : Speaker).InTurn :=
    { h with
      drain := fun d hdrain =>
        let hd := h.drain d hdrain
        { hd with stage := hd.stage }
      ownToken := fun entry hmem => by
        rcases List.mem_append.mp hmem with hmem | hmem
        · exact h.ownToken entry hmem
        · rw [List.mem_singleton.mp hmem]
          exact htoken }
  exact hwritten.goOn hdrain rfl (Or.inl rfl) id hstage
    (Or.inl (congrArg DrainStage.inHand hat).symm) fun heq => by cases heq

lemma synthesized (hat : d.stage = .synthesize chunk) {outcome : SynthesisOutcome}
    (hguard : s.inTime (.synthesized outcome) = true)
    (hnext : s.synthesized d outcome = some s') : s'.InTurn := by
  have hstage : Synthesizes s d chunk := h.stageOk hdrain hat
  have hhand : ∀ {stage : DrainStage}, stage.inHand = none → stage.inHand = d.stage.inHand :=
    fun hnone => by rw [hnone, hat]; rfl
  cases outcome with
  | done =>
    obtain rfl := Option.some.inj hnext
    exact h.goOn hdrain rfl (Or.inl rfl) id ⟨hstage.1.1, rfl, fun hcurrent =>
      Or.inl (hstage.1.2.2 hcurrent)⟩ (Or.inl (hhand rfl)) fun heq => by cases heq
  | stale =>
    rw [Speaker.synthesized] at hnext
    obtain ⟨hstale, rfl⟩ := Option.of_guarded hnext
    refine h.goOn hdrain rfl (Or.inl rfl) id (fun hyes => ?_) (Or.inl (hhand rfl))
      fun heq => by cases heq
    rcases hyes with hfailed | hcurrent
    · exact absurd (hstage.1.1.symm.trans hfailed) Bool.false_ne_true
    · exact absurd ((hstage.2 hstale).symm.trans hcurrent) Bool.false_ne_true
  | failed code =>
    obtain rfl := Option.some.inj hnext
    have hspeaks := h.speaks_of_token hdrain hstage.1.2.1 hguard
    have hbroken := h.of_sinks s.sink true h.sink
    exact hbroken.goOn hdrain rfl (Or.inl rfl) (fun _ => rfl) (fun _ => hspeaks)
      (Or.inl (hhand rfl)) fun heq => by cases heq

end

lemma spokenOf_snoc (s : Speaker) (chunk : TurnChunk) (late : Bool) (turn : ℕ) :
    ({ s with spoken := s.spoken ++ [⟨chunk, late⟩] } : Speaker).spokenOf turn =
      s.spokenOf turn ++ if chunk.turn = turn then [chunk.text] else [] := by
  rw [spokenOf, spokenOf, List.filter_append, List.map_append]
  by_cases hturn : chunk.turn = turn
  · rw [if_pos hturn, List.filter_cons_of_pos (by simpa using hturn)]
    rfl
  · rw [if_neg hturn, List.filter_cons_of_neg (by simpa using hturn)]
    rfl

lemma call (h : s.InTurn) (hdrain : s.drain = some d)
    (hat : d.stage = .call chunk) : (s.call d chunk).InTurn := by
  obtain ⟨htakes, hfresh, hspeaks⟩ := h.stageOk hdrain hat
  have hd := h.drain d hdrain
  have hturn : chunk.turn = s.lastStarted :=
    Option.some.inj (htakes.2.1.1.symm.trans hspeaks.1)
  have hhand := inHand_eq hdrain (by rw [hat]; rfl) hturn
  have hahead := h.ahead hspeaks.2.1 fun other hother hfailed => by
    obtain rfl := Option.some.inj (hdrain.symm.trans hother)
    exact absurd (htakes.1.symm.trans hfailed) Bool.false_ne_true
  rw [hhand] at hahead
  have hspoken : ∀ turn, (s.call d chunk).spokenOf turn =
      s.spokenOf turn ++ if chunk.turn = turn then [chunk.text] else [] :=
    spokenOf_snoc s chunk _
  refine
    { h with
      drain := fun other hother => ?_
      set := fun _ => hspeaks.2.2
      inOrder := fun started hmem => ?_
      ahead := fun _ _ started hmem hlast => ?_
      spokenBound := fun entry hmem => ?_
      unended := fun _ _ _ => Or.inr ⟨{ d with stage := .synthesize chunk }, rfl, hspeaks,
        fun heq => by cases heq⟩
      silent := fun entry hmem => ?_ }
  · obtain rfl := Option.some.inj hother
    exact { hd with stage := ⟨htakes, fun hstale => absurd (hfresh.symm.trans hstale)
      Bool.false_ne_true⟩ }
  · show (s.call d chunk).spokenOf started.turn <+: _
    rw [hspoken]
    split
    next hsame =>
      rw [hturn] at hsame
      rw [← hsame]
      exact (List.prefix_append _ _).trans (hahead started hmem hsame.symm)
    next =>
      rw [List.append_nil]
      exact h.inOrder started hmem
  · show (s.call d chunk).spokenOf s.lastStarted ++ [] ++ s.queued <+: _
    rw [hspoken, if_pos hturn, List.append_nil]
    exact hahead started hmem hlast
  · rcases List.mem_append.mp hmem with hmem | hmem
    · exact h.spokenBound entry hmem
    · rw [List.mem_singleton.mp hmem]
      exact hturn ▸ h.counter
  · rcases List.mem_append.mp hmem with hmem | hmem
    · exact h.silent entry hmem
    · rw [List.mem_singleton.mp hmem]
      exact decide_eq_false (hturn ▸ hspeaks.2.1)

/-- Taking a chunk keeps the invariant, if its turn has not ended. -/
lemma takeNext (h : s.InTurn) (hdrain : s.drain = some d) (hat : d.stage = .next)
    (hguard : s.inTime .next = true) : (s.takeNext d).InTurn := by
  obtain ⟨hfine, hfresh, hstage⟩ := h.stageOk hdrain hat
  have hd := h.drain d hdrain
  have hhand : ∀ {stage : DrainStage}, stage.inHand = none → stage.inHand = d.stage.inHand :=
    fun hnone => by rw [hnone, hat]; rfl
  rw [Speaker.takeNext]
  split
  next hcurrent =>
    split
    next hempty =>
      refine h.goOn hdrain rfl (Or.inl rfl) id (fun _ => ?_) (Or.inl (hhand rfl))
        fun heq => by cases heq
      exact (hstage hcurrent).resolve_right fun hqueued => hqueued.2 hempty
    next chunk pending hpending =>
      have hne : s.pending ≠ [] := hpending ▸ List.cons_ne_nil _ _
      obtain ⟨hcounter, hqueue⟩ := h.queue hne
      have hturn : chunk.turn = s.lastStarted := hqueue chunk (hpending ▸ List.mem_cons_self)
      have hset := h.set_of_drain hdrain
      have hlive : s.lastStarted ∉ s.endings := by
        rw [inTime, hdrain, Option.any_some, hcurrent, hpending] at hguard
        simpa [live] using hguard
      have hspeaks : ∀ stage, Speaks ({ s with pending } : Speaker)
          { d with turnToken := s.turnCounter, turn := some chunk.turn, stage } :=
        fun _ => ⟨congrArg some hturn, hlive, hset⟩
      have hstageOk : StageOk ({ s with pending } : Speaker)
          { d with
            turnToken := s.turnCounter
            turn := some chunk.turn
            stage := if d.session then .recheck chunk else .create chunk }
          (if d.session then .recheck chunk else .create chunk) := by
        split
        · exact ⟨⟨hfine, ⟨rfl, hcounter.trans hturn.symm⟩, fun _ => hspeaks _⟩, hfresh⟩
        · exact ⟨⟨hfine, ⟨rfl, hcounter.trans hturn.symm⟩, fun _ => hspeaks _⟩, hfresh⟩
      have hstageHand : (if d.session then DrainStage.recheck chunk
          else .create chunk).inHand = some chunk := by
        split <;> rfl
      have hepoch : s.epoch = d.epoch := by
        rw [current, Bool.and_eq_true, decide_eq_true_eq] at hcurrent
        exact hcurrent.2
      refine
        { h with
          drain := fun other hother => ?_
          queue := fun _ => ⟨hcounter, fun other hmem => hqueue other (hpending ▸
            List.mem_cons_of_mem _ hmem)⟩
          stopped := fun hstopped => absurd (h.stopped hstopped) hne
          set := fun _ => hset
          ahead := fun _ _ started hmem hlast => ?_
          unended := fun _ _ _ => Or.inr ⟨_, rfl, hspeaks _, ?_⟩ }
      · obtain rfl := Option.some.inj hother
        exact
          { stage := hstageOk
            epoch := hd.epoch
            bound := fun turn hmem => by
              rw [← Option.some.inj hmem, hturn]
              exact h.counter
            current := fun _ turn hmem => (Option.some.inj hmem).symm.trans hturn
            stale := fun _ _ => Or.inr hepoch }
      · -- What was queued first is in hand now.
        have hbefore := h.ahead hlive (fun other hother hfailed => by
          obtain rfl := Option.some.inj (hdrain.symm.trans hother)
          exact absurd (hfine.symm.trans hfailed) Bool.false_ne_true) started hmem hlast
        rw [inHand_eq_nil hdrain (by rw [hat]; rfl), queued, hpending, List.append_nil,
          List.map_cons] at hbefore
        have hafter : (({ s with pending } : Speaker).goOn
            { d with turnToken := s.turnCounter, turn := some chunk.turn }
            (if d.session then .recheck chunk else .create chunk)).inHand = [chunk.text] :=
          inHand_eq rfl hstageHand hturn
        show s.spokenOf s.lastStarted ++ _ ++ pending.map (·.text) <+: started.chunks
        rw [hafter, List.append_assoc]
        exact hbefore
      · show (if d.session then DrainStage.recheck chunk else .create chunk) ≠ .unwind
        split <;> exact fun heq => by cases heq
  next hstale =>
    refine h.goOn hdrain rfl (Or.inl rfl) id (fun hyes => ?_) (Or.inl (hhand rfl))
      fun heq => by cases heq
    rcases hyes with hfailed | hcurrent
    · exact absurd (hfine.symm.trans hfailed) Bool.false_ne_true
    · exact absurd hcurrent hstale

lemma endings_emit (s : Speaker) {event : SpeakerEvent} (spoke : Option ℕ)
    (hterminal : event.type.terminal = true) :
    (s.emit event spoke).endings = s.endings ++ [event.turn] := by
  rw [endings, emit, List.filter_append, List.map_append,
    List.filter_cons_of_pos (by simpa using hterminal)]
  rfl

section

variable (h : s.InTurn) (hdrain : s.drain = some d)
include h hdrain

lemma reportEnd (hspeaks : Speaks s d)
    {event : SpeakerEvent} (hterminal : event.type.terminal = true)
    (hkind : event.type ≠ .turnCancelled) (hturn : event.turn = s.lastStarted) :
    ((s.emit event d.turn).goOn d .unwind).InTurn := by
  have hd := h.drain d hdrain
  have hendings : ((s.emit event d.turn).goOn d .unwind).endings = s.endings ++ [s.lastStarted] :=
    (endings_emit s d.turn hterminal).trans (by rw [hturn])
  have hended : s.lastStarted ∈ ((s.emit event d.turn).goOn d .unwind).endings := by
    rw [hendings]
    exact List.mem_append_right _ (List.mem_singleton_self _)
  have hkept : ∀ {turn}, turn ∈ s.endings →
      turn ∈ ((s.emit event d.turn).goOn d .unwind).endings := by
    intro turn hmem
    rw [hendings]
    exact List.mem_append_left _ hmem
  refine
    { h with
      drain := fun other hother => ?_
      set := fun _ => hspeaks.2.2
      ahead := fun hlive => absurd hended hlive
      endingsBound := fun turn hmem => ?_
      unended := fun _ _ hlive => absurd hended hlive
      earlier := fun started hmem hne => hkept (h.earlier started hmem hne)
      endedOnce := ?_
      attributed := fun entry hmem hends => ?_ }
  · obtain rfl := Option.some.inj hother
    exact
      { stage := fun _ turn hmem => by
          rw [← Option.some.inj (hspeaks.1.symm.trans hmem)]
          exact hended
        epoch := hd.epoch
        bound := hd.bound
        current := hd.current
        stale := fun _ hlive => absurd hended hlive }
  · rw [hendings] at hmem
    rcases List.mem_append.mp hmem with hmem | hmem
    · exact h.endingsBound turn hmem
    · rw [List.mem_singleton.mp hmem]
      exact h.counter
  · rw [hendings]
    refine List.Nodup.append h.endedOnce (List.nodup_singleton _) fun turn hmem hlast => ?_
    rw [List.mem_singleton.mp hlast] at hmem
    exact hspeaks.2.1 hmem
  · rcases List.mem_append.mp hmem with hmem | hmem
    · exact h.attributed entry hmem hends
    · rw [List.mem_singleton.mp hmem, EmittedEvent.Attributed, if_neg hkind, hturn]
      exact hspeaks.1

lemma unwind (hat : d.stage = .unwind) : s.unwind.InTurn := by
  have hstage : d.failed = true → ∀ turn ∈ d.turn, turn ∈ s.endings := h.stageOk hdrain hat
  have hqueued : s.stopped = false → s.lastStartedSet = true → s.lastStarted ∉ s.endings →
      s.pending ≠ [] := by
    intro hopen hset hlive
    rcases h.unended hopen hset hlive with hqueued | ⟨other, hother, -, hnot⟩
    · exact hqueued
    · obtain rfl := Option.some.inj (hdrain.symm.trans hother)
      exact absurd hat hnot
  have hunwound : ({ s with drain := none } : Speaker).InTurn :=
    { h with
      drain := fun other hother => by cases hother
      set := fun _ => h.set_of_drain hdrain
      ahead := fun hlive _ started hmem hlast => by
        have hbefore := h.ahead hlive (fun other hother hfailed hturn => by
          obtain rfl := Option.some.inj (hdrain.symm.trans hother)
          exact hlive (hstage hfailed _ hturn)) started hmem hlast
        rw [inHand_eq_nil hdrain (by rw [hat]; rfl)] at hbefore
        exact hbefore
      unended := fun hopen hset hlive => Or.inl (hqueued hopen hset hlive) }
  rw [Speaker.unwind]
  split
  · rw [leave, if_neg (by simp)]
    exact { hunwound with
      drain := fun other hother => by cases hother
      set := fun _ => h.set_of_drain hdrain }
  · exact hunwound

/-- A step of the drain keeps the invariant. -/
lemma drainStep {step : SpeakerStep}
    (hguard : s.inTime step = true) (hnext : s.drainStep? d step = some s') : s'.InTurn := by
  cases step with
  | acquire acquired =>
    obtain ⟨hat, rfl⟩ := Option.of_guarded hnext
    exact h.acquire hdrain hat.1 acquired
  | readEpoch =>
    obtain ⟨hat, rfl⟩ := Option.of_guarded hnext
    exact h.readEpoch hdrain hat hguard
  | next =>
    obtain ⟨hat, rfl⟩ := Option.of_guarded hnext
    exact h.takeNext hdrain hat hguard
  | create failure =>
    rw [drainStep?] at hnext
    split at hnext
    next chunk hat =>
      obtain rfl := Option.some.inj hnext
      exact h.createSession hdrain hat hguard
    next => cases hnext
  | recheck =>
    rw [drainStep?] at hnext
    split at hnext
    next chunk hat =>
      obtain rfl := Option.some.inj hnext
      exact h.recheck hdrain hat
    next => cases hnext
  | call =>
    rw [drainStep?] at hnext
    split at hnext
    next chunk hat =>
      obtain rfl := Option.some.inj hnext
      exact h.call hdrain hat
    next => cases hnext
  | audio =>
    rw [drainStep?] at hnext
    split at hnext
    next chunk hat =>
      obtain rfl := Option.some.inj hnext
      exact h.audio hdrain hat
    next => cases hnext
  | ensureSink =>
    rw [drainStep?] at hnext
    split at hnext
    next chunk hat =>
      obtain rfl := Option.some.inj hnext
      exact h.ensureSink hdrain hat
    next => cases hnext
  | createSink created =>
    rw [drainStep?] at hnext
    split at hnext
    next chunk hat =>
      obtain rfl := Option.some.inj hnext
      exact h.createSink hdrain hat created
    next => cases hnext
  | write written =>
    rw [drainStep?] at hnext
    split at hnext
    next chunk sink hat =>
      obtain rfl := Option.some.inj hnext
      exact h.write hdrain hat written
    next => cases hnext
  | synthesized outcome =>
    rw [drainStep?] at hnext
    split at hnext
    next chunk hat => exact h.synthesized hdrain hat hguard hnext
    next => cases hnext
  | settle =>
    obtain ⟨hat, rfl⟩ := Option.of_guarded hnext
    exact h.settle hdrain hat
  | report =>
    obtain ⟨hat, rfl⟩ := Option.of_guarded hnext
    exact h.report hdrain hat
  | endTurn failure =>
    rw [drainStep?] at hnext
    split at hnext
    next sink started turn hat =>
      obtain rfl := Option.some.inj hnext
      exact h.endTurn hdrain hat failure
    next => cases hnext
  | finish =>
    rw [drainStep?] at hnext
    split at hnext
    next turn hat =>
      obtain rfl := Option.some.inj hnext
      obtain ⟨-, hspeaks, hturn⟩ := h.stageOk hdrain hat
      exact h.reportEnd hdrain hspeaks rfl (fun heq => by cases heq) hturn
    next => cases hnext
  | fail =>
    obtain ⟨hat, rfl⟩ := Option.of_guarded hnext
    exact h.fail hdrain hat
  | failed =>
    rw [drainStep?] at hnext
    split at hnext
    next turn hat =>
      obtain rfl := Option.some.inj hnext
      obtain ⟨hspeaks, hturn⟩ := h.stageOk hdrain hat
      exact h.reportEnd hdrain hspeaks rfl (fun heq => by cases heq) hturn
    next => cases hnext
  | unwind =>
    obtain ⟨hat, rfl⟩ := Option.of_guarded hnext
    exact h.unwind hdrain hat
  | speak text | cancel | close | act index | startDrain index => cases hnext

end

end InTurn

/-! ## The steps of the calls -/

lemma StageOk.of_stale {stage : DrainStage} (h : StageOk s d stage) (hat : d.stage = stage)
    (hstale : s'.current d = false) (hendings : ∀ turn ∈ s.endings, turn ∈ s'.endings)
    (hcommitted : d.committed = true → s'.lastStarted = s.lastStarted ∧
      s'.lastStartedSet = s.lastStartedSet ∧ s'.endings = s.endings) : StageOk s' d stage := by
  have hnever : ∀ {p : Prop}, s'.current d = true → p := fun hcurrent =>
    Bool.noConfusion (hstale.symm.trans hcurrent)
  have htakes : ∀ {chunk}, Takes s d chunk → Takes s' d chunk := fun htakes =>
    ⟨htakes.1, htakes.2.1, fun hcurrent => hnever hcurrent⟩
  have hspeaks : d.committed = true → Speaks s d → Speaks s' d := fun hyes hspeaks => by
    obtain ⟨hlast, hset, hsame⟩ := hcommitted hyes
    rw [Speaks, hlast, hset, hsame]
    exact hspeaks
  rw [Drain.committed, hat] at hspeaks hcommitted
  cases stage with
  | acquire | readEpoch => exact h
  | next => exact ⟨h.1, h.2.1, fun hcurrent => hnever hcurrent⟩
  | create chunk | recheck chunk => exact ⟨htakes h.1, h.2⟩
  | call chunk => exact ⟨htakes h.1, h.2.1, hspeaks rfl h.2.2⟩
  | synthesize chunk | ensureSink chunk | createSink chunk => exact ⟨htakes h.1, fun _ => hstale⟩
  | write chunk sink => exact ⟨⟨htakes h.1.1, fun _ => hstale⟩, h.2⟩
  | settle =>
    rintro (hfailed | hcurrent)
    · exact hspeaks hfailed (h (Or.inl hfailed))
    · exact hnever hcurrent
  | report => exact ⟨h.1, hspeaks rfl h.2⟩
  | endTurn sink started turn =>
    exact ⟨h.1, hspeaks rfl h.2.1, h.2.2.1,
      h.2.2.2.trans (hcommitted rfl).1.symm⟩
  | finish turn =>
    exact ⟨h.1, hspeaks rfl h.2.1, h.2.2.trans (hcommitted rfl).1.symm⟩
  | fail => exact hspeaks rfl h
  | failed turn =>
    exact ⟨hspeaks rfl h.1, h.2.trans (hcommitted rfl).1.symm⟩
  | unwind => exact fun hfailed turn hmem => hendings turn (h hfailed turn hmem)

namespace InTurn

lemma close (h : s.InTurn) : s.close.InTurn := by
  refine
    { h with
      drain := fun d hdrain => ?_
      queue := fun hne => absurd rfl hne
      stopped := fun _ => rfl
      set := fun hyes => h.set ?_
      ahead := fun hlive hfine started hmem hlast => ?_
      sink := fun _ hmem => by cases hmem
      unended := fun hopen => by cases hopen }
  · have hd := h.drain d hdrain
    have hstale : s.close.current d = false := rfl
    exact
      { stage := hd.stage.of_stale rfl hstale (fun _ hmem => hmem) fun _ => ⟨rfl, rfl, rfl⟩
        epoch := hd.epoch.trans (Nat.le_succ _)
        bound := hd.bound
        current := fun hcurrent => Bool.noConfusion (hstale.symm.trans hcurrent)
        stale := fun _ _ => Or.inl rfl }
  · rcases hyes with hbusy | ⟨call, hmem, hstarts⟩
    · -- Nothing is queued any more, so that there is a drain.
      left
      rw [busy, Bool.or_eq_true]
      exact Or.inr hbusy
    · right
      rw [Speaker.close] at hmem
      dsimp only at hmem
      cases hdrain : s.drain with
      | none =>
        rw [hdrain] at hmem
        exact ⟨call, hmem, hstarts⟩
      | some d =>
        rw [hdrain] at hmem
        rcases List.mem_append.mp hmem with hmem | hmem
        · exact ⟨call, hmem, hstarts⟩
        · rw [List.mem_singleton.mp hmem] at hstarts
          cases hstarts
  · have hbefore := h.ahead hlive hfine started hmem hlast
    show s.spokenOf s.lastStarted ++ s.inHand ++ [] <+: started.chunks
    rw [List.append_nil]
    exact (List.prefix_append _ _).trans hbefore

/-- What `cancelLocked` leaves: nothing is queued, the drain is stale, and all turns have ended. -/
structure Cancelled (s : Speaker) : Prop where
  inTurn : s.InTurn
  pending : s.pending = []
  drain : ∀ d, s.drain = some d → s.current d = false ∧ d.committed = false
  ended : s.stopped = false → ∀ started ∈ s.turns, started.turn ∈ s.endings

/-- `cancelLocked` keeps the invariant, if it comes in time. -/
lemma cancelLocked (h : s.InTurn) (hguard : s.mayCancel = true) : Cancelled s.cancelLocked := by
  rw [Speaker.cancelLocked]
  split
  next hbusy =>
    have hset := h.set (Or.inl hbusy)
    rw [mayCancel, hbusy, Bool.not_true, Bool.false_or, Bool.and_eq_true, live,
      decide_eq_true_eq] at hguard
    obtain ⟨hlive, huncommitted⟩ := hguard
    have hfree : ∀ d, s.drain = some d → d.committed = false := fun d hdrain => by
      rw [hdrain, Option.all_some, Bool.not_eq_true'] at huncommitted
      exact huncommitted
    rw [if_pos hset]
    let cancelled : Speaker := ({ s with epoch := s.epoch + 1, pending := [] } : Speaker).emit
      { type := .turnCancelled, turn := s.lastStarted } s.speaking
    have hendings : cancelled.endings = s.endings ++ [s.lastStarted] := endings_emit _ _ rfl
    have hended : s.lastStarted ∈ cancelled.endings := by
      rw [hendings]
      exact List.mem_append_right _ (List.mem_singleton_self _)
    have hkept : ∀ turn ∈ s.endings, turn ∈ cancelled.endings := fun turn hmem => by
      rw [hendings]
      exact List.mem_append_left _ hmem
    have hstale : ∀ d, s.drain = some d → cancelled.current d = false := fun d hdrain => by
      have hepoch := (h.drain d hdrain).epoch
      show (!s.stopped && decide (s.epoch + 1 = d.epoch)) = false
      rw [decide_eq_false (by omega), Bool.and_false]
    have hinTurn : cancelled.InTurn :=
      { h with
        drain := fun d hdrain =>
          let hd := h.drain d hdrain
          { stage := hd.stage.of_stale rfl (hstale d hdrain) hkept fun hyes =>
              absurd ((hfree d hdrain).symm.trans hyes) Bool.false_ne_true
            epoch := hd.epoch.trans (Nat.le_succ _)
            bound := hd.bound
            current := fun hcurrent => absurd ((hstale d hdrain).symm.trans hcurrent)
              Bool.false_ne_true
            stale := fun _ hnot => absurd hended hnot }
        queue := fun hne => absurd rfl hne
        stopped := fun _ => rfl
        set := fun _ => hset
        ahead := fun hnot => absurd hended hnot
        endingsBound := fun turn hmem => by
          rw [hendings] at hmem
          rcases List.mem_append.mp hmem with hmem | hmem
          · exact h.endingsBound turn hmem
          · rw [List.mem_singleton.mp hmem]
            exact h.counter
        unended := fun _ _ hnot => absurd hended hnot
        earlier := fun started hmem hne => hkept _ (h.earlier started hmem hne)
        endedOnce := by
          rw [hendings]
          refine List.Nodup.append h.endedOnce (List.nodup_singleton _) fun turn hmem hlast => ?_
          rw [List.mem_singleton.mp hlast] at hmem
          exact hlive hmem
        attributed := fun entry hmem hends => by
          rcases List.mem_append.mp hmem with hmem | hmem
          · exact h.attributed entry hmem hends
          · rw [List.mem_singleton.mp hmem, EmittedEvent.Attributed, if_pos rfl]
            intro turn hspeaking
            obtain ⟨d, hfound, hturn⟩ := Option.bind_eq_some_iff.mp hspeaking
            obtain ⟨hdrain, hcurrent⟩ := Option.filter_eq_some_iff.mp hfound
            exact (h.drain d hdrain).current hcurrent turn hturn }
    exact
      { inTurn := hinTurn
        pending := rfl
        drain := fun d hdrain => ⟨hstale d hdrain, hfree d hdrain⟩
        ended := fun _ started hmem => by
          by_cases hlast : started.turn = s.lastStarted
          · rw [hlast]
            exact hended
          · exact hkept _ (h.earlier started hmem hlast) }
  next hidle =>
    rw [busy, Bool.or_eq_true, not_or, Bool.not_eq_true', Bool.not_eq_false,
      List.isEmpty_iff, Option.not_isSome_iff_eq_none] at hidle
    have hnone : ∀ {p : Prop} d, s.drain = some d → p := fun d hdrain =>
      absurd (hidle.2.symm.trans hdrain) (Option.some_ne_none d).symm
    exact
      { inTurn := h
        pending := hidle.1
        drain := fun d hdrain => hnone d hdrain
        ended := fun hopen => h.turnsEndOnce.allEnded hopen hidle.2 hidle.1 }

lemma leave (h : s.InTurn) (action : Option CancelAction) {starts : Bool}
    (hstarts : starts = true → s.lastStartedSet = true) : (s.leave action starts).InTurn := by
  rw [Speaker.leave]
  split
  · exact h
  · exact
      { h with
        drain := fun d hdrain =>
          let hd := h.drain d hdrain
          { hd with stage := hd.stage }
        set := fun hyes => by
          rcases hyes with hbusy | ⟨call, hmem, hcall⟩
          · exact h.set (Or.inl hbusy)
          · rcases List.mem_append.mp hmem with hmem | hmem
            · exact h.set (Or.inr ⟨call, hmem, hcall⟩)
            · rw [List.mem_singleton.mp hmem] at hcall
              exact hstarts hcall }

lemma act (h : s.InTurn) {index : ℕ} {call : SpeakerCall} {action : CancelAction}
    (hcall : s.calls[index]? = some call) : (s.act index call action).InTurn := by
  have hdrain : ∀ d', (s.act index call action).drain = some d' →
      ∃ d cancelled, s.drain = some d ∧ d' = { d with cancelled } := by
    intro d' hd'
    obtain ⟨d, hd, rfl⟩ := Option.map_eq_some_iff.mp hd'
    split
    · exact ⟨d, true, hd, rfl⟩
    · exact ⟨d, d.cancelled, hd, rfl⟩
  have hhand : (s.act index call action).inHand = s.inHand := by
    refine inHand_congr ?_ rfl
    show (s.drain.map _).map _ = _
    rw [Option.map_map]
    refine congrArg (Option.map · s.drain) (funext fun d => ?_)
    show Drain.stage (if some d.id = action.drain then { d with cancelled := true } else d) =
      d.stage
    split <;> rfl
  refine
    { h with
      drain := fun d' hd' => ?_
      set := fun hyes => h.set ?_
      ahead := fun hlive hfine started hmem hlast => ?_
      unended := fun hopen hset hlive => ?_ }
  · obtain ⟨d, cancelled, hd, rfl⟩ := hdrain d' hd'
    have hok := h.drain d hd
    exact { hok with stage := hok.stage }
  · rcases hyes with hbusy | ⟨other, hmem, hstarts⟩
    · left
      rw [busy] at hbusy ⊢
      rw [← hbusy]
      show _ = (!s.pending.isEmpty || (s.drain.map _).isSome)
      rw [Option.isSome_map]
    · refine Or.inr ?_
      change other ∈ (if call.starts then s.calls.set index { call with action := none }
        else s.calls.eraseIdx index) at hmem
      split at hmem
      next hcallStarts =>
        rcases List.mem_or_eq_of_mem_set hmem with hmem | rfl
        · exact ⟨other, hmem, hstarts⟩
        · exact ⟨call, List.mem_of_getElem? hcall, hcallStarts⟩
      next => exact ⟨other, List.mem_of_mem_eraseIdx hmem, hstarts⟩
  · show s.spokenOf s.lastStarted ++ (s.act index call action).inHand ++ s.queued <+: _
    rw [hhand]
    refine h.ahead hlive (fun d hd hfailed => ?_) started hmem hlast
    have hmapped : (s.act index call action).drain = some (if some d.id = action.drain then
        { d with cancelled := true } else d) := by
      show s.drain.map _ = _
      rw [hd]
      rfl
    have hnot := hfine _ hmapped (by split <;> exact hfailed)
    split at hnot <;> exact hnot
  · rcases h.unended hopen hset hlive with hqueued | ⟨d, hd, hspeaks, hstage⟩
    · exact Or.inl hqueued
    · refine Or.inr ⟨if some d.id = action.drain then { d with cancelled := true } else d, ?_, ?_⟩
      · show s.drain.map _ = _
        rw [hd]
        rfl
      · split
        · exact ⟨hspeaks, hstage⟩
        · exact ⟨hspeaks, hstage⟩

lemma startDrain (h : s.InTurn) {index : ℕ} (hcall : s.calls[index]? = some ⟨none, true⟩) :
    (s.startDrain index).InTurn := by
  have hset := h.set (Or.inr ⟨_, List.mem_of_getElem? hcall, rfl⟩)
  rw [Speaker.startDrain]
  dsimp only
  split
  next =>
    exact
      { h with
        drain := fun d hdrain =>
          let hd := h.drain d hdrain
          { hd with stage := hd.stage }
        set := fun _ => hset }
  next hnone =>
    have hdrain : s.drain = none := Option.not_isSome_iff_eq_none.mp hnone
    refine
      { h with
        drain := fun d hd => ?_
        set := fun _ => hset
        ahead := fun hlive _ started hmem hlast => ?_
        unended := fun hopen hset hlive => ?_ }
    · obtain rfl := Option.some.inj hd
      exact
        { stage := ⟨rfl, rfl, rfl⟩
          epoch := Nat.zero_le _
          bound := fun _ hmem => by cases hmem
          current := fun _ _ hmem => by cases hmem
          stale := fun hturn => by cases hturn }
    · have hbefore := h.ahead hlive (fun d hd => absurd (hdrain.symm.trans hd)
        (Option.some_ne_none d).symm) started hmem hlast
      have hhand : s.inHand = [] := by rw [inHand, hdrain]; rfl
      rw [hhand] at hbefore
      exact hbefore
    · rcases h.unended hopen hset hlive with hqueued | ⟨d, hd, -⟩
      · exact Or.inl hqueued
      · exact absurd (hdrain.symm.trans hd) (Option.some_ne_none d).symm

lemma cancelLocked_same (s : Speaker) : s.cancelLocked.turnCounter = s.turnCounter ∧
    s.cancelLocked.stopped = s.stopped ∧ s.cancelLocked.maxQueuedChunks = s.maxQueuedChunks := by
  rw [Speaker.cancelLocked]
  split
  · split <;> exact ⟨rfl, rfl, rfl⟩
  · exact ⟨rfl, rfl, rfl⟩

lemma countTurn (h : Cancelled s) :
    ({ s with turnCounter := s.turnCounter + 1 } : Speaker).InTurn :=
  { h.inTurn with
    drain := fun d hdrain =>
      let hd := h.inTurn.drain d hdrain
      { hd with
        stage := hd.stage
        bound := fun turn hmem => (hd.bound turn hmem).trans (Nat.le_succ _) }
    queue := fun hne => absurd h.pending hne
    counter := h.inTurn.counter.trans (Nat.le_succ _)
    spokenBound := fun entry hmem => (h.inTurn.spokenBound entry hmem).trans (Nat.le_succ _)
    endingsBound := fun turn hmem => (h.inTurn.endingsBound turn hmem).trans (Nat.le_succ _)
    turnsBound := fun started hmem =>
      ⟨(h.inTurn.turnsBound started hmem).1.trans (Nat.le_succ _),
        (h.inTurn.turnsBound started hmem).2⟩ }

/-- The state in which a turn starts. -/
def started (s : Speaker) (chunks : List String) : Speaker :=
  ({ s with turnCounter := s.turnCounter + 1 } : Speaker).startTurn (s.turnCounter + 1) chunks

lemma events_started (s : Speaker) (chunks : List String) :
    ∃ more, (started s chunks).events = s.events ++ more ∧
      ∀ entry ∈ more, entry.event.type.terminal = false := by
  rw [started, startTurn]
  dsimp only
  split
  · refine ⟨_ ++ _, List.append_assoc _ _ _, fun entry hmem => ?_⟩
    rcases List.mem_append.mp hmem with hmem | hmem <;>
      (rw [List.mem_singleton.mp hmem]; rfl)
  · refine ⟨_, rfl, fun entry hmem => ?_⟩
    rw [List.mem_singleton.mp hmem]
    rfl

lemma started_same (s : Speaker) (chunks : List String) :
    (started s chunks).drain = s.drain ∧ (started s chunks).spoken = s.spoken ∧
    (started s chunks).writes = s.writes ∧ (started s chunks).epoch = s.epoch ∧
    (started s chunks).stopped = s.stopped ∧ (started s chunks).sink = s.sink ∧
    (started s chunks).sinkTurn = s.sinkTurn ∧
    (started s chunks).pending = s.pending ++ (chunks.take s.maxQueuedChunks).map (fun text =>
      ⟨s.turnCounter + 1, text⟩) ∧ (started s chunks).turns = s.turns ++
      [⟨s.turnCounter + 1, chunks.take s.maxQueuedChunks⟩] ∧
    (started s chunks).lastStarted = s.turnCounter + 1 ∧
    (started s chunks).turnCounter = s.turnCounter + 1 ∧
    (started s chunks).lastStartedSet = true := by
  rw [started, startTurn]
  dsimp only
  split <;> exact ⟨rfl, rfl, rfl, rfl, rfl, rfl, rfl, rfl, rfl, rfl, rfl, rfl⟩

/-- Starting a turn keeps the invariant. -/
lemma startTurn (h : Cancelled s) (hopen : s.stopped = false) {chunks : List String}
    (hchunks : chunks ≠ []) : (started s chunks).InTurn := by
  obtain ⟨more, hevents, hmore⟩ := events_started s chunks
  obtain ⟨hdrain, hspoken, hwrites, hepoch, hstopped, hsink, hsinkTurn, hpending, hturns, hlast,
    hcounter, hset⟩ := started_same s chunks
  have hbefore := h.inTurn
  rw [h.pending, List.nil_append] at hpending
  have hnone : (more.filter fun entry => entry.event.type.terminal) = [] :=
    List.filter_eq_nil_iff.mpr fun entry hmem => by simp [hmore entry hmem]
  have hendings : (started s chunks).endings = s.endings := by
    rw [endings, hevents, List.filter_append, hnone, List.append_nil]
    rfl
  have hcurrent : ∀ d, (started s chunks).current d = s.current d := fun d => by
    rw [current, current, hstopped, hepoch]
  -- The number of the turn is new.
  have hspokenOf : (started s chunks).spokenOf (s.turnCounter + 1) = [] := by
    rw [spokenOf, hspoken, List.map_eq_nil_iff, List.filter_eq_nil_iff]
    intro entry hmem hturn
    have := hbefore.spokenBound entry hmem
    have := of_decide_eq_true hturn
    omega
  have hhand : (started s chunks).inHand = [] := by
    rw [inHand, hdrain, hlast]
    cases hsome : s.drain with
    | none => rfl
    | some d =>
      rw [Option.bind_some]
      cases hheld : d.stage.inHand with
      | none => rfl
      | some chunk =>
        have hturn := (hbefore.drain d hsome).turn_of_inHand hheld
        have := (hbefore.drain d hsome).bound chunk.turn hturn
        rw [Option.filter_some, if_neg (by simp only [decide_eq_true_eq]; omega)]
        rfl
  have hold : ∀ {turn}, (∃ started ∈ s.turns, started.turn = turn) → turn ≠ s.turnCounter + 1 := by
    rintro turn ⟨started, hmem, rfl⟩
    have := (hbefore.turnsBound started hmem).1
    omega
  have hmem : ∀ {entry}, entry ∈ (started s chunks).turns →
      entry ∈ s.turns ∨ entry = ⟨s.turnCounter + 1, chunks.take s.maxQueuedChunks⟩ := by
    intro entry hentry
    rw [hturns] at hentry
    exact (List.mem_append.mp hentry).imp_right List.mem_singleton.mp
  exact
    { drain := fun d hd => by
        rw [hdrain] at hd
        obtain ⟨hstale, hfree⟩ := h.drain d hd
        have hok := hbefore.drain d hd
        have hnew : d.turn ≠ some (s.turnCounter + 1) := fun hturn => by
          have := hok.bound _ hturn
          omega
        exact
          { stage := hok.stage.of_stale rfl ((hcurrent d).trans hstale)
              (fun turn hmem => hendings ▸ hmem) fun hyes =>
                absurd (hfree.symm.trans hyes) Bool.false_ne_true
            epoch := hepoch ▸ hok.epoch
            bound := fun turn hmem => hcounter ▸ (hok.bound turn hmem).trans (Nat.le_succ _)
            current := fun hyes => absurd (((hcurrent d).trans hstale).symm.trans hyes)
              Bool.false_ne_true
            stale := fun hturn => absurd (hlast ▸ hturn) hnew }
      queue := fun _ => by
        refine ⟨hcounter.trans hlast.symm, fun chunk hchunk => ?_⟩
        rw [hpending] at hchunk
        obtain ⟨text, -, rfl⟩ := List.mem_map.mp hchunk
        exact hlast.symm
      stopped := fun hyes => absurd ((hstopped.trans hopen).symm.trans hyes) Bool.false_ne_true
      set := fun _ => hset
      inOrder := fun entry hentry => by
        rcases hmem hentry with hentry | rfl
        · have hkept := hbefore.inOrder entry hentry
          rw [spokenOf] at hkept ⊢
          rw [hspoken]
          exact hkept
        · show (started s chunks).spokenOf (s.turnCounter + 1) <+: _
          rw [hspokenOf]
          exact List.nil_prefix
      ahead := fun _ _ entry hentry hturn => by
        rw [hlast] at hturn ⊢
        rcases hmem hentry with hentry | rfl
        · exact absurd hturn (hold ⟨entry, hentry, rfl⟩)
        · rw [hspokenOf, hhand, queued, hpending, List.map_map]
          show [] ++ [] ++ List.map id _ <+: _
          rw [List.map_id]
          exact List.prefix_refl _
      sink := fun token htoken => by
        rw [hsinkTurn]
        exact hbefore.sink token (hsink ▸ htoken)
      counter := (hlast.trans hcounter.symm).le
      spokenBound := fun entry hentry => by
        rw [hcounter]
        exact (hbefore.spokenBound entry (hspoken ▸ hentry)).trans (Nat.le_succ _)
      endingsBound := fun turn hturn => by
        rw [hcounter]
        exact (hbefore.endingsBound turn (hendings ▸ hturn)).trans (Nat.le_succ _)
      turnsBound := fun entry hentry => by
        rw [hcounter]
        refine ⟨?_, hset⟩
        rcases hmem hentry with hentry | rfl
        · exact (hbefore.turnsBound entry hentry).1.trans (Nat.le_succ _)
        · exact le_rfl
      unended := fun _ _ _ => Or.inl fun hempty => by
        rw [hpending, List.map_eq_nil_iff, List.take_eq_nil_iff] at hempty
        rcases hempty with hzero | hnil
        · exact absurd hzero s.maxQueuedChunks_pos.ne'
        · exact hchunks hnil
      earlier := fun entry hentry hne => by
        rw [hendings]
        rcases hmem hentry with hentry | rfl
        · exact h.ended hopen entry hentry
        · exact absurd hlast.symm hne
      endedOnce := hendings ▸ hbefore.endedOnce
      attributed := fun entry hentry hends => by
        rw [hevents] at hentry
        rcases List.mem_append.mp hentry with hentry | hentry
        · exact hbefore.attributed entry hentry hends
        · exact absurd ((hmore entry hentry).symm.trans hends) Bool.false_ne_true
      silent := fun entry hentry => hbefore.silent entry (hspoken ▸ hentry)
      ownToken := fun entry hentry => hbefore.ownToken entry (hwrites ▸ hentry) }

variable {isReadable : Char → Bool}

lemma speak (h : s.InTurn) {text : String}
    (hguard : s.inTime (.speak text) = true) : (s.speak isReadable text).InTurn := by
  rw [Speaker.speak]
  split
  next => exact h
  next hnot =>
    have hopen := Bool.eq_false_of_not_eq_true hnot
    rw [inTime, hopen, Bool.false_or] at hguard
    have hcancelled := h.cancelLocked hguard
    obtain ⟨hcounter, hstopped, hmax⟩ := cancelLocked_same s
    rw [← hcounter]
    dsimp only
    split
    next => exact countTurn hcancelled
    next hchunks =>
      have hstarted := startTurn hcancelled (hstopped.trans hopen) hchunks
      exact hstarted.leave _ fun _ => (started_same _ _).2.2.2.2.2.2.2.2.2.2.2

lemma of_next (h : s.InTurn) {step : SpeakerStep}
    (hguard : s.inTime step = true) (hnext : s.next? isReadable step = some s') : s'.InTurn := by
  have hdrainStep : (s.drain.bind fun d => s.drainStep? d step) = some s' → s'.InTurn := by
    intro hbind
    obtain ⟨d, hdrain, hstep⟩ := Option.bind_eq_some_iff.mp hbind
    exact h.drainStep hdrain hguard hstep
  cases step with
  | speak text =>
    obtain rfl := Option.some.inj hnext
    exact h.speak hguard
  | cancel =>
    obtain rfl := Option.some.inj hnext
    exact (h.cancelLocked hguard).inTurn.leave _ fun hstarts => by cases hstarts
  | close =>
    obtain rfl := Option.some.inj hnext
    exact h.close
  | act index =>
    rw [next?] at hnext
    split at hnext
    next action starts hcall =>
      obtain rfl := Option.some.inj hnext
      exact h.act hcall
    next => cases hnext
  | startDrain index =>
    obtain ⟨hcall, rfl⟩ := Option.of_guarded hnext
    exact h.startDrain hcall
  | _ => exact hdrainStep hnext

end InTurn

end Speaker

/-- In every run in which cancellations and failures come in time, turns end once. -/
theorem turnsEndOnce_of_reachable {isReadable : Char → Bool} {s : Speaker}
    (h : (speakerSystem isReadable).ReachableWhen (fun s step => s.inTime step = true) s) :
    s.TurnsEndOnce := by
  refine Speaker.InTurn.turnsEndOnce (h.invariant ?_ fun s step s' hs hguard hnext =>
    Speaker.InTurn.of_next hs hguard hnext)
  rintro s ⟨maxQueuedChunks, maxQueuedChunks_pos, maxChunkChars, rfl⟩
  exact
    { drain := fun _ hdrain => by cases hdrain
      queue := fun hne => absurd rfl hne
      stopped := fun hstopped => by cases hstopped
      set := fun hyes => by
        rcases hyes with hbusy | ⟨_, hmem, -⟩
        · cases hbusy
        · cases hmem
      inOrder := fun _ hmem => absurd hmem List.not_mem_nil
      ahead := fun _ _ _ hmem => absurd hmem List.not_mem_nil
      sink := fun _ hmem => by cases hmem
      counter := le_rfl
      spokenBound := fun _ hmem => absurd hmem List.not_mem_nil
      endingsBound := fun _ hmem => absurd hmem List.not_mem_nil
      turnsBound := fun _ hmem => absurd hmem List.not_mem_nil
      unended := fun _ hset => by cases hset
      earlier := fun _ hmem => absurd hmem List.not_mem_nil
      endedOnce := List.nodup_nil
      attributed := fun _ hmem => absurd hmem List.not_mem_nil
      silent := fun _ hmem => absurd hmem List.not_mem_nil
      ownToken := fun _ hmem => absurd hmem List.not_mem_nil }

/-! ### One Speaker -/

/-- A Speaker that keeps two chunks. -/
def idleSpeaker : Speaker where
  maxQueuedChunks := 2
  maxQueuedChunks_pos := Nat.two_pos
  maxChunkChars := 0

/-- A turn is spoken. -/
def spokenTurn : List SpeakerStep :=
  [.speak "Hi.", .startDrain 0, .acquire true, .readEpoch, .next, .create none, .recheck, .call,
    .audio, .ensureSink, .createSink true, .write true, .synthesized .done, .next, .settle, .report,
    .endTurn none, .finish, .unwind]

/-- A turn is cancelled before its drain was started. -/
def cancelledTurn : List SpeakerStep := [.speak "No.", .cancel, .act 1]

/-- A turn is cancelled twice, while its drain waits at the gate. -/
def twiceCancelledTurn : List SpeakerStep :=
  [.speak "Hi.", .startDrain 0, .cancel, .act 0, .cancel]

/-- A turn that is spoken ends once, and so does one that is cancelled. -/
theorem turnsEndOnce_spoken :
    ∃ s, TransitionSystem.runWhen? (fun s => s.next? Char.isAlphanum) Speaker.inTime idleSpeaker
      (spokenTurn ++ cancelledTurn) = some s ∧ s.TurnsEndOnce := by
  have hrun : (TransitionSystem.runWhen? (fun s => s.next? Char.isAlphanum) Speaker.inTime
      idleSpeaker (spokenTurn ++ cancelledTurn)).isSome = true := by
    decide +kernel
  obtain ⟨s, hs⟩ := Option.isSome_iff_exists.mp hrun
  exact ⟨s, hs, @turnsEndOnce_of_reachable Char.isAlphanum s
    (TransitionSystem.reachableWhen_of_runWhen (fun _ _ _ h => h) ⟨2, Nat.two_pos, 0, rfl⟩ hs)⟩

/-- A turn that is cancelled again, before its drain has unwound, ends twice. -/
theorem not_turnsEndOnce_twice :
    ¬∀ isReadable s, (speakerSystem isReadable).Reachable s → s.TurnsEndOnce := by
  intro honce
  have hrun : ((TransitionSystem.runWhen? (fun s => s.next? Char.isAlphanum) (fun _ _ => true)
      idleSpeaker twiceCancelledTurn).any fun s => decide (s.endings = [1, 1])) = true := by
    decide +kernel
  obtain ⟨s, hs, htwice⟩ := (Option.any_eq_true _ _).mp hrun
  have hreach : (speakerSystem Char.isAlphanum).Reachable s :=
    TransitionSystem.reachable_of_runWhen (fun _ _ _ h => h) ⟨2, Nat.two_pos, 0, rfl⟩ hs
  have hnodup := (honce _ s hreach).endedOnce
  rw [of_decide_eq_true htwice] at hnodup
  simp at hnodup

end Free4Chat
