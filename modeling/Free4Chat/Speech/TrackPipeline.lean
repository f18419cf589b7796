import Free4Chat.Media.Bridge
import Free4Chat.Speech.StreamingStt
import Mathlib.Data.Bool.Basic

/-!
# The Pipeline of One Track

The audio of a track is queued in its pipeline. A pump takes the frames from the queue, creates a
session of the provider for the first of them, and pushes them into it, while another goroutine
forwards what the session recognizes. The pipeline ends when its track does, when the provider
fails or when the queue overflows. All this happens at once: the goroutines of a pipeline meet in
short critical sections only.

* `TrackPipeline`: the pipeline, its goroutines between their critical sections, and its history.
* `TrackPipeline.accept`: a frame is queued. `TrackPipeline.next?`: one goroutine takes a step.
* `TrackPipeline.EndsWithTrack`: the sessions are closed and the events end with the track.
* `TrackPipeline.Orderly`: the invariant of a pipeline, and one lemma for each step.
-/

namespace Free4Chat

/-! ## State -/

/-- Most frames in the queue of a track. -/
def maxFramesPerTrack : ℕ := 128

/-- A session of the provider. -/
structure ProviderSession where
  pushed : List AudioFrame := []
  closed : Bool := false
deriving DecidableEq

/-- Where a pump is: before its next frame, before or after the call that creates a session, or
before it pushes a frame. -/
inductive PumpStage where
  | top
  | create (frame : AudioFrame)
  | created (frame : AudioFrame) (session : ℕ)
  | push (frame : AudioFrame) (session : ℕ)
deriving DecidableEq

/-- Where a goroutine is that forwards the events of a session: it waits for one, or has one that it
has still to check or to emit. -/
inductive ForwardStage where
  | wait (session : ℕ)
  | check (session : ℕ) (event : SttEvent)
  | emit (session : ℕ) (event : SttEvent)
deriving DecidableEq

/-- Whether an event was checked and is about to be emitted. -/
def ForwardStage.emitting : ForwardStage → Bool
  | .emit _ _ => true
  | _ => false

/-- A call of `failTrack`, and whether the pump makes it. -/
structure FailCall where
  error : SttError
  fromPump : Bool
deriving DecidableEq

/-- The pipeline of a track. -/
structure TrackPipeline where
  source : AudioSource
  frames : List AudioFrame := []
  -- The session, by its place among those that were created.
  session : Option ℕ := none
  -- The channel `done` was closed.
  done : Bool := false
  stopped : Bool := false
  failed : Bool := false
  pumping : Bool := false
  -- The goroutines at work, by their stages.
  pumps : List PumpStage := []
  forwards : List ForwardStage := []
  -- Calls of `endTrack` that took the pipeline out, before and after they marked it.
  ending : ℕ := 0
  ended : ℕ := 0
  -- Calls of `failTrack`: before the mark, before the event, and before the session is closed.
  failCalls : List FailCall := []
  failEmits : List FailCall := []
  failCloses : List FailCall := []
  -- What happened so far.
  sessions : List ProviderSession := []
  accepted : List AudioFrame := []
  taken : List AudioFrame := []
  -- The events, and whether the pipeline was marked as stopped when they were emitted.
  emitted : List (SttEvent × Bool) := []
  doneCloses : ℕ := 0
deriving DecidableEq

/-- What a goroutine of a pipeline does next. Those at the same stage are told apart by their
places. -/
inductive TrackStep where
  -- `endTrack` marks the pipeline, and then closes what it used.
  | endMark
  | endClose
  -- `failTrack` marks the pipeline, emits the failure, and closes what it used.
  | failMark (index : ℕ)
  | failEmit (index : ℕ)
  | failClose (index : ℕ)
  -- `pump` takes a frame, creates a session, looks at the pipeline again, and pushes the frame.
  | pumpTake (index : ℕ)
  | pumpCreate (index : ℕ) (failure : Option SttError)
  | pumpCheck (index : ℕ)
  | pumpPush (index : ℕ) (failure : Option SttError)
  -- `forwardEvents` receives an event or finds the channel closed, looks at the pipeline, and
  -- emits.
  | receive (index : ℕ) (event : SttEvent)
  | eventsClosed (index : ℕ)
  | forwardCheck (index : ℕ)
  | forwardEmit (index : ℕ)
deriving DecidableEq

namespace TrackPipeline

variable (p : TrackPipeline)

/-! ## Steps -/

/-- Close the channel `done`, once. -/
def closeDone : TrackPipeline :=
  if p.done then p else { p with done := true, doneCloses := p.doneCloses + 1 }

/-- Close a session. -/
def closeAt (index : ℕ) : TrackPipeline :=
  { p with sessions := p.sessions.modify index fun session => { session with closed := true } }

/-- Close the session of the pipeline, if it has one. -/
def closeSession : TrackPipeline := p.session.elim p p.closeAt

/-- Whether the pipeline takes no more audio. -/
def hasEnded : Bool := p.stopped || p.failed

/-- The critical section of `AcceptAudio` in the pipeline of the track. -/
def accept (frame : AudioFrame) : TrackPipeline :=
  if p.hasEnded then p
  else if maxFramesPerTrack ≤ p.frames.length then
    { p with
      failCalls := p.failCalls ++
        [⟨{ code := "audio_queue_overflow", message := "Speech audio queue is full" }, false⟩] }
  else
    { p with
      frames := p.frames ++ [frame]
      accepted := p.accepted ++ [frame]
      pumps := if p.pumping then p.pumps else p.pumps ++ [.top]
      pumping := true }

/-- The pump takes the next frame, or returns when there is none or the pipeline is over. -/
def pumpTake (index : ℕ) : TrackPipeline :=
  if p.hasEnded then { p with pumps := p.pumps.eraseIdx index }
  else match p.frames with
    | [] => { p with pumping := false, pumps := p.pumps.eraseIdx index }
    | frame :: rest =>
      { p with
        frames := rest
        taken := p.taken ++ [frame]
        pumps := p.pumps.set index (p.session.elim (.create frame) (.push frame)) }

/-- The provider created a session for the pump, or failed. -/
def pumpCreate (index : ℕ) (frame : AudioFrame) : Option SttError → TrackPipeline
  | some error =>
    { p with
      pumps := p.pumps.eraseIdx index
      failCalls := p.failCalls ++ [⟨error, true⟩] }
  | none =>
    { p with
      sessions := p.sessions ++ [{}]
      pumps := p.pumps.set index (.created frame p.sessions.length) }

/-- The pump looks at the pipeline again after it created a session. -/
def pumpCheck (index : ℕ) (frame : AudioFrame) (session : ℕ) : TrackPipeline :=
  if p.hasEnded then ({ p with pumps := p.pumps.eraseIdx index } : TrackPipeline).closeAt session
  else
    { p with
      session := some session
      forwards := p.forwards ++ [.wait session]
      pumps := p.pumps.set index (.push frame session) }

/-- The pump pushed a frame into the session, which may fail. -/
def pumpPush (index : ℕ) (frame : AudioFrame) (session : ℕ) (failure : Option SttError) :
    TrackPipeline :=
  { p with
    sessions := p.sessions.modify session fun session =>
      { session with pushed := session.pushed ++ [frame] }
    pumps := failure.elim (p.pumps.set index .top) fun _ => p.pumps.eraseIdx index
    failCalls := p.failCalls ++ (failure.map fun error => ⟨error, true⟩).toList }

/-- `failTrack` marks the pipeline, unless it is over already. -/
def failMark (index : ℕ) (call : FailCall) : TrackPipeline :=
  if p.hasEnded then { p with failCalls := p.failCalls.eraseIdx index }
  else
    { p with
      failCalls := p.failCalls.eraseIdx index
      failed := true
      frames := []
      failEmits := p.failEmits ++ [call] }

/-- One goroutine of the pipeline takes a step. -/
def next? : TrackStep → Option TrackPipeline
  | .endMark =>
    if p.ending = 0 then none
    else some { p with ending := p.ending - 1, ended := p.ended + 1, stopped := true, frames := [] }
  | .endClose =>
    if p.ended = 0 then none
    else some { p.closeDone.closeSession with ended := p.ended - 1 }
  | .failMark index => p.failCalls[index]?.map (p.failMark index)
  | .failEmit index =>
    p.failEmits[index]?.map fun call =>
      { p with
        failEmits := p.failEmits.eraseIdx index
        failCloses := p.failCloses ++ [call]
        emitted := p.emitted ++ [({ type := .error, error := some call.error }, p.stopped)] }
  | .failClose index =>
    p.failCloses[index]?.map fun _ =>
      { p.closeSession.closeDone with failCloses := p.failCloses.eraseIdx index }
  | .pumpTake index => if p.pumps[index]? = some .top then some (p.pumpTake index) else none
  | .pumpCreate index failure =>
    match p.pumps[index]? with
    | some (.create frame) => some (p.pumpCreate index frame failure)
    | _ => none
  | .pumpCheck index =>
    match p.pumps[index]? with
    | some (.created frame session) => some (p.pumpCheck index frame session)
    | _ => none
  | .pumpPush index failure =>
    match p.pumps[index]? with
    | some (.push frame session) => some (p.pumpPush index frame session failure)
    | _ => none
  | .receive index event =>
    match p.forwards[index]? with
    | some (.wait session) =>
      some { p with forwards := p.forwards.set index (.check session event) }
    | _ => none
  | .eventsClosed index =>
    match p.forwards[index]? with
    | some (.wait _) => some { p with forwards := p.forwards.eraseIdx index }
    | _ => none
  | .forwardCheck index =>
    match p.forwards[index]? with
    | some (.check session event) =>
      some { p with
        forwards :=
          if p.stopped then p.forwards.eraseIdx index
          else p.forwards.set index (.emit session event) }
    | _ => none
  | .forwardEmit index =>
    match p.forwards[index]? with
    | some (.emit session event) =>
      some { p with
        forwards := p.forwards.set index (.wait session)
        emitted := p.emitted ++ [(event, p.stopped)] }
    | _ => none

/-! ## What should hold -/

/-- How many pump goroutines run, including those that report a failure. -/
def pumpGoroutines : ℕ :=
  p.pumps.length + p.failCalls.countP (·.fromPump) + p.failEmits.countP (·.fromPump) +
    p.failCloses.countP (·.fromPump)

/-- Whether a goroutine at work closes a session: one that ends or fails the track and has still to
close its session, or the pump that created it and finds the pipeline over. A call that has still to
mark the pipeline closes the session in either case. -/
def WillClose (index : ℕ) : Prop :=
  (p.session = some index ∧ (0 < p.ended ∨ p.failEmits ≠ [] ∨ p.failCloses ≠ [])) ∨
  (p.hasEnded = true ∧ ∃ frame, .created frame index ∈ p.pumps) ∨
  (0 < p.ending ∧ (p.session = some index ∨ ∃ frame, .created frame index ∈ p.pumps))

/-- A pipeline ends with its track: when it is over, each session of it is closed or about to be,
and no event is emitted once it is marked as stopped. One pump pushes the frames in the order in
which they were accepted, and the channel is closed once. -/
structure EndsWithTrack (closed : Bool) : Prop where
  sessionsClosed : (p.hasEnded || closed) = true → ∀ (index : ℕ) (session : ProviderSession),
    p.sessions[index]? = some session → session.closed = true ∨ p.WillClose index
  silent : ∀ entry ∈ p.emitted, entry.2 = false
  onePump : p.pumpGoroutines ≤ 1
  inOrder : ∀ session ∈ p.sessions, session.pushed <+: p.accepted
  doneOnce : p.doneCloses ≤ 1

/-- Whether no event of the pipeline is on its way when it is marked as stopped. -/
def eventsAwait : TrackStep → Bool
  | .endMark => p.failEmits.isEmpty && p.forwards.all fun stage => !stage.emitting
  | _ => true

/-! ## The invariant -/

/-- The session has every frame that the pump took. -/
def Settled : Prop :=
  (p.session = none → p.taken = [] ∧ p.sessions = []) ∧
    ∀ index, p.session = some index →
      ∃ session, p.sessions[index]? = some session ∧ session.pushed = p.taken

/-- What a pump has in its hand is the last frame that was taken, and the session has all others. -/
def InHand : PumpStage → Prop
  | .top => p.Settled
  | .create frame => p.session = none ∧ p.sessions = [] ∧ p.taken = [frame]
  | .created frame index => p.session = none ∧ p.taken = [frame] ∧
      ∃ session, p.sessions[index]? = some session ∧ session.pushed = []
  | .push frame index => p.session = some index ∧
      ∃ session, p.sessions[index]? = some session ∧ session.pushed ++ [frame] = p.taken

/-- The invariant of a pipeline. -/
structure Orderly : Prop where
  -- One pump at most, and only while the pipeline says so.
  goroutines : p.pumpGoroutines ≤ if p.pumping then 1 else 0
  inHand : ∀ stage ∈ p.pumps, p.InHand stage
  idle : p.pumping = false → p.Settled
  -- Frames are taken in their order.
  taken : p.taken <+: p.accepted
  queued : p.hasEnded = false → p.taken ++ p.frames = p.accepted
  pushed : ∀ session ∈ p.sessions, session.pushed <+: p.taken
  -- Each session is closed, that of the pipeline, or that of a pump which has just created it.
  owned : ∀ (index : ℕ) (session : ProviderSession), p.sessions[index]? = some session →
    session.closed = true ∨ p.session = some index ∨ ∃ frame, .created frame index ∈ p.pumps
  closed : p.hasEnded = true → ∀ (index : ℕ) (session : ProviderSession), p.session = some index →
    p.sessions[index]? = some session → session.closed = true ∨ 0 < p.ended ∨
      p.failEmits ≠ [] ∨ p.failCloses ≠ []
  -- No event is on its way once the pipeline is marked.
  unsent : p.stopped = true → p.failEmits = [] ∧ ∀ stage ∈ p.forwards, stage.emitting = false
  silent : ∀ entry ∈ p.emitted, entry.2 = false
  doneOnce : p.doneCloses = if p.done then 1 else 0

variable {p} {p' : TrackPipeline}

/-! ## Closing -/

lemma countP_eraseIdx_add {α : Type} {l : List α} {q : α → Bool} {index : ℕ} {a : α}
    (h : l[index]? = some a) :
    (l.eraseIdx index).countP q + (if q a then 1 else 0) = l.countP q := by
  induction l generalizing index with
  | nil => cases h
  | cons b l ih =>
    cases index with
    | zero =>
      obtain rfl := Option.some.inj h
      rw [List.eraseIdx_cons_zero, List.countP_cons]
    | succ index =>
      rw [List.eraseIdx_cons_succ, List.countP_cons, List.countP_cons, Nat.add_right_comm,
        ih (by simpa using h)]

lemma getElem?_closeAt {closing index : ℕ} :
    (p.closeAt closing).sessions[index]? = (p.sessions[index]?).map fun session =>
      { session with closed := session.closed || decide (closing = index) } := by
  rw [closeAt]
  dsimp only
  rw [List.getElem?_modify]
  cases p.sessions[index]? with
  | none => rfl
  | some session =>
    by_cases hsame : closing = index
    · simp [hsame]
    · simp [hsame]

variable {session : ProviderSession}

lemma exists_of_closeAt {closing index : ℕ}
    (h : (p.closeAt closing).sessions[index]? = some session) :
    ∃ before, p.sessions[index]? = some before ∧ before.pushed = session.pushed ∧
      (before.closed = true → session.closed = true) ∧
        (closing = index → session.closed = true) := by
  rw [getElem?_closeAt] at h
  obtain ⟨before, hbefore, rfl⟩ := Option.map_eq_some_iff.mp h
  refine ⟨before, hbefore, rfl, fun hclosed => ?_, fun hsame => ?_⟩
  · simp [hclosed]
  · simp [hsame]

lemma exists_closeAt {closing index : ℕ} (h : p.sessions[index]? = some session) :
    ∃ after, (p.closeAt closing).sessions[index]? = some after ∧
      after.pushed = session.pushed := by
  rw [getElem?_closeAt, h]
  exact ⟨_, rfl, rfl⟩

lemma Settled.closeAt (h : p.Settled) {closing : ℕ} : (p.closeAt closing).Settled := by
  refine ⟨fun hnone => ?_, fun index hindex => ?_⟩
  · obtain ⟨htaken, hsessions⟩ := h.1 hnone
    refine ⟨htaken, ?_⟩
    show p.sessions.modify _ _ = []
    rw [hsessions, List.modify_nil]
  · obtain ⟨session, hsession, hpushed⟩ := h.2 index hindex
    obtain ⟨after, hafter, hkept⟩ := exists_closeAt hsession
    exact ⟨after, hafter, hkept.trans hpushed⟩

lemma InHand.closeAt {stage : PumpStage} (h : p.InHand stage) {closing : ℕ} :
    (p.closeAt closing).InHand stage := by
  cases stage with
  | top => exact Settled.closeAt h
  | create frame =>
    refine ⟨h.1, ?_, h.2.2⟩
    show p.sessions.modify _ _ = []
    rw [h.2.1, List.modify_nil]
  | created frame index =>
    obtain ⟨hnone, htaken, session, hsession, hpushed⟩ := h
    obtain ⟨after, hafter, hkept⟩ := exists_closeAt hsession
    exact ⟨hnone, htaken, after, hafter, hkept.trans hpushed⟩
  | push frame index =>
    obtain ⟨hsome, session, hsession, hpushed⟩ := h
    obtain ⟨after, hafter, hkept⟩ := exists_closeAt hsession
    exact ⟨hsome, after, hafter, hkept ▸ hpushed⟩

namespace Orderly

lemma closeAt (h : p.Orderly) {closing : ℕ} : (p.closeAt closing).Orderly :=
  { goroutines := h.goroutines
    inHand := fun stage hstage => (h.inHand stage hstage).closeAt
    idle := fun hidle => (h.idle hidle).closeAt
    taken := h.taken
    queued := h.queued
    pushed := fun session hmem => by
      obtain ⟨index, hindex⟩ := List.getElem?_of_mem hmem
      obtain ⟨before, hbefore, hpushed, -⟩ := exists_of_closeAt hindex
      exact hpushed ▸ h.pushed before (List.mem_of_getElem? hbefore)
    owned := fun index session hindex => by
      obtain ⟨before, hbefore, -, hclosed, -⟩ := exists_of_closeAt hindex
      exact (h.owned index before hbefore).imp_left hclosed
    closed := fun hover index session hsession hindex => by
      obtain ⟨before, hbefore, -, hclosed, -⟩ := exists_of_closeAt hindex
      exact (h.closed hover index before hsession hbefore).imp_left hclosed
    unsent := h.unsent
    silent := h.silent
    doneOnce := h.doneOnce }

lemma closeDone (h : p.Orderly) : p.closeDone.Orderly := by
  rw [TrackPipeline.closeDone]
  split
  · exact h
  next hdone =>
    refine { h with doneOnce := ?_ }
    show p.doneCloses + 1 = 1
    rw [h.doneOnce, if_neg hdone]

lemma closeSession (h : p.Orderly) : p.closeSession.Orderly := by
  rw [TrackPipeline.closeSession]
  cases p.session with
  | none => exact h
  | some index => exact h.closeAt

/-! ## The steps of `AcceptAudio`, `endTrack` and `failTrack` -/

lemma stopped_of_hasEnded (h : p.hasEnded = false) : p.stopped = false := by
  rw [hasEnded, Bool.or_eq_false_iff] at h
  exact h.1

lemma accept (h : p.Orderly) {frame : AudioFrame} : (p.accept frame).Orderly := by
  rw [TrackPipeline.accept]
  split
  · exact h
  next hover =>
    have hnot : p.hasEnded = false := Bool.eq_false_of_not_eq_true hover
    split
    · -- The call of `failTrack` does not come from the pump.
      refine { h with goroutines := ?_ }
      have hgoroutines := h.goroutines
      simp only [pumpGoroutines, List.countP_append, List.countP_singleton] at hgoroutines ⊢
      simpa using hgoroutines
    · have hgoroutines := h.goroutines
      refine
        { h with
          goroutines := ?_
          inHand := fun stage hstage => ?_
          idle := fun hidle => absurd hidle Bool.true_eq_false.mp
          taken := h.taken.trans (List.prefix_append _ _)
          queued := fun _ => ?_
          owned := fun index session hindex => ?_ }
      · simp only [pumpGoroutines] at hgoroutines ⊢
        cases hpumping : p.pumping with
        | true => simpa [hpumping] using hgoroutines
        | false =>
          rw [hpumping, if_neg Bool.false_ne_true] at hgoroutines
          simp only [if_neg Bool.false_ne_true, List.length_append, List.length_singleton, if_pos]
          omega
      · change stage ∈ (if p.pumping then p.pumps else p.pumps ++ [.top]) at hstage
        split at hstage
        · exact h.inHand stage hstage
        next hidle =>
          rcases List.mem_append.mp hstage with hstage | hstage
          · exact h.inHand stage hstage
          · rw [List.mem_singleton.mp hstage]
            exact h.idle (Bool.eq_false_of_not_eq_true hidle)
      · show p.taken ++ (p.frames ++ [frame]) = p.accepted ++ [frame]
        rw [← List.append_assoc, h.queued hnot]
      · refine (h.owned index session hindex).imp_right (Or.imp_right fun ⟨held, hheld⟩ => ?_)
        refine ⟨held, ?_⟩
        show _ ∈ (if p.pumping then p.pumps else p.pumps ++ [.top])
        split
        · exact hheld
        · exact List.mem_append_left _ hheld

lemma endMark (h : p.Orderly) (hguard : p.eventsAwait .endMark = true)
    (hnext : p.next? .endMark = some p') : p'.Orderly := by
  rw [next?] at hnext
  split at hnext
  · cases hnext
  · obtain rfl := Option.some.inj hnext
    rw [eventsAwait, Bool.and_eq_true, List.isEmpty_iff, List.all_eq_true] at hguard
    refine
      { h with
        queued := fun hover => ?_
        closed := fun _ _ _ _ _ => Or.inr (Or.inl (Nat.succ_pos _))
        unsent := fun _ => ⟨hguard.1, fun stage hstage => by simpa using hguard.2 stage hstage⟩ }
    rw [hasEnded] at hover
    exact absurd hover (by simp)

variable {index : ℕ}

lemma closed_closeSession {session : ProviderSession}
    (hsession : p.closeSession.session = some index)
    (hindex : p.closeSession.sessions[index]? = some session) : session.closed = true := by
  rw [TrackPipeline.closeSession] at hsession hindex
  cases hown : p.session with
  | none =>
    rw [hown] at hsession
    exact absurd (hown.symm.trans hsession) (Option.some_ne_none index).symm
  | some own =>
    rw [hown] at hsession hindex
    obtain ⟨before, -, -, -, hclosed⟩ := exists_of_closeAt hindex
    exact hclosed (Option.some.inj (hown.symm.trans hsession))

lemma endClose (h : p.Orderly) (hnext : p.next? .endClose = some p') : p'.Orderly := by
  rw [next?] at hnext
  split at hnext
  · cases hnext
  · obtain rfl := Option.some.inj hnext
    exact { h.closeDone.closeSession with
      closed := fun _ _ _ hsession hindex => Or.inl (closed_closeSession hsession hindex) }

lemma failMark (h : p.Orderly) (hnext : p.next? (.failMark index) = some p') : p'.Orderly := by
  obtain ⟨call, hcall, rfl⟩ := Option.map_eq_some_iff.mp hnext
  have hgoroutines := h.goroutines
  have hcount := countP_eraseIdx_add (q := (·.fromPump)) hcall
  rw [TrackPipeline.failMark]
  split
  · refine { h with goroutines := ?_ }
    simp only [pumpGoroutines] at hgoroutines ⊢
    omega
  next hover =>
    have hstopped := stopped_of_hasEnded (Bool.eq_false_of_not_eq_true hover)
    refine
      { h with
        goroutines := ?_
        queued := fun hnot => ?_
        closed := fun _ _ _ _ _ => Or.inr (Or.inr (Or.inl (by simp)))
        unsent := fun hmarked => absurd (hstopped.symm.trans hmarked) Bool.false_ne_true }
    · simp only [pumpGoroutines, List.countP_append, List.countP_singleton] at hgoroutines ⊢
      omega
    · rw [hasEnded] at hnot
      exact absurd hnot (by simp)

lemma failEmit (h : p.Orderly) (hnext : p.next? (.failEmit index) = some p') : p'.Orderly := by
  obtain ⟨call, hcall, rfl⟩ := Option.map_eq_some_iff.mp hnext
  have hgoroutines := h.goroutines
  have hcount := countP_eraseIdx_add (q := (·.fromPump)) hcall
  -- The mark would not have been set before the event is emitted.
  have hstopped : p.stopped = false := Bool.eq_false_of_not_eq_true fun hmarked => by
    rw [(h.unsent hmarked).1] at hcall
    cases hcall
  refine
    { h with
      goroutines := ?_
      closed := fun _ _ _ _ _ => Or.inr (Or.inr (Or.inr (by simp)))
      unsent := fun hmarked => absurd (hstopped.symm.trans hmarked) Bool.false_ne_true
      silent := fun entry hentry => ?_ }
  · simp only [pumpGoroutines, List.countP_append, List.countP_singleton] at hgoroutines ⊢
    omega
  · rcases List.mem_append.mp hentry with hentry | hentry
    · exact h.silent entry hentry
    · rw [List.mem_singleton.mp hentry]
      exact hstopped

lemma failClose (h : p.Orderly) (hnext : p.next? (.failClose index) = some p') : p'.Orderly := by
  obtain ⟨call, hcall, rfl⟩ := Option.map_eq_some_iff.mp hnext
  have hclose : ∀ {q : TrackPipeline}, q.closeDone.session = q.session ∧
      q.closeDone.sessions = q.sessions := by
    intro q
    rw [TrackPipeline.closeDone]
    split <;> exact ⟨rfl, rfl⟩
  have hcount := countP_eraseIdx_add (q := (·.fromPump)) hcall
  have hsame : p.closeSession.closeDone.pumpGoroutines = p.pumpGoroutines ∧
      p.closeSession.closeDone.pumping = p.pumping ∧
      p.closeSession.closeDone.failCloses = p.failCloses := by
    rw [TrackPipeline.closeDone, TrackPipeline.closeSession]
    cases p.session <;> split <;> exact ⟨rfl, rfl, rfl⟩
  refine
    { h.closeSession.closeDone with
      goroutines := ?_
      closed := fun _ _ _ hsession hindex => Or.inl ?_ }
  · have hgoroutines := h.closeSession.closeDone.goroutines
    simp only [pumpGoroutines, hsame.2.2] at hgoroutines ⊢
    omega
  · rw [hclose.1] at hsession
    rw [hclose.2] at hindex
    exact closed_closeSession hsession hindex

/-! ## The steps of the pump -/

section

variable (h : p.Orderly)
include h

lemma pump_eq {stage : PumpStage} (hstage : p.pumps[index]? = some stage) :
    index = 0 ∧ p.pumps = [stage] ∧ p.pumping = true := by
  have hgoroutines := h.goroutines
  rw [pumpGoroutines] at hgoroutines
  match hpumps : p.pumps with
  | [] => rw [hpumps] at hstage; cases hstage
  | [only] =>
    rw [hpumps] at hstage hgoroutines
    have hzero : index = 0 := by
      have := (List.getElem?_eq_some_iff.mp hstage).1
      simpa using this
    subst hzero
    obtain rfl := Option.some.inj hstage
    refine ⟨rfl, rfl, ?_⟩
    by_contra hidle
    rw [if_neg hidle, List.length_singleton] at hgoroutines
    omega
  | first :: second :: rest =>
    rw [hpumps] at hgoroutines
    simp only [List.length_cons] at hgoroutines
    split at hgoroutines <;> omega

lemma goroutines_erase {stage : PumpStage} (hstage : p.pumps[index]? = some stage) :
    (p.pumps.eraseIdx index).length + p.failCalls.countP (·.fromPump) +
      p.failEmits.countP (·.fromPump) + p.failCloses.countP (·.fromPump) = 0 := by
  obtain ⟨rfl, hpumps, hpumping⟩ := h.pump_eq hstage
  have hgoroutines := h.goroutines
  rw [pumpGoroutines, hpumps, hpumping, if_pos rfl, List.length_singleton] at hgoroutines
  rw [hpumps, List.eraseIdx_cons_zero, List.length_nil]
  omega

lemma pumpTake (hnext : p.next? (.pumpTake index) = some p') : p'.Orderly := by
  obtain ⟨hstage, rfl⟩ := Option.of_guarded hnext
  obtain ⟨rfl, hpumps, hpumping⟩ := h.pump_eq hstage
  have hgone := h.goroutines_erase hstage
  have hsettled : p.Settled := h.inHand .top (hpumps ▸ List.mem_singleton_self _)
  have hnone : ∀ {frame own}, PumpStage.created frame own ∉ p.pumps := by simp [hpumps]
  rw [TrackPipeline.pumpTake]
  split
  · refine
      { h with
        goroutines := hgone.le.trans (Nat.zero_le _)
        inHand := fun stage hmem => h.inHand stage (List.mem_of_mem_eraseIdx hmem)
        owned := fun own session hown => ?_ }
    exact (h.owned own session hown).imp_right (Or.imp_right fun hheld => absurd hheld.choose_spec
      hnone)
  next hover =>
    have hqueued := h.queued (Bool.eq_false_of_not_eq_true hover)
    split
    next hframes =>
      refine
        { h with
          goroutines := hgone.le
          inHand := fun stage hmem => h.inHand stage (List.mem_of_mem_eraseIdx hmem)
          idle := fun _ => hsettled
          owned := fun own session hown => ?_ }
      exact (h.owned own session hown).imp_right (Or.imp_right fun hheld =>
        absurd hheld.choose_spec hnone)
    next frame rest hframes =>
      rw [hframes] at hqueued
      refine
        { h with
          goroutines := ?_
          inHand := fun stage hmem => ?_
          idle := fun hidle => absurd (hpumping.symm.trans hidle) Bool.true_eq_false.mp
          taken := ⟨rest, by rw [← hqueued, List.append_assoc]; rfl⟩
          queued := fun _ => by rw [← hqueued]; exact List.append_assoc _ _ _
          pushed := fun session hmem => (h.pushed session hmem).trans (List.prefix_append _ _)
          owned := fun own session hown => ?_ }
      · have hgoroutines := h.goroutines
        simpa only [pumpGoroutines, List.length_set] using hgoroutines
      · rw [hpumps, List.set_cons_zero, List.mem_singleton] at hmem
        rw [hmem]
        rcases Option.eq_none_or_eq_some p.session with hown | ⟨own, hown⟩
        · obtain ⟨htaken, hsessions⟩ := hsettled.1 hown
          have hone : p.taken ++ [frame] = [frame] := by rw [htaken, List.nil_append]
          simp only [hown, Option.elim_none]
          exact ⟨rfl, hsessions, hone⟩
        · obtain ⟨session, hsession, hpushed⟩ := hsettled.2 own hown
          simp only [hown, Option.elim_some]
          exact ⟨rfl, session, hsession, by rw [hpushed]⟩
      · exact (h.owned own session hown).imp_right (Or.imp_right fun hheld =>
          absurd hheld.choose_spec hnone)

variable {failure : Option SttError}

lemma pumpCreate (hnext : p.next? (.pumpCreate index failure) = some p') : p'.Orderly := by
  rw [next?] at hnext
  split at hnext
  next frame hstage =>
    obtain rfl := Option.some.inj hnext
    obtain ⟨rfl, hpumps, hpumping⟩ := h.pump_eq hstage
    have hgone := h.goroutines_erase hstage
    obtain ⟨hown, hsessions, htaken⟩ := h.inHand (.create frame)
      (hpumps ▸ List.mem_singleton_self _)
    cases failure with
    | some error =>
      refine
        { h with
          goroutines := ?_
          inHand := fun stage hmem => h.inHand stage (List.mem_of_mem_eraseIdx hmem)
          owned := fun own session hindex => ?_ }
      · show (p.pumps.eraseIdx 0).length + (p.failCalls ++ [(⟨error, true⟩ : FailCall)]).countP _ +
          p.failEmits.countP _ + p.failCloses.countP _ ≤ if p.pumping then 1 else 0
        rw [hpumping, if_pos rfl, List.countP_append, List.countP_singleton, if_pos rfl]
        omega
      · change p.sessions[own]? = some session at hindex
        rw [hsessions] at hindex
        cases hindex
    | none =>
      have hlength : p.sessions.length = 0 := by rw [hsessions]; rfl
      refine
        { h with
          goroutines := ?_
          inHand := fun stage hmem => ?_
          idle := fun hidle => absurd (hpumping.symm.trans hidle) Bool.true_eq_false.mp
          pushed := fun session hmem => ?_
          owned := fun own session hindex => ?_
          closed := fun _ own _ hsession => absurd (hown.symm.trans hsession)
            (Option.some_ne_none own).symm }
      · show (p.pumps.set 0 _).length + _ + _ + _ ≤ _
        rw [List.length_set]
        exact h.goroutines
      · change stage ∈ p.pumps.set 0 (.created frame p.sessions.length) at hmem
        rw [hpumps, List.set_cons_zero, List.mem_singleton] at hmem
        rw [hmem, hlength]
        refine ⟨hown, htaken, {}, ?_, rfl⟩
        show (p.sessions ++ [({} : ProviderSession)])[0]? = _
        rw [hsessions]
        rfl
      · change session ∈ p.sessions ++ [({} : ProviderSession)] at hmem
        rw [hsessions, List.nil_append, List.mem_singleton] at hmem
        rw [hmem]
        exact List.nil_prefix
      · change (p.sessions ++ [({} : ProviderSession)])[own]? = some session at hindex
        have hzero : own = 0 := by
          have := (List.getElem?_eq_some_iff.mp hindex).1
          rw [hsessions] at this
          simpa using this
        refine Or.inr (Or.inr ⟨frame, ?_⟩)
        show _ ∈ p.pumps.set 0 (.created frame p.sessions.length)
        rw [hpumps, hlength, hzero]
        exact List.mem_singleton_self _
  next => cases hnext

lemma pumpCheck (hnext : p.next? (.pumpCheck index) = some p') : p'.Orderly := by
  rw [next?] at hnext
  split at hnext
  next frame created hstage =>
    obtain rfl := Option.some.inj hnext
    obtain ⟨rfl, hpumps, hpumping⟩ := h.pump_eq hstage
    have hgone := h.goroutines_erase hstage
    obtain ⟨hown, htaken, session, hsession, hpushed⟩ := h.inHand (.created frame created)
      (hpumps ▸ List.mem_singleton_self _)
    -- A session that only the pump held is the one it created.
    have hheld : ∀ {held own}, PumpStage.created held own ∈ p.pumps → own = created := by
      intro held own hmem
      rw [hpumps, List.mem_singleton] at hmem
      exact (PumpStage.created.inj hmem).2
    rw [TrackPipeline.pumpCheck]
    split
    · refine
        { @Orderly.closeAt p h created with
          goroutines := hgone.le.trans (Nat.zero_le _)
          inHand := fun stage hmem => ?_
          owned := fun own after hindex => ?_ }
      · exact InHand.closeAt (h.inHand stage (List.mem_of_mem_eraseIdx hmem))
      · obtain ⟨before, hbefore, -, hkept, hclosed⟩ := exists_of_closeAt hindex
        rcases h.owned own before hbefore with hdone | hsome | ⟨held, hmem⟩
        · exact Or.inl (hkept hdone)
        · exact Or.inr (Or.inl hsome)
        · exact Or.inl (hclosed (hheld hmem).symm)
    next hover =>
      have hnot := Bool.eq_false_of_not_eq_true hover
      refine
        { h with
          goroutines := ?_
          inHand := fun stage hmem => ?_
          idle := fun hidle => absurd (hpumping.symm.trans hidle) Bool.true_eq_false.mp
          owned := fun own after hindex => ?_
          closed := fun hyes => absurd (hnot.symm.trans hyes) Bool.false_ne_true
          unsent := fun hmarked => absurd ((stopped_of_hasEnded hnot).symm.trans hmarked)
            Bool.false_ne_true }
      · have hgoroutines := h.goroutines
        simpa only [pumpGoroutines, List.length_set] using hgoroutines
      · rw [hpumps, List.set_cons_zero, List.mem_singleton] at hmem
        rw [hmem]
        exact ⟨rfl, session, hsession, by rw [hpushed]; exact htaken.symm⟩
      · rcases h.owned own after hindex with hdone | hsome | ⟨held, hmem⟩
        · exact Or.inl hdone
        · exact absurd (hown.symm.trans hsome) (Option.some_ne_none own).symm
        · exact Or.inr (Or.inl (congrArg some (hheld hmem).symm))
  next => cases hnext

/-- Pushing a frame keeps the invariant. -/
lemma pumpPush (hnext : p.next? (.pumpPush index failure) = some p') : p'.Orderly := by
  rw [next?] at hnext
  split at hnext
  next frame own hstage =>
    obtain rfl := Option.some.inj hnext
    obtain ⟨rfl, hpumps, hpumping⟩ := h.pump_eq hstage
    have hgone := h.goroutines_erase hstage
    obtain ⟨hown, session, hsession, hpushed⟩ := h.inHand (.push frame own)
      (hpumps ▸ List.mem_singleton_self _)
    have hnone : ∀ {held other}, PumpStage.created held other ∉ p.pumps := by simp [hpumps]
    -- What a session was before the frame was pushed.
    have hbefore : ∀ {other after}, (p.pumpPush 0 frame own failure).sessions[other]? =
        some after → ∃ before, p.sessions[other]? = some before ∧ before.closed = after.closed ∧
          after.pushed = if own = other then before.pushed ++ [frame] else before.pushed := by
      intro other after hother
      change (p.sessions.modify own _)[other]? = some after at hother
      rw [List.getElem?_modify] at hother
      obtain ⟨before, hbefore, rfl⟩ := Option.map_eq_some_iff.mp hother
      refine ⟨before, hbefore, ?_⟩
      by_cases hsame : own = other
      · rw [if_pos hsame, if_pos hsame]
        exact ⟨rfl, rfl⟩
      · rw [if_neg hsame, if_neg hsame]
        exact ⟨rfl, rfl⟩
    refine
      { h with
        goroutines := ?_
        inHand := fun stage hmem => ?_
        idle := fun hidle => absurd (hpumping.symm.trans hidle) Bool.true_eq_false.mp
        pushed := fun after hmem => ?_
        owned := fun other after hindex => ?_
        closed := fun hover other after hother hindex => ?_ }
    · have hgoroutines := h.goroutines
      cases failure with
      | none =>
        simpa [TrackPipeline.pumpPush, pumpGoroutines] using hgoroutines
      | some error =>
        show (p.pumps.eraseIdx 0).length + (p.failCalls ++ [(⟨error, true⟩ : FailCall)]).countP _ +
          p.failEmits.countP _ + p.failCloses.countP _ ≤ if p.pumping then 1 else 0
        rw [hpumping, if_pos rfl, List.countP_append, List.countP_singleton, if_pos rfl]
        omega
    · cases failure with
      | none =>
        change stage ∈ p.pumps.set 0 .top at hmem
        rw [hpumps, List.set_cons_zero, List.mem_singleton] at hmem
        rw [hmem]
        refine ⟨fun hempty => absurd (hown.symm.trans hempty) (Option.some_ne_none own),
          fun other hother => ?_⟩
        obtain rfl := Option.some.inj (hown.symm.trans hother)
        refine ⟨{ session with pushed := session.pushed ++ [frame] }, ?_, hpushed⟩
        show (p.sessions.modify own _)[own]? = _
        rw [List.getElem?_modify_eq, hsession]
        rfl
      | some error =>
        change stage ∈ p.pumps.eraseIdx 0 at hmem
        rw [hpumps, List.eraseIdx_cons_zero] at hmem
        exact absurd hmem List.not_mem_nil
    · obtain ⟨other, hother⟩ := List.getElem?_of_mem hmem
      obtain ⟨before, hold, -, hafter⟩ := hbefore hother
      rw [hafter]
      split
      next hsame =>
        subst hsame
        obtain rfl := Option.some.inj (hsession.symm.trans hold)
        exact hpushed ▸ List.prefix_refl _
      next => exact h.pushed before (List.mem_of_getElem? hold)
    · obtain ⟨before, hold, hkept, -⟩ := hbefore hindex
      rw [← hkept]
      exact (h.owned other before hold).imp_right (Or.imp_right fun hheld =>
        absurd hheld.choose_spec hnone)
    · obtain ⟨before, hold, hkept, -⟩ := hbefore hindex
      rw [← hkept]
      refine (h.closed hover other before hother hold).imp_right (Or.imp_right ?_)
      exact id
  next => cases hnext

end

/-! ## The steps of `forwardEvents` -/

section

variable (h : p.Orderly)
include h

lemma forwards {stages : List ForwardStage}
    (hquiet : p.stopped = true → ∀ stage ∈ stages, stage ∈ p.forwards ∨ stage.emitting = false) :
    ({ p with forwards := stages } : TrackPipeline).Orderly := by
  refine { h with unsent := fun hmarked => ⟨(h.unsent hmarked).1, fun stage hstage => ?_⟩ }
  rcases hquiet hmarked stage hstage with hold | hnothing
  · exact (h.unsent hmarked).2 stage hold
  · exact hnothing

lemma receive {event : SttEvent}
    (hnext : p.next? (.receive index event) = some p') : p'.Orderly := by
  rw [next?] at hnext
  split at hnext
  · obtain rfl := Option.some.inj hnext
    refine h.forwards fun _ stage hstage => ?_
    rcases List.mem_or_eq_of_mem_set hstage with hold | rfl
    · exact Or.inl hold
    · exact Or.inr rfl
  · cases hnext

lemma eventsClosed (hnext : p.next? (.eventsClosed index) = some p') : p'.Orderly := by
  rw [next?] at hnext
  split at hnext
  · obtain rfl := Option.some.inj hnext
    exact h.forwards fun _ stage hstage => Or.inl (List.mem_of_mem_eraseIdx hstage)
  · cases hnext

lemma forwardCheck (hnext : p.next? (.forwardCheck index) = some p') : p'.Orderly := by
  rw [next?] at hnext
  split at hnext
  · obtain rfl := Option.some.inj hnext
    refine h.forwards fun hmarked stage hstage => ?_
    rw [if_pos hmarked] at hstage
    exact Or.inl (List.mem_of_mem_eraseIdx hstage)
  · cases hnext

lemma forwardEmit (hnext : p.next? (.forwardEmit index) = some p') : p'.Orderly := by
  rw [next?] at hnext
  split at hnext
  next session event hstage =>
    obtain rfl := Option.some.inj hnext
    -- The pipeline is not marked: no event would be on its way.
    have hstopped : p.stopped = false := Bool.eq_false_of_not_eq_true fun hmarked =>
      absurd ((h.unsent hmarked).2 _ (List.mem_of_getElem? hstage)) Bool.true_eq_false.mp
    have hforwards : ({ p with
        forwards := p.forwards.set index (.wait session) } : TrackPipeline).Orderly :=
      h.forwards fun hmarked => absurd (hstopped.symm.trans hmarked) Bool.false_ne_true
    refine { hforwards with silent := fun entry hentry => ?_ }
    rcases List.mem_append.mp hentry with hentry | hentry
    · exact h.silent entry hentry
    · rw [List.mem_singleton.mp hentry]
      exact hstopped
  · cases hnext

end

/-! ## All steps -/

lemma new (source : AudioSource) : ({ source } : TrackPipeline).Orderly :=
  { goroutines := Nat.le_refl 0
    inHand := fun _ hmem => absurd hmem List.not_mem_nil
    idle := fun _ => ⟨fun _ => ⟨rfl, rfl⟩, fun _ hsession => by cases hsession⟩
    taken := List.nil_prefix
    queued := fun _ => rfl
    pushed := fun _ hmem => absurd hmem List.not_mem_nil
    owned := fun _ _ hindex => by cases hindex
    closed := fun hover => by cases hover
    unsent := fun hmarked => by cases hmarked
    silent := fun _ hmem => absurd hmem List.not_mem_nil
    doneOnce := rfl }

lemma of_next (h : p.Orderly) {step : TrackStep} (hguard : p.eventsAwait step = true)
    (hnext : p.next? step = some p') : p'.Orderly := by
  cases step with
  | endMark => exact h.endMark hguard hnext
  | endClose => exact h.endClose hnext
  | failMark => exact h.failMark hnext
  | failEmit => exact h.failEmit hnext
  | failClose => exact h.failClose hnext
  | pumpTake => exact h.pumpTake hnext
  | pumpCreate => exact h.pumpCreate hnext
  | pumpCheck => exact h.pumpCheck hnext
  | pumpPush => exact h.pumpPush hnext
  | receive => exact h.receive hnext
  | eventsClosed => exact h.eventsClosed hnext
  | forwardCheck => exact h.forwardCheck hnext
  | forwardEmit => exact h.forwardEmit hnext

lemma endsWithTrack (h : p.Orderly) {closed : Bool}
    (hended : closed = true → p.hasEnded = true ∨ 0 < p.ending) : p.EndsWithTrack closed :=
  { sessionsClosed := fun hover index session hindex => by
      rcases h.owned index session hindex with hdone | hown
      · exact Or.inl hdone
      · by_cases hending : 0 < p.ending
        · exact Or.inr (Or.inr (Or.inr ⟨hending, hown⟩))
        · have hyes : p.hasEnded = true := by
            rcases Bool.or_eq_true_iff.mp hover with hyes | hclosed
            · exact hyes
            · exact (hended hclosed).resolve_right hending
          rcases hown with hsession | hheld
          · exact (h.closed hyes index session hsession hindex).imp_right fun hwill =>
              Or.inl ⟨hsession, hwill⟩
          · exact Or.inr (Or.inr (Or.inl ⟨hyes, hheld⟩))
    silent := h.silent
    onePump := h.goroutines.trans (by split <;> omega)
    inOrder := fun session hmem => (h.pushed session hmem).trans h.taken
    doneOnce := by rw [h.doneOnce]; split <;> omega }

end Orderly

end TrackPipeline

end Free4Chat
