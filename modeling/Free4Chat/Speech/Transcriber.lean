import Free4Chat.Speech.TrackPipeline

/-!
# The Transcriber

The Runtime hands the audio of all tracks to one Transcriber, which has a pipeline for each track. A
pipeline ends when its track does or when a new track takes its place, and all of them end when the
Transcriber is closed. A session of the provider that nobody closes keeps listening and is paid for.

The source breaks this in two places. `Close` empties the table of the tracks before it ends them
one by one, and as `endTrack` looks them up in this table, it ends none of them. And an event that
`forwardEvents` or `failTrack` has checked is emitted even if the track is ended in between.

* `TranscriberRun`: the pipelines, the table of the tracks, and the calls of `Close`.
* `TranscriberRun.next?`: one step of the Transcriber or of a goroutine of a pipeline.
* `TranscriberRun.PipelinesEnd`: what should hold in every state that is reached.
* `pipelinesEnd_of_reachable`: it does while no track is open when the Transcriber is closed, and no
  event is on its way when a track is ended.
-/

namespace Free4Chat

/-! ## State -/

/-- The key of a track in the table. -/
def trackKey (source : AudioSource) : String :=
  source.participantID ++ ":" ++ source.trackName

/-- The Transcriber, and all pipelines it made. -/
structure TranscriberRun where
  -- The open tracks by their keys, with the places of their pipelines.
  tracks : KeyedMap (String × ℕ) := .empty
  -- All pipelines so far.
  pipelines : List TrackPipeline := []
  closed : Bool := false
  -- The calls of `Close` at work, by the keys they have still to end.
  closing : List (List String) := []
  -- A call of `Close` returned.
  closeReturned : Bool := false

/-- A step of the Transcriber. -/
inductive TranscriberStep where
  | acceptAudio (source : AudioSource) (frame : AudioFrame)
  | trackStarted (source : AudioSource)
  | trackEnded (source : AudioSource)
  -- `Close` takes the tracks, ends them one by one, and returns.
  | close
  | closeNext (index : ℕ)
  | closeReturns (index : ℕ)
  -- A goroutine of a pipeline.
  | pipeline (index : ℕ) (step : TrackStep)
deriving DecidableEq

namespace TranscriberRun

variable (t : TranscriberRun)

/-! ## Steps -/

/-- Queue a frame in the pipeline of its track. -/
def acceptAudio (source : AudioSource) (frame : AudioFrame) : TranscriberRun :=
  if t.closed then t
  else match t.tracks.get? (trackKey source) with
    | some (_, index) =>
      { t with pipelines := t.pipelines.modify index fun pipeline => pipeline.accept frame }
    | none =>
      { t with
        tracks := t.tracks.set (trackKey source, t.pipelines.length)
        pipelines := t.pipelines ++ [({ source } : TrackPipeline).accept frame] }

/-- Take a track out of the table, if it is there. The call then marks its pipeline, and closes what
it used. -/
def endTrack (key : String) : TranscriberRun :=
  match t.tracks.get? key with
  | none => t
  | some (_, index) =>
    { t with
      tracks := t.tracks.erase key
      pipelines := t.pipelines.modify index fun pipeline =>
        { pipeline with ending := pipeline.ending + 1 } }

/-- The tracks whose pipelines `Close` ends. -/
def openKeys : List String :=
  t.tracks.values.filterMap fun entry =>
    t.pipelines[entry.2]?.map fun pipeline => trackKey pipeline.source

/-- The critical section of `Close`. -/
def close : TranscriberRun :=
  if t.closed then { t with closeReturned := true }
  else { t with closed := true, closing := t.closing ++ [t.openKeys], tracks := .empty }

/-- One step. -/
def next? : TranscriberStep → Option TranscriberRun
  | .acceptAudio source frame => some (t.acceptAudio source frame)
  | .trackStarted source => some (t.endTrack (trackKey source))
  | .trackEnded source => some (t.endTrack (trackKey source))
  | .close => some t.close
  | .closeNext index =>
    -- The table is empty by now, so that the call has nothing to mark or to close.
    match t.closing[index]? with
    | some (key :: keys) => some { t.endTrack key with closing := t.closing.set index keys }
    | _ => none
  | .closeReturns index =>
    if t.closing[index]? = some [] then
      some { t with closing := t.closing.eraseIdx index, closeReturned := true }
    else none
  | .pipeline index step =>
    t.pipelines[index]?.bind fun pipeline => (pipeline.next? step).map fun pipeline' =>
      { t with pipelines := t.pipelines.set index pipeline' }

/-! ## What should hold -/

/-- Every pipeline ends with its track, and none is left when the Transcriber was closed. -/
structure PipelinesEnd : Prop where
  endsWithTrack : ∀ pipeline ∈ t.pipelines, pipeline.EndsWithTrack t.closed
  stopped : t.closeReturned = true → ∀ pipeline ∈ t.pipelines, pipeline.stopped = true

/-- Whether no call has still to mark a pipeline that it took out. -/
def marked : Bool := t.pipelines.all fun pipeline => pipeline.ending = 0

/-- Whether all tracks were ended before the Transcriber is closed, and no event is on its way when
a pipeline is marked. -/
def endsFirst : TranscriberStep → Bool
  | .close => if t.closed then t.marked else t.tracks.values.isEmpty
  | .closeReturns _ => t.marked
  | .pipeline index step => t.pipelines[index]?.all fun pipeline => pipeline.eventsAwait step
  | _ => true

end TranscriberRun

/-- The Transcriber as a transition system. -/
def transcriberSystem : TransitionSystem TranscriberRun TranscriberStep where
  init t := t = {}
  step t step t' := t.next? step = some t'

/-! ## The marks of a pipeline -/

namespace TrackPipeline

variable {p p' : TrackPipeline}

lemma marks_closes : p.closeSession.stopped = p.stopped ∧ p.closeSession.ending = p.ending ∧
    p.closeDone.stopped = p.stopped ∧ p.closeDone.ending = p.ending := by
  rw [closeSession, closeDone]
  cases p.session <;> split <;> exact ⟨rfl, rfl, rfl, rfl⟩

lemma marks_accept {frame : AudioFrame} :
    (p.accept frame).stopped = p.stopped ∧ (p.accept frame).ending = p.ending := by
  rw [accept]
  split
  · exact ⟨rfl, rfl⟩
  · split <;> exact ⟨rfl, rfl⟩

lemma marks_of_next {step : TrackStep} (hnext : p.next? step = some p') :
    p'.stopped = true ∨ p'.stopped = p.stopped ∧ p'.ending = p.ending := by
  cases step with
  | endMark =>
    rw [next?] at hnext
    split at hnext
    · cases hnext
    · obtain rfl := Option.some.inj hnext
      exact Or.inl rfl
  | endClose =>
    rw [next?] at hnext
    split at hnext
    · cases hnext
    · obtain rfl := Option.some.inj hnext
      refine Or.inr ⟨?_, ?_⟩
      · exact (marks_closes.1).trans marks_closes.2.2.1
      · exact (marks_closes.2.1).trans marks_closes.2.2.2
  | failMark index =>
    obtain ⟨call, -, rfl⟩ := Option.map_eq_some_iff.mp hnext
    rw [failMark]
    split <;> exact Or.inr ⟨rfl, rfl⟩
  | failEmit index =>
    obtain ⟨call, -, rfl⟩ := Option.map_eq_some_iff.mp hnext
    exact Or.inr ⟨rfl, rfl⟩
  | failClose index =>
    obtain ⟨call, -, rfl⟩ := Option.map_eq_some_iff.mp hnext
    refine Or.inr ⟨?_, ?_⟩
    · exact (marks_closes.2.2.1).trans marks_closes.1
    · exact (marks_closes.2.2.2).trans marks_closes.2.1
  | pumpTake index =>
    rw [next?] at hnext
    split at hnext
    · obtain rfl := Option.some.inj hnext
      rw [pumpTake]
      split
      · exact Or.inr ⟨rfl, rfl⟩
      · split <;> exact Or.inr ⟨rfl, rfl⟩
    · cases hnext
  | pumpCreate index failure =>
    rw [next?] at hnext
    split at hnext
    · obtain rfl := Option.some.inj hnext
      cases failure <;> exact Or.inr ⟨rfl, rfl⟩
    · cases hnext
  | pumpCheck index =>
    rw [next?] at hnext
    split at hnext
    · obtain rfl := Option.some.inj hnext
      rw [pumpCheck]
      split <;> exact Or.inr ⟨rfl, rfl⟩
    · cases hnext
  | pumpPush index failure | receive index event | eventsClosed index | forwardCheck index
  | forwardEmit index =>
    rw [next?] at hnext
    split at hnext
    · obtain rfl := Option.some.inj hnext
      exact Or.inr ⟨rfl, rfl⟩
    · cases hnext

end TrackPipeline

namespace TranscriberRun

variable {t t' : TranscriberRun}

/-! ## The invariant -/

/-- The invariant of the Transcriber. -/
structure Linked (t : TranscriberRun) : Prop where
  orderly : ∀ pipeline ∈ t.pipelines, pipeline.Orderly
  -- A pipeline is marked, about to be, or in the table.
  registered : ∀ (index : ℕ) (pipeline : TrackPipeline), t.pipelines[index]? = some pipeline →
    pipeline.stopped = true ∨ 0 < pipeline.ending ∨ ∃ key, (key, index) ∈ t.tracks.values
  closed : t.closed = true → t.tracks.values = []
  calls : ∀ keys ∈ t.closing, t.closed = true
  returned : t.closeReturned = true →
    t.closed = true ∧ ∀ pipeline ∈ t.pipelines, pipeline.stopped = true

lemma Linked.stopped_of_marked (h : t.Linked) (hclosed : t.closed = true)
    (hmarked : t.marked = true) : ∀ pipeline ∈ t.pipelines, pipeline.stopped = true := by
  intro pipeline hmem
  obtain ⟨index, hindex⟩ := List.getElem?_of_mem hmem
  rcases h.registered index pipeline hindex with hstopped | hending | ⟨key, hkey⟩
  · exact hstopped
  · have := of_decide_eq_true (List.all_eq_true.mp hmarked pipeline hmem)
    omega
  · rw [h.closed hclosed] at hkey
    exact absurd hkey List.not_mem_nil

lemma closed_endTrack (key : String) : (t.endTrack key).closed = t.closed := by
  rw [endTrack]
  split <;> rfl

namespace Linked

section

variable (h : t.Linked)
include h

lemma orderly_modify {index : ℕ} {change : TrackPipeline → TrackPipeline}
    (hchange : ∀ pipeline : TrackPipeline, pipeline.Orderly → (change pipeline).Orderly) :
    ∀ pipeline ∈ t.pipelines.modify index change, pipeline.Orderly := by
  intro pipeline hmem
  obtain ⟨place, hplace⟩ := List.getElem?_of_mem hmem
  rw [List.getElem?_modify] at hplace
  obtain ⟨before, hbefore, rfl⟩ := Option.map_eq_some_iff.mp hplace
  have horderly := h.orderly before (List.mem_of_getElem? hbefore)
  split
  · exact hchange before horderly
  · exact horderly

lemma acceptAudio (source : AudioSource) (frame : AudioFrame) :
    (t.acceptAudio source frame).Linked := by
  rw [TranscriberRun.acceptAudio]
  split
  · exact h
  next hopen =>
    split
    next entry index hget =>
      refine
        { h with
          orderly := h.orderly_modify fun pipeline horderly => horderly.accept
          registered := fun place pipeline hplace => ?_
          returned := fun hreturned => absurd (h.returned hreturned).1 hopen }
      change (t.pipelines.modify index _)[place]? = some pipeline at hplace
      rw [List.getElem?_modify] at hplace
      obtain ⟨before, hbefore, rfl⟩ := Option.map_eq_some_iff.mp hplace
      have hregistered := h.registered place before hbefore
      split
      · rw [TrackPipeline.marks_accept.1, TrackPipeline.marks_accept.2]
        exact hregistered
      · exact hregistered
    next hnone =>
      refine
        { h with
          orderly := fun pipeline hmem => ?_
          registered := fun place pipeline hplace => ?_
          closed := fun hclosed => absurd hclosed hopen
          returned := fun hreturned => absurd (h.returned hreturned).1 hopen }
      · rcases List.mem_append.mp hmem with hmem | hmem
        · exact h.orderly pipeline hmem
        · rw [List.mem_singleton.mp hmem]
          exact (TrackPipeline.Orderly.new source).accept
      · -- The new pipeline is in the table under its place.
        rw [List.getElem?_append] at hplace
        split at hplace
        next =>
          refine (h.registered place pipeline hplace).imp_right (Or.imp_right ?_)
          rintro ⟨key, hkey⟩
          refine ⟨key, KeyedMap.mem_set.mpr (Or.inr ⟨hkey, fun hsame => ?_⟩)⟩
          exact KeyedMap.get?_eq_none_iff.mp hnone _ hkey hsame
        next hlength =>
          have hlast : place = t.pipelines.length := by
            have := (List.getElem?_eq_some_iff.mp hplace).1
            rw [List.length_singleton] at this
            omega
          exact Or.inr (Or.inr ⟨trackKey source, hlast ▸ KeyedMap.mem_set.mpr (Or.inl rfl)⟩)

lemma endTrack (key : String) : (t.endTrack key).Linked := by
  rw [TranscriberRun.endTrack]
  split
  · exact h
  next entry index hget =>
    have hmem := KeyedMap.mem_of_get? hget
    have hkey : entry = key := KeyedMap.key_of_get? hget
    have hopen : t.closed ≠ true := fun hclosed => by
      rw [h.closed hclosed] at hmem
      exact absurd hmem List.not_mem_nil
    refine
      { h with
        orderly := h.orderly_modify fun pipeline horderly => { horderly with }
        registered := fun place pipeline hplace => ?_
        closed := fun hclosed => absurd hclosed hopen
        returned := fun hreturned => absurd (h.returned hreturned).1 hopen }
    change (t.pipelines.modify index _)[place]? = some pipeline at hplace
    rw [List.getElem?_modify] at hplace
    obtain ⟨before, hbefore, rfl⟩ := Option.map_eq_some_iff.mp hplace
    split
    · exact Or.inr (Or.inl (Nat.succ_pos _))
    next hother =>
      refine (h.registered place before hbefore).imp_right (Or.imp_right ?_)
      rintro ⟨other, hmem'⟩
      refine ⟨other, KeyedMap.mem_erase.mpr ⟨hmem', fun hsame => hother ?_⟩⟩
      have heq := t.tracks.eq_of_key_eq hmem hmem' (hkey.trans hsame.symm)
      exact congrArg Prod.snd heq

lemma close (hguard : t.endsFirst .close = true) : t.close.Linked := by
  rw [endsFirst] at hguard
  rw [TranscriberRun.close]
  split
  next hclosed =>
    rw [if_pos hclosed] at hguard
    exact { h with returned := fun _ => ⟨hclosed, h.stopped_of_marked hclosed hguard⟩ }
  next hopen =>
    rw [if_neg hopen, List.isEmpty_iff] at hguard
    refine
      { h with
        registered := fun index pipeline hindex => ?_
        closed := fun _ => rfl
        calls := fun _ _ => rfl
        returned := fun hreturned => absurd (h.returned hreturned).1 hopen }
    have hregistered := h.registered index pipeline hindex
    rw [hguard] at hregistered
    exact hregistered

lemma pipeline {index : ℕ} {step : TrackStep} (hguard : t.endsFirst (.pipeline index step) = true)
    (hnext : t.next? (.pipeline index step) = some t') : t'.Linked := by
  obtain ⟨before, hbefore, hnext⟩ := Option.bind_eq_some_iff.mp hnext
  obtain ⟨after, hafter, rfl⟩ := Option.map_eq_some_iff.mp hnext
  have hmem := List.mem_of_getElem? hbefore
  rw [endsFirst, hbefore, Option.all_some] at hguard
  have hmarks := TrackPipeline.marks_of_next hafter
  refine
    { h with
      orderly := fun pipeline hpipeline => ?_
      registered := fun place pipeline hplace => ?_
      returned := fun hreturned => ⟨(h.returned hreturned).1, fun pipeline hpipeline => ?_⟩ }
  · rcases List.mem_or_eq_of_mem_set hpipeline with hold | rfl
    · exact h.orderly pipeline hold
    · exact (h.orderly before hmem).of_next hguard hafter
  · change (t.pipelines.set index after)[place]? = some pipeline at hplace
    by_cases hsame : index = place
    · subst hsame
      have hlength := (List.getElem?_eq_some_iff.mp hbefore).1
      rw [List.getElem?_set_self hlength] at hplace
      obtain rfl := Option.some.inj hplace
      rcases hmarks with hstopped | ⟨hstopped, hending⟩
      · exact Or.inl hstopped
      · rw [hstopped, hending]
        exact h.registered index before hbefore
    · rw [List.getElem?_set_ne hsame] at hplace
      exact h.registered place pipeline hplace
  · rcases List.mem_or_eq_of_mem_set hpipeline with hold | rfl
    · exact (h.returned hreturned).2 pipeline hold
    · rcases hmarks with hstopped | ⟨hstopped, -⟩
      · exact hstopped
      · exact hstopped.trans ((h.returned hreturned).2 before hmem)

lemma of_next {step : TranscriberStep} (hguard : t.endsFirst step = true)
    (hnext : t.next? step = some t') : t'.Linked := by
  cases step with
  | acceptAudio source frame =>
    obtain rfl := Option.some.inj hnext
    exact h.acceptAudio source frame
  | trackStarted source | trackEnded source =>
    obtain rfl := Option.some.inj hnext
    exact h.endTrack (trackKey source)
  | close =>
    obtain rfl := Option.some.inj hnext
    exact h.close hguard
  | closeNext index =>
    rw [next?] at hnext
    split at hnext
    next key keys hcall =>
      obtain rfl := Option.some.inj hnext
      have hcalled := h.calls _ (List.mem_of_getElem? hcall)
      exact { h.endTrack key with calls := fun _ _ => (closed_endTrack key).trans hcalled }
    · cases hnext
  | closeReturns index =>
    rw [next?] at hnext
    split at hnext
    next hcall =>
      obtain rfl := Option.some.inj hnext
      have hclosed : t.closed = true := h.calls [] (List.mem_of_getElem? hcall)
      exact
        { h with
          calls := fun _ _ => hclosed
          returned := fun _ => ⟨hclosed, h.stopped_of_marked hclosed hguard⟩ }
    · cases hnext
  | pipeline index step => exact h.pipeline hguard hnext

end

end Linked

lemma Linked.pipelinesEnd (h : t.Linked) : t.PipelinesEnd :=
  { endsWithTrack := fun pipeline hmem => (h.orderly pipeline hmem).endsWithTrack fun hclosed => by
      obtain ⟨index, hindex⟩ := List.getElem?_of_mem hmem
      rcases h.registered index pipeline hindex with hstopped | hending | ⟨key, hkey⟩
      · rw [TrackPipeline.hasEnded, hstopped]
        exact Or.inl rfl
      · exact Or.inr hending
      · rw [h.closed hclosed] at hkey
        exact absurd hkey List.not_mem_nil
    stopped := fun hreturned => (h.returned hreturned).2 }

end TranscriberRun

/-- As long as all tracks are ended before the Transcriber is closed, and no event is on its way
when a track is ended, the pipelines end with their tracks. -/
theorem pipelinesEnd_of_reachable {t : TranscriberRun}
    (h : transcriberSystem.ReachableWhen (fun t step => t.endsFirst step = true) t) :
    t.PipelinesEnd := by
  refine TranscriberRun.Linked.pipelinesEnd (h.invariant ?_ fun t step t' ht hguard hnext =>
    TranscriberRun.Linked.of_next ht hguard hnext)
  rintro t rfl
  exact
    { orderly := fun _ hmem => absurd hmem List.not_mem_nil
      registered := fun _ _ hindex => by cases hindex
      closed := fun hclosed => by cases hclosed
      calls := fun _ hmem => absurd hmem List.not_mem_nil
      returned := fun hreturned => by cases hreturned }

/-! ### One track -/

/-- The microphone of a Human. -/
def microphone : AudioSource where
  participantID := "ann"
  participantName := "Ann"
  trackName := "audio"

/-- A frame is queued, and the pump creates a session and pushes the frame. -/
def speakingSteps : List TranscriberStep :=
  [.acceptAudio microphone ⟨"opus", [1, 2]⟩, .pipeline 0 (.pumpTake 0),
    .pipeline 0 (.pumpCreate 0 none), .pipeline 0 (.pumpCheck 0), .pipeline 0 (.pumpPush 0 none)]

/-- The track is ended before the Transcriber is closed. -/
def endedSteps : List TranscriberStep :=
  speakingSteps ++
    [.trackEnded microphone, .pipeline 0 .endMark, .pipeline 0 .endClose, .close, .closeReturns 0]

/-- The Transcriber is closed while the track is open. -/
def closedSteps : List TranscriberStep :=
  speakingSteps ++ [.close, .closeNext 0, .closeReturns 0]

/-- When the track is ended first, its pipeline ends. -/
theorem pipelinesEnd_ended :
    ∃ t, TransitionSystem.runWhen? TranscriberRun.next? TranscriberRun.endsFirst {}
      endedSteps = some t ∧ t.PipelinesEnd := by
  have hrun : (TransitionSystem.runWhen? TranscriberRun.next? TranscriberRun.endsFirst {}
      endedSteps).isSome = true := by decide +kernel
  obtain ⟨t, ht⟩ := Option.isSome_iff_exists.mp hrun
  exact ⟨t, ht, pipelinesEnd_of_reachable
    (TransitionSystem.reachableWhen_of_runWhen (fun _ _ _ h => h) rfl ht)⟩

/-- After `Close` has returned, the pipeline of an open track is not marked. -/
theorem not_pipelinesEnd_closed : ¬∀ t, transcriberSystem.Reachable t → t.PipelinesEnd := by
  intro hend
  have hrun : ((TransitionSystem.runWhen? TranscriberRun.next? (fun _ _ => true) {}
      closedSteps).any fun t =>
        t.closeReturned && t.pipelines.any fun pipeline => !pipeline.stopped) = true := by
    decide +kernel
  obtain ⟨t, ht, hleft⟩ := (Option.any_eq_true _ _).mp hrun
  have hreach : transcriberSystem.Reachable t :=
    TransitionSystem.reachable_of_runWhen (fun _ _ _ h => h) rfl ht
  obtain ⟨hreturned, hany⟩ := (Bool.and_eq_true_iff.mp hleft)
  obtain ⟨pipeline, hmem, hunmarked⟩ := List.any_eq_true.mp hany
  rw [(hend t hreach).stopped hreturned pipeline hmem] at hunmarked
  cases hunmarked

end Free4Chat
