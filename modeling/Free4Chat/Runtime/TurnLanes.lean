import Free4Chat.Runtime.Scheduling

/-!
# Turn Lanes

A lane is held by a turn from its start to its end. No lane outlives its turn, so that the lanes
that are left are there for other scopes, in every run of the Runtime.

* `LanesExact`: the lanes that are held are those of the turns that run.
* `lanesExact_of_reachable`: the property, over every run.
-/

namespace Free4Chat

/-- The lanes are those of the turns, of which no two share a scope. A scope without a turn is
granted a lane as long as there are more lanes than turns. -/
structure LanesExact (s : RuntimeRun) : Prop where
  serial : (s.turns.map (·.scope)).Nodup
  held : ∀ scope target, (s.runtime.activeTurns.get? scope).map (·.target) = some target ↔
    ∃ turn ∈ s.turns, turn.scope = scope ∧ turn.target = target
  bounded : s.turns.length ≤ s.runtime.turnLanes
  granted : ∀ scope, s.runtime.stopped = false → s.runtime.admissionsClosed = false →
    (∀ turn ∈ s.turns, turn.scope ≠ scope) → s.turns.length < s.runtime.turnLanes →
      s.runtime.turnLaneResult scope = .granted

/-- Every lane that is held is that of a turn. -/
def LanesUsed (s : RuntimeRun) : Prop :=
  ∀ scope lane, s.runtime.activeTurns.get? scope = some lane →
    ∃ turn ∈ s.turns, turn.scope = scope ∧ lane.target = turn.target

namespace LanesUsed

variable {s s' : RuntimeRun} {step : RuntimeStep}

lemma of_change (h : LanesUsed s) (hheld : LanesHeld s) (hchange : TurnsChange s step s') :
    LanesUsed s' := by
  intro scope lane hlane
  cases hchange with
  | kept hturns hlanes =>
    rw [hlanes.activeTurns] at hlane
    rw [hturns]
    exact h scope lane hlane
  | @advanced index turn turnStep phase hstep hturn hadvance hturns hlanes =>
    rw [hlanes.activeTurns] at hlane
    obtain ⟨user, hmem, hscope, htarget⟩ := h scope lane hlane
    rw [hturns]
    by_cases hsame : user = turn
    · subst hsame
      exact ⟨_, List.mem_set (List.getElem?_eq_some_iff.mp hturn).1 _, hscope, htarget⟩
    · exact ⟨user, (RuntimeRun.mem_of_ne_index hmem hturn hsame).2 _, hscope, htarget⟩
  | @finished index turn hstep hturn hphase hturns hruntime =>
    -- The lane of the turn that ends is given back, so that this one is another turn's.
    rw [hruntime, hheld.finishTurnLane_eq (List.mem_of_getElem? hturn)] at hlane
    dsimp only at hlane
    rw [KeyedMap.get?_erase] at hlane
    split at hlane
    next => cases hlane
    next hne =>
      obtain ⟨user, hmem, hscope, htarget⟩ := h scope lane hlane
      have hother : user ≠ turn := fun hsame => hne (hsame ▸ hscope)
      rw [hturns]
      exact ⟨user, (RuntimeRun.mem_of_ne_index hmem hturn hother).1, hscope, htarget⟩
  | @started index scheduler started target candidates hstep hscheduler hcandidates hgranted hturns
      hruntime =>
    rw [hruntime, ResidentRuntime.beginTurnLane] at hlane
    dsimp only at hlane
    rw [KeyedMap.get?_set, ActiveTurnLane.key_eq] at hlane
    rw [hturns]
    split at hlane
    next hsame =>
      obtain rfl := Option.some.inj hlane
      exact ⟨_, List.mem_append_right _ (List.mem_singleton_self _), hsame, rfl⟩
    next =>
      obtain ⟨user, hmem, hscope, htarget⟩ := h scope lane hlane
      exact ⟨user, List.mem_append_left _ hmem, hscope, htarget⟩

lemma size_le (h : LanesUsed s) : s.runtime.activeTurns.size ≤ s.turns.length := by
  rw [← KeyedMap.length_keys, ← List.length_map (f := TurnRun.scope)]
  refine (List.Nodup.subperm s.runtime.activeTurns.nodup fun scope hmem => ?_).length_le
  obtain ⟨lane, hlane⟩ := Option.isSome_iff_exists.mp (KeyedMap.mem_keys_iff.mp hmem)
  obtain ⟨turn, hturn, rfl, -⟩ := h scope lane hlane
  exact List.mem_map_of_mem hturn

lemma exact (h : LanesUsed s) (hheld : LanesHeld s) : LanesExact s where
  serial := hheld.serial
  held scope target := by
    rw [Option.map_eq_some_iff]
    constructor
    · rintro ⟨lane, hlane, rfl⟩
      obtain ⟨turn, hturn, hscope, htarget⟩ := h scope lane hlane
      exact ⟨turn, hturn, hscope, htarget.symm⟩
    · rintro ⟨turn, hturn, rfl, rfl⟩
      exact hheld.lanes turn hturn
  bounded := hheld.length_le
  granted scope hstopped hopen hfree hleft := by
    have hbusy : ¬s.runtime.activeTurns.contains scope = true := by
      rw [KeyedMap.contains, Option.isSome_iff_exists]
      rintro ⟨lane, hlane⟩
      obtain ⟨turn, hturn, hscope, -⟩ := h scope lane hlane
      exact hfree turn hturn hscope
    rw [ResidentRuntime.turnLaneResult, if_neg (by simp [hstopped, hopen]), if_neg hbusy,
      if_neg (Nat.not_le_of_lt (h.size_le.trans_lt hleft))]

end LanesUsed

/-- In every run of the Runtime the lanes are exactly those of the turns that run. -/
theorem lanesExact_of_reachable {wireLength : RoomEvent → ℕ} {s : RuntimeRun}
    (hreach : (runtimeSystem wireLength).Reachable s) : LanesExact s := by
  have hinvariant : LanesHeld s ∧ LanesUsed s := by
    refine hreach.invariant (P := fun s => LanesHeld s ∧ LanesUsed s) ?_
      fun s step s' h _ hnext => ?_
    · rintro s ⟨participantID, cursor, turnLanes, rfl⟩
      exact ⟨SchedulingInvariant.of_init.lanes, fun _ _ hlane => by cases hlane⟩
    · have hturns := (RuntimeRun.outcome_of_next hnext).turns
      exact ⟨h.1.of_change hturns, h.2.of_change h.1 hturns⟩
  exact hinvariant.2.exact hinvariant.1

/-- A run in which a turn has started. -/
theorem lanesExact_started : ∃ s,
    RuntimeRun.runWhen? (fun _ _ => true)
      (RuntimeRun.receives 0 2 ++ [.schedule true true, .launch 0 false]) = some s ∧
      s.turns.length = 1 ∧ LanesExact s := by
  have hrun : (RuntimeRun.runWhen? (fun _ _ => true) (RuntimeRun.receives 0 2 ++
      [.schedule true true, .launch 0 false])).any (fun s => decide (s.turns.length = 1)) =
        true := by
    decide +kernel
  obtain ⟨s, hs, hlength⟩ := (Option.any_eq_true _ _).mp hrun
  exact ⟨s, hs, of_decide_eq_true hlength,
    lanesExact_of_reachable (RuntimeRun.reachableWhen_of_run hs).reachable⟩

end Free4Chat
