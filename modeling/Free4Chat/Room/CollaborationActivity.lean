import Free4Chat.Data.MaximalRuns
import Free4Chat.Room.Types
import Mathlib.Data.List.Induction

/-!
# Collaboration Activity

The Room measures how long at least two participants are in it. It keeps when the current interval
began and what it has seen during it, and produces a summary when the interval ends.

* `transitionCollaborationActivity`: the interval after participants came or went.
* `normalizeStoredCollaborationActivity`: what a load keeps of it.
* `Snapshot`: who is in the Room at some time.
* `activityOf` and `summaryOf`: what an interval of a sequence of snapshots amounts to.
* `transition_activityOf`: the transition keeps the one and produces the other.
-/

namespace Free4Chat

inductive CollaborationMode where
  | humanOnly
  | agentOnly
  | humanAgent
deriving DecidableEq, Repr

inductive ParticipantBucket where
  | one
  | twoToThree
  | fourToNine
  | tenOrMore
deriving DecidableEq, Repr

/-- The bucket of a number of participants. -/
def participantsBucket (count : ℕ) : ParticipantBucket :=
  if 10 ≤ count then .tenOrMore
  else if 4 ≤ count then .fourToNine
  else if 2 ≤ count then .twoToThree
  else .one

/-- The open interval with at least two participants. -/
structure CollaborationActivity where
  startedAt : ℕ
  sawHuman : Bool
  sawAgent : Bool
  peakParticipantCount : ℕ
deriving DecidableEq, Repr

/-- What is produced when an interval ends. -/
structure CollaborationDurationSummary where
  durationMs : ℕ
  collaborationMode : CollaborationMode
  participantBucket : ParticipantBucket
deriving DecidableEq, Repr

/-- The mode of an interval. -/
def collaborationMode (sawHuman sawAgent : Bool) : CollaborationMode :=
  if sawHuman && sawAgent then .humanAgent else if sawAgent then .agentOnly else .humanOnly

/-- The open interval after participants came or went, and the summary of one that ends. -/
def transitionCollaborationActivity (kinds : List ParticipantKind)
    (existing : Option CollaborationActivity) (now : ℕ) :
    Option CollaborationActivity × Option CollaborationDurationSummary :=
  let count := kinds.length
  let sawHuman := existing.any (·.sawHuman) || kinds.contains .human
  let sawAgent := existing.any (·.sawAgent) || kinds.contains .agent
  let peak := max ((existing.map (·.peakParticipantCount)).getD 0) count
  if 2 ≤ count then
    (some
      { startedAt := (existing.map (·.startedAt)).getD now
        sawHuman
        sawAgent
        peakParticipantCount := max 2 peak }, none)
  else
    (none, existing.map fun existing =>
      { durationMs := now - existing.startedAt
        collaborationMode := collaborationMode sawHuman sawAgent
        participantBucket := participantsBucket existing.peakParticipantCount })

/-- What a load keeps of a stored interval. -/
def normalizeStoredCollaborationActivity (stored : Option CollaborationActivity) :
    Option CollaborationActivity :=
  stored.filter fun activity =>
    0 < activity.startedAt && 2 ≤ activity.peakParticipantCount &&
      activity.peakParticipantCount ≤ 999

/-! ## Intervals of a sequence of snapshots -/

/-- Who is in the Room at some time. -/
structure Snapshot where
  time : ℕ
  kinds : List ParticipantKind
deriving DecidableEq, Repr

/-- Whether at least two participants are in the Room. -/
def Snapshot.holdsTwo (snapshot : Snapshot) : Bool := 2 ≤ snapshot.kinds.length

/-- Whether a participant of a kind is there in one of some snapshots. -/
def sawKind (kind : ParticipantKind) (snapshots : List Snapshot) : Bool :=
  snapshots.any fun snapshot => snapshot.kinds.contains kind

/-- The most participants that are there in one of some snapshots. -/
def peakCount (snapshots : List Snapshot) : ℕ :=
  (snapshots.map fun snapshot => snapshot.kinds.length).foldl max 0

/-- The time of a snapshot. -/
def timeAt (snapshots : List Snapshot) (i : ℕ) : ℕ :=
  (snapshots[i]?.map (·.time)).getD 0

/-- The summary of the snapshots from one index up to another. -/
def summaryOf (snapshots : List Snapshot) (interval : ℕ × ℕ) : CollaborationDurationSummary :=
  let present := (snapshots.take interval.2).drop interval.1
  { durationMs := timeAt snapshots interval.2 - timeAt snapshots interval.1
    collaborationMode := collaborationMode (sawKind .human present) (sawKind .agent present)
    participantBucket := participantsBucket (peakCount present) }

/-- The open interval of the snapshots from an index on. -/
def activityOf (snapshots : List Snapshot) (i : ℕ) : CollaborationActivity :=
  let present := snapshots.drop i
  { startedAt := timeAt snapshots i
    sawHuman := sawKind .human present
    sawAgent := sawKind .agent present
    peakParticipantCount := peakCount present }

variable {snapshots : List Snapshot} {snapshot last : Snapshot} {i : ℕ}

lemma sawKind_append (kind : ParticipantKind) (snapshots : List Snapshot) (snapshot : Snapshot) :
    sawKind kind (snapshots ++ [snapshot]) =
      (sawKind kind snapshots || snapshot.kinds.contains kind) := by
  rw [sawKind, List.any_append, List.any_cons, List.any_nil, Bool.or_false]
  rfl

lemma peakCount_append (snapshots : List Snapshot) (snapshot : Snapshot) :
    peakCount (snapshots ++ [snapshot]) = max (peakCount snapshots) snapshot.kinds.length := by
  rw [peakCount, List.map_append, List.foldl_append]
  rfl

lemma le_peakCount (hmem : snapshot ∈ snapshots) : snapshot.kinds.length ≤ peakCount snapshots := by
  induction snapshots using List.reverseRecOn with
  | nil => exact absurd hmem List.not_mem_nil
  | append_singleton snapshots newest ih =>
    rw [peakCount_append]
    rcases List.mem_append.mp hmem with hmem | hmem
    · exact (ih hmem).trans (le_max_left _ _)
    · rw [List.mem_singleton.mp hmem]
      exact le_max_right _ _

lemma peakCount_le {bound : ℕ} (h : ∀ snapshot ∈ snapshots, snapshot.kinds.length ≤ bound) :
    peakCount snapshots ≤ bound := by
  induction snapshots using List.reverseRecOn with
  | nil => exact Nat.zero_le bound
  | append_singleton snapshots newest ih =>
    rw [peakCount_append]
    refine max_le (ih fun snapshot hmem => h snapshot (List.mem_append_left _ hmem)) ?_
    exact h newest (List.mem_append_right _ (List.mem_singleton_self newest))

lemma timeAt_append_of_lt (hi : i < snapshots.length) :
    timeAt (snapshots ++ [snapshot]) i = timeAt snapshots i := by
  rw [timeAt, List.getElem?_append_left hi]
  rfl

lemma timeAt_append_length (snapshots : List Snapshot) (snapshot : Snapshot) :
    timeAt (snapshots ++ [snapshot]) snapshots.length = snapshot.time := by
  rw [timeAt, List.getElem?_concat_length]
  rfl

lemma summaryOf_append {interval : ℕ × ℕ} (hlt : interval.1 < interval.2)
    (hlength : interval.2 < snapshots.length) :
    summaryOf (snapshots ++ [snapshot]) interval = summaryOf snapshots interval := by
  rw [summaryOf, summaryOf, List.take_append_of_le_length hlength.le, timeAt_append_of_lt hlength,
    timeAt_append_of_lt (hlt.trans hlength)]

lemma activityOf_append (hi : i < snapshots.length) : activityOf (snapshots ++ [snapshot]) i =
      { startedAt := (activityOf snapshots i).startedAt
        sawHuman := (activityOf snapshots i).sawHuman || snapshot.kinds.contains .human
        sawAgent := (activityOf snapshots i).sawAgent || snapshot.kinds.contains .agent
        peakParticipantCount :=
          max (activityOf snapshots i).peakParticipantCount snapshot.kinds.length } := by
  rw [activityOf, List.drop_append_of_le_length hi.le, timeAt_append_of_lt hi, sawKind_append,
    sawKind_append, peakCount_append]
  rfl

lemma activityOf_append_length (snapshots : List Snapshot) (snapshot : Snapshot) :
    activityOf (snapshots ++ [snapshot]) snapshots.length =
      { startedAt := snapshot.time
        sawHuman := snapshot.kinds.contains .human
        sawAgent := snapshot.kinds.contains .agent
        peakParticipantCount := snapshot.kinds.length } := by
  rw [activityOf, List.drop_left, timeAt_append_length, ← List.nil_append [snapshot],
    sawKind_append, sawKind_append, peakCount_append]
  simp [sawKind, peakCount]

/-! ## The transition -/

/-- An open interval has seen whoever is there. -/
structure CollaborationActivity.Covers (activity : CollaborationActivity)
    (kinds : List ParticipantKind) : Prop where
  human : kinds.contains .human = true → activity.sawHuman = true
  agent : kinds.contains .agent = true → activity.sawAgent = true
  count : kinds.length ≤ activity.peakParticipantCount
  two : 2 ≤ activity.peakParticipantCount

lemma CollaborationActivity.Covers.sublist {activity : CollaborationActivity}
    {kinds kinds' : List ParticipantKind} (h : activity.Covers kinds)
    (hsub : List.Sublist kinds' kinds) : activity.Covers kinds' where
  human hmem := h.human (by
    rw [List.contains_iff_mem] at hmem ⊢
    exact hsub.subset hmem)
  agent hmem := h.agent (by
    rw [List.contains_iff_mem] at hmem ⊢
    exact hsub.subset hmem)
  count := hsub.length_le.trans h.count
  two := h.two

lemma covers_activityOf (hi : i < snapshots.length) (hlast : snapshots.getLast? = some last)
    (htwo : last.holdsTwo = true) : (activityOf snapshots i).Covers last.kinds := by
  have hpresent : last ∈ snapshots.drop i := by
    rw [List.mem_iff_getElem?]
    refine ⟨snapshots.length - 1 - i, ?_⟩
    rw [List.getElem?_drop, ← hlast, List.getLast?_eq_getElem?]
    congr 1
    omega
  have hcount := le_peakCount hpresent
  refine ⟨fun hkind => ?_, fun hkind => ?_, hcount, ?_⟩
  · exact List.any_eq_true.mpr ⟨last, hpresent, hkind⟩
  · exact List.any_eq_true.mpr ⟨last, hpresent, hkind⟩
  · exact (of_decide_eq_true htwo).trans hcount

/-- The summary of an interval that ends. -/
def endedSummary (activity : CollaborationActivity) (now : ℕ) : CollaborationDurationSummary :=
  { durationMs := now - activity.startedAt
    collaborationMode := collaborationMode activity.sawHuman activity.sawAgent
    participantBucket := participantsBucket activity.peakParticipantCount }

variable {kinds : List ParticipantKind}

lemma transition_of_covers {activity : CollaborationActivity}
    (h : activity.Covers kinds) (now : ℕ) :
    transitionCollaborationActivity kinds (some activity) now =
      if 2 ≤ kinds.length then (some activity, none)
      else (none, some (endedSummary activity now)) := by
  have hhuman : (activity.sawHuman || kinds.contains .human) = activity.sawHuman :=
    Bool.or_eq_left_iff_imp.mpr h.human
  have hagent : (activity.sawAgent || kinds.contains .agent) = activity.sawAgent :=
    Bool.or_eq_left_iff_imp.mpr h.agent
  simp only [transitionCollaborationActivity, Option.any_some, Option.map_some, Option.getD_some,
    hhuman, hagent, max_eq_left h.count, max_eq_right h.two, endedSummary]

lemma transition_of_lt_two (h : kinds.length < 2) (now : ℕ) :
    transitionCollaborationActivity kinds none now = (none, none) := by
  rw [transitionCollaborationActivity]
  exact if_neg (Nat.not_le_of_lt h)

/-- One transition after others of the same operation, with the summaries they produced. -/
def advanceCollaboration (now : ℕ)
    (result : Option CollaborationActivity × List CollaborationDurationSummary)
    (kinds : List ParticipantKind) :
    Option CollaborationActivity × List CollaborationDurationSummary :=
  let transition := transitionCollaborationActivity kinds result.1 now
  (transition.1, result.2 ++ transition.2.toList)

/-- The transitions of an operation, one for each time that participants came or went. -/
def collaborationTransitions (now : ℕ) (updates : List (List ParticipantKind))
    (existing : Option CollaborationActivity) :
    Option CollaborationActivity × List CollaborationDurationSummary :=
  updates.foldl (advanceCollaboration now) (existing, [])

lemma foldl_advanceCollaboration_none {now : ℕ} {removals : List (List ParticipantKind)}
    {produced : List CollaborationDurationSummary} (h : ∀ kinds ∈ removals, kinds.length < 2) :
    removals.foldl (advanceCollaboration now) (none, produced) = (none, produced) := by
  induction removals with
  | nil => rfl
  | cons kinds removals ih =>
    rw [List.foldl_cons, advanceCollaboration, transition_of_lt_two (h kinds List.mem_cons_self),
      Option.toList_none, List.append_nil]
    exact ih fun kinds hmem => h kinds (List.mem_cons_of_mem _ hmem)

/-- Removals from a list of participants, each from what the one before left. -/
def Removals : List ParticipantKind → List (List ParticipantKind) → Prop
  | _, [] => True
  | kinds, kinds' :: removals => List.Sublist kinds' kinds ∧ Removals kinds' removals

lemma Removals.length_le {kinds kinds' : List ParticipantKind}
    {removals : List (List ParticipantKind)} (h : Removals kinds removals)
    (hmem : kinds' ∈ removals) : kinds'.length ≤ kinds.length := by
  induction removals generalizing kinds with
  | nil => exact absurd hmem List.not_mem_nil
  | cons first removals ih =>
    rcases List.mem_cons.mp hmem with rfl | hmem
    · exact h.1.length_le
    · exact (ih h.2 hmem).trans h.1.length_le

lemma Removals.getLastD_sublist
    {removals : List (List ParticipantKind)} (h : Removals kinds removals) :
    List.Sublist (removals.getLastD kinds) kinds := by
  induction removals generalizing kinds with
  | nil => exact List.Sublist.refl kinds
  | cons first removals ih =>
    rw [List.getLastD_cons]
    exact (ih h.2).trans h.1

lemma collaborationTransitions_of_covers (now : ℕ) {activity : CollaborationActivity}
    {removals : List (List ParticipantKind)}
    (h : Removals kinds removals) (hcovers : activity.Covers kinds) (htwo : 2 ≤ kinds.length) :
    collaborationTransitions now removals (some activity) =
      if 2 ≤ (removals.getLastD kinds).length then (some activity, [])
      else (none, [endedSummary activity now]) := by
  induction removals generalizing kinds with
  | nil => exact (if_pos htwo).symm
  | cons first removals ih =>
    have hfirst := hcovers.sublist h.1
    rw [collaborationTransitions, List.foldl_cons, advanceCollaboration,
      transition_of_covers hfirst, List.getLastD_cons]
    by_cases htwo' : 2 ≤ first.length
    · rw [if_pos htwo']
      exact ih h.2 hfirst htwo'
    · -- The interval ends with this removal, and the others find none open.
      rw [if_neg htwo', if_neg fun hle => htwo' (hle.trans h.2.getLastD_sublist.length_le)]
      refine foldl_advanceCollaboration_none fun kinds hmem => ?_
      exact (h.2.length_le hmem).trans_lt (Nat.lt_of_not_le htwo')

/-! ## Accounting -/

/-- The open interval is the run of snapshots with two participants that is open, and the summaries
are those of the maximal runs that have ended, one for each, in order. -/
def Accounted (snapshots : List Snapshot) (activity : Option CollaborationActivity)
    (summaries : List CollaborationDurationSummary) : Prop :=
  ∃ opened ended, List.RunsOf Snapshot.holdsTwo snapshots opened ended ∧
    activity = opened.map (activityOf snapshots) ∧ summaries = ended.map (summaryOf snapshots)

namespace Accounted

variable {activity : Option CollaborationActivity}
  {summaries : List CollaborationDurationSummary} {opened : Option ℕ} {ended : List (ℕ × ℕ)}

lemma map_summaryOf_append (h : List.RunsOf Snapshot.holdsTwo snapshots opened ended) :
    ended.map (summaryOf (snapshots ++ [snapshot])) = ended.map (summaryOf snapshots) := by
  refine List.map_congr_left fun interval hmem => ?_
  have hended := (h.mem_ended_iff interval.1 interval.2).mp hmem
  exact summaryOf_append hended.run.lt hended.lt_length

lemma summaryOf_append_length (hi : i < snapshots.length) :
    summaryOf (snapshots ++ [snapshot]) (i, snapshots.length) =
      endedSummary (activityOf snapshots i) snapshot.time := by
  rw [summaryOf, List.take_left, timeAt_append_length, timeAt_append_of_lt hi]
  rfl

lemma activityOf_append_of_sublist (hi : i < snapshots.length)
    (hcovers : (activityOf snapshots i).Covers snapshot.kinds) :
    activityOf (snapshots ++ [snapshot]) i = activityOf snapshots i := by
  rw [activityOf_append hi, Bool.or_eq_left_iff_imp.mpr hcovers.human,
    Bool.or_eq_left_iff_imp.mpr hcovers.agent, max_eq_left hcovers.count]

section

variable (h : Accounted snapshots activity summaries)
include h

lemma removals (snapshot : Snapshot)
    (hlast : snapshots.getLast? = some last) {removals : List (List ParticipantKind)}
    (hremovals : Removals last.kinds removals)
    (hkinds : snapshot.kinds = removals.getLastD last.kinds) : Accounted (snapshots ++ [snapshot])
      (collaborationTransitions snapshot.time removals activity).1
      (summaries ++ (collaborationTransitions snapshot.time removals activity).2) := by
  obtain ⟨opened, ended, hruns, rfl, rfl⟩ := h
  cases hopened : opened with
  | none =>
    subst hopened
    have hidle := hruns.idle rfl last hlast
    have hfew : last.kinds.length < 2 := Nat.lt_of_not_le (of_decide_eq_false hidle)
    have hfails : snapshot.holdsTwo = false := by
      refine decide_eq_false (Nat.not_le_of_lt ?_)
      rw [hkinds]
      exact hremovals.getLastD_sublist.length_le.trans_lt hfew
    have hnone : collaborationTransitions snapshot.time removals none = (none, []) :=
      foldl_advanceCollaboration_none fun kinds hmem => (hremovals.length_le hmem).trans_lt hfew
    refine ⟨none, ended, ?_, ?_, ?_⟩
    · have hended := hruns.append_fails hfails
      rwa [Option.toList_none, List.map_nil, List.append_nil] at hended
    · exact congrArg Prod.fst hnone
    · rw [Option.map_none, hnone, List.append_nil, map_summaryOf_append hruns]
  | some i =>
    subst hopened
    have hrun := (hruns.opened_iff i).mp rfl
    have htwo := hrun.last_holds hlast
    have hcovers := covers_activityOf hrun.lt hlast htwo
    have hresult := collaborationTransitions_of_covers snapshot.time hremovals hcovers
      (of_decide_eq_true htwo)
    rw [← hkinds] at hresult
    rw [Option.map_some, hresult]
    have hcovers' : (activityOf snapshots i).Covers snapshot.kinds :=
      hcovers.sublist (hkinds ▸ hremovals.getLastD_sublist)
    by_cases hholds : 2 ≤ snapshot.kinds.length
    · rw [if_pos hholds, List.append_nil]
      refine ⟨some i, ended, hruns.append_holds (decide_eq_true hholds), ?_, ?_⟩
      · rw [Option.map_some, activityOf_append_of_sublist hrun.lt hcovers']
      · exact (map_summaryOf_append hruns).symm
    · rw [if_neg hholds]
      refine ⟨none, _, hruns.append_fails (decide_eq_false hholds), rfl, ?_⟩
      rw [List.map_append, map_summaryOf_append hruns, Option.toList_some, List.map_singleton,
        List.map_singleton, summaryOf_append_length hrun.lt]

lemma eq_none_of_last
    (hlast : snapshots.getLast? = some last) (hfew : last.kinds.length < 2) : activity = none := by
  obtain ⟨opened, ended, hruns, rfl, -⟩ := h
  cases hopened : opened with
  | none => rfl
  | some i =>
    subst hopened
    have htwo := ((hruns.opened_iff i).mp rfl).last_holds hlast
    exact absurd (of_decide_eq_true htwo) (Nat.not_le_of_lt hfew)

lemma joins (snapshot : Snapshot) (hfew : snapshot.kinds.length < 2 → activity = none) :
    (transitionCollaborationActivity snapshot.kinds activity snapshot.time).2 = none ∧
      Accounted (snapshots ++ [snapshot])
        (transitionCollaborationActivity snapshot.kinds activity snapshot.time).1 summaries := by
  obtain ⟨opened, ended, hruns, rfl, rfl⟩ := h
  by_cases hholds : 2 ≤ snapshot.kinds.length
  · have hresult : transitionCollaborationActivity snapshot.kinds
        (opened.map (activityOf snapshots)) snapshot.time =
        (some (activityOf (snapshots ++ [snapshot]) (opened.getD snapshots.length)), none) := by
      rw [transitionCollaborationActivity]
      refine (if_pos hholds).trans ?_
      cases hopened : opened with
      | none =>
        rw [Option.getD_none, activityOf_append_length]
        simp only [Option.map_none, Option.getD_none, Option.any_none, Bool.false_or, Nat.zero_max,
          max_eq_right hholds]
      | some i =>
        subst hopened
        rw [Option.getD_some, activityOf_append ((hruns.opened_iff i).mp rfl).lt]
        simp only [Option.map_some, Option.getD_some, Option.any_some,
          max_eq_right (hholds.trans (le_max_right _ _))]
    rw [hresult]
    exact ⟨rfl, _, ended, hruns.append_holds (decide_eq_true hholds), rfl,
      (map_summaryOf_append hruns).symm⟩
  · have hopened : opened = none := Option.map_eq_none_iff.mp (hfew (Nat.lt_of_not_le hholds))
    subst hopened
    rw [Option.map_none, transition_of_lt_two (Nat.lt_of_not_le hholds)]
    refine ⟨rfl, none, ended, ?_, rfl, (map_summaryOf_append hruns).symm⟩
    have hended := hruns.append_fails (decide_eq_false hholds)
    rwa [Option.toList_none, List.map_nil, List.append_nil] at hended

lemma normalize_eq (htimes : ∀ snapshot ∈ snapshots, 0 < snapshot.time)
    (hcounts : ∀ snapshot ∈ snapshots, snapshot.kinds.length ≤ 999) :
    normalizeStoredCollaborationActivity activity = activity := by
  obtain ⟨opened, ended, hruns, rfl, -⟩ := h
  cases hopened : opened with
  | none => rfl
  | some i =>
    subst hopened
    have hrun := (hruns.opened_iff i).mp rfl
    have hget := List.getElem?_eq_getElem hrun.lt
    have hmem := List.mem_of_getElem? hget
    have hstarted : 0 < timeAt snapshots i := by
      rw [timeAt, hget]
      exact htimes _ hmem
    have hlast := List.getLast?_eq_some_getLast (List.ne_nil_of_mem hmem)
    have htwo := (covers_activityOf hrun.lt hlast (hrun.last_holds hlast)).two
    have hpeak : peakCount (snapshots.drop i) ≤ 999 :=
      peakCount_le fun snapshot hsnapshot => hcounts snapshot (List.mem_of_mem_drop hsnapshot)
    rw [Option.map_some, normalizeStoredCollaborationActivity, Option.filter_some, if_pos]
    rw [Bool.and_eq_true, Bool.and_eq_true]
    exact ⟨⟨decide_eq_true hstarted, decide_eq_true htwo⟩, decide_eq_true hpeak⟩

end

end Accounted

end Free4Chat
