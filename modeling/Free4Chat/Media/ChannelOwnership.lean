import Free4Chat.Media.ChannelAllocations
import Mathlib.Data.Bool.Basic

/-!
# Ownership of Allocations

As long as no update replaces a lane that it has kept, each allocation of the SFU has exactly one
owner until it is closed.

* `LaneMap.perm_without`: what is taken out of a map, and what is left.
* `ChannelTransport.Owned`: the invariant. `ChannelTransport.StageOk`: what an update knows at each
  stage.
* `ChannelTransport.Owned.perm_assigned`: what a commit leaves in the map was there before, or is new.
* `conserved_of_reachable`: allocations are conserved in every run that meets the condition.
-/

namespace Free4Chat

/-! ## Maps -/

namespace LaneMap

variable {α : Type} {m : LaneMap α} {human : String} {a : α}

lemma at?_eq_some_iff : m.at? human = some a ↔ (human, a) ∈ m.values := by
  rw [at?, Option.map_eq_some_iff]
  constructor
  · rintro ⟨entry, hget, rfl⟩
    obtain ⟨hmem, hkey⟩ := KeyedMap.get?_eq_some_iff.mp hget
    rw [← hkey]
    exact hmem
  · exact fun hmem => ⟨(human, a), KeyedMap.get?_eq_some_iff.mpr ⟨hmem, rfl⟩, rfl⟩

lemma exists_of_mem_keys (h : human ∈ m.keys) : ∃ a, m.at? human = some a := by
  obtain ⟨entry, hmem, rfl⟩ := List.mem_map.mp h
  exact ⟨entry.2, at?_eq_some_iff.mpr hmem⟩

lemma mem_keys_of_at? (h : m.at? human = some a) : human ∈ m.keys :=
  List.mem_map.mpr ⟨(human, a), at?_eq_some_iff.mp h, rfl⟩

lemma mem_keys_without {humans : List String} :
    human ∈ (m.without humans).keys ↔ human ∈ m.keys ∧ human ∉ humans :=
  (KeyedMap.mem_keys_filter (q := fun human => decide (human ∉ humans)) fun _ => rfl).trans
    (and_congr_right fun _ => decide_eq_true_iff)

variable {entries : List (String × α)}

lemma values_foldl_set {m : LaneMap α} (h : (m.keys ++ entries.map Prod.fst).Nodup) :
    (entries.foldl KeyedMap.set m).values = m.values ++ entries := by
  induction entries generalizing m with
  | nil => exact (List.append_nil _).symm
  | cons entry entries ih =>
    have hnew : Keyed.key entry ∉ m.keys := fun hmem =>
      (List.disjoint_of_nodup_append h) hmem (List.mem_cons_self ..)
    have hkeys : (m.set entry).keys = m.keys ++ [entry.1] := by
      rw [KeyedMap.keys_set, if_neg hnew, Keyed.key_pair]
    rw [List.foldl_cons, ih, KeyedMap.values_set_of_notMem hnew, List.append_assoc]
    · rfl
    · rw [hkeys, List.append_assoc]
      exact h

lemma values_ofList (h : (entries.map Prod.fst).Nodup) : (ofList entries).values = entries := by
  rw [ofList, values_foldl_set (m := .empty) h]
  rfl

lemma perm_without {humans : List String} (hvalues : (m.values.map Prod.snd).Nodup)
    (hhumans : humans.Nodup) : (m.values.map Prod.snd).Perm
      ((m.without humans).values.map Prod.snd ++ humans.filterMap m.at?) := by
  have hleft : ∀ a, a ∈ (m.without humans).values.map Prod.snd ↔
      ∃ human ∉ humans, m.at? human = some a := by
    intro a
    rw [List.mem_map]
    constructor
    · rintro ⟨entry, hmem, rfl⟩
      obtain ⟨hmem, hnot⟩ := List.mem_filter.mp hmem
      exact ⟨entry.1, of_decide_eq_true hnot, at?_eq_some_iff.mpr hmem⟩
    · rintro ⟨human, hnot, hsome⟩
      exact ⟨(human, a), List.mem_filter.mpr ⟨at?_eq_some_iff.mp hsome, decide_eq_true hnot⟩, rfl⟩
  have hinj : ∀ human human' a, m.at? human = some a → m.at? human' = some a →
      human = human' := by
    intro human human' a hsome hsome'
    exact congrArg Prod.fst (List.inj_on_of_nodup_map hvalues (at?_eq_some_iff.mp hsome)
      (at?_eq_some_iff.mp hsome') rfl)
  have htaken : (humans.filterMap m.at?).Nodup := hhumans.filterMap hinj
  have hkept : ((m.without humans).values.map Prod.snd).Nodup :=
    hvalues.sublist (List.Sublist.map _ List.filter_sublist)
  refine (List.perm_ext_iff_of_nodup hvalues (hkept.append htaken fun a hmem hmem' => ?_)).mpr
    fun a => ?_
  · obtain ⟨human, hnot, hsome⟩ := (hleft a).mp hmem
    obtain ⟨human', hin, hsome'⟩ := List.mem_filterMap.mp hmem'
    exact hnot (hinj human human' a hsome hsome' ▸ hin)
  · rw [List.mem_append, hleft, List.mem_filterMap, List.mem_map]
    constructor
    · rintro ⟨entry, hmem, rfl⟩
      have hsome := at?_eq_some_iff.mpr hmem
      by_cases hin : entry.1 ∈ humans
      · exact Or.inr ⟨entry.1, hin, hsome⟩
      · exact Or.inl ⟨entry.1, hin, hsome⟩
    · rintro (⟨human, -, hsome⟩ | ⟨human, -, hsome⟩) <;>
        exact ⟨(human, a), at?_eq_some_iff.mp hsome, rfl⟩

end LaneMap

/-! ## The lanes of a commit -/

namespace ChannelUpdate

variable {u : ChannelUpdate} {human : String} {allocation : UInt16} {source : ParticipantSource}

lemma allocated?_eq_some_iff (hids : (u.newSources.map (·.participantID)).Nodup)
    (hlength : u.allocatedIDs.length = u.newSources.length) : u.allocated? human = some allocation ↔
      ∃ source, (source, allocation) ∈ u.newSources.zip u.allocatedIDs ∧
        source.participantID = human := by
  have hfound : ∀ {entry : ParticipantSource × UInt16},
      (u.newSources.zip u.allocatedIDs).find? (fun entry => entry.1.participantID = human) =
        some entry → entry ∈ u.newSources.zip u.allocatedIDs ∧ entry.1.participantID = human :=
    fun hfind => ⟨List.mem_of_find?_eq_some hfind, by simpa using List.find?_some hfind⟩
  rw [allocated?, Option.map_eq_some_iff]
  constructor
  · rintro ⟨entry, hfind, rfl⟩
    exact ⟨entry.1, hfound hfind⟩
  · rintro ⟨source, hmem, hhuman⟩
    cases hfind : (u.newSources.zip u.allocatedIDs).find? fun entry =>
        entry.1.participantID = human with
    | none =>
      have hnot := List.find?_eq_none.mp hfind _ hmem
      exact absurd (decide_eq_true hhuman) hnot
    | some entry =>
      -- The Human of a new source is unique.
      have hzip : ((u.newSources.zip u.allocatedIDs).map fun entry =>
          entry.1.participantID).Nodup := by
        have hfst : (u.newSources.zip u.allocatedIDs).map Prod.fst = u.newSources :=
          List.map_fst_zip (Nat.le_of_eq hlength.symm)
        rw [← hfst, List.map_map] at hids
        exact hids
      obtain ⟨hentry, hsame⟩ := hfound hfind
      have heq := List.inj_on_of_nodup_map hzip hentry hmem (hsame.trans hhuman.symm)
      exact ⟨entry, rfl, congrArg Prod.snd heq⟩

lemma assignLane?_eq_some {lane : AssignedLane} (h : u.assignLane? source = some lane) :
    lane.source = source ∧
      (source.participantID ∈ u.newOutbound.keys ∧
          u.allocated? source.participantID = some lane.allocation ∨
        source.participantID ∉ u.newOutbound.keys ∧
          u.currentAllocations.at? source.participantID = some lane.allocation) := by
  rw [assignLane?] at h
  split at h
  next channel hnew =>
    obtain ⟨allocation, hallocated, rfl⟩ := Option.map_eq_some_iff.mp h
    exact ⟨rfl, Or.inl ⟨LaneMap.mem_keys_of_at? hnew, hallocated⟩⟩
  next hold =>
    split at h
    next =>
      obtain ⟨channel, -, h⟩ := Option.bind_eq_some_iff.mp h
      obtain ⟨allocation, hallocation, rfl⟩ := Option.map_eq_some_iff.mp h
      refine ⟨rfl, Or.inr ⟨fun hmem => ?_, hallocation⟩⟩
      obtain ⟨channel, hchannel⟩ := LaneMap.exists_of_mem_keys hmem
      exact absurd (hold.symm.trans hchannel) (Option.some_ne_none _).symm
    next => cases h

lemma sources_assignLanes? {lanes : List AssignedLane} (h : u.assignLanes? = some lanes) :
    lanes = u.sources.filterMap u.assignLane? ∧ lanes.map (·.source) = u.sources ∧
      ∀ source ∈ u.sources, ∃ lane, u.assignLane? source = some lane := by
  rw [assignLanes?] at h
  obtain ⟨hall, rfl⟩ := Option.of_guarded h
  have hsome : ∀ source ∈ u.sources, ∃ lane, u.assignLane? source = some lane :=
    fun source hmem => Option.isSome_iff_exists.mp (List.all_eq_true.mp hall source hmem)
  refine ⟨rfl, ?_, hsome⟩
  rw [List.map_filterMap]
  refine Eq.trans (List.filterMap_congr fun source hmem => ?_) List.filterMap_some
  obtain ⟨lane, hlane⟩ := hsome source hmem
  rw [hlane, Option.map_some, (assignLane?_eq_some hlane).1]

end ChannelUpdate

/-! ## The invariant -/

namespace ChannelTransport

variable {s s' : ChannelTransport} {u u' : ChannelUpdate}

/-- All lanes are of sources of the update. -/
def Desired (s : ChannelTransport) (u : ChannelUpdate) : Prop :=
  ∀ lane ∈ s.peerSessions.values, (⟨lane.1, lane.2⟩ : ParticipantSource) ∈ u.sources

/-- The update has seen the lanes as they are. -/
def Current (s : ChannelTransport) (u : ChannelUpdate) : Prop :=
  u.currentOutbound = s.outbound ∧ u.currentPeerSessions = s.peerSessions ∧
    u.currentAllocations = s.channelAllocations

/-- The update has allocated nothing. -/
def Fresh (u : ChannelUpdate) : Prop := u.allocatedIDs = [] ∧ u.newOutbound = .empty

/-- What is known once the sources were chosen that need a channel. -/
def Chosen (s : ChannelTransport) (u : ChannelUpdate) : Prop :=
  Desired s u ∧ Current s u ∧ u.newSources.Sublist u.sources

/-- There is an allocation for each source that needs a channel, and some have their channels. -/
def Created (s : ChannelTransport) (u : ChannelUpdate) (created : List ParticipantSource) : Prop :=
  Chosen s u ∧ u.allocatedIDs.length = u.newSources.length ∧
    u.newOutbound.keys = created.map (·.participantID)

/-- What an update knows at each stage. -/
def StageOk (s : ChannelTransport) (u : ChannelUpdate) : ChannelUpdateStage → Prop
  | .deauthorize => Fresh u
  | .snapshot => Fresh u ∧ Desired s u
  | .choose => Fresh u ∧ Desired s u ∧ Current s u
  | .clean => Fresh u ∧ Chosen s u
  | .allocate => Fresh u ∧ Chosen s u
  | .create rest => ∃ created, u.newSources = created ++ rest ∧ Created s u created
  | .wait => Created s u u.newSources
  | .commit => Created s u u.newSources
  | .tidy => u.allocatedIDs = [] ∧ s.laneKeys.Are (u.sources.map (·.participantID))
  | .rollBack => True
  | .tidyBack => u.allocatedIDs = []

/-- What is known about the update at work. -/
structure WorkOk (s : ChannelTransport) (u : ChannelUpdate) : Prop where
  valid : (u.sources.map (·.participantID)).Nodup
  within : u.stage ≠ .tidy → s.laneKeys.Within u.before
  stage : StageOk s u u.stage

/-- The invariant of a transport: each open allocation has one owner. -/
structure Owned (s : ChannelTransport) : Prop where
  keys : s.laneKeys.Are s.peerSessions.keys
  nodup : s.held.Nodup
  mem : ∀ id, id ∈ s.held ↔ id ∈ s.openIDs
  work : ∀ u, s.update = some u → WorkOk s u
  succeeded : ∀ done ∈ s.finished, done.succeeded = true → done.after.Are done.projected
  failed : ∀ done ∈ s.finished, done.succeeded = false → done.after.Within done.before

lemma Owned.conserved (h : s.Owned) : s.Conserved :=
  { heldOnce := fun id hopen => List.count_eq_one_of_mem h.nodup ((h.mem id).mpr hopen)
    succeeded := h.succeeded
    failed := h.failed }

lemma Owned.at_stage (h : s.Owned) (hupdate : s.update = some u) {stage : ChannelUpdateStage}
    (hstage : u.stage = stage) (hne : stage ≠ .tidy) :
    (u.sources.map (·.participantID)).Nodup ∧ s.laneKeys.Within u.before ∧ StageOk s u stage := by
  subst hstage
  have hwork := h.work u hupdate
  exact ⟨hwork.valid, hwork.within hne, hwork.stage⟩

lemma held_eq (hupdate : s.update = some u) :
    s.held = s.channelAllocations.values.map Prod.snd ++ s.pendingCloseIDs ++ u.allocatedIDs := by
  rw [held, inHand, hupdate]
  rfl

lemma WorkOk.congr (h : WorkOk s u) (houtbound : s'.outbound = s.outbound)
    (hsessions : s'.peerSessions = s.peerSessions) (htokens : s'.channelTokens = s.channelTokens)
    (hallocations : s'.channelAllocations = s.channelAllocations) : WorkOk s' u := by
  have hkeys : s'.laneKeys = s.laneKeys := by
    rw [laneKeys, laneKeys, houtbound, hsessions, htokens, hallocations]
  refine ⟨h.valid, hkeys ▸ h.within, ?_⟩
  have hstage := h.stage
  generalize u.stage = stage at hstage ⊢
  cases stage with
  | rollBack => trivial
  | _ =>
    simpa only [StageOk, Fresh, Created, Chosen, Desired, Current, houtbound, hsessions,
      hallocations, hkeys] using hstage

namespace Owned

section

variable (h : s.Owned)
include h

lemma goOn (hupdate : s.update = some u) {stage : ChannelUpdateStage}
    (hids : u'.allocatedIDs = u.allocatedIDs) (hwork : WorkOk s { u' with stage }) :
    (s.goOn u' stage).Owned := by
  have hheld : (s.goOn u' stage).held = s.held := by
    rw [held_eq hupdate, ← hids]
    rfl
  exact
    { keys := h.keys
      nodup := hheld ▸ h.nodup
      mem := fun id => by rw [hheld]; exact h.mem id
      work := fun other hother => by
        obtain rfl := Option.some.inj hother
        exact hwork.congr rfl rfl rfl rfl
      succeeded := h.succeeded
      failed := h.failed }

lemma finish (hupdate : s.update = some u) (hids : u.allocatedIDs = [])
    {succeeded : Bool} (hsucceeded : succeeded = true →
      s.laneKeys.Are (u.sources.map (·.participantID)))
    (hfailed : succeeded = false → s.laneKeys.Within u.before) : (s.finish u succeeded).Owned := by
  have hheld : (s.finish u succeeded).held = s.held := by
    rw [held_eq hupdate, hids]
    rfl
  exact
    { keys := h.keys
      nodup := hheld ▸ h.nodup
      mem := fun id => by rw [hheld]; exact h.mem id
      work := fun other hother => by cases hother
      succeeded := fun done hmem hyes => by
        rcases List.mem_append.mp hmem with hmem | hmem
        · exact h.succeeded done hmem hyes
        · obtain rfl := List.mem_singleton.mp hmem
          exact hsucceeded hyes
      failed := fun done hmem hno => by
        rcases List.mem_append.mp hmem with hmem | hmem
        · exact h.failed done hmem hno
        · obtain rfl := List.mem_singleton.mp hmem
          exact hfailed hno }

lemma closePending (closes : Bool) : (s.closePending closes).1.Owned := by
  rw [ChannelTransport.closePending]
  split
  · exact h
  split
  · have hnone : (s.pendingCloseIDs.filter fun id => id ∉ s.pendingCloseIDs) = [] :=
      List.filter_eq_nil_iff.mpr fun id hmem hnot => of_decide_eq_true hnot hmem
    have hnodup := h.nodup
    have hmem := h.mem
    rw [held] at hnodup
    simp only [held] at hmem
    refine
      { keys := h.keys
        nodup := ?_
        mem := fun id => ?_
        work := fun u hu => (h.work u hu).congr rfl rfl rfl rfl
        succeeded := h.succeeded
        failed := h.failed }
    · show (s.channelAllocations.values.map Prod.snd ++
        (s.pendingCloseIDs.filter fun id => id ∉ s.pendingCloseIDs) ++ s.inHand).Nodup
      rw [hnone, List.append_nil]
      exact hnodup.sublist ((List.sublist_append_left _ _).append (List.Sublist.refl _))
    · show id ∈ s.channelAllocations.values.map Prod.snd ++
        (s.pendingCloseIDs.filter fun id => id ∉ s.pendingCloseIDs) ++ s.inHand ↔
          id ∈ s.openIDs.filter fun id => id ∉ s.pendingCloseIDs
      rw [hnone, List.append_nil, List.mem_filter, ← hmem id, decide_eq_true_iff,
        List.mem_append, List.mem_append, List.mem_append]
      -- What is pending is held nowhere else.
      obtain ⟨hfirst, -, hlast⟩ := List.nodup_append.mp hnodup
      obtain ⟨-, -, hdisjoint⟩ := List.nodup_append.mp hfirst
      constructor
      · rintro (hlane | hhand)
        · exact ⟨Or.inl (Or.inl hlane), fun hpending => hdisjoint id hlane id hpending rfl⟩
        · exact ⟨Or.inr hhand,
            fun hpending => hlast id (List.mem_append_right _ hpending) id hhand rfl⟩
      · rintro ⟨(hlane | hpending) | hhand, hnot⟩
        · exact Or.inl hlane
        · exact absurd hpending hnot
        · exact Or.inr hhand
  · exact h

lemma begin (hnone : s.update = none) (sources : List ParticipantSource) :
    (s.begin sources).Owned := by
  rw [ChannelTransport.begin]
  split
  next hvalid =>
    rw [validSources, Bool.and_eq_true, decide_eq_true_eq, decide_eq_true_eq] at hvalid
    have hheld : s.held = s.channelAllocations.values.map Prod.snd ++ s.pendingCloseIDs ++ [] := by
      rw [held, inHand, hnone]
      rfl
    have hnodup := h.nodup
    have hmem := h.mem
    rw [hheld] at hnodup hmem
    exact
      { keys := h.keys
        nodup := hnodup
        mem := hmem
        work := fun u hu => by
          obtain rfl := Option.some.inj hu
          exact ⟨hvalid.2, fun _ => ⟨fun _ => id, fun _ => id, fun _ => id, fun _ => id⟩, rfl, rfl⟩
        succeeded := h.succeeded
        failed := h.failed }
  next => exact h

/-- Retiring the lanes that are not kept keeps the invariant. -/
lemma deauthorize (hupdate : s.update = some u) (hstage : u.stage = .deauthorize)
    (ready : List ℕ) : ((s.retire (s.retired ready u.sources)).goOn u .snapshot).Owned := by
  obtain ⟨hvalid, hwithin, hfresh⟩ := h.at_stage hupdate hstage ChannelUpdateStage.noConfusion
  generalize hgone : s.retired ready u.sources = gone
  have hnodup := h.nodup
  have hmem := h.mem
  rw [held_eq hupdate, hfresh.1, List.append_nil] at hnodup hmem
  have hhumans : gone.Nodup := by
    rw [← hgone, retired]
    exact s.peerSessions.nodup.sublist (List.Sublist.map _ List.filter_sublist)
  -- The allocations move from the lanes to those that are pending.
  have hperm : (s.channelAllocations.values.map Prod.snd ++ s.pendingCloseIDs).Perm
      ((s.channelAllocations.without gone).values.map Prod.snd ++
        (s.pendingCloseIDs ++ gone.filterMap s.channelAllocations.at?)) := by
    have hmoved := LaneMap.perm_without (List.nodup_append.mp hnodup).1 hhumans
    refine (hmoved.append_right _).trans ?_
    rw [List.append_assoc]
    exact List.perm_append_comm.append_left _
  have hheld : ((s.retire gone).goOn u .snapshot).held =
      (s.channelAllocations.without gone).values.map Prod.snd ++
        (s.pendingCloseIDs ++ gone.filterMap s.channelAllocations.at?) := by
    show _ ++ _ ++ u.allocatedIDs = _
    rw [hfresh.1, List.append_nil]
    rfl
  have hleft : ∀ {α : Type} (m : LaneMap α), (m.without gone).keys ⊆ m.keys := fun m human hmem =>
    (LaneMap.mem_keys_without.mp hmem).1
  exact
    { keys :=
        { outbound := fun human => by
            show human ∈ (s.outbound.without gone).keys ↔ human ∈ (s.peerSessions.without gone).keys
            rw [LaneMap.mem_keys_without, LaneMap.mem_keys_without]
            exact and_congr_left fun _ => h.keys.outbound human
          peerSessions := fun human => Iff.rfl
          channelTokens := fun human => by
            show human ∈ (s.channelTokens.without gone).keys ↔
              human ∈ (s.peerSessions.without gone).keys
            rw [LaneMap.mem_keys_without, LaneMap.mem_keys_without]
            exact and_congr_left fun _ => h.keys.channelTokens human
          channelAllocations := fun human => by
            show human ∈ (s.channelAllocations.without gone).keys ↔
              human ∈ (s.peerSessions.without gone).keys
            rw [LaneMap.mem_keys_without, LaneMap.mem_keys_without]
            exact and_congr_left fun _ => h.keys.channelAllocations human }
      nodup := hheld ▸ hperm.nodup_iff.mp hnodup
      mem := fun id => by
        rw [hheld, ← hperm.mem_iff]
        exact hmem id
      work := fun other hother => by
        obtain rfl := Option.some.inj hother
        refine ⟨hvalid, fun _ => ?_, hfresh, fun lane hlane => ?_⟩
        · exact
            { outbound := fun _ hkey => hwithin.outbound (hleft _ hkey)
              peerSessions := fun _ hkey => hwithin.peerSessions (hleft _ hkey)
              channelTokens := fun _ hkey => hwithin.channelTokens (hleft _ hkey)
              channelAllocations := fun _ hkey => hwithin.channelAllocations (hleft _ hkey) }
        · obtain ⟨hlane, hkept⟩ := List.mem_filter.mp hlane
          -- A lane that is left was kept.
          have hkeeps : s.keeps ready u.sources lane = true := by
            by_contra hnot
            refine of_decide_eq_true hkept ?_
            rw [← hgone, retired]
            exact List.mem_map.mpr ⟨lane, List.mem_filter.mpr ⟨hlane, by simpa using hnot⟩, rfl⟩
          rw [keeps, Bool.and_eq_true] at hkeeps
          exact List.contains_iff_mem.mp hkeeps.1
      succeeded := h.succeeded
      failed := h.failed }

lemma snapshot (hupdate : s.update = some u) (hstage : u.stage = .snapshot) :
    (s.finish u false).Owned ∧
      (s.goOn { u with
        currentOutbound := s.outbound
        currentPeerSessions := s.peerSessions
        currentAllocations := s.channelAllocations } .choose).Owned := by
  obtain ⟨hvalid, hwithin, hok⟩ := h.at_stage hupdate hstage ChannelUpdateStage.noConfusion
  refine ⟨h.finish hupdate hok.1.1 (fun hyes => by cases hyes) fun _ => hwithin, ?_⟩
  exact h.goOn hupdate rfl
    ⟨hvalid, fun _ => hwithin, hok.1, hok.2, rfl, rfl, rfl⟩

lemma choose (hupdate : s.update = some u) (hstage : u.stage = .choose)
    (ready : List ℕ) : (s.choose u ready).Owned := by
  obtain ⟨hvalid, hwithin, hfresh, hdesired, hcurrent⟩ :=
    h.at_stage hupdate hstage ChannelUpdateStage.noConfusion
  exact h.goOn hupdate rfl
    ⟨hvalid, fun _ => hwithin, hfresh, hdesired, hcurrent, List.filter_sublist⟩

end

lemma closePending_same (s : ChannelTransport) (closes : Bool) :
    (s.closePending closes).1.update = s.update ∧
    (s.closePending closes).1.laneKeys = s.laneKeys := by
  rw [ChannelTransport.closePending]
  split
  · exact ⟨rfl, rfl⟩
  · split <;> exact ⟨rfl, rfl⟩

section

variable (h : s.Owned) (hupdate : s.update = some u)
include h hupdate

lemma clean (hstage : u.stage = .clean) (closes : Bool) : (s.clean u closes).Owned := by
  obtain ⟨hvalid, hwithin, hfresh, hchosen⟩ :=
    h.at_stage hupdate hstage ChannelUpdateStage.noConfusion
  rw [ChannelTransport.clean]
  split
  next hnone =>
    refine h.goOn hupdate rfl ⟨hvalid, fun _ => hwithin, hchosen, ?_, ?_⟩
    · show u.allocatedIDs.length = u.newSources.length
      rw [hfresh.1, hnone]
      rfl
    · show u.newOutbound.keys = u.newSources.map _
      rw [hfresh.2, hnone]
      rfl
  next =>
    split
    · have hclosed := h.closePending closes
      have hupdate' := (closePending_same s closes).1.trans hupdate
      obtain ⟨-, hwithin', hok'⟩ :=
        hclosed.at_stage hupdate' hstage ChannelUpdateStage.noConfusion
      exact hclosed.goOn hupdate' rfl ⟨hvalid, fun _ => hwithin', hok'⟩
    · exact h.finish hupdate hfresh.1 (fun hyes => by cases hyes) fun _ => hwithin

lemma allocate (hstage : u.stage = .allocate) {ids : List UInt16} {succeeds : Bool}
    (hguard : s.keepsOwners (.allocate ids succeeds) = true) :
    (s.allocate u ids succeeds).Owned := by
  obtain ⟨hvalid, hwithin, hfresh, hchosen⟩ :=
    h.at_stage hupdate hstage ChannelUpdateStage.noConfusion
  rw [keepsOwners, Bool.and_eq_true, decide_eq_true_eq, List.all_eq_true] at hguard
  have hnodup := h.nodup
  have hmem := h.mem
  rw [held_eq hupdate, hfresh.1, List.append_nil] at hnodup hmem
  rw [ChannelTransport.allocate]
  generalize hnext : (if succeeds = true ∧ ids.length = u.newSources.length then
    ChannelUpdateStage.create u.newSources else .rollBack) = stage
  exact
    { keys := h.keys
      nodup := by
        show (s.channelAllocations.values.map Prod.snd ++ s.pendingCloseIDs ++ ids).Nodup
        refine hnodup.append hguard.1 fun id hold hnew => ?_
        exact of_decide_eq_true (hguard.2 id hnew) ((hmem id).mp hold)
      mem := fun id => by
        show id ∈ s.channelAllocations.values.map Prod.snd ++ s.pendingCloseIDs ++ ids ↔
          id ∈ s.openIDs ++ ids
        rw [List.mem_append, hmem id, List.mem_append]
      work := fun other hother => by
        obtain rfl := Option.some.inj hother
        refine ⟨hvalid, fun _ => hwithin, ?_⟩
        show StageOk _ _ stage
        rw [← hnext]
        split
        next hsucceeds =>
          refine ⟨[], rfl, hchosen, hsucceeds.2, ?_⟩
          show u.newOutbound.keys = _
          rw [hfresh.2]
          rfl
        next => trivial
      succeeded := h.succeeded
      failed := h.failed }

lemma create {source : ParticipantSource}
    {rest : List ParticipantSource} (hstage : u.stage = .create (source :: rest))
    (created : Bool) : (s.create u source rest created).Owned := by
  obtain ⟨hvalid, hwithin, before, hsplit, hchosen, hlength, hkeys⟩ :=
    h.at_stage hupdate hstage ChannelUpdateStage.noConfusion
  rw [ChannelTransport.create]
  split
  · -- The source is not among those that have their channels.
    have hnew : source.participantID ∉ u.newOutbound.keys := by
      have hnodup := hvalid.sublist (hchosen.2.2.map (·.participantID))
      rw [hsplit, List.map_append, List.map_cons] at hnodup
      rw [hkeys]
      exact fun hmem => (List.nodup_append.mp hnodup).2.2 _ hmem _ (List.mem_cons_self ..) rfl
    have hset : (u.newOutbound.set (source.participantID, s.channels)).keys =
        (before ++ [source]).map (·.participantID) := by
      rw [KeyedMap.keys_set, Keyed.key_pair, if_neg hnew, hkeys, List.map_append]
      rfl
    have hcounted : ({ s with channels := s.channels + 1 } : ChannelTransport).Owned :=
      { h with work := fun other hother => (h.work other hother).congr rfl rfl rfl rfl }
    refine hcounted.goOn hupdate rfl ⟨hvalid, fun _ => hwithin, ?_⟩
    show StageOk _ _ (if rest = [] then .wait else .create rest)
    split
    next hrest =>
      subst hrest
      refine ⟨hchosen, hlength, ?_⟩
      show _ = u.newSources.map _
      rw [hsplit]
      exact hset
    next =>
      refine ⟨before ++ [source], ?_, hchosen, hlength, hset⟩
      rw [List.append_assoc]
      exact hsplit
  · exact h.goOn hupdate rfl ⟨hvalid, fun _ => hwithin, trivial⟩

end

lemma withLanes_are {lanes : List AssignedLane} {humans : List String}
    (hhumans : lanes.map (·.source.participantID) = humans) (hnodup : humans.Nodup) :
    (s.withLanes lanes).laneKeys.Are humans ∧ (s.withLanes lanes).peerSessions.keys = humans ∧
      (s.withLanes lanes).channelAllocations.values =
        lanes.map fun lane => (lane.source.participantID, lane.allocation) := by
  have hkeys : ∀ {α : Type} (f : AssignedLane → α),
      (LaneMap.ofList (lanes.map fun lane => (lane.source.participantID, f lane))).values =
        lanes.map fun lane => (lane.source.participantID, f lane) := by
    intro α f
    refine LaneMap.values_ofList ?_
    rw [List.map_map]
    exact hhumans ▸ hnodup
  have hall : ∀ {α : Type} (f : AssignedLane → α), KeyedMap.keys
      (LaneMap.ofList (lanes.map fun lane => (lane.source.participantID, f lane))) = humans := by
    intro α f
    rw [KeyedMap.keys, hkeys, List.map_map]
    exact hhumans
  refine ⟨⟨fun human => ?_, fun human => ?_, fun human => ?_, fun human => ?_⟩, hall _, hkeys _⟩
  all_goals
    show human ∈ KeyedMap.keys (LaneMap.ofList _) ↔ _
    rw [hall]

section

variable (h : s.Owned) (hupdate : s.update = some u)
include h hupdate

/-- What a commit leaves of the allocations was held by a lane that is kept, or is new. -/
lemma perm_assigned (hstage : u.stage = .commit)
    {lanes : List AssignedLane} (hlanes : u.assignLanes? = some lanes)
    (hguard : ∀ source ∈ u.newSources, source.participantID ∉ s.channelAllocations.keys) :
    (lanes.map (·.allocation)).Perm
      (s.channelAllocations.values.map Prod.snd ++ u.allocatedIDs) := by
  obtain ⟨hvalid, -, ⟨hdesired, ⟨-, hsessions, hallocations⟩, hsublist⟩, hlength, hnew⟩ :=
    h.at_stage hupdate hstage ChannelUpdateStage.noConfusion
  obtain ⟨rfl, -, hsome⟩ := ChannelUpdate.sources_assignLanes? hlanes
  have hnewIDs := hvalid.sublist (hsublist.map (·.participantID))
  have hnodup := h.nodup
  rw [held_eq hupdate, List.append_assoc] at hnodup
  have hlaneIDs := (List.nodup_append.mp hnodup).1
  have hallocated := (List.nodup_append.mp (List.nodup_append.mp hnodup).2.1).2.1
  have hdisjoint : ∀ id ∈ s.channelAllocations.values.map Prod.snd, id ∉ u.allocatedIDs :=
    fun id hlane hid =>
      (List.nodup_append.mp hnodup).2.2 id hlane id (List.mem_append_right _ hid) rfl
  -- An id that was allocated belongs to one source.
  have hzip : ∀ {human id}, u.allocated? human = some id ↔
      ∃ source, (source, id) ∈ u.newSources.zip u.allocatedIDs ∧ source.participantID = human :=
    ChannelUpdate.allocated?_eq_some_iff hnewIDs hlength
  have hzipIDs : ((u.newSources.zip u.allocatedIDs).map Prod.snd) = u.allocatedIDs :=
    List.map_snd_zip (Nat.le_of_eq hlength)
  have hinj : ∀ {human human' lane lane'}, u.assignLane? human = some lane →
      u.assignLane? human' = some lane' → lane.allocation = lane'.allocation →
      human.participantID = human'.participantID := by
    intro source source' lane lane' hlane hlane' hsame
    rcases (ChannelUpdate.assignLane?_eq_some hlane).2 with ⟨-, hid⟩ | ⟨-, hid⟩ <;>
      rcases (ChannelUpdate.assignLane?_eq_some hlane').2 with ⟨-, hid'⟩ | ⟨-, hid'⟩
    · obtain ⟨found, hmem, hhuman⟩ := hzip.mp hid
      obtain ⟨found', hmem', hhuman'⟩ := hzip.mp hid'
      have heq : found = found' := congrArg Prod.fst
        (List.inj_on_of_nodup_map (hzipIDs.symm ▸ hallocated) hmem hmem' hsame)
      rw [← hhuman, ← hhuman', heq]
    · obtain ⟨found, hmem, -⟩ := hzip.mp hid
      rw [hallocations] at hid'
      refine absurd (List.of_mem_zip hmem).2 (hdisjoint _ ?_)
      exact List.mem_map.mpr ⟨_, LaneMap.at?_eq_some_iff.mp hid', hsame.symm⟩
    · obtain ⟨found, hmem, -⟩ := hzip.mp hid'
      rw [hallocations] at hid
      refine absurd (List.of_mem_zip hmem).2 (hdisjoint _ ?_)
      exact List.mem_map.mpr ⟨_, LaneMap.at?_eq_some_iff.mp hid, hsame⟩
    · rw [hallocations] at hid hid'
      exact congrArg Prod.fst (List.inj_on_of_nodup_map hlaneIDs
        (LaneMap.at?_eq_some_iff.mp hid) (LaneMap.at?_eq_some_iff.mp hid') hsame)
  have hassigned : ((u.sources.filterMap u.assignLane?).map (·.allocation)).Nodup := by
    rw [List.map_filterMap, List.Nodup, List.pairwise_filterMap]
    refine (List.pairwise_map.mp hvalid).imp fun hne id hid id' hid' hsame => ?_
    obtain ⟨lane, hlane, rfl⟩ := Option.map_eq_some_iff.mp hid
    obtain ⟨lane', hlane', rfl⟩ := Option.map_eq_some_iff.mp hid'
    exact hne (hinj hlane hlane' hsame)
  refine (List.perm_ext_iff_of_nodup hassigned (hlaneIDs.append hallocated hdisjoint)).mpr
    fun id => ?_
  rw [List.mem_append, List.mem_map]
  constructor
  · rintro ⟨lane, hmem, rfl⟩
    obtain ⟨source, -, hlane⟩ := List.mem_filterMap.mp hmem
    rcases (ChannelUpdate.assignLane?_eq_some hlane).2 with ⟨-, hid⟩ | ⟨-, hid⟩
    · obtain ⟨found, hmem, -⟩ := hzip.mp hid
      exact Or.inr (List.of_mem_zip hmem).2
    · rw [hallocations] at hid
      exact Or.inl (List.mem_map.mpr ⟨_, LaneMap.at?_eq_some_iff.mp hid, rfl⟩)
  · rintro (hlane | hid)
    · -- A lane that was kept keeps its allocation.
      obtain ⟨⟨human, allocation⟩, hmem, rfl⟩ := List.mem_map.mp hlane
      have hat := LaneMap.at?_eq_some_iff.mpr hmem
      have hhuman := LaneMap.mem_keys_of_at? hat
      obtain ⟨session, hsession⟩ := LaneMap.exists_of_mem_keys
        ((h.keys.channelAllocations human).mp hhuman)
      have hsource := hdesired _ (LaneMap.at?_eq_some_iff.mp hsession)
      obtain ⟨lane, hassign⟩ := hsome _ hsource
      refine ⟨lane, List.mem_filterMap.mpr ⟨_, hsource, hassign⟩, ?_⟩
      rcases (ChannelUpdate.assignLane?_eq_some hassign).2 with ⟨hmem, -⟩ | ⟨-, hid⟩
      · rw [hnew] at hmem
        obtain ⟨other, hother, rfl⟩ := List.mem_map.mp hmem
        exact absurd hhuman (hguard other hother)
      · rw [hallocations] at hid
        exact Option.some.inj (hid.symm.trans hat)
    · rw [← hzipIDs] at hid
      obtain ⟨⟨source, id⟩, hmem, rfl⟩ := List.mem_map.mp hid
      have hsource := (List.of_mem_zip hmem).1
      obtain ⟨lane, hassign⟩ := hsome source (hsublist.subset hsource)
      refine ⟨lane, List.mem_filterMap.mpr ⟨_, hsublist.subset hsource, hassign⟩, ?_⟩
      rcases (ChannelUpdate.assignLane?_eq_some hassign).2 with ⟨-, hid⟩ | ⟨hnot, -⟩
      · exact Option.some.inj (hid.symm.trans (hzip.mpr ⟨source, hmem, rfl⟩))
      · rw [hnew] at hnot
        exact absurd (List.mem_map.mpr ⟨source, hsource, rfl⟩) hnot

lemma commit (hstage : u.stage = .commit)
    {current : Bool} (hguard : s.keepsOwners (.commit current) = true) :
    (s.commit u current).Owned := by
  obtain ⟨hvalid, hwithin, -⟩ := h.at_stage hupdate hstage ChannelUpdateStage.noConfusion
  have hback : (s.goOn u .rollBack).Owned :=
    h.goOn hupdate rfl ⟨hvalid, fun _ => hwithin, trivial⟩
  rw [ChannelTransport.commit]
  split
  next lanes hlanes =>
    split
    next hcurrent =>
      rw [keepsOwners, hcurrent, Bool.not_true, Bool.false_or, hupdate, Option.all_some,
        List.all_eq_true] at hguard
      have hperm := h.perm_assigned hupdate hstage hlanes fun source hmem =>
        of_decide_eq_true (hguard source hmem)
      obtain ⟨-, hsources, -⟩ := ChannelUpdate.sources_assignLanes? hlanes
      have hhumans : lanes.map (·.source.participantID) = u.sources.map (·.participantID) := by
        rw [← hsources, List.map_map]
        rfl
      obtain ⟨hare, hkeys, hvalues⟩ := withLanes_are hhumans hvalid
      have hheld : ((s.withLanes lanes).goOn { u with allocatedIDs := [] } .tidy).held =
          lanes.map (·.allocation) ++ s.pendingCloseIDs := by
        show (s.withLanes lanes).channelAllocations.values.map Prod.snd ++ s.pendingCloseIDs ++ [] =
          _
        rw [hvalues, List.map_map, List.append_nil]
        rfl
      -- Nothing that was held is lost.
      have hsame : (lanes.map (·.allocation) ++ s.pendingCloseIDs).Perm s.held := by
        rw [held_eq hupdate]
        refine (hperm.append_right _).trans ?_
        rw [List.append_assoc, List.append_assoc]
        exact List.perm_append_comm.append_left _
      exact
        { keys := by
            show (s.withLanes lanes).laneKeys.Are (s.withLanes lanes).peerSessions.keys
            rw [hkeys]
            exact hare
          nodup := hheld ▸ hsame.nodup_iff.mpr h.nodup
          mem := fun id => by
            rw [hheld, hsame.mem_iff]
            exact h.mem id
          work := fun other hother => by
            obtain rfl := Option.some.inj hother
            exact ⟨hvalid, fun hne => absurd rfl hne, rfl, hare⟩
          succeeded := h.succeeded
          failed := h.failed }
    next => exact hback
  next => exact hback

lemma tidy (hstage : u.stage = .tidy) (closes : Bool) : (s.tidy u closes).Owned := by
  have hok := (h.work u hupdate).stage
  rw [hstage] at hok
  rw [ChannelTransport.tidy]
  split
  · obtain ⟨hsame, hkeys⟩ := closePending_same s closes
    exact (h.closePending closes).finish (hsame.trans hupdate) hok.1 (fun _ => hkeys ▸ hok.2)
      fun hno => by cases hno
  · exact h.finish hupdate hok.1 (fun _ => hok.2) fun hno => by cases hno

lemma rollBack (hstage : u.stage = .rollBack) : (s.rollBack u).Owned := by
  obtain ⟨hvalid, hwithin, -⟩ := h.at_stage hupdate hstage ChannelUpdateStage.noConfusion
  rw [ChannelTransport.rollBack]
  split
  next hnone => exact h.finish hupdate hnone (fun hyes => by cases hyes) fun _ => hwithin
  next =>
    have hheld : (({ s with pendingCloseIDs := s.pendingCloseIDs ++ u.allocatedIDs } :
        ChannelTransport).goOn { u with allocatedIDs := [] } .tidyBack).held = s.held := by
      rw [held_eq hupdate, List.append_assoc]
      exact List.append_nil _
    exact
      { keys := h.keys
        nodup := hheld ▸ h.nodup
        mem := fun id => by rw [hheld]; exact h.mem id
        work := fun other hother => by
          obtain rfl := Option.some.inj hother
          exact ⟨hvalid, fun _ => hwithin, rfl⟩
        succeeded := h.succeeded
        failed := h.failed }

lemma tidyBack (hstage : u.stage = .tidyBack)
    (closes : Bool) : ((s.closePending closes).1.finish u false).Owned := by
  obtain ⟨hvalid, hwithin, hok⟩ := h.at_stage hupdate hstage ChannelUpdateStage.noConfusion
  obtain ⟨hsame, hkeys⟩ := closePending_same s closes
  exact (h.closePending closes).finish (hsame.trans hupdate) hok (fun hyes => by cases hyes)
    fun _ => hkeys ▸ hwithin

lemma updateStep {step : ChannelStep}
    (hguard : s.keepsOwners step = true) (hnext : s.updateStep? u step = some s') : s'.Owned := by
  cases step with
  | update => cases hnext
  | create created =>
    rw [updateStep?] at hnext
    split at hnext
    next source rest hstage =>
      obtain rfl := Option.some.inj hnext
      exact h.create hupdate hstage created
    next => cases hnext
  | deauthorize ready =>
    obtain ⟨hstage, ⟨⟩⟩ := Option.ite_none_right_eq_some.mp hnext
    exact h.deauthorize hupdate hstage ready
  | snapshot cancelled =>
    obtain ⟨hstage, hnext⟩ := Option.ite_none_right_eq_some.mp hnext
    obtain rfl := Option.some.inj hnext
    split
    · exact (h.snapshot hupdate hstage).1
    · exact (h.snapshot hupdate hstage).2
  | choose ready =>
    obtain ⟨hstage, ⟨⟩⟩ := Option.ite_none_right_eq_some.mp hnext
    exact h.choose hupdate hstage ready
  | clean closes =>
    obtain ⟨hstage, ⟨⟩⟩ := Option.ite_none_right_eq_some.mp hnext
    exact h.clean hupdate hstage closes
  | allocate ids succeeds =>
    obtain ⟨hstage, ⟨⟩⟩ := Option.ite_none_right_eq_some.mp hnext
    exact h.allocate hupdate hstage hguard
  | wait ready =>
    obtain ⟨hstage, hnext⟩ := Option.ite_none_right_eq_some.mp hnext
    obtain rfl := Option.some.inj hnext
    obtain ⟨hvalid, hwithin, hok⟩ := h.at_stage hupdate hstage ChannelUpdateStage.noConfusion
    refine h.goOn hupdate rfl ⟨hvalid, fun _ => hwithin, ?_⟩
    show StageOk _ _ (if ready then .commit else .rollBack)
    split
    · exact hok
    · trivial
  | commit current =>
    obtain ⟨hstage, ⟨⟩⟩ := Option.ite_none_right_eq_some.mp hnext
    exact h.commit hupdate hstage hguard
  | tidy closes =>
    obtain ⟨hstage, ⟨⟩⟩ := Option.ite_none_right_eq_some.mp hnext
    exact h.tidy hupdate hstage closes
  | rollBack =>
    obtain ⟨hstage, ⟨⟩⟩ := Option.ite_none_right_eq_some.mp hnext
    exact h.rollBack hupdate hstage
  | tidyBack closes =>
    obtain ⟨hstage, ⟨⟩⟩ := Option.ite_none_right_eq_some.mp hnext
    exact h.tidyBack hupdate hstage closes

end

lemma of_next (h : s.Owned) {step : ChannelStep} (hguard : s.keepsOwners step = true)
    (hnext : s.next? step = some s') : s'.Owned := by
  have hstep : (s.update.bind fun u => s.updateStep? u step) = some s' → s'.Owned := by
    intro hbind
    obtain ⟨u, hupdate, hstep⟩ := Option.bind_eq_some_iff.mp hbind
    exact h.updateStep hupdate hguard hstep
  cases step with
  | update sources =>
    rw [next?] at hnext
    split at hnext
    next => cases hnext
    next hnone =>
      obtain rfl := Option.some.inj hnext
      exact h.begin (Option.not_isSome_iff_eq_none.mp hnone) sources
  | _ => exact hstep hnext

end Owned

end ChannelTransport

/-- In every run in which no update replaces a lane that it has kept, allocations are conserved. -/
theorem conserved_of_reachable {s : ChannelTransport}
    (h : channelSystem.ReachableWhen (fun s step => s.keepsOwners step = true) s) :
    s.Conserved := by
  refine ChannelTransport.Owned.conserved (h.invariant ?_ fun s step s' hs hguard hnext =>
    ChannelTransport.Owned.of_next hs hguard hnext)
  rintro s ⟨lanes, hhumans, hids, rfl⟩
  obtain ⟨hare, hkeys, hvalues⟩ := ChannelTransport.Owned.withLanes_are (s := {}) rfl hhumans
  have hheld : ({ ({} : ChannelTransport).withLanes lanes with
      channels := lanes.length
      openIDs := lanes.map (·.allocation) } : ChannelTransport).held =
        lanes.map (·.allocation) := by
    show (({} : ChannelTransport).withLanes lanes).channelAllocations.values.map Prod.snd ++
      [] ++ [] = _
    rw [hvalues, List.map_map, List.append_nil, List.append_nil]
    rfl
  exact
    { keys := by
        show (({} : ChannelTransport).withLanes lanes).laneKeys.Are
          (({} : ChannelTransport).withLanes lanes).peerSessions.keys
        rw [hkeys]
        exact hare
      nodup := hheld ▸ hids
      mem := fun id => by rw [hheld]
      work := fun u hu => by cases hu
      succeeded := fun _ hmem => absurd hmem List.not_mem_nil
      failed := fun _ hmem => absurd hmem List.not_mem_nil }

/-! ### One lane -/

/-- The lane that a transport was started with. -/
def startedLane : AssignedLane := ⟨⟨"ada", "session-1"⟩, 0, 7⟩

/-- The transport that was started with it. -/
def startedTransport : ChannelTransport :=
  { ({} : ChannelTransport).withLanes [startedLane] with
    channels := 1
    openIDs := [7] }

lemma init_startedTransport : channelSystem.init startedTransport :=
  ⟨[startedLane], List.nodup_singleton _, List.nodup_singleton _, rfl⟩

/-- An update that allocates one channel. The lane is ready when lanes are retired. -/
def updateSteps (sources : List ParticipantSource) (ready : List ℕ) : List ChannelStep :=
  [.update sources, .deauthorize [0], .snapshot false, .choose ready, .clean true,
    .allocate [8] true, .create true, .wait true, .commit true, .tidy true]

/-- Another Human is projected, and allocations are conserved. -/
theorem conserved_joined :
    ∃ s, TransitionSystem.runWhen? ChannelTransport.next? ChannelTransport.keepsOwners
      startedTransport (updateSteps [⟨"ada", "session-1"⟩, ⟨"bob", "session-2"⟩] [0]) = some s ∧
      s.Conserved := by
  have hrun : (TransitionSystem.runWhen? ChannelTransport.next? ChannelTransport.keepsOwners
      startedTransport
      (updateSteps [⟨"ada", "session-1"⟩, ⟨"bob", "session-2"⟩] [0])).isSome = true := by
    decide +kernel
  obtain ⟨s, hs⟩ := Option.isSome_iff_exists.mp hrun
  exact ⟨s, hs, conserved_of_reachable
    (TransitionSystem.reachableWhen_of_runWhen (fun _ _ _ h => h) init_startedTransport hs)⟩

/-- The lane is kept, and then is not ready when the sources are chosen that need a channel: its
allocation has no owner any more. -/
theorem not_conserved_unready : ¬∀ s, channelSystem.Reachable s → s.Conserved := by
  intro hconserved
  have hrun : ((TransitionSystem.runWhen? ChannelTransport.next? (fun _ _ => true)
      startedTransport (updateSteps [⟨"ada", "session-1"⟩] [])).any fun s =>
        decide (7 ∈ s.openIDs ∧ s.held = [8])) = true := by
    decide +kernel
  obtain ⟨s, hs, hlost⟩ := (Option.any_eq_true _ _).mp hrun
  have hreach : channelSystem.Reachable s :=
    TransitionSystem.reachable_of_runWhen (fun _ _ _ h => h) init_startedTransport hs
  obtain ⟨hopen, hheld⟩ := of_decide_eq_true hlost
  have honce := (hconserved s hreach).heldOnce 7 hopen
  rw [hheld] at honce
  cases honce

end Free4Chat
