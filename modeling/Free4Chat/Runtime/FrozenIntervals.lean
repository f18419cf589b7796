import Free4Chat.Data.IntervalChain
import Free4Chat.Runtime.LedgerInvariant

/-!
# The Frozen Intervals of a Ledger

Each instruction that waits froze the interval of events `(after, target]` that its context covers.
The intervals of a ledger form a chain, without a gap as long as no instruction was lost. What the
Harness consumed either still stands in this chain, or lies before it.

* `LogicalSession.afterOf`: where the interval of an instruction begins.
* `LogicalSession.Tiles`: the chain of a ledger, and what was consumed of its scope.
* `LogicalSession.Tiles.accept`, `LogicalSession.Tiles.acknowledge`, `LogicalSession.Tiles.discard`,
  `LogicalSession.Tiles.ackPending` and `LogicalSession.Tiles.observe`: the operations that keep it.
* `LedgerChange.afterOf_eq`: an interval stays as it was frozen.
* `LedgerChange.tiles`: a step that keeps to instructions that are held keeps the chain.
-/

namespace Free4Chat

namespace LogicalSession

variable {session : LogicalSession} {received target sequence start : ℕ}

/-- Where the frozen interval of an instruction begins. -/
def afterOf (session : LogicalSession) (sequence : ℕ) : ℕ :=
  ((session.pendingContexts.get? sequence).map (·.after)).getD 0

/-- The events of a context lie in its interval. -/
def EventsFrozen (session : LogicalSession) : Prop :=
  ∀ context ∈ session.pendingContexts.values, ∀ event ∈ context.events,
    context.after < event.sequence ∧ event.sequence ≤ context.target

/-- The intervals of a ledger form a chain. What was consumed, given by its target and the start of
its interval, stands in the chain or lies before it. Unless instructions were lost, the chain has no
gap, and the watermark passed nothing else. -/
structure Tiles (session : LogicalSession) (consumed : ℕ → ℕ → Prop) (lost : Prop) (start : ℕ) :
    Prop where
  chain : IntervalChain session.afterOf start session.pendingAddressed
  filled : IntervalsFill session.afterOf start session.pendingAddressed ∨ lost
  start_le : start ≤ session.effectiveDeliveryStart
  events : session.EventsFrozen
  left : ∀ target after, consumed target after → target ∉ session.pendingAddressed → target ≤ start
  frozen : ∀ target after, consumed target after → target ∈ session.pendingAddressed →
    after = session.afterOf target
  covered : ∀ n, session.roomDeliveryFloor < n → n ≤ session.deliveredThrough →
    (∃ target after, consumed target after ∧ after < n ∧ n ≤ target) ∨ lost

/-! ## Where intervals begin -/

lemma afterOf_of_get? {context : PendingTurnContext}
    (h : session.pendingContexts.get? sequence = some context) :
    session.afterOf sequence = context.after := by
  rw [afterOf, h]
  rfl

variable {buffer : List RoomEvent}

lemma afterOf_accept {scope : String} (hne : target ≠ sequence) :
    (session.accept scope buffer target).afterOf sequence = session.afterOf sequence := by
  rw [afterOf, afterOf, accept]
  dsimp only
  rw [KeyedMap.get?_set_of_ne]
  exact hne

lemma afterOf_accept_self {scope : String} : (session.accept scope buffer target).afterOf target =
      session.pendingAddressed.getLast?.getD session.effectiveDeliveryStart := by
  have hcontext : (session.accept scope buffer target).pendingContexts.get? target =
      some (session.contextFor scope buffer target) := KeyedMap.get?_set_self _ _
  rw [afterOf_of_get? hcontext, contextFor]

variable {other : LogicalSession} {f : PendingTurnContext → PendingTurnContext}

lemma afterOf_modify (hkey : ∀ context, Keyed.key (f context) = Keyed.key context)
    (hcontexts : other.pendingContexts = session.pendingContexts.modify target f hkey)
    (hafter : ∀ context, (f context).after = context.after) :
    other.afterOf sequence = session.afterOf sequence := by
  rw [afterOf, afterOf, hcontexts, KeyedMap.get?_modify]
  split
  · rw [Option.map_map]
    congr 2
    funext context
    exact hafter context
  · rfl

lemma afterOf_filter {p : PendingTurnContext → Bool}
    (hcontexts : other.pendingContexts = session.pendingContexts.filter p)
    (hkept : sequence ∈ other.pendingContexts.keys) :
    other.afterOf sequence = session.afterOf sequence := by
  rw [KeyedMap.mem_keys_iff, hcontexts, KeyedMap.get?_filter] at hkept
  rw [afterOf, afterOf, hcontexts, KeyedMap.get?_filter]
  cases hcontext : session.pendingContexts.get? sequence with
  | none => rfl
  | some context =>
    rw [hcontext, Option.filter_some] at hkept
    rw [Option.filter_some]
    split
    · rfl
    next hnot =>
      rw [if_neg hnot] at hkept
      exact absurd hkept Bool.false_ne_true

lemma afterOf_recordDelivery {through generation : ℕ} :
    ((session.bootstrap generation).recordDelivery target through).afterOf sequence =
      session.afterOf sequence := by
  have hbootstrap : (session.bootstrap generation).afterOf sequence = session.afterOf sequence := by
    unfold bootstrap
    split <;> rfl
  rw [← hbootstrap]
  unfold recordDelivery
  split_ifs
  · exact afterOf_modify (by exact fun _ => rfl) rfl fun _ => rfl
  · rfl
  · rfl

lemma EventsFrozen.of_subset (h : session.EventsFrozen)
    (hsubset : other.pendingContexts.values ⊆ session.pendingContexts.values) :
    other.EventsFrozen :=
  fun context hmem => h context (hsubset hmem)

lemma EventsFrozen.of_modify
    (hkey : ∀ context, Keyed.key (f context) = Keyed.key context) (h : session.EventsFrozen)
    (hcontexts : other.pendingContexts = session.pendingContexts.modify target f hkey)
    (hevents : ∀ context ∈ session.pendingContexts.values, context.target = target →
      ∀ event ∈ (f context).events,
        (f context).after < event.sequence ∧ event.sequence ≤ (f context).target) :
    other.EventsFrozen := by
  intro context hmem
  rw [hcontexts, KeyedMap.mem_modify] at hmem
  obtain ⟨old, hold, hsame, rfl⟩ | ⟨hold, -⟩ := hmem
  · exact hevents old hold hsame
  · exact h context hold

lemma mem_eventsForScope {scope : String} {after through : ℕ}
    {event : RoomEvent} (h : event ∈ eventsForScope buffer scope after through) :
    after < event.sequence ∧ event.sequence ≤ through := by
  have hmember := (List.mem_filter.mp h).2
  rw [Bool.and_eq_true, Bool.and_eq_true] at hmember
  exact ⟨of_decide_eq_true hmember.1.1, of_decide_eq_true hmember.1.2⟩

namespace Tiles

variable {consumed : ℕ → ℕ → Prop} {lost : Prop}

/-! ## Operations -/

section

variable (h : session.Tiles consumed lost start)
include h

lemma congr {other : LogicalSession} (hpending : other.pendingAddressed = session.pendingAddressed)
    (hafter : ∀ sequence, other.afterOf sequence = session.afterOf sequence)
    (hevents : other.EventsFrozen) (hthrough : other.deliveredThrough = session.deliveredThrough)
    (hfloor : other.roomDeliveryFloor = session.roomDeliveryFloor) :
    other.Tiles consumed lost start := by
  refine ⟨?_, ?_, ?_, hevents, ?_, ?_, ?_⟩
  · rw [hpending]
    exact h.chain.congr fun sequence _ => hafter sequence
  · rw [hpending]
    exact h.filled.imp (fun hfilled => hfilled.congr fun sequence _ => hafter sequence) id
  · rw [effectiveDeliveryStart, hthrough, hfloor]
    exact h.start_le
  · rw [hpending]
    exact h.left
  · rw [hpending]
    intro target after hconsumed hmem
    rw [hafter]
    exact h.frozen target after hconsumed hmem
  · rw [hthrough, hfloor]
    exact h.covered

lemma accept {scope : String} {buffer : List RoomEvent}
    {event : RoomEvent} (haccepts : session.accepts event = true)
    (hnew : ∀ sequence ∈ session.pendingAddressed, sequence < event.sequence)
    (hconsumed : ∀ target after, consumed target after → target < event.sequence) :
    ∃ start', (session.accept scope buffer event.sequence).Tiles consumed lost start' := by
  simp only [accepts, Bool.and_eq_true, decide_eq_true_iff] at haccepts
  obtain ⟨⟨⟨-, hstart⟩, -⟩, -⟩ := haccepts
  -- An empty chain may begin anywhere.
  obtain ⟨start', hchain, hfilled, hle, hleft, hend⟩ : ∃ start',
      IntervalChain session.afterOf start' session.pendingAddressed ∧
        (IntervalsFill session.afterOf start' session.pendingAddressed ∨ lost) ∧
        start' ≤ session.effectiveDeliveryStart ∧ start ≤ start' ∧
        session.pendingAddressed.getLast?.getD session.effectiveDeliveryStart =
          session.pendingAddressed.getLastD start' := by
    cases hpending : session.pendingAddressed with
    | nil =>
      exact ⟨session.effectiveDeliveryStart, trivial, Or.inl .nil, le_rfl, h.start_le, rfl⟩
    | cons first rest =>
      refine ⟨start, hpending ▸ h.chain, hpending ▸ h.filled, h.start_le, le_rfl, ?_⟩
      rw [List.getLastD_eq_getLast?, List.getLast?_eq_some_getLast (List.cons_ne_nil _ _)]
      rfl
  have hlast : session.pendingAddressed.getLastD start' < event.sequence := by
    rcases List.mem_cons.mp (List.getLastD_mem_cons (l := session.pendingAddressed) (a := start'))
      with hempty | hmem
    · rw [hempty]
      exact hle.trans_lt hstart
    · exact hnew _ hmem
  have hself : (session.accept scope buffer event.sequence).afterOf event.sequence =
      session.pendingAddressed.getLastD start' := by
    rw [afterOf_accept_self, hend]
  have hothers : ∀ sequence ∈ session.pendingAddressed,
      (session.accept scope buffer event.sequence).afterOf sequence = session.afterOf sequence :=
    fun sequence hmem => afterOf_accept (hnew sequence hmem).ne'
  refine ⟨start', ?_, ?_, hle, fun context hmem => ?_, fun target after hconsumes hmem => ?_,
    fun target after hconsumes hmem => ?_, h.covered⟩
  · refine IntervalChain.append_singleton (hchain.congr hothers) hself.ge ?_
    rw [hself]
    exact hlast
  · exact hfilled.imp
      (fun hfilled => IntervalsFill.append_singleton (hfilled.congr hothers) hself.le) id
  · rcases KeyedMap.mem_set.mp hmem with rfl | ⟨hold, -⟩
    · exact fun _ => mem_eventsForScope
    · exact h.events context hold
  · refine (h.left target after hconsumes fun hold => hmem ?_).trans hleft
    exact List.mem_append_left _ hold
  · have hne : event.sequence ≠ target := (hconsumed target after hconsumes).ne'
    rw [afterOf_accept hne]
    refine h.frozen target after hconsumes ?_
    exact (List.mem_append.mp hmem).resolve_right fun hlast =>
      hne (List.mem_singleton.mp hlast).symm

lemma recover {events : List RoomEvent} (hevents : ∀ event ∈ events,
      session.afterOf target < event.sequence ∧ event.sequence ≤ target) :
    (session.recover target events).Tiles consumed lost start := by
  have hkey : ∀ context : PendingTurnContext, Keyed.key
      (if context.events = [] then { context with events } else context) = Keyed.key context := by
    intro context
    split <;> rfl
  refine h.congr rfl (fun _ => afterOf_modify hkey rfl fun context => ?_) ?_ rfl rfl
  · split <;> rfl
  · refine h.events.of_modify hkey rfl fun context hmem htarget event hevent => ?_
    split at hevent
    next hempty =>
      rw [if_pos hempty]
      have hafter := afterOf_of_get? (KeyedMap.get?_key hmem)
      rw [PendingTurnContext.key_eq, htarget] at hafter
      rw [← hafter, htarget]
      exact hevents event hevent
    next hempty =>
      rw [if_neg hempty]
      exact h.events context hmem event hevent

lemma markSteerPriority : (session.markSteerPriority target).Tiles consumed lost start :=
  h.congr rfl (fun _ => afterOf_modify (by exact fun _ => rfl) rfl fun _ => rfl)
    (h.events.of_modify (by exact fun _ => rfl) rfl
      fun context hmem _ => h.events context hmem) rfl rfl

lemma observe {generation : ℕ} (hmem : target ∈ session.pendingAddressed) :
    (session.observe generation target).Tiles consumed lost start := by
  unfold LogicalSession.observe
  split_ifs
  · exact h
  · exact h.congr rfl (fun _ => rfl) h.events rfl rfl
  · exact h
  · exact h.congr rfl (fun _ => rfl) h.events rfl rfl
  · exact h.congr rfl (fun _ => rfl) h.events rfl rfl
  · obtain ⟨hstart, hinner⟩ := h.chain.start_le hmem
    refine ⟨h.chain, h.filled, ?_, h.events, h.left, h.frozen, fun n _ hn => ?_⟩
    · show start ≤ max 0 (target - 1)
      omega
    · -- Nothing was delivered in the new session yet.
      dsimp only at hn
      omega
  · exact h.congr rfl (fun _ => rfl) h.events rfl rfl

lemma discard {lost' : Prop} (hlost : lost ∨ session.pendingAddressed ≠ [] → lost') :
    ∃ start', session.discard.Tiles consumed lost' start' := by
  have hbound := foldl_max_lt_iff (l := session.pendingAddressed) (a := session.deliveredThrough)
    (b := session.pendingAddressed.foldl max session.deliveredThrough + 1)
  obtain ⟨hthrough, hpassed⟩ := hbound.mp (Nat.lt_succ_self _)
  have heffective : session.discard.effectiveDeliveryStart =
      max (session.pendingAddressed.foldl max session.deliveredThrough)
        session.roomDeliveryFloor := rfl
  have hstart := h.start_le
  rw [effectiveDeliveryStart] at hstart
  refine ⟨session.discard.effectiveDeliveryStart, trivial, Or.inl .nil, le_rfl, ?_, ?_, ?_, ?_⟩
  · exact h.events.of_subset fun context hmem => (List.mem_filter.mp hmem).1
  · intro target after hconsumed _
    rw [heffective]
    by_cases hmem : target ∈ session.pendingAddressed
    · have := hpassed target hmem
      omega
    · have := h.left target after hconsumed hmem
      omega
  · exact fun _ _ _ hmem => absurd hmem List.not_mem_nil
  · intro n hfloor hn
    by_cases hempty : session.pendingAddressed = []
    · refine (h.covered n hfloor ?_).imp id fun hwas => hlost (Or.inl hwas)
      rw [LogicalSession.discard, hempty] at hn
      exact hn
    · exact Or.inr (hlost (Or.inr hempty))

lemma ackPending (hconsistent : session.Consistent received) {lost' : Prop}
    (hremoved : target ∈ session.pendingAddressed → (∀ after, ¬consumed target after) ∧ lost')
    (hlost : lost → lost') : (session.ackPending target).Tiles consumed lost' start := by
  unfold LogicalSession.ackPending
  split
  next hmem =>
    obtain ⟨hunconsumed, hgone⟩ := hremoved hmem
    have hkept : (session.ackPending target).Consistent received := hconsistent.ackPending
    rw [LogicalSession.ackPending, if_pos hmem] at hkept
    have hsub : List.Sublist (session.pendingAddressed.erase target) session.pendingAddressed :=
      List.erase_sublist
    have hafter : ∀ sequence ∈ session.pendingAddressed.erase target,
        LogicalSession.afterOf { session with
          pendingAddressed := session.pendingAddressed.erase target
          pendingContexts := session.pendingContexts.erase target } sequence =
            session.afterOf sequence :=
      fun sequence hstays => afterOf_filter rfl ((hkept.contexts sequence).mpr hstays)
    refine ⟨(h.chain.sublist hsub).congr hafter, Or.inr hgone, h.start_le, ?_, ?_, ?_, ?_⟩
    · exact h.events.of_subset fun context hcontext => (List.mem_filter.mp hcontext).1
    · intro sequence after hconsumed hnot
      refine h.left sequence after hconsumed fun hold => hnot ?_
      refine (List.mem_erase_of_ne ?_).mpr hold
      rintro rfl
      exact hunconsumed after hconsumed
    · intro sequence after hconsumed hstays
      rw [hafter sequence hstays]
      exact h.frozen sequence after hconsumed (hsub.subset hstays)
    · exact fun n hfloor hn => (h.covered n hfloor hn).imp id hlost
  next => exact { h with
      filled := h.filled.imp id hlost
      covered := fun n hfloor hn => (h.covered n hfloor hn).imp id hlost }

lemma insert {consumed' : ℕ → ℕ → Prop}
    (hconsumed : ∀ sequence after, consumed sequence after → consumed' sequence after)
    (hnew : ∀ sequence after, consumed' sequence after → consumed sequence after ∨
      sequence ∈ session.pendingAddressed ∧ session.afterOf sequence = after) :
    session.Tiles consumed' lost start := by
  refine ⟨h.chain, h.filled, h.start_le, h.events, ?_, ?_, ?_⟩
  · intro sequence after hconsumes hnot
    rcases hnew sequence after hconsumes with hold | ⟨hmem, -⟩
    · exact h.left sequence after hold hnot
    · exact absurd hmem hnot
  · intro sequence after hconsumes hmem
    rcases hnew sequence after hconsumes with hold | ⟨-, hafter⟩
    · exact h.frozen sequence after hold hmem
    · exact hafter.symm
  · intro n hfloor hn
    refine (h.covered n hfloor hn).imp (fun hold => ?_) id
    obtain ⟨sequence, after, hconsumes, hinside⟩ := hold
    exact ⟨sequence, after, hconsumed sequence after hconsumes, hinside⟩

lemma recordDelivery {through generation : ℕ}
    (htarget : ∃ after, consumed target after) (hthrough : through ≤ target) :
    ((session.bootstrap generation).recordDelivery target through).Tiles consumed lost start := by
  have hbootstrap : (session.bootstrap generation).Tiles consumed lost start := by
    unfold bootstrap
    split
    · exact h.congr rfl (fun _ => rfl) h.events rfl rfl
    · exact h
  unfold LogicalSession.recordDelivery
  split_ifs with hcontext hempty
  · exact hbootstrap.congr rfl (fun _ => afterOf_modify (by exact fun _ => rfl) rfl fun _ => rfl)
      (hbootstrap.events.of_modify (by exact fun _ => rfl) rfl fun context hmem _ =>
        hbootstrap.events context hmem) rfl rfl
  · obtain ⟨hpending, hbehind⟩ := hempty
    obtain ⟨after, hconsumed⟩ := htarget
    -- What was consumed and does not wait lies before the start.
    have hbelow := hbootstrap.left target after hconsumed (by rw [hpending]; exact List.not_mem_nil)
    have hstart := hbootstrap.start_le
    rw [effectiveDeliveryStart] at hstart
    refine ⟨hbootstrap.chain, hbootstrap.filled, ?_, hbootstrap.events, hbootstrap.left,
      hbootstrap.frozen, fun n hfloor hn => ?_⟩
    · show start ≤ max through (session.bootstrap generation).roomDeliveryFloor
      omega
    · dsimp only at hfloor hn
      omega
  · exact hbootstrap

/-- The head of the chain is removed. -/
lemma collapseDeliveredPrefix (hconsistent : session.Consistent received)
    (hmarks : ∀ sequence ∈ session.pendingAddressed, session.isDelivered sequence = true →
      ∃ after, consumed sequence after) : session.collapseDeliveredPrefix.Tiles consumed lost
      (session.deliveredPrefix.getLastD start) := by
  have hsplit : session.deliveredPrefix ++ session.collapseDeliveredPrefix.pendingAddressed =
      session.pendingAddressed := List.takeWhile_append_dropWhile
  have hchain := h.chain
  rw [← hsplit] at hchain
  obtain ⟨hhead, hrest⟩ := hchain.of_append
  have hfilled : (IntervalsFill session.afterOf start session.deliveredPrefix ∧
      IntervalsFill session.afterOf (session.deliveredPrefix.getLastD start)
        session.collapseDeliveredPrefix.pendingAddressed) ∨ lost := by
    refine h.filled.imp (fun hfilled => ?_) id
    rw [← hsplit] at hfilled
    exact hfilled.of_append hchain
  have hkept := hconsistent.collapseDeliveredPrefix
  have hafter : ∀ sequence ∈ session.collapseDeliveredPrefix.pendingAddressed,
      session.collapseDeliveredPrefix.afterOf sequence = session.afterOf sequence :=
    fun sequence hmem => afterOf_filter rfl ((hkept.contexts sequence).mpr hmem)
  have hpassed : ∀ m, session.deliveredPrefix.foldl max session.deliveredThrough < m ↔
      session.deliveredThrough < m ∧ ∀ sequence ∈ session.deliveredPrefix, sequence < m :=
    fun m => foldl_max_lt_iff
  have hthrough : session.collapseDeliveredPrefix.deliveredThrough =
      session.deliveredPrefix.foldl max session.deliveredThrough := rfl
  have hstart := h.start_le
  rw [effectiveDeliveryStart] at hstart
  refine ⟨hrest.congr hafter, hfilled.imp (fun hfilled => hfilled.2.congr hafter) id, ?_, ?_, ?_,
    ?_, ?_⟩
  · -- The end of what was removed is below the new watermark.
    obtain ⟨hold, hall⟩ := (hpassed _).mp (Nat.lt_succ_self _)
    show session.deliveredPrefix.getLastD start ≤
      max (session.deliveredPrefix.foldl max session.deliveredThrough) session.roomDeliveryFloor
    rcases List.mem_cons.mp (List.getLastD_mem_cons (l := session.deliveredPrefix) (a := start))
      with hempty | hmem
    · rw [hempty]
      omega
    · have hlast := hall _ hmem
      omega
  · exact h.events.of_subset fun context hmem => (List.mem_filter.mp hmem).1
  · intro target after hconsumed hnot
    by_cases hmem : target ∈ session.pendingAddressed
    · rw [← hsplit, List.mem_append] at hmem
      exact hhead.le_end (hmem.resolve_right hnot)
    · exact (h.left target after hconsumed hmem).trans hhead.start_le_end
  · intro target after hconsumed hmem
    rw [hafter target hmem]
    refine h.frozen target after hconsumed ?_
    rw [← hsplit]
    exact List.mem_append_right _ hmem
  · intro n hfloor hn
    rw [hthrough] at hn
    rcases le_or_gt n session.deliveredThrough with hold | hnew
    · exact h.covered n hfloor hold
    · -- What the watermark passes now was in the part that is removed.
      refine hfilled.elim (fun hfilled => ?_) Or.inr
      have hend : n ≤ session.deliveredPrefix.getLastD start := by
        by_contra hgt
        rw [not_le] at hgt
        exact hn.not_gt ((hpassed n).mpr
          ⟨hnew, fun sequence hmem => (hhead.le_end hmem).trans_lt hgt⟩)
      have hbefore : start < n := by
        have hfloor' : session.roomDeliveryFloor < n := hfloor
        omega
      obtain ⟨sequence, hmem, hinside⟩ := hfilled.1 n hbefore hend
      have hpending : sequence ∈ session.pendingAddressed := by
        rw [← hsplit]
        exact List.mem_append_left _ hmem
      have hmark : session.isDelivered sequence = true := by
        have hremoved := List.mem_takeWhile_imp hmem
        rw [Bool.or_eq_true] at hremoved
        refine hremoved.resolve_right fun hmissing => ?_
        have hkey := (hconsistent.contexts sequence).mpr hpending
        rw [KeyedMap.mem_keys_iff] at hkey
        rw [KeyedMap.contains, hkey] at hmissing
        exact absurd hmissing Bool.false_ne_true
      obtain ⟨after, hconsumed⟩ := hmarks sequence hpending hmark
      refine Or.inl ⟨sequence, after, hconsumed, ?_, hinside.2⟩
      rw [h.frozen sequence after hconsumed hpending]
      exact hinside.1

lemma acknowledge (hconsistent : session.Consistent received) {through generation : ℕ}
    (hmarks : ∀ sequence ∈ session.pendingAddressed, session.isDelivered sequence = true →
      ∃ after, consumed sequence after)
    (htarget : ∃ after, consumed target after) (hthrough : through ≤ target) :
    ∃ start', (session.acknowledge target through generation).Tiles consumed lost start' := by
  have hbootstrap : (session.bootstrap generation).Consistent received := by
    unfold bootstrap
    split
    · exact hconsistent.congr rfl rfl le_rfl
    · exact hconsistent
  refine ⟨_, (h.recordDelivery htarget hthrough).collapseDeliveredPrefix
    hbootstrap.recordDelivery fun sequence hmem hmark => ?_⟩
  rcases isDelivered_of_recordDelivery hmark with hmark | rfl
  · rw [isDelivered_bootstrap] at hmark
    refine hmarks sequence ?_ hmark
    have hpending : ((session.bootstrap generation).recordDelivery target
        through).pendingAddressed = session.pendingAddressed := by
      unfold LogicalSession.recordDelivery bootstrap
      split_ifs <;> rfl
    rwa [← hpending]
  · exact htarget

end

end Tiles

end LogicalSession

/-! ## Steps -/

namespace LedgerChange

variable {wireLength : RoomEvent → ℕ} {s : RuntimeRun} {step : RuntimeStep} {scope : String}
  {sequence received : ℕ} {session session' : LogicalSession} {before : Option LogicalSession}

/-- An interval stays as it was frozen, as long as its instruction waits. -/
lemma afterOf_eq (h : LedgerChange wireLength s step scope (some session) (some session'))
    (hconsistent : session.Consistent received) (hold : sequence ∈ session.pendingAddressed)
    (hmem : sequence ∈ session'.pendingAddressed) :
    session'.afterOf sequence = session.afterOf sequence := by
  generalize hbefore : some session = before at h
  cases h with
  | unchanged =>
    obtain rfl := Option.some.inj hbefore
    rfl
  | @admitted event events cursor admittedSession admitted hstep hreader hscope hensured =>
    rcases ResidentRuntime.ensureSession?_cases hensured with ⟨before, hfound, hsame⟩ | ⟨hnone, -⟩
    · rw [← hbefore] at hfound
      obtain rfl := Option.some.inj hfound
      have hkept : admittedSession.afterOf sequence = session.afterOf sequence := by
        rcases hsame with rfl | rfl <;> rfl
      have hwaits : sequence ∈ admittedSession.pendingAddressed := by
        rcases hsame with rfl | rfl <;> exact hold
      split
      next haccepts =>
        rw [LogicalSession.afterOf_accept, hkept]
        rintro rfl
        rw [LogicalSession.accepts] at haccepts
        simp only [Bool.and_eq_true, decide_eq_true_iff] at haccepts
        exact haccepts.1.2 hwaits
      next => exact hkept
    · rw [← hbefore] at hnone
      cases hnone
  | @looked target =>
    obtain rfl := Option.some.inj hbefore
    unfold LogicalSession.lookUp
    split
    · rfl
    next hmissing =>
      have hne : target ≠ sequence := by
        rintro rfl
        have hkey := (hconsistent.contexts target).mpr hold
        rw [KeyedMap.mem_keys_iff] at hkey
        exact hmissing hkey
      rw [LogicalSession.afterOf, LogicalSession.afterOf]
      dsimp only
      rw [KeyedMap.get?_set_of_ne]
      rw [PendingTurnContext.key_eq, LogicalSession.contextOf]
      cases hcontext : session.pendingContexts.get? target with
      | none => exact hne
      | some context =>
        rw [KeyedMap.contains, hcontext] at hmissing
        exact absurd rfl hmissing
  | recovered =>
    obtain rfl := Option.some.inj hbefore
    refine LogicalSession.afterOf_modify (fun context => ?_) rfl fun context => ?_
    all_goals split <;> rfl
  | acknowledged =>
    obtain rfl := Option.some.inj hbefore
    exact (LogicalSession.afterOf_filter rfl
      ((hconsistent.acknowledge.contexts sequence).mpr hmem)).trans
        LogicalSession.afterOf_recordDelivery
  | removed =>
    obtain rfl := Option.some.inj hbefore
    have hkey := (hconsistent.ackPending.contexts sequence).mpr hmem
    unfold LogicalSession.ackPending at hkey ⊢
    split
    next hwaits =>
      rw [if_pos hwaits] at hkey
      exact LogicalSession.afterOf_filter rfl hkey
    next => rfl
  | observed =>
    obtain rfl := Option.some.inj hbefore
    unfold LogicalSession.observe
    split_ifs <;> rfl
  | steered =>
    obtain rfl := Option.some.inj hbefore
    exact LogicalSession.afterOf_modify (by exact fun _ => rfl) rfl fun _ => rfl
  | ended =>
    obtain rfl := Option.some.inj hbefore
    rfl
  | discarded | stopped =>
    exact absurd hmem List.not_mem_nil

/-- A step keeps the chain of a ledger, if it keeps to instructions that are held. -/
lemma tiles {consumed : ℕ → ℕ → Prop} {lost lost' : Prop}
    (h : LedgerChange wireLength s step scope before (some session'))
    (hconsistent : ∀ session, before = some session → session.Consistent received)
    (htiles : ∀ session, before = some session → ∃ start, session.Tiles consumed lost start)
    (hreleased : before = none → ∀ released,
      s.runtime.releasedTaskScopes.get? scope = some released →
        ∃ start, (s.runtime.newSession scope).Tiles consumed lost start)
    (hbefore : s.runtime.sessionRef? scope = before)
    (hheld : ∀ target, s.contextReadBy? step = some (scope, target) ∨
      s.observedBy? step = some (scope, target) →
        ∀ session, before = some session → target ∈ session.pendingAddressed)
    (hremoved : ∀ target, s.removedBy? step = some (scope, target) →
      ∀ session, before = some session → target ∈ session.pendingAddressed →
        (∀ after, ¬consumed target after) ∧ lost')
    (hrecovered : ∀ target after, s.contextRecoveredBy? step = some (scope, target, after) →
      ∀ session, before = some session → target ∈ session.pendingAddressed →
        session.afterOf target = after)
    (hmarks : ∀ session, before = some session → ∀ sequence ∈ session.pendingAddressed,
      session.isDelivered sequence = true → ∃ after, consumed sequence after)
    (hacknowledged : ∀ target through, s.acknowledgedBy? step = some (scope, target) →
      s.acknowledgedThrough? step = some through →
        (∃ after, consumed target after) ∧ through ≤ target) (hlost : lost → lost')
    (hquarantined : s.quarantinedBy? step = some scope → ∀ session, before = some session →
      session.pendingAddressed ≠ [] → lost') (hnew : ∀ event events cursor, step = .reader .handle →
      s.reader = some { events := event :: events, cursor } → received < event.sequence)
    (hreceived : ∀ target after, consumed target after → target ≤ received)
    (hrunning : step ≠ .stop) :
    ∃ start, session'.Tiles consumed lost' start := by
  suffices hlosing : ∃ start, session'.Tiles consumed lost start ∨
      session'.Tiles consumed lost' start by
    obtain ⟨start, htiled | htiled⟩ := hlosing
    · exact ⟨start, { htiled with
        filled := htiled.filled.imp id hlost
        covered := fun n hfloor hn => (htiled.covered n hfloor hn).imp id hlost }⟩
    · exact ⟨start, htiled⟩
  cases h with
  | unchanged =>
    obtain ⟨start, htiled⟩ := htiles session' rfl
    exact ⟨start, Or.inl htiled⟩
  | @admitted event events cursor session admitted hstep hreader hscope hensured =>
    have hlater := hnew event events cursor hstep hreader
    have hsession : session.Consistent received ∧ ∃ start, session.Tiles consumed lost start := by
      rcases ResidentRuntime.ensureSession?_cases hensured with
        ⟨before, hold, hsame⟩ | ⟨hnone, hnew⟩
      · obtain ⟨start, htiled⟩ := htiles before hold
        rcases hsame with rfl | rfl
        · exact ⟨hconsistent _ hold, start, htiled⟩
        · exact ⟨(hconsistent before hold).congr rfl rfl le_rfl, start,
            htiled.congr rfl (fun _ => rfl) htiled.events rfl rfl⟩
      · -- A scope that is new to the Runtime starts at its first event.
        obtain ⟨hpending, hcontexts⟩ :=
          @LogicalSession.startAt_newSession s.runtime scope s.runtime.participantID event
        rw [hnew]
        refine ⟨.of_empty hpending hcontexts, ?_⟩
        rw [LogicalSession.startAt]
        split
        next hresumes =>
          -- It resumes where it was given back.
          cases hfound : s.runtime.releasedTaskScopes.get? scope with
          | none =>
            rw [ResidentRuntime.newSession, hfound] at hresumes
            cases hresumes
          | some released =>
            obtain ⟨start, htiled⟩ := hreleased hnone released hfound
            exact ⟨start, htiled.congr rfl (fun _ => rfl) htiled.events rfl rfl⟩
        next hstarts =>
          rw [LogicalSession.startAt, if_neg hstarts] at hpending hcontexts
          refine ⟨event.sequence - 1, ?_, ?_, (max_self _).ge, ?_, ?_, ?_, ?_⟩
          · rw [hpending]
            trivial
          · rw [hpending]
            exact Or.inl .nil
          · intro context hmem
            rw [hcontexts] at hmem
            exact absurd hmem List.not_mem_nil
          · intro target after hconsumed _
            have hbound := hreceived target after hconsumed
            omega
          · intro target after _ hmem
            rw [hpending] at hmem
            exact absurd hmem List.not_mem_nil
          · exact fun n hfloor hn => absurd hfloor hn.not_gt
    obtain ⟨hheldAll, start, htiled⟩ := hsession
    split
    next haccepts =>
      obtain ⟨start', htiled'⟩ := htiled.accept haccepts
        (fun sequence hmem => (hheldAll.received sequence hmem).trans_lt hlater)
        fun target after hconsumed => (hreceived target after hconsumed).trans_lt hlater
      exact ⟨start', Or.inl htiled'⟩
    next => exact ⟨start, Or.inl htiled⟩
  | @looked target session hread =>
    obtain ⟨start, htiled⟩ := htiles session rfl
    rw [(hconsistent session rfl).lookUp_eq (hheld target (Or.inl hread) session rfl)]
    exact ⟨start, Or.inl htiled⟩
  | @recovered target after events session hread hevents =>
    obtain ⟨start, htiled⟩ := htiles session rfl
    by_cases hmem : target ∈ session.pendingAddressed
    · refine ⟨start, Or.inl (htiled.recover fun event hevent => ?_)⟩
      rw [hrecovered target after hread session rfl hmem]
      exact hevents event hevent
    · -- There is no context to complete.
      have hnone : session.pendingContexts.get? target = none := by
        refine KeyedMap.get?_eq_none_of_notMem fun hkey => hmem ?_
        exact ((hconsistent session rfl).contexts target).mp hkey
      have hkey : ∀ context : PendingTurnContext, Keyed.key
          (if context.events = [] then { context with events } else context) =
            Keyed.key context := by
        intro context
        split <;> rfl
      refine ⟨start, Or.inl (htiled.congr rfl
        (fun _ => LogicalSession.afterOf_modify hkey rfl fun context => ?_)
        (htiled.events.of_modify hkey rfl fun context hcontext htarget => ?_) rfl rfl)⟩
      · split <;> rfl
      · have hfound := KeyedMap.get?_key hcontext
        rw [PendingTurnContext.key_eq, htarget, hnone] at hfound
        cases hfound
  | @acknowledged target through generation session hrecords hthrough =>
    obtain ⟨start, htiled⟩ := htiles session rfl
    obtain ⟨hconsumed, hbound⟩ := hacknowledged target through hrecords hthrough
    obtain ⟨start', htiled'⟩ := htiled.acknowledge (hconsistent session rfl) (hmarks session rfl)
      hconsumed hbound
    exact ⟨start', Or.inl htiled'⟩
  | @removed target session hremoves =>
    obtain ⟨start, htiled⟩ := htiles session rfl
    exact ⟨start, Or.inr (htiled.ackPending (hconsistent session rfl)
      (hremoved target hremoves session rfl) hlost)⟩
  | @discarded session hgiven =>
    obtain ⟨start, htiled⟩ := htiles session rfl
    obtain ⟨start', htiled'⟩ : ∃ start', session.discard.Tiles consumed lost' start' :=
      htiled.discard fun hcase => hcase.elim hlost (hquarantined hgiven session rfl)
    exact ⟨start', Or.inr htiled'⟩
  | @observed target generation session hobserves =>
    obtain ⟨start, htiled⟩ := htiles session rfl
    exact ⟨start, Or.inl (htiled.observe (hheld target (Or.inr hobserves) session rfl))⟩
  | @steered control session =>
    obtain ⟨start, htiled⟩ := htiles session rfl
    exact ⟨start, Or.inl htiled.markSteerPriority⟩
  | @ended session =>
    obtain ⟨start, htiled⟩ := htiles session rfl
    exact ⟨start, Or.inl (htiled.congr rfl (fun _ => rfl) htiled.events rfl rfl)⟩
  | stopped hstep => exact absurd hstep hrunning

end LedgerChange

end Free4Chat
