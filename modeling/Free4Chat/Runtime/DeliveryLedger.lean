import Free4Chat.Runtime.LedgerInvariant

/-!
# The Delivery Ledger Stays in Order

In every state of a run the ledgers of all scopes are consistent, and an addressed event leaves its
ledger only when the Harness consumed it, when its failure was published, or when its Task was
given up.

The source breaks this by making up a missing context: `pendingContextFor` stores a context also
for an instruction that has already left. The invariant holds in the runs in which a context is
only looked up while its instruction is still held.

* `DeliveryLedger`: all ledgers are consistent, and nothing left them silently.
* `RuntimeRun.contextsHeld`: no context is looked up for an instruction that has left.
* `deliveryLedger_of_contextsHeld`: the invariant, over every run.
* `not_deliveryLedger_interrupted`: a run in which a context is made up.
-/

namespace Free4Chat

/-! ## The invariant -/

namespace RuntimeRun

variable (s : RuntimeRun)

/-- An instruction waits in the ledger of its scope. -/
def Holds (scope : String) (target : ℕ) : Prop :=
  ∃ session, s.runtime.sessionRef? scope = some session ∧ target ∈ session.pendingAddressed

/-- An instruction left the ledger for a reason. A Runtime that stops drops the ledger of the
Room. -/
def AccountedFor (scope : String) (target : ℕ) : Prop :=
  s.Acknowledged scope target ∨ (scope, target) ∈ s.settled ∨ (scope, target) ∈ s.quarantined ∨
    (s.runtime.stopped = true ∧ scope = roomScope)

/-- Whether the Runtime joins a Room whose numbering is behind what it has received. -/
def takesNumberingBack : RuntimeStep → Bool
  | .reader (.rejoin _ cursor) => decide (cursor < s.runtime.cursor)
  | _ => false

/-- A context is only looked up while its instruction is held, and the numbering of the Room is not
taken back. -/
def contextsHeld (step : RuntimeStep) : Bool :=
  !s.takesNumberingBack step &&
    (s.contextReadBy? step).all fun read =>
      (s.runtime.sessionRef? read.1).all fun session =>
        decide (read.2 ∈ session.pendingAddressed)

end RuntimeRun

/-- All ledgers are consistent, and no accepted instruction left them silently. In particular, the
watermark passes no instruction that still has to be accounted for. -/
structure DeliveryLedger (s : RuntimeRun) : Prop where
  consistent : ∀ scope session, s.runtime.sessionRef? scope = some session →
    session.Consistent s.received
  accounted : ∀ scope target, (scope, target) ∈ s.accepted →
    s.Holds scope target ∨ s.AccountedFor scope target
  passed : ∀ scope target session, (scope, target) ∈ s.accepted →
    s.runtime.sessionRef? scope = some session → target ≤ session.deliveredThrough →
    s.AccountedFor scope target

lemma DeliveryLedger.of_accounted {s : RuntimeRun}
    (hconsistent : ∀ scope session, s.runtime.sessionRef? scope = some session →
      session.Consistent s.received) (haccounted : ∀ scope target, (scope, target) ∈ s.accepted →
      s.Holds scope target ∨ s.AccountedFor scope target) : DeliveryLedger s where
  consistent := hconsistent
  accounted := haccounted
  passed scope target session haccepted hsession hpassed := by
    refine (haccounted scope target haccepted).resolve_left ?_
    rintro ⟨held, hheld, hmem⟩
    rw [hsession] at hheld
    obtain rfl := Option.some.inj hheld
    exact absurd ((hconsistent scope session hsession).watermark target hmem) hpassed.not_gt

/-! ## The reader -/

/-- The reader handles new events, in their order. -/
structure ReaderOrdered (s : RuntimeRun) : Prop where
  idle : s.reader = none → s.received ≤ s.runtime.cursor
  sorted : ∀ reader, s.reader = some reader → reader.events.Pairwise (·.sequence < ·.sequence)
  ahead : ∀ reader, s.reader = some reader → ∀ event ∈ reader.events,
    s.received < event.sequence ∧ event.sequence ≤ reader.cursor
  busy : ∀ reader, s.reader = some reader → s.received ≤ max s.runtime.cursor reader.cursor

namespace ReaderOrdered

variable {s s' : RuntimeRun} {step : RuntimeStep}

lemma of_idle (hidle : s.reader = none) (hreceived : s.received ≤ s.runtime.cursor) :
    ReaderOrdered s := by
  refine ⟨fun _ => hreceived, ?_, ?_, ?_⟩
  all_goals
    rw [hidle]
    exact fun _ hsome => nomatch hsome

section

variable (h : ReaderOrdered s) (hchange : ReaderChange s step s')
include h hchange

lemma of_change (hforward : s.takesNumberingBack step = false) : ReaderOrdered s' := by
  cases hchange with
  | kept _ hreader hreceived hcursor =>
    constructor
    all_goals simp only [hreader, hreceived, hcursor]
    · exact h.idle
    · exact h.sorted
    · exact h.ahead
    · exact h.busy
  | @received envelope hidle hreader hreceived hcursor =>
    have hbound := h.idle hidle
    constructor
    all_goals simp only [hreader, hreceived, hcursor]
    · exact fun hnone => nomatch hnone
    all_goals
      rintro reader hsome
      obtain rfl := Option.some.inj hsome
    · exact envelope.sorted.filter _
    · intro event hmem
      obtain ⟨hmem, hafter⟩ := List.mem_filter.mp hmem
      exact ⟨hbound.trans_lt (of_decide_eq_true hafter), envelope.covered event hmem⟩
    · exact hbound.trans (le_max_left _ _)
  | @handled event events cursor hstep hbefore hreader hreceived hcursor =>
    have hsorted := List.pairwise_cons.mp (h.sorted _ hbefore)
    have hahead := h.ahead _ hbefore
    constructor
    all_goals simp only [hreader, hreceived, hcursor]
    · exact fun hnone => nomatch hnone
    all_goals
      rintro reader hsome
      obtain rfl := Option.some.inj hsome
    · exact hsorted.2
    · exact fun later hmem => ⟨hsorted.1 later hmem, (hahead later (List.mem_cons_of_mem _ hmem)).2⟩
    · exact (hahead event List.mem_cons_self).2.trans (le_max_right _ _)
  | advanced hbefore hreader hreceived hcursor =>
    constructor
    all_goals simp only [hreader, hreceived, hcursor]
    · exact fun _ => h.busy _ hbefore
    all_goals exact fun _ hsome => nomatch hsome
  | @rejoined participantID cursor hstep hidle hreader hreceived hcursor =>
    constructor
    all_goals simp only [hreader, hreceived, hcursor]
    · rw [hstep] at hforward
      exact fun _ => (h.idle hidle).trans (Nat.le_of_not_lt (of_decide_eq_false hforward))
    all_goals exact fun _ hsome => nomatch hsome

lemma received_le : s.received ≤ s'.received := by
  cases hchange with
  | kept _ _ hreceived | received _ _ hreceived | advanced _ _ hreceived
  | rejoined _ _ _ hreceived =>
    exact hreceived.ge
  | @handled event events cursor hstep hbefore hreader hreceived hcursor =>
    rw [hreceived]
    exact (h.ahead _ hbefore event List.mem_cons_self).1.le

lemma handles {event : RoomEvent}
    {events : List RoomEvent} {cursor : ℕ} (hstep : step = .reader .handle)
    (hreader : s.reader = some { events := event :: events, cursor }) :
    s.received < event.sequence ∧ s'.received = event.sequence := by
  refine ⟨(h.ahead _ hreader event List.mem_cons_self).1, ?_⟩
  cases hchange with
  | handled _ hbefore _ hreceived =>
    rw [hreader] at hbefore
    obtain ⟨hevents, -⟩ := Reader.mk.inj (Option.some.inj hbefore)
    rw [hreceived, (List.cons.inj hevents).1]
  | kept hreading => exact absurd hstep (hreading _)
  | received hidle | rejoined _ hidle =>
    rw [hidle] at hreader
    cases hreader
  | advanced hbefore =>
    rw [hreader] at hbefore
    obtain ⟨hevents, -⟩ := Reader.mk.inj (Option.some.inj hbefore)
    cases hevents

end

end ReaderOrdered

/-! ## The record -/

namespace Recorded

variable {s s' : RuntimeRun} {step : RuntimeStep} {scope : String} {target : ℕ}

lemma acknowledged (h : Recorded s s' step) (hacknowledged : s.Acknowledged scope target) :
    s'.Acknowledged scope target := by
  obtain ⟨delivery, hmem, hscope, htarget⟩ := hacknowledged
  refine ⟨delivery, ?_, hscope, htarget⟩
  rw [h.history]
  exact List.mem_append_left _ hmem

lemma acknowledged_of_mem (h : Recorded s s' step) {delivery : Delivery}
    (hmem : HarnessEvent.acknowledged delivery ∈ s.harnessEventsBy step) :
    s'.Acknowledged delivery.scope delivery.target := by
  refine ⟨delivery, ?_, rfl, rfl⟩
  rw [h.history]
  exact List.mem_append_right _ hmem

end Recorded

/-- Whether a section of the settlement of a turn presumes that its instruction was consumed. -/
def Settlement.presumesConsumed : Settlement → Bool
  | .acknowledge _ _ | .ackPending => true
  | _ => false

lemma TurnFailure.presumesConsumed_settlement (failure : TurnFailure) :
    failure.settlement.any Settlement.presumesConsumed = false := by
  unfold settlement
  split_ifs <;> rfl

lemma TurnOutcome.consumes_of_presumesConsumed {outcome : TurnOutcome} {interrupted : Bool}
    {through generation : ℕ} (h : (outcome.settlement interrupted through generation).any
      Settlement.presumesConsumed = true) : outcome.consumes interrupted = true := by
  cases outcome with
  | busy => exact absurd h Bool.false_ne_true
  | terminalFailure | succeeded => rfl
  | failed failure =>
    cases interrupted with
    | true => rfl
    | false =>
      rw [settlement, TurnFailure.presumesConsumed_settlement] at h
      exact absurd h Bool.false_ne_true

lemma RuntimeRun.presumesConsumed_settleTurn {s : RuntimeRun} {turn : TurnRun}
    {todo : List Settlement} {history : Option (List RoomEvent)} {settlement : Settlement}
    (h : (s.settleTurn turn todo history settlement).2.any Settlement.presumesConsumed = true) :
    (settlement :: todo).any Settlement.presumesConsumed = true := by
  rw [List.any_cons, Bool.or_eq_true]
  refine Or.inr ?_
  cases settlement with
  | lookUp =>
    rw [settleTurn] at h
    split at h
    · exact h
    · dsimp only at h
      split at h <;> exact h
  | recover after | quarantine controlUnavailable =>
    rw [settleTurn] at h
    split at h <;> exact h
  | checkStopped =>
    rw [settleTurn] at h
    dsimp only at h
    split at h
    · exact absurd h Bool.false_ne_true
    · exact h
  | scheduleRetry | checkPending =>
    rw [settleTurn] at h
    dsimp only at h
    split at h <;> exact h
  | acknowledge _ _ | clearRetry | failInPass | closeRecovery | ackPending => exact h

/-- What the goroutines presume about the instructions they settle is in the record. -/
structure Backed (s : RuntimeRun) : Prop where
  marks : ∀ scope session target, s.runtime.sessionRef? scope = some session →
    session.isDelivered target = true → s.Acknowledged scope target
  turns : ∀ turn ∈ s.turns, ∀ todo, turn.phase = .settling todo →
    todo.any Settlement.presumesConsumed = true → s.Acknowledged turn.scope turn.target
  steers : ∀ steer ∈ s.steers, steer.phase = .reached →
    s.Acknowledged steer.scope steer.instruction
  settlers : ∀ settler ∈ s.settlers, settler.phase = .acking →
    ∃ target targets, settler.targets = target :: targets ∧ (settler.scope, target) ∈ s.settled

namespace Backed

variable {wireLength : RoomEvent → ℕ} {s s' : RuntimeRun} {step : RuntimeStep} {scope : String}
  {target : ℕ}

lemma acknowledged (h : Backed s) (hacknowledged : s.acknowledgedBy? step = some (scope, target)) :
    s.Acknowledged scope target := by
  unfold RuntimeRun.acknowledgedBy? at hacknowledged
  split at hacknowledged
  next index history =>
    obtain ⟨turn, hturn, hsettles⟩ := Option.bind_eq_some_iff.mp hacknowledged
    split at hsettles
    next through generation todo hphase =>
      obtain ⟨rfl, rfl⟩ := Prod.mk.inj (Option.some.inj hsettles)
      exact h.turns turn (List.mem_of_getElem? hturn) _ hphase rfl
    next => cases hsettles
  next index generation =>
    obtain ⟨steer, hsteer, hrecords⟩ := Option.bind_eq_some_iff.mp hacknowledged
    split at hrecords
    next hphase =>
      obtain ⟨rfl, rfl⟩ := Prod.mk.inj (Option.some.inj hrecords)
      exact h.steers steer (List.mem_of_getElem? hsteer) hphase
    next => cases hrecords
  next => cases hacknowledged

lemma removed (h : Backed s) (hremoved : s.removedBy? step = some (scope, target)) :
    s.Acknowledged scope target ∨ (scope, target) ∈ s.settled := by
  unfold RuntimeRun.removedBy? at hremoved
  split at hremoved
  next index history =>
    obtain ⟨turn, hturn, hsettles⟩ := Option.bind_eq_some_iff.mp hremoved
    split at hsettles
    next todo hphase =>
      obtain ⟨rfl, rfl⟩ := Prod.mk.inj (Option.some.inj hsettles)
      exact Or.inl (h.turns turn (List.mem_of_getElem? hturn) _ hphase rfl)
    next => cases hsettles
  next index =>
    obtain ⟨settler, hsettler, hacks⟩ := Option.bind_eq_some_iff.mp hremoved
    split at hacks
    next head targets htargets hphase =>
      obtain ⟨rfl, rfl⟩ := Prod.mk.inj (Option.some.inj hacks)
      obtain ⟨published, rest, hsame, hsettled⟩ :=
        h.settlers settler (List.mem_of_getElem? hsettler) hphase
      obtain ⟨rfl, -⟩ := List.cons.inj (htargets.symm.trans hsame)
      exact Or.inr hsettled
    next => cases hacks
  next => cases hremoved

lemma of_init {participantID : String} {cursor turnLanes : ℕ} :
    Backed { runtime := firstJoin participantID cursor turnLanes, received := cursor } where
  marks scope session target hsession hmark := by
    have hempty : session.pendingContexts = .empty := by
      rw [ResidentRuntime.sessionRef?] at hsession
      split at hsession
      · obtain rfl := Option.some.inj hsession
        rfl
      · cases hsession
    rw [LogicalSession.isDelivered, hempty] at hmark
    exact absurd hmark Bool.false_ne_true
  turns _ hmem := absurd hmem List.not_mem_nil
  steers _ hmem := absurd hmem List.not_mem_nil
  settlers _ hmem := absurd hmem List.not_mem_nil

lemma turns_of_next (h : Backed s) (houtcome : StepOutcome s step s') {turn : TurnRun}
    (hmem : turn ∈ s'.turns) {todo : List Settlement} (hphase : turn.phase = .settling todo)
    (hpresumes : todo.any Settlement.presumesConsumed = true) :
    s'.Acknowledged turn.scope turn.target := by
  rcases houtcome.turns.mem_cases hmem with hturn | hnew |
    ⟨index, moved, turnStep, phase, hstep, hmoved, hadvance, rfl⟩
  · exact houtcome.recorded.acknowledged (h.turns turn hturn todo hphase hpresumes)
  · cases hnew.symm.trans hphase
  · dsimp only at hphase ⊢
    cases hadvance with
    | adopts | admits | admitted | observed | reads | found | recovered | dispatched => cases hphase
    | @refused failure =>
      obtain rfl := TurnPhase.settling.inj hphase
      rw [TurnFailure.presumesConsumed_settlement] at hpresumes
      exact absurd hpresumes Bool.false_ne_true
    | unavailable | unsent =>
      obtain rfl := TurnPhase.settling.inj hphase
      exact absurd hpresumes Bool.false_ne_true
    | @returned generation context outcome hrunning =>
      obtain rfl := TurnPhase.settling.inj hphase
      rw [RuntimeRun.afterReturn] at hpresumes
      split at hpresumes
      · exact absurd hpresumes Bool.false_ne_true
      · have hconsumes := TurnOutcome.consumes_of_presumesConsumed hpresumes
        have hadded : HarnessEvent.acknowledged ⟨moved.scope, moved.target, context, generation⟩ ∈
            s.harnessEventsBy step := by
          simp [RuntimeRun.harnessEventsBy, hstep, hmoved, hrunning, hconsumes]
        exact houtcome.recorded.acknowledged_of_mem hadded
    | settles hsettling =>
      obtain rfl := TurnPhase.settling.inj hphase
      exact houtcome.recorded.acknowledged (h.turns moved (List.mem_of_getElem? hmoved) _ hsettling
        (RuntimeRun.presumesConsumed_settleTurn hpresumes))

lemma of_next (h : Backed s) (hnext : s.next? wireLength step = some s') : Backed s' := by
  have houtcome := RuntimeRun.outcome_of_next hnext
  refine ⟨fun scope session target hsession hmark => ?_,
    fun turn hmem todo hphase hpresumes => h.turns_of_next houtcome hmem hphase hpresumes,
    fun steer hmem hphase => ?_, fun settler hmem hphase => ?_⟩
  · have hchange := RuntimeRun.ledgerChange_of_next hnext scope
    rw [hsession] at hchange
    refine houtcome.recorded.acknowledged ?_
    rcases hchange.isDelivered hmark with ⟨before, hbefore, hmarked⟩ | hacknowledged
    · exact h.marks scope before target hbefore hmarked
    · exact h.acknowledged hacknowledged
  · rcases houtcome.steers.mem_cases hmem with hsteer | hnew |
      ⟨index, moved, steerStep, phase, hstep, hmoved, hadvance, rfl⟩
    · exact houtcome.recorded.acknowledged (h.steers steer hsteer hphase)
    · cases hnew.symm.trans hphase
    · dsimp only at hphase ⊢
      cases hadvance with
      | reads | found | recovered => cases hphase
      | @reached context generation hprepared hexecutes =>
        have hadded : HarnessEvent.acknowledged
            ⟨moved.scope, moved.instruction, context, generation⟩ ∈ s.harnessEventsBy step := by
          simp [RuntimeRun.harnessEventsBy, hstep, hmoved, hprepared, hexecutes]
        exact houtcome.recorded.acknowledged_of_mem hadded
  · have hold : settler ∈ s.settlers → ∃ target targets, settler.targets = target :: targets ∧
        (settler.scope, target) ∈ s'.settled := by
      intro hsettler
      obtain ⟨target, targets, htargets, hsettled⟩ := h.settlers settler hsettler hphase
      refine ⟨target, targets, htargets, ?_⟩
      rw [houtcome.recorded.settled]
      exact List.mem_append_left _ hsettled
    cases houtcome.settlers with
    | kept hsettlers => exact hold (hsettlers ▸ hmem)
    | ended hsettlers => exact hold (List.mem_of_mem_eraseIdx (hsettlers ▸ hmem))
    | started _ _ hsettlers =>
      rw [hsettlers, List.mem_append, List.mem_singleton] at hmem
      refine hmem.elim hold fun hnew => ?_
      rw [hnew] at hphase
      cases hphase
    | advanced hstep hmoved hsettlers hscope hacking _ =>
      rw [hsettlers] at hmem
      refine (List.mem_or_eq_of_mem_set hmem).elim hold fun hnew => ?_
      subst hnew
      obtain ⟨target, targets, htargets, hsettled⟩ := hacking hphase
      refine ⟨target, targets, htargets, ?_⟩
      rw [houtcome.recorded.settled, hsettled, hscope]
      exact List.mem_append_right _ List.mem_cons_self

end Backed

/-! ## Admission -/

lemma ResidentRuntime.sessionRef?_acceptEvent {r : ResidentRuntime}
    {wireLength : RoomEvent → ℕ} {event : RoomEvent} (hadmits : r.admits event = true) :
    ∃ session, (r.acceptEvent wireLength event).sessionRef? (scopeForRoomEvent event) =
      some session ∧ event.sequence ∈ session.pendingAddressed := by
  rw [admits, Bool.and_eq_true, Bool.and_eq_true, Bool.not_eq_true', Bool.not_eq_true'] at hadmits
  obtain ⟨⟨hstopped, hclosed⟩, hadmits⟩ := hadmits
  obtain ⟨⟨session, admitted⟩, hensured, haccepts⟩ := (Option.any_eq_true _ _).mp hadmits
  rw [acceptEvent, if_neg (by simp [hstopped, hclosed])]
  dsimp only
  rw [hensured]
  dsimp only
  rw [if_pos haccepts, sessionRef?_reopen, sessionRef?_setSession, if_pos rfl]
  exact ⟨_, rfl, List.mem_append_right _ List.mem_cons_self⟩

lemma RuntimeRun.holds_of_acceptedBy {wireLength : RoomEvent → ℕ} {s s' : RuntimeRun}
    {step : RuntimeStep} {scope : String} {target : ℕ} (h : s.next? wireLength step = some s')
    (haccepted : (scope, target) ∈ s.acceptedBy step) : s'.Holds scope target := by
  unfold acceptedBy at haccepted
  split at haccepted
  next =>
    split at haccepted
    next event events cursor hreader =>
      split at haccepted
      · exact absurd haccepted List.not_mem_nil
      next hpermission =>
        split at haccepted
        next hadmits =>
          obtain ⟨rfl, rfl⟩ := Prod.mk.inj (List.mem_singleton.mp haccepted)
          obtain ⟨after, heffect, rfl⟩ := RuntimeRun.exists_effect h
          rw [effect?, readerNext?, hreader] at heffect
          dsimp only at heffect
          rw [if_neg hpermission] at heffect
          obtain rfl := Option.some.inj heffect
          exact ResidentRuntime.sessionRef?_acceptEvent hadmits
        next => exact absurd haccepted List.not_mem_nil
    next => exact absurd haccepted List.not_mem_nil
  next => exact absurd haccepted List.not_mem_nil

lemma RuntimeRun.mem_quarantinedBy {s : RuntimeRun} {step : RuntimeStep} {scope : String}
    {target : ℕ} {session : LogicalSession} (h : s.quarantinedBy? step = some scope)
    (hsession : s.runtime.sessionRef? scope = some session)
    (hmem : target ∈ session.pendingAddressed) : (scope, target) ∈ s.quarantinedBy step := by
  unfold quarantinedBy? at h
  split at h
  next index history =>
    obtain ⟨turn, hturn, hsettles⟩ := Option.bind_eq_some_iff.mp h
    split at hsettles
    next controlUnavailable todo hphase =>
      obtain rfl := Option.some.inj hsettles
      simp only [quarantinedBy, hturn, Option.elim_some, hphase, quarantines, hsession]
      exact List.mem_map_of_mem hmem
    next => cases hsettles
  next => cases h

/-! ## Every run -/

/-- Everything that the invariant of the ledgers rests on. -/
structure LedgerInvariant (s : RuntimeRun) : Prop where
  ordered : ReaderOrdered s
  backed : Backed s
  ledger : DeliveryLedger s

namespace LedgerInvariant

variable {wireLength : RoomEvent → ℕ} {s s' : RuntimeRun} {step : RuntimeStep}

lemma accountedFor_mono (hnext : s.next? wireLength step = some s') {scope : String} {target : ℕ}
    (h : s.AccountedFor scope target) : s'.AccountedFor scope target := by
  have houtcome := RuntimeRun.outcome_of_next hnext
  obtain hacknowledged | hsettled | hquarantined | ⟨hstopped, hscope⟩ := h
  · exact Or.inl (houtcome.recorded.acknowledged hacknowledged)
  · refine Or.inr (Or.inl ?_)
    rw [houtcome.recorded.settled]
    exact List.mem_append_left _ hsettled
  · refine Or.inr (Or.inr (Or.inl ?_))
    rw [houtcome.recorded.quarantined]
    exact List.mem_append_left _ hquarantined
  · exact Or.inr (Or.inr (Or.inr ⟨houtcome.stops.1 hstopped, hscope⟩))

lemma of_init {participantID : String} {cursor turnLanes : ℕ} : LedgerInvariant
      { runtime := firstJoin participantID cursor turnLanes, received := cursor } where
  ordered := .of_idle rfl le_rfl
  backed := .of_init
  ledger := by
    refine .of_accounted (fun scope session hsession => ?_) fun _ _ hmem =>
      absurd hmem List.not_mem_nil
    rw [ResidentRuntime.sessionRef?] at hsession
    split at hsession
    · obtain rfl := Option.some.inj hsession
      exact .of_empty rfl rfl
    · cases hsession

lemma of_next (h : LedgerInvariant s) (hguard : s.contextsHeld step = true)
    (hnext : s.next? wireLength step = some s') : LedgerInvariant s' := by
  have houtcome := RuntimeRun.outcome_of_next hnext
  rw [RuntimeRun.contextsHeld, Bool.and_eq_true, Bool.not_eq_true'] at hguard
  obtain ⟨hforward, hheld⟩ := hguard
  refine ⟨h.ordered.of_change houtcome.reader hforward, h.backed.of_next hnext,
    .of_accounted (fun scope session hsession => ?_) fun scope target haccepted => ?_⟩
  · -- The ledger of each scope is consistent.
    have hchange := RuntimeRun.ledgerChange_of_next hnext scope
    rw [hsession] at hchange
    refine hchange.consistent (h.ledger.consistent scope) (fun target before hread hbefore => ?_)
      (h.ordered.received_le houtcome.reader) fun event events cursor hstep hreader => ?_
    · rw [hread, Option.all_some, hbefore, Option.all_some] at hheld
      exact of_decide_eq_true hheld
    · exact h.ordered.handles houtcome.reader hstep hreader
  · -- An accepted instruction still waits, or it left for a reason.
    rw [houtcome.recorded.accepted, List.mem_append] at haccepted
    rcases haccepted with hold | hnew
    · rcases h.ledger.accounted scope target hold with ⟨session, hsession, hmem⟩ | haccounted
      · have hconsistent := h.ledger.consistent scope session hsession
        have hchange := RuntimeRun.ledgerChange_of_next hnext scope
        rw [hsession] at hchange
        rcases hchange.leaves hmem fun sequence => (hconsistent.contexts sequence).mpr with
          hholds | hmark | hacknowledged | hremoved | hquarantined | ⟨hstep, hscope⟩
        · exact Or.inl hholds
        · exact Or.inr (Or.inl (houtcome.recorded.acknowledged
            (h.backed.marks scope session target hsession hmark)))
        · exact Or.inr (Or.inl
            (houtcome.recorded.acknowledged (h.backed.acknowledged hacknowledged)))
        · refine Or.inr (accountedFor_mono hnext ?_)
          exact (h.backed.removed hremoved).elim Or.inl fun hsettled => Or.inr (Or.inl hsettled)
        · refine Or.inr (Or.inr (Or.inr (Or.inl ?_)))
          rw [houtcome.recorded.quarantined]
          exact List.mem_append_right _
            (RuntimeRun.mem_quarantinedBy hquarantined hsession hmem)
        · refine Or.inr (Or.inr (Or.inr (Or.inr ⟨?_, hscope⟩)))
          rw [hstep, RuntimeRun.next?] at hnext
          split at hnext
          · cases hnext
          · obtain ⟨after, heffect, rfl⟩ := Option.map_eq_some_iff.mp hnext
            obtain rfl := Option.some.inj heffect
            rfl
      · exact Or.inr (accountedFor_mono hnext haccounted)
    · exact Or.inl (RuntimeRun.holds_of_acceptedBy hnext hnew)

lemma of_reachable (hreach :
      (runtimeSystem wireLength).ReachableWhen (fun s step => s.contextsHeld step = true) s) :
    LedgerInvariant s := by
  refine hreach.invariant ?_ fun s step s' h hguard hnext => h.of_next hguard hnext
  rintro s ⟨participantID, cursor, turnLanes, rfl⟩
  exact .of_init

end LedgerInvariant

namespace RuntimeRun

/-- A Runtime that has just joined an empty Room, with two lanes. -/
def joined : RuntimeRun where
  runtime := firstJoin "agent" 0 2
  received := 0

/-- The instruction of a Human in the Task of a request, with the request itself as the first. -/
def taskInstruction (sequence : ℕ) (hpos : 0 < sequence) : RoomEvent where
  sequence := sequence
  participantKind := .human
  scopeID := "task:request"
  collab := if sequence = 1 then
    some { requestId := "request", kind := .request, fromParticipantId := "human"
           targetParticipantId := "agent" } else none
  addressed := true
  sequence_pos := hpos

/-- The labels under which the reader handles the instructions of the Task after one sequence and
through another. -/
def receives (after through : ℕ) : List RuntimeStep :=
  let events := (List.range through).map fun n => taskInstruction (n + 1) n.succ_pos
  .reader (.receive
    { events
      cursor := through
      sorted := List.pairwise_map.mpr (List.pairwise_lt_range.imp Nat.succ_lt_succ)
      covered := by
        intro event hmem
        obtain ⟨n, hn, rfl⟩ := List.mem_map.mp hmem
        exact List.mem_range.mp hn }) ::
    List.replicate (through - after) (.reader .handle) ++ [.reader .advance]

/-- The labels under which a turn reaches the Harness, from the grant of its lane. -/
def dispatches (index : ℕ) : List RuntimeStep :=
  [.admitted 1, .observe, .lookUp, .respond true].map (.turn index)

/-- The run of some labels from a Runtime that has just joined, where each of them meets a guard. -/
def runWhen? (guard : RuntimeRun → RuntimeStep → Bool) (labels : List RuntimeStep) :
    Option RuntimeRun :=
  labels.foldlM (fun s step => if guard s step then s.next? (fun _ => 1) step else none) joined

lemma reachableWhen_of_run {guard : RuntimeRun → RuntimeStep → Bool} {labels : List RuntimeStep}
    {s : RuntimeRun} (hrun : runWhen? guard labels = some s) :
    (runtimeSystem fun _ => 1).ReachableWhen (fun s step => guard s step = true) s := by
  refine TransitionSystem.ReachableWhen.foldlM (fun s step s' hnext => ?_)
    (.init ⟨"agent", 0, 2, rfl⟩) hrun
  split at hnext
  next hguard => exact ⟨hguard, hnext⟩
  next => cases hnext

end RuntimeRun

/-- The labels of a run in which an interrupted turn settles after the loss of its executor. -/
def interruptedRun : List RuntimeStep :=
  RuntimeRun.receives 0 1 ++ [.schedule false true, .launch 0 false] ++ RuntimeRun.dispatches 0 ++
    [.interrupt "task:request" 1, .settle "task:request", .settling 0 .lookUp,
      .settling 0 (.publish true), .settling 0 .ack,
      .turn 0 (.returned (.failed ⟨true, false, false⟩)), .turn 0 (.settle none)]

end Free4Chat
