import Free4Chat.Media.Engine
import Mathlib.Algebra.Order.Ring.Int

/-!
# PCM Queue

Callers of `enqueueItem` wait while the queue of the engine is full. Space is announced through a
channel that holds one token: the writer sends one with each item that it takes, and so does a call
that has cleared the queue; a token that finds another one is lost. A caller that takes a token
looks whether its turn is stale, and begins again. No caller should wait for a token that nobody is
going to send.

The source breaks this. A caller that takes a token and finds its turn stale returns and sends no
token on. When a turn is cancelled while two callers wait, the queue is cleared, one token is sent,
and the caller that does not get it waits on, although the queue is empty.

* `EnqueueCall` and `PcmQueue`: the engine with the channel, and the calls of `enqueueItem`.
* `PcmQueue.next?`: one critical section, or one operation on the channel.
* `PcmQueue.WellServed`: what should hold in every state that is reached.
* `PcmQueue.handsOn`: the condition under which it does.
* `PcmQueue.Served`: the invariant. `wellServed_of_reachable`: it holds in every run that meets the
  condition.
-/

namespace Free4Chat

/-! ## State -/

/-- Where a call of `enqueueItem` is. -/
inductive EnqueuePhase where
  -- It is about to look for space. A call that was woken begins again.
  | reserving (woken : Bool)
  -- It waits for a token.
  | blocked
  -- It took a token, and is about to look at the turn generation.
  | woken
  -- It is about to look at the turn that is admitted.
  | checking
deriving DecidableEq

/-- A call of `enqueueItem`. -/
structure EnqueueCall where
  item : QueueItem
  phase : EnqueuePhase
deriving DecidableEq

/-- The engine with its channel, and the calls of `enqueueItem`. -/
structure PcmQueue where
  engine : EngineRun := {}
  -- Whether the channel holds a token.
  writerSpace : Bool := false
  stopped : Bool := false
  calls : List EnqueueCall := []
  -- Calls that have cleared the queue and are about to send a token.
  announcing : ℕ := 0
  -- The items that were enqueued, and those that have left the queue.
  enqueued : List QueueItem := []
  gone : List QueueItem := []
deriving DecidableEq

/-- A critical section, or an operation on the channel. -/
inductive PcmQueueStep where
  | enqueueItem (item : QueueItem)
  -- A call looks for space.
  | reserve (index : ℕ)
  -- A call takes the token.
  | wake (index : ℕ)
  | checkTurn (index : ℕ)
  | checkAdmitted (index : ℕ)
  -- A call finds the writer stopped.
  | giveUp (index : ℕ)
  | popItem
  | admitTurn (token : ℕ)
  | activatePublish
  | deactivatePublish
  | cancelTurn (token : ℕ)
  | clearQueueAndCarry (index : ℕ)
  -- A call that has cleared the queue sends a token.
  | announce
  | stop
deriving DecidableEq

/-- Whether a turn is the admitted one. Without a token it always is. -/
def TurnTag.admittedAs (turn : TurnTag) (admitted : ℕ) : Bool :=
  turn.token = 0 || turn.token = admitted

/-- Whether a call was woken, and will enqueue its item unless the queue is full again. -/
def EnqueueCall.passes (call : EnqueueCall) (turnGeneration admitted : ℕ) : Bool :=
  match call.phase with
  | .reserving woken => woken
  | .blocked => false
  | .woken => call.item.turn.turnGeneration = turnGeneration && call.item.turn.admittedAs admitted
  | .checking => call.item.turn.admittedAs admitted

namespace PcmQueue

variable (s : PcmQueue)

/-! ## Steps -/

/-- Whether a turn was cancelled, or another one was admitted. -/
def stale (turn : TurnTag) : Bool :=
  turn.turnGeneration ≠ s.engine.turnGeneration || !turn.admittedAs s.engine.highestAdmitted

/-- A call goes on, or returns. -/
def goOn (index : ℕ) (call : EnqueueCall) (phase : Option EnqueuePhase) : PcmQueue :=
  { s with calls := s.calls.updateIdx index (phase.map fun phase => { call with phase }) }

/-- A call looks for space, and enqueues its item. -/
def reserve (index : ℕ) (call : EnqueueCall) : PcmQueue :=
  if s.engine.hasSpace call.item then
    { s.goOn index call none with
      engine := s.engine.enqueueItem call.item
      enqueued := s.enqueued ++ [call.item] }
  else s.goOn index call (some .blocked)

/-- The first item leaves the queue, and a token is sent. -/
def popItem? : Option PcmQueue :=
  s.engine.popItem?.map fun engine =>
    { s with engine, writerSpace := true, gone := s.gone ++ s.engine.queueRing.take 1 }

/-- The queue is cleared. -/
def clear? (index : ℕ) : Option PcmQueue :=
  (s.engine.clear? index).map fun engine =>
    { s with
      engine
      announcing := s.announcing + 1
      gone := s.gone ++ s.engine.queueRing }

/-- A step of a call. -/
def callStep? (index : ℕ) (call : EnqueueCall) : PcmQueueStep → Option PcmQueue
  | .reserve _ =>
    match call.phase with
    | .reserving _ => some (s.reserve index call)
    | _ => none
  | .wake _ =>
    if call.phase = .blocked ∧ s.writerSpace = true then
      some { s.goOn index call (some .woken) with writerSpace := false }
    else none
  | .checkTurn _ =>
    if call.phase = .woken then
      some (s.goOn index call
        (if call.item.turn.turnGeneration = s.engine.turnGeneration then some .checking else none))
    else none
  | .checkAdmitted _ =>
    if call.phase = .checking then
      some (s.goOn index call
        (if call.item.turn.admittedAs s.engine.highestAdmitted then some (.reserving true)
          else none))
    else none
  | .giveUp _ =>
    if call.phase = .blocked ∧ s.stopped = true then some (s.goOn index call none) else none
  | _ => none

/-- One step. -/
def next? : PcmQueueStep → Option PcmQueue
  | .enqueueItem item =>
    if item.bytes.length ≤ maxQueuePcmBytes then
      some { s with calls := s.calls ++ [⟨item, .reserving false⟩] }
    else none
  | .reserve index => s.calls[index]?.bind fun call => s.callStep? index call (.reserve index)
  | .wake index => s.calls[index]?.bind fun call => s.callStep? index call (.wake index)
  | .checkTurn index => s.calls[index]?.bind fun call => s.callStep? index call (.checkTurn index)
  | .checkAdmitted index =>
    s.calls[index]?.bind fun call => s.callStep? index call (.checkAdmitted index)
  | .giveUp index => s.calls[index]?.bind fun call => s.callStep? index call (.giveUp index)
  | .popItem => s.popItem?
  | .admitTurn token => some { s with engine := (s.engine.admitTurn? token).getD s.engine }
  | .activatePublish => some { s with engine := s.engine.activatePublish }
  | .deactivatePublish => some { s with engine := s.engine.deactivatePublish }
  | .cancelTurn token => some { s with engine := s.engine.cancelTurn token }
  | .clearQueueAndCarry index => s.clear? index
  | .announce =>
    if s.announcing = 0 then none
    else some { s with writerSpace := true, announcing := s.announcing - 1 }
  | .stop => some { s with stopped := true }

/-! ## What should hold -/

/-- A call is stranded: it waits, although there is space for its item or its turn is stale, and
there is neither a token, nor a queued item, nor a call that was woken and will enqueue its item,
nor a call that is about to clear the queue and send a token. -/
structure Stranded (call : EnqueueCall) : Prop where
  waits : call ∈ s.calls ∧ call.phase = .blocked ∧ s.stopped = false
  free : s.engine.hasSpace call.item = true ∨ s.stale call.item.turn = true
  noToken : s.writerSpace = false
  noItem : s.engine.queueRing = []
  noCall : ∀ other ∈ s.calls,
    other.passes s.engine.turnGeneration s.engine.highestAdmitted = false
  noClear : s.engine.clearing = [] ∧ s.announcing = 0

/-- The queue is well served: its size is that of its items and within the bound, items leave it in
the order in which they were enqueued, each of them once, and no call is stranded. -/
structure WellServed : Prop where
  accounted : s.engine.queueBytes =
    ((s.engine.queueRing.map fun item => item.bytes.length).sum : ℕ)
  bounded : 0 ≤ s.engine.queueBytes ∧ s.engine.queueBytes ≤ maxQueuePcmBytes
  inOrder : s.gone ++ s.engine.queueRing = s.enqueued
  noneStranded : ∀ call, ¬s.Stranded call

/-! ## The runs in which it holds -/

/-- Whether a token will be sent by someone who does not wait for one, or the writer was stopped. -/
def announces : Bool :=
  s.stopped || !s.engine.queueRing.isEmpty || !s.engine.clearing.isEmpty || s.announcing ≠ 0

/-- The condition: the token is taken by a call whose turn is stale, and another turn is admitted
while a token is on its way, only if this leaves nobody waiting for a token that is not sent. -/
def handsOn : PcmQueueStep → Bool
  | .wake index =>
    s.announces || (s.calls.eraseIdx index).all (fun call => call.phase ≠ .blocked) ||
      (s.calls[index]?.all fun call => !s.stale call.item.turn) ||
      s.calls.any fun call => call.passes s.engine.turnGeneration s.engine.highestAdmitted
  | .admitTurn token =>
    s.announces || s.writerSpace || s.calls.all (fun call => call.phase ≠ .blocked) ||
      s.calls.any fun call => call.passes s.engine.turnGeneration
        ((s.engine.admitTurn? token).getD s.engine).highestAdmitted
  | _ => true

end PcmQueue

/-- Runs of the queue. -/
def pcmQueueSystem : TransitionSystem PcmQueue PcmQueueStep where
  init s := s = {}
  step s step s' := s.next? step = some s'

/-! ## The invariant -/

namespace PcmQueue

variable {s s' : PcmQueue} {index : ℕ} {call : EnqueueCall}

/-- A call that was woken will enqueue its item. -/
def Passed (s : PcmQueue) : Prop :=
  ∃ call ∈ s.calls, call.passes s.engine.turnGeneration s.engine.highestAdmitted = true

/-- Either no call waits, or a token is on its way. -/
def Awake (s : PcmQueue) : Prop :=
  (∀ call ∈ s.calls, call.phase ≠ .blocked) ∨ s.writerSpace = true ∨ s.announces = true ∨ s.Passed

/-- The invariant of the queue. -/
structure Served (s : PcmQueue) : Prop where
  bytes : s.engine.queueBytes = s.engine.queued.length
  bound : s.engine.queued.length ≤ maxQueuePcmBytes
  sized : ∀ call ∈ s.calls, call.item.bytes.length ≤ maxQueuePcmBytes
  order : s.gone ++ s.engine.queueRing = s.enqueued
  awake : s.Awake

lemma announces_of_queued (h : s.engine.queueRing ≠ []) : s.announces = true := by
  rw [announces, List.isEmpty_eq_false_iff.mpr h, Bool.not_false, Bool.or_true, Bool.true_or,
    Bool.true_or]

lemma announces_of_clearing (h : s.engine.clearing ≠ []) : s.announces = true := by
  rw [announces, List.isEmpty_eq_false_iff.mpr h, Bool.not_false, Bool.or_true, Bool.true_or]

lemma announces_of_announcing (h : s.announcing ≠ 0) : s.announces = true := by
  rw [announces, decide_eq_true h, Bool.or_true]

lemma Served.wellServed (h : s.Served) : s.WellServed :=
  { accounted := by rw [h.bytes, EngineRun.queued, List.length_flatMap]
    bounded := by
      have := h.bytes
      have := h.bound
      omega
    inOrder := h.order
    noneStranded := fun call hstranded => by
      rcases h.awake with hnone | htoken | hannounces | ⟨other, hmem, hpasses⟩
      · exact hnone call hstranded.waits.1 hstranded.waits.2.1
      · rw [hstranded.noToken] at htoken
        cases htoken
      · rw [announces, hstranded.waits.2.2, hstranded.noItem, hstranded.noClear.1,
          hstranded.noClear.2] at hannounces
        cases hannounces
      · rw [hstranded.noCall other hmem] at hpasses
        cases hpasses }

lemma mem_eraseIdx_of_mem_set {calls : List EnqueueCall} {other : EnqueueCall}
    (hmem : other ∈ calls.set index call) : other = call ∨ other ∈ calls.eraseIdx index := by
  obtain ⟨i, hi⟩ := List.mem_iff_getElem?.mp hmem
  by_cases hindex : i = index
  · subst hindex
    rw [List.getElem?_set_self' ] at hi
    obtain ⟨_, -, rfl⟩ := Option.map_eq_some_iff.mp hi
    exact Or.inl rfl
  · rw [List.getElem?_set_ne (Ne.symm hindex)] at hi
    exact Or.inr (List.mem_eraseIdx_iff_getElem?.mpr ⟨i, hindex, hi⟩)

namespace Served

lemma sized_goOn (h : s.Served) (hcall : s.calls[index]? = some call)
    (phase : Option EnqueuePhase) :
    ∀ other ∈ (s.goOn index call phase).calls, other.item.bytes.length ≤ maxQueuePcmBytes := by
  intro other hmem
  rcases List.mem_updateIdx hmem with hmem | hnew
  · exact h.sized other hmem
  · obtain ⟨phase, -, rfl⟩ := Option.map_eq_some_iff.mp hnew
    exact h.sized call (List.mem_of_getElem? hcall)

variable {phase : Option EnqueuePhase}

lemma awake_goOn (h : s.Awake) (hcall : s.calls[index]? = some call)
    (hphase : phase ≠ some .blocked)
    (hpasses : call.passes s.engine.turnGeneration s.engine.highestAdmitted = true →
      ∃ next, phase = some next ∧ ({ call with phase := next } : EnqueueCall).passes
        s.engine.turnGeneration s.engine.highestAdmitted = true) :
    (s.goOn index call phase).Awake := by
  rcases h with hnone | htoken | hannounces | ⟨other, hmem, hother⟩
  · refine Or.inl fun other hmem => ?_
    rcases List.mem_updateIdx hmem with hmem | hnew
    · exact hnone other hmem
    · obtain ⟨next, rfl, rfl⟩ := Option.map_eq_some_iff.mp hnew
      exact fun heq => hphase (congrArg some heq)
  · exact Or.inr (Or.inl htoken)
  · exact Or.inr (Or.inr (Or.inl hannounces))
  · refine Or.inr (Or.inr (Or.inr ?_))
    by_cases hsame : other = call
    · obtain ⟨next, rfl, hnext⟩ := hpasses (hsame ▸ hother)
      exact ⟨_, List.mem_updateIdx_self hcall, hnext⟩
    · exact ⟨other, List.mem_updateIdx_of_ne hcall hmem hsame, hother⟩

lemma goOn (h : s.Served) (hcall : s.calls[index]? = some call) (hphase : phase ≠ some .blocked)
    (hpasses : call.passes s.engine.turnGeneration s.engine.highestAdmitted = true →
      ∃ next, phase = some next ∧ ({ call with phase := next } : EnqueueCall).passes
        s.engine.turnGeneration s.engine.highestAdmitted = true) :
    (s.goOn index call phase).Served :=
  { h with
    sized := h.sized_goOn hcall phase
    awake := awake_goOn h.awake hcall hphase hpasses }

lemma reserve (h : s.Served) (hcall : s.calls[index]? = some call) :
    (s.reserve index call).Served := by
  have hsize := h.sized call (List.mem_of_getElem? hcall)
  rw [PcmQueue.reserve]
  split
  next hspace =>
    have hbytes : (s.engine.enqueueItem call.item).queued = s.engine.queued ++ call.item.bytes := by
      show (s.engine.queueRing ++ [call.item]).flatMap QueueItem.bytes = _
      rw [List.flatMap_append, List.flatMap_singleton]
      rfl
    rw [EngineRun.hasSpace, Bool.or_eq_true, decide_eq_true_eq, decide_eq_true_eq] at hspace
    refine
      { bytes := ?_
        bound := ?_
        sized := h.sized_goOn hcall none
        order := ?_
        awake := Or.inr (Or.inr (Or.inl (announces_of_queued ?_))) }
    · show s.engine.queueBytes + call.item.bytes.length = _
      rw [hbytes, List.length_append, h.bytes, Int.natCast_add]
    · rw [hbytes, List.length_append]
      have hbound := h.bound
      rcases hspace with hflush | hfits
      · rw [QueueItem.bytes, hflush]
        exact hbound
      · have := h.bytes
        omega
    · show s.gone ++ (s.engine.queueRing ++ [call.item]) = s.enqueued ++ [call.item]
      rw [← List.append_assoc, h.order]
    · show s.engine.queueRing ++ [call.item] ≠ []
      exact List.append_ne_nil_of_right_ne_nil _ (List.cons_ne_nil _ _)
  next hfull =>
    -- An item that does not fit finds the queue nonempty.
    have hqueued : s.engine.queueRing ≠ [] := by
      intro hempty
      have hbytes := h.bytes
      rw [EngineRun.queued, hempty, List.flatMap_nil, List.length_nil] at hbytes
      refine hfull ?_
      rw [EngineRun.hasSpace, Bool.or_eq_true, decide_eq_true_eq, decide_eq_true_eq]
      right
      omega
    exact
      { h with
        sized := h.sized_goOn hcall (some .blocked)
        awake := Or.inr (Or.inr (Or.inl (announces_of_queued hqueued))) }

lemma passes_woken (hfresh : s.stale call.item.turn = false) :
    ({ call with phase := .woken } : EnqueueCall).passes s.engine.turnGeneration
      s.engine.highestAdmitted = true := by
  rw [stale, Bool.or_eq_false_iff, decide_eq_false_iff_not, not_not, Bool.not_eq_false'] at hfresh
  show (decide _ && _) = true
  rw [hfresh.1, hfresh.2, decide_eq_true rfl, Bool.and_true]

section

variable (h : s.Served) (hcall : s.calls[index]? = some call)
include h hcall

lemma wake (hphase : call.phase = .blocked) (hguard : s.handsOn (.wake index) = true) :
    ({ s.goOn index call (some .woken) with writerSpace := false } : PcmQueue).Served := by
  refine
    { h with
      sized := h.sized_goOn hcall (some .woken)
      awake := ?_ }
  rw [handsOn, hcall, Option.all_some, Bool.or_eq_true, Bool.or_eq_true, Bool.or_eq_true] at hguard
  rcases hguard with ((hannounces | hnone) | hfresh) | hpassed
  · exact Or.inr (Or.inr (Or.inl hannounces))
  · refine Or.inl fun other hmem => ?_
    rcases mem_eraseIdx_of_mem_set hmem with rfl | hmem
    · exact fun heq => by cases heq
    · exact of_decide_eq_true (List.all_eq_true.mp hnone other hmem)
  · refine Or.inr (Or.inr (Or.inr ⟨_, List.mem_updateIdx_self hcall, ?_⟩))
    exact passes_woken (Bool.not_eq_true' _ ▸ hfresh)
  · obtain ⟨other, hmem, hother⟩ := List.any_eq_true.mp hpassed
    have hne : other ≠ call := by
      rintro rfl
      rw [EnqueueCall.passes, hphase] at hother
      cases hother
    have hstays : other ∈ s.calls.updateIdx index (some { call with phase := .woken }) :=
      List.mem_updateIdx_of_ne hcall hmem hne
    exact Or.inr (Or.inr (Or.inr ⟨other, hstays, hother⟩))

lemma checkTurn (hphase : call.phase = .woken) : (s.goOn index call
      (if call.item.turn.turnGeneration = s.engine.turnGeneration then some .checking
        else none)).Served := by
  refine h.goOn hcall (by split <;> simp) fun hpasses => ?_
  rw [EnqueueCall.passes, hphase, Bool.and_eq_true, decide_eq_true_eq] at hpasses
  rw [if_pos hpasses.1]
  exact ⟨.checking, rfl, hpasses.2⟩

lemma checkAdmitted (hphase : call.phase = .checking) : (s.goOn index call
      (if call.item.turn.admittedAs s.engine.highestAdmitted then some (.reserving true)
        else none)).Served := by
  refine h.goOn hcall (by split <;> simp) fun hpasses => ?_
  rw [EnqueueCall.passes, hphase] at hpasses
  rw [if_pos hpasses]
  exact ⟨.reserving true, rfl, rfl⟩

lemma giveUp (hphase : call.phase = .blocked) : (s.goOn index call none).Served := by
  refine h.goOn hcall (fun heq => by cases heq) fun hpasses => ?_
  rw [EnqueueCall.passes, hphase] at hpasses
  cases hpasses

lemma callStep {step : PcmQueueStep} (hguard : s.handsOn (.wake index) = true ∨ ∀ i, step ≠ .wake i)
    (hnext : s.callStep? index call step = some s') : s'.Served := by
  cases step with
  | reserve =>
    rw [callStep?] at hnext
    split at hnext
    next =>
      obtain rfl := Option.some.inj hnext
      exact h.reserve hcall
    next => cases hnext
  | wake other =>
    rw [callStep?] at hnext
    obtain ⟨hphase, rfl⟩ := Option.of_guarded hnext
    exact h.wake hcall hphase.1 (hguard.resolve_right fun hne => hne other rfl)
  | checkTurn =>
    rw [callStep?] at hnext
    obtain ⟨hphase, rfl⟩ := Option.of_guarded hnext
    exact h.checkTurn hcall hphase
  | checkAdmitted =>
    rw [callStep?] at hnext
    obtain ⟨hphase, rfl⟩ := Option.of_guarded hnext
    exact h.checkAdmitted hcall hphase
  | giveUp =>
    rw [callStep?] at hnext
    obtain ⟨hphase, rfl⟩ := Option.of_guarded hnext
    exact h.giveUp hcall hphase.1
  | _ => cases hnext

end

section

variable (h : s.Served)
include h

lemma popItem (hnext : s.popItem? = some s') : s'.Served := by
  obtain ⟨engine, hpop, rfl⟩ := Option.map_eq_some_iff.mp hnext
  rw [EngineRun.popItem?] at hpop
  split at hpop
  next => cases hpop
  next item rest hring =>
    obtain rfl := Option.some.inj hpop
    have hqueued : s.engine.queued = item.bytes ++ rest.flatMap QueueItem.bytes := by
      rw [EngineRun.queued, hring, List.flatMap_cons]
    have hbytes := h.bytes
    have hbound := h.bound
    rw [hqueued, List.length_append] at hbytes hbound
    refine
      { bytes := ?_
        bound := ?_
        sized := h.sized
        order := ?_
        awake := Or.inr (Or.inl rfl) }
    · show s.engine.queueBytes - item.bytes.length = (rest.flatMap QueueItem.bytes).length
      omega
    · show (rest.flatMap QueueItem.bytes).length ≤ maxQueuePcmBytes
      omega
    · show s.gone ++ s.engine.queueRing.take 1 ++ rest = s.enqueued
      rw [← h.order, hring, List.append_assoc]
      rfl

lemma clear (hnext : s.clear? index = some s') : s'.Served := by
  obtain ⟨engine, hclear, rfl⟩ := Option.map_eq_some_iff.mp hnext
  rw [EngineRun.clear?] at hclear
  split at hclear
  next => cases hclear
  next token htoken =>
    obtain rfl := Option.some.inj hclear
    refine
      { bytes := ?_
        bound := Nat.zero_le _
        sized := h.sized
        order := ?_
        awake := Or.inr (Or.inr (Or.inl (announces_of_announcing (Nat.succ_ne_zero _)))) }
    · show s.engine.queueBytes - s.engine.queued.length = 0
      rw [h.bytes, Int.sub_self]
    · show s.gone ++ s.engine.queueRing ++ [] = s.enqueued
      rw [List.append_nil, h.order]

lemma of_engine {engine : EngineRun} (hring : engine.queueRing = s.engine.queueRing)
    (hbytes : engine.queueBytes = s.engine.queueBytes)
    (hawake : ({ s with engine } : PcmQueue).Awake) : ({ s with engine } : PcmQueue).Served := by
  have hqueued : engine.queued = s.engine.queued := by
    rw [EngineRun.queued, EngineRun.queued, hring]
  exact
    { bytes := by rw [hbytes, hqueued]; exact h.bytes
      bound := hqueued ▸ h.bound
      sized := h.sized
      order := by rw [hring]; exact h.order
      awake := hawake }

lemma admitTurn {token : ℕ} (hguard : s.handsOn (.admitTurn token) = true) :
    ({ s with engine := (s.engine.admitTurn? token).getD s.engine } : PcmQueue).Served := by
  obtain ⟨admitted, hadmitted⟩ : ∃ admitted, (s.engine.admitTurn? token).getD s.engine =
      { s.engine with highestAdmitted := admitted } := by
    rw [EngineRun.admitTurn?]
    split
    · exact ⟨_, rfl⟩
    · split
      · exact ⟨_, rfl⟩
      · split <;> exact ⟨_, rfl⟩
  rw [handsOn, Bool.or_eq_true, Bool.or_eq_true, Bool.or_eq_true, hadmitted] at hguard
  rw [hadmitted]
  refine h.of_engine rfl rfl ?_
  rcases hguard with ((hannounces | htoken) | hnone) | hpassed
  · exact Or.inr (Or.inr (Or.inl hannounces))
  · exact Or.inr (Or.inl htoken)
  · exact Or.inl fun other hmem => of_decide_eq_true (List.all_eq_true.mp hnone other hmem)
  · obtain ⟨other, hmem, hother⟩ := List.any_eq_true.mp hpassed
    exact Or.inr (Or.inr (Or.inr ⟨other, hmem, hother⟩))

lemma cancelTurn (token : ℕ) :
    ({ s with engine := s.engine.cancelTurn token } : PcmQueue).Served := by
  rw [EngineRun.cancelTurn]
  dsimp only
  split
  next => exact h.of_engine rfl rfl h.awake
  next =>
    exact h.of_engine rfl rfl (Or.inr (Or.inr (Or.inl (announces_of_clearing
      (List.append_ne_nil_of_right_ne_nil _ (List.cons_ne_nil _ _))))))

lemma of_next {step : PcmQueueStep} (hguard : s.handsOn step = true)
    (hnext : s.next? step = some s') : s'.Served := by
  cases step with
  | enqueueItem item =>
    rw [next?] at hnext
    obtain ⟨hsize, rfl⟩ := Option.of_guarded hnext
    refine
      { h with
        sized := fun call hmem => ?_
        awake := ?_ }
    · rcases List.mem_append.mp hmem with hmem | hmem
      · exact h.sized call hmem
      · rw [List.mem_singleton.mp hmem]
        exact hsize
    · rcases h.awake with hnone | htoken | hannounces | ⟨other, hmem, hother⟩
      · refine Or.inl fun call hmem => ?_
        rcases List.mem_append.mp hmem with hmem | hmem
        · exact hnone call hmem
        · rw [List.mem_singleton.mp hmem]
          exact fun heq => by cases heq
      · exact Or.inr (Or.inl htoken)
      · exact Or.inr (Or.inr (Or.inl hannounces))
      · exact Or.inr (Or.inr (Or.inr ⟨other, List.mem_append_left _ hmem, hother⟩))
  | reserve index | checkTurn index | checkAdmitted index | giveUp index =>
    obtain ⟨call, hcall, hstep⟩ := Option.bind_eq_some_iff.mp hnext
    exact h.callStep hcall (Or.inr fun _ heq => by cases heq) hstep
  | wake index =>
    obtain ⟨call, hcall, hstep⟩ := Option.bind_eq_some_iff.mp hnext
    exact h.callStep hcall (Or.inl hguard) hstep
  | popItem => exact h.popItem hnext
  | admitTurn token =>
    obtain rfl := Option.some.inj hnext
    exact h.admitTurn hguard
  | activatePublish =>
    obtain rfl := Option.some.inj hnext
    exact h.of_engine rfl rfl h.awake
  | deactivatePublish =>
    obtain rfl := Option.some.inj hnext
    exact h.of_engine rfl rfl (Or.inr (Or.inr (Or.inl (announces_of_clearing
      (List.append_ne_nil_of_right_ne_nil _ (List.cons_ne_nil _ _))))))
  | cancelTurn token =>
    obtain rfl := Option.some.inj hnext
    exact h.cancelTurn token
  | clearQueueAndCarry index => exact h.clear hnext
  | announce =>
    rw [next?] at hnext
    split at hnext
    next => cases hnext
    next =>
      obtain rfl := Option.some.inj hnext
      exact { h with awake := Or.inr (Or.inl rfl) }
  | stop =>
    obtain rfl := Option.some.inj hnext
    exact { h with awake := Or.inr (Or.inr (Or.inl rfl)) }

end

end Served

end PcmQueue

/-- In every run in which the token is handed on, the queue is well served. -/
theorem wellServed_of_reachable {s : PcmQueue}
    (h : pcmQueueSystem.ReachableWhen (fun s step => s.handsOn step = true) s) : s.WellServed := by
  refine PcmQueue.Served.wellServed (h.invariant ?_ fun s step s' hs hguard hnext =>
    PcmQueue.Served.of_next hs hguard hnext)
  rintro s rfl
  exact
    { bytes := rfl
      bound := Nat.zero_le _
      sized := fun _ hmem => absurd hmem List.not_mem_nil
      order := rfl
      awake := Or.inl fun _ hmem => absurd hmem List.not_mem_nil }

/-! ### Two calls that wait -/

/-- The turn that is spoken. -/
def firstTurn : TurnTag := { generation := 1, turnGeneration := 0, token := 1 }

/-- PCM of the turn. -/
def firstPcm (size : ℕ) : QueueItem where
  turn := firstTurn
  data := some (List.replicate size ⟨0, firstTurn⟩)

/-- A call waits. -/
def oneWaits (item : QueueItem) : List PcmQueueStep := [.enqueueItem item, .reserve 0]

/-- Two calls wait. -/
def twoWait (item : QueueItem) : List PcmQueueStep :=
  oneWaits item ++ [.enqueueItem item, .reserve 1]

/-- An item is enqueued that fills the queue, and some calls wait. The turn is then cancelled, and
the first of them takes the token and returns. -/
def cancelledWhile (full : QueueItem) (waiting : List PcmQueueStep) : List PcmQueueStep :=
  [.activatePublish, .admitTurn 1, .enqueueItem full, .reserve 0] ++ waiting ++
    [.cancelTurn 1, .clearQueueAndCarry 0, .announce, .wake 0, .checkTurn 0]

lemma run_cancelledWhile (full item : QueueItem) (hfull : full.bytes.length = maxQueuePcmBytes)
    (hfullData : full.data ≠ none) (hturn : item.turn = firstTurn) (hdata : item.data ≠ none)
    (hsize : item.bytes.length = 960) :
    (TransitionSystem.runWhen? PcmQueue.next? PcmQueue.handsOn {}
      (cancelledWhile full (oneWaits item))).isSome = true ∧
    ∃ s, TransitionSystem.runWhen? PcmQueue.next? (fun _ _ => true) {}
      (cancelledWhile full (twoWait item)) = some s ∧ s.calls = [⟨item, .blocked⟩] ∧
      s.stopped = false ∧ s.writerSpace = false ∧ s.engine.queueRing = [] ∧
      s.engine.turnGeneration = 1 ∧ s.engine.clearing = [] ∧ s.announcing = 0 := by
  have hitem : item.bytes ≠ [] := by
    intro hnil
    rw [hnil] at hsize
    cases hsize
  constructor <;>
    simp [TransitionSystem.runWhen?, cancelledWhile, oneWaits, twoWait, PcmQueue.next?,
      PcmQueue.handsOn, PcmQueue.callStep?, PcmQueue.reserve, PcmQueue.goOn, PcmQueue.announces,
      PcmQueue.stale, PcmQueue.clear?, EngineRun.clear?, EngineRun.clearQueueAndCarry,
      EngineRun.hasSpace, EngineRun.admitTurn?, EngineRun.activatePublish, EngineRun.enqueueItem,
      EngineRun.cancelTurn, List.updateIdx, maxQueuePcmBytes, firstTurn, *]

/-- A call that waits alone returns when its turn is cancelled, and the queue is well served. -/
theorem wellServed_cancelled :
    ∃ s, TransitionSystem.runWhen? PcmQueue.next? PcmQueue.handsOn {}
      (cancelledWhile (firstPcm maxQueuePcmBytes) (oneWaits (firstPcm 960))) = some s ∧
      s.WellServed := by
  obtain ⟨hrun, -⟩ := run_cancelledWhile (firstPcm maxQueuePcmBytes) (firstPcm 960)
    List.length_replicate (Option.some_ne_none _) rfl (Option.some_ne_none _) List.length_replicate
  obtain ⟨s, hs⟩ := Option.isSome_iff_exists.mp hrun
  exact ⟨s, hs, wellServed_of_reachable
    (TransitionSystem.reachableWhen_of_runWhen (fun _ _ _ h => h) rfl hs)⟩

/-- Of two calls that wait when their turn is cancelled, one is stranded. -/
theorem not_wellServed_cancelled : ¬∀ s, pcmQueueSystem.Reachable s → s.WellServed := by
  intro hserved
  obtain ⟨-, s, hs, hcalls, hstopped, hspace, hring, hturn, hclearing, hannouncing⟩ :=
    run_cancelledWhile (firstPcm maxQueuePcmBytes) (firstPcm 960)
      List.length_replicate (Option.some_ne_none _) rfl (Option.some_ne_none _)
      List.length_replicate
  have hreach : pcmQueueSystem.Reachable s :=
    TransitionSystem.reachable_of_runWhen (fun _ _ _ h => h) rfl hs
  refine (hserved s hreach).noneStranded ⟨firstPcm 960, .blocked⟩
    { waits := ⟨hcalls ▸ List.mem_singleton_self _, rfl, hstopped⟩
      free := Or.inr ?_
      noToken := hspace
      noItem := hring
      noCall := fun other hmem => ?_
      noClear := ⟨hclearing, hannouncing⟩ }
  · rw [PcmQueue.stale, hturn]
    rfl
  · rw [hcalls] at hmem
    rw [List.mem_singleton.mp hmem]
    rfl

end Free4Chat
