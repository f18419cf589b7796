import Free4Chat.Runtime.Process

/-!
# What a Step Does to a Ledger

A step of the Runtime changes the ledger of at most one scope, by one of the operations on ledgers.
What a run preserves in its ledgers is therefore proved by cases on these operations, and not on
the steps.

* `RuntimeRun.contextReadBy?`, `RuntimeRun.acknowledgedBy?` and `RuntimeRun.removedBy?`: the
  instruction whose context a step reads, whose delivery it records, or that it removes.
* `LedgerChange`: the changes of the ledger of one scope.
* `RuntimeRun.ledgerChange_of_next`: every step changes every ledger in one of these ways.
-/

namespace Free4Chat

/-! ## The ledgers of the Runtime -/

namespace ResidentRuntime

variable {r : ResidentRuntime} {scope scope' : String}

@[simp]
lemma sessionRef?_setSession (session : LogicalSession) :
    (r.setSession scope session).sessionRef? scope' =
      if scope = scope' then some session else r.sessionRef? scope' := by
  by_cases hroom : scope = roomScope
  · rw [setSession, if_pos hroom]
    by_cases hscope : scope = scope'
    · rw [if_pos hscope, sessionRef?, if_pos (hscope ▸ hroom)]
    · have hother : scope' ≠ roomScope := fun h => hscope (hroom.trans h.symm)
      rw [if_neg hscope, sessionRef?, sessionRef?, if_neg hother, if_neg hother]
  · rw [setSession, if_neg hroom, sessionRef?, sessionRef?]
    dsimp only
    rw [KeyedMap.get?_set, Keyed.key_pair]
    by_cases hscope : scope = scope'
    · rw [if_pos hscope, if_pos hscope, if_neg (hscope ▸ hroom)]
      rfl
    · rw [if_neg hscope, if_neg hscope]

@[simp]
lemma sessionRef?_updateSession (change : LogicalSession → LogicalSession) :
    (r.updateSession scope change).sessionRef? scope' =
      if scope = scope' then (r.sessionRef? scope).map change else r.sessionRef? scope' := by
  unfold updateSession
  split
  next hnone =>
    by_cases hscope : scope = scope'
    · rw [if_pos hscope, ← hscope, hnone, Option.map_none]
    · rw [if_neg hscope]
  next session hsome => rw [sessionRef?_setSession, hsome, Option.map_some]

lemma sessionRef?_congr {r' : ResidentRuntime} (hroom : r'.room = r.room)
    (hscoped : r'.scopedSessions = r.scopedSessions) (scope : String) :
    r'.sessionRef? scope = r.sessionRef? scope := by
  rw [sessionRef?, sessionRef?, hroom, hscoped]

@[simp]
lemma sessionRef?_forgetTurnRecovery (targets : List ℕ) :
    (r.forgetTurnRecovery scope targets).sessionRef? scope' = r.sessionRef? scope' := rfl

@[simp]
lemma sessionRef?_markTurnInterrupted (target : ℕ) :
    (r.markTurnInterrupted scope target).sessionRef? scope' = r.sessionRef? scope' := rfl

@[simp]
lemma sessionRef?_reopen (event : RoomEvent) :
    (r.reopen scope event).sessionRef? scope' = r.sessionRef? scope' := by
  unfold reopen
  split
  · rfl
  · split <;> rfl

@[simp]
lemma sessionRef?_consumeTurnInterrupted (target : ℕ) :
    (r.consumeTurnInterrupted scope target).sessionRef? scope' = r.sessionRef? scope' := by
  unfold consumeTurnInterrupted
  split <;> rfl

@[simp]
lemma sessionRef?_finishTurnLane (target : ℕ) :
    (r.finishTurnLane scope target).sessionRef? scope' = r.sessionRef? scope' := by
  unfold finishTurnLane
  split
  · split <;> rfl
  · rfl

@[simp]
lemma sessionRef?_markTurnFailedInPass (target : ℕ) :
    (r.markTurnFailedInPass scope target).sessionRef? scope' = r.sessionRef? scope' := by
  unfold markTurnFailedInPass
  split
  · split <;> rfl
  · rfl

@[simp]
lemma sessionRef?_closeTurnRecovery (target : ℕ) :
    (r.closeTurnRecovery scope target).sessionRef? scope' = r.sessionRef? scope' := by
  unfold closeTurnRecovery
  split
  · rfl
  · split <;> rfl

@[simp]
lemma sessionRef?_scheduleTurnRetry (target : ℕ) :
    (r.scheduleTurnRetry scope target).sessionRef? scope' = r.sessionRef? scope' := by
  unfold scheduleTurnRetry
  dsimp only
  split
  · rfl
  · split
    · rw [sessionRef?_closeTurnRecovery]
      rfl
    · rfl

@[simp]
lemma sessionRef?_takeTurnRetry (target : ℕ) :
    (r.takeTurnRetry scope target).sessionRef? scope' = r.sessionRef? scope' := by
  unfold takeTurnRetry
  split <;> rfl

@[simp]
lemma sessionRef?_acknowledgeHarnessDelivery (target through generation : ℕ) :
    (r.acknowledgeHarnessDelivery scope target through generation).sessionRef? scope' =
      if scope = scope' then
        (r.sessionRef? scope).map fun session => session.acknowledge target through generation
      else r.sessionRef? scope' := by
  unfold acknowledgeHarnessDelivery
  split
  next hnone =>
    by_cases hscope : scope = scope'
    · rw [if_pos hscope, ← hscope, hnone, Option.map_none]
    · rw [if_neg hscope]
  next session hsome =>
    dsimp only
    rw [sessionRef?_forgetTurnRecovery, sessionRef?_setSession, hsome, Option.map_some]

@[simp]
lemma sessionRef?_ackPending (sequence : ℕ) : (r.ackPending scope sequence).sessionRef? scope' =
      if scope = scope' then (r.sessionRef? scope).map fun session => session.ackPending sequence
      else r.sessionRef? scope' := by
  unfold ackPending
  split
  next hnone =>
    by_cases hscope : scope = scope'
    · rw [if_pos hscope, hnone, Option.map_none]
      exact (hscope ▸ hnone :)
    · rw [if_neg hscope]
      rfl
  next session hsome =>
    rw [hsome, Option.map_some]
    split
    next => rw [sessionRef?_forgetTurnRecovery, sessionRef?_setSession]
    next hnot =>
      rw [LogicalSession.ackPending, if_neg hnot]
      by_cases hscope : scope = scope'
      · rw [if_pos hscope, ← hscope, hsome]
      · rw [if_neg hscope]

@[simp]
lemma sessionRef?_markTaskAttentionAndQuarantine (controlUnavailable : Bool) :
    (r.markTaskAttentionAndQuarantine scope controlUnavailable).sessionRef? scope' =
      if scope = scope' then (r.sessionRef? scope).map LogicalSession.discard
      else r.sessionRef? scope' := by
  rw [← sessionRef?_updateSession]
  exact sessionRef?_congr rfl rfl scope'

lemma sessionRef?_noteTaskScopeTerminal (r : ResidentRuntime) (scope scope' : String) :
    (r.noteTaskScopeTerminal scope).sessionRef? scope' = r.sessionRef? scope' ∨
      (r.noteTaskScopeTerminal scope).sessionRef? scope' =
        (r.sessionRef? scope').map fun session => { session with terminal := true } := by
  rw [noteTaskScopeTerminal, sessionRef?, sessionRef?]
  by_cases hroom : scope' = roomScope
  · rw [if_pos hroom, if_pos hroom]
    exact Or.inl rfl
  · rw [if_neg hroom, if_neg hroom]
    dsimp only
    rw [KeyedMap.get?_modify]
    split
    next =>
      rw [Option.map_map, Option.map_map]
      exact Or.inr rfl
    next => exact Or.inl rfl

end ResidentRuntime

/-! ## The instruction a step is about -/

namespace RuntimeRun

variable (s : RuntimeRun)

/-- The instruction whose context a step looks up. -/
def contextReadBy? : RuntimeStep → Option (String × ℕ)
  | .turn index step =>
    s.turns[index]?.bind fun turn =>
      match turn.phase, step with
      | .admitting, .adoptionLookUp => some (turn.scope, turn.target)
      | .freezing _, .lookUp => some (turn.scope, turn.target)
      | .settling (.lookUp :: _), .settle _ => some (turn.scope, turn.target)
      | _, _ => none
  | .steering index .lookUp =>
    s.steers[index]?.bind fun steer =>
      match steer.phase with
      | .marked => some (steer.scope, steer.instruction)
      | _ => none
  | .settling index .lookUp =>
    s.settlers[index]?.bind fun settler =>
      match settler.targets, settler.phase with
      | target :: _, .next => some (settler.scope, target)
      | _, _ => none
  | _ => none

/-- The instruction whose context a step completes from the history of the Room, and the start of
its interval. -/
def contextRecoveredBy? : RuntimeStep → Option (String × ℕ × ℕ)
  | .turn index step =>
    s.turns[index]?.bind fun turn =>
      match turn.phase, step with
      | .adopting after, .adoptionRecover _ => some (turn.scope, turn.target, after)
      | .reading _ after, .recover _ => some (turn.scope, turn.target, after)
      | .settling (.recover after :: _), .settle _ => some (turn.scope, turn.target, after)
      | _, _ => none
  | .steering index (.recover _) =>
    s.steers[index]?.bind fun steer =>
      match steer.phase with
      | .reading after => some (steer.scope, steer.instruction, after)
      | _ => none
  | .settling index (.recover _) =>
    s.settlers[index]?.bind fun settler =>
      match settler.targets, settler.phase with
      | target :: _, .reading after => some (settler.scope, target, after)
      | _, _ => none
  | _ => none

/-- The instruction whose delivery a step records. -/
def acknowledgedBy? : RuntimeStep → Option (String × ℕ)
  | .turn index (.settle _) =>
    s.turns[index]?.bind fun turn =>
      match turn.phase with
      | .settling (.acknowledge _ _ :: _) => some (turn.scope, turn.target)
      | _ => none
  | .steering index (.record _) =>
    s.steers[index]?.bind fun steer =>
      match steer.phase with
      | .reached => some (steer.scope, steer.instruction)
      | _ => none
  | _ => none

/-- The watermark up to which a step records a delivery. -/
def acknowledgedThrough? : RuntimeStep → Option ℕ
  | .turn index (.settle _) =>
    s.turns[index]?.bind fun turn =>
      match turn.phase with
      | .settling (.acknowledge through _ :: _) => some through
      | _ => none
  | .steering index (.record _) => s.steers[index]?.map (·.instruction)
  | _ => none

/-- The instruction that a step removes, wherever it stands. -/
def removedBy? : RuntimeStep → Option (String × ℕ)
  | .turn index (.settle _) =>
    s.turns[index]?.bind fun turn =>
      match turn.phase with
      | .settling (.ackPending :: _) => some (turn.scope, turn.target)
      | _ => none
  | .settling index .ack =>
    s.settlers[index]?.bind fun settler =>
      match settler.targets, settler.phase with
      | target :: _, .acking => some (settler.scope, target)
      | _, _ => none
  | _ => none

/-- The scope whose instructions a step gives up. -/
def quarantinedBy? : RuntimeStep → Option String
  | .turn index (.settle _) =>
    s.turns[index]?.bind fun turn =>
      match turn.phase with
      | .settling (.quarantine _ :: _) => some turn.scope
      | _ => none
  | _ => none

/-- The turn that asks a session for its scope. -/
def observedBy? : RuntimeStep → Option (String × ℕ)
  | .turn index .observe => s.turns[index]?.map fun turn => (turn.scope, turn.target)
  | _ => none

end RuntimeRun

/-! ## The changes of a ledger -/

/-- The ways in which a step changes the ledger of a scope. -/
inductive LedgerChange (wireLength : RoomEvent → ℕ) (s : RuntimeRun) (step : RuntimeStep)
    (scope : String) : Option LogicalSession → Option LogicalSession → Prop
  | unchanged (session : Option LogicalSession) :
      LedgerChange wireLength s step scope session session
  | admitted {event : RoomEvent} {events : List RoomEvent} {cursor : ℕ} {session : LogicalSession}
      {admitted : ResidentRuntime} (hstep : step = .reader .handle)
      (hreader : s.reader = some { events := event :: events, cursor })
      (hscope : scopeForRoomEvent event = scope)
      (hensured : s.runtime.ensureSession? scope event = some (session, admitted)) :
      LedgerChange wireLength s step scope (s.runtime.sessionRef? scope)
        (some (if session.accepts event then
            session.accept scope (evictEvents wireLength (s.runtime.eventBuffer ++ [event]))
              event.sequence
          else session))
  | looked {target : ℕ} {session : LogicalSession}
      (hread : s.contextReadBy? step = some (scope, target)) :
      LedgerChange wireLength s step scope (some session)
        (some (session.lookUp scope s.runtime.eventBuffer target))
  | recovered {target after : ℕ} {events : List RoomEvent} {session : LogicalSession}
      (hrecovered : s.contextRecoveredBy? step = some (scope, target, after))
      (hevents : ∀ event ∈ events, after < event.sequence ∧ event.sequence ≤ target) :
      LedgerChange wireLength s step scope (some session) (some (session.recover target events))
  | acknowledged {target through generation : ℕ} {session : LogicalSession}
      (hacknowledged : s.acknowledgedBy? step = some (scope, target))
      (hthrough : s.acknowledgedThrough? step = some through) :
      LedgerChange wireLength s step scope (some session)
        (some (session.acknowledge target through generation))
  | removed {target : ℕ} {session : LogicalSession}
      (hremoved : s.removedBy? step = some (scope, target)) :
      LedgerChange wireLength s step scope (some session) (some (session.ackPending target))
  | discarded {session : LogicalSession} (hquarantined : s.quarantinedBy? step = some scope) :
      LedgerChange wireLength s step scope (some session) (some session.discard)
  | observed {target generation : ℕ} {session : LogicalSession}
      (hobserved : s.observedBy? step = some (scope, target)) :
      LedgerChange wireLength s step scope (some session) (some (session.observe generation target))
  | steered {control : SteerControl} {session : LogicalSession} (hstep : step = .steer control)
      (hscope : taskScopeForRequestID control.taskRequestID = scope) :
      LedgerChange wireLength s step scope (some session)
        (some (session.markSteerPriority control.steerInstructionSequence))
  | ended {session : LogicalSession} :
      LedgerChange wireLength s step scope (some session) (some { session with terminal := true })
  | released {session : LogicalSession} {retained : Bool} (hstep : step = .reclaim scope retained)
      (hpending : session.pendingAddressed = []) :
      LedgerChange wireLength s step scope (some session) none
  | stopped {session : LogicalSession} (hstep : step = .stop) (hscope : scope = roomScope) :
      LedgerChange wireLength s step scope (some session)
        (some { session with pendingAddressed := [], pendingContexts := .empty })

variable {wireLength : RoomEvent → ℕ} {s s' : RuntimeRun} {step : RuntimeStep} {scope : String}

namespace LedgerChange

lemma of_eq {before after : Option LogicalSession} (h : after = before) :
    LedgerChange wireLength s step scope before after := by
  rw [h]
  exact unchanged before

variable {changed : String}

lemma of_update {change : LogicalSession → LogicalSession} {after : Option LogicalSession}
    (h : after = if changed = scope then (s.runtime.sessionRef? changed).map change
      else s.runtime.sessionRef? scope) (hchange : changed = scope → ∀ session,
      LedgerChange wireLength s step scope (some session) (some (change session))) :
    LedgerChange wireLength s step scope (s.runtime.sessionRef? scope) after := by
  split at h
  next hscope =>
    rw [h, ← hscope]
    cases hsession : s.runtime.sessionRef? changed with
    | none => exact unchanged none
    | some session => exact hscope ▸ hchange hscope session
  next => exact of_eq h

lemma of_lookUp {target : ℕ} (hread : s.contextReadBy? step = some (changed, target)) :
    LedgerChange wireLength s step scope (s.runtime.sessionRef? scope)
      ((s.runtime.lookUp changed target).sessionRef? scope) :=
  of_update (ResidentRuntime.sessionRef?_updateSession _) fun hscope _ =>
    hscope ▸ looked (hscope ▸ hread)

lemma of_recover {target after : ℕ} {history : Option (List RoomEvent)} {context : FrozenContext}
    (hrecovered : s.contextRecoveredBy? step = some (changed, target, after))
    (hcontext : s.runtime.recovered? changed target after history = some context) :
    LedgerChange wireLength s step scope (s.runtime.sessionRef? scope)
      ((s.runtime.recover changed target context.events).sessionRef? scope) := by
  refine of_update (ResidentRuntime.sessionRef?_updateSession _) fun hscope _ =>
    recovered (hscope ▸ hrecovered) fun event hevent => ?_
  rw [ResidentRuntime.recovered?] at hcontext
  obtain ⟨events, -, hcontext⟩ := Option.bind_eq_some_iff.mp hcontext
  obtain ⟨-, -, hcontext⟩ := Option.bind_eq_some_iff.mp hcontext
  split at hcontext
  · cases hcontext
  · obtain rfl := Option.some.inj hcontext
    have hmember := (List.mem_filter.mp hevent).2
    rw [Bool.and_eq_true, Bool.and_eq_true] at hmember
    exact ⟨of_decide_eq_true hmember.1.1, of_decide_eq_true hmember.1.2⟩

end LedgerChange

namespace RuntimeRun

/-- The reader changes the ledger of the scope of the event that it handles. -/
lemma ledgerChange_reader {reading : ReaderStep} (h : s.readerNext? wireLength reading = some s') :
    LedgerChange wireLength s (.reader reading) scope (s.runtime.sessionRef? scope)
      (s'.runtime.sessionRef? scope) := by
  cases reading with
  | receive envelope | rejoin participantID cursor =>
    rw [readerNext?] at h
    split at h
    · cases h
    · obtain rfl := Option.some.inj h
      exact .unchanged _
  | advance =>
    rw [readerNext?] at h
    split at h
    · obtain rfl := Option.some.inj h
      exact .unchanged _
    · cases h
  | handle =>
    rw [readerNext?] at h
    split at h
    next event events cursor hreader =>
      dsimp only at h
      split at h
      · obtain rfl := Option.some.inj h
        exact .unchanged _
      · obtain rfl := Option.some.inj h
        dsimp only
        rw [ResidentRuntime.acceptEvent]
        split
        · exact .unchanged _
        · dsimp only
          cases hensured : s.runtime.ensureSession? (scopeForRoomEvent event) event with
          | none => exact .unchanged _
          | some ensured =>
            obtain ⟨session, admitted⟩ := ensured
            -- The ledgers of the other scopes are those of the Runtime before.
            have hsame : admitted.sessionRef? scope = s.runtime.sessionRef? scope := by
              rw [ResidentRuntime.ensureSession?] at hensured
              split at hensured
              · cases hensured
              · split at hensured
                · obtain ⟨-, rfl⟩ := Prod.mk.inj (Option.some.inj hensured)
                  rfl
                · split at hensured
                  · cases hensured
                  · obtain ⟨-, rfl⟩ := Prod.mk.inj (Option.some.inj hensured)
                    rfl
            by_cases hscope : scopeForRoomEvent event = scope
            · subst hscope
              have hchange : LedgerChange wireLength s (.reader .handle) (scopeForRoomEvent event)
                  (s.runtime.sessionRef? (scopeForRoomEvent event)) _ :=
                .admitted rfl hreader rfl hensured
              dsimp only
              split at hchange
              next haccepts => simpa [haccepts] using hchange
              next haccepts => simpa [haccepts] using hchange
            · have hkeep : ∀ buffer,
                  ({ admitted with eventBuffer := buffer } : ResidentRuntime).sessionRef? scope =
                    admitted.sessionRef? scope := fun _ => rfl
              refine .of_eq ?_
              dsimp only
              split
              · rw [ResidentRuntime.sessionRef?_reopen, ResidentRuntime.sessionRef?_setSession,
                  if_neg hscope, hkeep, hsame]
              · rw [ResidentRuntime.sessionRef?_setSession, if_neg hscope, hkeep, hsame]
    next => cases h

variable {index : ℕ}

lemma sessionRef?_launch {bound : Bool} (h : s.launch? index bound = some s') :
    s'.runtime.sessionRef? scope = s.runtime.sessionRef? scope := by
  rw [launch?] at h
  split at h
  · cases h
  · split at h
    · obtain rfl := Option.some.inj h
      rfl
    · dsimp only at h
      split at h
      · obtain rfl := Option.some.inj h
        rfl
      · split at h
        all_goals
          obtain rfl := Option.some.inj h
          rfl

lemma ledgerChange_settleTurn {turn : TurnRun} {settlement : Settlement}
    {todo : List Settlement} {history : Option (List RoomEvent)}
    (hturn : s.turns[index]? = some turn) (hphase : turn.phase = .settling (settlement :: todo)) :
    LedgerChange wireLength s (.turn index (.settle history)) scope (s.runtime.sessionRef? scope)
      ((s.settleTurn turn todo history settlement).1.sessionRef? scope) := by
  cases settlement with
  | lookUp =>
    rw [settleTurn]
    split
    · exact .unchanged _
    · exact .of_lookUp (by simp [contextReadBy?, hturn, hphase])
  | recover after =>
    rw [settleTurn]
    split
    · exact .unchanged _
    next context hcontext =>
      exact .of_recover (by simp [contextRecoveredBy?, hturn, hphase]) hcontext
  | checkStopped | clearRetry | checkPending => exact .unchanged _
  | acknowledge through generation =>
    refine .of_update (ResidentRuntime.sessionRef?_acknowledgeHarnessDelivery _ _ _)
      fun hscope _ => .acknowledged ?_ ?_
    · simp [acknowledgedBy?, hturn, hphase, hscope]
    · simp [acknowledgedThrough?, hturn, hphase]
  | failInPass =>
    rw [settleTurn, ResidentRuntime.sessionRef?_markTurnFailedInPass]
    exact .unchanged _
  | scheduleRetry =>
    rw [settleTurn, ResidentRuntime.sessionRef?_scheduleTurnRetry]
    exact .unchanged _
  | closeRecovery =>
    rw [settleTurn, ResidentRuntime.sessionRef?_closeTurnRecovery]
    exact .unchanged _
  | quarantine controlUnavailable =>
    rw [settleTurn]
    split
    · refine .of_update (ResidentRuntime.sessionRef?_markTaskAttentionAndQuarantine _)
        fun hscope _ => .discarded ?_
      simp [quarantinedBy?, hturn, hphase, hscope]
    · exact .unchanged _
  | ackPending =>
    refine .of_update (ResidentRuntime.sessionRef?_ackPending _) fun hscope _ => .removed ?_
    simp [removedBy?, hturn, hphase, hscope]

/-- A turn changes the ledger of its scope. -/
lemma ledgerChange_turn {turn : TurnRun} {turnStep : TurnStep}
    (hturn : s.turns[index]? = some turn) (h : s.turnNext? index turn turnStep = some s') :
    LedgerChange wireLength s (.turn index turnStep) scope (s.runtime.sessionRef? scope)
      (s'.runtime.sessionRef? scope) := by
  unfold turnNext? at h
  dsimp only at h
  split at h
  next hphase =>
    -- The history is looked up to see whether a session may be adopted.
    split at h
    · cases h
    · split at h
      · obtain rfl := Option.some.inj h
        exact .unchanged _
      · obtain rfl := Option.some.inj h
        exact .of_lookUp (by simp [contextReadBy?, hturn, hphase])
  next after history hphase =>
    split at h
    · obtain rfl := Option.some.inj h
      exact .unchanged _
    next context hcontext =>
      obtain rfl := Option.some.inj h
      exact .of_recover (by simp [contextRecoveredBy?, hturn, hphase]) hcontext
  next =>
    obtain rfl := Option.some.inj h
    exact .unchanged _
  next =>
    obtain rfl := Option.some.inj h
    exact .unchanged _
  next generation hphase =>
    obtain rfl := Option.some.inj h
    refine .of_update (ResidentRuntime.sessionRef?_updateSession _) fun hscope _ => .observed ?_
    simp [observedBy?, hturn, hscope]
  next generation hphase =>
    split at h
    · obtain rfl := Option.some.inj h
      exact .unchanged _
    · obtain rfl := Option.some.inj h
      exact .of_lookUp (by simp [contextReadBy?, hturn, hphase])
  next generation after history hphase =>
    split at h
    · obtain rfl := Option.some.inj h
      exact .unchanged _
    next context hcontext =>
      obtain rfl := Option.some.inj h
      exact .of_recover (by simp [contextRecoveredBy?, hturn, hphase]) hcontext
  next =>
    split at h
    all_goals
      obtain rfl := Option.some.inj h
      exact .unchanged _
  next =>
    obtain rfl := Option.some.inj h
    exact .of_eq (ResidentRuntime.sessionRef?_consumeTurnInterrupted _)
  next settlement todo history hphase =>
    obtain rfl := Option.some.inj h
    exact ledgerChange_settleTurn hturn hphase
  next =>
    obtain rfl := Option.some.inj h
    exact .of_eq (ResidentRuntime.sessionRef?_finishTurnLane _)
  next => cases h

lemma ledgerChange_steerControl {control : SteerControl} :
    LedgerChange wireLength s (.steer control) scope (s.runtime.sessionRef? scope)
      ((s.steerControl control).runtime.sessionRef? scope) := by
  rw [steerControl]
  dsimp only
  split
  · exact .unchanged _
  next session hsession =>
    split
    · exact .unchanged _
    · split
      · exact .unchanged _
      · refine .of_update ?_ fun hscope _ => .steered rfl hscope
        rw [hsession, Option.map_some, ResidentRuntime.sessionRef?_setSession]

lemma ledgerChange_steer {steer : SteerRun} {steerStep : SteerStep}
    (hsteer : s.steers[index]? = some steer) (h : s.steerNext? index steer steerStep = some s') :
    LedgerChange wireLength s (.steering index steerStep) scope (s.runtime.sessionRef? scope)
      (s'.runtime.sessionRef? scope) := by
  unfold steerNext? at h
  dsimp only at h
  split at h
  next hphase =>
    obtain ⟨context, -, rfl⟩ := Option.map_eq_some_iff.mp h
    exact .of_lookUp (by simp [contextReadBy?, hsteer, hphase])
  next after history hphase =>
    obtain ⟨context, hcontext, rfl⟩ := Option.map_eq_some_iff.mp h
    exact .of_recover (by simp [contextRecoveredBy?, hsteer, hphase]) hcontext
  next =>
    obtain ⟨generation, -, rfl⟩ := Option.map_eq_some_iff.mp h
    exact .unchanged _
  next generation hphase =>
    obtain rfl := Option.some.inj h
    refine .of_update (ResidentRuntime.sessionRef?_acknowledgeHarnessDelivery _ _ _)
      fun hscope _ => .acknowledged ?_ ?_
    · simp [acknowledgedBy?, hsteer, hphase, hscope]
    · simp [acknowledgedThrough?, hsteer]
  next => cases h
  next =>
    obtain rfl := Option.some.inj h
    refine .of_eq ?_
    dsimp only
    split
    · exact ResidentRuntime.sessionRef?_markTurnInterrupted _
    · rfl
  next => cases h

lemma ledgerChange_settler {settler : Settler} {settlerStep : SettlerStep}
    (hsettler : s.settlers[index]? = some settler)
    (h : s.settlerNext? index settler settlerStep = some s') :
    LedgerChange wireLength s (.settling index settlerStep) scope (s.runtime.sessionRef? scope)
      (s'.runtime.sessionRef? scope) := by
  unfold settlerNext? at h
  dsimp only at h
  split at h
  next =>
    obtain rfl := Option.some.inj h
    exact .unchanged _
  next target targets htargets hphase =>
    split at h
    · obtain rfl := Option.some.inj h
      exact .unchanged _
    · obtain rfl := Option.some.inj h
      exact .of_lookUp (by simp [contextReadBy?, hsettler, htargets, hphase])
  next target targets after history htargets hphase =>
    split at h
    · obtain rfl := Option.some.inj h
      exact .unchanged _
    next context hcontext =>
      obtain rfl := Option.some.inj h
      exact .of_recover (by simp [contextRecoveredBy?, hsettler, htargets, hphase]) hcontext
  next =>
    split at h
    · obtain rfl := Option.some.inj h
      rcases ResidentRuntime.sessionRef?_noteTaskScopeTerminal s.runtime settler.scope scope with
        hsame | hended
      · exact .of_eq hsame
      · dsimp only [withRuntime]
        rw [hended]
        cases s.runtime.sessionRef? scope with
        | none => exact .unchanged none
        | some session => exact .ended
    · obtain rfl := Option.some.inj h
      exact .unchanged _
  next target targets htargets hphase =>
    obtain rfl := Option.some.inj h
    refine .of_update (ResidentRuntime.sessionRef?_ackPending _) fun hscope _ => .removed ?_
    simp [removedBy?, hsettler, htargets, hphase, hscope]
  next => cases h

lemma ledgerChange_reclaim {changed : String} {retained : Bool}
    (hreclaimable : s.runtime.reclaimableTaskScope changed = true) :
    LedgerChange wireLength s (.reclaim changed retained) scope (s.runtime.sessionRef? scope)
      ((s.runtime.releaseTerminalTaskScope changed retained).sessionRef? scope) := by
  have hledgers : ∀ scope, (s.runtime.releaseTerminalTaskScope changed retained).sessionRef? scope =
      if scope = roomScope then some s.runtime.room
      else ((s.runtime.scopedSessions.erase changed).get? scope).map Prod.snd := by
    intro scope
    rw [ResidentRuntime.releaseTerminalTaskScope]
    split
    next hnone =>
      have hnot : s.runtime.scopedSessions.get? changed = none := Option.map_eq_none_iff.mp hnone
      rw [ResidentRuntime.sessionRef?, KeyedMap.get?_erase]
      split
      · rfl
      · split
        next hscope => rw [← hscope, hnot]
        next => rfl
    next => split <;> rfl
  rw [hledgers, ResidentRuntime.sessionRef?]
  split
  · exact .unchanged _
  · rw [KeyedMap.get?_erase]
    split
    next hscope =>
      rw [ResidentRuntime.reclaimableTaskScope, hscope] at hreclaimable
      simp only [Bool.and_eq_true, Option.any_eq_true_iff_get] at hreclaimable
      obtain ⟨⟨⟨⟨-, hsome, hidle⟩, -⟩, -⟩, -⟩ := hreclaimable
      obtain ⟨entry, hentry⟩ := Option.isSome_iff_exists.mp hsome
      rw [hentry, Option.map_some, Option.map_none]
      simp only [hentry, Option.get_some] at hidle
      exact .released (by rw [hscope]) (List.isEmpty_iff.mp hidle.1.2)
    next => exact .unchanged _

/-- Every step changes the ledger of every scope in one of the listed ways. -/
lemma ledgerChange_of_next (h : s.next? wireLength step = some s') (scope : String) :
    LedgerChange wireLength s step scope (s.runtime.sessionRef? scope)
      (s'.runtime.sessionRef? scope) := by
  obtain ⟨after, heffect, rfl⟩ := RuntimeRun.exists_effect h
  show LedgerChange wireLength s step scope _ (after.runtime.sessionRef? scope)
  unfold effect? at heffect
  cases step with
  | reader reading => exact ledgerChange_reader heffect
  | noteTerminal changed =>
    obtain rfl := Option.some.inj heffect
    rcases ResidentRuntime.sessionRef?_noteTaskScopeTerminal s.runtime changed scope with
      hsame | hended
    · exact .of_eq hsame
    · dsimp only [withRuntime]
      rw [hended]
      cases s.runtime.sessionRef? scope with
      | none => exact .unchanged none
      | some session => exact .ended
  | reclaim changed retained =>
    dsimp only at heffect
    obtain ⟨hreclaimable, rfl⟩ := Option.of_guarded heffect
    exact ledgerChange_reclaim hreclaimable
  | retryDue changed target =>
    dsimp only at heffect
    split at heffect
    · obtain rfl := Option.some.inj heffect
      exact .of_eq (ResidentRuntime.sessionRef?_takeTurnRetry _)
    · cases heffect
  | schedule newPass preserveRetryDelay =>
    dsimp only at heffect
    split at heffect
    · cases heffect
    · obtain rfl := Option.some.inj heffect
      refine .of_eq ?_
      rw [schedule]
      dsimp only
      split <;> rfl
  | launch index bound => exact .of_eq (sessionRef?_launch heffect)
  | turn index turnStep =>
    obtain ⟨turn, hturn, hnext⟩ := Option.bind_eq_some_iff.mp heffect
    exact ledgerChange_turn hturn hnext
  | interrupt changed turnSequence | sessionLost changed =>
    dsimp only at heffect
    split at heffect
    · obtain rfl := Option.some.inj heffect
      exact .unchanged _
    · cases heffect
  | clearActivity changed | fence =>
    obtain rfl := Option.some.inj heffect
    exact .unchanged _
  | steer control =>
    obtain rfl := Option.some.inj heffect
    exact ledgerChange_steerControl
  | steering index steerStep =>
    obtain ⟨steer, hsteer, hnext⟩ := Option.bind_eq_some_iff.mp heffect
    exact ledgerChange_steer hsteer hnext
  | settle changed =>
    obtain ⟨session, -, rfl⟩ := Option.map_eq_some_iff.mp heffect
    exact .unchanged _
  | settling index settlerStep =>
    obtain ⟨settler, hsettler, hnext⟩ := Option.bind_eq_some_iff.mp heffect
    exact ledgerChange_settler hsettler hnext
  | stop =>
    obtain rfl := Option.some.inj heffect
    show LedgerChange wireLength s .stop scope (s.runtime.sessionRef? scope)
      (s.runtime.beginStop.sessionRef? scope)
    rw [ResidentRuntime.sessionRef?, ResidentRuntime.sessionRef?]
    split
    next hroom => exact .stopped rfl hroom
    next => exact .unchanged _

end RuntimeRun

end Free4Chat
