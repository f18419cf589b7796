import Free4Chat.Runtime.TransportControl

/-!
# One Participant Transport

There is one transport at a time, and only the projection that was observed last decides about it.
What the factory has returned is held by the Runtime, or is being closed, unless the goroutine that
has asked for it has not looked yet whether it is still wanted: then it is installed or closed next.

* `TransportControl.OneTransport`: what holds in every state that is reached.
* `TransportControl.GoesOn`: what a goroutine does as it goes on.
* `oneTransport_of_reachable`: the property, over every run.
-/

namespace Free4Chat

/-- The transport that a goroutine is about to start, or has started. -/
def TransportPhase.startsWith : TransportPhase → Option ℕ
  | installing i => some i
  | running i => some i
  | startFailed i => some i
  | failed i => some i
  | _ => none

namespace TransportControl

/-! ## What should hold -/

section Statement

variable (c : TransportControl)

/-- A transport that the factory has returned is not closed. -/
def Open (i : ℕ) : Prop := c.made[i]? = some false

/-- A goroutine is about to close a transport. -/
def Closing (i : ℕ) : Prop := ∃ goroutine ∈ c.goroutines, goroutine.phase.closes = some i

/-- A goroutine has not looked yet whether the transport that it has is still wanted. -/
def Installing (i : ℕ) : Prop := ∃ goroutine ∈ c.goroutines, goroutine.phase = .installing i

/-- A timer has not fired, and was not stopped. -/
def Armed (i : ℕ) : Prop := ∃ timer, c.timers[i]? = some timer ∧ timer.status = .armed

/-- What a goroutine or a timer of an earlier generation does not change. -/
def control : Option ℕ × Bool × ℕ × String :=
  (c.transport, c.started, c.retryCount, c.projection)

/-- The generation of the goroutine or of the timer that goes on. -/
def generationOf? : TransportControlStep → Option ℕ
  | .goOn index _ => (c.goroutines[index]?).map (·.work.generation)
  | .callback timer => (c.timers[timer]?).map (·.work.generation)
  | _ => none

/-- How often a start was retried in a generation. -/
def startRetries (generation : ℕ) : ℕ :=
  c.timers.countP fun timer => timer.work.generation = generation && timer.update.isNone

/-- The transport that the Runtime holds is the only one that is neither closed nor being closed. -/
def HoldsOpen : Prop := ∀ i, c.Open i → ¬c.Closing i → c.transport = some i

/-- There is one transport, and only the last projection decides about it. -/
structure OneTransport : Prop where
  held : ∀ i, c.Open i → ¬c.Closing i → ¬c.Installing i → c.transport = some i
  -- A transport that is still to be looked at is installed or closed.
  installed : ∀ index work i succeeds c', c.goroutines[index]? = some ⟨work, .installing i⟩ →
    c.next? (.goOn index succeeds) = some c' → c'.transport = some i ∨ c'.Closing i
  -- Updates are made one after the other, in the order of their projections.
  exclusive : c.goroutines.countP (·.phase.locks) ≤ 1
  ordered : c.updated.Pairwise fun earlier later =>
    earlier.1 = later.1 → earlier.2 ≤ later.2
  fenced : ∀ step c' generation, c.next? step = some c' → c.generationOf? step = some generation →
    generation ≤ c.generation ∧ (generation ≠ c.generation → c'.control = c.control)
  armed : ∀ i j, c.Armed i → c.Armed j → i = j
  bounded : ∀ generation, c.startRetries generation ≤ participantTransportRetryLimit

end Statement

/-! ## Goroutines -/

variable {c c' : TransportControl} {work : TransportWork} {phase : TransportPhase} {index : ℕ}
  {next : Option TransportGoroutine}

/-- What a goroutine does as it goes on: how the Runtime changes, and what becomes of it. -/
inductive GoesOn (c : TransportControl) (work : TransportWork) :
    TransportPhase → TransportControl → Option TransportGoroutine → Prop
  | closing (old : Option ℕ) (start : Bool) : GoesOn c work (.closing old start) (old.elim c c.close)
      (if start then some ⟨work, .starting⟩ else none)
  | starting : GoesOn c work .starting c (some ⟨work, .building⟩)
  | building : GoesOn c work .building { c with made := c.made ++ [false] }
      (some ⟨work, .installing c.made.length⟩)
  | installing (i : ℕ) (hinstall : c.mayInstall work = true) :
      GoesOn c work (.installing i) { c with transport := some i } (some ⟨work, .running i⟩)
  | refused (i : ℕ) : GoesOn c work (.installing i) c (some ⟨work, .refusing i⟩)
  | refusing (i : ℕ) : GoesOn c work (.refusing i) (c.close i) none
  | running (i : ℕ) (succeeds : Bool) : GoesOn c work (.running i) c
      (some ⟨work, if succeeds then .succeeded i else .startFailed i⟩)
  | startFailed (i : ℕ) : GoesOn c work (.startFailed i) (c.close i) (some ⟨work, .failed i⟩)
  | failed (i : ℕ) (howns : c.owns work i = true) : GoesOn c work (.failed i)
      (({ c with transport := none, started := false } : TransportControl).scheduleRetry work none)
      none
  | succeeded (i : ℕ) (howns : c.owns work i = true) :
      GoesOn c work (.succeeded i) { c with started := true } none
  | waiting (i : ℕ) (hfree : (c.goroutines.any fun goroutine => goroutine.phase.locks) = false) :
      GoesOn c work (.waiting i) c (some ⟨work, .checking i⟩)
  | checking (i : ℕ) (howns : c.owns work i = true) : GoesOn c work (.checking i)
      { c with updated := c.updated ++ [(i, work.generation)] } (some ⟨work, .updating i⟩)
  | updating (i : ℕ) (succeeds : Bool) : GoesOn c work (.updating i) c
      (some ⟨work, if succeeds then .updateSucceeded i else .updateFailed i⟩)
  | updateFailed (i : ℕ) (howns : c.owns work i = true) :
      GoesOn c work (.updateFailed i) (c.scheduleRetry work (some i)) none
  | updateSucceeded (i : ℕ) (howns : c.owns work i = true) :
      GoesOn c work (.updateSucceeded i) { c with retryCount := 0 } none
  -- It ends, with nothing to close.
  | ended (phase : TransportPhase) (hopen : phase.closes = none)
      (hinstalling : ∀ i, phase ≠ .installing i) : GoesOn c work phase c none

lemma scheduleRetry_become (update : Option ℕ) : (c.become index next).scheduleRetry work update =
      (c.scheduleRetry work update).become index next := by
  rw [scheduleRetry, scheduleRetry]
  have hcurrent : (c.become index next).isCurrent work = c.isCurrent work := rfl
  have htransport : (c.become index next).transport = c.transport := rfl
  have htimer : (c.become index next).retryTimer = c.retryTimer := rfl
  have hcount : (c.become index next).retryCount = c.retryCount := rfl
  rw [hcurrent, htransport, htimer, hcount]
  split_ifs <;> rfl

/-- A goroutine that goes on does what it does in its phase. -/
lemma goOn?_eq_some {succeeds : Bool} (hnext : c.goOn? index succeeds = some c') :
    ∃ work phase base next, c.goroutines[index]? = some ⟨work, phase⟩ ∧
      GoesOn c work phase base next ∧ c' = base.become index next := by
  rw [goOn?] at hnext
  cases hget : c.goroutines[index]? with
  | none =>
    rw [hget] at hnext
    cases hnext
  | some goroutine =>
    obtain ⟨work, phase⟩ := goroutine
    rw [hget] at hnext
    dsimp only at hnext
    refine ⟨work, phase, ?_⟩
    cases phase with
    | closing old start =>
      obtain rfl := Option.some.inj hnext
      refine ⟨_, _, rfl, .closing old start, ?_⟩
      cases old <;> rfl
    | starting =>
      obtain rfl := Option.some.inj hnext
      split_ifs with hinstall
      · exact ⟨_, _, rfl, .starting, rfl⟩
      · exact ⟨_, _, rfl, .ended _ rfl (fun i hno => by cases hno), rfl⟩
    | building =>
      dsimp only at hnext
      split_ifs at hnext with hmade
      · obtain rfl := Option.some.inj hnext
        exact ⟨_, _, rfl, .building, rfl⟩
      · obtain rfl := Option.some.inj hnext
        exact ⟨_, _, rfl, .ended _ rfl (fun i hno => by cases hno), rfl⟩
    | installing i =>
      dsimp only at hnext
      split_ifs at hnext with hinstall
      · obtain rfl := Option.some.inj hnext
        exact ⟨_, _, rfl, .installing i hinstall, rfl⟩
      · obtain rfl := Option.some.inj hnext
        exact ⟨_, _, rfl, .refused i, rfl⟩
    | refusing i =>
      obtain rfl := Option.some.inj hnext
      exact ⟨_, _, rfl, .refusing i, rfl⟩
    | running i =>
      obtain rfl := Option.some.inj hnext
      exact ⟨_, _, rfl, .running i succeeds, rfl⟩
    | startFailed i =>
      obtain rfl := Option.some.inj hnext
      exact ⟨_, _, rfl, .startFailed i, rfl⟩
    | failed i =>
      dsimp only at hnext
      split_ifs at hnext with howns
      · obtain rfl := Option.some.inj hnext
        exact ⟨_, _, rfl, .failed i howns,
          @scheduleRetry_become { c with transport := none, started := false } work index none none⟩
      · obtain rfl := Option.some.inj hnext
        exact ⟨_, _, rfl, .ended _ rfl (fun i hno => by cases hno), rfl⟩
    | succeeded i =>
      obtain rfl := Option.some.inj hnext
      split_ifs with howns
      · exact ⟨_, _, rfl, .succeeded i howns, rfl⟩
      · exact ⟨_, _, rfl, .ended _ rfl (fun i hno => by cases hno), rfl⟩
    | waiting i =>
      dsimp only at hnext
      split_ifs at hnext with hfree
      obtain rfl := Option.some.inj hnext
      exact ⟨_, _, rfl, .waiting i (Bool.not_eq_true _ ▸ hfree), rfl⟩
    | checking i =>
      dsimp only at hnext
      split_ifs at hnext with howns
      · obtain rfl := Option.some.inj hnext
        exact ⟨_, _, rfl, .checking i howns, rfl⟩
      · obtain rfl := Option.some.inj hnext
        exact ⟨_, _, rfl, .ended _ rfl (fun i hno => by cases hno), rfl⟩
    | updating i =>
      obtain rfl := Option.some.inj hnext
      exact ⟨_, _, rfl, .updating i succeeds, rfl⟩
    | updateFailed i =>
      obtain rfl := Option.some.inj hnext
      split_ifs with howns
      · exact ⟨_, _, rfl, .updateFailed i howns, scheduleRetry_become (some i)⟩
      · exact ⟨_, _, rfl, .ended _ rfl (fun i hno => by cases hno), rfl⟩
    | updateSucceeded i =>
      obtain rfl := Option.some.inj hnext
      split_ifs with howns
      · exact ⟨_, _, rfl, .updateSucceeded i howns, rfl⟩
      · exact ⟨_, _, rfl, .ended _ rfl (fun i hno => by cases hno), rfl⟩

/-! ## Timers -/

lemma fire?_eq_some (hnext : c.fire? index = some c') :
    ∃ timer, c.timers[index]? = some timer ∧ timer.status = .armed ∧
      c' = { c with timers := c.timers.set index { timer with status := .fired } } := by
  rw [fire?] at hnext
  cases hget : c.timers[index]? with
  | none =>
    rw [hget] at hnext
    cases hnext
  | some timer =>
    rw [hget] at hnext
    dsimp only at hnext
    split_ifs at hnext with harmed
    exact ⟨timer, rfl, harmed, (Option.some.inj hnext).symm⟩

lemma callback?_eq_some (hnext : c.callback? index = some c') :
    ∃ timer, c.timers[index]? = some timer ∧ timer.status = .fired ∧
      (((c.isCurrent timer.work = false ∨ c.transport ≠ timer.update) ∧
        c' = { c with timers := c.timers.set index { timer with status := .over } }) ∨
      (c.isCurrent timer.work = true ∧ c.transport = timer.update ∧
        c' = ({ c with
          timers := c.timers.set index { timer with status := .over }
          retryTimer := none } : TransportControl).spawn timer.work
            (match timer.update with
              | some transport => .waiting transport
              | none => .starting))) := by
  rw [callback?] at hnext
  cases hget : c.timers[index]? with
  | none =>
    rw [hget] at hnext
    cases hnext
  | some timer =>
    rw [hget] at hnext
    dsimp only at hnext
    split_ifs at hnext with hfired hstale
    · exact ⟨timer, rfl, not_not.mp hfired, Or.inl ⟨hstale, (Option.some.inj hnext).symm⟩⟩
    · rw [not_or, Bool.not_eq_false, not_not] at hstale
      exact ⟨timer, rfl, not_not.mp hfired,
        Or.inr ⟨hstale.1, hstale.2, (Option.some.inj hnext).symm⟩⟩

/-- What a step does: it begins another generation, or something of a generation goes on. -/
inductive Moves (c : TransportControl) : TransportControl → Prop
  | kept : Moves c c
  | begins {work : TransportWork} {phase : TransportPhase} {transport : Option ℕ} {started : Bool}
      {projection : String} (hgeneration : work.generation = c.generation + 1)
      (hheld : ∀ i, c.transport = some i → transport = some i ∨ phase.closes = some i)
      (hstarts : phase.startsWith = none) (hlocks : phase.locks = false) : Moves c
        (({ c.renew with transport, started, projection } : TransportControl).spawn work phase)
  | stops : Moves c { c.renew with stopped := true }
  | goesOn {work : TransportWork} {phase : TransportPhase} {base : TransportControl} {index : ℕ}
      {next : Option TransportGoroutine} (hget : c.goroutines[index]? = some ⟨work, phase⟩)
      (hgo : GoesOn c work phase base next) : Moves c (base.become index next)
  | fires {index : ℕ} {timer : RetryTimer} (hget : c.timers[index]? = some timer)
      (harmed : timer.status = .armed) :
      Moves c { c with timers := c.timers.set index { timer with status := .fired } }
  | expires {index : ℕ} {timer : RetryTimer} (hget : c.timers[index]? = some timer) :
      Moves c { c with timers := c.timers.set index { timer with status := .over } }
  | retries {phase : TransportPhase} {index : ℕ} {timer : RetryTimer}
      (hget : c.timers[index]? = some timer) (hfired : timer.status = .fired)
      (hcurrent : c.isCurrent timer.work = true)
      (hstarts : phase.startsWith = none) (hlocks : phase.locks = false)
      (hupdates : phase.updates = timer.update.isSome) : Moves c
        (({ c with
          timers := c.timers.set index { timer with status := .over }
          retryTimer := none } : TransportControl).spawn timer.work phase)

lemma moves_of_next {step : TransportControlStep} (hnext : c.next? step = some c') :
    Moves c c' := by
  have hdetach : Moves c c.detach := .begins rfl (fun _ hi => Or.inr hi) rfl rfl
  cases step with
  | observe projection =>
    obtain rfl := Option.some.inj hnext
    rw [observe]
    split_ifs
    · exact .kept
    cases htransport : c.transport with
    | none => exact .begins rfl (fun _ hi => Or.inl hi) rfl rfl
    | some old =>
      dsimp only
      split_ifs
      · exact .begins rfl (fun _ hi => Or.inl hi) rfl rfl
      · exact .begins rfl (fun _ hi => Or.inr (htransport.symm.trans hi)) rfl rfl
  | setResidentStream =>
    obtain ⟨-, ⟨⟩⟩ := Option.ite_none_left_eq_some.mp hnext
    exact hdetach
  | beginStop =>
    obtain ⟨-, ⟨⟩⟩ := Option.ite_none_left_eq_some.mp hnext
    exact .stops
  | releaseResources =>
    obtain rfl := Option.some.inj hnext
    exact hdetach
  | goOn index succeeds =>
    obtain ⟨work, phase, base, next, hget, hgo, rfl⟩ := goOn?_eq_some hnext
    exact .goesOn hget hgo
  | fire timer =>
    obtain ⟨fired, hget, harmed, rfl⟩ := fire?_eq_some hnext
    exact .fires hget harmed
  | callback timer =>
    obtain ⟨fired, hget, hfired, ⟨-, rfl⟩ | ⟨hcurrent, -, rfl⟩⟩ := callback?_eq_some hnext
    · exact .expires hget
    · refine .retries hget hfired hcurrent ?_ ?_ ?_ <;> cases fired.update <;> rfl

/-! ## Ownership -/

/-- The invariant of ownership. -/
structure Owned (c : TransportControl) : Prop where
  held : ∀ i, c.Open i → c.transport = some i ∨ c.Closing i ∨ c.Installing i
  made : ∀ goroutine ∈ c.goroutines, ∀ i, goroutine.phase.startsWith = some i → i < c.made.length
  failed : ∀ goroutine ∈ c.goroutines, ∀ i, goroutine.phase = .failed i → c.made[i]? = some true

lemma scheduleRetry_eq (c : TransportControl) (work : TransportWork) (update : Option ℕ) :
    (c.scheduleRetry work update).made = c.made ∧
      (c.scheduleRetry work update).transport = c.transport ∧
      (c.scheduleRetry work update).started = c.started ∧
      (c.scheduleRetry work update).goroutines = c.goroutines ∧
      (c.scheduleRetry work update).generation = c.generation ∧
      (c.scheduleRetry work update).updated = c.updated ∧
      (c.scheduleRetry work update).stopped = c.stopped := by
  rw [scheduleRetry]
  split_ifs <;> exact ⟨rfl, rfl, rfl, rfl, rfl, rfl, rfl⟩

lemma open_close {i j : ℕ} (h : (c.close j).Open i) : c.Open i ∧ i ≠ j := by
  have hset : (c.made.set j true)[i]? = some false := h
  rw [List.getElem?_set] at hset
  split_ifs at hset with hsame
  · cases hset
  · exact ⟨hset, fun heq => hsame heq.symm⟩

variable {i : ℕ}

lemma open_made (h : ({ c with made := c.made ++ [false] } : TransportControl).Open i) :
    c.Open i ∨ i = c.made.length := by
  have happend : (c.made ++ [false])[i]? = some false := h
  by_cases hlt : i < c.made.length
  · rw [List.getElem?_append_left hlt] at happend
    exact Or.inl happend
  · have hle := (List.getElem?_eq_some_iff.mp happend).1
    rw [List.length_append, List.length_singleton] at hle
    exact Or.inr (by omega)

/-- How a step of a goroutine treats the transports. -/
structure Treats (c : TransportControl) (phase : TransportPhase) (base : TransportControl)
    (next : Option TransportGoroutine) : Prop where
  goroutines : base.goroutines = c.goroutines
  closed : ∀ i : ℕ, c.made[i]? = some true → base.made[i]? = some true
  length : c.made.length ≤ base.made.length
  -- What was not closed still is held, is closed now, or is handed over.
  held : ∀ i, base.Open i → c.Open i → c.transport = some i → base.transport = some i
  closes : ∀ i, base.Open i → phase.closes ≠ some i
  installs : ∀ i, phase = .installing i → base.transport = some i ∨
    ∃ goroutine, next = some goroutine ∧ goroutine.phase.closes = some i
  new : ∀ i, base.Open i → c.Open i ∨
    ∃ goroutine, next = some goroutine ∧ goroutine.phase = .installing i
  starts : ∀ goroutine, next = some goroutine → ∀ i, goroutine.phase.startsWith = some i →
    i < base.made.length
  failed : ∀ goroutine, next = some goroutine → ∀ i, goroutine.phase = .failed i →
    base.made[i]? = some true

lemma Treats.of_eq {base : TransportControl} (hgoroutines : base.goroutines = c.goroutines)
    (hmade : base.made = c.made) (htransport : base.transport = c.transport)
    (hcloses : phase.closes = none) (hinstalling : ∀ i, phase ≠ .installing i)
    (hstarts : ∀ goroutine, next = some goroutine → ∀ i, goroutine.phase.startsWith = some i →
      i < c.made.length)
    (hfailed : ∀ goroutine, next = some goroutine → ∀ i, goroutine.phase ≠ .failed i) :
    Treats c phase base next where
  goroutines := hgoroutines
  closed i hi := by
    rw [hmade]
    exact hi
  length := Nat.le_of_eq (congrArg List.length hmade).symm
  held i _ _ hheld := by
    rw [htransport]
    exact hheld
  closes i _ hno := by
    rw [hcloses] at hno
    cases hno
  installs i hno := absurd hno (hinstalling i)
  new i hopen := by
    rw [Open, hmade] at hopen
    exact Or.inl hopen
  starts goroutine hnext i hi := by
    rw [hmade]
    exact hstarts goroutine hnext i hi
  failed goroutine hnext i hno := absurd hno (hfailed goroutine hnext i)

lemma Treats.of_close {j : ℕ} (hcloses : phase.closes = some j)
    (hinstalling : ∀ i, phase ≠ .installing i)
    (hnext : ∀ goroutine, next = some goroutine → ∀ i, goroutine.phase.startsWith = some i →
      i = j ∧ j < c.made.length) : Treats c phase (c.close j) next where
  goroutines := rfl
  closed i hi := by
    show (c.made.set j true)[i]? = some true
    rw [List.getElem?_set]
    split_ifs with hsame hlt
    · rfl
    · subst hsame
      exact absurd (List.getElem?_eq_some_iff.mp hi).1 hlt
    · exact hi
  length := Nat.le_of_eq List.length_set.symm
  held _ _ _ hheld := hheld
  closes i hopen hno := by
    rw [hcloses] at hno
    exact (open_close hopen).2 (Option.some.inj hno).symm
  installs i hno := absurd hno (hinstalling i)
  new _ hopen := Or.inl (open_close hopen).1
  starts goroutine hgoroutine i hi := by
    obtain ⟨rfl, hlt⟩ := hnext goroutine hgoroutine i hi
    show i < (c.made.set i true).length
    rw [List.length_set]
    exact hlt
  failed goroutine hgoroutine i hi := by
    obtain ⟨rfl, hlt⟩ := hnext goroutine hgoroutine i (by rw [hi]; rfl)
    show (c.made.set i true)[i]? = some true
    rw [List.getElem?_set_self hlt]

namespace Owned

variable {base : TransportControl}

lemma closing_become (hsame : base.goroutines = c.goroutines)
    (hget : c.goroutines[index]? = some ⟨work, phase⟩) {i : ℕ}
    (h : c.Closing i ∨ c.Installing i) (hcloses : phase.closes ≠ some i)
    (hinstalling : phase ≠ .installing i) :
    (base.become index next).Closing i ∨ (base.become index next).Installing i := by
  have hstays : ∀ goroutine ∈ c.goroutines, goroutine ≠ ⟨work, phase⟩ →
      goroutine ∈ (base.become index next).goroutines := by
    intro goroutine hmem hne
    rw [become, hsame]
    exact List.mem_updateIdx_of_ne hget hmem hne
  rcases h with ⟨goroutine, hmem, hcloses'⟩ | ⟨goroutine, hmem, hinstalling'⟩
  · refine Or.inl ⟨goroutine, hstays goroutine hmem ?_, hcloses'⟩
    rintro rfl
    exact hcloses hcloses'
  · refine Or.inr ⟨goroutine, hstays goroutine hmem ?_, hinstalling'⟩
    rintro rfl
    exact hinstalling hinstalling'

lemma become (h : Owned c)
    (hget : c.goroutines[index]? = some ⟨work, phase⟩) (htreats : Treats c phase base next) :
    Owned (base.become index next) := by
  have hself : ∀ goroutine, next = some goroutine →
      goroutine ∈ (base.become index next).goroutines := by
    rintro goroutine rfl
    rw [TransportControl.become, htreats.goroutines]
    exact List.mem_updateIdx_self hget
  have hmem : ∀ goroutine ∈ (base.become index next).goroutines,
      goroutine ∈ c.goroutines ∨ next = some goroutine := by
    intro goroutine hin
    rw [TransportControl.become, htreats.goroutines] at hin
    exact List.mem_updateIdx hin
  refine ⟨fun i hopen => ?_, fun goroutine hin i hstarts => ?_, fun goroutine hin i hfailed => ?_⟩
  · have hopen : base.Open i := hopen
    rcases htreats.new i hopen with hold | ⟨goroutine, hnext, hphase⟩
    · by_cases hinstalling : phase = .installing i
      · rcases htreats.installs i hinstalling with hheld | ⟨goroutine, hnext, hcloses⟩
        · exact Or.inl hheld
        · exact Or.inr (Or.inl ⟨goroutine, hself goroutine hnext, hcloses⟩)
      rcases h.held i hold with hheld | hother
      · exact Or.inl (htreats.held i hopen hold hheld)
      · exact Or.inr (closing_become htreats.goroutines hget hother (htreats.closes i hopen)
          hinstalling)
    · exact Or.inr (Or.inr ⟨goroutine, hself goroutine hnext, hphase⟩)
  · rcases hmem goroutine hin with hold | hnext
    · exact Nat.lt_of_lt_of_le (h.made goroutine hold i hstarts) htreats.length
    · exact htreats.starts goroutine hnext i hstarts
  · rcases hmem goroutine hin with hold | hnext
    · exact htreats.closed i (h.failed goroutine hold i hfailed)
    · exact htreats.failed goroutine hnext i hfailed

/-- A goroutine that goes on keeps ownership. -/
lemma goesOn (h : Owned c)
    (hget : c.goroutines[index]? = some ⟨work, phase⟩) (hgo : GoesOn c work phase base next) :
    Owned (base.become index next) := by
  have hmem : ⟨work, phase⟩ ∈ c.goroutines := List.mem_of_getElem? hget
  refine h.become hget ?_
  cases hgo with
  | closing old start =>
    have hnext : ∀ goroutine, (if start then some (⟨work, .starting⟩ : TransportGoroutine)
        else none) = some goroutine → ∀ i, goroutine.phase.startsWith ≠ some i := by
      intro goroutine hgoroutine i hno
      cases start <;> cases hgoroutine
      cases hno
    cases old with
    | none =>
      refine .of_eq rfl rfl rfl rfl (by simp) (fun goroutine hgoroutine i hi =>
        absurd hi (hnext goroutine hgoroutine i)) fun goroutine hgoroutine i hi => ?_
      exact hnext goroutine hgoroutine i (by rw [hi]; rfl)
    | some j =>
      exact .of_close rfl (by simp) fun goroutine hgoroutine i hi =>
        absurd hi (hnext goroutine hgoroutine i)
  | starting =>
    refine .of_eq rfl rfl rfl rfl (by simp) ?_ ?_
    · rintro _ ⟨⟩ i hno
      cases hno
    · rintro _ ⟨⟩ i hno
      cases hno
  | building =>
    exact {
      goroutines := rfl
      closed := fun i hi => by
        show (c.made ++ [false])[i]? = some true
        rw [List.getElem?_append_left (List.getElem?_eq_some_iff.mp hi).1]
        exact hi
      length := by
        show c.made.length ≤ (c.made ++ [false]).length
        rw [List.length_append]
        exact Nat.le_add_right _ _
      held := fun _ _ _ hheld => hheld
      closes := fun _ _ hno => by cases hno
      installs := fun _ hno => by cases hno
      new := fun i hopen => (open_made hopen).imp_right fun hnew => ⟨_, rfl, by rw [hnew]⟩
      starts := by
        rintro _ ⟨⟩ i hi
        cases hi
        show c.made.length < (c.made ++ [false]).length
        rw [List.length_append]
        exact Nat.lt_succ_self _
      failed := by
        rintro _ ⟨⟩ i hno
        cases hno }
  | installing i hinstall =>
    have hnone : c.transport = none := of_decide_eq_true (Bool.and_eq_true _ _ ▸ hinstall).2
    exact {
      goroutines := rfl
      closed := fun _ hi => hi
      length := Nat.le_refl _
      held := fun j _ _ hheld => by
        rw [hnone] at hheld
        cases hheld
      closes := fun _ _ hno => by cases hno
      installs := by
        rintro _ ⟨⟩
        exact Or.inl rfl
      new := fun _ hopen => Or.inl hopen
      starts := by
        rintro _ ⟨⟩ j hj
        cases hj
        exact h.made _ hmem i rfl
      failed := by
        rintro _ ⟨⟩ j hno
        cases hno }
  | refused i =>
    exact {
      goroutines := rfl
      closed := fun _ hi => hi
      length := Nat.le_refl _
      held := fun _ _ _ hheld => hheld
      closes := fun _ _ hno => by cases hno
      installs := by
        rintro _ ⟨⟩
        exact Or.inr ⟨_, rfl, rfl⟩
      new := fun _ hopen => Or.inl hopen
      starts := by
        rintro _ ⟨⟩ j hno
        cases hno
      failed := by
        rintro _ ⟨⟩ j hno
        cases hno }
  | refusing i => exact .of_close rfl (by simp) (by simp)
  | running i succeeds =>
    refine .of_eq rfl rfl rfl rfl (by simp) ?_ ?_
    · rintro _ ⟨⟩ j hj
      refine h.made _ hmem j ?_
      cases succeeds
      · exact hj
      · cases hj
    · rintro _ ⟨⟩ j hj
      cases succeeds <;> cases hj
  | startFailed i =>
    refine .of_close rfl (by simp) ?_
    rintro _ ⟨⟩ j hj
    cases hj
    exact ⟨rfl, h.made _ hmem i rfl⟩
  | failed i howns =>
    have hheld : c.transport = some i := of_decide_eq_true (Bool.and_eq_true _ _ ▸ howns).2
    obtain ⟨hmade, -, -, hgoroutines, -⟩ :=
      scheduleRetry_eq { c with transport := none, started := false } work none
    exact {
      goroutines := hgoroutines
      closed := fun j hj => by
        rw [hmade]
        exact hj
      length := Nat.le_of_eq (congrArg List.length hmade).symm
      -- The transport that is given up was closed before.
      held := fun j _ hopen hj => by
        rw [hheld] at hj
        cases hj
        have hclosed := h.failed _ hmem i rfl
        rw [hopen] at hclosed
        cases hclosed
      closes := fun _ _ hno => by cases hno
      installs := fun _ hno => by cases hno
      new := fun j hopen => by
        rw [Open, hmade] at hopen
        exact Or.inl hopen
      starts := fun _ hno => by cases hno
      failed := fun _ hno => by cases hno }
  | succeeded i howns | updateSucceeded i howns =>
    exact .of_eq rfl rfl rfl rfl (by simp) (by simp) (by simp)
  | waiting i hfree | checking i howns =>
    refine .of_eq rfl rfl rfl rfl (by simp) ?_ ?_
    · rintro _ ⟨⟩ j hno
      cases hno
    · rintro _ ⟨⟩ j hno
      cases hno
  | updating i succeeds =>
    refine .of_eq rfl rfl rfl rfl (by simp) ?_ ?_
    · rintro _ ⟨⟩ j hno
      cases succeeds <;> cases hno
    · rintro _ ⟨⟩ j hno
      cases succeeds <;> cases hno
  | updateFailed i howns =>
    obtain ⟨hmade, htransport, -, hgoroutines, -⟩ := scheduleRetry_eq c work (some i)
    exact .of_eq hgoroutines hmade htransport rfl (by simp) (by simp) (by simp)
  | ended _ hopen hinstalling => exact .of_eq rfl rfl rfl hopen hinstalling (by simp) (by simp)

lemma spawn (h : Owned c) (hmade : base.made = c.made)
    (hgoroutines : base.goroutines = c.goroutines)
    (hheld : ∀ i, c.transport = some i → base.transport = some i ∨ phase.closes = some i)
    (hstarts : phase.startsWith = none) : Owned (base.spawn work phase) := by
  have hmem : ∀ goroutine, goroutine ∈ (base.spawn work phase).goroutines ↔
      goroutine ∈ c.goroutines ∨ goroutine = ⟨work, phase⟩ := by
    intro goroutine
    rw [TransportControl.spawn, hgoroutines, List.mem_append, List.mem_singleton]
  have hlength : (base.spawn work phase).made = c.made := hmade
  refine ⟨fun i hopen => ?_, fun goroutine hin i hi => ?_, fun goroutine hin i hi => ?_⟩
  · rw [Open, hlength] at hopen
    rcases h.held i hopen with hold | ⟨goroutine, hin, hcloses⟩ | ⟨goroutine, hin, hinstalling⟩
    · rcases hheld i hold with hstill | hcloses
      · exact Or.inl hstill
      · exact Or.inr (Or.inl ⟨_, (hmem _).mpr (Or.inr rfl), hcloses⟩)
    · exact Or.inr (Or.inl ⟨goroutine, (hmem _).mpr (Or.inl hin), hcloses⟩)
    · exact Or.inr (Or.inr ⟨goroutine, (hmem _).mpr (Or.inl hin), hinstalling⟩)
  · rw [hlength]
    rcases (hmem goroutine).mp hin with hold | rfl
    · exact h.made goroutine hold i hi
    · rw [hstarts] at hi
      cases hi
  · rw [hlength]
    rcases (hmem goroutine).mp hin with hold | rfl
    · exact h.failed goroutine hold i hi
    · have hi : phase = .failed i := hi
      rw [hi] at hstarts
      cases hstarts

lemma of_eq (h : Owned c) (hmade : c'.made = c.made) (htransport : c'.transport = c.transport)
    (hgoroutines : c'.goroutines = c.goroutines) : Owned c' := by
  refine ⟨fun i hopen => ?_, ?_, ?_⟩
  · rw [Open, hmade] at hopen
    rw [htransport, Closing, Installing, hgoroutines]
    exact h.held i hopen
  · rw [hgoroutines, hmade]
    exact h.made
  · rw [hgoroutines, hmade]
    exact h.failed

lemma of_next {step : TransportControlStep} (h : Owned c) (hnext : c.next? step = some c') :
    Owned c' := by
  cases moves_of_next hnext with
  | kept => exact h
  | begins _ hheld hstarts _ => exact h.spawn rfl rfl hheld hstarts
  | goesOn hget hgo => exact h.goesOn hget hgo
  | stops | fires _ _ | expires _ => exact h.of_eq rfl rfl rfl
  | retries _ _ _ hstarts _ _ => exact h.spawn rfl rfl (fun i hi => Or.inl hi) hstarts

end Owned

/-! ## Generations -/

lemma generation_of_isCurrent (h : c.isCurrent work = true) : c.generation = work.generation := by
  rw [isCurrent, Bool.and_eq_true, Bool.and_eq_true] at h
  exact of_decide_eq_true h.1.2

lemma generation_of_owns (h : c.owns work i = true) : c.generation = work.generation := by
  rw [owns, Bool.and_eq_true] at h
  exact generation_of_isCurrent h.1

lemma GoesOn.work_eq {base : TransportControl} (hgo : GoesOn c work phase base next)
    {goroutine : TransportGoroutine} (hnext : next = some goroutine) :
    goroutine.work = work ∧ goroutine.phase.updates = phase.updates := by
  subst hnext
  generalize hg : some goroutine = next at hgo
  cases hgo with
  | closing old start => cases start <;> cases hg; exact ⟨rfl, rfl⟩
  | running i succeeds | updating i succeeds => cases hg; cases succeeds <;> exact ⟨rfl, rfl⟩
  | starting | building | installing i hinstall | refused i | startFailed i | waiting i hfree
  | checking i howns => cases hg; exact ⟨rfl, rfl⟩
  | refusing i | failed i howns | succeeded i howns | updateFailed i howns
  | updateSucceeded i howns | ended _ hopen hinstalling => cases hg

lemma scheduleRetry_timers (c : TransportControl) (work : TransportWork) (update : Option ℕ) :
    ((c.scheduleRetry work update).timers = c.timers ∧
      (c.scheduleRetry work update).retryTimer = c.retryTimer ∧
      (c.scheduleRetry work update).retryCount = c.retryCount) ∨
    (c.generation = work.generation ∧ c.retryTimer = none ∧
      c.retryCount < participantTransportRetryLimit ∧
      (c.scheduleRetry work update).timers = c.timers ++ [⟨work, update, .armed⟩] ∧
      (c.scheduleRetry work update).retryTimer = some c.timers.length ∧
      (c.scheduleRetry work update).retryCount = c.retryCount + 1) := by
  rw [scheduleRetry]
  split_ifs with hstale htransport hlimit
  · exact Or.inl ⟨rfl, rfl, rfl⟩
  · exact Or.inl ⟨rfl, rfl, rfl⟩
  · exact Or.inl ⟨rfl, rfl, rfl⟩
  · rw [not_or, Bool.not_eq_false, not_not] at hstale
    exact Or.inr ⟨generation_of_isCurrent hstale.1, hstale.2, Nat.not_le.mp hlimit, rfl, rfl, rfl⟩

lemma getElem?_renew {timer : RetryTimer} (h : c.renew.timers[i]? = some timer) :
    ∃ old, c.timers[i]? = some old ∧
      timer = if c.retryTimer = some i then stopTimer old else old := by
  rw [renew] at h
  dsimp only at h
  cases hretry : c.retryTimer with
  | none =>
    rw [hretry] at h
    exact ⟨timer, h, (if_neg (by simp)).symm⟩
  | some stopped =>
    rw [hretry] at h
    dsimp only at h
    rw [List.getElem?_modify] at h
    obtain ⟨old, hold, heq⟩ := Option.map_eq_some_iff.mp h
    refine ⟨old, hold, ?_⟩
    rw [← heq]
    simp only [Option.some.injEq]

lemma stopTimer_eq (timer : RetryTimer) :
    (stopTimer timer).work = timer.work ∧ (stopTimer timer).update = timer.update ∧
      (stopTimer timer).status ≠ .armed ∧
      ((stopTimer timer).status = .fired → timer.status = .fired) := by
  rw [stopTimer]
  split_ifs with harmed
  · exact ⟨rfl, rfl, by simp, by simp⟩
  · exact ⟨rfl, rfl, harmed, id⟩

/-- The invariant of generations. -/
structure Dated (c : TransportControl) : Prop where
  goroutines : ∀ goroutine ∈ c.goroutines, goroutine.work.generation ≤ c.generation
  timers : ∀ timer ∈ c.timers, timer.work.generation ≤ c.generation
  -- A timer that may still retry is the one that the Runtime knows.
  known : ∀ i timer, c.timers[i]? = some timer →
    timer.status = .armed ∨ timer.status = .fired ∧ timer.work.generation = c.generation →
      c.retryTimer = some i
  updated : ∀ update ∈ c.updated, update.2 ≤ c.generation
  ordered : c.updated.Pairwise fun earlier later => earlier.1 = later.1 → earlier.2 ≤ later.2

namespace Dated

section

variable (h : Dated c)
include h

lemma renew : Dated c.renew where
  goroutines goroutine hmem := Nat.le_succ_of_le (h.goroutines goroutine hmem)
  timers timer hmem := by
    obtain ⟨i, hget⟩ := List.getElem?_of_mem hmem
    obtain ⟨old, hold, rfl⟩ := getElem?_renew hget
    have hle := h.timers old (List.mem_of_getElem? hold)
    split_ifs
    · rw [(stopTimer_eq old).1]
      exact Nat.le_succ_of_le hle
    · exact Nat.le_succ_of_le hle
  known i timer hget hopen := by
    obtain ⟨old, hold, rfl⟩ := getElem?_renew hget
    have hle := h.timers old (List.mem_of_getElem? hold)
    have hnew : c.renew.generation = c.generation + 1 := rfl
    -- The timer that the Runtime knew is stopped, and what has fired is of an earlier generation.
    split_ifs at hopen with hknown
    · rcases hopen with harmed | ⟨-, hcurrent⟩
      · exact absurd harmed (stopTimer_eq old).2.2.1
      · rw [(stopTimer_eq old).1, hnew] at hcurrent
        omega
    · rcases hopen with harmed | ⟨-, hcurrent⟩
      · exact absurd (h.known i old hold (Or.inl harmed)) hknown
      · rw [hnew] at hcurrent
        omega
  updated update hmem := Nat.le_succ_of_le (h.updated update hmem)
  ordered := h.ordered

lemma spawn (hle : work.generation ≤ c.generation) : Dated (c.spawn work phase) where
  goroutines goroutine hmem := by
    rcases List.mem_append.mp hmem with hold | hnew
    · exact h.goroutines goroutine hold
    · rw [List.mem_singleton.mp hnew]
      exact hle
  timers := h.timers
  known := h.known
  updated := h.updated
  ordered := h.ordered

lemma of_eq (hgoroutines : ∀ goroutine ∈ c'.goroutines,
      goroutine.work.generation ≤ c.generation)
    (htimers : c'.timers = c.timers) (hretry : c'.retryTimer = c.retryTimer)
    (hupdated : c'.updated = c.updated) (hgeneration : c'.generation = c.generation) :
    Dated c' where
  goroutines := by
    rw [hgeneration]
    exact hgoroutines
  timers := by
    rw [hgeneration, htimers]
    exact h.timers
  known := by
    rw [hgeneration, htimers, hretry]
    exact h.known
  updated := by
    rw [hgeneration, hupdated]
    exact h.updated
  ordered := by
    rw [hupdated]
    exact h.ordered

lemma scheduleRetry (work : TransportWork) (update : Option ℕ) :
    Dated (c.scheduleRetry work update) := by
  obtain ⟨-, -, -, hgoroutines, hgeneration, hupdated, -⟩ := scheduleRetry_eq c work update
  rcases scheduleRetry_timers c work update with
    ⟨htimers, hretry, -⟩ | ⟨hcurrent, hnone, -, htimers, hretry, -⟩
  · refine h.of_eq ?_ htimers hretry hupdated hgeneration
    rw [hgoroutines]
    exact h.goroutines
  refine ⟨?_, fun timer hmem => ?_, fun i timer hget hopen => ?_, ?_, ?_⟩
  · rw [hgoroutines, hgeneration]
    exact h.goroutines
  · rw [hgeneration]
    rw [htimers, List.mem_append, List.mem_singleton] at hmem
    rcases hmem with hold | rfl
    · exact h.timers timer hold
    · exact Nat.le_of_eq hcurrent.symm
  · rw [hretry]
    rw [hgeneration] at hopen
    rw [htimers] at hget
    by_cases hlt : i < c.timers.length
    · -- No other timer may still retry.
      rw [List.getElem?_append_left hlt] at hget
      have hknown := h.known i timer hget hopen
      rw [hnone] at hknown
      cases hknown
    · have hle := (List.getElem?_eq_some_iff.mp hget).1
      rw [List.length_append, List.length_singleton] at hle
      rw [show i = c.timers.length by omega]
  · rw [hgeneration, hupdated]
    exact h.updated
  · rw [hupdated]
    exact h.ordered

lemma goesOn {base : TransportControl}
    (hget : c.goroutines[index]? = some ⟨work, phase⟩) (hgo : GoesOn c work phase base next) :
    Dated (base.become index next) := by
  have hle : work.generation ≤ c.generation := h.goroutines _ (List.mem_of_getElem? hget)
  have hgoroutines : base.goroutines = c.goroutines → ∀ goroutine ∈
      (base.become index next).goroutines, goroutine.work.generation ≤ c.generation := by
    intro hsame goroutine hmem
    rw [become, hsame] at hmem
    rcases List.mem_updateIdx hmem with hold | hnew
    · exact h.goroutines goroutine hold
    · rw [(hgo.work_eq hnew).1]
      exact hle
  have hbecome : Dated base → base.goroutines = c.goroutines → base.generation = c.generation →
      Dated (base.become index next) := fun hbase hsame hgeneration => by
    refine hbase.of_eq ?_ rfl rfl rfl rfl
    rw [hgeneration]
    exact hgoroutines hsame
  cases hgo with
  | closing old start => cases old <;> exact hbecome (h.of_eq h.goroutines rfl rfl rfl rfl) rfl rfl
  | starting | refused i | running i succeeds | waiting i hfree | updating i succeeds
  | ended _ hopen hinstalling => exact hbecome h rfl rfl
  | building | installing i hinstall | refusing i | startFailed i | succeeded i howns
  | updateSucceeded i howns => exact hbecome (h.of_eq h.goroutines rfl rfl rfl rfl) rfl rfl
  | failed i howns =>
    have hbase : Dated { c with transport := none, started := false } :=
      h.of_eq h.goroutines rfl rfl rfl rfl
    obtain ⟨-, -, -, hsame, hgeneration, -⟩ :=
      scheduleRetry_eq { c with transport := none, started := false } work none
    exact hbecome (hbase.scheduleRetry work none) hsame hgeneration
  | checking i howns =>
    -- The update is one to the projection that there is.
    have hcurrent := generation_of_owns howns
    refine hbecome ⟨h.goroutines, h.timers, h.known, fun update hmem => ?_, ?_⟩ rfl rfl
    · rcases List.mem_append.mp hmem with hold | hnew
      · exact h.updated update hold
      · rw [List.mem_singleton.mp hnew]
        exact hle
    · refine List.pairwise_append.mpr ⟨h.ordered, List.pairwise_singleton _ _, ?_⟩
      intro earlier hearlier later hlater _
      rw [List.mem_singleton.mp hlater]
      exact Nat.le_trans (h.updated earlier hearlier) (Nat.le_of_eq hcurrent)
  | updateFailed i howns =>
    obtain ⟨-, -, -, hsame, hgeneration, -⟩ := scheduleRetry_eq c work (some i)
    exact hbecome (h.scheduleRetry work (some i)) hsame hgeneration

lemma set {timer : RetryTimer} (changed : RetryTimer) (hget : c.timers[index]? = some timer)
    (hwork : changed.work = timer.work) (hretry : c'.retryTimer = c.retryTimer ∨
      c.retryTimer = some index ∧ changed.status = .over)
    (hopen : changed.status = .over ∨ timer.status = .armed)
    (htimers : c'.timers = c.timers.set index changed) (hgoroutines : c'.goroutines = c.goroutines)
    (hupdated : c'.updated = c.updated) (hgeneration : c'.generation = c.generation) :
    Dated c' := by
  have hlt := (List.getElem?_eq_some_iff.mp hget).1
  refine ⟨?_, fun other hmem => ?_, fun i other hother hstill => ?_, ?_, ?_⟩
  · rw [hgoroutines, hgeneration]
    exact h.goroutines
  · rw [hgeneration]
    rw [htimers] at hmem
    rcases List.mem_or_eq_of_mem_set hmem with hold | rfl
    · exact h.timers other hold
    · rw [hwork]
      exact h.timers timer (List.mem_of_getElem? hget)
  · rw [hgeneration] at hstill
    rw [htimers, List.getElem?_set] at hother
    -- The timer that changes was the known one if it may still retry.
    have hknown : c.retryTimer = some i ∧ (index = i → changed.status ≠ .over) := by
      split_ifs at hother with hsame
      · subst hsame
        cases hother
        have hnot : changed.status ≠ .over := by
          intro hover
          rcases hstill with hno | ⟨hno, -⟩ <;> rw [hover] at hno <;> cases hno
        exact ⟨h.known index timer hget (Or.inl (hopen.resolve_left hnot)), fun _ => hnot⟩
      · exact ⟨h.known i other hother hstill, fun hno => absurd hno hsame⟩
    rcases hretry with hkeeps | ⟨hfirst, hover⟩
    · rw [hkeeps]
      exact hknown.1
    · rw [hfirst] at hknown
      exact absurd hover (hknown.2 (Option.some.inj hknown.1))
  · rw [hgeneration, hupdated]
    exact h.updated
  · rw [hupdated]
    exact h.ordered

lemma of_next {step : TransportControlStep} (hnext : c.next? step = some c') : Dated c' := by
  cases moves_of_next hnext with
  | kept => exact h
  | begins hgeneration _ _ _ =>
    refine Dated.spawn ?_ (Nat.le_of_eq hgeneration)
    exact h.renew.of_eq h.renew.goroutines rfl rfl rfl rfl
  | stops => exact h.renew.of_eq h.renew.goroutines rfl rfl rfl rfl
  | goesOn hget hgo => exact h.goesOn hget hgo
  | @fires index timer hget harmed =>
    exact h.set { timer with status := .fired } hget rfl (Or.inl rfl) (Or.inr harmed) rfl rfl rfl rfl
  | @expires index timer hget =>
    exact h.set { timer with status := .over } hget rfl (Or.inl rfl) (Or.inl rfl) rfl rfl rfl rfl
  | @retries phase index timer hget hfired hcurrent =>
    have hgeneration := generation_of_isCurrent hcurrent
    have hknown := h.known index timer hget (Or.inr ⟨hfired, hgeneration.symm⟩)
    refine Dated.spawn ?_ (Nat.le_of_eq hgeneration.symm)
    exact h.set { timer with status := .over } hget rfl (Or.inr ⟨hknown, rfl⟩) (Or.inl rfl) rfl rfl
      rfl rfl

end

end Dated

/-! ## The lock of updates -/

/-- At most one goroutine holds the lock of updates. -/
def Exclusive (c : TransportControl) : Prop := c.goroutines.countP (·.phase.locks) ≤ 1

namespace Exclusive

lemma spawn (h : Exclusive c) (hlocks : phase.locks = false) : Exclusive (c.spawn work phase) := by
  have hlocks : ¬(⟨work, phase⟩ : TransportGoroutine).phase.locks = true :=
    Bool.eq_false_iff.mp hlocks
  rw [Exclusive, TransportControl.spawn, List.countP_append, List.countP_singleton,
    if_neg hlocks]
  exact h

lemma countP_become {base : TransportControl} (hget : c.goroutines[index]? = some ⟨work, phase⟩)
    (hsame : base.goroutines = c.goroutines) :
    (base.become index next).goroutines.countP (·.phase.locks) + (if phase.locks then 1 else 0) =
      c.goroutines.countP (·.phase.locks) + if next.any (·.phase.locks) then 1 else 0 := by
  rw [TransportControl.become, hsame]
  exact List.countP_updateIdx hget

lemma become {base : TransportControl} (h : Exclusive c)
    (hget : c.goroutines[index]? = some ⟨work, phase⟩) (hsame : base.goroutines = c.goroutines)
    (hlocks : ∀ goroutine, next = some goroutine → goroutine.phase.locks = true →
      phase.locks = true) : Exclusive (base.become index next) := by
  have hcount := @countP_become c work phase index next base hget hsame
  rw [Exclusive] at h ⊢
  cases hnext : next with
  | none =>
    rw [hnext, Option.any_none, if_neg Bool.false_ne_true] at hcount
    omega
  | some goroutine =>
    rw [hnext, Option.any_some] at hcount
    by_cases hlock : goroutine.phase.locks = true
    · rw [if_pos hlock, if_pos (hlocks goroutine hnext hlock)] at hcount
      omega
    · rw [if_neg hlock] at hcount
      omega

lemma goesOn {base : TransportControl} (h : Exclusive c)
    (hget : c.goroutines[index]? = some ⟨work, phase⟩) (hgo : GoesOn c work phase base next) :
    Exclusive (base.become index next) := by
  cases hgo with
  | closing old start =>
    have hsame : (old.elim c c.close).goroutines = c.goroutines := by cases old <;> rfl
    refine h.become hget hsame fun goroutine hgoroutine hno => ?_
    cases start <;> cases hgoroutine
    cases hno
  | starting | building | installing i hinstall | refused i | startFailed i =>
    exact h.become hget rfl (by rintro _ ⟨⟩ hno; cases hno)
  | refusing i | succeeded i howns | updateSucceeded i howns | ended _ hopen hinstalling =>
    exact h.become hget rfl (fun _ hno => by cases hno)
  | running i succeeds => exact h.become hget rfl (by rintro _ ⟨⟩ hno; cases succeeds <;> cases hno)
  | failed i howns =>
    obtain ⟨-, -, -, hsame, -⟩ :=
      scheduleRetry_eq { c with transport := none, started := false } work none
    exact h.become hget hsame (fun _ hno => by cases hno)
  | waiting i hfree =>
    -- No goroutine holds the lock yet.
    have hcount := @countP_become c work (.waiting i) index (some ⟨work, .checking i⟩) c hget rfl
    have hzero : c.goroutines.countP (·.phase.locks) = 0 :=
      List.countP_eq_zero.mpr fun goroutine hmem hlocks =>
        Bool.false_ne_true (hfree.symm.trans (List.any_eq_true.mpr ⟨goroutine, hmem, hlocks⟩))
    have hwaiting : ¬(TransportPhase.waiting i).locks = true := Bool.false_ne_true
    have hchecking : (⟨work, .checking i⟩ : TransportGoroutine).phase.locks = true := rfl
    rw [hzero, Option.any_some, if_neg hwaiting, if_pos hchecking] at hcount
    exact Nat.le_of_eq hcount
  | checking i howns | updating i succeeds => exact h.become hget rfl fun _ _ _ => rfl
  | updateFailed i howns =>
    obtain ⟨-, -, -, hsame, -⟩ := scheduleRetry_eq c work (some i)
    exact h.become hget hsame (fun _ hno => by cases hno)

end Exclusive

variable {step : TransportControlStep}

lemma Exclusive.of_next (h : Exclusive c) (hnext : c.next? step = some c') : Exclusive c' := by
  cases moves_of_next hnext with
  | kept | stops | fires _ _ | expires _ => exact h
  | begins _ _ _ hlocks | retries _ _ _ _ hlocks _ => exact Exclusive.spawn h hlocks
  | goesOn hget hgo => exact h.goesOn hget hgo

/-! ## Retries -/

variable (c) in
/-- In this generation the transport is only updated. -/
structure Updates : Prop where
  goroutines : ∀ goroutine ∈ c.goroutines, goroutine.work.generation = c.generation →
    goroutine.phase.updates = true
  timers : ∀ timer ∈ c.timers, timer.work.generation = c.generation → timer.update ≠ none

variable (c) in
/-- In this generation a transport is only started. -/
structure Starts : Prop where
  goroutines : ∀ goroutine ∈ c.goroutines, goroutine.work.generation = c.generation →
    goroutine.phase.updates = false
  timers : ∀ timer ∈ c.timers, timer.work.generation = c.generation → timer.update = none
  counted : c.startRetries c.generation ≤ c.retryCount

variable (c) in
/-- The invariant of retries. -/
structure Retries : Prop where
  count : c.retryCount ≤ participantTransportRetryLimit
  bounded : ∀ generation, c.startRetries generation ≤ participantTransportRetryLimit
  kind : c.Updates ∨ c.Starts

lemma startRetries_renew (generation : ℕ) :
    c.renew.startRetries generation = c.startRetries generation := by
  have hstop : ∀ timer : RetryTimer, (decide ((stopTimer timer).work.generation = generation) &&
      (stopTimer timer).update.isNone) =
        (decide (timer.work.generation = generation) && timer.update.isNone) := fun timer => by
    rw [(stopTimer_eq timer).1, (stopTimer_eq timer).2.1]
  rw [startRetries, startRetries, renew]
  dsimp only
  cases c.retryTimer with
  | none => rfl
  | some stopped => exact List.countP_modify hstop _ _

lemma startRetries_eq_zero (h : Dated c) : c.startRetries (c.generation + 1) = 0 := by
  refine List.countP_eq_zero.mpr fun timer hmem hretry => ?_
  rw [Bool.and_eq_true] at hretry
  have hgeneration := of_decide_eq_true hretry.1
  have hle := h.timers timer hmem
  omega

namespace Retries

lemma of_eq (h : Retries c) (hcount : c'.retryCount = c.retryCount)
    (htimers : c'.timers = c.timers) (hgoroutines : c'.goroutines = c.goroutines)
    (hgeneration : c'.generation = c.generation) : Retries c' := by
  have hretries : ∀ generation, c'.startRetries generation = c.startRetries generation :=
    fun generation => by rw [startRetries, startRetries, htimers]
  refine ⟨?_, fun generation => ?_, h.kind.imp (fun hkind => ⟨?_, ?_⟩) fun hkind => ⟨?_, ?_, ?_⟩⟩
  · rw [hcount]
    exact h.count
  · rw [hretries]
    exact h.bounded generation
  · rw [hgoroutines, hgeneration]
    exact hkind.goroutines
  · rw [htimers, hgeneration]
    exact hkind.timers
  · rw [hgoroutines, hgeneration]
    exact hkind.goroutines
  · rw [htimers, hgeneration]
    exact hkind.timers
  · rw [hretries, hgeneration, hcount]
    exact hkind.counted

lemma begin {base : TransportControl} (h : Retries c) (hdated : Dated c)
    (hcount : base.retryCount = 0) (htimers : base.timers = c.renew.timers)
    (hgoroutines : ∀ goroutine ∈ base.goroutines,
      goroutine ∈ c.goroutines ∨ goroutine.phase = phase)
    (hgeneration : base.generation = c.generation + 1) : Retries base := by
  have hretries : ∀ generation, base.startRetries generation = c.startRetries generation := by
    intro generation
    calc base.startRetries generation = c.renew.startRetries generation := by
          rw [startRetries, startRetries, htimers]
      _ = c.startRetries generation := startRetries_renew generation
  have hold : ∀ timer ∈ base.timers, timer.work.generation ≠ base.generation := by
    intro timer hmem heq
    rw [htimers] at hmem
    have hle := hdated.renew.timers timer hmem
    obtain ⟨i, hget⟩ := List.getElem?_of_mem hmem
    obtain ⟨old, hstopped, rfl⟩ := getElem?_renew hget
    have hle := hdated.timers old (List.mem_of_getElem? hstopped)
    split_ifs at heq
    · rw [(stopTimer_eq old).1] at heq
      omega
    · omega
  have hnew : ∀ goroutine ∈ base.goroutines, goroutine.work.generation = base.generation →
      goroutine.phase = phase := by
    intro goroutine hmem heq
    refine (hgoroutines goroutine hmem).resolve_left fun hmem => ?_
    have hle := hdated.goroutines goroutine hmem
    omega
  refine ⟨?_, fun generation => ?_, ?_⟩
  · rw [hcount]
    exact Nat.zero_le _
  · rw [hretries]
    exact h.bounded generation
  · cases hkind : phase.updates with
    | true =>
      refine Or.inl ⟨fun goroutine hmem heq => ?_, fun timer hmem heq =>
        absurd heq (hold timer hmem)⟩
      rw [hnew goroutine hmem heq]
      exact hkind
    | false =>
      refine Or.inr ⟨fun goroutine hmem heq => ?_, fun timer hmem heq =>
        absurd heq (hold timer hmem), ?_⟩
      · rw [hnew goroutine hmem heq]
        exact hkind
      · rw [hgeneration, hretries, startRetries_eq_zero hdated]
        exact Nat.zero_le _

lemma scheduleRetry (h : Retries c) {update : Option ℕ} (hkind : c.generation = work.generation →
      c.Updates ∧ update ≠ none ∨ c.Starts ∧ update = none) :
    Retries (c.scheduleRetry work update) := by
  obtain ⟨-, -, -, hgoroutines, hgeneration, -, -⟩ := scheduleRetry_eq c work update
  rcases scheduleRetry_timers c work update with
    ⟨htimers, -, hcount⟩ | ⟨hcurrent, -, hlimit, htimers, -, hcount⟩
  · exact h.of_eq hcount htimers hgoroutines hgeneration
  have hmem : ∀ timer, timer ∈ (c.scheduleRetry work update).timers ↔
      timer ∈ c.timers ∨ timer = ⟨work, update, .armed⟩ := fun timer => by
    rw [htimers, List.mem_append, List.mem_singleton]
  have hretries : ∀ generation, (c.scheduleRetry work update).startRetries generation =
      c.startRetries generation +
        if work.generation = generation ∧ update = none then 1 else 0 := by
    intro generation
    rw [startRetries, startRetries, htimers, List.countP_append, List.countP_singleton]
    simp only [Bool.and_eq_true, decide_eq_true_eq, Option.isNone_iff_eq_none]
  rcases hkind hcurrent with ⟨hupdates, hupdate⟩ | ⟨hstarts, rfl⟩
  · refine ⟨?_, fun generation => ?_, Or.inl ⟨?_, fun timer hin heq => ?_⟩⟩
    · rw [hcount]
      exact hlimit
    · rw [hretries, if_neg fun hno => hupdate hno.2]
      exact h.bounded generation
    · rw [hgoroutines, hgeneration]
      exact hupdates.goroutines
    · rcases (hmem timer).mp hin with hold | rfl
      · rw [hgeneration] at heq
        exact hupdates.timers timer hold heq
      · exact hupdate
  · refine ⟨?_, fun generation => ?_, Or.inr ⟨?_, fun timer hin heq => ?_, ?_⟩⟩
    · rw [hcount]
      exact hlimit
    · rw [hretries]
      split_ifs with hsame
      · rw [← hsame.1, ← hcurrent]
        exact Nat.succ_le_of_lt (Nat.lt_of_le_of_lt hstarts.counted hlimit)
      · exact h.bounded generation
    · rw [hgoroutines, hgeneration]
      exact hstarts.goroutines
    · rcases (hmem timer).mp hin with hold | rfl
      · rw [hgeneration] at heq
        exact hstarts.timers timer hold heq
      · rfl
    · rw [hretries, hgeneration, hcount, if_pos ⟨hcurrent.symm, rfl⟩]
      exact Nat.succ_le_succ hstarts.counted

lemma become {base : TransportControl} (h : Retries base)
    (hget : base.goroutines[index]? = some ⟨work, phase⟩)
    (hnext : ∀ goroutine, next = some goroutine →
      goroutine.work = work ∧ goroutine.phase.updates = phase.updates) :
    Retries (base.become index next) := by
  have hmem : ∀ goroutine ∈ (base.become index next).goroutines,
      ∃ old ∈ base.goroutines, goroutine.work = old.work ∧
        goroutine.phase.updates = old.phase.updates := by
    intro goroutine hin
    rcases List.mem_updateIdx hin with hold | hnew
    · exact ⟨goroutine, hold, rfl, rfl⟩
    · exact ⟨_, List.mem_of_getElem? hget, hnext goroutine hnew⟩
  refine ⟨h.count, h.bounded, h.kind.imp (fun hkind => ⟨fun goroutine hin heq => ?_, hkind.timers⟩)
    fun hkind => ⟨fun goroutine hin heq => ?_, hkind.timers, hkind.counted⟩⟩
  · obtain ⟨old, hold, hwork, hupdates⟩ := hmem goroutine hin
    rw [hwork] at heq
    rw [hupdates]
    exact hkind.goroutines old hold heq
  · obtain ⟨old, hold, hwork, hupdates⟩ := hmem goroutine hin
    rw [hwork] at heq
    rw [hupdates]
    exact hkind.goroutines old hold heq

lemma goesOn {base : TransportControl} (h : Retries c)
    (hget : c.goroutines[index]? = some ⟨work, phase⟩) (hgo : GoesOn c work phase base next) :
    Retries (base.become index next) := by
  have hmem : ⟨work, phase⟩ ∈ c.goroutines := List.mem_of_getElem? hget
  have hwork : ∀ goroutine, next = some goroutine →
      goroutine.work = work ∧ goroutine.phase.updates = phase.updates :=
    fun goroutine hgoroutine => hgo.work_eq hgoroutine
  have hbecome : Retries base → base.goroutines = c.goroutines →
      Retries (base.become index next) := fun hbase hsame =>
    hbase.become (by rw [hsame]; exact hget) hwork
  -- What is done in the generation that there is tells its kind.
  have hupdates : phase.updates = true → c.generation = work.generation → c.Updates := by
    intro hphase hcurrent
    refine h.kind.resolve_right fun hstarts => ?_
    have hno := hstarts.goroutines _ hmem hcurrent.symm
    rw [hphase] at hno
    cases hno
  have hstarts : phase.updates = false → c.generation = work.generation → c.Starts := by
    intro hphase hcurrent
    refine h.kind.resolve_left fun hupdates => ?_
    have hno := hupdates.goroutines _ hmem hcurrent.symm
    rw [hphase] at hno
    cases hno
  cases hgo with
  | closing old start => cases old <;> exact hbecome (h.of_eq rfl rfl rfl rfl) rfl
  | starting | refused i | running i succeeds | waiting i hfree | updating i succeeds
  | ended _ hopen hinstalling => exact hbecome h rfl
  | building | installing i hinstall | refusing i | startFailed i | succeeded i howns
  | checking i howns => exact hbecome (h.of_eq rfl rfl rfl rfl) rfl
  | failed i howns =>
    have hbase : Retries { c with transport := none, started := false } := h.of_eq rfl rfl rfl rfl
    obtain ⟨-, -, -, hsame, -⟩ :=
      scheduleRetry_eq { c with transport := none, started := false } work none
    refine hbecome (hbase.scheduleRetry fun hcurrent => Or.inr ⟨?_, rfl⟩) hsame
    have hkind := hstarts rfl hcurrent
    exact ⟨hkind.goroutines, hkind.timers, hkind.counted⟩
  | updateFailed i howns =>
    obtain ⟨-, -, -, hsame, -⟩ := scheduleRetry_eq c work (some i)
    refine hbecome (h.scheduleRetry fun hcurrent => Or.inl ⟨?_, Option.some_ne_none i⟩) hsame
    exact hupdates rfl hcurrent
  | updateSucceeded i howns =>
    -- The count begins again only in a generation that does not start anything.
    have hkind := hupdates rfl (generation_of_owns howns)
    exact hbecome ⟨Nat.zero_le _, h.bounded, Or.inl ⟨hkind.goroutines, hkind.timers⟩⟩ rfl

lemma set {timer : RetryTimer} (h : Retries c) (changed : RetryTimer)
    (hget : c.timers[index]? = some timer) (hwork : changed.work = timer.work)
    (hupdate : changed.update = timer.update) (hcount : c'.retryCount = c.retryCount)
    (htimers : c'.timers = c.timers.set index changed) (hgoroutines : c'.goroutines = c.goroutines)
    (hgeneration : c'.generation = c.generation) : Retries c' := by
  have hretries : ∀ generation, c'.startRetries generation = c.startRetries generation := by
    intro generation
    let retries : RetryTimer → Bool :=
      fun timer => timer.work.generation = generation && timer.update.isNone
    have hadd : (c.timers.updateIdx index (some changed)).countP retries +
        (if retries timer then 1 else 0) =
          c.timers.countP retries + if (some changed).any retries then 1 else 0 :=
      List.countP_updateIdx hget
    have hsame : retries changed = retries timer := by
      show (decide (changed.work.generation = generation) && changed.update.isNone) = _
      rw [hwork, hupdate]
    rw [Option.any_some, hsame] at hadd
    rw [startRetries, startRetries, htimers]
    exact Nat.add_right_cancel hadd
  have hmem : ∀ other ∈ c'.timers, ∃ old ∈ c.timers, other.work = old.work ∧
      other.update = old.update := by
    intro other hin
    rw [htimers] at hin
    rcases List.mem_or_eq_of_mem_set hin with hold | rfl
    · exact ⟨other, hold, rfl, rfl⟩
    · exact ⟨timer, List.mem_of_getElem? hget, hwork, hupdate⟩
  refine ⟨?_, fun generation => ?_, h.kind.imp (fun hkind => ⟨?_, fun other hin heq => ?_⟩)
    fun hkind => ⟨?_, fun other hin heq => ?_, ?_⟩⟩
  · rw [hcount]
    exact h.count
  · rw [hretries]
    exact h.bounded generation
  · rw [hgoroutines, hgeneration]
    exact hkind.goroutines
  · obtain ⟨old, hold, hsame, hsameUpdate⟩ := hmem other hin
    rw [hsame, hgeneration] at heq
    rw [hsameUpdate]
    exact hkind.timers old hold heq
  · rw [hgoroutines, hgeneration]
    exact hkind.goroutines
  · obtain ⟨old, hold, hsame, hsameUpdate⟩ := hmem other hin
    rw [hsame, hgeneration] at heq
    rw [hsameUpdate]
    exact hkind.timers old hold heq
  · rw [hretries, hgeneration, hcount]
    exact hkind.counted

lemma spawn (h : Retries c) {timer : RetryTimer} (hmem : timer ∈ c.timers)
    (hwork : work = timer.work) (hphase : phase.updates = timer.update.isSome) :
    Retries (c.spawn work phase) := by
  subst hwork
  refine ⟨h.count, h.bounded, h.kind.imp (fun hkind => ⟨fun goroutine hin heq => ?_, hkind.timers⟩)
    fun hkind => ⟨fun goroutine hin heq => ?_, hkind.timers, hkind.counted⟩⟩
  · rcases List.mem_append.mp hin with hold | hnew
    · exact hkind.goroutines goroutine hold heq
    · rw [List.mem_singleton] at hnew
      subst hnew
      have hsome := hkind.timers timer hmem heq
      rw [hphase, Option.isSome_iff_ne_none]
      exact hsome
  · rcases List.mem_append.mp hin with hold | hnew
    · exact hkind.goroutines goroutine hold heq
    · rw [List.mem_singleton] at hnew
      subst hnew
      have hnone := hkind.timers timer hmem heq
      rw [hphase, hnone]
      rfl

lemma of_next (h : Retries c) (hdated : Dated c) (hnext : c.next? step = some c') : Retries c' := by
  cases moves_of_next hnext with
  | kept => exact h
  | @begins work phase =>
    refine @begin c phase _ h hdated rfl rfl (fun goroutine hin => ?_) rfl
    exact (List.mem_append.mp hin).imp_right fun hnew =>
      congrArg TransportGoroutine.phase (List.mem_singleton.mp hnew)
  | stops => exact @begin c .starting _ h hdated rfl rfl (fun goroutine hin => Or.inl hin) rfl
  | goesOn hget hgo => exact h.goesOn hget hgo
  | @fires index timer hget =>
    exact h.set { timer with status := .fired } hget rfl rfl rfl rfl rfl rfl
  | @expires index timer hget =>
    exact h.set { timer with status := .over } hget rfl rfl rfl rfl rfl rfl
  | @retries phase index timer hget _ _ _ _ hupdates =>
    have hset : Retries { c with
        timers := c.timers.set index { timer with status := .over }, retryTimer := none } :=
      h.set { timer with status := .over } hget rfl rfl rfl rfl rfl rfl
    have hlt := (List.getElem?_eq_some_iff.mp hget).1
    exact hset.spawn (List.mem_of_getElem? (List.getElem?_set_self hlt)) rfl hupdates

end Retries

/-! ## Fences -/

lemma generation_of_mayInstall (h : c.mayInstall work = true) : c.generation = work.generation := by
  rw [mayInstall, Bool.and_eq_true] at h
  exact generation_of_isCurrent h.1

lemma GoesOn.control_eq {base : TransportControl} (hgo : GoesOn c work phase base next)
    (hstale : work.generation ≠ c.generation) : base.control = c.control := by
  cases hgo with
  | closing old start => cases old <;> rfl
  | starting | building | refused i | refusing i | running i succeeds | startFailed i
  | waiting i hfree | checking i howns | updating i succeeds | ended _ hopen hinstalling => rfl
  | installing i hinstall => exact absurd (generation_of_mayInstall hinstall).symm hstale
  | failed i howns | succeeded i howns | updateFailed i howns | updateSucceeded i howns =>
    exact absurd (generation_of_owns howns).symm hstale

lemma control_of_next {generation : ℕ} (h : Dated c)
    (hnext : c.next? step = some c') (hof : c.generationOf? step = some generation) :
    generation ≤ c.generation ∧ (generation ≠ c.generation → c'.control = c.control) := by
  cases step with
  | observe projection | setResidentStream | beginStop | releaseResources | fire timer => cases hof
  | goOn index succeeds =>
    obtain ⟨work, phase, base, next, hget, hgo, rfl⟩ := goOn?_eq_some hnext
    rw [generationOf?, hget] at hof
    obtain rfl : work.generation = generation := Option.some.inj hof
    exact ⟨h.goroutines _ (List.mem_of_getElem? hget), fun hstale => hgo.control_eq hstale⟩
  | callback timer =>
    obtain ⟨fired, hget, -, hthen⟩ := callback?_eq_some hnext
    rw [generationOf?, hget] at hof
    obtain rfl : fired.work.generation = generation := Option.some.inj hof
    refine ⟨h.timers _ (List.mem_of_getElem? hget), fun hstale => ?_⟩
    rcases hthen with ⟨-, rfl⟩ | ⟨hcurrent, -, -⟩
    · rfl
    · exact absurd (generation_of_isCurrent hcurrent).symm hstale

lemma installed_of_goOn {succeeds : Bool} (hget : c.goroutines[index]? = some ⟨work, .installing i⟩)
    (hnext : c.goOn? index succeeds = some c') : c'.transport = some i ∨ c'.Closing i := by
  obtain ⟨work', phase, base, next, hget', hgo, rfl⟩ := goOn?_eq_some hnext
  rw [hget] at hget'
  obtain ⟨rfl, rfl⟩ : work = work' ∧ TransportPhase.installing i = phase :=
    TransportGoroutine.mk.inj (Option.some.inj hget')
  cases hgo with
  | installing i hinstall => exact Or.inl rfl
  | refused i =>
    exact Or.inr ⟨⟨work, .refusing i⟩, List.mem_updateIdx_self hget, rfl⟩
  | ended _ hopen hinstalling => exact absurd rfl (hinstalling i)

/-! ## Runs -/

/-- The invariant. -/
structure Inv (c : TransportControl) : Prop where
  owned : Owned c
  dated : Dated c
  exclusive : Exclusive c
  retries : Retries c

lemma inv_of_reachable (h : transportControlSystem.Reachable c) : Inv c := by
  refine h.invariant ?_ ?_
  · rintro _ ⟨setup, rfl⟩
    refine ⟨⟨?_, ?_, ?_⟩, ⟨?_, ?_, ?_, ?_, List.Pairwise.nil⟩, Nat.zero_le _,
      Nat.zero_le _, fun _ => Nat.zero_le _, Or.inl ⟨?_, ?_⟩⟩
    · intro i hi
      cases hi
    · intro goroutine hmem
      cases hmem
    · intro goroutine hmem
      cases hmem
    · intro goroutine hmem
      cases hmem
    · intro timer hmem
      cases hmem
    · intro i timer hget
      cases hget
    · intro update hmem
      cases hmem
    · intro goroutine hmem
      cases hmem
    · intro timer hmem
      cases hmem
  · intro c step c' hinv _ hstep
    exact ⟨hinv.owned.of_next hstep, hinv.dated.of_next hstep, hinv.exclusive.of_next hstep,
      hinv.retries.of_next hinv.dated hstep⟩

end TransportControl

/-- There is one transport, and only the projection that was observed last decides about it. -/
theorem oneTransport_of_reachable {c : TransportControl}
    (h : transportControlSystem.Reachable c) : c.OneTransport := by
  have hinv := TransportControl.inv_of_reachable h
  refine {
    held := fun i hopen hclosing hinstalling => ?_
    installed := fun index work i succeeds c' hget hnext =>
      TransportControl.installed_of_goOn hget hnext
    exclusive := hinv.exclusive
    ordered := hinv.dated.ordered
    fenced := fun step c' generation hnext hof =>
      TransportControl.control_of_next hinv.dated hnext hof
    armed := ?_
    bounded := hinv.retries.bounded }
  · rcases hinv.owned.held i hopen with hheld | hclosed | hinstall
    · exact hheld
    · exact absurd hclosed hclosing
    · exact absurd hinstall hinstalling
  · rintro i j ⟨timer, hget, harmed⟩ ⟨timer', hget', harmed'⟩
    have hi := hinv.dated.known i timer hget (Or.inl harmed)
    have hj := hinv.dated.known j timer' hget' (Or.inl harmed')
    exact Option.some.inj (hi.symm.trans hj)

/-- A Runtime that starts transports for whatever it observes. -/
def eagerSetup : TransportSetup where
  signature projection := if projection.sources = [] then "routes" else "sources"
  valid _ := true
  handled := true
  updatable := true

/-- The steps to the first transport that the factory returns. -/
def firstTransportSteps : List TransportControlStep :=
  [.observe ⟨[⟨"app", 1, "task", "agent", "human", "host", []⟩], []⟩, .goOn 0 true, .goOn 0 true,
    .goOn 0 true]

/-- The first transport is installed, and is the only one. -/
theorem oneTransport_firstTransport :
    ∃ c, transportControlSystem.Reachable c ∧ c.transport = some 0 ∧ c.OneTransport := by
  have hrun : ((TransitionSystem.runWhen? TransportControl.next? (fun _ _ => true)
      { setup := eagerSetup } (firstTransportSteps ++ [.goOn 0 true])).any fun c =>
        c.transport = some 0) = true := by
    decide +kernel
  obtain ⟨c, hc, hheld⟩ := (Option.any_eq_true _ _).mp hrun
  have hreach : transportControlSystem.Reachable c :=
    TransitionSystem.reachable_of_runWhen (fun _ _ _ h => h) ⟨eagerSetup, rfl⟩ hc
  exact ⟨c, hreach, of_decide_eq_true hheld, oneTransport_of_reachable hreach⟩

/-- Before it is looked at, the first transport is open, and the Runtime does not hold it. -/
theorem not_holdsOpen_firstTransport :
    ¬∀ c, transportControlSystem.Reachable c → c.HoldsOpen := by
  intro hholds
  have hrun : ((TransitionSystem.runWhen? TransportControl.next? (fun _ _ => true)
      { setup := eagerSetup } firstTransportSteps).any fun c =>
        c.made[0]? = some false && c.goroutines.all (fun goroutine => goroutine.phase.closes = none)
          && c.transport = none) = true := by
    decide +kernel
  obtain ⟨c, hc, hopen⟩ := (Option.any_eq_true _ _).mp hrun
  rw [Bool.and_eq_true, Bool.and_eq_true] at hopen
  have hreach : transportControlSystem.Reachable c :=
    TransitionSystem.reachable_of_runWhen (fun _ _ _ h => h) ⟨eagerSetup, rfl⟩ hc
  have hclosing : ¬c.Closing 0 := by
    rintro ⟨goroutine, hmem, hcloses⟩
    have hnone := of_decide_eq_true (List.all_eq_true.mp hopen.1.2 goroutine hmem)
    rw [hnone] at hcloses
    cases hcloses
  have hmade : c.made[0]? = some false := of_decide_eq_true hopen.1.1
  have hheld := hholds c hreach 0 hmade hclosing
  rw [of_decide_eq_true hopen.2] at hheld
  cases hheld

end Free4Chat
