import Free4Chat.Media.Engine

/-!
# Cancelled Audio Is Not Emitted

No frame has PCM of a turn that was cancelled before it is emitted, or of a publication that was
deactivated. A frame has the PCM of one turn only. As long as the generations of a turn are current,
its PCM is emitted in the order in which it was accepted, and nothing is lost. A late cancellation
removes nothing of the turn that is admitted. This holds in every run in which no two critical
sections that belong together are torn apart by another call.

The source breaks this where they are. `WritePCM` reads the generations after it was admitted, and a
turn that was cancelled in between is written under the new ones. The writer carries over what it
has taken after the carry was cleared, and emits a frame after its last look at the generations.
`CancelTurn` clears the queue after it has raised the generation, with what the next turn has
enqueued.

* `EngineRun.EmitsFenced`: what holds of states.
* `EngineRun.fences`: the condition on the steps.
* `emitsFenced_of_fences`: the property, over every run.
* `not_emitsFenced_snapshot`: a run in which a cancelled turn is emitted.
-/

namespace Free4Chat

/-! ## The property -/

/-- Frames have the PCM of one turn, which was not cancelled, in order and without loss. -/
structure EngineRun.EmitsFenced (s : EngineRun) : Prop where
  cancelled : ∀ frame ∈ s.frames, ∀ byte ∈ frame.bytes, byte.turn.token ≠ 0 →
    ∀ token ∈ frame.cancelled, token < byte.turn.token
  generation : ∀ frame ∈ s.frames, ∀ byte ∈ frame.bytes, byte.turn.generation = frame.generation
  single : ∀ frame ∈ s.frames, ∀ byte ∈ frame.bytes, ∀ byte' ∈ frame.bytes, byte.turn = byte'.turn
  late : ∀ audio ∈ s.cleared, ∀ token, audio.token = some token → token ≠ 0 →
    token < audio.admitted.token → ∀ byte ∈ audio.bytes, byte.turn ≠ audio.admitted
  -- For the turns of the current generations nothing is lost.
  flow : KeyedFlow PcmByte.turn (fun turn => s.isCurrent turn = true) s.accepted s.emitted s.pending
  dropped : ∀ drop ∈ s.dropped, drop.1.generation ≠ drop.2.generation ∨
    drop.1.turnGeneration ≠ drop.2.turnGeneration

namespace EngineRun

variable (s : EngineRun)

/-- The turns of the calls that have read the generations. -/
def writing : List TurnTag :=
  s.producers.filterMap fun p => if p.chunk = none then none else p.phase.turn?

/-- Whether PCM of the current generations with a token is on its way. -/
def turnPending : Bool :=
  (s.pending.map PcmByte.turn ++ s.writing).any fun turn => s.isCurrent turn && turn.token ≠ 0

/-- Whether a call may go on. A new turn is admitted only when the one before it is done, and the
generations are read before the turn is cancelled or the publication ends. -/
def producerFences (p : Producer) : Bool :=
  match p.phase with
  | .admitting => p.token ≤ s.highestAdmitted || !s.validateTurn p.token || !s.turnPending
  | .admitted =>
    p.chunk = none || (p.generation = s.pubGeneration &&
      (p.token = 0 || (p.token = s.highestAdmitted && s.cancelled.all (· < p.token))))
  | _ => true

/-- Whether the writer may take an item with a byte of the carry. -/
def carriesOver (item : QueueItem) (byte : PcmByte) : Bool :=
  if item.data = none then
    byte.turn.generation = item.turn.generation &&
      byte.turn.turnGeneration = item.turn.turnGeneration &&
      (item.turn.token = 0 || byte.turn.token = item.turn.token)
  else byte.turn = item.turn

/-- Whether the writer may go on. The carry belongs to the turn of the item, and a frame is emitted
while the checks before it still hold. -/
def writerFences (emits : Bool) : WriterPhase → Bool
  | .working item [] .take => s.carry.all (carriesOver item)
  | .working item [] (.frames rest) =>
    emits && (WriterWork.frames rest).checks.all (s.passes item.turn)
  | .working item [] (.tail bytes) =>
    emits && (WriterWork.tail bytes).checks.all (s.passes item.turn)
  | _ => true

/-- No two critical sections that belong together are torn apart. -/
def fences : EngineStep → Bool
  | .produce index => s.producers[index]?.all s.producerFences
  | .clearQueueAndCarry _ => (s.carry ++ s.queued).all fun byte => !s.isCurrent byte.turn
  | .write emits => s.writerFences emits s.writer
  | _ => true

end EngineRun

/-! ## The invariant -/

/-- The PCM of an item belongs to its turn. -/
def QueueItem.Own (item : QueueItem) : Prop := ∀ byte ∈ item.bytes, byte.turn = item.turn

/-- Some PCM belongs to one turn. -/
def OneTurn (bytes : List PcmByte) : Prop := ∀ byte ∈ bytes, ∀ byte' ∈ bytes, byte.turn = byte'.turn

/-- What the writer has taken belongs to the turn of its item. -/
def WriterWork.Own (item : QueueItem) : WriterWork → Prop
  | .take => True
  | .frames rest => ∀ byte ∈ rest, byte.turn = item.turn
  | .tail bytes => OneTurn bytes ∧ ∀ byte ∈ bytes,
      byte.turn.generation = item.turn.generation ∧
        byte.turn.turnGeneration = item.turn.turnGeneration ∧
        (item.turn.token = 0 ∨ byte.turn.token = item.turn.token)

/-- What the writer works on belongs together. -/
def WriterPhase.Own : WriterPhase → Prop
  | .idle => True
  | .working item _ work => item.Own ∧ work.Own item

namespace EngineRun

/-- What is known of the turn of PCM on its way. -/
structure Known (s : EngineRun) (turn : TurnTag) : Prop where
  generation : turn.generation ≤ s.pubGeneration
  turnGeneration : turn.turnGeneration ≤ s.turnGeneration
  active : turn.generation = s.pubGeneration → s.publishOn = true
  admitted : s.isCurrent turn = true → turn.token ≠ 0 →
    turn.token = s.highestAdmitted ∧ ∀ token ∈ s.cancelled, token < turn.token

/-- What is known of a call. -/
structure ProducerKnown (s : EngineRun) (p : Producer) : Prop where
  generation : p.generation ≤ s.pubGeneration
  active : p.generation = s.pubGeneration → s.publishOn = true
  turn : ∀ turn, p.phase.turn? = some turn → p.chunk ≠ none →
    turn.generation = p.generation ∧ s.Known turn
  -- A flush marker does not wait for space.
  waits : ∀ turn, p.phase = .waiting turn ∨ p.phase = .rechecking turn → p.chunk ≠ none

/-- The invariant. -/
structure Invariant (s : EngineRun) : Prop where
  producers : ∀ p ∈ s.producers, s.ProducerKnown p
  queue : ∀ item ∈ s.queueRing, item.Own
  writer : s.writer.Own
  carry : OneTurn s.carry
  known : ∀ byte ∈ s.pending, s.Known byte.turn
  accepted : ∀ byte ∈ s.accepted, byte.turn.generation ≤ s.pubGeneration ∧
    byte.turn.turnGeneration ≤ s.turnGeneration
  watermark : s.cancelledThrough = 0 ∨ s.cancelledThrough ∈ s.cancelled
  returned : ∀ token ∈ s.returned, token ∈ s.cancelled
  clearing : ∀ token, some token ∈ s.clearing → token ∈ s.cancelled
  fenced : s.EmitsFenced

variable {s s' : EngineRun} {turn : TurnTag} {p : Producer}

lemma isCurrent_iff : s.isCurrent turn = true ↔
    turn.generation = s.pubGeneration ∧ turn.turnGeneration = s.turnGeneration := by
  rw [isCurrent, Bool.and_eq_true, decide_eq_true_eq, decide_eq_true_eq]

/-! ### What is known of a turn -/

lemma Known.congr (h : s.Known turn) (hpub : s'.pubGeneration = s.pubGeneration)
    (hturn : s'.turnGeneration = s.turnGeneration) (hactive : s'.publishOn = s.publishOn)
    (hadmitted : s'.highestAdmitted = s.highestAdmitted) (hcancelled : s'.cancelled = s.cancelled) :
    s'.Known turn where
  generation := by rw [hpub]; exact h.generation
  turnGeneration := by rw [hturn]; exact h.turnGeneration
  active := by rw [hpub, hactive]; exact h.active
  admitted := by
    intro hcurrent
    rw [isCurrent_iff, hpub, hturn, ← isCurrent_iff] at hcurrent
    rw [hadmitted, hcancelled]
    exact h.admitted hcurrent

lemma Known.of_advance (h : s.Known turn) (hpub : s.pubGeneration ≤ s'.pubGeneration)
    (hturn : s.turnGeneration ≤ s'.turnGeneration)
    (hactive : s'.pubGeneration = s.pubGeneration → s'.publishOn = s.publishOn)
    (hmoved : s.pubGeneration < s'.pubGeneration ∨ s.turnGeneration < s'.turnGeneration) :
    s'.Known turn where
  generation := Nat.le_trans h.generation hpub
  turnGeneration := Nat.le_trans h.turnGeneration hturn
  active := by
    intro heq
    have hle := h.generation
    rw [hactive (by omega)]
    exact h.active (by omega)
  admitted := by
    intro hcurrent
    obtain ⟨hgeneration, hturnGeneration⟩ := isCurrent_iff.mp hcurrent
    have hle := h.generation
    have hle' := h.turnGeneration
    omega

lemma Known.of_late (h : s.Known turn) {token through : ℕ} {returned : List ℕ}
    (hlate : token < s.highestAdmitted) : Known { s with
      cancelledThrough := through
      cancelled := s.cancelled ++ [token]
      returned := returned } turn where
  generation := h.generation
  turnGeneration := h.turnGeneration
  active := h.active
  admitted := by
    intro hcurrent htoken
    obtain ⟨hadmitted, hcancelled⟩ := h.admitted hcurrent htoken
    refine ⟨hadmitted, fun other hother => ?_⟩
    rcases List.mem_append.mp hother with hold | hnew
    · exact hcancelled other hold
    · rw [List.mem_singleton.mp hnew, hadmitted]
      exact hlate

lemma Known.of_admitted (h : s.Known turn) {token : ℕ}
    (hnone : s.isCurrent turn = true → turn.token = 0) :
    Known { s with highestAdmitted := token } turn where
  generation := h.generation
  turnGeneration := h.turnGeneration
  active := h.active
  admitted := fun hcurrent htoken => absurd (hnone hcurrent) htoken

lemma ProducerKnown.of_known (h : s.ProducerKnown p)
    (hknown : ∀ turn, p.phase.turn? = some turn → p.chunk ≠ none → s.Known turn → s'.Known turn)
    (hpub : s.pubGeneration ≤ s'.pubGeneration)
    (hactive : s'.pubGeneration = s.pubGeneration → s'.publishOn = s.publishOn) :
    s'.ProducerKnown p where
  generation := Nat.le_trans h.generation hpub
  active := by
    intro heq
    have hle := h.generation
    rw [hactive (by omega)]
    exact h.active (by omega)
  turn := by
    intro turn hturn hchunk
    obtain ⟨hgeneration, hold⟩ := h.turn turn hturn hchunk
    exact ⟨hgeneration, hknown turn hturn hchunk hold⟩
  waits := h.waits

namespace Invariant

/-! ### Frame lemmas -/

lemma of_known (h : s.Invariant)
    (hknown : ∀ turn, turn ∈ s.pending.map PcmByte.turn ++ s.writing → s.Known turn → s'.Known turn)
    (hpub : s.pubGeneration ≤ s'.pubGeneration) (hturn : s.turnGeneration ≤ s'.turnGeneration)
    (hactive : s'.pubGeneration = s.pubGeneration → s'.publishOn = s.publishOn)
    (hproducers : s'.producers = s.producers) (hqueue : s'.queueRing = s.queueRing)
    (hwriter : s'.writer = s.writer) (hcarry : s'.carry = s.carry)
    (haccepted : s'.accepted = s.accepted) (hframes : s'.frames = s.frames)
    (hcleared : s'.cleared = s.cleared) (hdropped : s'.dropped = s.dropped)
    (hwatermark : s'.cancelledThrough = 0 ∨ s'.cancelledThrough ∈ s'.cancelled)
    (hreturned : ∀ token ∈ s'.returned, token ∈ s'.cancelled)
    (hclearing : ∀ token, some token ∈ s'.clearing → token ∈ s'.cancelled) : s'.Invariant := by
  have hpending : s'.pending = s.pending := by
    rw [pending, pending, queued, queued, hwriter, hcarry, hqueue]
  have hemitted : s'.emitted = s.emitted := by rw [emitted, emitted, hframes]
  refine ⟨?_, ?_, ?_, ?_, ?_, ?_, hwatermark, hreturned, hclearing, ?_⟩
  · rw [hproducers]
    intro p hp
    refine (h.producers p hp).of_known (fun turn hphase hchunk => ?_) hpub hactive
    refine hknown turn (List.mem_append.mpr (Or.inr (List.mem_filterMap.mpr ⟨p, hp, ?_⟩)))
    rw [if_neg hchunk, hphase]
  · rw [hqueue]; exact h.queue
  · rw [hwriter]; exact h.writer
  · rw [hcarry]; exact h.carry
  · rw [hpending]
    intro byte hbyte
    refine hknown byte.turn (List.mem_append.mpr (Or.inl ?_)) (h.known byte hbyte)
    exact List.mem_map.mpr ⟨byte, hbyte, rfl⟩
  · rw [haccepted]
    intro byte hbyte
    obtain ⟨hle, hle'⟩ := h.accepted byte hbyte
    exact ⟨Nat.le_trans hle hpub, Nat.le_trans hle' hturn⟩
  · refine ⟨?_, ?_, ?_, ?_, ?_, ?_⟩
    · rw [hframes]; exact h.fenced.cancelled
    · rw [hframes]; exact h.fenced.generation
    · rw [hframes]; exact h.fenced.single
    · rw [hcleared]; exact h.fenced.late
    · rw [haccepted, hemitted, hpending]
      -- Either the generations are the same, or nothing was accepted under the new ones.
      refine h.fenced.flow.revive fun turn hcurrent => ?_
      obtain ⟨hgeneration, hturnGeneration⟩ := isCurrent_iff.mp hcurrent
      by_cases hsame : s.isCurrent turn = true
      · exact Or.inl hsame
      · refine Or.inr ⟨fun byte hbyte heq => ?_, fun byte hbyte heq => ?_⟩
        · obtain ⟨hle, hle'⟩ := h.accepted byte hbyte
          rw [heq] at hle hle'
          exact hsame (isCurrent_iff.mpr ⟨by omega, by omega⟩)
        · obtain ⟨hle, hle', -, -⟩ := h.known byte hbyte
          rw [heq] at hle hle'
          exact hsame (isCurrent_iff.mpr ⟨by omega, by omega⟩)
    · rw [hdropped]; exact h.fenced.dropped

lemma of_advance (h : s.Invariant) (hpub : s.pubGeneration ≤ s'.pubGeneration)
    (hturn : s.turnGeneration ≤ s'.turnGeneration)
    (hactive : s'.pubGeneration = s.pubGeneration → s'.publishOn = s.publishOn)
    (hmoved : s.pubGeneration < s'.pubGeneration ∨ s.turnGeneration < s'.turnGeneration)
    (hproducers : s'.producers = s.producers) (hqueue : s'.queueRing = s.queueRing)
    (hwriter : s'.writer = s.writer) (hcarry : s'.carry = s.carry)
    (haccepted : s'.accepted = s.accepted) (hframes : s'.frames = s.frames)
    (hcleared : s'.cleared = s.cleared) (hdropped : s'.dropped = s.dropped)
    (hwatermark : s'.cancelledThrough = 0 ∨ s'.cancelledThrough ∈ s'.cancelled)
    (hreturned : ∀ token ∈ s'.returned, token ∈ s'.cancelled)
    (hclearing : ∀ token, some token ∈ s'.clearing → token ∈ s'.cancelled) : s'.Invariant :=
  h.of_known (fun _ _ hold => hold.of_advance hpub hturn hactive hmoved) hpub hturn hactive
    hproducers hqueue hwriter hcarry haccepted hframes hcleared hdropped hwatermark hreturned
    hclearing

lemma of_producers (h : s.Invariant) {producers : List Producer}
    (hproducers : ∀ p ∈ producers, s.ProducerKnown p) :
    Invariant { s with producers := producers } where
  producers := by
    intro p hp
    refine (hproducers p hp).of_known (fun turn _ _ hold => ?_) (Nat.le_refl _) (fun _ => rfl)
    exact hold.congr rfl rfl rfl rfl rfl
  queue := h.queue
  writer := h.writer
  carry := h.carry
  known := fun byte hbyte => (h.known byte hbyte).congr rfl rfl rfl rfl rfl
  accepted := h.accepted
  watermark := h.watermark
  returned := h.returned
  clearing := h.clearing
  fenced := ⟨h.fenced.cancelled, h.fenced.generation, h.fenced.single, h.fenced.late, h.fenced.flow,
    h.fenced.dropped⟩

lemma of_pending (h : s.Invariant) {ring : List QueueItem} {bytes : ℤ} {carry : List PcmByte}
    {writer : WriterPhase} {s' : EngineRun} (hs' : s' = { s with
      queueRing := ring, queueBytes := bytes, carry := carry, writer := writer })
    (hqueue : ∀ item ∈ ring, item.Own) (hwriter : writer.Own) (hcarry : OneTurn carry)
    (hmem : ∀ byte ∈ s'.pending, byte ∈ s.pending)
    (hflow : KeyedFlow PcmByte.turn (fun turn => s.isCurrent turn = true) s.accepted s.emitted
      s'.pending) : s'.Invariant := by
  subst hs'
  refine ⟨fun p hp => ?_, hqueue, hwriter, hcarry, fun byte hbyte => ?_, h.accepted, h.watermark,
    h.returned, h.clearing, ?_⟩
  · refine (h.producers p hp).of_known (fun turn _ _ hold => ?_) (Nat.le_refl _) (fun _ => rfl)
    exact hold.congr rfl rfl rfl rfl rfl
  · exact (h.known byte (hmem byte hbyte)).congr rfl rfl rfl rfl rfl
  · exact ⟨h.fenced.cancelled, h.fenced.generation, h.fenced.single, h.fenced.late, hflow,
      h.fenced.dropped⟩

/-! ### Publication and cancellation -/

section

variable (h : s.Invariant)
include h

lemma of_activatePublish : s.activatePublish.Invariant :=
  h.of_advance (Nat.le_succ _) (Nat.le_refl _) (fun heq => absurd heq (Nat.succ_ne_self _))
    (Or.inl (Nat.lt_succ_self _)) rfl rfl rfl rfl rfl rfl rfl rfl h.watermark h.returned h.clearing

lemma of_deactivatePublish : s.deactivatePublish.Invariant := by
  refine h.of_advance (Nat.le_succ _) (Nat.le_succ _) (fun heq => absurd heq (Nat.succ_ne_self _))
    (Or.inl (Nat.lt_succ_self _)) rfl rfl rfl rfl rfl rfl rfl rfl (Or.inl rfl) h.returned ?_
  intro token htoken
  rcases List.mem_append.mp htoken with hold | hnew
  · exact h.clearing token hold
  · cases List.mem_singleton.mp hnew

lemma watermark_cancelTurn (token : ℕ) :
    (if token ≠ 0 then max token s.cancelledThrough else s.cancelledThrough) = 0 ∨
      (if token ≠ 0 then max token s.cancelledThrough else s.cancelledThrough) ∈
        s.cancelled ++ [token] := by
  have hold : s.cancelledThrough = 0 ∨ s.cancelledThrough ∈ s.cancelled ++ [token] :=
    h.watermark.imp_right fun hmem => List.mem_append.mpr (Or.inl hmem)
  split
  · rw [Nat.max_def]
    split
    · exact hold
    · exact Or.inr (List.mem_append.mpr (Or.inr (List.mem_singleton.mpr rfl)))
  · exact hold

lemma of_cancelTurn (token : ℕ) : (s.cancelTurn token).Invariant := by
  have hcancelled : ∀ other ∈ s.cancelled, other ∈ s.cancelled ++ [token] :=
    fun other hother => List.mem_append.mpr (Or.inl hother)
  have hself : token ∈ s.cancelled ++ [token] :=
    List.mem_append.mpr (Or.inr (List.mem_singleton.mpr rfl))
  have hwatermark := h.watermark_cancelTurn token
  unfold cancelTurn
  dsimp only
  split
  · next hlate =>
    refine h.of_known (fun turn _ hold => hold.of_late hlate.2.2) (Nat.le_refl _) (Nat.le_refl _)
      (fun _ => rfl) rfl rfl rfl rfl rfl rfl rfl rfl hwatermark ?_
      (fun other hother => hcancelled other (h.clearing other hother))
    intro other hother
    rcases List.mem_append.mp hother with hold | hnew
    · exact hcancelled other (h.returned other hold)
    · rw [List.mem_singleton.mp hnew]
      exact hself
  · refine h.of_advance (Nat.le_refl _) (Nat.le_succ _) (fun _ => rfl)
      (Or.inr (Nat.lt_succ_self _)) rfl rfl rfl rfl rfl rfl rfl rfl hwatermark
      (fun other hother => hcancelled other (h.returned other hother)) ?_
    intro other hother
    rcases List.mem_append.mp hother with hold | hnew
    · exact hcancelled other (h.clearing other hold)
    · cases List.mem_singleton.mp hnew
      exact hself

lemma flow_clear (hguard : ∀ byte ∈ s.carry ++ s.queued, s.isCurrent byte.turn ≠ true) :
    KeyedFlow PcmByte.turn (fun turn => s.isCurrent turn = true) s.accepted s.emitted
      (s.writer.taken ++ ([] ++ (s.writer.held ++ []))) := by
  have hcarry := KeyedFlow.drop h.fenced.flow fun byte hbyte =>
    hguard byte (List.mem_append.mpr (Or.inl hbyte))
  have hqueued : KeyedFlow PcmByte.turn (fun turn => s.isCurrent turn = true) s.accepted s.emitted
      ((s.writer.taken ++ s.writer.held) ++ (s.queued ++ [])) := by
    rw [List.append_nil, List.append_assoc]
    exact hcarry
  have hnone := hqueued.drop fun byte hbyte => hguard byte (List.mem_append.mpr (Or.inr hbyte))
  rw [List.append_assoc] at hnone
  exact hnone

lemma of_clear {index : ℕ}
    (hguard : s.fences (.clearQueueAndCarry index) = true) (hstep : s.clear? index = some s') :
    s'.Invariant := by
  have hstale : ∀ byte ∈ s.carry ++ s.queued, s.isCurrent byte.turn ≠ true := by
    intro byte hbyte
    have hnot := List.all_eq_true.mp hguard byte hbyte
    rw [Bool.not_eq_true'] at hnot
    rw [hnot]
    exact Bool.false_ne_true
  unfold clear? at hstep
  cases hget : s.clearing[index]? with
  | none => rw [hget] at hstep; cases hstep
  | some token =>
    rw [hget] at hstep
    cases hstep
    have hmem : ∀ byte ∈ (s.clearQueueAndCarry index token).pending, byte ∈ s.pending := by
      intro byte hbyte
      simp only [pending, queued, clearQueueAndCarry, List.mem_append, List.flatMap_nil,
        List.not_mem_nil, false_or, or_false] at hbyte ⊢
      rcases hbyte with htaken | hheld
      · exact Or.inl htaken
      · exact Or.inr (Or.inr (Or.inl hheld))
    refine ⟨fun p hp => ?_, fun item hitem => absurd hitem List.not_mem_nil, h.writer,
      fun byte hbyte => absurd hbyte List.not_mem_nil, fun byte hbyte => ?_, h.accepted,
      h.watermark, ?_, ?_, ?_⟩
    · refine (h.producers p hp).of_known (fun turn _ _ hold => ?_) (Nat.le_refl _) (fun _ => rfl)
      exact hold.congr rfl rfl rfl rfl rfl
    · exact (h.known byte (hmem byte hbyte)).congr rfl rfl rfl rfl rfl
    · intro other hother
      rcases List.mem_append.mp hother with hold | hnew
      · exact h.returned other hold
      · rw [Option.mem_toList] at hnew
        exact h.clearing other (hnew ▸ List.mem_of_getElem? hget)
    · exact fun other hother => h.clearing other (List.mem_of_mem_eraseIdx hother)
    · refine ⟨h.fenced.cancelled, h.fenced.generation, h.fenced.single, ?_, h.flow_clear hstale,
        h.fenced.dropped⟩
      intro audio haudio other htoken hne hlate byte hbyte heq
      rcases List.mem_append.mp haudio with hold | hnew
      · exact h.fenced.late audio hold other htoken hne hlate byte hbyte heq
      · rw [List.mem_singleton.mp hnew] at hbyte heq
        refine hstale byte hbyte ?_
        rw [heq]
        exact isCurrent_iff.mpr ⟨rfl, rfl⟩

end

/-! ### Callers -/

lemma of_admitTurn (h : s.Invariant) {token : ℕ}
    (hguard : (token ≤ s.highestAdmitted || !s.validateTurn token || !s.turnPending) = true)
    (hstep : s.admitTurn? token = some s') : s'.Invariant := by
  unfold admitTurn? at hstep
  split at hstep
  · cases hstep
    exact h
  · next hne =>
    split at hstep
    · cases hstep
    · next hfresh =>
      split at hstep
      · cases hstep
      · next hle =>
        cases hstep
        by_cases heq : token = s.highestAdmitted
        · subst heq
          exact h
        · have hvalid : s.validateTurn token = true := by
            rw [validateTurn, Bool.or_eq_true, Bool.and_eq_true, decide_eq_true_eq,
              decide_eq_true_eq, decide_eq_true_eq]
            exact Or.inr ⟨by omega, by omega⟩
          rw [hvalid, Bool.not_true, Bool.or_false, Bool.or_eq_true, decide_eq_true_eq,
            Bool.not_eq_true'] at hguard
          have hlt : ¬ token ≤ s.highestAdmitted := by omega
          have hnone : s.turnPending = false := hguard.resolve_left hlt
          refine h.of_known (fun turn hturn hold => hold.of_admitted fun hcurrent => ?_)
            (Nat.le_refl _) (Nat.le_refl _) (fun _ => rfl) rfl rfl rfl rfl rfl rfl rfl rfl
            h.watermark h.returned h.clearing
          have hnot := List.any_eq_false.mp hnone turn hturn
          rw [hcurrent, Bool.true_and] at hnot
          by_contra htoken
          exact hnot (decide_eq_true htoken)

lemma admitTurn?_eq {token : ℕ} (hstep : s.admitTurn? token = some s') :
    s' = { s with highestAdmitted := s'.highestAdmitted } := by
  unfold admitTurn? at hstep
  repeat' split at hstep
  all_goals first
    | cases hstep; rfl
    | cases hstep

lemma producerKnown_admitTurn (hp : s.ProducerKnown p) (hstep : s.admitTurn? p.token = some s') :
    s'.ProducerKnown { p with phase := .admitted } := by
  rw [admitTurn?_eq hstep]
  refine ⟨hp.generation, hp.active, ?_, ?_⟩
  · intro turn hturn
    cases hturn
  · intro turn hphase
    rcases hphase with hphase | hphase <;> cases hphase

lemma own_item (hp : s.ProducerKnown p) (hphase : p.phase.turn? = some turn) :
    ∀ byte ∈ (p.item turn).bytes, byte.turn = turn ∧ s.Known turn := by
  intro byte hbyte
  rw [QueueItem.bytes, Producer.item] at hbyte
  cases hchunk : p.chunk with
  | none =>
    rw [hchunk] at hbyte
    exact absurd hbyte List.not_mem_nil
  | some chunk =>
    rw [hchunk] at hbyte
    obtain ⟨value, -, rfl⟩ := List.mem_map.mp hbyte
    have hsome : p.chunk ≠ none := by
      rw [hchunk]
      exact Option.some_ne_none chunk
    obtain ⟨hgeneration, hknown⟩ := hp.turn turn hphase hsome
    refine ⟨?_, hknown⟩
    show { turn with generation := p.generation } = turn
    rw [← hgeneration]

lemma of_enqueueItem (h : s.Invariant) (hp : s.ProducerKnown p)
    (hphase : p.phase.turn? = some turn) : (s.enqueueItem (p.item turn)).Invariant := by
  have hown := own_item hp hphase
  have hpending : (s.enqueueItem (p.item turn)).pending = s.pending ++ (p.item turn).bytes := by
    simp only [pending, queued, enqueueItem, List.flatMap_append, List.flatMap_singleton,
      List.append_assoc]
  refine ⟨fun q hq => ?_, fun item hitem => ?_, h.writer, h.carry, fun byte hbyte => ?_,
    fun byte hbyte => ?_, h.watermark, h.returned, h.clearing, ?_⟩
  · refine (h.producers q hq).of_known (fun turn _ _ hold => ?_) (Nat.le_refl _) (fun _ => rfl)
    exact hold.congr rfl rfl rfl rfl rfl
  · rcases List.mem_append.mp hitem with hold | hnew
    · exact h.queue item hold
    · rw [List.mem_singleton.mp hnew]
      exact fun byte hbyte => (hown byte hbyte).1
  · rw [hpending] at hbyte
    rcases List.mem_append.mp hbyte with hold | hnew
    · exact (h.known byte hold).congr rfl rfl rfl rfl rfl
    · obtain ⟨heq, hknown⟩ := hown byte hnew
      rw [heq]
      exact hknown.congr rfl rfl rfl rfl rfl
  · rcases List.mem_append.mp hbyte with hold | hnew
    · exact h.accepted byte hold
    · obtain ⟨heq, hknown⟩ := hown byte hnew
      rw [heq]
      exact ⟨hknown.generation, hknown.turnGeneration⟩
  · refine ⟨h.fenced.cancelled, h.fenced.generation, h.fenced.single, h.fenced.late, ?_,
      h.fenced.dropped⟩
    rw [hpending]
    exact h.fenced.flow.accept (p.item turn).bytes

lemma of_drop (h : s.Invariant)
    (hstale : turn.generation ≠ s.pubGeneration ∨ turn.turnGeneration ≠ s.turnGeneration) :
    (s.drop turn).Invariant := by
  refine ⟨fun p hp => ?_, h.queue, h.writer, h.carry, fun byte hbyte => ?_, h.accepted,
    h.watermark, h.returned, h.clearing, ?_⟩
  · refine (h.producers p hp).of_known (fun turn _ _ hold => ?_) (Nat.le_refl _) (fun _ => rfl)
    exact hold.congr rfl rfl rfl rfl rfl
  · exact (h.known byte hbyte).congr rfl rfl rfl rfl rfl
  · refine ⟨h.fenced.cancelled, h.fenced.generation, h.fenced.single, h.fenced.late,
      h.fenced.flow, fun drop hdrop => ?_⟩
    rcases List.mem_append.mp hdrop with hold | hnew
    · exact h.fenced.dropped drop hold
    · rw [List.mem_singleton.mp hnew]
      exact hstale

lemma producerKnown_of_turn {phase : WritePhase} (hp : s.ProducerKnown p)
    (hphase : phase.turn? = p.phase.turn?) (hchunk : p.chunk ≠ none) :
    s.ProducerKnown { p with phase } where
  generation := hp.generation
  active := hp.active
  turn := by
    show ∀ turn, phase.turn? = some turn → _
    rw [hphase]
    exact hp.turn
  waits := fun _ _ => hchunk

lemma producerKnown_snapshot (hp : s.ProducerKnown p)
    (hguard : (p.chunk = none || (p.generation = s.pubGeneration &&
      (p.token = 0 || (p.token = s.highestAdmitted && s.cancelled.all (· < p.token))))) = true) :
    s.ProducerKnown { p with
      phase := .enqueueing
        { generation := s.pubGeneration, turnGeneration := s.turnGeneration, token := p.token } }
    where
  generation := hp.generation
  active := hp.active
  turn := by
    intro turn hturn hchunk
    obtain rfl := Option.some.inj hturn
    rw [Bool.or_eq_true, decide_eq_true_eq, Bool.and_eq_true, decide_eq_true_eq, Bool.or_eq_true,
      decide_eq_true_eq, Bool.and_eq_true, decide_eq_true_eq] at hguard
    obtain ⟨hgeneration, htoken⟩ := hguard.resolve_left hchunk
    refine ⟨hgeneration.symm, Nat.le_refl _, Nat.le_refl _, fun _ => hp.active hgeneration, ?_⟩
    intro _ hne
    obtain ⟨hadmitted, hcancelled⟩ := htoken.resolve_left hne
    refine ⟨hadmitted, fun token hmem => ?_⟩
    exact of_decide_eq_true (List.all_eq_true.mp hcancelled token hmem)
  waits := by
    intro turn hphase
    rcases hphase with hphase | hphase <;> cases hphase

lemma of_produce (h : s.Invariant) (hp : s.ProducerKnown p)
    (hguard : s.producerFences p = true) : (s.produce p).1.Invariant := by
  unfold produce
  unfold producerFences at hguard
  cases hphase : p.phase with
  | admitting =>
    rw [hphase] at hguard
    dsimp only
    cases hadmitted : s.admitTurn? p.token with
    | none => exact h
    | some admitted => exact h.of_admitTurn hguard hadmitted
  | admitted => exact h
  | enqueueing turn =>
    dsimp only
    split
    · exact h.of_enqueueItem hp (by rw [hphase]; rfl)
    · exact h
  | waiting turn =>
    dsimp only
    split
    · exact h
    · next hne => exact h.of_drop (Or.inr hne)
  | rechecking turn =>
    dsimp only
    split
    · exact h
    · next hne =>
      -- A turn of the current generations would be the one that is admitted.
      obtain ⟨htoken, hadmitted⟩ := not_or.mp hne
      have hknown := (hp.turn turn (by rw [hphase]; rfl) (hp.waits turn (Or.inr hphase))).2
      refine h.of_drop ?_
      by_contra hboth
      obtain ⟨hgeneration, hturn⟩ := not_or.mp hboth
      have hcurrent := isCurrent_iff.mpr ⟨not_not.mp hgeneration, not_not.mp hturn⟩
      exact hadmitted (hknown.admitted hcurrent htoken).1

lemma producerKnown_produce (hp : s.ProducerKnown p) (hguard : s.producerFences p = true)
    {phase : WritePhase} (hnext : (s.produce p).2 = some phase) :
    (s.produce p).1.ProducerKnown { p with phase } := by
  unfold produce at hnext ⊢
  unfold producerFences at hguard
  cases hphase : p.phase with
  | admitting =>
    rw [hphase] at hnext
    dsimp only at hnext ⊢
    cases hadmitted : s.admitTurn? p.token with
    | none => rw [hadmitted] at hnext; cases hnext
    | some admitted =>
      rw [hadmitted] at hnext
      cases hnext
      exact producerKnown_admitTurn hp hadmitted
  | admitted =>
    rw [hphase] at hnext hguard
    cases hnext
    exact producerKnown_snapshot hp hguard
  | enqueueing turn =>
    rw [hphase] at hnext
    dsimp only at hnext ⊢
    split at hnext
    · cases hnext
    · next hfull =>
      rw [if_neg hfull]
      cases hnext
      refine producerKnown_of_turn hp (by rw [hphase]; rfl) fun hchunk => hfull ?_
      rw [hasSpace, Producer.item, hchunk]
      rfl
  | waiting turn =>
    rw [hphase] at hnext
    dsimp only at hnext ⊢
    split at hnext
    · next hsame =>
      rw [if_pos hsame]
      cases hnext
      exact producerKnown_of_turn hp (by rw [hphase]; rfl) (hp.waits turn (Or.inl hphase))
    · cases hnext
  | rechecking turn =>
    rw [hphase] at hnext
    dsimp only at hnext ⊢
    split at hnext
    · next hsame =>
      rw [if_pos hsame]
      cases hnext
      exact producerKnown_of_turn hp (by rw [hphase]; rfl) (hp.waits turn (Or.inr hphase))
    · cases hnext

lemma producers_produce (s : EngineRun) (p : Producer) :
    (s.produce p).1.producers = s.producers := by
  unfold produce
  cases p.phase with
  | admitting =>
    dsimp only
    cases hadmitted : s.admitTurn? p.token with
    | none => rfl
    | some admitted =>
      rw [admitTurn?_eq hadmitted]
  | admitted => rfl
  | enqueueing turn | waiting turn | rechecking turn => dsimp only; split <;> rfl

lemma of_produce? (h : s.Invariant) {index : ℕ} (hguard : s.fences (.produce index) = true)
    (hstep : s.produce? index = some s') : s'.Invariant := by
  unfold produce? at hstep
  cases hget : s.producers[index]? with
  | none => rw [hget] at hstep; cases hstep
  | some p =>
    rw [fences, hget] at hguard
    have hfences : s.producerFences p = true := hguard
    rw [hget] at hstep
    cases hstep
    have hp := h.producers p (List.mem_of_getElem? hget)
    have hnext := h.of_produce hp hfences
    refine hnext.of_producers fun q hq => ?_
    rcases List.mem_updateIdx hq with hold | hnew
    · refine hnext.producers q ?_
      rw [producers_produce]
      exact hold
    · obtain ⟨phase, hphase, rfl⟩ := Option.map_eq_some_iff.mp hnew
      exact producerKnown_produce hp hfences hphase

lemma of_writePCM (h : s.Invariant) (chunk : List UInt8) (token : ℕ) :
    (s.writePCM chunk token).Invariant := by
  unfold writePCM
  split
  · exact h
  · next hnot =>
    refine h.of_producers fun p hp => ?_
    rcases List.mem_append.mp hp with hold | hnew
    · exact h.producers p hold
    · rw [List.mem_singleton.mp hnew]
      refine ⟨Nat.le_refl _, fun _ => ?_, (fun turn hturn => by cases hturn), ?_⟩
      · exact eq_true_of_ne_false (not_or.mp hnot).1
      · intro turn hphase
        rcases hphase with hphase | hphase <;> cases hphase

lemma of_flushAudio (h : s.Invariant) (token : ℕ) : (s.flushAudio token).Invariant := by
  unfold flushAudio
  split
  · exact h
  · next hnot =>
    refine h.of_producers fun p hp => ?_
    rcases List.mem_append.mp hp with hold | hnew
    · exact h.producers p hold
    · rw [List.mem_singleton.mp hnew]
      refine ⟨Nat.le_refl _, fun _ => ?_, (fun turn hturn => by cases hturn), ?_⟩
      · exact eq_true_of_ne_false hnot
      · intro turn hphase
        rcases hphase with hphase | hphase <;> cases hphase

/-! ### The writer -/

variable {item : QueueItem} {checks : List EngineCheck} {work : WriterWork} {byte : PcmByte}

lemma agrees_of_own (hown : (WriterPhase.working item checks work).Own)
    (hbyte : byte ∈ (WriterPhase.working item checks work).taken ∨
      byte ∈ (WriterPhase.working item checks work).held) :
    byte.turn.generation = item.turn.generation ∧
      byte.turn.turnGeneration = item.turn.turnGeneration ∧
      (item.turn.token = 0 ∨ byte.turn.token = item.turn.token) := by
  obtain ⟨hitem, hwork⟩ := hown
  cases work with
  | take =>
    have hmem := hbyte.resolve_left List.not_mem_nil
    rw [hitem byte hmem]
    exact ⟨rfl, rfl, Or.inr rfl⟩
  | frames rest =>
    have hmem := hbyte.resolve_right List.not_mem_nil
    rw [hwork byte hmem]
    exact ⟨rfl, rfl, Or.inr rfl⟩
  | tail bytes =>
    have hmem := hbyte.resolve_right List.not_mem_nil
    exact hwork.2 byte hmem

section

variable (h : s.Invariant)
include h

lemma not_current_of_not_passes (hknown : s.Known byte.turn)
    (hagrees : byte.turn.generation = item.turn.generation ∧
      byte.turn.turnGeneration = item.turn.turnGeneration ∧
      (item.turn.token = 0 ∨ byte.turn.token = item.turn.token))
    {check : EngineCheck} (hfail : ¬ s.passes item.turn check = true) :
    ¬ s.isCurrent byte.turn = true := by
  intro hcurrent
  obtain ⟨hgeneration, hturn⟩ := isCurrent_iff.mp hcurrent
  obtain ⟨hgeneration', hturn', htoken⟩ := hagrees
  cases check with
  | active => exact hfail (hknown.active hgeneration)
  | generation => exact hfail (decide_eq_true (hgeneration'.symm.trans hgeneration))
  | turn => exact hfail (decide_eq_true (hturn'.symm.trans hturn))
  | admitted =>
    rw [passes, Bool.or_eq_true, decide_eq_true_eq, decide_eq_true_eq, not_or] at hfail
    have hsame := htoken.resolve_left hfail.1
    obtain ⟨hadmitted, -⟩ := hknown.admitted hcurrent (by rw [hsame]; exact hfail.1)
    exact hfail.2 (hsame.symm.trans hadmitted)
  | valid =>
    rw [passes, validateTurn, Bool.or_eq_true, Bool.and_eq_true, decide_eq_true_eq,
      decide_eq_true_eq, decide_eq_true_eq, not_or] at hfail
    have hsame := htoken.resolve_left hfail.1
    obtain ⟨hadmitted, hcancelled⟩ := hknown.admitted hcurrent (by rw [hsame]; exact hfail.1)
    rw [hsame] at hadmitted hcancelled
    -- The watermark is a cancelled turn, and so lies below the token.
    refine hfail.2 ⟨?_, by omega⟩
    rcases h.watermark with hzero | hmem
    · omega
    · exact hcancelled _ hmem

lemma known_writer (hbyte : byte ∈ s.writer.taken ∨ byte ∈ s.writer.held) : s.Known byte.turn := by
  refine h.known byte ?_
  rw [pending, List.mem_append, List.mem_append, List.mem_append]
  exact hbyte.imp_right fun hheld => Or.inr (Or.inl hheld)

lemma of_discard (hstale : ∀ byte, byte ∈ s.writer.taken ∨ byte ∈ s.writer.held →
      ¬ s.isCurrent byte.turn = true) : Invariant { s with writer := .idle } := by
  have hpending : EngineRun.pending { s with writer := .idle } = s.carry ++ s.queued := rfl
  refine h.of_pending rfl h.queue trivial h.carry (fun byte hbyte => ?_) ?_
  · rw [hpending, List.mem_append] at hbyte
    rw [pending, List.mem_append, List.mem_append, List.mem_append]
    rcases hbyte with hcarry | hqueued
    · exact Or.inr (Or.inl hcarry)
    · exact Or.inr (Or.inr (Or.inr hqueued))
  · rw [hpending]
    have htaken : KeyedFlow PcmByte.turn (fun turn => s.isCurrent turn = true) s.accepted
        s.emitted ([] ++ (s.writer.taken ++ (s.carry ++ (s.writer.held ++ s.queued)))) :=
      h.fenced.flow
    have hheld := htaken.drop fun byte hbyte => hstale byte (Or.inl hbyte)
    rw [List.nil_append] at hheld
    exact hheld.drop fun byte hbyte => hstale byte (Or.inr hbyte)

lemma of_check {check : EngineCheck} (hwriter : s.writer = .working item (check :: checks) work) :
    Invariant (if s.passes item.turn check then { s with writer := .working item checks work }
      else { s with writer := .idle }) := by
  have hown := h.writer
  rw [hwriter] at hown
  split
  · have hpending : EngineRun.pending { s with writer := .working item checks work } =
        s.pending := by
      rw [pending, pending, hwriter]
      cases work <;> rfl
    refine h.of_pending rfl h.queue hown h.carry (fun byte hbyte => ?_) ?_
    · rw [hpending] at hbyte
      exact hbyte
    · rw [hpending]
      exact h.fenced.flow
  · next hfail =>
    refine h.of_discard fun byte hbyte => ?_
    have hknown := h.known_writer hbyte
    rw [hwriter] at hbyte
    exact h.not_current_of_not_passes hknown (agrees_of_own hown hbyte) hfail

lemma of_popItem (hwriter : s.writer = .idle) (hstep : s.popItem? = some s') : s'.Invariant := by
  unfold popItem? at hstep
  cases hring : s.queueRing with
  | nil => rw [hring] at hstep; cases hstep
  | cons item rest =>
    rw [hring] at hstep
    cases hstep
    have hqueue := h.queue
    rw [hring] at hqueue
    have hpending : s.pending = s.carry ++ (item.bytes ++ rest.flatMap QueueItem.bytes) := by
      rw [pending, queued, hwriter, hring, List.flatMap_cons]
      rfl
    refine h.of_pending rfl (fun other hother => hqueue other (List.mem_cons_of_mem _ hother))
      ⟨hqueue item List.mem_cons_self, trivial⟩ h.carry (fun byte hbyte => ?_) ?_
    · rw [hpending]
      exact hbyte
    · have hflow := h.fenced.flow
      rw [hpending] at hflow
      exact hflow

end

/-- The writer as it goes on with the frames that are left. -/
def framing (item : QueueItem) (rest : List PcmByte) : WriterPhase :=
  if rest = [] then .idle else .working item (WriterWork.frames rest).checks (.frames rest)

lemma writeFrames_eq (s : EngineRun) (item : QueueItem) (rest : List PcmByte) :
    s.writeFrames item rest = { s with writer := framing item rest } := by
  unfold writeFrames framing
  split <;> rfl

lemma taken_framing (item : QueueItem) (rest : List PcmByte) :
    (framing item rest).taken = rest := by
  unfold framing
  split
  · next hnil => exact hnil.symm
  · rfl

lemma held_framing (item : QueueItem) (rest : List PcmByte) : (framing item rest).held = [] := by
  unfold framing
  split <;> rfl

lemma own_framing {rest : List PcmByte} (hitem : item.Own)
    (hrest : ∀ byte ∈ rest, byte.turn = item.turn) : (framing item rest).Own := by
  unfold framing
  split
  · exact trivial
  · exact ⟨hitem, hrest⟩

lemma oneTurn_of_eq {bytes : List PcmByte} (h : ∀ byte ∈ bytes, byte.turn = turn) : OneTurn bytes :=
  fun byte hbyte byte' hbyte' => (h byte hbyte).trans (h byte' hbyte').symm

lemma of_takeChunk (h : s.Invariant)
    {chunk : List PcmByte} (hwriter : s.writer = .working item checks .take)
    (hdata : item.data = some chunk) (hguard : s.carry.all (carriesOver item) = true) :
    (s.take item).Invariant := by
  have hitem : item.Own := by
    have hown := h.writer
    rw [hwriter] at hown
    exact hown.1
  have hbytes : item.bytes = chunk := by rw [QueueItem.bytes, hdata]; rfl
  have hturn : ∀ byte ∈ s.carry ++ chunk, byte.turn = item.turn := by
    intro byte hbyte
    rcases List.mem_append.mp hbyte with hcarry | hchunk
    · have hover := List.all_eq_true.mp hguard byte hcarry
      rw [carriesOver, if_neg (by rw [hdata]; exact Option.some_ne_none chunk)] at hover
      exact of_decide_eq_true hover
    · exact hitem byte (by rw [hbytes]; exact hchunk)
  have hpending : s.pending = (s.carry ++ chunk) ++ s.queued := by
    rw [pending, hwriter]
    show [] ++ (s.carry ++ (item.bytes ++ s.queued)) = _
    rw [hbytes, List.nil_append, List.append_assoc]
  rw [take, hdata]
  dsimp only
  rw [writeFrames_eq]
  have hpending' : EngineRun.pending { s with
      carry := (s.carry ++ chunk).drop (wholeFrames (s.carry ++ chunk))
      writer := framing item ((s.carry ++ chunk).take (wholeFrames (s.carry ++ chunk))) } =
        s.pending := by
    rw [pending, taken_framing, held_framing, hpending, List.nil_append, ← List.append_assoc,
      List.take_append_drop]
    rfl
  refine h.of_pending rfl h.queue
    (own_framing hitem fun byte hbyte => hturn byte (List.mem_of_mem_take hbyte))
    (oneTurn_of_eq fun byte hbyte => hturn byte (List.mem_of_mem_drop hbyte)) ?_ ?_
  · intro byte hbyte
    rw [hpending'] at hbyte
    exact hbyte
  · rw [hpending']
    exact h.fenced.flow

lemma of_takeMarker (h : s.Invariant)
    (hwriter : s.writer = .working item checks .take) (hdata : item.data = none)
    (hguard : s.carry.all (carriesOver item) = true) : (s.take item).Invariant := by
  have hitem : item.Own := by
    have hown := h.writer
    rw [hwriter] at hown
    exact hown.1
  have hbytes : item.bytes = [] := by rw [QueueItem.bytes, hdata]; rfl
  rw [take, hdata]
  dsimp only
  split
  · refine h.of_discard fun byte hbyte => ?_
    rw [hwriter] at hbyte
    have hheld : byte ∈ item.bytes := hbyte.resolve_left List.not_mem_nil
    rw [hbytes] at hheld
    exact absurd hheld List.not_mem_nil
  · have hpending : EngineRun.pending { s with
        carry := [], writer := .working item (WriterWork.tail s.carry).checks (.tail s.carry) } =
          s.pending := by
      rw [pending, pending, hwriter]
      show s.carry ++ ([] ++ ([] ++ s.queued)) = [] ++ (s.carry ++ (item.bytes ++ s.queued))
      rw [hbytes]
      rfl
    show Invariant { s with
      carry := [], writer := .working item (WriterWork.tail s.carry).checks (.tail s.carry) }
    refine h.of_pending rfl h.queue ⟨hitem, h.carry, fun byte hbyte => ?_⟩
      (fun byte hbyte => absurd hbyte List.not_mem_nil) ?_ ?_
    · have hover := List.all_eq_true.mp hguard byte hbyte
      rw [carriesOver, if_pos hdata, Bool.and_eq_true, Bool.and_eq_true, Bool.or_eq_true,
        decide_eq_true_eq, decide_eq_true_eq, decide_eq_true_eq, decide_eq_true_eq] at hover
      exact ⟨hover.1.1, hover.1.2, hover.2⟩
    · intro byte hbyte
      rw [hpending] at hbyte
      exact hbyte
    · rw [hpending]
      exact h.fenced.flow

lemma of_emit (h : s.Invariant) {bytes : List PcmByte} {writer : WriterPhase}
    (hpending : s.pending = bytes ++ EngineRun.pending { s with writer := writer })
    (hone : OneTurn bytes) (hcurrent : ∀ byte ∈ bytes, s.isCurrent byte.turn = true)
    (hwriter : writer.Own) : Invariant { s.emitFrame bytes with writer := writer } := by
  have hmem : ∀ byte ∈ EngineRun.pending { s with writer := writer }, byte ∈ s.pending := by
    intro byte hbyte
    rw [hpending]
    exact List.mem_append.mpr (Or.inr hbyte)
  refine ⟨fun p hp => ?_, h.queue, hwriter, h.carry, fun byte hbyte => ?_, h.accepted,
    h.watermark, h.returned, h.clearing, ?_⟩
  · refine (h.producers p hp).of_known (fun turn _ _ hold => ?_) (Nat.le_refl _) (fun _ => rfl)
    exact hold.congr rfl rfl rfl rfl rfl
  · exact (h.known byte (hmem byte hbyte)).congr rfl rfl rfl rfl rfl
  · refine ⟨?_, ?_, ?_, h.fenced.late, ?_, h.fenced.dropped⟩
    · intro frame hframe byte hbyte htoken token hcancelled
      rcases List.mem_append.mp hframe with hold | hnew
      · exact h.fenced.cancelled frame hold byte hbyte htoken token hcancelled
      · rw [List.mem_singleton.mp hnew] at hbyte hcancelled
        have hknown := h.known byte (by rw [hpending]; exact List.mem_append.mpr (Or.inl hbyte))
        exact (hknown.admitted (hcurrent byte hbyte) htoken).2 token (h.returned token hcancelled)
    · intro frame hframe byte hbyte
      rcases List.mem_append.mp hframe with hold | hnew
      · exact h.fenced.generation frame hold byte hbyte
      · rw [List.mem_singleton.mp hnew] at hbyte ⊢
        exact (isCurrent_iff.mp (hcurrent byte hbyte)).1
    · intro frame hframe
      rcases List.mem_append.mp hframe with hold | hnew
      · exact h.fenced.single frame hold
      · rw [List.mem_singleton.mp hnew]
        exact hone
    · have hflow := h.fenced.flow
      rw [hpending] at hflow
      have hemitted : EngineRun.emitted { s.emitFrame bytes with writer := writer } =
          s.emitted ++ bytes := by
        rw [emitted, emitFrame, List.flatMap_append, List.flatMap_singleton]
        rfl
      rw [hemitted]
      exact hflow.leave hcurrent

lemma current_of_passes
    {checks' : List EngineCheck} (hgeneration : .generation ∈ checks') (hturn : .turn ∈ checks')
    (hown : (WriterPhase.working item checks work).Own)
    (hpasses : checks'.all (s.passes item.turn) = true)
    (hbyte : byte ∈ (WriterPhase.working item checks work).taken) :
    s.isCurrent byte.turn = true := by
  obtain ⟨hgen, hturnGen, -⟩ := agrees_of_own hown (Or.inl hbyte)
  have hgen' := of_decide_eq_true (List.all_eq_true.mp hpasses _ hgeneration)
  have hturnGen' := of_decide_eq_true (List.all_eq_true.mp hpasses _ hturn)
  exact isCurrent_iff.mpr ⟨hgen.trans hgen', hturnGen.trans hturnGen'⟩

lemma of_work (h : s.Invariant) {emits : Bool} (hwriter : s.writer = .working item [] work)
    (hguard : s.writerFences emits (.working item [] work) = true) :
    (s.work item emits work).Invariant := by
  have hown := h.writer
  rw [hwriter] at hown
  cases work with
  | take =>
    show (s.take item).Invariant
    cases hdata : item.data with
    | none => exact h.of_takeMarker hwriter hdata hguard
    | some chunk => exact h.of_takeChunk hwriter hdata hguard
  | frames rest =>
    rw [writerFences, Bool.and_eq_true] at hguard
    obtain ⟨hemits, hpasses⟩ := hguard
    have hcurrent : ∀ byte ∈ rest, s.isCurrent byte.turn = true := fun byte hbyte =>
      current_of_passes (.tail _ (.head _)) (.tail _ (.tail _ (.head _))) hown hpasses hbyte
    rw [work, if_pos hemits, writeFrames_eq]
    refine h.of_emit ?_ (oneTurn_of_eq fun byte hbyte => hown.2 byte (List.mem_of_mem_take hbyte))
      (fun byte hbyte => hcurrent byte (List.mem_of_mem_take hbyte))
      (own_framing hown.1 fun byte hbyte => hown.2 byte (List.mem_of_mem_drop hbyte))
    rw [pending, pending, taken_framing, held_framing, hwriter]
    show rest ++ (s.carry ++ ([] ++ s.queued)) = rest.take frame24kBytes ++
      (rest.drop frame24kBytes ++ (s.carry ++ ([] ++ s.queued)))
    rw [← List.append_assoc (rest.take frame24kBytes), List.take_append_drop]
  | tail bytes =>
    rw [writerFences, Bool.and_eq_true] at hguard
    obtain ⟨hemits, hpasses⟩ := hguard
    rw [work, if_pos hemits]
    refine h.of_emit ?_ hown.2.1 (fun byte hbyte => ?_) trivial
    · rw [pending, hwriter]
      rfl
    · exact current_of_passes (.tail _ (.head _)) (.tail _ (.tail _ (.head _))) hown hpasses hbyte

lemma of_write (h : s.Invariant) {emits : Bool} (hguard : s.fences (.write emits) = true)
    (hstep : s.write? emits = some s') : s'.Invariant := by
  have hfences : s.writerFences emits s.writer = true := hguard
  unfold write? at hstep
  cases hwriter : s.writer with
  | idle =>
    rw [hwriter] at hstep
    exact h.of_popItem hwriter hstep
  | working item checks work =>
    rw [hwriter] at hstep hfences
    cases checks with
    | nil =>
      cases hstep
      exact h.of_work hwriter hfences
    | cons check checks =>
      cases hstep
      exact h.of_check hwriter

/-! ### Steps -/

lemma of_next (h : s.Invariant) {label : EngineStep} (hguard : s.fences label = true)
    (hstep : s.next? label = some s') : s'.Invariant := by
  cases label with
  | activatePublish => cases hstep; exact h.of_activatePublish
  | deactivatePublish => cases hstep; exact h.of_deactivatePublish
  | writePCM chunk token => cases hstep; exact h.of_writePCM chunk token
  | flushAudio token => cases hstep; exact h.of_flushAudio token
  | produce index => exact h.of_produce? hguard hstep
  | cancelTurn token => cases hstep; exact h.of_cancelTurn token
  | clearQueueAndCarry index => exact h.of_clear hguard hstep
  | write emits => exact h.of_write hguard hstep

lemma init : Invariant {} where
  producers := fun _ h => absurd h List.not_mem_nil
  queue := fun _ h => absurd h List.not_mem_nil
  writer := trivial
  carry := fun _ h => absurd h List.not_mem_nil
  known := fun _ h => absurd h List.not_mem_nil
  accepted := fun _ h => absurd h List.not_mem_nil
  watermark := Or.inl rfl
  returned := fun _ h => absurd h List.not_mem_nil
  clearing := fun _ h => absurd h List.not_mem_nil
  fenced := by
    refine ⟨?_, ?_, ?_, ?_, KeyedFlow.init _ _, ?_⟩
    all_goals exact fun _ h => absurd h List.not_mem_nil

end Invariant

end EngineRun

/-! ## Runs -/

/-- In every run in which no two critical sections that belong together are torn apart, cancelled
audio is not emitted, and nothing else is lost. -/
theorem emitsFenced_of_fences {s : EngineRun}
    (h : engineSystem.ReachableWhen (fun s label => s.fences label = true) s) :
    s.EmitsFenced := by
  refine EngineRun.Invariant.fenced (h.invariant ?_ ?_)
  · rintro _ rfl
    exact EngineRun.Invariant.init
  · exact fun _ _ _ hinvariant hguard hstep => hinvariant.of_next hguard hstep

/-- One frame of PCM. -/
def frameOfPCM : List UInt8 := List.replicate frame24kBytes 0

/-- The labels under which the writer emits the frame of the first queued chunk. -/
def writeOneFrame : List EngineStep := List.replicate 10 (.write true)

/-- A frame is emitted, and after the next turn was cancelled nothing of it is. -/
theorem emitsFenced_cancelled : ∃ s,
    TransitionSystem.runWhen? EngineRun.next? EngineRun.fences {}
      ([.activatePublish, .writePCM frameOfPCM 1, .produce 0, .produce 0, .produce 0] ++
        writeOneFrame ++ [.writePCM frameOfPCM 2, .produce 0, .produce 0, .produce 0,
          .cancelTurn 2, .write true, .write true, .write true, .clearQueueAndCarry 0]) = some s ∧
      s.frames.length = 1 ∧ s.EmitsFenced := by
  have hrun : (TransitionSystem.runWhen? EngineRun.next? EngineRun.fences {}
      ([.activatePublish, .writePCM frameOfPCM 1, .produce 0, .produce 0, .produce 0] ++
        writeOneFrame ++ [.writePCM frameOfPCM 2, .produce 0, .produce 0, .produce 0,
          .cancelTurn 2, .write true, .write true, .write true, .clearQueueAndCarry 0])).any
      (fun s => decide (s.frames.length = 1)) = true := by
    decide +kernel
  obtain ⟨s, hs, hframes⟩ := (Option.any_eq_true _ _).mp hrun
  refine ⟨s, hs, of_decide_eq_true hframes, emitsFenced_of_fences ?_⟩
  exact TransitionSystem.reachableWhen_of_runWhen (fun _ _ _ h => h) rfl hs

/-- The labels of a run in which a turn is cancelled between the admission of its PCM and the look
at the generations. -/
def cancelledBeforeSnapshot : List EngineStep :=
  [.activatePublish, .writePCM frameOfPCM 1, .produce 0, .cancelTurn 1, .clearQueueAndCarry 0,
    .produce 0, .produce 0] ++ writeOneFrame

/-- Cancelled audio is emitted in some run. The PCM of a turn that is cancelled after its admission
is written under the generations that follow. -/
theorem not_emitsFenced_snapshot : ¬ ∀ s, engineSystem.Reachable s → s.EmitsFenced := by
  intro hall
  have hrun : (TransitionSystem.runWhen? EngineRun.next? (fun _ _ => true) {}
      cancelledBeforeSnapshot).any (fun s => s.frames.any fun frame =>
        decide (1 ∈ frame.cancelled) && frame.bytes.any fun byte =>
          decide (byte.turn.token = 1)) = true := by
    decide +kernel
  obtain ⟨s, hs, hframes⟩ := (Option.any_eq_true _ _).mp hrun
  obtain ⟨frame, hframe, hboth⟩ := List.any_eq_true.mp hframes
  rw [Bool.and_eq_true, decide_eq_true_eq] at hboth
  obtain ⟨hcancelled, hbytes⟩ := hboth
  obtain ⟨byte, hbyte, htoken⟩ := List.any_eq_true.mp hbytes
  have heq := of_decide_eq_true htoken
  have hfenced := hall s (TransitionSystem.reachable_of_runWhen (fun _ _ _ h => h) rfl hs)
  have hlt := hfenced.cancelled frame hframe byte hbyte (by omega) 1 hcancelled
  omega

/-- The labels of a run in which a turn is cancelled, and the next one has enqueued its PCM before
the queue is cleared. -/
def clearedLate : List EngineStep :=
  [.activatePublish, .writePCM frameOfPCM 1, .produce 0, .produce 0, .produce 0, .cancelTurn 1,
    .writePCM frameOfPCM 2, .produce 0, .produce 0, .produce 0, .clearQueueAndCarry 0]

lemma not_emitsFenced_late : ∃ s, engineSystem.Reachable s ∧ ∃ audio ∈ s.cleared,
    audio.token = some 1 ∧ audio.admitted.token = 2 ∧
      ∃ byte ∈ audio.bytes, byte.turn = audio.admitted := by
  have hrun : (TransitionSystem.runWhen? EngineRun.next? (fun _ _ => true) {}
      clearedLate).any (fun s => s.cleared.any fun audio =>
        decide (audio.token = some 1 ∧ audio.admitted.token = 2) &&
          audio.bytes.any fun byte => decide (byte.turn = audio.admitted)) = true := by
    decide +kernel
  obtain ⟨s, hs, hcleared⟩ := (Option.any_eq_true _ _).mp hrun
  obtain ⟨audio, haudio, hboth⟩ := List.any_eq_true.mp hcleared
  rw [Bool.and_eq_true, decide_eq_true_eq] at hboth
  obtain ⟨⟨htoken, hadmitted⟩, hbytes⟩ := hboth
  obtain ⟨byte, hbyte, hturn⟩ := List.any_eq_true.mp hbytes
  exact ⟨s, TransitionSystem.reachable_of_runWhen (fun _ _ _ h => h) rfl hs, audio, haudio, htoken,
    hadmitted, byte, hbyte, of_decide_eq_true hturn⟩

end Free4Chat
