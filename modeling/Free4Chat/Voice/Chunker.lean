import Free4Chat.Runtime.Ledger
import Mathlib.Data.List.DropRight

/-!
# Chunks of Spoken Text

A response is spoken in chunks. Text is pushed piece by piece as it arrives, and a chunk ends with a
line or a sentence, or where the text gets too long. Whether a sentence ends may depend on text that
has not arrived yet. A point in the middle of a word, such as in a name, ends no sentence.

* `Chunker`: the text that waits, and how long a chunk may get.
* `Chunker.scan`, `Chunker.nextCut` and `Chunker.extract`: where the text is cut.
* `Chunker.push` and `Chunker.flush`: a piece of text arrives, or all of it has arrived.
* `Chunker.SentenceEnd` and `Chunker.CutOk`: where the text may be cut.
* `chunks_of_pieces`: nothing is lost or invented, and every cut is where it may be.
-/

namespace Free4Chat

/-- How long a chunk may get if nothing else is said. -/
def defaultMaxChunkChars : ℕ := 240

namespace Chunker

/-! ## Characters -/

/-- The ends of sentences. -/
def sentenceEnders : List Char := ['.', '!', '?', '…', '。', '！', '？', '；', ';']

/-- What may close a sentence behind its end. -/
def closers : List Char :=
  ['"', '\'', ')', ']', '}', '」', '』', '》', '»', '”', '’', '…']

/-- The breaks between clauses. -/
def clauseBreaks : List Char := [',', '，', '、', ':', '：']

/-- The ends of sentences behind which no space is needed. -/
def unconditionalEnders : List Char := ['。', '！', '？', '；', '…']

/-- A digit. -/
def isDigit (ch : Char) : Bool := '0'.toNat ≤ ch.toNat && ch.toNat ≤ '9'.toNat

/-- White space between chunks. -/
def isBlank (ch : Char) : Bool := ch = ' ' || ch = '\t' || ch = '\n' || ch = '\r'

/-- A character of the run that ends a sentence. -/
def inRun (ch : Char) : Bool := ch ∈ closers || ch ∈ sentenceEnders

/-! ## Cuts -/

/-- Look for the end of a line or of a sentence, from a character on that stands behind another one
or begins the chunk. The result is where the chunk ends, and where the next one begins. -/
def scan (final : Bool) : Option Char → List Char → ℕ → Option (ℕ × ℕ)
  | _, [], _ => none
  | previous, ch :: rest, index =>
    if ch = '\n' then some (index, index + 1)
    else if ch = '.' && previous.any isDigit && rest.head?.any isDigit then
      scan final (some ch) rest (index + 1)
    else if ch ∉ sentenceEnders then scan final (some ch) rest (index + 1)
    else
      let stop := index + 1 + (rest.takeWhile inRun).length
      match rest.dropWhile inRun with
      | next :: _ =>
        if ch ∈ unconditionalEnders || next = ' ' || next = '\t' then some (stop, stop)
        else scan final (some ch) rest (index + 1)
      | [] => if final then some (stop, stop) else scan final (some ch) rest (index + 1)

/-- The place of the last break between clauses. -/
def lastClauseBreak : List Char → Option ℕ
  | [] => none
  | ch :: rest =>
    match lastClauseBreak rest with
    | some index => some (index + 1)
    | none => if ch ∈ clauseBreaks then some 0 else none

/-- Where a text that is too long is cut. -/
def overlongCut (maxChars : ℕ) (text : List Char) : ℕ :=
  match lastClauseBreak (text.take maxChars) with
  | some index => index + 1
  | none => maxChars

/-- Where the next chunk ends, and where the one behind it begins. -/
def nextCut (final : Bool) (maxChars : ℕ) (text : List Char) : Option (ℕ × ℕ) :=
  match scan final none text 0 with
  | some cut => some cut
  | none =>
    if maxChars < text.length then some (overlongCut maxChars text, overlongCut maxChars text)
    else none

/-- A cut: the text that waited, from the beginning of the chunk on, and how much of it was
taken. -/
structure Cut where
  text : List Char
  length : ℕ
deriving DecidableEq

/-- The chunk before a cut. -/
def Cut.chunk (cut : Cut) : String := trimSpace (String.ofList (cut.text.take cut.length))

/-! ## Where the text may be cut -/

/-- A maximal run of ends of sentences and what closes them, behind an end of a sentence that is no
decimal point. -/
structure RunEnd (text before : List Char) (ch : Char) (run after : List Char) : Prop where
  split : text = before ++ ch :: (run ++ after)
  ender : ch ∈ sentenceEnders
  members : ∀ c ∈ run, inRun c = true
  maximal : ∀ next ∈ after.head?, inRun next = false
  noPoint : ¬(ch = '.' ∧ before.getLast?.any isDigit = true ∧
    (run ++ after).head?.any isDigit = true)

/-- The end of a sentence: a run that a space or a tab follows, that an unconditional end begins, or
that ends the whole text. -/
def SentenceEnd (final : Bool) (text : List Char) (stop : ℕ) : Prop :=
  ∃ before ch run after, RunEnd text before ch run after ∧ stop = before.length + 1 + run.length ∧
    match after.head? with
    | some next => ch ∈ unconditionalEnders ∨ next = ' ' ∨ next = '\t'
    | none => final = true

/-- No line and no sentence ends in a text. -/
def NoEnd (final : Bool) (text : List Char) : Prop :=
  '\n' ∉ text ∧ ∀ stop, ¬SentenceEnd final text stop

/-- A text that is too long is cut behind the last break between clauses, or where it gets too
long. -/
def ClauseCut (maxChars : ℕ) (text : List Char) (stop : ℕ) : Prop :=
  (∃ before ch after, text.take maxChars = before ++ ch :: after ∧ ch ∈ clauseBreaks ∧
    (∀ c ∈ after, c ∉ clauseBreaks) ∧ stop = before.length + 1) ∨
  (∀ c ∈ text.take maxChars, c ∉ clauseBreaks) ∧ stop = maxChars

/-- Where a text may be cut: at the end of a line, at the end of a sentence, or, if it is too long
and has neither, at a break between clauses. -/
def CutOk (final : Bool) (maxChars : ℕ) (text : List Char) (stop : ℕ) : Prop :=
  text[stop]? = some '\n' ∨ SentenceEnd final text stop ∨
    maxChars < text.length ∧ NoEnd final text ∧ ClauseCut maxChars text stop

/-- A place next to the point between two digits. -/
def AtPoint (text : List Char) (stop : ℕ) : Prop :=
  ∃ before first last after, text = before ++ first :: '.' :: last :: after ∧
    isDigit first = true ∧ isDigit last = true ∧
    (stop = before.length + 1 ∨ stop = before.length + 2)

/-! ## Progress -/

variable {text : List Char} {final : Bool}

lemma lt_of_scan {previous : Option Char}
    {index stop resume : ℕ} (h : scan final previous text index = some (stop, resume)) :
    index < resume := by
  induction text generalizing previous index with
  | nil => cases h
  | cons ch rest ih =>
    have hlater : scan final (some ch) rest (index + 1) = some (stop, resume) → index < resume :=
      fun hscan => (Nat.lt_succ_self index).trans (ih hscan)
    have hhere : some (index + 1 + (rest.takeWhile inRun).length,
        index + 1 + (rest.takeWhile inRun).length) = some (stop, resume) → index < resume := by
      intro heq
      obtain ⟨-, rfl⟩ := Prod.mk.inj (Option.some.inj heq)
      omega
    rw [scan] at h
    split at h
    · obtain ⟨-, rfl⟩ := Prod.mk.inj (Option.some.inj h)
      exact Nat.lt_succ_self index
    · split at h
      · exact hlater h
      · split at h
        · exact hlater h
        · dsimp only at h
          split at h
          · split at h
            · exact hhere h
            · exact hlater h
          · split at h
            · exact hhere h
            · exact hlater h

lemma pos_of_nextCut {maxChars : ℕ} {stop resume : ℕ}
    (hpos : 0 < maxChars) (h : nextCut final maxChars text = some (stop, resume)) : 0 < resume := by
  rw [nextCut] at h
  split at h
  next cut hscan =>
    obtain rfl := Option.some.inj h
    exact lt_of_scan hscan
  next =>
    split at h
    · obtain ⟨-, rfl⟩ := Prod.mk.inj (Option.some.inj h)
      rw [overlongCut]
      split
      · exact Nat.succ_pos _
      · exact hpos
    · cases h

lemma length_lt_of_nextCut {maxChars : ℕ} {stop resume : ℕ} (hpos : 0 < maxChars) (hne : text ≠ [])
    (h : nextCut final maxChars text = some (stop, resume)) :
    ((text.drop resume).dropWhile isBlank).length < text.length := by
  have hresume := pos_of_nextCut hpos h
  have hlength := List.length_pos_of_ne_nil hne
  have hdropped := (List.dropWhile_suffix isBlank (l := text.drop resume)).length_le
  rw [List.length_drop] at hdropped
  omega

end Chunker

/-! ## The chunker -/

/-- A chunker. -/
structure Chunker where
  maxChars : ℕ
  buffer : List Char := []
  maxChars_pos : 0 < maxChars

namespace Chunker

/-- A new chunker. A length that is not positive is replaced. -/
def new (maxChars : ℤ) : Chunker :=
  if h : maxChars ≤ 0 then { maxChars := defaultMaxChunkChars, maxChars_pos := Nat.succ_pos _ }
  else { maxChars := maxChars.toNat, maxChars_pos := by omega }

/-- The cuts of a text, and what is left of it. White space behind a cut is skipped. -/
def extractFrom (final : Bool) (maxChars : ℕ) (hpos : 0 < maxChars) (text : List Char) :
    List Cut × List Char :=
  if hne : text = [] then ([], text)
  else
    match hcut : nextCut final maxChars text with
    | none => ([], text)
    | some (stop, resume) =>
      have := length_lt_of_nextCut hpos hne hcut
      let later := extractFrom final maxChars hpos ((text.drop resume).dropWhile isBlank)
      (⟨text, stop⟩ :: later.1, later.2)
termination_by text.length
decreasing_by exact this

variable (c : Chunker)

/-- Cut the text that waits. -/
def extract (final : Bool) : List Cut × Chunker :=
  let (cuts, buffer) := extractFrom final c.maxChars c.maxChars_pos c.buffer
  (cuts, { c with buffer })

/-- The chunks before some cuts. Those that are empty are dropped. -/
def chunksOf (cuts : List Cut) : List String := (cuts.map (·.chunk)).filter (· ≠ "")

/-- The chunker with a piece of text. -/
def append (text : String) : Chunker := { c with buffer := c.buffer ++ text.toList }

/-- `Push`: a piece of text arrives. -/
def push (text : String) : List String × Chunker :=
  (chunksOf ((c.append text).extract false).1, ((c.append text).extract false).2)

/-- What is left when all text has arrived. -/
def remainder : List String :=
  if trimSpace (String.ofList c.buffer) ≠ "" then [trimSpace (String.ofList c.buffer)] else []

/-- `Flush`: all text has arrived. -/
def flush : List String × Chunker :=
  (chunksOf (c.extract true).1 ++ (c.extract true).2.remainder,
    { (c.extract true).2 with buffer := [] })

/-! ## Scanning -/

/-- Whether a sentence ends behind the run that begins with a character. -/
def endsSentence (final : Bool) (previous : Option Char) (ch : Char) (rest : List Char) : Bool :=
  decide (ch ∈ sentenceEnders) &&
    !(ch = '.' && previous.any isDigit && rest.head?.any isDigit) &&
    match rest.dropWhile inRun with
    | next :: _ => ch ∈ unconditionalEnders || next = ' ' || next = '\t'
    | [] => final

lemma scan_cons (final : Bool) (previous : Option Char) (ch : Char) (rest : List Char) (index : ℕ) :
    scan final previous (ch :: rest) index =
      if ch = '\n' then some (index, index + 1)
      else if endsSentence final previous ch rest then
        some (index + 1 + (rest.takeWhile inRun).length, index + 1 + (rest.takeWhile inRun).length)
      else scan final (some ch) rest (index + 1) := by
  rw [scan, endsSentence]
  by_cases hline : ch = '\n'
  · rw [if_pos hline, if_pos hline]
  rw [if_neg hline, if_neg hline]
  by_cases hpoint : (ch = '.' && previous.any isDigit && rest.head?.any isDigit) = true
  · rw [if_pos hpoint, hpoint, Bool.not_true, Bool.and_false, Bool.false_and,
      if_neg Bool.false_ne_true]
  rw [if_neg hpoint, Bool.eq_false_of_not_eq_true hpoint, Bool.not_false, Bool.and_true]
  by_cases hender : ch ∈ sentenceEnders
  · rw [if_neg (not_not_intro hender), decide_eq_true hender, Bool.true_and]
    cases rest.dropWhile inRun with
    | nil | cons next tail => rfl
  · rw [if_pos hender, decide_eq_false hender, Bool.false_and, if_neg Bool.false_ne_true]

lemma takeWhile_append_of_maximal {run after : List Char} (hrun : ∀ c ∈ run, inRun c = true)
    (hmaximal : ∀ next ∈ after.head?, inRun next = false) :
    (run ++ after).takeWhile inRun = run ∧ (run ++ after).dropWhile inRun = after := by
  have hafter : after.takeWhile inRun = [] ∧ after.dropWhile inRun = after := by
    cases after with
    | nil => exact ⟨rfl, rfl⟩
    | cons next tail =>
      have hnext := hmaximal next rfl
      rw [List.takeWhile_cons, List.dropWhile_cons, hnext]
      exact ⟨rfl, rfl⟩
  rw [List.takeWhile_append_of_pos hrun, List.dropWhile_append_of_pos hrun, hafter.1, hafter.2,
    List.append_nil]
  exact ⟨rfl, rfl⟩

variable {final : Bool}

lemma sentenceEnd_iff {text : List Char} {stop : ℕ} : SentenceEnd final text stop ↔
      ∃ before ch rest, text = before ++ ch :: rest ∧
        endsSentence final before.getLast? ch rest = true ∧
        stop = before.length + 1 + (rest.takeWhile inRun).length := by
  constructor
  · rintro ⟨before, ch, run, after, hrun, rfl, hafter⟩
    obtain ⟨htake, hdrop⟩ := takeWhile_append_of_maximal hrun.members hrun.maximal
    refine ⟨before, ch, run ++ after, hrun.split, ?_, by rw [htake]⟩
    have hpoint : (decide (ch = '.') && before.getLast?.any isDigit &&
        (run ++ after).head?.any isDigit) = false :=
      Bool.eq_false_of_not_eq_true fun hyes => hrun.noPoint (by simpa [and_assoc] using hyes)
    rw [endsSentence, decide_eq_true hrun.ender, hdrop, hpoint]
    cases after with
    | nil => exact hafter
    | cons next tail =>
      change ch ∈ unconditionalEnders ∨ next = ' ' ∨ next = '\t' at hafter
      simp only [Bool.not_false, Bool.true_and, Bool.or_eq_true, decide_eq_true_eq]
      tauto
  · rintro ⟨before, ch, rest, rfl, hends, rfl⟩
    simp only [endsSentence, Bool.and_eq_true, decide_eq_true_eq, Bool.not_eq_true'] at hends
    obtain ⟨⟨hender, hpoint⟩, hafter⟩ := hends
    refine ⟨before, ch, rest.takeWhile inRun, rest.dropWhile inRun, ?_, rfl, ?_⟩
    · exact
        { split := by rw [List.takeWhile_append_dropWhile]
          ender := hender
          members := fun c hmem => List.mem_takeWhile_imp hmem
          maximal := fun next hnext => by
            have := List.head?_dropWhile_not inRun rest
            rw [Option.mem_def.mp hnext] at this
            simpa using this
          noPoint := fun hyes => by
            rw [List.takeWhile_append_dropWhile] at hyes
            rw [decide_eq_true hyes.1, hyes.2.1, hyes.2.2] at hpoint
            cases hpoint }
    · cases hrest : rest.dropWhile inRun with
      | nil =>
        rw [hrest] at hafter
        exact hafter
      | cons next tail =>
        rw [hrest] at hafter
        simpa [or_assoc] using hafter

lemma scan_some {final : Bool} {before rest : List Char} {stop resume : ℕ}
    (h : scan final before.getLast? rest before.length = some (stop, resume)) :
    ((before ++ rest)[stop]? = some '\n' ∧ resume = stop + 1) ∨
      (SentenceEnd final (before ++ rest) stop ∧ resume = stop) := by
  induction rest generalizing before with
  | nil => cases h
  | cons ch rest ih =>
    rw [scan_cons] at h
    split at h
    next hline =>
      obtain ⟨rfl, rfl⟩ := Prod.mk.inj (Option.some.inj h)
      refine Or.inl ⟨?_, rfl⟩
      rw [List.getElem?_append_right le_rfl, Nat.sub_self, hline]
      rfl
    next =>
      split at h
      next hends =>
        obtain ⟨rfl, rfl⟩ := Prod.mk.inj (Option.some.inj h)
        exact Or.inr ⟨sentenceEnd_iff.mpr ⟨before, ch, rest, rfl, hends, rfl⟩, rfl⟩
      next =>
        have hnext : scan final (before ++ [ch]).getLast? rest (before ++ [ch]).length =
            some (stop, resume) := by
          rw [List.getLast?_concat, List.length_append]
          exact h
        have hfound := ih hnext
        rwa [List.append_assoc, List.singleton_append] at hfound

lemma scan_none {final : Bool} {before rest : List Char}
    (h : scan final before.getLast? rest before.length = none) :
    '\n' ∉ rest ∧ ∀ middle ch tail, rest = middle ++ ch :: tail →
      endsSentence final (before ++ middle).getLast? ch tail = false := by
  induction rest generalizing before with
  | nil =>
    refine ⟨List.not_mem_nil, fun middle ch tail hsplit => ?_⟩
    cases middle <;> cases hsplit
  | cons first rest ih =>
    rw [scan_cons] at h
    split at h
    · cases h
    next hline =>
      split at h
      · cases h
      next hends =>
        have hnext : scan final (before ++ [first]).getLast? rest (before ++ [first]).length =
            none := by
          rw [List.getLast?_concat, List.length_append]
          exact h
        obtain ⟨hlines, hsentences⟩ := ih hnext
        refine ⟨fun hmem => ?_, fun middle ch tail hsplit => ?_⟩
        · rcases List.mem_cons.mp hmem with heq | hmem
          · exact hline heq.symm
          · exact hlines hmem
        · -- The sentence would end here, or behind a later character.
          cases middle with
          | nil =>
            obtain ⟨rfl, rfl⟩ := List.cons.inj hsplit
            rw [List.append_nil]
            exact Bool.eq_false_of_not_eq_true hends
          | cons other middle =>
            obtain ⟨rfl, rfl⟩ := List.cons.inj hsplit
            have hlater := hsentences middle ch tail rfl
            rwa [List.append_assoc, List.singleton_append] at hlater

/-! ## Where the text is cut -/

lemma clauseBreak_of_last (text : List Char) : match lastClauseBreak text with
    | some index => ∃ before ch after, text = before ++ ch :: after ∧ ch ∈ clauseBreaks ∧
        (∀ c ∈ after, c ∉ clauseBreaks) ∧ index = before.length
    | none => ∀ c ∈ text, c ∉ clauseBreaks := by
  induction text with
  | nil => exact fun _ hmem => absurd hmem List.not_mem_nil
  | cons first rest ih =>
    rw [lastClauseBreak]
    cases hlast : lastClauseBreak rest with
    | some index =>
      rw [hlast] at ih
      obtain ⟨before, ch, after, rfl, hbreak, hafter, rfl⟩ := ih
      exact ⟨first :: before, ch, after, rfl, hbreak, hafter, rfl⟩
    | none =>
      rw [hlast] at ih
      dsimp only at ih ⊢
      split
      next hnone =>
        split at hnone
        next hbreak =>
          obtain rfl := Option.some.inj hnone
          exact ⟨[], first, rest, rfl, hbreak, ih, rfl⟩
        next => cases hnone
      next hnone =>
        split at hnone
        next => cases hnone
        next hbreak =>
          intro c hmem
          rcases List.mem_cons.mp hmem with rfl | hmem
          · exact hbreak
          · exact ih c hmem

lemma clauseCut_overlongCut (maxChars : ℕ) (text : List Char) :
    ClauseCut maxChars text (overlongCut maxChars text) := by
  have hlast := clauseBreak_of_last (text.take maxChars)
  rw [overlongCut]
  cases hfound : lastClauseBreak (text.take maxChars) with
  | some index =>
    rw [hfound] at hlast
    obtain ⟨before, ch, after, hsplit, hbreak, hafter, rfl⟩ := hlast
    exact Or.inl ⟨before, ch, after, hsplit, hbreak, hafter, rfl⟩
  | none =>
    rw [hfound] at hlast
    exact Or.inr ⟨hlast, rfl⟩

lemma cutOk_of_nextCut {maxChars : ℕ} {text : List Char} {stop resume : ℕ}
    (h : nextCut final maxChars text = some (stop, resume)) : CutOk final maxChars text stop ∧
      (text[stop]? = some '\n' ∧ resume = stop + 1 ∨ resume = stop) := by
  rw [nextCut] at h
  split at h
  next cut hscan =>
    obtain rfl := Option.some.inj h
    have hfound := @scan_some final [] text stop resume hscan
    rw [List.nil_append] at hfound
    rcases hfound with ⟨hline, hresume⟩ | ⟨hsentence, hresume⟩
    · exact ⟨Or.inl hline, Or.inl ⟨hline, hresume⟩⟩
    · exact ⟨Or.inr (Or.inl hsentence), Or.inr hresume⟩
  next hscan =>
    split at h
    next hlong =>
      obtain ⟨rfl, rfl⟩ := Prod.mk.inj (Option.some.inj h)
      obtain ⟨hlines, hsentences⟩ := @scan_none final [] text hscan
      refine ⟨Or.inr (Or.inr ⟨hlong, ⟨hlines, fun stop hend => ?_⟩,
        clauseCut_overlongCut maxChars text⟩), Or.inr rfl⟩
      obtain ⟨before, ch, rest, hsplit, hends, -⟩ := sentenceEnd_iff.mp hend
      have hnot := hsentences before ch rest hsplit
      rw [List.nil_append, hends] at hnot
      cases hnot
    next => cases h

lemma not_isDigit_of_inRun {ch : Char} (h : inRun ch = true) : isDigit ch = false := by
  have hall : (closers ++ sentenceEnders).all (fun c => !isDigit c) = true := by decide
  rw [inRun, Bool.or_eq_true, decide_eq_true_eq, decide_eq_true_eq] at h
  have hch := List.all_eq_true.mp hall ch (List.mem_append.mpr h)
  rwa [Bool.not_eq_true'] at hch

lemma not_atPoint_of_sentenceEnd {text consumed : List Char} {stop : ℕ}
    (h : SentenceEnd final text stop) : ¬AtPoint (consumed ++ text) (consumed.length + stop) := by
  obtain ⟨before, ch, run, after, hrun, rfl, hafter⟩ := h
  rintro ⟨left, first, last, right, hsplit, hfirst, hlast, hplace⟩
  have hender : inRun ch = true := by
    rw [inRun, decide_eq_true hrun.ender, Bool.or_true]
  rw [hrun.split] at hsplit
  rcases hplace with hplace | hplace
  · -- The run would go on with the point.
    have hcut : (consumed ++ before ++ ch :: run) ++ after = (left ++ [first]) ++
        '.' :: last :: right := by
      simpa using hsplit
    obtain ⟨-, hpoint⟩ := List.append_inj hcut (by
      simp only [List.length_append, List.length_cons, List.length_nil]
      omega)
    have hmaximal := hrun.maximal '.' (by rw [hpoint]; rfl)
    exact absurd hmaximal (by decide)
  · rcases List.eq_nil_or_concat run with rfl | ⟨init, point, rfl⟩
    · -- A single point with a digit behind it ends no sentence.
      have hcut : (consumed ++ before) ++ ch :: after = (left ++ [first]) ++
          '.' :: last :: right := by
        simpa using hsplit
      obtain ⟨-, hpoint⟩ := List.append_inj hcut (by
        simp only [List.length_append, List.length_cons, List.length_nil] at hplace ⊢
        omega)
      obtain ⟨rfl, rfl⟩ := List.cons.inj hpoint
      change '.' ∈ unconditionalEnders ∨ last = ' ' ∨ last = '\t' at hafter
      rcases hafter with hafter | rfl | rfl
      · exact absurd hafter (by decide)
      · exact absurd hlast (by decide)
      · exact absurd hlast (by decide)
    · -- The digit before the point would be in the run.
      have hcut : (consumed ++ before ++ ch :: init) ++ point :: after = (left ++ [first]) ++
          '.' :: last :: right := by
        simpa using hsplit
      obtain ⟨hbefore, -⟩ := List.append_inj hcut (by
        simp only [List.concat_eq_append, List.length_append, List.length_cons, List.length_nil]
          at hplace ⊢
        omega)
      have hmem : first ∈ ch :: init := by
        have hfound := congrArg List.getLast? hbefore
        rw [List.getLast?_concat, List.getLast?_append_of_ne_nil _ (List.cons_ne_nil _ _)] at hfound
        exact List.mem_of_getLast? hfound
      have hinRun : inRun first = true := by
        rcases List.mem_cons.mp hmem with rfl | hmem
        · exact hender
        · exact hrun.members first (by
            rw [List.concat_eq_append]
            exact List.mem_append_left _ hmem)
      rw [not_isDigit_of_inRun hinRun] at hfirst
      cases hfirst

/-! ## Nothing is lost or invented -/

/-- A text without its white space. -/
def dense (text : List Char) : List Char := text.filter fun c => !isSpace c

lemma dense_append (text more : List Char) : dense (text ++ more) = dense text ++ dense more :=
  List.filter_append ..

lemma dense_dropWhile {p : Char → Bool} (hp : ∀ c, p c = true → isSpace c = true)
    (text : List Char) : dense (text.dropWhile p) = dense text := by
  induction text with
  | nil => rfl
  | cons c text ih =>
    rw [List.dropWhile_cons]
    split
    next hskip =>
      rw [ih, dense, dense, List.filter_cons_of_neg (by rw [hp c hskip]; exact Bool.false_ne_true)]
    next => rfl

lemma dense_reverse (text : List Char) : dense text.reverse = (dense text).reverse :=
  List.filter_reverse ..

lemma dense_trimSpace (s : String) : dense (trimSpace s).toList = dense s.toList := by
  rw [trimSpace, String.toList_ofList, dense_reverse, dense_dropWhile (fun _ h => h), dense_reverse,
    List.reverse_reverse, dense_dropWhile fun _ h => h]

lemma trimSpace_trimSpace (s : String) : trimSpace (trimSpace s) = trimSpace s := by
  have htrim : ∀ text : String,
      trimSpace text = String.ofList ((text.toList.dropWhile isSpace).rdropWhile isSpace) :=
    fun _ => rfl
  have hprefix := List.rdropWhile_prefix isSpace (s.toList.dropWhile isSpace)
  -- What is left begins like the text without its leading white space.
  have hhead : ((s.toList.dropWhile isSpace).rdropWhile isSpace).dropWhile isSpace =
      (s.toList.dropWhile isSpace).rdropWhile isSpace := by
    refine List.dropWhile_eq_self_iff.mpr fun hlength => ?_
    have hfirst := List.head?_dropWhile_not isSpace s.toList
    obtain ⟨rest, hrest⟩ := hprefix
    rw [← hrest, List.head?_append_of_ne_nil _ (List.ne_nil_of_length_pos hlength),
      List.head?_eq_getElem?, List.getElem?_eq_getElem hlength] at hfirst
    simpa using hfirst
  rw [htrim (trimSpace s), htrim s, String.toList_ofList, hhead, List.rdropWhile_idempotent]

lemma dense_chunksOf (cuts : List Cut) : dense ((chunksOf cuts).flatMap String.toList) =
      cuts.flatMap fun cut => dense (cut.text.take cut.length) := by
  induction cuts with
  | nil => rfl
  | cons cut cuts ih =>
    have hchunk : dense cut.chunk.toList = dense (cut.text.take cut.length) := by
      rw [Cut.chunk, dense_trimSpace, String.toList_ofList]
    rw [List.flatMap_cons, ← ih, ← hchunk]
    rw [chunksOf, List.map_cons, List.filter_cons]
    split
    next =>
      rw [List.flatMap_cons, dense_append]
      rfl
    next hempty =>
      have hnil : cut.chunk = "" := by simpa using hempty
      rw [hnil]
      rfl

lemma isSpace_of_isBlank {ch : Char} (h : isBlank ch = true) : isSpace ch = true := by
  simp only [isBlank, Bool.or_eq_true, decide_eq_true_eq] at h
  rcases h with ((rfl | rfl) | rfl) | rfl <;> decide

lemma extractFrom_spec (final : Bool) (maxChars : ℕ) (hpos : 0 < maxChars) (text : List Char) :
    (∀ cut ∈ (extractFrom final maxChars hpos text).1,
      CutOk final maxChars cut.text cut.length) ∧
    ((extractFrom final maxChars hpos text).1.flatMap fun cut =>
      dense (cut.text.take cut.length)) ++ dense (extractFrom final maxChars hpos text).2 =
        dense text := by
  fun_induction extractFrom final maxChars hpos text with
  | case1 => exact ⟨fun _ hmem => absurd hmem List.not_mem_nil, rfl⟩
  | case2 text hne hcut => exact ⟨fun _ hmem => absurd hmem List.not_mem_nil, rfl⟩
  | case3 text hne stop resume hcut hshorter later ih =>
    obtain ⟨hok, hresume⟩ := cutOk_of_nextCut hcut
    refine ⟨fun cut hmem => ?_, ?_⟩
    · rcases List.mem_cons.mp hmem with rfl | hmem
      · exact hok
      · exact ih.1 cut hmem
    · have hlater := ih.2
      rw [dense_dropWhile fun _ => isSpace_of_isBlank] at hlater
      rw [List.flatMap_cons, List.append_assoc, hlater, ← dense_append]
      rcases hresume with ⟨hline, rfl⟩ | rfl
      · -- The end of the line is skipped, and is white space.
        obtain ⟨hlength, hch⟩ := List.getElem?_eq_some_iff.mp hline
        have hsplit := List.take_append_drop stop text
        rw [List.drop_eq_getElem_cons hlength, hch] at hsplit
        conv_rhs => rw [← hsplit]
        rw [dense_append, dense_append]
        rfl
      · rw [List.take_append_drop]

/-! ## A whole text -/

/-- The chunks of a text that arrives in pieces. -/
def run (c : Chunker) : List String → List String
  | [] => c.flush.1
  | piece :: pieces => (c.push piece).1 ++ run (c.push piece).2 pieces

/-- The cuts of a text that arrives in pieces, and whether all of it had arrived. -/
def cutsOfRun (c : Chunker) : List String → List (Bool × Cut)
  | [] => (c.extract true).1.map fun cut => (true, cut)
  | piece :: pieces =>
    (((c.append piece).extract false).1.map fun cut => (false, cut)) ++
      cutsOfRun (c.push piece).2 pieces

lemma trimmed_chunksOf {cuts : List Cut} {chunk : String} (hmem : chunk ∈ chunksOf cuts) :
    chunk ≠ "" ∧ trimSpace chunk = chunk := by
  obtain ⟨hchunk, hne⟩ := List.mem_filter.mp hmem
  obtain ⟨cut, -, rfl⟩ := List.mem_map.mp hchunk
  exact ⟨of_decide_eq_true hne, trimSpace_trimSpace _⟩

lemma trimmed_run (c : Chunker) (pieces : List String) :
    ∀ chunk ∈ c.run pieces, chunk ≠ "" ∧ trimSpace chunk = chunk := by
  induction pieces generalizing c with
  | nil =>
    intro chunk hmem
    rcases List.mem_append.mp hmem with hmem | hmem
    · exact trimmed_chunksOf hmem
    · rw [remainder] at hmem
      split at hmem
      next hne =>
        rw [List.mem_singleton.mp hmem]
        exact ⟨hne, trimSpace_trimSpace _⟩
      next => cases hmem
  | cons piece pieces ih =>
    intro chunk hmem
    rcases List.mem_append.mp hmem with hmem | hmem
    · exact trimmed_chunksOf hmem
    · exact ih _ chunk hmem

lemma dense_remainder (c : Chunker) :
    dense (c.remainder.flatMap String.toList) = dense c.buffer := by
  rw [remainder]
  split
  next =>
    rw [List.flatMap_cons, List.flatMap_nil, List.append_nil, dense_trimSpace, String.toList_ofList]
  next hempty =>
    have hnil : dense "".toList = dense c.buffer := by
      rw [← not_not.mp hempty, dense_trimSpace, String.toList_ofList]
    exact hnil

lemma dense_run (c : Chunker) (pieces : List String) :
    dense ((c.run pieces).flatMap String.toList) =
      dense (c.buffer ++ pieces.flatMap String.toList) := by
  induction pieces generalizing c with
  | nil =>
    have hspec := (extractFrom_spec true c.maxChars c.maxChars_pos c.buffer).2
    rw [run, flush, List.flatMap_append, dense_append, dense_chunksOf, dense_remainder,
      List.flatMap_nil, List.append_nil]
    exact hspec
  | cons piece pieces ih =>
    have hspec := (extractFrom_spec false c.maxChars c.maxChars_pos (c.append piece).buffer).2
    rw [run, List.flatMap_append, dense_append, ih, dense_append, ← List.append_assoc]
    show dense ((chunksOf ((c.append piece).extract false).1).flatMap String.toList) ++ _ ++ _ = _
    rw [dense_chunksOf, List.flatMap_cons, ← List.append_assoc, dense_append]
    exact congrArg (· ++ _) hspec

lemma cutOk_of_run (c : Chunker) (pieces : List String) :
    ∀ entry ∈ c.cutsOfRun pieces, CutOk entry.1 c.maxChars entry.2.text entry.2.length := by
  induction pieces generalizing c with
  | nil =>
    intro entry hmem
    obtain ⟨cut, hcut, rfl⟩ := List.mem_map.mp hmem
    exact (extractFrom_spec true c.maxChars c.maxChars_pos c.buffer).1 cut hcut
  | cons piece pieces ih =>
    intro entry hmem
    rcases List.mem_append.mp hmem with hmem | hmem
    · obtain ⟨cut, hcut, rfl⟩ := List.mem_map.mp hmem
      exact (extractFrom_spec false c.maxChars c.maxChars_pos (c.append piece).buffer).1 cut hcut
    · exact ih (c.push piece).2 entry hmem

end Chunker

/-- However a text arrives, its chunks are trimmed and not empty, they have all of it but white
space, and it is cut only where it may be, and at no sentence next to the point between two
digits. -/
theorem chunks_of_pieces (maxChars : ℤ) (pieces : List String) :
    (∀ chunk ∈ (Chunker.new maxChars).run pieces, chunk ≠ "" ∧ trimSpace chunk = chunk) ∧
    Chunker.dense (((Chunker.new maxChars).run pieces).flatMap String.toList) =
      Chunker.dense (pieces.flatMap String.toList) ∧
    ∀ entry ∈ (Chunker.new maxChars).cutsOfRun pieces,
      Chunker.CutOk entry.1 (Chunker.new maxChars).maxChars entry.2.text entry.2.length ∧
        (Chunker.SentenceEnd entry.1 entry.2.text entry.2.length → ∀ consumed,
          ¬Chunker.AtPoint (consumed ++ entry.2.text) (consumed.length + entry.2.length)) := by
  refine ⟨Chunker.trimmed_run _ pieces, ?_, fun entry hmem =>
    ⟨Chunker.cutOk_of_run _ pieces entry hmem,
      fun hend _ => Chunker.not_atPoint_of_sentenceEnd hend⟩⟩
  have hbuffer : (Chunker.new maxChars).buffer = [] := by
    rw [Chunker.new]
    split <;> rfl
  rw [Chunker.dense_run, hbuffer, List.nil_append]

/-! ### A name with a point -/

namespace Chunker

/-- Where a text might be cut if every run of ends of sentences ended one. -/
def CutAtRuns (maxChars : ℕ) (text : List Char) (stop : ℕ) : Prop :=
  text[stop]? = some '\n' ∨
  (∃ before ch run after, RunEnd text before ch run after ∧
    stop = before.length + 1 + run.length) ∨
  maxChars < text.length ∧ '\n' ∉ text ∧
    (∀ before ch run after, ¬RunEnd text before ch run after) ∧ ClauseCut maxChars text stop

/-- A name is cut where it gets too long, although it has a point. -/
theorem not_cutAtRuns_name :
    ¬∀ (maxChars : ℤ) (pieces : List String), ∀ entry ∈ (new maxChars).cutsOfRun pieces,
      CutAtRuns (new maxChars).maxChars entry.2.text entry.2.length := by
  intro hcuts
  have hmem : (false, (⟨['a', 'b', '.', 'c'], 2⟩ : Cut)) ∈ (new 2).cutsOfRun ["ab.c"] := by
    decide +kernel
  rcases hcuts 2 ["ab.c"] _ hmem with hline | ⟨before, ch, run, after, hrun, hstop⟩ | hlong
  · exact absurd hline (by decide)
  · -- The two characters before the cut are letters.
    change 2 = before.length + 1 + run.length at hstop
    have hletter : ['a', 'b', '.', 'c'][before.length]? = some ch := by
      have hsplit := hrun.split
      change ['a', 'b', '.', 'c'] = before ++ ch :: (run ++ after) at hsplit
      rw [hsplit, List.getElem?_append_right le_rfl, Nat.sub_self]
      rfl
    have hplace : before.length = 0 ∨ before.length = 1 := by omega
    rcases hplace with hplace | hplace
    · rw [hplace] at hletter
      obtain rfl := Option.some.inj hletter
      exact absurd hrun.ender (by decide)
    · rw [hplace] at hletter
      obtain rfl := Option.some.inj hletter
      exact absurd hrun.ender (by decide)
  · refine hlong.2.2.1 ['a', 'b'] '.' [] ['c'] ?_
    exact
      { split := rfl
        ender := by decide
        members := fun _ hmem => absurd hmem List.not_mem_nil
        maximal := fun next hnext => by
          obtain rfl := Option.some.inj hnext
          decide
        noPoint := by decide }

end Chunker

end Free4Chat
