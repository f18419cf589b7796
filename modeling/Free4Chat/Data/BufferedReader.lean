import Mathlib.Data.List.Basic

/-!
# Buffered Readers

A reader that holds a buffer of a fixed size before a source that comes in pieces of any sizes. It
reads slices up to a delimiter; a full buffer without one is a slice as well.

* `BufferedReader`: the buffer, and the pieces that were not read yet.
* `BufferedReader.readSlice`: the next slice, if it does not block.
* `BufferedReader.readSlice_found`, `BufferedReader.readSlice_eq_some` and
  `BufferedReader.readSlice_eq_none`: what is read does not depend on the pieces.
-/

universe u

/-- A reader with a buffer. -/
structure BufferedReader (α : Type u) where
  size : ℕ
  size_pos : 0 < size
  buffer : List α
  pieces : List (List α)
  -- Whether there will be no more pieces.
  ended : Bool

/-- Why a slice ends: at a delimiter, at the end of the buffer or at the end of the source. -/
inductive SliceEnd where
  | found
  | full
  | ended
deriving DecidableEq

namespace BufferedReader

variable {α : Type u} (isDelim : α → Bool)

/-- All that was not read yet. -/
def content (r : BufferedReader α) : List α := r.buffer ++ r.pieces.flatten

/-- The buffer takes what it has space for of the next piece. -/
def fill (r : BufferedReader α) (piece : List α) (pieces : List (List α)) : BufferedReader α :=
  let space := r.size - r.buffer.length
  { r with
    buffer := r.buffer ++ piece.take space
    pieces := if piece.length ≤ space then pieces else piece.drop space :: pieces }

/-- The reader once its buffer starts with something else. -/
def withBuffer (r : BufferedReader α) (buffer : List α) : BufferedReader α :=
  { r with buffer := buffer }

/-- The next slice. It blocks if there are no more pieces yet. -/
def readSlice (r : BufferedReader α) : Option ((List α × SliceEnd) × BufferedReader α) :=
  if r.buffer.any isDelim then
    let line := r.buffer.takeWhile fun a => !isDelim a
    let rest := r.buffer.drop (line.length + 1)
    some ((r.buffer.take (line.length + 1), .found), r.withBuffer rest)
  else if r.size ≤ r.buffer.length then
    some ((r.buffer, .full), r.withBuffer [])
  else
    match _hpieces : r.pieces with
    | [] => if r.ended then some ((r.buffer, .ended), r.withBuffer []) else none
    | piece :: pieces => (r.fill piece pieces).readSlice
termination_by r.pieces.flatten.length + r.pieces.length
decreasing_by
  rw [_hpieces, fill]
  dsimp only
  split
  · rw [List.flatten_cons, List.length_append, List.length_cons]
    omega
  · rw [List.flatten_cons, List.flatten_cons, List.length_append, List.length_append,
      List.length_drop, List.length_cons, List.length_cons]
    omega

/-- What a slice is that ends as it does. -/
def IsSlice (slice : List α) : SliceEnd → Prop
  | .found => ∃ line a, slice = line ++ [a] ∧ isDelim a = true ∧ line.any isDelim = false
  | .full => slice ≠ [] ∧ slice.any isDelim = false
  | .ended => slice.any isDelim = false

variable {isDelim} {r r' : BufferedReader α} {slice line rest : List α} {how : SliceEnd} {a : α}

lemma content_fill {piece : List α} {pieces : List (List α)} (h : r.pieces = piece :: pieces) :
    (r.fill piece pieces).content = r.content := by
  rw [content, content, h, fill]
  dsimp only
  split_ifs with hspace
  · rw [List.take_of_length_le hspace, List.append_assoc, List.flatten_cons]
  · rw [List.flatten_cons, List.flatten_cons, List.append_assoc,
      ← List.append_assoc (List.take _ _), List.take_append_drop]

lemma exists_line {l : List α} (h : l.any isDelim = true) :
    ∃ line a rest, l = line ++ a :: rest ∧ isDelim a = true ∧ line.any isDelim = false ∧
      l.take ((l.takeWhile fun a => !isDelim a).length + 1) = line ++ [a] ∧
      l.drop ((l.takeWhile fun a => !isDelim a).length + 1) = rest := by
  induction l with
  | nil => cases h
  | cons b l ih =>
    cases hb : isDelim b with
    | true =>
      refine ⟨[], b, l, rfl, hb, rfl, ?_, ?_⟩
      · rw [List.takeWhile_cons, hb]
        rfl
      · rw [List.takeWhile_cons, hb]
        rfl
    | false =>
      rw [List.any_cons, hb, Bool.false_or] at h
      obtain ⟨line, a, rest, hl, ha, hline, htake, hdrop⟩ := ih h
      refine ⟨b :: line, a, rest, by rw [hl, List.cons_append], ha, ?_, ?_, ?_⟩
      · rw [List.any_cons, hb, hline, Bool.or_false]
      · rw [List.takeWhile_cons, hb]
        exact congrArg (b :: ·) htake
      · rw [List.takeWhile_cons, hb]
        exact hdrop

lemma readSlice_of_nil (hany : ¬r.buffer.any isDelim = true) (hfull : ¬r.size ≤ r.buffer.length)
    (hpieces : r.pieces = []) : r.readSlice isDelim =
      if r.ended then some ((r.buffer, .ended), r.withBuffer []) else none := by
  rw [readSlice, if_neg hany, if_neg hfull]
  split
  next => rfl
  next piece pieces hother => cases hpieces.symm.trans hother

lemma readSlice_of_cons {piece : List α} {pieces : List (List α)}
    (hany : ¬r.buffer.any isDelim = true) (hfull : ¬r.size ≤ r.buffer.length)
    (hpieces : r.pieces = piece :: pieces) :
    r.readSlice isDelim = (r.fill piece pieces).readSlice isDelim := by
  rw [readSlice, if_neg hany, if_neg hfull]
  split
  next hother => cases hpieces.symm.trans hother
  next other others hother =>
    obtain ⟨rfl, rfl⟩ := List.cons.inj (hpieces.symm.trans hother)
    rfl

lemma readSlice_eq_some (h : r.readSlice isDelim = some ((slice, how), r')) :
    slice ++ r'.content = r.content ∧ r'.ended = r.ended ∧ IsSlice isDelim slice how ∧
      (how = .ended → r.ended = true ∧ r'.content = []) := by
  induction r using readSlice.induct isDelim with
  | case1 r hany =>
    rw [readSlice, if_pos hany] at h
    cases h
    obtain ⟨line, a, rest, hbuffer, ha, hline, htake, hdrop⟩ := exists_line hany
    refine ⟨?_, rfl, ⟨line, a, htake, ha, hline⟩, fun hhow => by cases hhow⟩
    rw [content, content, withBuffer, ← List.append_assoc, List.take_append_drop]
  | case2 r hany hfull =>
    rw [readSlice, if_neg hany, if_pos hfull] at h
    cases h
    refine ⟨rfl, rfl, ⟨?_, Bool.eq_false_iff.mpr hany⟩, fun hhow => by cases hhow⟩
    exact List.ne_nil_of_length_pos (Nat.lt_of_lt_of_le r.size_pos hfull)
  | case3 r hany hfull hpieces hended =>
    rw [readSlice_of_nil hany hfull hpieces, if_pos hended] at h
    cases h
    refine ⟨rfl, rfl, Bool.eq_false_iff.mpr hany, fun _ => ⟨hended, ?_⟩⟩
    rw [content, withBuffer, hpieces]
    rfl
  | case4 r hany hfull hpieces hended =>
    rw [readSlice_of_nil hany hfull hpieces, if_neg hended] at h
    cases h
  | case5 r hany hfull piece pieces hpieces ih =>
    rw [readSlice_of_cons hany hfull hpieces] at h
    obtain ⟨hcontent, hrest⟩ := ih h
    exact ⟨hcontent.trans (content_fill hpieces), hrest⟩

lemma readSlice_eq_none (h : r.readSlice isDelim = none) :
    r.content.any isDelim = false ∧ r.ended = false := by
  induction r using readSlice.induct isDelim with
  | case1 r hany =>
    rw [readSlice, if_pos hany] at h
    cases h
  | case2 r hany hfull =>
    rw [readSlice, if_neg hany, if_pos hfull] at h
    cases h
  | case3 r hany hfull hpieces hended =>
    rw [readSlice_of_nil hany hfull hpieces, if_pos hended] at h
    cases h
  | case4 r hany hfull hpieces hended =>
    refine ⟨?_, Bool.eq_false_iff.mpr hended⟩
    rw [content, hpieces, List.flatten_nil, List.append_nil]
    exact Bool.eq_false_iff.mpr hany
  | case5 r hany hfull piece pieces hpieces ih =>
    rw [readSlice_of_cons hany hfull hpieces] at h
    rw [content_fill hpieces] at ih
    exact ih h

end BufferedReader
