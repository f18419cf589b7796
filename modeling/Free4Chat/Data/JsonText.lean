import Mathlib.Algebra.Order.BigOperators.Group.List
import Mathlib.Algebra.Order.Group.Nat
import Mathlib.Data.Nat.Cast.Basic

/-!
# JSON Texts

The texts that `JSON.stringify` produces from strings, natural numbers, arrays and objects, and
their sizes in UTF-8.

* `JsonText.string`, `JsonText.number`, `JsonText.array` and `JsonText.object`: the texts.
* `JsonText.utf8ByteSize_string` and its like: their sizes.
-/

namespace JsonText

/-! ## Texts -/

/-- A character of a string literal. Quotes, backslashes and control characters are escaped. -/
def escapeChar (c : Char) : String :=
  if c = '"' then "\\\""
  else if c = '\\' then "\\\\"
  else if c.toNat = 0x08 then "\\b"
  else if c.toNat = 0x09 then "\\t"
  else if c.toNat = 0x0A then "\\n"
  else if c.toNat = 0x0C then "\\f"
  else if c.toNat = 0x0D then "\\r"
  else if c.toNat < 0x20 then
    "\\u00" ++ (String.singleton (Nat.digitChar (c.toNat / 16)) ++
      String.singleton (Nat.digitChar (c.toNat % 16)))
  else String.singleton c

/-- The characters of a string literal. -/
def escapeChars : List Char → String
  | [] => ""
  | c :: cs => escapeChar c ++ escapeChars cs

/-- The text of a string. -/
def string (s : String) : String := "\"" ++ escapeChars s.toList ++ "\""

/-- The text of a natural number. -/
def number (n : ℕ) : String := toString n

/-- The text of an array. -/
def array (items : List String) : String := "[" ++ ",".intercalate items ++ "]"

/-- The text of an object, from the texts of its properties. -/
def object (properties : List (String × String)) : String :=
  "\x7b" ++ ",".intercalate (properties.map fun property => string property.1 ++ ":" ++ property.2) ++
    "\x7d"

/-! ## Sizes -/

/-- The size of a list of items that are separated by commas. -/
def separatedSize (sizes : List ℕ) : ℕ := sizes.sum + (sizes.length - 1)

lemma separatedSize_le_of_sublist {sizes sizes' : List ℕ} (h : sizes.Sublist sizes') :
    separatedSize sizes ≤ separatedSize sizes' := by
  have hsum := h.sum_le_sum fun _ _ => Nat.zero_le _
  have hlength := h.length_le
  unfold separatedSize
  omega

lemma utf8ByteSize_intercalate (items : List String) :
    (",".intercalate items).utf8ByteSize = separatedSize (items.map String.utf8ByteSize) := by
  induction items with
  | nil => rfl
  | cons item items ih =>
    cases items with
    | nil =>
      rw [String.intercalate_singleton, separatedSize]
      simp
    | cons next items =>
      have hcomma : ",".utf8ByteSize = 1 := by decide
      rw [String.intercalate_cons_cons, String.utf8ByteSize_append, String.utf8ByteSize_append, ih,
        hcomma, separatedSize, separatedSize]
      simp only [List.map_cons, List.sum_cons, List.length_cons, List.length_map]
      omega

lemma utf8ByteSize_escapeChars (cs : List Char) :
    (escapeChars cs).utf8ByteSize = (cs.map fun c => (escapeChar c).utf8ByteSize).sum := by
  induction cs with
  | nil => rfl
  | cons c cs ih => rw [escapeChars, String.utf8ByteSize_append, ih, List.map_cons, List.sum_cons]

lemma utf8ByteSize_string (s : String) :
    (string s).utf8ByteSize = (s.toList.map fun c => (escapeChar c).utf8ByteSize).sum + 2 := by
  have hquote : "\"".utf8ByteSize = 1 := by decide
  rw [string, String.utf8ByteSize_append, String.utf8ByteSize_append, hquote,
    utf8ByteSize_escapeChars]
  omega

lemma utf8ByteSize_array (items : List String) :
    (array items).utf8ByteSize = separatedSize (items.map String.utf8ByteSize) + 2 := by
  have hopen : "[".utf8ByteSize = 1 := by decide
  have hclose : "]".utf8ByteSize = 1 := by decide
  rw [array, String.utf8ByteSize_append, String.utf8ByteSize_append, hopen, hclose,
    utf8ByteSize_intercalate]
  omega

lemma utf8ByteSize_object (properties : List (String × String)) :
    (object properties).utf8ByteSize = separatedSize (properties.map fun property =>
      (string property.1).utf8ByteSize + 1 + property.2.utf8ByteSize) + 2 := by
  have hopen : "\x7b".utf8ByteSize = 1 := by decide
  have hclose : "\x7d".utf8ByteSize = 1 := by decide
  have hcolon : ":".utf8ByteSize = 1 := by decide
  rw [object, String.utf8ByteSize_append, String.utf8ByteSize_append, hopen, hclose,
    utf8ByteSize_intercalate, List.map_map]
  simp only [Function.comp_def, String.utf8ByteSize_append, hcolon]
  omega

/-! ## Bounds -/

lemma utf8ByteSize_escapeChar_le (c : Char) : (escapeChar c).utf8ByteSize ≤ 6 := by
  have hsize := c.utf8Size_le_four
  have hdigit : ∀ n < 16, (String.singleton (Nat.digitChar n)).utf8ByteSize = 1 := by decide
  unfold escapeChar
  split_ifs with _ _ _ _ _ _ _ hcontrol
  all_goals try decide
  · have hprefix : "\\u00".utf8ByteSize = 4 := by decide
    rw [String.utf8ByteSize_append, String.utf8ByteSize_append, hprefix, hdigit _ (by omega),
      hdigit _ (by omega)]
  · rw [String.utf8ByteSize_singleton]
    omega

lemma utf8ByteSize_string_le (s : String) : (string s).utf8ByteSize ≤ 6 * s.toList.length + 2 := by
  have hsum := List.sum_le_card_nsmul (s.toList.map fun c => (escapeChar c).utf8ByteSize) 6 (by
    intro size hmem
    obtain ⟨c, -, rfl⟩ := List.mem_map.mp hmem
    exact utf8ByteSize_escapeChar_le c)
  rw [List.length_map, nsmul_eq_mul] at hsum
  rw [utf8ByteSize_string]
  simp only [Nat.cast_id] at hsum
  omega

lemma utf8ByteSize_ofList_digits {digits : List Char} (h : ∀ c ∈ digits, c.isDigit = true) :
    (String.ofList digits).utf8ByteSize = digits.length := by
  induction digits with
  | nil => rfl
  | cons c digits ih =>
    have hc : c.utf8Size = 1 := by
      have hdigit := h c List.mem_cons_self
      rw [Char.utf8Size_eq_one_iff]
      simp only [Char.isDigit, Bool.and_eq_true, decide_eq_true_eq] at hdigit
      exact UInt32.le_trans hdigit.2 (by decide)
    rw [← List.singleton_append, String.ofList_append, String.utf8ByteSize_append,
      ih fun c hmem => h c (List.mem_cons_of_mem _ hmem), ← String.singleton_eq_ofList,
      String.utf8ByteSize_singleton, hc, List.length_append, List.length_singleton]

lemma utf8ByteSize_number (n : ℕ) : (number n).utf8ByteSize = (Nat.toDigits 10 n).length := by
  rw [number, Nat.toString_eq_ofList_toDigits]
  exact utf8ByteSize_ofList_digits fun c hmem =>
    Nat.isDigit_of_mem_toDigits (by decide) (by decide) hmem

lemma utf8ByteSize_number_le {n k : ℕ} (hk : 0 < k) (h : n < 10 ^ k) :
    (number n).utf8ByteSize ≤ k := by
  rw [utf8ByteSize_number]
  exact (Nat.length_toDigits_le_iff (by decide) hk).mpr h

end JsonText
