import Mathlib.Algebra.GroupWithZero.Nat
import Mathlib.Data.List.DropRight

/-!
# JavaScript Values and Strings

The JavaScript values a request body can hold, and the string operations used to validate them.
Strings are Lean strings; lengths and slices count UTF-16 code units, as JavaScript does.

* `JsValue`: the values of type `unknown` that validation code inspects.
* `JsString.utf16Length`, `JsString.trim` and `JsString.slice`: `length`, `trim` and
  `slice(0, n)`.
* `JsString.ofCharClass`: anchored patterns that are one character class with a length range.
-/

/-- JavaScript values as validation code sees them. Numbers that are not integers (fractions,
`NaN` and the infinities) are one constructor, since no check tells them apart. -/
inductive JsValue where
  | undefined
  | null
  | bool (b : Bool)
  | int (n : ℤ)
  | nonInteger
  | str (s : String)
  | arr (items : List JsValue)
  -- Entries in property order.
  | obj (entries : List (String × JsValue))
deriving Inhabited

namespace JsValue

/-- Largest integer that a JavaScript number represents together with its successor. -/
def maxSafeInteger : ℤ := 9007199254740991

/-- The property of a value, `undefined` when there is none. -/
def get (value : JsValue) (name : String) : JsValue :=
  match value with
  | .obj entries => (entries.lookup name).getD .undefined
  | _ => .undefined

/-- The string a value is, if it is one. -/
def asString? : JsValue → Option String
  | .str s => some s
  | _ => none

/-- The boolean a value is, if it is one. -/
def asBool? : JsValue → Option Bool
  | .bool b => some b
  | _ => none

/-- The safe integer a value is, if it is one. -/
def asSafeInteger? : JsValue → Option ℤ
  | .int n => if -maxSafeInteger ≤ n ∧ n ≤ maxSafeInteger then some n else none
  | _ => none

/-- The entries of a plain object. Arrays and the other values are not records. -/
def asRecord? : JsValue → Option (List (String × JsValue))
  | .obj entries => some entries
  | _ => none

/-- The items of an array of strings, if the value is one. -/
def asStringArray? : JsValue → Option (List String)
  | .arr items => items.mapM asString?
  | _ => none

end JsValue

namespace JsString

/-- Number of UTF-16 code units of a character. -/
def utf16Units (c : Char) : ℕ := if c.toNat < 0x10000 then 1 else 2

/-- The `length` of a JavaScript string: its number of UTF-16 code units. -/
def utf16Length (s : String) : ℕ := (s.toList.map utf16Units).sum

/-- The characters that `trim` removes: white space and line terminators. -/
def isTrimmed (c : Char) : Bool :=
  (0x09 ≤ c.toNat && c.toNat ≤ 0x0D) || c.toNat == 0x20 || c.toNat == 0xA0 ||
  c.toNat == 0x1680 || (0x2000 ≤ c.toNat && c.toNat ≤ 0x200A) || c.toNat == 0x2028 ||
  c.toNat == 0x2029 || c.toNat == 0x202F || c.toNat == 0x205F || c.toNat == 0x3000 ||
  c.toNat == 0xFEFF

/-- The `trim` method: the string without surrounding white space. -/
def trim (s : String) : String :=
  String.ofList ((s.toList.dropWhile isTrimmed).reverse.dropWhile isTrimmed).reverse

@[simp]
lemma trim_trim (s : String) : trim (trim s) = trim s := by
  have hkeep : ((s.toList.dropWhile isTrimmed).rdropWhile isTrimmed).dropWhile isTrimmed =
      (s.toList.dropWhile isTrimmed).rdropWhile isTrimmed := by
    rw [List.dropWhile_eq_self_iff]
    intro hpos
    -- What is left begins as before, since only the end was dropped.
    have hprefix := List.rdropWhile_prefix isTrimmed (s.toList.dropWhile isTrimmed)
    have hhead := hprefix.getElem hpos
    rw [hhead]
    exact List.dropWhile_get_zero_not isTrimmed s.toList (hpos.trans_le hprefix.length_le)
  show String.ofList (List.rdropWhile isTrimmed
      ((String.ofList (List.rdropWhile isTrimmed (s.toList.dropWhile isTrimmed))).toList.dropWhile
        isTrimmed)) = String.ofList (List.rdropWhile isTrimmed (s.toList.dropWhile isTrimmed))
  rw [String.toList_ofList, hkeep, List.rdropWhile_idempotent]

/-- The longest prefix of a list of characters within a number of code units. -/
def takeUnits : ℕ → List Char → List Char
  | _, [] => []
  | n, c :: cs => if utf16Units c ≤ n then c :: takeUnits (n - utf16Units c) cs else []

/-- The prefix `slice(0, n)`. A surrogate pair cut in two is dropped, since half of one is not a
character. -/
def slice (s : String) (n : ℕ) : String := String.ofList (takeUnits n s.toList)

/-- The string a condition accepts as present: empty strings count as absent. -/
def nonempty? (s : Option String) : Option String :=
  s.filter (· ≠ "")

lemma nonempty?_eq_some_iff {s : Option String} {t : String} :
    nonempty? s = some t ↔ s = some t ∧ t ≠ "" := by
  simp [nonempty?, Option.filter_eq_some_iff]

@[simp]
lemma nonempty?_some_of_ne {t : String} (h : t ≠ "") : nonempty? (some t) = some t := by
  simp [nonempty?, Option.filter, h]

/-- Whether every character is in a class and the length is in a range: the pattern
`^[class]{low,high}$`. -/
def ofCharClass (isMember : Char → Bool) (low high : ℕ) (s : String) : Bool :=
  s.toList.all isMember && low ≤ s.toList.length && s.toList.length ≤ high

/-- The class `[A-Za-z0-9._:-]` of opaque identifiers. -/
def isTokenChar (c : Char) : Bool :=
  c.isAlphanum || c == '.' || c == '_' || c == ':' || c == '-'

end JsString
