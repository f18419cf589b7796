import Mathlib.Data.List.Nodup

/-!
# Insertion-Ordered Maps Keyed by Their Values

Finite maps in insertion order whose values carry their own key, such as a table of records
indexed by the record's identifier. At most one value is stored per key, and this is a field
of the structure, so no operation can build a map with two values for one key.

* `Keyed`: a type of values with a projection to a key.
* `KeyedMap`: lists of values with pairwise distinct keys.
* `KeyedMap.get?`, `KeyedMap.set`, `KeyedMap.erase`, `KeyedMap.filter`
  and `KeyedMap.modify`: the usual map operations.
* `KeyedMap.get?_set`, `KeyedMap.get?_erase`, `KeyedMap.get?_filter`
  and `KeyedMap.get?_modify`: each operation described by its lookups.
-/

universe u v

/-- A type of values that carry their own key. -/
class Keyed (V : Type u) (K : outParam (Type v)) where
  -- The key under which a value is stored.
  key : V → K

/-- Pairs are keyed by their first component. -/
instance {K : Type v} {V : Type u} : Keyed (K × V) K where
  key := Prod.fst

@[simp]
lemma Keyed.key_pair {K : Type v} {V : Type u} (pair : K × V) : Keyed.key pair = pair.1 := rfl

/-- Finite maps in insertion order, with at most one value for each key. -/
structure KeyedMap (V : Type u) {K : Type v} [Keyed V K] where
  -- The stored values, oldest first.
  values : List V
  -- No two stored values share a key.
  nodup : (values.map Keyed.key).Nodup

namespace KeyedMap

variable {K : Type v} {V : Type u} [Keyed V K]

@[ext]
lemma ext {m₁ m₂ : KeyedMap V} (h : m₁.values = m₂.values) : m₁ = m₂ := by
  cases m₁
  cases m₂
  simp_all

instance [DecidableEq V] : DecidableEq (KeyedMap V) := fun m₁ m₂ =>
  decidable_of_iff (m₁.values = m₂.values) ⟨ext, fun h => h ▸ rfl⟩

/-- The map without values. -/
def empty : KeyedMap V :=
  ⟨[], List.nodup_nil⟩

instance : Inhabited (KeyedMap V) := ⟨empty⟩

/-- Number of stored values. -/
def size (m : KeyedMap V) : ℕ := m.values.length

/-- The keys of the stored values, oldest first. -/
def keys (m : KeyedMap V) : List K := m.values.map Keyed.key

lemma eq_of_key_eq (m : KeyedMap V) {v w : V} (hv : v ∈ m.values) (hw : w ∈ m.values)
    (hkey : Keyed.key v = Keyed.key w) : v = w :=
  List.inj_on_of_nodup_map m.nodup hv hw hkey

variable [DecidableEq K]

/-- The value stored under a key, if there is one. -/
def get? (m : KeyedMap V) (k : K) : Option V :=
  m.values.find? fun v => Keyed.key v = k

/-- Whether a value is stored under a key. -/
def contains (m : KeyedMap V) (k : K) : Bool :=
  (m.get? k).isSome

variable {m : KeyedMap V} {k : K}

lemma mem_of_get? {v : V} (h : m.get? k = some v) : v ∈ m.values :=
  List.mem_of_find?_eq_some h

lemma key_of_get? {v : V} (h : m.get? k = some v) : Keyed.key v = k := by
  simpa using List.find?_some h

lemma get?_eq_some_iff {v : V} : m.get? k = some v ↔ v ∈ m.values ∧ Keyed.key v = k := by
  constructor
  · exact fun h => ⟨mem_of_get? h, key_of_get? h⟩
  · rintro ⟨hmem, rfl⟩
    have hsome : (m.get? (Keyed.key v)).isSome := by
      rw [get?, List.find?_isSome]
      exact ⟨v, hmem, by simp⟩
    obtain ⟨w, hw⟩ := Option.isSome_iff_exists.mp hsome
    rw [hw, m.eq_of_key_eq (mem_of_get? hw) hmem (key_of_get? hw)]

lemma get?_key {v : V} (h : v ∈ m.values) : m.get? (Keyed.key v) = some v :=
  get?_eq_some_iff.mpr ⟨h, rfl⟩

lemma get?_eq_none_iff : m.get? k = none ↔ ∀ v ∈ m.values, Keyed.key v ≠ k := by
  simp [get?]

@[simp]
lemma get?_empty (k : K) : (empty : KeyedMap V).get? k = none := rfl

lemma contains_iff : m.contains k = true ↔ ∃ v, m.get? k = some v :=
  Option.isSome_iff_exists

/-- The map with a value stored under its key: a value already stored under that key is replaced
in place, and otherwise the value becomes the newest one. -/
def set (m : KeyedMap V) (v : V) : KeyedMap V :=
  if h : ∃ w ∈ m.values, Keyed.key w = Keyed.key v then
    ⟨m.values.map fun w => if Keyed.key w = Keyed.key v then v else w, by
      have hkeys : (m.values.map fun w => if Keyed.key w = Keyed.key v then v else w).map
          Keyed.key = m.values.map Keyed.key := by
        rw [List.map_map]
        refine List.map_congr_left fun w _ => ?_
        by_cases hw : Keyed.key w = Keyed.key v <;> simp [hw]
      rw [hkeys]
      exact m.nodup⟩
  else
    ⟨m.values ++ [v], by
      rw [List.map_append, List.map_singleton]
      refine List.Nodup.append m.nodup (List.nodup_singleton _) ?_
      rw [List.disjoint_singleton]
      simpa using h⟩

lemma mem_set {v w : V} :
    w ∈ (m.set v).values ↔ w = v ∨ (w ∈ m.values ∧ Keyed.key w ≠ Keyed.key v) := by
  unfold set
  split
  · rename_i h
    obtain ⟨x, hx, hkey⟩ := h
    simp only [List.mem_map]
    constructor
    · rintro ⟨y, hy, rfl⟩
      by_cases hyv : Keyed.key y = Keyed.key v
      · simp [hyv]
      · simp [hyv, hy]
    · rintro (rfl | ⟨hw, hne⟩)
      · exact ⟨x, hx, by simp [hkey]⟩
      · exact ⟨w, hw, by simp [hne]⟩
  · rename_i h
    push Not at h
    simp only [List.mem_append, List.mem_singleton]
    constructor
    · rintro (hw | rfl)
      · exact Or.inr ⟨hw, h w hw⟩
      · exact Or.inl rfl
    · rintro (rfl | ⟨hw, -⟩)
      · exact Or.inr rfl
      · exact Or.inl hw

lemma get?_set (m : KeyedMap V) (v : V) (k : K) :
    (m.set v).get? k = if Keyed.key v = k then some v else m.get? k := by
  split
  · rename_i h
    exact get?_eq_some_iff.mpr ⟨mem_set.mpr (Or.inl rfl), h⟩
  · rename_i h
    refine Option.ext fun w => ?_
    rw [get?_eq_some_iff, get?_eq_some_iff, mem_set]
    constructor
    · rintro ⟨rfl | ⟨hw, -⟩, hkey⟩
      · exact absurd hkey h
      · exact ⟨hw, hkey⟩
    · rintro ⟨hw, rfl⟩
      exact ⟨Or.inr ⟨hw, fun hkey => h hkey.symm⟩, rfl⟩

@[simp]
lemma get?_set_self (m : KeyedMap V) (v : V) : (m.set v).get? (Keyed.key v) = some v := by
  simp [get?_set]

lemma get?_set_of_ne (m : KeyedMap V) {v : V} (h : Keyed.key v ≠ k) :
    (m.set v).get? k = m.get? k := by
  simp [get?_set, h]

/-- The values satisfying a predicate. -/
def filter (m : KeyedMap V) (p : V → Bool) : KeyedMap V :=
  ⟨m.values.filter p, m.nodup.sublist (List.Sublist.map _ List.filter_sublist)⟩

omit [DecidableEq K] in
@[simp]
lemma values_filter (m : KeyedMap V) (p : V → Bool) : (m.filter p).values = m.values.filter p := rfl

lemma get?_filter (m : KeyedMap V) (p : V → Bool) (k : K) :
    (m.filter p).get? k = (m.get? k).filter p := by
  refine Option.ext fun v => ?_
  rw [get?_eq_some_iff, Option.filter_eq_some_iff, get?_eq_some_iff, values_filter,
    List.mem_filter]
  tauto

/-- The map without the value stored under a key. -/
def erase (m : KeyedMap V) (k : K) : KeyedMap V :=
  m.filter fun v => Keyed.key v ≠ k

lemma mem_erase {v : V} : v ∈ (m.erase k).values ↔ v ∈ m.values ∧ Keyed.key v ≠ k := by
  simp [erase]

lemma get?_erase (m : KeyedMap V) (k l : K) :
    (m.erase k).get? l = if k = l then none else m.get? l := by
  rw [erase, get?_filter]
  cases hget : m.get? l with
  | none => simp
  | some v => by_cases h : k = l <;> simp [Option.filter, key_of_get? hget, h, eq_comm]

omit [DecidableEq K] in
/-- Transform every stored value, keeping its key. -/
def map (m : KeyedMap V) (f : V → V) (hf : ∀ v, Keyed.key (f v) = Keyed.key v) : KeyedMap V :=
  ⟨m.values.map f, by
    have hkeys : (m.values.map f).map Keyed.key = m.values.map Keyed.key := by
      rw [List.map_map]
      exact List.map_congr_left fun v _ => hf v
    rw [hkeys]
    exact m.nodup⟩

omit [DecidableEq K] in
@[simp]
lemma values_map (m : KeyedMap V) (f : V → V) (hf : ∀ v, Keyed.key (f v) = Keyed.key v) :
    (m.map f hf).values = m.values.map f := rfl

lemma get?_map (m : KeyedMap V) (f : V → V) (hf : ∀ v, Keyed.key (f v) = Keyed.key v)
    (k : K) : (m.map f hf).get? k = (m.get? k).map f := by
  refine Option.ext fun w => ?_
  rw [get?_eq_some_iff, Option.map_eq_some_iff, values_map, List.mem_map]
  constructor
  · rintro ⟨⟨v, hv, rfl⟩, hkey⟩
    exact ⟨v, get?_eq_some_iff.mpr ⟨hv, (hf v).symm.trans hkey⟩, rfl⟩
  · rintro ⟨v, hv, rfl⟩
    exact ⟨⟨v, mem_of_get? hv, rfl⟩, (hf v).trans (key_of_get? hv)⟩

/-- Transform the value stored under one key, if there is one. -/
def modify (m : KeyedMap V) (k : K) (f : V → V) (hf : ∀ v, Keyed.key (f v) = Keyed.key v) :
    KeyedMap V :=
  m.map (fun v => if Keyed.key v = k then f v else v) fun v => by
    by_cases h : Keyed.key v = k
    · simp [h, (hf v).trans h]
    · simp [h]

lemma mem_modify {m : KeyedMap V} {k : K} {f : V → V}
    {hf : ∀ v, Keyed.key (f v) = Keyed.key v} {w : V} : w ∈ (m.modify k f hf).values ↔
      (∃ v ∈ m.values, Keyed.key v = k ∧ f v = w) ∨ (w ∈ m.values ∧ Keyed.key w ≠ k) := by
  rw [modify, values_map, List.mem_map]
  constructor
  · rintro ⟨v, hv, rfl⟩
    by_cases h : Keyed.key v = k
    · exact Or.inl ⟨v, hv, h, by simp [h]⟩
    · exact Or.inr (by simp [h, hv])
  · rintro (⟨v, hv, hk, rfl⟩ | ⟨hw, hk⟩)
    · exact ⟨v, hv, by simp [hk]⟩
    · exact ⟨w, hw, by simp [hk]⟩

lemma get?_modify (m : KeyedMap V) (k : K) (f : V → V)
    (hf : ∀ v, Keyed.key (f v) = Keyed.key v) (l : K) :
    (m.modify k f hf).get? l = if k = l then (m.get? l).map f else m.get? l := by
  rw [modify, get?_map]
  cases hget : m.get? l with
  | none => simp
  | some v =>
    have hkey := key_of_get? hget
    by_cases h : k = l
    · simp [h, hkey]
    · simp [h, hkey, Ne.symm h]

lemma map_set_eq {v : V} {f : V → V} {hf : ∀ v, Keyed.key (f v) = Keyed.key v}
    {w : V} (hget : m.get? (Keyed.key v) = some w) (hview : f v = f w) :
    (m.set v).map f hf = m.map f hf := by
  have hmem := mem_of_get? hget
  have hkey := key_of_get? hget
  refine ext ?_
  rw [set, dif_pos ⟨w, hmem, hkey⟩, values_map, values_map, List.map_map]
  refine List.map_congr_left fun x hx => ?_
  by_cases hxv : Keyed.key x = Keyed.key v
  · have hxw := m.eq_of_key_eq hx hmem (hxv.trans hkey.symm)
    simp only [Function.comp_apply, hxw, if_pos hkey]
    exact hview
  · simp only [Function.comp_apply, if_neg hxv]

lemma map_modify_eq {f g : V → V}
    {hf : ∀ v, Keyed.key (f v) = Keyed.key v} {hg : ∀ v, Keyed.key (g v) = Keyed.key v}
    (hview : ∀ v, m.get? k = some v → f (g v) = f v) : (m.modify k g hg).map f hf = m.map f hf := by
  refine ext ?_
  rw [modify, values_map, values_map, values_map, List.map_map]
  refine List.map_congr_left fun x hx => ?_
  by_cases hxk : Keyed.key x = k
  · rw [Function.comp_apply, if_pos hxk]
    exact hview x (get?_eq_some_iff.mpr ⟨hx, hxk⟩)
  · rw [Function.comp_apply, if_neg hxk]

lemma modify_eq_self {f : V → V}
    (hf : ∀ v, Keyed.key (f v) = Keyed.key v) (h : ∀ v, m.get? k = some v → f v = v) :
    m.modify k f hf = m := by
  refine ext ?_
  rw [modify, values_map]
  refine (List.map_congr_left fun x hx => ?_).trans (List.map_id _)
  by_cases hxk : Keyed.key x = k
  · rw [if_pos hxk]
    exact h x (get?_eq_some_iff.mpr ⟨hx, hxk⟩)
  · rw [if_neg hxk]
    rfl

/-! ## Keys -/

lemma mem_keys_iff : k ∈ m.keys ↔ (m.get? k).isSome = true := by
  constructor
  · intro hk
    obtain ⟨v, hv, rfl⟩ := List.mem_map.mp hk
    rw [get?_key hv]
    rfl
  · intro hsome
    obtain ⟨v, hv⟩ := Option.isSome_iff_exists.mp hsome
    exact List.mem_map.mpr ⟨v, mem_of_get? hv, key_of_get? hv⟩

lemma get?_eq_none_of_notMem (h : k ∉ m.keys) : m.get? k = none := by
  rw [mem_keys_iff] at h
  simpa using h

lemma keys_set (m : KeyedMap V) (v : V) :
    (m.set v).keys = if Keyed.key v ∈ m.keys then m.keys else m.keys ++ [Keyed.key v] := by
  have hmem : Keyed.key v ∈ m.keys ↔ ∃ w ∈ m.values, Keyed.key w = Keyed.key v := by
    simp [keys]
  by_cases h : ∃ w ∈ m.values, Keyed.key w = Keyed.key v
  · rw [if_pos (hmem.mpr h), set, dif_pos h, keys, List.map_map]
    refine List.map_congr_left fun w _ => ?_
    by_cases hw : Keyed.key w = Keyed.key v <;> simp [hw]
  · rw [if_neg (hmem.not.mpr h), set, dif_neg h]
    simp [keys]

lemma values_set_of_notMem {v : V} (h : Keyed.key v ∉ m.keys) :
    (m.set v).values = m.values ++ [v] := by
  have hnot : ¬∃ w ∈ m.values, Keyed.key w = Keyed.key v := by simpa [keys] using h
  rw [set, dif_neg hnot]

@[simp]
lemma keys_modify (m : KeyedMap V) (k : K) (f : V → V)
    (hf : ∀ v, Keyed.key (f v) = Keyed.key v) : (m.modify k f hf).keys = m.keys := by
  rw [keys, modify, values_map, List.map_map]
  refine List.map_congr_left fun v _ => ?_
  by_cases hv : Keyed.key v = k
  · simp [hv, (hf v).trans hv]
  · simp [hv]

lemma mem_keys_set {v : V} : k ∈ (m.set v).keys ↔ k = Keyed.key v ∨ k ∈ m.keys := by
  rw [keys_set]
  split
  next h =>
    constructor
    · exact Or.inr
    · rintro (rfl | hk)
      · exact h
      · exact hk
  next h => rw [List.mem_append, List.mem_singleton, or_comm]

omit [DecidableEq K] in
lemma mem_keys_filter {p : V → Bool} {q : K → Bool} (hp : ∀ v, p v = q (Keyed.key v)) :
    k ∈ (m.filter p).keys ↔ k ∈ m.keys ∧ q k = true := by
  rw [keys, keys, values_filter, List.mem_map, List.mem_map]
  constructor
  · rintro ⟨v, hv, rfl⟩
    obtain ⟨hmem, htrue⟩ := List.mem_filter.mp hv
    exact ⟨⟨v, hmem, rfl⟩, hp v ▸ htrue⟩
  · rintro ⟨⟨v, hv, rfl⟩, htrue⟩
    exact ⟨v, List.mem_filter.mpr ⟨hv, (hp v).trans htrue⟩, rfl⟩

lemma mem_keys_erase {k l : K} : l ∈ (m.erase k).keys ↔ l ∈ m.keys ∧ l ≠ k := by
  rw [erase, mem_keys_filter (q := fun l => decide (l ≠ k)) fun v => rfl, decide_eq_true_iff]

lemma get?_eq_of_subset {m m' : KeyedMap V} (hsubset : m'.values ⊆ m.values)
    (hk : k ∈ m'.keys) : m'.get? k = m.get? k := by
  obtain ⟨v, hv, rfl⟩ := List.mem_map.mp hk
  rw [get?_key hv, get?_key (hsubset hv)]

omit [DecidableEq K] in
lemma length_keys (m : KeyedMap V) : m.keys.length = m.size :=
  List.length_map _

lemma size_set_le (m : KeyedMap V) (v : V) : (m.set v).size ≤ m.size + 1 := by
  rw [← length_keys, ← length_keys, keys_set]
  split
  · exact Nat.le_succ _
  · exact Nat.le_of_eq (by rw [List.length_append, List.length_singleton])

lemma size_erase_le (m : KeyedMap V) (k : K) : (m.erase k).size ≤ m.size := by
  rw [size, size, erase, values_filter]
  exact List.length_filter_le _ _

end KeyedMap
