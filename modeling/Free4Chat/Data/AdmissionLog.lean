import Free4Chat.Data.OrderedSet

/-!
# Admission Logs

A group whose membership is decided by a log: one entry founds the group, and later entries
invite guests, either on nobody's word or on the word of a sponsor who must be a member already.

* `GroupEvent`: what one log entry does to the group.
* `membersAfter`: the members, computed by a fold over the log.
* `Admitted`: the least set of admissions closed under founding, inviting and sponsoring.
* `isMember_membersAfter_take_iff`: the fold computes the least set, at every point of the log.
-/

universe u

/-- What one entry of a log does to the group. -/
inductive GroupEvent (α : Type u) where
  -- The entry founds the group, unless it exists.
  | found (founders : List α)
  -- The entry invites guests. With a sponsor, the sponsor must be a member.
  | invite (sponsor : Option α) (guests : List α)
  -- The entry does not concern the membership.
  | pass

namespace GroupEvent

variable {α : Type u} [DecidableEq α]

/-- The members after one more entry, `none` while the group does not exist. -/
def step (members : Option (OrderedSet α)) (event : GroupEvent α) : Option (OrderedSet α) :=
  match members, event with
  | none, .found founders => some (OrderedSet.empty.addAll founders)
  | none, _ => none
  | some s, .found _ => some s
  | some s, .invite none guests => some (s.addAll guests)
  | some s, .invite (some sponsor) guests =>
    if sponsor ∈ s then some (s.addAll guests) else some s
  | some s, .pass => some s

/-- The members after a log. -/
def membersAfter (events : List (GroupEvent α)) : Option (OrderedSet α) :=
  events.foldl step none

lemma membersAfter_concat (events : List (GroupEvent α)) (event : GroupEvent α) :
    membersAfter (events ++ [event]) = step (membersAfter events) event := by
  simp [membersAfter]

omit [DecidableEq α] in
/-- Membership in a group that may not exist yet. -/
def IsMember (members : Option (OrderedSet α)) (a : α) : Prop :=
  ∃ s, members = some s ∧ a ∈ s

omit [DecidableEq α] in
@[simp]
lemma not_isMember_none (a : α) : ¬ IsMember none a := by
  simp [IsMember]

omit [DecidableEq α] in
@[simp]
lemma isMember_some (s : OrderedSet α) (a : α) : IsMember (some s) a ↔ a ∈ s := by
  simp [IsMember]

omit [DecidableEq α] in
/-- Whom one entry admits, given the members before it and whether the group exists. -/
def Admits (isMember : α → Prop) (founded : Prop) (event : GroupEvent α) (a : α) : Prop :=
  match event with
  | .found founders => ¬ founded ∧ a ∈ founders
  | .invite none guests => founded ∧ a ∈ guests
  | .invite (some sponsor) guests => isMember sponsor ∧ a ∈ guests
  | .pass => False

lemma isMember_step (members : Option (OrderedSet α)) (event : GroupEvent α) (a : α) :
    IsMember (step members event) a ↔
      IsMember members a ∨ Admits (IsMember members) members.isSome event a := by
  cases members with
  | none =>
    cases event with
    | found founders | pass => simp [step, Admits]
    | invite sponsor guests => cases sponsor <;> simp [step, Admits]
  | some s =>
    cases event with
    | found founders | pass => simp [step, Admits]
    | invite sponsor guests =>
      cases sponsor with
      | none => simp [step, Admits]
      | some sponsor => by_cases hs : sponsor ∈ s <;> simp [step, Admits, hs]

lemma isSome_step (members : Option (OrderedSet α)) (event : GroupEvent α) :
    (step members event).isSome ↔
      members.isSome ∨ ∃ founders, event = .found founders := by
  cases members with
  | none => cases event <;> simp [step]
  | some s =>
    cases event with
    | found founders | pass => simp [step]
    | invite sponsor guests =>
      cases sponsor with
      | none => simp [step]
      | some sponsor => by_cases hs : sponsor ∈ s <;> simp [step, hs]

/-! ## The least set of admissions -/

section Admissions

omit [DecidableEq α]

/-- The group has been founded before position `n` of the log. -/
def FoundedBefore (events : List (GroupEvent α)) (n : ℕ) : Prop :=
  ∃ i < n, ∃ founders, events[i]? = some (.found founders)

/-- The admissions of a log: who is admitted, and at which position of the log. -/
inductive Admitted (events : List (GroupEvent α)) : ℕ → α → Prop
  -- The entry that founds the group admits the founders.
  | founder {i : ℕ} {founders : List α} {a : α} (hat : events[i]? = some (.found founders))
      (hfirst : ¬ FoundedBefore events i) (ha : a ∈ founders) : Admitted events i a
  -- An invitation on nobody's word admits its guests.
  | guest {i : ℕ} {guests : List α} {a : α} (hat : events[i]? = some (.invite none guests))
      (hfounded : FoundedBefore events i) (ha : a ∈ guests) : Admitted events i a
  -- An invitation on the word of an earlier member admits its guests.
  | sponsored {i j : ℕ} {sponsor : α} {guests : List α} {a : α}
      (hat : events[i]? = some (.invite (some sponsor) guests))
      (hsponsor : Admitted events j sponsor) (hlt : j < i) (ha : a ∈ guests) :
      Admitted events i a

lemma FoundedBefore.mono {events : List (GroupEvent α)} {m n : ℕ} (hle : m ≤ n)
    (h : FoundedBefore events m) : FoundedBefore events n := by
  obtain ⟨i, hi, hfound⟩ := h
  exact ⟨i, by omega, hfound⟩

lemma foundedBefore_succ_iff (events : List (GroupEvent α)) (n : ℕ) : FoundedBefore events (n + 1) ↔
      FoundedBefore events n ∨ ∃ founders, events[n]? = some (.found founders) := by
  constructor
  · rintro ⟨i, hi, hfound⟩
    rcases Nat.lt_succ_iff_lt_or_eq.mp hi with hlt | rfl
    · exact Or.inl ⟨i, hlt, hfound⟩
    · exact Or.inr hfound
  · rintro (h | hfound)
    · exact h.mono (Nat.le_succ n)
    · exact ⟨n, Nat.lt_succ_self n, hfound⟩

lemma Admitted.foundedBefore {events : List (GroupEvent α)} {n : ℕ} {a : α}
    (h : Admitted events n a) : FoundedBefore events (n + 1) := by
  induction h with
  | founder hat hfirst ha => exact ⟨_, Nat.lt_succ_self _, _, hat⟩
  | guest hat hfounded ha => exact hfounded.mono (Nat.le_succ _)
  | sponsored hat hsponsor hlt ha ih => exact ih.mono (by omega)

lemma admitted_iff (events : List (GroupEvent α)) (n : ℕ) (a : α) :
    Admitted events n a ↔ ∃ event, events[n]? = some event ∧
      Admits (fun b => ∃ j < n, Admitted events j b) (FoundedBefore events n) event a := by
  constructor
  · rintro (⟨hat, hfirst, ha⟩ | ⟨hat, hfounded, ha⟩ | ⟨hat, hsponsor, hlt, ha⟩)
    · exact ⟨_, hat, hfirst, ha⟩
    · exact ⟨_, hat, hfounded, ha⟩
    · exact ⟨_, hat, ⟨_, hlt, hsponsor⟩, ha⟩
  · rintro ⟨event, hat, hadmits⟩
    match event with
    | .found founders => exact .founder hat hadmits.1 hadmits.2
    | .invite none guests => exact .guest hat hadmits.1 hadmits.2
    | .invite (some sponsor) guests =>
      obtain ⟨⟨j, hlt, hsponsor⟩, ha⟩ := hadmits
      exact .sponsored hat hsponsor hlt ha

end Admissions

/-! ## The fold computes the least set -/

lemma isSome_membersAfter_take (events : List (GroupEvent α)) (n : ℕ) :
    (membersAfter (events.take n)).isSome ↔ FoundedBefore events n := by
  induction n with
  | zero => simp [membersAfter, FoundedBefore]
  | succ n ih =>
    rw [foundedBefore_succ_iff, ← ih]
    by_cases hn : n < events.length
    · rw [List.take_succ_eq_append_getElem hn, membersAfter_concat, isSome_step,
        List.getElem?_eq_getElem hn]
      simp
    · rw [List.take_of_length_le (by omega), List.take_of_length_le (by omega),
        List.getElem?_eq_none (by omega)]
      simp

lemma isMember_membersAfter_take_iff (events : List (GroupEvent α)) (n : ℕ) (a : α) :
    IsMember (membersAfter (events.take n)) a ↔ ∃ i < n, Admitted events i a := by
  induction n generalizing a with
  | zero => simp [membersAfter]
  | succ n ih =>
    -- An admission within `n + 1` entries is one within `n`, or one at position `n` itself.
    have hsplit : (∃ i < n + 1, Admitted events i a) ↔
        (∃ i < n, Admitted events i a) ∨ Admitted events n a := by
      constructor
      · rintro ⟨i, hi, hadmitted⟩
        rcases Nat.lt_succ_iff_lt_or_eq.mp hi with hi | rfl
        · exact Or.inl ⟨i, hi, hadmitted⟩
        · exact Or.inr hadmitted
      · rintro (⟨i, hi, hadmitted⟩ | hadmitted)
        · exact ⟨i, Nat.lt_succ_of_lt hi, hadmitted⟩
        · exact ⟨n, Nat.lt_succ_self n, hadmitted⟩
    rw [hsplit, ← ih, admitted_iff]
    by_cases hn : n < events.length
    · have hfounded := propext (isSome_membersAfter_take events n)
      have hmembers : IsMember (membersAfter (events.take n)) =
          fun b => ∃ j < n, Admitted events j b := funext fun b => propext (ih b)
      rw [List.take_succ_eq_append_getElem hn, membersAfter_concat, isMember_step, hfounded,
        List.getElem?_eq_getElem hn, hmembers]
      simp
    · rw [List.take_of_length_le (by omega), List.take_of_length_le (by omega),
        List.getElem?_eq_none (by omega)]
      simp

end GroupEvent
