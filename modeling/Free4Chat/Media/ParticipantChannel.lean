import Free4Chat.Data.JsValue

/-!
# Labels of Participant Channels

The label of the reliable channel between an Agent and a Human. It begins with the length of the
id of the Agent, since ids may hold what separates them.

* `participantDirectReliableChannelName`: the label of a pair, as the Room makes it.
* `isParticipantDirectReliableChannelForAgent`: whether a text is a label of an Agent.
* `AgentRuntime.participantDirectReliableChannelName`: the label as the Runtime makes it.
* `participantChannel_addressesPair`: a label addresses one pair, on both sides.
-/

namespace Free4Chat

open JsString (utf16Units utf16Length ofCharClass)

/-! ## The Room -/

/-- The class `[A-Za-z0-9_-]` of the ids of participants. -/
def isParticipantIdChar (c : Char) : Bool :=
  c.isAlphanum || c == '_' || c == '-'

/-- Ids of participants: `^[A-Za-z0-9_-]{1,128}$`. -/
def validParticipantId (value : String) : Bool :=
  ofCharClass isParticipantIdChar 1 128 value

/-- What all labels begin with. -/
def participantChannelStem : String := "participant-direct-reliable-"

/-- What the labels of an Agent begin with. -/
def participantChannelPrefix (agentParticipantId : String) : String :=
  participantChannelStem ++ Nat.repr (utf16Length agentParticipantId) ++ "-" ++
    agentParticipantId ++ "-"

/-- The label of a pair, unless it has none. -/
def participantDirectReliableChannelName (agentParticipantId humanParticipantId : String) :
    Option String :=
  if !validParticipantId agentParticipantId || !validParticipantId humanParticipantId ||
      agentParticipantId = humanParticipantId then none
  else some (participantChannelPrefix agentParticipantId ++ humanParticipantId)

/-- A list without its first code units. A character that is cut in two is dropped. -/
def dropUnits : ℕ → List Char → List Char
  | _, [] => []
  | n, c :: cs => if n = 0 then c :: cs else dropUnits (n - utf16Units c) cs

/-- Whether a text is a label of an Agent. -/
def isParticipantDirectReliableChannelForAgent (name agentParticipantId : String) : Bool :=
  let start := participantChannelPrefix agentParticipantId
  let humanParticipantId := String.ofList (dropUnits (utf16Length start) name.toList)
  validParticipantId agentParticipantId && start.toList.isPrefixOf name.toList &&
    validParticipantId humanParticipantId && humanParticipantId ≠ agentParticipantId &&
    participantDirectReliableChannelName agentParticipantId humanParticipantId = some name

/-! ## The Runtime -/

namespace AgentRuntime

/-- The length of a string in bytes. -/
def byteLength (value : String) : ℕ := (value.toList.map Char.utf8Size).sum

/-- Ids of participants, as the Runtime checks them. -/
def participantIDForDirectChannel (value : String) : Bool :=
  if byteLength value = 0 || 128 < byteLength value then false
  else value.toList.all fun char =>
    !((char < 'A' || 'Z' < char) && (char < 'a' || 'z' < char) && (char < '0' || '9' < char) &&
      char != '_' && char != '-')

/-- The label of a pair, or the empty string. -/
def participantDirectReliableChannelName (agentParticipantID humanParticipantID : String) :
    String :=
  if !participantIDForDirectChannel agentParticipantID ||
      !participantIDForDirectChannel humanParticipantID ||
      agentParticipantID = humanParticipantID then ""
  else
    participantChannelStem ++ Nat.repr (byteLength agentParticipantID) ++ "-" ++
      agentParticipantID ++ "-" ++ humanParticipantID

end AgentRuntime

/-! ## Ids -/

lemma isParticipantIdChar_iff {c : Char} : isParticipantIdChar c = true ↔
    ((('A'.val ≤ c.val ∧ c.val ≤ 'Z'.val ∨ 'a'.val ≤ c.val ∧ c.val ≤ 'z'.val) ∨
      '0'.val ≤ c.val ∧ c.val ≤ '9'.val) ∨ c = '_') ∨ c = '-' := by
  have hchar : isParticipantIdChar c = (((decide (c.val ≥ 'A'.val ∧ c.val ≤ 'Z'.val) ||
      (decide (c.val ≥ 'a'.val) && decide (c.val ≤ 'z'.val))) ||
        (decide (c.val ≥ '0'.val) && decide (c.val ≤ '9'.val))) || c == '_' || c == '-') := rfl
  simp only [hchar, Bool.or_eq_true, Bool.and_eq_true, decide_eq_true_eq, beq_iff_eq, ge_iff_le]

lemma toNat_of_idChar {c : Char} (hc : isParticipantIdChar c = true) : c.toNat < 128 := by
  rcases isParticipantIdChar_iff.mp hc with (((hupper | hlower) | hdigit) | rfl) | rfl
  · exact Nat.lt_of_le_of_lt (UInt32.le_iff_toNat_le.mp hupper.2) (by decide)
  · exact Nat.lt_of_le_of_lt (UInt32.le_iff_toNat_le.mp hlower.2) (by decide)
  · exact Nat.lt_of_le_of_lt (UInt32.le_iff_toNat_le.mp hdigit.2) (by decide)
  · decide
  · decide

lemma length_of_idChars {l : List Char} (h : ∀ c ∈ l, isParticipantIdChar c = true) :
    (l.map utf16Units).sum = l.length ∧ (l.map Char.utf8Size).sum = l.length := by
  induction l with
  | nil => exact ⟨rfl, rfl⟩
  | cons c l ih =>
    obtain ⟨hunits, hbytes⟩ := ih fun d hd => h d (List.mem_cons_of_mem c hd)
    have hascii := toNat_of_idChar (h c List.mem_cons_self)
    have hunit : utf16Units c = 1 := by rw [utf16Units, if_pos (by omega)]
    have hbyte : c.utf8Size = 1 := by
      rw [Char.utf8Size, if_pos]
      refine UInt32.le_iff_toNat_le.mpr ?_
      show c.toNat ≤ 127
      omega
    rw [List.map_cons, List.map_cons, List.sum_cons, List.sum_cons, hunits, hbytes, hunit, hbyte,
      List.length_cons]
    omega

lemma isParticipantIdChar_eq (char : Char) : isParticipantIdChar char =
    !((char < 'A' || 'Z' < char) && (char < 'a' || 'z' < char) && (char < '0' || '9' < char) &&
      char != '_' && char != '-') := by
  rw [Bool.eq_iff_iff, isParticipantIdChar_iff]
  simp only [Bool.not_eq_true', Bool.and_eq_false_iff, Bool.or_eq_false_iff,
    decide_eq_false_iff_not, bne_eq_false_iff_eq, Char.lt_def, UInt32.not_lt]

lemma validParticipantId_iff {value : String} : validParticipantId value = true ↔
    (∀ c ∈ value.toList, isParticipantIdChar c = true) ∧ 1 ≤ value.toList.length ∧
      value.toList.length ≤ 128 := by
  rw [validParticipantId, ofCharClass, Bool.and_eq_true, Bool.and_eq_true, List.all_eq_true,
    decide_eq_true_eq, decide_eq_true_eq, and_assoc]

lemma participantIDForDirectChannel_eq (value : String) :
    AgentRuntime.participantIDForDirectChannel value = validParticipantId value := by
  rw [Bool.eq_iff_iff, validParticipantId_iff, AgentRuntime.participantIDForDirectChannel,
    AgentRuntime.byteLength]
  simp only [← isParticipantIdChar_eq]
  constructor
  · intro h
    split_ifs at h with hlength
    have hall := List.all_eq_true.mp h
    rw [(length_of_idChars hall).2] at hlength
    simp only [Bool.or_eq_true, decide_eq_true_eq] at hlength
    exact ⟨hall, by omega, by omega⟩
  · rintro ⟨hall, hmin, hmax⟩
    rw [(length_of_idChars hall).2, if_neg]
    · exact List.all_eq_true.mpr hall
    · simp only [Bool.or_eq_true, decide_eq_true_eq]
      omega

/-! ## Labels -/

lemma toList_participantChannelPrefix {agent : String} (h : validParticipantId agent = true) :
    (participantChannelPrefix agent).toList = participantChannelStem.toList ++
      (Nat.toDigits 10 agent.toList.length ++ '-' :: (agent.toList ++ ['-'])) := by
  obtain ⟨hall, -, -⟩ := validParticipantId_iff.mp h
  have hdash : "-".toList = ['-'] := rfl
  rw [participantChannelPrefix, utf16Length, (length_of_idChars hall).1]
  simp only [String.toList_append, Nat.toList_repr, List.append_assoc, hdash, List.cons_append,
    List.nil_append]

lemma participantDirectReliableChannelName_eq_some {agent human label : String} :
    participantDirectReliableChannelName agent human = some label ↔
      validParticipantId agent = true ∧ validParticipantId human = true ∧ human ≠ agent ∧
        label = participantChannelPrefix agent ++ human := by
  rw [participantDirectReliableChannelName, Option.ite_none_left_eq_some]
  simp only [Bool.or_eq_true, Bool.not_eq_true', decide_eq_true_eq, not_or, Bool.not_eq_false,
    Option.some.injEq, and_assoc, ne_eq]
  rw [@eq_comm _ agent human, @eq_comm _ label]

lemma toDigits_append_inj {m n : ℕ} {s t : List Char}
    (h : Nat.toDigits 10 m ++ '-' :: s = Nat.toDigits 10 n ++ '-' :: t) : m = n ∧ s = t := by
  have hdigits : ∀ k r, (Nat.toDigits 10 k ++ '-' :: r).takeWhile Char.isDigit =
      Nat.toDigits 10 k := by
    intro k r
    have hall : ∀ c ∈ Nat.toDigits 10 k, Char.isDigit c = true := fun c hc =>
      Nat.isDigit_of_mem_toDigits (by omega) (by omega) hc
    rw [List.takeWhile_append_of_pos hall, List.takeWhile_cons, if_neg (by decide),
      List.append_nil]
  have hsame : Nat.toDigits 10 m = Nat.toDigits 10 n := by
    rw [← hdigits m s, h, hdigits n t]
  rw [hsame] at h
  refine ⟨?_, (List.cons.inj (List.append_cancel_left h)).2⟩
  rw [← @Nat.ofDigitChars_toDigits 10 m (by omega) (by omega), hsame,
    Nat.ofDigitChars_toDigits (by omega) (by omega)]

lemma participantChannelPrefix_append_inj {agent agent' : String} {s t : List Char}
    (hagent : validParticipantId agent = true) (hagent' : validParticipantId agent' = true)
    (h : (participantChannelPrefix agent).toList ++ s =
      (participantChannelPrefix agent').toList ++ t) : agent = agent' ∧ s = t := by
  rw [toList_participantChannelPrefix hagent, toList_participantChannelPrefix hagent'] at h
  simp only [List.append_assoc, List.cons_append, List.nil_append] at h
  obtain ⟨hlength, hrest⟩ := toDigits_append_inj (List.append_cancel_left h)
  obtain ⟨hids, htail⟩ := List.append_inj hrest hlength
  exact ⟨String.toList_inj.mp hids, (List.cons.inj htail).2⟩

lemma dropUnits_append (s t : List Char) : dropUnits (s.map utf16Units).sum (s ++ t) = t := by
  have hzero : ∀ l : List Char, dropUnits 0 l = l := fun l => by
    cases l with
    | nil => rfl
    | cons c l => rw [dropUnits, if_pos rfl]
  induction s with
  | nil => exact hzero t
  | cons c s ih =>
    have hunits : utf16Units c ≠ 0 := by
      rw [utf16Units]
      split_ifs <;> omega
    rw [List.map_cons, List.sum_cons, List.cons_append, dropUnits, if_neg (by omega),
      Nat.add_sub_cancel_left, ih]

lemma isParticipantDirectReliableChannelForAgent_iff {name agent : String} :
    isParticipantDirectReliableChannelForAgent name agent = true ↔ ∃ human,
      validParticipantId human = true ∧ human ≠ agent ∧
        participantDirectReliableChannelName agent human = some name := by
  rw [isParticipantDirectReliableChannelForAgent]
  simp only [Bool.and_eq_true, decide_eq_true_eq, ne_eq, decide_not, Bool.not_eq_true']
  constructor
  · rintro ⟨⟨⟨-, hhuman⟩, hne⟩, hname⟩
    exact ⟨_, hhuman, of_decide_eq_false hne, hname⟩
  · rintro ⟨human, hhuman, hne, hname⟩
    obtain ⟨hagent, -, -, rfl⟩ := participantDirectReliableChannelName_eq_some.mp hname
    have hrest : String.ofList (dropUnits (utf16Length (participantChannelPrefix agent))
        (participantChannelPrefix agent ++ human).toList) = human := by
      rw [String.toList_append, utf16Length, dropUnits_append, String.ofList_toList]
    rw [hrest]
    refine ⟨⟨⟨⟨hagent, ?_⟩, hhuman⟩, decide_eq_false hne⟩, hname⟩
    rw [String.toList_append]
    exact List.isPrefixOf_iff_prefix.mpr (List.prefix_append _ _)

lemma participantDirectReliableChannelName_runtime (agent human : String) :
    AgentRuntime.participantDirectReliableChannelName agent human =
      (participantDirectReliableChannelName agent human).getD "" := by
  rw [AgentRuntime.participantDirectReliableChannelName, participantDirectReliableChannelName,
    participantIDForDirectChannel_eq, participantIDForDirectChannel_eq]
  split_ifs with hnone
  · rfl
  · simp only [Bool.or_eq_true, Bool.not_eq_true', not_or, Bool.not_eq_false] at hnone
    obtain ⟨hall, -, -⟩ := validParticipantId_iff.mp hnone.1.1
    rw [Option.getD_some, participantChannelPrefix, utf16Length, (length_of_idChars hall).1,
      AgentRuntime.byteLength, (length_of_idChars hall).2]

/-- A label addresses one pair of an Agent and a Human, and both sides make the same labels. -/
theorem participantChannel_addressesPair :
    (∀ agent human agent' human' label,
      participantDirectReliableChannelName agent human = some label →
      participantDirectReliableChannelName agent' human' = some label →
        agent = agent' ∧ human = human') ∧
    (∀ name agent, isParticipantDirectReliableChannelForAgent name agent = true ↔ ∃ human,
      validParticipantId human = true ∧ human ≠ agent ∧
        participantDirectReliableChannelName agent human = some name) ∧
    (∀ name agent agent', isParticipantDirectReliableChannelForAgent name agent = true →
      isParticipantDirectReliableChannelForAgent name agent' = true → agent = agent') ∧
    ∀ agent human, AgentRuntime.participantDirectReliableChannelName agent human =
        (participantDirectReliableChannelName agent human).getD "" ∧
      participantDirectReliableChannelName agent human ≠ some "" := by
  have hinj : ∀ agent human agent' human' label,
      participantDirectReliableChannelName agent human = some label →
      participantDirectReliableChannelName agent' human' = some label →
        agent = agent' ∧ human = human' := by
    intro agent human agent' human' label h h'
    obtain ⟨hagent, -, -, rfl⟩ := participantDirectReliableChannelName_eq_some.mp h
    obtain ⟨hagent', -, -, hlabel⟩ := participantDirectReliableChannelName_eq_some.mp h'
    have hlists := congrArg String.toList hlabel
    rw [String.toList_append, String.toList_append] at hlists
    obtain ⟨hsame, hhumans⟩ := participantChannelPrefix_append_inj hagent hagent' hlists
    exact ⟨hsame, String.toList_inj.mp hhumans⟩
  refine ⟨hinj, fun _ _ => isParticipantDirectReliableChannelForAgent_iff, ?_, fun agent human =>
    ⟨participantDirectReliableChannelName_runtime agent human, fun hempty => ?_⟩⟩
  · intro name agent agent' h h'
    obtain ⟨human, -, -, hname⟩ := isParticipantDirectReliableChannelForAgent_iff.mp h
    obtain ⟨human', -, -, hname'⟩ := isParticipantDirectReliableChannelForAgent_iff.mp h'
    exact (hinj agent human agent' human' name hname hname').1
  · obtain ⟨hagent, -, -, hlabel⟩ := participantDirectReliableChannelName_eq_some.mp hempty
    have hlist := congrArg String.toList hlabel
    rw [String.toList_append, toList_participantChannelPrefix hagent] at hlist
    cases hlist

end Free4Chat
