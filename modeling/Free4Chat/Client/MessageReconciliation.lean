import Free4Chat.Data.JsValue
import Free4Chat.Data.StableSort
import Mathlib.Data.Prod.Lex

/-!
# Message Reconciliation

A client shows the messages of its Room and those that reached it from another client alone, which
are anchored at the Room messages that their sender had seen. With each state of the Room it keeps
the objects of those messages that it already has.

Ephemeral messages that are anchored at the same place stay in the order in which they came.

* `reconcileCanonicalRoomMessages`: the objects of messages that a client has already.
* `mergeRoomAndEphemeralMessages`: the messages that a client shows.
* `Message.place`: where a message is shown.
* `MergeOrdered` and `ReconcileStable`: what a client shows follows the anchors, and a state of the
  Room that is reconciled again changes nothing.
-/

namespace Free4Chat

/-- A message of a client. -/
structure Message where
  -- Which object it is. Objects are compared by this.
  object : ℕ
  messageId : Option String := none
  createdAt : Option ℤ := none
  sequence : Option ℤ := none
  afterSequence : Option ℤ := none
deriving DecidableEq, Repr

/-- Whether a number is one that a Room gives to a message. -/
def isCanonicalSequence (value : ℤ) : Bool :=
  0 ≤ value && value ≤ JsValue.maxSafeInteger

namespace Message

/-- The id of a message. An empty one is none. -/
def id? (message : Message) : Option String :=
  message.messageId.filter (· ≠ "")

/-- The sequence that the Room gave to a message. -/
def sequence? (message : Message) : Option ℤ :=
  message.sequence.filter isCanonicalSequence

/-- The sequence that the sender of a message had seen. -/
def anchor? (message : Message) : Option ℤ :=
  message.afterSequence.filter isCanonicalSequence

end Message

/-! ## Reconciliation -/

/-- Whether two messages can be the same one of a Room. -/
def hasSameCanonicalIdentity (previous next : Message) : Bool :=
  !(previous.id?.isSome && next.id?.isSome && previous.id? ≠ next.id?) &&
    !(previous.sequence?.isSome && next.sequence?.isSome && previous.sequence? ≠ next.sequence?)

/-- The last of the messages with the id of another one. -/
def previousById (previousMessages : List Message) (message : Message) : Option Message :=
  message.id?.bind fun messageId =>
    (previousMessages.filter fun previous => previous.id? = some messageId).getLast?

/-- The last of the messages with the sequence of another one. -/
def previousBySequence (previousMessages : List Message) (message : Message) : Option Message :=
  message.sequence?.bind fun sequence =>
    (previousMessages.filter fun previous => previous.sequence? = some sequence).getLast?

/-- The object of a message that a client has already, or the new one. -/
def reconcileMessage (previousMessages : List Message) (nextMessage : Message) : Message :=
  match previousById previousMessages nextMessage,
    previousBySequence previousMessages nextMessage with
  | some byId, bySequence =>
    if hasSameCanonicalIdentity byId nextMessage &&
        bySequence.all (fun bySequence => byId.object = bySequence.object) then byId
    else nextMessage
  | none, some bySequence =>
    if hasSameCanonicalIdentity bySequence nextMessage then bySequence else nextMessage
  | none, none => nextMessage

/-- The messages of a Room, where they are the same as before in the same objects. -/
def reconcileCanonicalRoomMessages (previousMessages nextMessages : List Message) : List Message :=
  nextMessages.map (reconcileMessage previousMessages)

/-! ## Merging -/

/-- A message with its index among those to merge. -/
structure MessageEntry where
  message : Message
  index : ℕ
deriving DecidableEq, Repr

/-- The second number where the first one is zero. -/
def firstNonzero (first second : ℤ) : ℤ :=
  if first = 0 then second else first

/-- Compares two messages: by their sequences and anchors, then by their indices. Those with neither
come last, by their times. -/
def compareEntries (left right : MessageEntry) : ℤ :=
  match left.message.sequence?, left.message.anchor?, right.message.sequence?,
    right.message.anchor? with
  | some leftSequence, _, some rightSequence, _ =>
    firstNonzero (leftSequence - rightSequence) (left.index - right.index)
  | some leftSequence, _, none, some rightAnchor => if leftSequence ≤ rightAnchor then -1 else 1
  | none, some leftAnchor, some rightSequence, _ => if rightSequence ≤ leftAnchor then 1 else -1
  | none, some leftAnchor, none, some rightAnchor =>
    firstNonzero (leftAnchor - rightAnchor) (left.index - right.index)
  | some _, _, none, none => -1
  | none, some _, none, none => -1
  | none, none, some _, _ => 1
  | none, none, none, some _ => 1
  | none, none, none, none =>
    firstNonzero (left.message.createdAt.getD 0 - right.message.createdAt.getD 0)
      (left.index - right.index)

/-- The messages with their indices. -/
def messageEntries (messages : List Message) : List MessageEntry :=
  messages.zipIdx.map fun entry => { message := entry.1, index := entry.2 }

/-- The messages of a Room and the ephemeral ones in the order in which they are shown. -/
def mergeRoomAndEphemeralMessages (roomMessages ephemeralMessages : List Message) :
    List Message :=
  ((messageEntries (roomMessages ++ ephemeralMessages)).insertionSort fun left right =>
    compareEntries left right ≤ 0).map (·.message)

/-! ## The Comparator -/

namespace Message

/-- Where a message is shown: a Room message at its sequence, an anchored one right after its
anchor, and any other at its time behind all of them. -/
def place (message : Message) : ℕ ×ₗ ℤ ×ₗ ℕ :=
  match message.sequence?, message.anchor? with
  | some sequence, _ => toLex (0, toLex (sequence, 0))
  | none, some anchor => toLex (0, toLex (anchor, 1))
  | none, none => toLex (1, toLex (message.createdAt.getD 0, 0))

end Message

lemma firstNonzero_swap (a b c d : ℤ) :
    firstNonzero (b - a) (d - c) = -firstNonzero (a - b) (c - d) := by
  rw [firstNonzero, firstNonzero]
  by_cases h : a = b
  · rw [if_pos (by omega), if_pos (by omega)]
    omega
  · rw [if_neg (by omega), if_neg (by omega)]
    omega

lemma firstNonzero_neg_iff (a b c d : ℤ) :
    firstNonzero (a - b) (c - d) < 0 ↔ a < b ∨ a = b ∧ c < d := by
  rw [firstNonzero]
  split <;> omega

lemma compareEntries_swap (left right : MessageEntry) :
    compareEntries right left = -compareEntries left right := by
  rw [compareEntries, compareEntries]
  cases left.message.sequence? <;> cases left.message.anchor? <;>
    cases right.message.sequence? <;> cases right.message.anchor?
  all_goals first
    | exact firstNonzero_swap _ _ _ _
    | grind

variable {left right : MessageEntry}

lemma compareEntries_neg_iff : compareEntries left right < 0 ↔
    left.message.place < right.message.place ∨
      left.message.place = right.message.place ∧ left.index < right.index := by
  rw [compareEntries, Message.place, Message.place]
  cases left.message.sequence? <;> cases left.message.anchor? <;>
    cases right.message.sequence? <;> cases right.message.anchor? <;>
    simp [firstNonzero_neg_iff, Prod.Lex.toLex_lt_toLex]
  all_goals split
  all_goals omega

lemma compareEntries_nonpos_iff : compareEntries left right ≤ 0 ↔
    left.message.place < right.message.place ∨
      left.message.place = right.message.place ∧ left.index ≤ right.index := by
  have hswap : compareEntries left right ≤ 0 ↔ ¬compareEntries right left < 0 := by
    rw [compareEntries_swap left right]
    omega
  rw [hswap, compareEntries_neg_iff, not_or, not_lt, not_and, not_lt, le_iff_lt_or_eq]
  constructor
  · rintro ⟨hlt | heq, hindex⟩
    · exact Or.inl hlt
    · exact Or.inr ⟨heq, hindex heq.symm⟩
  · rintro (hlt | ⟨heq, hindex⟩)
    · exact ⟨Or.inl hlt, fun heq => absurd heq hlt.ne'⟩
    · exact ⟨Or.inr heq, fun _ => hindex⟩

/-- The comparator is a strict total order on messages with different indices. -/
structure EntriesTotallyOrdered : Prop where
  irreflexive : ∀ entry, ¬compareEntries entry entry < 0
  opposite : ∀ left right, compareEntries right left = -compareEntries left right
  transitive : ∀ left middle right, compareEntries left middle < 0 →
    compareEntries middle right < 0 → compareEntries left right < 0
  trichotomous : ∀ left right, left.index ≠ right.index →
    compareEntries left right < 0 ∨ compareEntries right left < 0

lemma entriesTotallyOrdered : EntriesTotallyOrdered where
  irreflexive := fun entry h => by
    rcases compareEntries_neg_iff.mp h with hlt | ⟨-, hlt⟩
    · exact lt_irrefl _ hlt
    · exact lt_irrefl _ hlt
  opposite := compareEntries_swap
  transitive := fun left middle right h h' => by
    rw [compareEntries_neg_iff] at h h' ⊢
    rcases h with hlt | ⟨heq, hindex⟩
    · rcases h' with hlt' | ⟨heq', -⟩
      · exact Or.inl (hlt.trans hlt')
      · exact Or.inl (heq' ▸ hlt)
    · rw [heq]
      exact h'.imp_right fun h' => ⟨h'.1, hindex.trans h'.2⟩
  trichotomous := fun left right hne => by
    rw [compareEntries_neg_iff, compareEntries_neg_iff]
    rcases lt_trichotomy left.message.place right.message.place with hlt | heq | hlt
    · exact Or.inl (Or.inl hlt)
    · rcases lt_or_gt_of_ne hne with hindex | hindex
      · exact Or.inl (Or.inr ⟨heq, hindex⟩)
      · exact Or.inr (Or.inr ⟨heq.symm, hindex⟩)
    · exact Or.inr (Or.inl hlt)

/-- A message is not shown behind another one. -/
abbrev NotAfter (left right : MessageEntry) : Prop :=
  compareEntries left right ≤ 0

/-- Of two messages one is not shown behind the other. -/
instance : Std.Total NotAfter where
  total := fun left right => by
    rw [NotAfter, NotAfter, compareEntries_swap left right]
    omega

/-- A message is not shown behind those that messages before it are not behind. -/
instance : IsTrans MessageEntry NotAfter where
  trans := fun left middle right h h' => by
    rw [NotAfter, compareEntries_nonpos_iff] at h h' ⊢
    rcases h with hlt | ⟨heq, hindex⟩
    · rcases h' with hlt' | ⟨heq', -⟩
      · exact Or.inl (hlt.trans hlt')
      · exact Or.inl (heq' ▸ hlt)
    · rw [heq]
      exact h'.imp_right fun h' => ⟨h'.1, hindex.trans h'.2⟩

/-! ## The Merged Messages -/

variable (roomMessages ephemeralMessages : List Message)

lemma map_messageEntries (messages : List Message) :
    (messageEntries messages).map (·.message) = messages := by
  rw [messageEntries, List.map_map]
  exact List.zipIdx_map_fst 0 messages

lemma increasing_messageEntries (messages : List Message) :
    (messageEntries messages).Pairwise fun left right => left.index < right.index := by
  have hindices : (messageEntries messages).map (·.index) = List.range' 0 messages.length := by
    rw [messageEntries, List.map_map]
    exact List.zipIdx_map_snd 0 messages
  rw [← List.pairwise_map (f := MessageEntry.index) (R := (· < ·)), hindices]
  exact List.pairwise_lt_range'

lemma sorted_mergeRoomAndEphemeralMessages :
    (mergeRoomAndEphemeralMessages roomMessages ephemeralMessages).Pairwise
      fun left right => left.place ≤ right.place := by
  rw [mergeRoomAndEphemeralMessages, List.pairwise_map]
  exact (List.pairwise_insertionSort NotAfter _).imp fun h =>
    (compareEntries_nonpos_iff.mp h).elim le_of_lt fun h => h.1.le

lemma filter_place_mergeRoomAndEphemeralMessages (place : ℕ ×ₗ ℤ ×ₗ ℕ) :
    (mergeRoomAndEphemeralMessages roomMessages ephemeralMessages).filter
        (fun message => message.place = place) =
      (roomMessages ++ ephemeralMessages).filter fun message => message.place = place := by
  have horder : ((messageEntries (roomMessages ++ ephemeralMessages)).filter
      ((fun message => message.place = place) ∘ (·.message))).Pairwise NotAfter := by
    refine ((increasing_messageEntries _).sublist List.filter_sublist).imp_of_mem ?_
    intro left right hleft hright hindex
    have hleft := (List.mem_filter.mp hleft).2
    have hright := (List.mem_filter.mp hright).2
    simp only [Function.comp_apply, decide_eq_true_eq] at hleft hright
    exact compareEntries_nonpos_iff.mpr (Or.inr ⟨hleft.trans hright.symm, hindex.le⟩)
  rw [mergeRoomAndEphemeralMessages, List.filter_map, List.filter_insertionSort horder,
    ← List.filter_map, map_messageEntries]

lemma perm_mergeRoomAndEphemeralMessages :
    (mergeRoomAndEphemeralMessages roomMessages ephemeralMessages).Perm
      (roomMessages ++ ephemeralMessages) := by
  have hperm := (List.perm_insertionSort NotAfter
    (messageEntries (roomMessages ++ ephemeralMessages))).map (·.message)
  rwa [map_messageEntries] at hperm

/-- A message of a Room. -/
def Message.IsCanonical (message : Message) : Prop :=
  message.sequence?.isSome

/-- An ephemeral message that is anchored. -/
structure Message.IsAnchored (message : Message) : Prop where
  sequence_eq : message.sequence? = none
  isSome_anchor : message.anchor?.isSome

instance (message : Message) : Decidable message.IsCanonical :=
  inferInstanceAs (Decidable (message.sequence?.isSome = true))

instance (message : Message) : Decidable message.IsAnchored :=
  decidable_of_iff (message.sequence? = none ∧ message.anchor?.isSome)
    ⟨fun h => ⟨h.1, h.2⟩, fun h => ⟨h.1, h.2⟩⟩

/-- Two messages in the order in which they are shown: a Room message at its sequence, and an
anchored one after the Room messages up to its anchor and before the later ones. -/
structure CausallyPlaced (earlier later : Message) : Prop where
  sequences : ∀ s s', earlier.sequence? = some s → later.sequence? = some s' → s ≤ s'
  upToAnchor : ∀ sequence anchor, earlier.sequence? = some sequence → later.sequence? = none →
    later.anchor? = some anchor → sequence ≤ anchor
  beyondAnchor : ∀ anchor sequence, earlier.sequence? = none → earlier.anchor? = some anchor →
    later.sequence? = some sequence → anchor < sequence

lemma Message.place_of_sequence {message : Message} {sequence : ℤ}
    (h : message.sequence? = some sequence) : message.place = toLex (0, toLex (sequence, 0)) := by
  rw [Message.place, h]

lemma Message.place_of_anchor {message : Message} {anchor : ℤ} (h : message.sequence? = none)
    (h' : message.anchor? = some anchor) : message.place = toLex (0, toLex (anchor, 1)) := by
  rw [Message.place, h, h']

lemma causallyPlaced_of_place_le {earlier later : Message} (h : earlier.place ≤ later.place) :
    CausallyPlaced earlier later where
  sequences := fun s s' hs hs' => by
    rw [Message.place_of_sequence hs, Message.place_of_sequence hs'] at h
    simp only [Prod.Lex.toLex_le_toLex] at h
    omega
  upToAnchor := fun sequence anchor hs hnone hanchor => by
    rw [Message.place_of_sequence hs, Message.place_of_anchor hnone hanchor] at h
    simp only [Prod.Lex.toLex_le_toLex] at h
    omega
  beyondAnchor := fun anchor sequence hnone hanchor hs => by
    rw [Message.place_of_sequence hs, Message.place_of_anchor hnone hanchor] at h
    simp only [Prod.Lex.toLex_le_toLex] at h
    omega

/-- What a client shows are the messages of its Room and the ephemeral ones, in the order of their
anchors. It does not depend on the order in which those came, but for ephemeral messages with the
same anchor. -/
structure MergeOrdered : Prop where
  permutation : (mergeRoomAndEphemeralMessages roomMessages ephemeralMessages).Perm
    (roomMessages ++ ephemeralMessages)
  placed : (mergeRoomAndEphemeralMessages roomMessages ephemeralMessages).Pairwise CausallyPlaced
  independent : ∀ roomMessages' ephemeralMessages', roomMessages.Perm roomMessages' →
    ephemeralMessages.Perm ephemeralMessages' →
    (∀ anchor, ephemeralMessages.filter (fun message => message.anchor? = some anchor) =
      ephemeralMessages'.filter fun message => message.anchor? = some anchor) →
    mergeRoomAndEphemeralMessages roomMessages ephemeralMessages =
      mergeRoomAndEphemeralMessages roomMessages' ephemeralMessages'

variable {roomMessages ephemeralMessages}

lemma nodup_place (hcanonical : ∀ message ∈ roomMessages, message.IsCanonical)
    (hunique : (roomMessages.map Message.sequence?).Nodup) :
    (roomMessages.map Message.place).Nodup := by
  rw [List.Nodup, List.pairwise_map] at hunique ⊢
  refine hunique.imp_of_mem fun hleft hright hne hplace => hne ?_
  obtain ⟨s, hs⟩ := Option.isSome_iff_exists.mp (hcanonical _ hleft)
  obtain ⟨s', hs'⟩ := Option.isSome_iff_exists.mp (hcanonical _ hright)
  rw [Message.place_of_sequence hs, Message.place_of_sequence hs'] at hplace
  rw [hs, hs']
  simpa using hplace

lemma filter_place_of_anchored {messages : List Message}
    (h : ∀ message ∈ messages, message.IsAnchored) (place : ℕ ×ₗ ℤ ×ₗ ℕ) :
    messages.filter (fun message => message.place = place) =
      if (ofLex place).1 = 0 ∧ (ofLex (ofLex place).2).2 = 1 then
        messages.filter fun message => message.anchor? = some (ofLex (ofLex place).2).1
      else [] := by
  split
  next hplace =>
    refine List.filter_congr fun message hmem => ?_
    obtain ⟨anchor, hanchor⟩ := Option.isSome_iff_exists.mp (h message hmem).isSome_anchor
    rw [Message.place_of_anchor (h message hmem).sequence_eq hanchor, hanchor]
    refine decide_eq_decide.mpr ⟨?_, fun heq => ?_⟩
    · rintro rfl
      rfl
    · calc toLex (0, toLex (anchor, 1))
          = toLex ((ofLex place).1, toLex ((ofLex (ofLex place).2).1, (ofLex (ofLex place).2).2)) := by
            rw [Option.some.inj heq, hplace.1, hplace.2]
        _ = place := rfl
  next hplace =>
    refine List.filter_eq_nil_iff.mpr fun message hmem heq => hplace ?_
    obtain ⟨anchor, hanchor⟩ := Option.isSome_iff_exists.mp (h message hmem).isSome_anchor
    rw [Message.place_of_anchor (h message hmem).sequence_eq hanchor] at heq
    rw [← of_decide_eq_true heq]
    exact ⟨rfl, rfl⟩

lemma mergeOrdered (hcanonical : ∀ message ∈ roomMessages, message.IsCanonical)
    (hunique : (roomMessages.map Message.sequence?).Nodup)
    (hanchored : ∀ message ∈ ephemeralMessages, message.IsAnchored) :
    MergeOrdered roomMessages ephemeralMessages where
  permutation := perm_mergeRoomAndEphemeralMessages roomMessages ephemeralMessages
  placed := (sorted_mergeRoomAndEphemeralMessages roomMessages ephemeralMessages).imp
    causallyPlaced_of_place_le
  independent := fun roomMessages' ephemeralMessages' hroom hephemeral hsame => by
    refine List.eq_of_filter_key_eq (sorted_mergeRoomAndEphemeralMessages _ _)
      (sorted_mergeRoomAndEphemeralMessages _ _) fun place => ?_
    have hanchored' : ∀ message ∈ ephemeralMessages', message.IsAnchored :=
      fun message hmem => hanchored message (hephemeral.mem_iff.mpr hmem)
    rw [filter_place_mergeRoomAndEphemeralMessages, filter_place_mergeRoomAndEphemeralMessages,
      List.filter_append, List.filter_append,
      List.filter_key_eq_of_perm hroom (nodup_place hcanonical hunique) place,
      filter_place_of_anchored hanchored, filter_place_of_anchored hanchored', hsame]

/-! ## The Reconciled Messages -/

variable {previousMessages nextMessages : List Message} {message found : Message}

lemma sequence_eq_of_hasSameCanonicalIdentity (h : hasSameCanonicalIdentity found message = true)
    (hfound : found.IsCanonical) (hmessage : message.IsCanonical) :
    found.sequence? = message.sequence? := by
  rw [Message.IsCanonical] at hfound hmessage
  rw [hasSameCanonicalIdentity, Bool.and_eq_true, hfound, hmessage] at h
  simpa using h.2

lemma hasSameCanonicalIdentity_self (message : Message) :
    hasSameCanonicalIdentity message message = true := by
  simp [hasSameCanonicalIdentity]

lemma previousById_eq_some (h : previousById previousMessages message = some found) :
    found ∈ previousMessages ∧ found.id? = message.id? ∧ found.id?.isSome := by
  obtain ⟨messageId, hid, hlast⟩ := Option.bind_eq_some_iff.mp h
  have hmem := List.mem_filter.mp (List.mem_of_getLast? hlast)
  have hfound : found.id? = some messageId := of_decide_eq_true hmem.2
  rw [hfound, hid]
  exact ⟨hmem.1, rfl, rfl⟩

lemma previousById_ne_none (hfound : found ∈ previousMessages) (hid : found.id? = message.id?)
    (hsome : found.id?.isSome) : previousById previousMessages message ≠ none := by
  obtain ⟨messageId, hmessageId⟩ := Option.isSome_iff_exists.mp hsome
  rw [previousById, ← hid, hmessageId, Option.bind_some, ne_eq, List.getLast?_eq_none_iff]
  exact List.ne_nil_of_mem (List.mem_filter.mpr ⟨hfound, decide_eq_true hmessageId⟩)

lemma mem_of_previousBySequence (h : previousBySequence previousMessages message = some found) :
    found ∈ previousMessages := by
  obtain ⟨sequence, -, hlast⟩ := Option.bind_eq_some_iff.mp h
  exact (List.mem_filter.mp (List.mem_of_getLast? hlast)).1

lemma reconcileMessage_cases (previousMessages : List Message) (message : Message) :
    reconcileMessage previousMessages message = message ∨
      ∃ found ∈ previousMessages, reconcileMessage previousMessages message = found ∧
        hasSameCanonicalIdentity found message = true ∧
        (previousById previousMessages message = some found ∨
          previousById previousMessages message = none) := by
  rw [reconcileMessage]
  split
  next _ byId hbyId =>
    split
    next hsame =>
      rw [Bool.and_eq_true] at hsame
      exact Or.inr ⟨byId, (previousById_eq_some hbyId).1, rfl, hsame.1, Or.inl hbyId⟩
    next => exact Or.inl rfl
  next _ _ bySequence hbyId hbySequence =>
    split
    next hsame =>
      exact Or.inr ⟨bySequence, mem_of_previousBySequence hbySequence, rfl, hsame, Or.inr hbyId⟩
    next => exact Or.inl rfl
  next => exact Or.inl rfl

lemma hasSameCanonicalIdentity_reconcileMessage (previousMessages : List Message)
    (message : Message) :
    hasSameCanonicalIdentity (reconcileMessage previousMessages message) message = true := by
  rcases reconcileMessage_cases previousMessages message with hself | ⟨found, -, hfound, hsame, -⟩
  · rw [hself]
    exact hasSameCanonicalIdentity_self message
  · rw [hfound]
    exact hsame

section Canonical

variable (hcanonical : ∀ previous ∈ previousMessages, previous.IsCanonical)

include hcanonical

lemma sequence?_reconcileMessage (hmessage : message.IsCanonical) :
    (reconcileMessage previousMessages message).sequence? = message.sequence? := by
  rcases reconcileMessage_cases previousMessages message with hself | ⟨found, hmem, hfound, hsame, -⟩
  · rw [hself]
  · rw [hfound]
    exact sequence_eq_of_hasSameCanonicalIdentity hsame (hcanonical found hmem) hmessage

lemma map_sequence?_reconcile (hnext : ∀ next ∈ nextMessages, next.IsCanonical) :
    (reconcileCanonicalRoomMessages previousMessages nextMessages).map Message.sequence? =
      nextMessages.map Message.sequence? := by
  rw [reconcileCanonicalRoomMessages, List.map_map]
  exact List.map_congr_left fun next hmem => sequence?_reconcileMessage hcanonical (hnext next hmem)

variable (hunique : (previousMessages.map Message.sequence?).Nodup)

include hunique

lemma previousBySequence_eq_some (hfound : found ∈ previousMessages)
    (hsequence : found.sequence? = message.sequence?) :
    previousBySequence previousMessages message = some found := by
  obtain ⟨sequence, hs⟩ := Option.isSome_iff_exists.mp (hcanonical found hfound)
  rw [previousBySequence, ← hsequence, hs, Option.bind_some]
  cases hlast : (previousMessages.filter fun previous =>
      previous.sequence? = some sequence).getLast? with
  | none =>
    rw [List.getLast?_eq_none_iff, List.filter_eq_nil_iff] at hlast
    exact absurd (decide_eq_true hs) (hlast found hfound)
  | some last =>
    have hmem := List.mem_filter.mp (List.mem_of_getLast? hlast)
    have hlast : last.sequence? = some sequence := of_decide_eq_true hmem.2
    rw [List.inj_on_of_nodup_map hunique hmem.1 hfound (hlast.trans hs.symm)]

lemma reconcileMessage_of_mem (hfound : found ∈ previousMessages) :
    reconcileMessage previousMessages found = found := by
  rcases reconcileMessage_cases previousMessages found with hself | ⟨other, hmem, hother, hsame, -⟩
  · exact hself
  · -- What takes its place has its sequence, which is that of no other one.
    rw [hother]
    exact List.inj_on_of_nodup_map hunique hmem hfound (sequence_eq_of_hasSameCanonicalIdentity
      hsame (hcanonical other hmem) (hcanonical found hfound))

lemma reconcileMessage_reconcileMessage (message : Message) :
    reconcileMessage previousMessages (reconcileMessage previousMessages message) =
      reconcileMessage previousMessages message := by
  rcases reconcileMessage_cases previousMessages message with hself | ⟨found, hmem, hfound, -⟩
  · rw [hself, hself]
  · rw [hfound]
    exact reconcileMessage_of_mem hcanonical hunique hmem

end Canonical

/-- No two messages have the same id. -/
def DistinctIds (messages : List Message) : Prop :=
  ∀ message ∈ messages, ∀ other ∈ messages, message.id?.isSome → message.id? = other.id? →
    message = other

/-- A state of the Room keeps its messages and their sequences when it is reconciled. What comes out
of it stays as it is, also when the same state comes again. -/
structure ReconcileStable (previousMessages nextMessages : List Message) : Prop where
  sequences : (reconcileCanonicalRoomMessages previousMessages nextMessages).map Message.sequence? =
    nextMessages.map Message.sequence?
  idempotent : reconcileCanonicalRoomMessages previousMessages
      (reconcileCanonicalRoomMessages previousMessages nextMessages) =
    reconcileCanonicalRoomMessages previousMessages nextMessages
  unchanged : reconcileCanonicalRoomMessages nextMessages nextMessages = nextMessages
  repeated : DistinctIds previousMessages → DistinctIds nextMessages →
    reconcileCanonicalRoomMessages (reconcileCanonicalRoomMessages previousMessages nextMessages)
      nextMessages = reconcileCanonicalRoomMessages previousMessages nextMessages

section Stable

variable (hprevious : ∀ previous ∈ previousMessages, previous.IsCanonical)
  (hnext : ∀ next ∈ nextMessages, next.IsCanonical)
  (hnextUnique : (nextMessages.map Message.sequence?).Nodup)

include hprevious hnext hnextUnique

lemma reconcileMessage_again (hpreviousIds : DistinctIds previousMessages)
    (hnextIds : DistinctIds nextMessages) (hmessage : message ∈ nextMessages) :
    reconcileMessage (reconcileCanonicalRoomMessages previousMessages nextMessages) message =
      reconcileMessage previousMessages message := by
  have hcanonical : ∀ object ∈ reconcileCanonicalRoomMessages previousMessages nextMessages,
      object.IsCanonical := by
    intro object hobject
    obtain ⟨other, hother, rfl⟩ := List.mem_map.mp hobject
    rw [Message.IsCanonical, sequence?_reconcileMessage hprevious (hnext other hother)]
    exact hnext other hother
  have hunique : ((reconcileCanonicalRoomMessages previousMessages nextMessages).map
      Message.sequence?).Nodup := by
    rw [map_sequence?_reconcile hprevious hnext]
    exact hnextUnique
  have hbySequence := previousBySequence_eq_some hcanonical hunique (List.mem_map_of_mem hmessage)
    (sequence?_reconcileMessage hprevious (hnext message hmessage))
  have hsame := hasSameCanonicalIdentity_reconcileMessage previousMessages message
  rw [reconcileMessage, hbySequence]
  cases hbyId : previousById (reconcileCanonicalRoomMessages previousMessages nextMessages)
      message with
  | none => exact if_pos hsame
  | some found =>
    obtain ⟨hfound, hid, hsome⟩ := previousById_eq_some hbyId
    by_cases heq : found = reconcileMessage previousMessages message
    · rw [heq]
      exact if_pos (by rw [hsame, Option.all_some, decide_eq_true rfl, Bool.and_self])
    · -- Another message has the id, at another sequence, so that the message was kept.
      have hdiffers : hasSameCanonicalIdentity found message ≠ true := fun hsame' =>
        heq (List.inj_on_of_nodup_map hunique hfound (List.mem_map_of_mem hmessage)
          ((sequence_eq_of_hasSameCanonicalIdentity hsame' (hcanonical found hfound)
            (hnext message hmessage)).trans
              (sequence?_reconcileMessage hprevious (hnext message hmessage)).symm))
      have hkept : reconcileMessage previousMessages message = message := by
        rcases reconcileMessage_cases previousMessages message with
          hself | ⟨kept, hkept, hkeptEq, -, hlookup⟩
        · exact hself
        · exfalso
          obtain ⟨other, hother, rfl⟩ := List.mem_map.mp hfound
          rcases reconcileMessage_cases previousMessages other with
            hself | ⟨moved, hmoved, hmovedEq, -⟩
          · rw [hself] at hid hsome heq
            have hsameMessage := hnextIds other hother message hmessage hsome hid
            rw [hsameMessage] at hself heq
            exact heq hself.symm
          · rw [hmovedEq] at hid hsome heq
            rcases hlookup with hlookup | hlookup
            · have hkeptId := (previousById_eq_some hlookup).2.1
              exact heq ((hpreviousIds moved hmoved kept hkept hsome
                (hid.trans hkeptId.symm)).trans hkeptEq.symm)
            · exact previousById_ne_none hmoved hid hsome hlookup
      rw [hkept]
      exact if_neg (by simp [hdiffers])

lemma reconcileStable (hpreviousUnique : (previousMessages.map Message.sequence?).Nodup) :
    ReconcileStable previousMessages nextMessages where
  sequences := map_sequence?_reconcile hprevious hnext
  idempotent := by
    rw [reconcileCanonicalRoomMessages, reconcileCanonicalRoomMessages, List.map_map]
    exact List.map_congr_left fun message _ =>
      reconcileMessage_reconcileMessage hprevious hpreviousUnique message
  unchanged := by
    rw [reconcileCanonicalRoomMessages]
    exact List.map_congr_left (fun message hmem =>
      reconcileMessage_of_mem hnext hnextUnique hmem) |>.trans (List.map_id _)
  repeated := fun hpreviousIds hnextIds =>
    List.map_congr_left fun _ hmessage => reconcileMessage_again hprevious hnext hnextUnique
      hpreviousIds hnextIds hmessage

end Stable

/-! ## What a Client Shows -/

/-- What a client shows is ordered by a strict total order that follows the anchors, and a state of
the Room that is reconciled is stable. -/
structure MessagesReconciled (previousMessages roomMessages ephemeralMessages : List Message) :
    Prop where
  comparator : EntriesTotallyOrdered
  merged : MergeOrdered roomMessages ephemeralMessages
  reconciled : ReconcileStable previousMessages roomMessages

/-- What a client shows follows the anchors, and a state of the Room that is reconciled is
stable. -/
theorem messagesReconciled {previousMessages roomMessages ephemeralMessages : List Message}
    (hprevious : ∀ previous ∈ previousMessages, previous.IsCanonical)
    (hpreviousUnique : (previousMessages.map Message.sequence?).Nodup)
    (hcanonical : ∀ message ∈ roomMessages, message.IsCanonical)
    (hunique : (roomMessages.map Message.sequence?).Nodup)
    (hanchored : ∀ message ∈ ephemeralMessages, message.IsAnchored) :
    MessagesReconciled previousMessages roomMessages ephemeralMessages where
  comparator := entriesTotallyOrdered
  merged := mergeOrdered hcanonical hunique hanchored
  reconciled := reconcileStable hprevious hcanonical hunique hpreviousUnique

/-- Two Room messages, one of which the client has already, and a file that was sent in between. -/
theorem messagesReconciled_file : MessagesReconciled
    [{ object := 0, messageId := some "first", sequence := some 1 }]
    [{ object := 1, messageId := some "first", sequence := some 1 },
      { object := 2, messageId := some "second", sequence := some 2 }]
    [{ object := 3, messageId := some "file", afterSequence := some 1 }] :=
  messagesReconciled (by decide) (by decide) (by decide) (by decide) (by decide)

/-- Two files that were sent after the same message are shown in the order in which they came. -/
theorem merge_ne_merge_swapped :
    ∃ ephemeralMessages ephemeralMessages' : List Message,
      (∀ message ∈ ephemeralMessages, message.IsAnchored) ∧
        ephemeralMessages.Perm ephemeralMessages' ∧
        mergeRoomAndEphemeralMessages [] ephemeralMessages ≠
          mergeRoomAndEphemeralMessages [] ephemeralMessages' :=
  ⟨[{ object := 0, afterSequence := some 1 }, { object := 1, afterSequence := some 1 }],
    [{ object := 1, afterSequence := some 1 }, { object := 0, afterSequence := some 1 }],
    by decide, by decide, by decide⟩

end Free4Chat
