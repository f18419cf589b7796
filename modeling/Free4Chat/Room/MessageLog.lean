import Free4Chat.Operation.Upload

/-!
# The Message Log

The retained messages of a Room are the newest part of everything that was ever appended, up to
the bounding of targets that a load does. What an operation does to the log is to append some
messages and to evict from the oldest end.

* `RoomMessage.untargeted`: a message up to its targets.
* `WellLogged`: the invariant of the log.
* `LogExtends`: what an operation does to the log.
* `LogExtends.wellLogged`: every such operation keeps the invariant.
-/

namespace Free4Chat

/-- A message up to its targets. -/
def RoomMessage.untargeted (message : RoomMessage) : RoomMessage :=
  { message with targets := none }

/-- The retained messages are the newest part of the history, numbered in increasing order. -/
structure WellLogged (room : RoomRecord) : Prop where
  increasing : (room.history.map (·.sequence)).Pairwise (· < ·)
  numbered : ∀ message ∈ room.history,
    0 < message.sequence ∧ message.sequence ≤ room.nextMessageSequence
  retained : room.messages.map RoomMessage.untargeted <:+
    room.history.map RoomMessage.untargeted
  bounded : room.messages.length ≤ MAX_MESSAGES

/-- The second record's log is the first one's with messages appended and others evicted. -/
structure LogExtends (room room' : RoomRecord) (added : List RoomMessage) : Prop where
  history : room'.history = room.history ++ added
  retained : room'.messages.map RoomMessage.untargeted <:+
    (room.messages ++ added).map RoomMessage.untargeted
  increasing : (added.map (·.sequence)).Pairwise (· < ·)
  numbered : ∀ message ∈ added, room.nextMessageSequence < message.sequence ∧
    message.sequence ≤ room'.nextMessageSequence
  next_le : room.nextMessageSequence ≤ room'.nextMessageSequence
  bounded : room.messages.length ≤ MAX_MESSAGES → room'.messages.length ≤ MAX_MESSAGES

namespace LogExtends

variable {room room' room'' : RoomRecord} {added added' : List RoomMessage}

lemma of_eq (hmessages : room'.messages = room.messages) (hhistory : room'.history = room.history)
    (hnext : room'.nextMessageSequence = room.nextMessageSequence) : LogExtends room room' [] := by
  refine ⟨by simp [hhistory], by simp [hmessages], List.Pairwise.nil, by simp, hnext.ge, ?_⟩
  rw [hmessages]
  exact id

lemma refl (room : RoomRecord) : LogExtends room room [] := of_eq rfl rfl rfl

section

variable (h : LogExtends room room' added)
include h

lemma trans (h' : LogExtends room' room'' added') : LogExtends room room'' (added ++ added') := by
  refine ⟨?_, ?_, ?_, ?_, h.next_le.trans h'.next_le, h'.bounded ∘ h.bounded⟩
  · rw [h'.history, h.history, List.append_assoc]
  · refine h'.retained.trans ?_
    rw [List.map_append, ← List.append_assoc, List.map_append]
    exact (List.suffix_append_inj_of_length_eq rfl).mpr ⟨h.retained, rfl⟩
  · rw [List.map_append, List.pairwise_append]
    refine ⟨h.increasing, h'.increasing, ?_⟩
    intro s hs s' hs'
    obtain ⟨m, hm, rfl⟩ := List.mem_map.mp hs
    obtain ⟨m', hm', rfl⟩ := List.mem_map.mp hs'
    exact (h.numbered m hm).2.trans_lt (h'.numbered m' hm').1
  · intro m hm
    rcases List.mem_append.mp hm with hm | hm
    · exact ⟨(h.numbered m hm).1, (h.numbered m hm).2.trans h'.next_le⟩
    · exact ⟨h.next_le.trans_lt (h'.numbered m hm).1, (h'.numbered m hm).2⟩

lemma trans_nil (h' : LogExtends room' room'' []) : LogExtends room room'' added := by
  simpa using h.trans h'

lemma wellLogged (hwell : WellLogged room) : WellLogged room' := by
  refine ⟨?_, ?_, ?_, h.bounded hwell.bounded⟩
  · rw [h.history, List.map_append, List.pairwise_append]
    refine ⟨hwell.increasing, h.increasing, ?_⟩
    intro s hs s' hs'
    obtain ⟨m, hm, rfl⟩ := List.mem_map.mp hs
    obtain ⟨m', hm', rfl⟩ := List.mem_map.mp hs'
    exact (hwell.numbered m hm).2.trans_lt (h.numbered m' hm').1
  · intro m hm
    rw [h.history] at hm
    rcases List.mem_append.mp hm with hm | hm
    · exact ⟨(hwell.numbered m hm).1, (hwell.numbered m hm).2.trans h.next_le⟩
    · exact ⟨Nat.zero_lt_of_lt (h.numbered m hm).1, (h.numbered m hm).2⟩
  · refine h.retained.trans ?_
    rw [h.history, List.map_append, List.map_append]
    exact (List.suffix_append_inj_of_length_eq rfl).mpr ⟨hwell.retained, rfl⟩

end

end LogExtends

/-! ## Appending and evicting -/

lemma dropOldestUntil_suffix (fits : List RoomMessage → Bool) (messages : List RoomMessage) :
    RoomRecord.dropOldestUntil fits messages <:+ messages := by
  induction messages with
  | nil => exact List.suffix_rfl
  | cons message messages ih =>
    cases messages with
    | nil => exact List.suffix_rfl
    | cons next messages =>
      rw [RoomRecord.dropOldestUntil]
      split
      · exact List.suffix_cons _ _
      · exact ih.trans (List.suffix_cons _ _)

lemma getLast?_dropOldestUntil (fits : List RoomMessage → Bool) (messages : List RoomMessage) :
    (RoomRecord.dropOldestUntil fits messages).getLast? = messages.getLast? := by
  induction messages with
  | nil => rfl
  | cons message messages ih =>
    cases messages with
    | nil => rfl
    | cons next messages =>
      rw [RoomRecord.dropOldestUntil, List.getLast?_cons_cons]
      split
      · rfl
      · exact ih

namespace RoomRecord

variable (env : RoomEnv)

lemma getLast?_trimRoomMessagesToBudget (room : RoomRecord) :
    (room.trimRoomMessagesToBudget env).messages.getLast? = room.messages.getLast? := by
  unfold trimRoomMessagesToBudget
  split
  · rfl
  · exact getLast?_dropOldestUntil _ _

lemma getLast?_saveRoom {room saved : RoomRecord} (h : room.saveRoom env = some saved) :
    saved.messages.getLast? = room.messages.getLast? := by
  unfold saveRoom at h
  dsimp only at h
  split at h
  · obtain rfl := Option.some.inj h
    exact room.getLast?_trimRoomMessagesToBudget env
  · cases h

lemma getLast?_appendMessage (room : RoomRecord) (message : RoomMessage) :
    (room.appendMessage env message).messages.getLast? =
      some { message with sequence := room.nextMessageSequence + 1 } := by
  unfold appendMessage
  rw [getLast?_trimRoomMessagesToBudget]
  dsimp only
  have hbound : 0 < MAX_MESSAGES := by decide
  rw [List.getLast?_drop, List.length_append, List.length_singleton, if_neg (by omega),
    List.getLast?_concat]

lemma trimRoomMessagesToBudget_eq (room : RoomRecord) : ∃ messages, messages <:+ room.messages ∧
      room.trimRoomMessagesToBudget env = { room with messages } := by
  unfold trimRoomMessagesToBudget
  split
  · exact ⟨room.messages, List.suffix_rfl, rfl⟩
  · exact ⟨_, dropOldestUntil_suffix _ _, rfl⟩

lemma logExtends_evict (room : RoomRecord) {messages : List RoomMessage}
    (hsuffix : messages <:+ room.messages) : LogExtends room { room with messages } [] := by
  refine ⟨by simp, by simpa using hsuffix.map _, List.Pairwise.nil, by simp, le_rfl, ?_⟩
  exact fun hbound => hsuffix.length_le.trans hbound

lemma saveRoom_eq_some {room saved : RoomRecord} (h : room.saveRoom env = some saved) :
    ∃ messages, messages <:+ room.messages ∧ saved = { room with messages } := by
  unfold saveRoom at h
  dsimp only at h
  split at h
  · obtain ⟨messages, hsuffix, heq⟩ := room.trimRoomMessagesToBudget_eq env
    exact ⟨messages, hsuffix, by rw [← heq]; exact (Option.some.inj h).symm⟩
  · exact absurd h (by simp)

lemma logExtends_saveRoom {room saved : RoomRecord} (h : room.saveRoom env = some saved) :
    LogExtends room saved [] := by
  obtain ⟨messages, hsuffix, rfl⟩ := saveRoom_eq_some env h
  exact room.logExtends_evict hsuffix

lemma appendMessage_eq (room : RoomRecord) (message : RoomMessage) :
    ∃ messages, messages <:+ room.messages ++
        [{ message with sequence := room.nextMessageSequence + 1 }] ∧
      messages.length ≤ MAX_MESSAGES ∧
      room.appendMessage env message =
        { room with
          messages
          nextMessageSequence := room.nextMessageSequence + 1
          history := room.history ++
            [{ message with sequence := room.nextMessageSequence + 1 }] } := by
  obtain ⟨messages, hsuffix, heq⟩ := trimRoomMessagesToBudget_eq env
    { room with
      nextMessageSequence := room.nextMessageSequence + 1
      messages := (room.messages ++
        [{ message with sequence := room.nextMessageSequence + 1 }]).drop
          ((room.messages ++
            [{ message with sequence := room.nextMessageSequence + 1 }]).length - MAX_MESSAGES)
      history := room.history ++ [{ message with sequence := room.nextMessageSequence + 1 }] }
  refine ⟨messages, hsuffix.trans (List.drop_suffix _ _), ?_, heq⟩
  refine hsuffix.length_le.trans ?_
  simp only [List.length_drop]
  omega

lemma logExtends_appendMessage (room : RoomRecord) (message : RoomMessage) :
    LogExtends room (room.appendMessage env message)
      [{ message with sequence := room.nextMessageSequence + 1 }] := by
  obtain ⟨messages, hsuffix, hlength, heq⟩ := room.appendMessage_eq env message
  rw [heq]
  exact ⟨rfl, hsuffix.map _, List.pairwise_singleton _ _, by simp, Nat.le_succ _,
    fun _ => hlength⟩

end RoomRecord

/-! ## Loading -/

lemma untargeted_normalizeMessage (nextMessageSequence : ℕ) {message : RoomMessage}
    (hpos : 0 < message.sequence) :
    (normalizeMessage nextMessageSequence message).untargeted = message.untargeted := by
  simp [normalizeMessage, RoomMessage.untargeted, hpos]

lemma normalizeMessages_of_numbered (nextMessageSequence : ℕ) (messages : List RoomMessage)
    (hnumbered : ∀ message ∈ messages,
      0 < message.sequence ∧ message.sequence ≤ nextMessageSequence) :
    (normalizeMessages nextMessageSequence messages).1.map RoomMessage.untargeted =
        messages.map RoomMessage.untargeted ∧
      (normalizeMessages nextMessageSequence messages).2 = nextMessageSequence := by
  induction messages with
  | nil => exact ⟨rfl, rfl⟩
  | cons message messages ih =>
    obtain ⟨hpos, hle⟩ := hnumbered message List.mem_cons_self
    have hsequence : (normalizeMessage nextMessageSequence message).sequence =
        message.sequence := by simp [normalizeMessage, hpos]
    obtain ⟨hmap, hnext⟩ := ih fun m hm => hnumbered m (List.mem_cons_of_mem _ hm)
    simp only [normalizeMessages, hsequence, Nat.max_eq_left hle, List.map_cons, hmap,
      untargeted_normalizeMessage _ hpos, hnext, and_self]

lemma WellLogged.numbered_messages {room : RoomRecord} (h : WellLogged room) :
    ∀ message ∈ room.messages,
      0 < message.sequence ∧ message.sequence ≤ room.nextMessageSequence := by
  intro message hmem
  have huntargeted : message.untargeted ∈ room.history.map RoomMessage.untargeted :=
    h.retained.subset (List.mem_map_of_mem hmem)
  obtain ⟨original, horiginal, heq⟩ := List.mem_map.mp huntargeted
  have hsequence : original.sequence = message.sequence := by
    simpa [RoomMessage.untargeted] using congrArg RoomMessage.sequence heq
  rw [← hsequence]
  exact h.numbered original horiginal

lemma logExtends_normalizeRoom (env : RoomEnv) {room : RoomRecord} (h : WellLogged room) :
    LogExtends room (normalizeRoom env room) [] := by
  obtain ⟨hmap, hnext⟩ := normalizeMessages_of_numbered _ _ h.numbered_messages
  refine ⟨by simp [normalizeRoom], ?_, List.Pairwise.nil, by simp, hnext.ge, ?_⟩
  · simp [normalizeRoom, hmap]
  · intro hbound
    have hlength := congrArg List.length hmap
    simp only [List.length_map] at hlength
    exact hlength.trans_le hbound

lemma loadRoom_eq_some {env : RoomEnv} {stored room stored' : RoomRecord}
    (h : loadRoom env stored = some (room, stored')) :
    (∃ messages, messages <:+ (normalizeRoom env stored).messages ∧
        room = { normalizeRoom env stored with messages }) ∧
      (stored' = stored ∨ stored' = room) := by
  unfold loadRoom at h
  dsimp only at h
  obtain ⟨messages, hsuffix, heq⟩ :=
    RoomRecord.trimRoomMessagesToBudget_eq env (normalizeRoom env stored)
  split at h
  · split at h
    · split at h
      · obtain ⟨rfl, rfl⟩ := Prod.mk.inj (Option.some.inj h)
        exact ⟨⟨messages, hsuffix, heq⟩, Or.inr rfl⟩
      · exact absurd h (by simp)
    · obtain ⟨rfl, rfl⟩ := Prod.mk.inj (Option.some.inj h)
      exact ⟨⟨messages, hsuffix, heq⟩, Or.inl rfl⟩
  · obtain ⟨rfl, rfl⟩ := Prod.mk.inj (Option.some.inj h)
    exact ⟨⟨_, List.suffix_rfl, rfl⟩, Or.inl rfl⟩

lemma logExtends_loadRoom {env : RoomEnv} {stored room stored' : RoomRecord}
    (hwell : WellLogged stored) (h : loadRoom env stored = some (room, stored')) :
    LogExtends stored room [] ∧ LogExtends stored stored' [] := by
  obtain ⟨⟨messages, hsuffix, rfl⟩, hstored⟩ := loadRoom_eq_some h
  have hroom := (logExtends_normalizeRoom env hwell).trans_nil
    ((normalizeRoom env stored).logExtends_evict hsuffix)
  rcases hstored with rfl | rfl
  · exact ⟨hroom, LogExtends.refl _⟩
  · exact ⟨hroom, hroom⟩

end Free4Chat
