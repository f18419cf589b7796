import Free4Chat.Capability.ProcessAdapter
import Free4Chat.Data.ListFilterMap

/-!
# Paired Responses

In every run a result is that of a line with the id of its request. The goroutine of an exchange
that did not wait for it may stay behind, but by then the adapter is closed: no other goroutine
reads where it may read.

* `readProtocolFrame_ok_iff`: what is read.
* `decodeProtocolResponse_result`: what a response with a result has.
* `ProcessAdapter.Inv`: the invariant.
* `neverMispairs`: an adapter never pairs a response with another request.
-/

namespace Free4Chat

/-! ## Lines -/

section

variable {frame line behind : List UInt8} {reader rest : BufferedReader UInt8}

lemma any_isLineEnd_eq_false {l : List UInt8} : l.any isLineEnd = false ↔ 10 ∉ l := by
  rw [List.any_eq_false]
  constructor
  · intro h hmem
    exact h 10 hmem rfl
  · rintro h byte hmem hbyte
    rw [isLineEnd, decide_eq_true_eq] at hbyte
    exact h (hbyte ▸ hmem)

lemma readProtocolFrameFrom_of_none (h : reader.readSlice isLineEnd = none) :
    readProtocolFrameFrom frame reader = none := by
  rw [readProtocolFrameFrom]
  split
  next => rfl
  next hother => cases h.symm.trans hother

variable {how : SliceEnd}

lemma readProtocolFrameFrom_of_some {part : List UInt8}
    (h : reader.readSlice isLineEnd = some ((part, how), rest)) :
    readProtocolFrameFrom frame reader =
      if maxFrameBytes < frame.length + part.length then some (.error .tooLarge, rest)
      else if how = .full then readProtocolFrameFrom (frame ++ part) rest
      else if how = .ended then some (.error .ended, rest)
      else if (frame ++ part).length < 2 then some (.error .malformed, rest)
      else some (.ok (frame ++ part).dropLast, rest) := by
  rw [readProtocolFrameFrom]
  split
  next hother => cases h.symm.trans hother
  next hother =>
    cases h.symm.trans hother
    rfl

lemma line_unique {other others : List UInt8} (hline : 10 ∉ line) (hother : 10 ∉ other)
    (h : line ++ 10 :: behind = other ++ 10 :: others) : line = other ∧ behind = others := by
  induction line generalizing other with
  | nil =>
    cases other with
    | nil => exact ⟨rfl, (List.cons.inj h).2⟩
    | cons byte other => exact absurd ((List.cons.inj h).1 ▸ List.mem_cons_self) hother
  | cons byte line ih =>
    cases other with
    | nil => exact absurd ((List.cons.inj h).1 ▸ List.mem_cons_self) hline
    | cons byte' other =>
      obtain ⟨rfl, hrest⟩ := List.cons.inj h
      obtain ⟨rfl, rfl⟩ := ih (fun hmem => hline (List.mem_cons_of_mem _ hmem))
        (fun hmem => hother (List.mem_cons_of_mem _ hmem)) hrest
      exact ⟨rfl, rfl⟩

lemma notMem_append {other : List UInt8} (hline : 10 ∉ line) (hother : 10 ∉ other) :
    10 ∉ line ++ other := fun hmem => (List.mem_append.mp hmem).elim hline hother

lemma eq_line_of_isSlice {part : List UInt8} (hfull : how ≠ .full)
    (hended : how ≠ .ended) (h : BufferedReader.IsSlice isLineEnd part how) :
    ∃ start, part = start ++ [10] ∧ 10 ∉ start := by
  cases how with
  | found =>
    obtain ⟨start, byte, rfl, hbyte, hstart⟩ := h
    rw [isLineEnd, decide_eq_true_eq] at hbyte
    exact ⟨start, by rw [hbyte], any_isLineEnd_eq_false.mp hstart⟩
  | full => exact absurd rfl hfull
  | ended => exact absurd rfl hended

lemma length_slice_le {part others : List UInt8} (hframe : 10 ∉ frame)
    (hpart : BufferedReader.IsSlice isLineEnd part how)
    (hsplit : frame ++ part ++ others = line ++ 10 :: behind) (hline : 10 ∉ line) :
    frame.length + part.length ≤ line.length + 1 := by
  -- All bytes but the last one are before the first end of a line.
  have hnone : ∀ start : List UInt8, 10 ∉ start → ∀ others,
      start ++ others = line ++ 10 :: behind → start.length ≤ line.length := by
    intro start hstart others hsplit
    rcases List.append_eq_append_iff.mp hsplit with ⟨more, rfl, -⟩ | ⟨more, rfl, hmore⟩
    · rw [List.length_append]
      omega
    · cases more with
      | nil =>
        exact Nat.le_of_eq (congrArg List.length (List.append_nil _))
      | cons byte more =>
        obtain ⟨rfl, -⟩ := List.cons.inj hmore
        exact absurd (List.mem_append_right _ List.mem_cons_self) hstart
  by_cases hfull : how = .full
  · subst hfull
    have hle := hnone _ (notMem_append hframe (any_isLineEnd_eq_false.mp hpart.2)) _ hsplit
    rw [List.length_append] at hle
    omega
  · by_cases hended : how = .ended
    · subst hended
      have hle := hnone _ (notMem_append hframe (any_isLineEnd_eq_false.mp hpart)) _ hsplit
      rw [List.length_append] at hle
      omega
    · obtain ⟨start, rfl, hstart⟩ := eq_line_of_isSlice hfull hended hpart
      rw [← List.append_assoc, List.append_assoc] at hsplit
      have hle := hnone _ (notMem_append hframe hstart) _ hsplit
      rw [List.length_append] at hle
      rw [List.length_append, List.length_singleton]
      omega

/-- What is read, whatever the slices are. -/
lemma readProtocolFrameFrom_spec (hframe : 10 ∉ frame) :
    match readProtocolFrameFrom frame reader with
    | none => 10 ∉ frame ++ reader.content ∧ reader.ended = false
    | some (.ok line, rest) => frame ++ reader.content = line ++ 10 :: rest.content ∧ 10 ∉ line ∧
        line ≠ [] ∧ line.length + 1 ≤ maxFrameBytes
    | some (.error _, _) => ∀ line behind, frame ++ reader.content = line ++ 10 :: behind →
        10 ∉ line → line ≠ [] → maxFrameBytes < line.length + 1 := by
  induction frame, reader using readProtocolFrameFrom.induct with
  | case1 frame reader hslice =>
    obtain ⟨hany, hended⟩ := BufferedReader.readSlice_eq_none hslice
    rw [readProtocolFrameFrom_of_none hslice]
    refine ⟨fun hmem => ?_, hended⟩
    rcases List.mem_append.mp hmem with hmem | hmem
    · exact hframe hmem
    · exact any_isLineEnd_eq_false.mp hany hmem
  | case2 frame reader part how rest hslice hlimit =>
    obtain ⟨hcontent, -, hpart, -⟩ := BufferedReader.readSlice_eq_some hslice
    rw [readProtocolFrameFrom_of_some hslice, if_pos hlimit]
    intro line behind hsplit hline _
    rw [← hcontent, ← List.append_assoc] at hsplit
    exact Nat.lt_of_lt_of_le hlimit (length_slice_le hframe hpart hsplit hline)
  | case3 frame reader part rest hlimit hslice ih =>
    obtain ⟨hcontent, hended, hpart, -⟩ := BufferedReader.readSlice_eq_some hslice
    have hnone : 10 ∉ frame ++ part := fun hmem =>
      (List.mem_append.mp hmem).elim hframe (any_isLineEnd_eq_false.mp hpart.2)
    have hrest := ih hnone
    rw [List.append_assoc, hcontent, hended] at hrest
    rw [readProtocolFrameFrom_of_some hslice, if_neg hlimit, if_pos rfl]
    exact hrest
  | case4 frame reader part rest hlimit hslice hfull =>
    obtain ⟨hcontent, -, hpart, hnil⟩ := BufferedReader.readSlice_eq_some hslice
    rw [readProtocolFrameFrom_of_some hslice, if_neg hlimit, if_neg hfull, if_pos rfl]
    intro line behind hsplit _ _
    rw [← hcontent, (hnil rfl).2, List.append_nil] at hsplit
    have hmem : 10 ∈ frame ++ part := by
      rw [hsplit]
      exact List.mem_append_right _ List.mem_cons_self
    exact absurd hmem fun hmem =>
      (List.mem_append.mp hmem).elim hframe (any_isLineEnd_eq_false.mp hpart)
  | case5 frame reader part how rest hslice hlimit hfull hended hshort =>
    obtain ⟨hcontent, -, hpart, -⟩ := BufferedReader.readSlice_eq_some hslice
    obtain ⟨start, rfl, hstart⟩ := eq_line_of_isSlice hfull hended hpart
    rw [readProtocolFrameFrom_of_some hslice, if_neg hlimit, if_neg hfull, if_neg hended,
      if_pos hshort]
    intro line behind hsplit hline hne
    rw [← hcontent, List.append_assoc, List.singleton_append, ← List.append_assoc] at hsplit
    obtain ⟨rfl, -⟩ := line_unique (notMem_append hframe hstart) hline hsplit
    have hpos := List.length_pos_of_ne_nil hne
    rw [← List.append_assoc, List.length_append, List.length_singleton] at hshort
    omega
  | case6 frame reader part how rest hslice hlimit hfull hended hshort =>
    obtain ⟨hcontent, -, hpart, -⟩ := BufferedReader.readSlice_eq_some hslice
    obtain ⟨start, rfl, hstart⟩ := eq_line_of_isSlice hfull hended hpart
    rw [readProtocolFrameFrom_of_some hslice, if_neg hlimit, if_neg hfull, if_neg hended,
      if_neg hshort]
    have hwhole : frame ++ (start ++ [10]) = frame ++ start ++ [10] :=
      (List.append_assoc _ _ _).symm
    dsimp only
    rw [hwhole, List.dropLast_concat]
    rw [hwhole, List.length_append, List.length_singleton] at hshort
    rw [List.length_append, List.length_singleton] at hlimit
    refine ⟨?_, notMem_append hframe hstart, ?_, ?_⟩
    · rw [← hcontent, List.append_assoc, List.append_assoc]
      rfl
    · intro hnil
      rw [hnil] at hshort
      exact hshort (by decide)
    · rw [List.length_append]
      omega

lemma readProtocolFrame_ok (h : readProtocolFrame reader = some (.ok line, rest)) :
    reader.content = line ++ 10 :: rest.content ∧ 10 ∉ line ∧ line ≠ [] ∧
      line.length + 1 ≤ maxFrameBytes := by
  have hspec := @readProtocolFrameFrom_spec [] reader List.not_mem_nil
  rw [readProtocolFrame] at h
  rw [h] at hspec
  exact hspec

lemma exists_readProtocolFrame (hcontent : reader.content = line ++ 10 :: behind)
    (hline : 10 ∉ line) (hne : line ≠ []) (hfits : line.length + 1 ≤ maxFrameBytes) :
    ∃ rest, readProtocolFrame reader = some (.ok line, rest) := by
  have hspec := @readProtocolFrameFrom_spec [] reader List.not_mem_nil
  rw [← readProtocolFrame, List.nil_append, hcontent] at hspec
  rcases hread : readProtocolFrame reader with _ | ⟨error | other, rest⟩
  · rw [hread] at hspec
    exact absurd (List.mem_append_right _ List.mem_cons_self) hspec.1
  · rw [hread] at hspec
    exact absurd hfits (Nat.not_le_of_lt (hspec line behind rfl hline hne))
  · rw [hread] at hspec
    obtain ⟨rfl, -⟩ := line_unique hline hspec.2.1 hspec.1
    exact ⟨rest, rfl⟩

lemma readProtocolFrame_ne_none (h : 10 ∈ reader.content ∨ reader.ended = true) :
    readProtocolFrame reader ≠ none := by
  have hspec := @readProtocolFrameFrom_spec [] reader List.not_mem_nil
  rw [← readProtocolFrame, List.nil_append] at hspec
  intro hread
  rw [hread] at hspec
  rcases h with hmem | hended
  · exact hspec.1 hmem
  · rw [hspec.2] at hended
    cases hended

end

/-! ## Responses -/

section

variable {rules : AdapterRules} {frame : List UInt8} {id : String}
  {response next : ProtocolResponse} {member : String × List UInt8 × GoJson}
  {members : List (String × List UInt8 × GoJson)}

lemma decodeMember_eq_some (h : decodeMember response member = some next) :
    next.id = (if member.1 = "id" then member.2.2.string? else none).getD response.id ∧
      next.result = (if member.1 = "result" then some member.2.1 else none).getD response.result ∧
      (member.1 ≠ "protocolVersion" → next.protocolVersion = response.protocolVersion) := by
  obtain ⟨name, text, value⟩ := member
  rw [decodeMember] at h
  dsimp only at h ⊢
  split_ifs at h with hversion hid hresult herror
  · subst hversion
    refine ⟨?_, ?_, fun hne => absurd rfl hne⟩
    all_goals
      split at h
      · cases h
        rfl
      · cases h
        rfl
      · cases h
  · subst hid
    split at h
    · cases h
      exact ⟨rfl, rfl, fun _ => rfl⟩
    · cases h
      exact ⟨rfl, rfl, fun _ => rfl⟩
    · cases h
  · subst hresult
    cases h
    exact ⟨rfl, rfl, fun _ => rfl⟩
  · subst herror
    split at h
    · cases h
      exact ⟨rfl, rfl, fun _ => rfl⟩
    · obtain ⟨code, -, rfl⟩ := Option.map_eq_some_iff.mp h
      exact ⟨rfl, rfl, fun _ => rfl⟩
    · cases h
  · cases h
    rw [if_neg hid, if_neg hresult]
    exact ⟨rfl, rfl, fun _ => rfl⟩

lemma frameID_cons : frameID (member :: members) =
    (frameID members).or (if member.1 = "id" then member.2.2.string? else none) := by
  rw [frameID, frameID, List.filter_cons]
  by_cases hname : member.1 = "id"
  · rw [if_pos (decide_eq_true hname), if_pos hname, List.filterMap_cons_toList,
      List.getLast?_append]
    cases member.2.2.string? <;> rfl
  · rw [if_neg (by rwa [decide_eq_true_eq]), if_neg hname, Option.or_none]

lemma fieldOf_cons {name : String} : fieldOf (member :: members) name =
    (fieldOf members name).or (if member.1 = name then some member.2.1 else none) := by
  rw [fieldOf, fieldOf, List.filter_cons]
  by_cases hname : member.1 = name
  · rw [if_pos (decide_eq_true hname), if_pos hname, List.getLast?_cons]
    cases (members.filter fun member => decide (member.1 = name)).getLast? <;> rfl
  · rw [if_neg (by rwa [decide_eq_true_eq]), if_neg hname, Option.or_none]

lemma fieldOf_isSome {name : String} :
    (fieldOf members name).isSome = true ↔ name ∈ members.map Prod.fst := by
  induction members with
  | nil => exact iff_of_false Bool.false_ne_true List.not_mem_nil
  | cons member members ih =>
    rw [fieldOf_cons, Option.isSome_or, Bool.or_eq_true, ih, List.map_cons, List.mem_cons,
      or_comm]
    refine or_congr_left ?_
    split_ifs with hname
    · exact iff_of_true rfl hname.symm
    · exact iff_of_false (by decide) fun heq => hname heq.symm

lemma decodeMembers_eq_some (h : members.foldlM decodeMember response = some next) :
    next.id = (frameID members).getD response.id ∧
      next.result = (fieldOf members "result").getD response.result ∧
      ("protocolVersion" ∉ members.map Prod.fst →
        next.protocolVersion = response.protocolVersion) := by
  induction members generalizing response with
  | nil =>
    obtain rfl := Option.some.inj h
    exact ⟨rfl, rfl, fun _ => rfl⟩
  | cons member members ih =>
    rw [List.foldlM_cons] at h
    obtain ⟨middle, hmember, hmembers⟩ := Option.bind_eq_some_iff.mp h
    obtain ⟨hid, hresult, hversion⟩ := decodeMember_eq_some hmember
    obtain ⟨hids, hresults, hversions⟩ := ih hmembers
    refine ⟨?_, ?_, fun hnot => ?_⟩
    · rw [hids, hid, frameID_cons, Option.getD_or]
    · rw [hresults, hresult, fieldOf_cons, Option.getD_or]
    · rw [List.map_cons, List.mem_cons, not_or] at hnot
      rw [hversions hnot.2, hversion (Ne.symm hnot.1)]

/-- A response with a result has the id of the request, and no other fields. -/
lemma decodeProtocolResponse_result
    (h : decodeProtocolResponse rules frame id = some response) (herror : response.error = none) :
    ∃ members, rules.parse frame = some (.object members) ∧
      (∀ name, name ∈ members.map Prod.fst ↔ name ∈ ["protocolVersion", "id", "result"]) ∧
      frameID members = some id ∧ fieldOf members "result" = some response.result := by
  rw [decodeProtocolResponse] at h
  split at h
  next members hparse =>
    obtain ⟨hnames, h⟩ := Option.ite_none_left_eq_some.mp h
    split at h
    next => cases h
    next decoded hdecoded =>
      obtain ⟨hheader, h⟩ := Option.ite_none_left_eq_some.mp h
      obtain ⟨hone, h⟩ := Option.ite_none_left_eq_some.mp h
      rw [not_or, not_or, not_not, not_not] at hheader
      obtain ⟨hversion, hid, hne⟩ := hheader
      obtain ⟨hids, hresults, hversions⟩ := decodeMembers_eq_some hdecoded
      split at h
      next text htext =>
        -- An error comes with a code.
        split at h
        next shape hshape =>
          obtain ⟨hcode, ⟨⟩⟩ := Option.ite_none_left_eq_some.mp h
          rw [herror] at hcode
          exact absurd (Or.inr rfl) hcode
        next => cases h
      next hnone =>
        obtain ⟨-, ⟨⟩⟩ := Option.ite_none_left_eq_some.mp h
        rw [hnone] at hone
        have hsome : fieldOf members "result" ≠ none := fun hnot => hone (by rw [hnot])
        obtain ⟨value, hvalue⟩ := Option.ne_none_iff_exists'.mp hsome
        have hnoError : "error" ∉ members.map Prod.fst := fun hmem => by
          have hsome := fieldOf_isSome.mpr hmem
          rw [hnone] at hsome
          cases hsome
        have hsomeID : frameID members = some id := by
          cases hframe : frameID members with
          | none =>
            rw [hframe] at hids
            exact absurd hids hne
          | some other =>
            rw [hframe] at hids
            rw [← hid, hids, Option.getD_some]
        refine ⟨members, hparse, fun name => ⟨fun hmem => ?_, fun hmem => ?_⟩, hsomeID, ?_⟩
        · obtain ⟨member, hmember, rfl⟩ := List.mem_map.mp hmem
          have hfield : member.1 ∈ responseFields := by
            by_contra hnot
            exact hnames (List.any_eq_true.mpr ⟨member, hmember, decide_eq_true hnot⟩)
          rw [responseFields, List.mem_cons, List.mem_cons, List.mem_cons, List.mem_singleton]
            at hfield
          rcases hfield with hname | hname | hname | hname
          · rw [hname]
            decide
          · rw [hname]
            decide
          · rw [hname]
            decide
          · exact absurd (hname ▸ List.mem_map_of_mem hmember) hnoError
        · rw [List.mem_cons, List.mem_cons, List.mem_singleton] at hmem
          rcases hmem with rfl | rfl | rfl
          · by_contra hnot
            rw [hversions hnot] at hversion
            exact absurd hversion (by decide)
          · by_contra hnot
            obtain ⟨member, hmember, -⟩ := List.mem_filterMap.mp
              (List.mem_of_getLast? hsomeID)
            obtain ⟨hmember, hname⟩ := List.mem_filter.mp hmember
            rw [decide_eq_true_eq] at hname
            exact hnot (hname ▸ List.mem_map_of_mem hmember)
          · exact fieldOf_isSome.mp (by rw [hvalue]; rfl)
        · rw [hresults, hvalue, Option.getD_some]
  next => cases h

end

lemma judge_result {rules : AdapterRules} {id : String} {line : Except FrameError (List UInt8)}
    {value : List UInt8} (h : rules.judge id line = .result value) :
    ∃ frame, line = .ok frame ∧ Answers rules frame id value := by
  rcases line with error | frame
  · cases h
  · refine ⟨frame, rfl, ?_⟩
    rw [AdapterRules.judge] at h
    split at h
    next => cases h
    next response hresponse =>
      split at h
      next => cases h
      next herror =>
        split_ifs at h with hlarge hunsafe
        cases h
        exact
          { answers := decodeProtocolResponse_result hresponse herror
            bounded := Nat.le_of_not_lt hlarge
            harmless := Bool.eq_false_iff.mpr hunsafe }

lemma ExchangeEnd.fails_of_breaks {how : ExchangeEnd} (h : how.breaks = true) :
    how.fails = true := by
  cases how <;> first | rfl | cases h

lemma ExchangeEnd.outcome_of_fails {how : ExchangeEnd} (h : how.fails = true) :
    how.outcome.toOption.isNone = true := by
  cases how with
  | readFailed error => cases error <;> rfl
  | result value => cases h
  | _ => rfl

/-! ## The invariant -/

/-- The exchange has found the adapter alive, and the adapter is not closed. -/
def CallStage.passed : CallStage → Bool
  | numbering | marshalling | writing _ | awaiting => true
  | _ => false

/-- The adapter was closed. -/
def CallStage.shut : CallStage → Bool
  | reaping _ | exiting | killing => true
  | _ => false

/-- The exchange will fail the adapter. -/
def AdapterCall.doomed (call : AdapterCall) : Prop :=
  (∃ how, call.stage = .failing how) ∨
    call.stage = .awaiting ∧ ∃ error, call.reader = some (.read (.error error))

namespace ProcessAdapter

variable {rules : AdapterRules} {s s' : ProcessAdapter} {index i j : ℕ} {call call' : AdapterCall}

variable (rules s) in
/-- What is known of a call. -/
structure CallOk (i : ℕ) (call : AdapterCall) : Prop where
  lock : call.stage.holds = true ↔ s.callMu = some i
  passed : call.stage.passed = true → s.closed = false
  shut : call.stage.shut = true → s.closed = true
  fails : ∀ how, call.stage = .failing how ∨ call.stage = .reaping how → how.fails = true
  -- A goroutine that is left behind is so in an adapter that is closed.
  reading : call.reader = some .reading → s.closed = true ∨ call.stage = .awaiting ∨
    ∃ how, call.stage = .failing how
  line : ∀ line, call.reader = some (.read (.ok line)) → IsLineOf s.output line
  paired : ∀ value, call.stage = .ended (.result value) →
    ∃ line, IsLineOf s.output line ∧ Answers rules line call.id value

/-- What was read ends with a line. -/
def Clean (s : ProcessAdapter) : Prop :=
  ∃ consumed, s.output = consumed ++ s.stdout.content ∧
    (consumed = [] ∨ consumed.getLast? = some 10)

/-- Nothing will be read any more. -/
structure Stuck (s : ProcessAdapter) : Prop where
  noReader : ∀ call ∈ s.calls, call.reader ≠ some .reading
  doomed : s.closed = true ∨
    ∃ i call, s.callMu = some i ∧ s.calls[i]? = some call ∧ call.doomed

variable (rules s) in
/-- The invariant. -/
structure Inv : Prop where
  calls : ∀ i call, s.calls[i]? = some call → CallOk rules s i call
  bound : ∀ i, s.callMu = some i → i < s.calls.length
  killed : s.killOnce = true → s.closed = true
  oneReader : ∀ (i j : ℕ) (call other : AdapterCall), s.calls[i]? = some call →
    s.calls[j]? = some other → call.reader = some .reading → other.reader = some .reading → i = j
  clean : s.Clean ∨ s.Stuck
  broken : s.log.Pairwise fun event later => event.breaks = true → later.fails = true
  dead : ∀ event ∈ s.log, event.breaks = true → s.closed = true

lemma CallOk.holds_of_passed (h : CallOk rules s i call) (hpassed : call.stage.passed = true) :
    s.callMu = some i := by
  refine h.lock.mp ?_
  revert hpassed
  cases call.stage <;> first | exact fun _ => rfl | exact fun h => absurd h Bool.false_ne_true

namespace Inv

lemma other (h : Inv rules s) (hmu : ∀ i, i ≠ index → (s'.callMu = some i ↔ s.callMu = some i))
    (hclosed : s'.closed = true → s.closed = true ∨ s.callMu = some index)
    (hstays : s.closed = true → s'.closed = true) (houtput : s'.output = s.output)
    (hi : i ≠ index) (hcall : s.calls[i]? = some call) : CallOk rules s' i call := by
  have hok := h.calls i call hcall
  exact
    { lock := hok.lock.trans (hmu i hi).symm
      passed := fun hpassed => by
        refine Bool.eq_false_iff.mpr fun hnow => ?_
        rcases hclosed hnow with hbefore | hholder
        · rw [hok.passed hpassed] at hbefore
          cases hbefore
        · have hsame := (hok.holds_of_passed hpassed).symm.trans hholder
          exact hi (Option.some.inj hsame)
      shut := fun hshut => hstays (hok.shut hshut)
      fails := hok.fails
      reading := fun hreading => (hok.reading hreading).imp_left hstays
      line := fun line hline => houtput.symm ▸ hok.line line hline
      paired := fun value hvalue => houtput.symm ▸ hok.paired value hvalue }

lemma update (h : Inv rules s) (hcall : s.calls[index]? = some call)
    (hcalls : s'.calls = s.calls.set index call')
    (hmu : ∀ i, i ≠ index → (s'.callMu = some i ↔ s.callMu = some i))
    (hclosed : s'.closed = true → s.closed = true ∨ s.callMu = some index)
    (hstays : s.closed = true → s'.closed = true) (houtput : s'.output = s.output)
    (hok : CallOk rules s' index call') (hkilled : s'.killOnce = true → s'.closed = true)
    (hreader : call'.reader = some .reading → call.reader = some .reading ∨
      ∀ other ∈ s.calls, other.reader ≠ some .reading) (hclean : s'.Clean ∨ s'.Stuck)
    (hbroken : s'.log.Pairwise fun event later => event.breaks = true → later.fails = true)
    (hdead : ∀ event ∈ s'.log, event.breaks = true → s'.closed = true) : Inv rules s' := by
  obtain ⟨hlt, -⟩ := List.getElem?_eq_some_iff.mp hcall
  have hself : s'.calls[index]? = some call' := by
    rw [hcalls]
    exact List.getElem?_set_self hlt
  have hothers : ∀ i, i ≠ index → s'.calls[i]? = s.calls[i]? := by
    intro i hi
    rw [hcalls]
    exact List.getElem?_set_ne (Ne.symm hi)
  -- A goroutine that was started is the only one.
  have hone : ∀ (i : ℕ) (other : AdapterCall), i ≠ index → s.calls[i]? = some other →
      other.reader = some .reading → call'.reader = some .reading → False := by
    intro i other hi hother hreading hnew
    rcases hreader hnew with hold | hnone
    · exact hi (h.oneReader i index other call hother hcall hreading hold)
    · exact hnone other (List.mem_of_getElem? hother) hreading
  exact
    { calls := fun i other hother => by
        by_cases hi : i = index
        · subst hi
          obtain rfl := Option.some.inj (hself.symm.trans hother)
          exact hok
        · rw [hothers i hi] at hother
          exact h.other hmu hclosed hstays houtput hi hother
      bound := fun i hi => by
        rw [hcalls, List.length_set]
        by_cases hindex : i = index
        · rw [hindex]
          exact hlt
        · exact h.bound i ((hmu i hindex).mp hi)
      killed := hkilled
      oneReader := fun i j other another hother hanother hreading hreading' => by
        by_cases hi : i = index
        · by_cases hj : j = index
          · rw [hi, hj]
          · subst hi
            obtain rfl := Option.some.inj (hself.symm.trans hother)
            rw [hothers j hj] at hanother
            exact absurd hreading (hone j another hj hanother hreading')
        · by_cases hj : j = index
          · subst hj
            obtain rfl := Option.some.inj (hself.symm.trans hanother)
            rw [hothers i hi] at hother
            exact absurd hreading' (hone i other hi hother hreading)
          · rw [hothers i hi] at hother
            rw [hothers j hj] at hanother
            exact h.oneReader i j other another hother hanother hreading hreading'
      clean := hclean
      broken := hbroken
      dead := hdead }

lemma clean_update (h : Inv rules s) (hcalls : s'.calls = s.calls.set index call')
    (hcall : s.calls[index]? = some call) (houtput : s'.output = s.output)
    (hstdout : s'.stdout = s.stdout) (hstays : s.closed = true → s'.closed = true)
    (hmu : s.callMu = some index ∨ s.callMu = none)
    (hreader : call'.reader = call.reader ∨ s.closed = false ∧ ¬call.doomed)
    (hdoomed : call.doomed → s'.closed = true ∨ s'.callMu = some index ∧ call'.doomed) :
    s'.Clean ∨ s'.Stuck := by
  obtain ⟨hlt, -⟩ := List.getElem?_eq_some_iff.mp hcall
  rcases h.clean with ⟨consumed, hconsumed, hline⟩ | hstuck
  · exact Or.inl ⟨consumed, by rw [houtput, hstdout, hconsumed], hline⟩
  · -- If the adapter is not closed, the call in hand is doomed.
    have hholder : s.closed = true ∨ call.doomed := by
      refine hstuck.doomed.imp_right ?_
      rintro ⟨i, other, hi, hother, hdoom⟩
      rcases hmu with hmu | hmu
      · obtain rfl := Option.some.inj (hi.symm.trans hmu)
        obtain rfl := Option.some.inj (hother.symm.trans hcall)
        exact hdoom
      · cases hmu.symm.trans hi
    refine Or.inr ⟨fun other hmem => ?_, ?_⟩
    · rw [hcalls] at hmem
      rcases List.mem_or_eq_of_mem_set hmem with hmem | rfl
      · exact hstuck.noReader other hmem
      · rcases hreader with hsame | ⟨hopen, hfree⟩
        · rw [hsame]
          exact hstuck.noReader call (List.mem_of_getElem? hcall)
        · rcases hholder with hclosed | hdoom
          · rw [hopen] at hclosed
            cases hclosed
          · exact absurd hdoom hfree
    · rcases hholder with hclosed | hdoom
      · exact Or.inl (hstays hclosed)
      · refine (hdoomed hdoom).imp_right fun hstill => ?_
        refine ⟨index, call', hstill.1, ?_, hstill.2⟩
        rw [hcalls]
        exact List.getElem?_set_self hlt

end Inv

lemma not_doomed (hawaiting : call.stage ≠ .awaiting)
    (hfailing : ∀ how, call.stage ≠ .failing how) : ¬call.doomed := by
  rintro (⟨how, hhow⟩ | ⟨hstage, -⟩)
  · exact hfailing how hhow
  · exact hawaiting hstage

lemma CallOk.goOn (hok : CallOk rules s index call) (houtput : s'.output = s.output)
    (hstays : s.closed = true → s'.closed = true) {stage : CallStage} {id : String}
    (hlock : stage.holds = true ↔ s'.callMu = some index)
    (hpassed : stage.passed = true → s'.closed = false)
    (hshut : stage.shut = true → s'.closed = true)
    (hfails : ∀ how, stage = .failing how ∨ stage = .reaping how → how.fails = true)
    (hleft : call.stage = .awaiting ∨ (∃ how, call.stage = .failing how) →
      s'.closed = true ∨ ∃ how, stage = .failing how)
    (hpaired : ∀ value, stage = .ended (.result value) →
      ∃ line, IsLineOf s.output line ∧ Answers rules line id value) :
    CallOk rules s' index { call with stage, id } :=
  { lock := hlock
    passed := hpassed
    shut := hshut
    fails := hfails
    reading := fun hreading => by
      rcases hok.reading hreading with hclosed | hstage
      · exact Or.inl (hstays hclosed)
      · exact (hleft hstage).imp_right Or.inr
    line := fun line hline => houtput.symm ▸ hok.line line hline
    paired := fun value hvalue => houtput.symm ▸ hpaired value hvalue }

namespace Inv

lemma log_append (h : Inv rules s) {event : AdapterEvent}
    (hfails : s.closed = true → event.fails = true) :
    (s.log ++ [event]).Pairwise fun event later => event.breaks = true → later.fails = true := by
  refine List.pairwise_append.mpr ⟨h.broken, List.pairwise_singleton _ _, ?_⟩
  intro before hbefore later hlater hbreaks
  obtain rfl := List.mem_singleton.mp hlater
  exact hfails (h.dead before hbefore hbreaks)

lemma dead_append (h : Inv rules s) {event : AdapterEvent}
    (hstays : s.closed = true → s'.closed = true)
    (hbreaks : event.breaks = true → s'.closed = true) :
    ∀ other ∈ s.log ++ [event], other.breaks = true → s'.closed = true := by
  intro other hmem hother
  rcases List.mem_append.mp hmem with hmem | hmem
  · exact hstays (h.dead other hmem hother)
  · obtain rfl := List.mem_singleton.mp hmem
    exact hbreaks hother

lemma goOn (h : Inv rules s) (hcall : s.calls[index]? = some call) {stage : CallStage}
    {id : String} (hcalls : s'.calls = s.calls.set index { call with stage, id })
    (houtput : s'.output = s.output) (hstdout : s'.stdout = s.stdout) (hlog : s'.log = s.log)
    (hholder : s.callMu = some index ∨ s.callMu = none)
    (hmu : ∀ i, i ≠ index → (s'.callMu = some i ↔ s.callMu = some i))
    (hclosed : s'.closed = true → s.closed = true ∨ s.callMu = some index)
    (hstays : s.closed = true → s'.closed = true) (hkilled : s'.killOnce = true → s'.closed = true)
    (hlock : stage.holds = true ↔ s'.callMu = some index)
    (hpassed : stage.passed = true → s'.closed = false)
    (hshut : stage.shut = true → s'.closed = true)
    (hfails : ∀ how, stage = .failing how ∨ stage = .reaping how → how.fails = true)
    (hleft : call.stage = .awaiting ∨ (∃ how, call.stage = .failing how) →
      s'.closed = true ∨ s'.callMu = some index ∧ ∃ how, stage = .failing how)
    (hresult : ∀ value, stage ≠ .ended (.result value)) : Inv rules s' := by
  have hok := h.calls index call hcall
  have hnext : CallOk rules s' index { call with stage, id } :=
    hok.goOn houtput hstays hlock hpassed hshut hfails
      (fun hstage => (hleft hstage).imp_right And.right)
      fun value hvalue => absurd hvalue (hresult value)
  refine h.update hcall hcalls hmu hclosed hstays houtput hnext hkilled Or.inl ?_ ?_ ?_
  · refine h.clean_update hcalls hcall houtput hstdout hstays hholder (Or.inl rfl) fun hdoom => ?_
    refine (hleft (hdoom.symm.imp_left And.left)).imp_right ?_
    exact fun hstill => ⟨hstill.1, Or.inl hstill.2⟩
  · rw [hlog]
    exact h.broken
  · rw [hlog]
    exact fun event hmem hbreaks => hstays (h.dead event hmem hbreaks)

lemma setStage (h : Inv rules s) (hcall : s.calls[index]? = some call)
    (hholds : call.stage.holds = true) {stage : CallStage} {id : String}
    (hkeeps : stage.holds = true) (hpassed : stage.passed = true → s.closed = false)
    (hshut : stage.shut = true → s.closed = true)
    (hfails : ∀ how, stage = .failing how ∨ stage = .reaping how → how.fails = true)
    (hleft : call.stage = .awaiting ∨ (∃ how, call.stage = .failing how) →
      ∃ how, stage = .failing how) : Inv rules (s.setCall index { call with stage, id }) := by
  have hmu := (h.calls index call hcall).lock.mp hholds
  refine h.goOn hcall rfl rfl rfl rfl (Or.inl hmu) (fun i _ => Iff.rfl) Or.inl (fun h => h)
    h.killed ⟨fun _ => hmu, fun _ => hkeeps⟩ hpassed hshut hfails
    (fun hstage => Or.inr ⟨hmu, hleft hstage⟩) ?_
  rintro value rfl
  cases hkeeps

variable {how : ExchangeEnd}

lemma endCall (h : Inv rules s) (hcall : s.calls[index]? = some call)
    (hholds : call.stage.holds = true)
    (hfails : s.closed = true → how.outcome.toOption.isNone = true)
    (hbreaks : how.breaks = true → s.closed = true)
    (hleft : call.stage = .awaiting ∨ (∃ how, call.stage = .failing how) →
      s.closed = true ∨ call.reader ≠ some .reading ∧ ¬call.doomed)
    (hpaired : ∀ value, how = .result value →
      ∃ line, IsLineOf s.output line ∧ Answers rules line call.id value) :
    Inv rules (s.endCall index call how) := by
  have hok := h.calls index call hcall
  have hmu := hok.lock.mp hholds
  refine h.update hcall rfl (fun i hi => ?_) Or.inl (fun h => h) rfl ?_ h.killed Or.inl ?_
    (h.log_append hfails) (h.dead_append (fun h => h) hbreaks)
  · refine ⟨fun hnone => (by cases hnone), fun hsome => ?_⟩
    exact absurd (Option.some.inj (hsome.symm.trans hmu)) hi
  · exact
      { lock := iff_of_false (fun hno => by cases hno) fun hno => by cases hno
        passed := fun hno => by cases hno
        shut := fun hno => by cases hno
        fails := fun how hno => by rcases hno with hno | hno <;> cases hno
        reading := fun hreading => by
          rcases hok.reading hreading with hclosed | hstage
          · exact Or.inl hclosed
          · rcases hleft hstage with hclosed | ⟨hnot, -⟩
            · exact Or.inl hclosed
            · exact absurd hreading hnot
        line := hok.line
        paired := fun value hvalue => by
          injection hvalue with hvalue
          exact hpaired value hvalue }
  · refine h.clean_update rfl hcall rfl rfl (fun h => h) (Or.inl hmu) (Or.inl rfl) fun hdoom => ?_
    rcases hleft (hdoom.symm.imp_left And.left) with hclosed | ⟨-, hfree⟩
    · exact Or.inl hclosed
    · exact absurd hdoom hfree

lemma happens (h : Inv rules s) (hcalls : s'.calls = s.calls) (hmu : s'.callMu = s.callMu)
    (hclosed : s'.closed = s.closed) (hkilled : s'.killOnce = s.killOnce)
    (hstdout : s'.stdout.content = s.stdout.content) (houtput : s'.output = s.output)
    (hbroken : s'.log.Pairwise fun event later => event.breaks = true → later.fails = true)
    (hdead : ∀ event ∈ s'.log, event.breaks = true → s.closed = true) : Inv rules s' :=
  { calls := fun i call hcall => by
      rw [hcalls] at hcall
      have hok := h.calls i call hcall
      exact
        { lock := by
            rw [hmu]
            exact hok.lock
          passed := by
            rw [hclosed]
            exact hok.passed
          shut := by
            rw [hclosed]
            exact hok.shut
          fails := hok.fails
          reading := by
            rw [hclosed]
            exact hok.reading
          line := by
            rw [houtput]
            exact hok.line
          paired := by
            rw [houtput]
            exact hok.paired }
    bound := by
      rw [hcalls, hmu]
      exact h.bound
    killed := by
      rw [hkilled, hclosed]
      exact h.killed
    oneReader := by
      rw [hcalls]
      exact h.oneReader
    clean := by
      refine h.clean.imp (fun hclean => ?_) fun hstuck => ⟨?_, ?_⟩
      · rw [Clean, houtput, hstdout]
        exact hclean
      · rw [hcalls]
        exact hstuck.noReader
      · rw [hclosed, hmu, hcalls]
        exact hstuck.doomed
    broken := hbroken
    dead := by
      rw [hclosed]
      exact hdead }

/-! ### The steps of a call -/

section

variable (h : Inv rules s) (hcall : s.calls[index]? = some call)
include h hcall

lemma acquire
    (hstage : call.stage = .waiting) (hnext : s.acquire? index call = some s') : Inv rules s' := by
  rw [acquire?] at hnext
  obtain ⟨hfree, ⟨⟩⟩ := Option.ite_none_right_eq_some.mp hnext
  have hnot : ¬(call.stage = .awaiting ∨ ∃ how, call.stage = .failing how) := by
    rw [hstage]
    rintro (hno | ⟨how, hno⟩) <;> cases hno
  refine h.goOn hcall rfl rfl rfl rfl (Or.inr hfree) (fun i hi => ?_) Or.inl (fun h => h) h.killed
    ?_ ?_ ?_ ?_ (fun hno => absurd hno hnot) ?_
  · rw [hfree]
    exact iff_of_false (fun hsome => hi (Option.some.inj hsome).symm) fun hnone => by cases hnone
  · refine iff_of_true ?_ rfl
    split_ifs <;> rfl
  · intro hno
    split_ifs at hno <;> cases hno
  · intro hno
    split_ifs at hno <;> cases hno
  · rintro how (hno | hno) <;> split_ifs at hno
  · intro value hno
    split_ifs at hno

lemma endClose (hholds : call.stage.holds = true)
    (hnot : ¬(call.stage = .awaiting ∨ ∃ how, call.stage = .failing how)) :
    Inv rules (s.endClose index call) := by
  have hmu := (h.calls index call hcall).lock.mp hholds
  refine h.goOn hcall rfl rfl rfl rfl (Or.inl hmu) (fun i hi => ?_) Or.inl (fun h => h) h.killed
    (iff_of_false (fun hno => by cases hno) fun hno => by cases hno) (fun hno => by cases hno)
    (fun hno => by cases hno) (fun how hno => by rcases hno with hno | hno <;> cases hno)
    (fun hno => absurd hno hnot) fun value hno => by cases hno
  rw [hmu]
  exact iff_of_false (fun hno => by cases hno) fun hsome => hi (Option.some.inj hsome).symm

lemma close (hstage : call.stage = .closing) : Inv rules (s.close index call) := by
  have hholds : call.stage.holds = true := by
    rw [hstage]
    rfl
  have hmu := (h.calls index call hcall).lock.mp hholds
  have hnot : ¬(call.stage = .awaiting ∨ ∃ how, call.stage = .failing how) := by
    rw [hstage]
    rintro (hno | ⟨how, hno⟩) <;> cases hno
  rw [ProcessAdapter.close]
  split_ifs with hclosed
  · exact h.endClose hcall hholds hnot
  · exact h.goOn hcall rfl rfl rfl rfl (Or.inl hmu) (fun i _ => Iff.rfl) (fun _ => Or.inr hmu)
      (fun _ => rfl) (fun _ => rfl) ⟨fun _ => hmu, fun _ => rfl⟩ (fun hno => by cases hno)
      (fun _ => rfl) (fun how hno => by rcases hno with hno | hno <;> cases hno)
      (fun _ => Or.inl rfl) fun value hno => by cases hno

lemma fail (hstage : call.stage = .failing how) : Inv rules (s.fail index call how) := by
  have hholds : call.stage.holds = true := by
    rw [hstage]
    rfl
  have hok := h.calls index call hcall
  have hmu := hok.lock.mp hholds
  have hfails := hok.fails how (Or.inl hstage)
  rw [ProcessAdapter.fail]
  split_ifs with hkill
  · have hclosed := h.killed hkill
    refine h.endCall hcall hholds (fun _ => ExchangeEnd.outcome_of_fails hfails) (fun _ => hclosed)
      (fun _ => Or.inl hclosed) ?_
    rintro value rfl
    cases hfails
  · refine h.goOn hcall rfl rfl rfl rfl (Or.inl hmu) (fun i _ => Iff.rfl) (fun _ => Or.inr hmu)
      (fun _ => rfl) (fun _ => rfl) ⟨fun _ => hmu, fun _ => rfl⟩ (fun hno => by cases hno)
      (fun _ => rfl) ?_ (fun _ => Or.inl rfl) fun value hno => by cases hno
    rintro other (hno | hsame)
    · cases hno
    · injection hsame with hsame
      exact hsame ▸ hfails

lemma finish (hpassed : call.stage.passed = true)
    (hreader : how.fails = false → call.reader ≠ some .reading ∧ ¬call.doomed)
    (hpaired : ∀ value, how = .result value →
      ∃ line, IsLineOf s.output line ∧ Answers rules line call.id value) :
    Inv rules (s.finish index call how) := by
  have hok := h.calls index call hcall
  have hholds := hok.lock.mpr (hok.holds_of_passed hpassed)
  have hopen := hok.passed hpassed
  rw [ProcessAdapter.finish]
  split_ifs with hfails
  · refine h.setStage hcall hholds rfl (fun hno => by cases hno) (fun hno => by cases hno) ?_
      fun _ => ⟨how, rfl⟩
    rintro other (hsame | hno)
    · injection hsame with hsame
      exact hsame ▸ hfails
    · cases hno
  · rw [Bool.not_eq_true] at hfails
    refine h.endCall hcall hholds (fun hclosed => ?_) (fun hbreaks => ?_)
      (fun _ => Or.inr (hreader hfails)) hpaired
    · rw [hopen] at hclosed
      cases hclosed
    · rw [ExchangeEnd.fails_of_breaks hbreaks] at hfails
      cases hfails

lemma number (hstage : call.stage = .numbering) : Inv rules (s.number index call) := by
  have hok := h.calls index call hcall
  have hpassed : call.stage.passed = true := by
    rw [hstage]
    rfl
  have hset : Inv rules (s.setCall index
      { call with stage := .marshalling, id := toString ((s.request + 1) % 2 ^ 64) }) :=
    h.setStage hcall (hok.lock.mpr (hok.holds_of_passed hpassed)) rfl (fun _ => hok.passed hpassed)
      (fun hno => by cases hno) (fun how hno => by rcases hno with hno | hno <;> cases hno)
      fun hno => by
        rw [hstage] at hno
        rcases hno with hno | ⟨how, hno⟩ <;> cases hno
  exact hset.happens rfl rfl rfl rfl rfl rfl hset.broken hset.dead

lemma marshal (hstage : call.stage = .marshalling) : Inv rules (s.marshal rules index call) := by
  have hok := h.calls index call hcall
  have hpassed : call.stage.passed = true := by
    rw [hstage]
    rfl
  have hholds := hok.lock.mpr (hok.holds_of_passed hpassed)
  have hopen := hok.passed hpassed
  have hnot : ¬(call.stage = .awaiting ∨ ∃ how, call.stage = .failing how) := by
    rw [hstage]
    rintro (hno | ⟨how, hno⟩) <;> cases hno
  have hlarge : Inv rules (s.endCall index call .largeRequest) :=
    h.endCall hcall hholds (fun _ => rfl) (fun hno => by cases hno) (fun hno => absurd hno hnot)
      fun value hno => by cases hno
  rw [ProcessAdapter.marshal]
  split
  next => exact hlarge
  next wire _ =>
    split_ifs with hlimit
    · exact hlarge
    · have hset : Inv rules (s.setCall index { call with stage := .writing (wire ++ [10]) }) :=
        h.setStage hcall hholds rfl (fun _ => hopen) (fun hno => by cases hno)
          (fun how hno => by rcases hno with hno | hno <;> cases hno) fun hno => absurd hno hnot
      refine hset.happens rfl rfl rfl rfl rfl rfl (h.log_append fun hclosed => ?_)
        (h.dead_append (fun h => h) fun hno => by cases hno)
      rw [hopen] at hclosed
      cases hclosed

lemma noReader_of_writing {wire : List UInt8} (hstage : call.stage = .writing wire) :
    ∀ other ∈ s.calls, other.reader ≠ some .reading := by
  have hok := h.calls index call hcall
  have hpassed : call.stage.passed = true := by
    rw [hstage]
    rfl
  have hmu := hok.holds_of_passed hpassed
  intro other hmem hreading
  obtain ⟨i, hi⟩ := List.mem_iff_getElem?.mp hmem
  have hother := h.calls i other hi
  rcases hother.reading hreading with hclosed | hwaits
  · rw [hok.passed hpassed] at hclosed
    cases hclosed
  · -- It would be the goroutine of the exchange itself.
    have hholds : other.stage.holds = true := by
      rcases hwaits with hwaits | ⟨how, hwaits⟩ <;> rw [hwaits] <;> rfl
    obtain rfl := Option.some.inj ((hother.lock.mp hholds).symm.trans hmu)
    obtain rfl := Option.some.inj (hi.symm.trans hcall)
    rw [hstage] at hwaits
    rcases hwaits with hno | ⟨how, hno⟩ <;> cases hno

lemma startReading {wire : List UInt8} (hstage : call.stage = .writing wire) :
    Inv rules (s.setCall index { call with stage := .awaiting, reader := some .reading }) := by
  have hok := h.calls index call hcall
  have hpassed : call.stage.passed = true := by
    rw [hstage]
    rfl
  have hmu := hok.holds_of_passed hpassed
  have hnot : ¬call.doomed := not_doomed (by rw [hstage]; exact fun hno => by cases hno) (by
    rw [hstage]
    exact fun how hno => by cases hno)
  refine h.update hcall rfl (fun i _ => Iff.rfl) Or.inl (fun h => h) rfl ?_ h.killed
    (fun _ => Or.inr (h.noReader_of_writing hcall hstage)) ?_ h.broken h.dead
  · exact
      { lock := ⟨fun _ => hmu, fun _ => rfl⟩
        passed := fun _ => hok.passed hpassed
        shut := fun hno => by cases hno
        fails := fun how hno => by rcases hno with hno | hno <;> cases hno
        reading := fun _ => Or.inr (Or.inl rfl)
        line := fun line hno => by cases hno
        paired := fun value hno => by cases hno }
  · exact h.clean_update rfl hcall rfl rfl (fun h => h) (Or.inl hmu)
      (Or.inr ⟨hok.passed hpassed, hnot⟩) fun hdoom => absurd hdoom hnot

lemma kill (hstage : call.stage = .exiting) :
    Inv rules { s.setCall index { call with stage := .killing } with killOnce := true } := by
  have hok := h.calls index call hcall
  have hmu : s.callMu = some index := hok.lock.mp (by rw [hstage]; rfl)
  have hclosed : s.closed = true := hok.shut (by rw [hstage]; rfl)
  exact h.goOn hcall rfl rfl rfl rfl (Or.inl hmu) (fun i _ => Iff.rfl) Or.inl (fun h => h)
    (fun _ => hclosed) ⟨fun _ => hmu, fun _ => rfl⟩ (fun hno => by cases hno) (fun _ => hclosed)
    (fun how hno => by rcases hno with hno | hno <;> cases hno) (fun _ => Or.inl hclosed)
    fun value hno => by cases hno

/-- A step of a call keeps the invariant. -/
lemma go {choice : CallChoice}
    (hnext : s.go? rules index call call.stage choice = some s') : Inv rules s' := by
  have hok := h.calls index call hcall
  have hnever : ∀ {how : ExchangeEnd}, how.fails = true → how.fails = false →
      call.reader ≠ some .reading ∧ ¬call.doomed := fun hyes hno => by
    rw [hyes] at hno
    cases hno
  generalize hstage : call.stage = stage at hnext
  have hwaits : stage ≠ .awaiting → (∀ how, stage ≠ .failing how) →
      ¬(call.stage = .awaiting ∨ ∃ how, call.stage = .failing how) := by
    rw [hstage]
    rintro hawaiting hfailing (hno | ⟨how, hno⟩)
    · exact hawaiting hno
    · exact hfailing how hno
  unfold go? at hnext
  split at hnext
  next => exact h.acquire hcall hstage hnext
  next =>
    have hnot := hwaits (fun hno => by cases hno) fun how hno => by cases hno
    split at hnext
    · cases hnext
      exact h.endCall hcall (by rw [hstage]; rfl) (fun _ => rfl) (fun hno => by cases hno)
        (fun hno => absurd hno hnot) fun value hno => by cases hno
    · cases hnext
      exact h.setStage hcall (by rw [hstage]; rfl) rfl (fun hno => by cases hno)
        (fun hno => by cases hno) (fun how hno => by rcases hno with hno | hno <;> cases hno)
        fun hno => absurd hno hnot
  next =>
    have hnot := hwaits (fun hno => by cases hno) fun how hno => by cases hno
    split at hnext
    next hclosed =>
      cases hnext
      exact h.endCall hcall (by rw [hstage]; rfl) (fun _ => rfl) (fun hno => by cases hno)
        (fun hno => absurd hno hnot) fun value hno => by cases hno
    next hopen =>
      cases hnext
      exact h.setStage hcall (by rw [hstage]; rfl) rfl (fun _ => Bool.eq_false_iff.mpr hopen)
        (fun hno => by cases hno) (fun how hno => by rcases hno with hno | hno <;> cases hno)
        fun hno => absurd hno hnot
  next =>
    cases hnext
    exact h.number hcall hstage
  next =>
    cases hnext
    exact h.marshal hcall hstage
  next =>
    cases hnext
    exact h.startReading hcall hstage
  next =>
    cases hnext
    exact h.finish hcall (by rw [hstage]; rfl) (hnever rfl) fun value hno => by cases hno
  next =>
    cases hnext
    exact h.finish hcall (by rw [hstage]; rfl) (hnever rfl) fun value hno => by cases hno
  next =>
    obtain ⟨-, ⟨⟩⟩ := Option.ite_none_right_eq_some.mp hnext
    exact h.finish hcall (by rw [hstage]; rfl) (hnever rfl) fun value hno => by cases hno
  next =>
    split at hnext
    next line hline =>
      cases hnext
      refine h.finish hcall (by rw [hstage]; rfl) (fun hfails => ?_) fun value hvalue => ?_
      · refine ⟨fun hno => (by cases hline.symm.trans hno), ?_⟩
        rintro (⟨how, hno⟩ | ⟨-, error, herror⟩)
        · cases hstage.symm.trans hno
        · -- Reading that fails is judged so.
          cases hline.symm.trans herror
          cases hfails
      · obtain ⟨frame, rfl, hanswers⟩ := judge_result hvalue
        exact ⟨frame, hok.line frame hline, hanswers⟩
    next => cases hnext
  next =>
    cases hnext
    exact h.fail hcall hstage
  next how =>
    cases hnext
    have hclosed : s.closed = true := hok.shut (by rw [hstage]; rfl)
    have hfails := hok.fails how (Or.inr hstage)
    refine h.endCall hcall (by rw [hstage]; rfl) (fun _ => ExchangeEnd.outcome_of_fails hfails)
      (fun _ => hclosed) (fun _ => Or.inl hclosed) ?_
    rintro value rfl
    cases hfails
  next =>
    cases hnext
    exact h.close hcall hstage
  next =>
    have hnot := hwaits (fun hno => by cases hno) fun how hno => by cases hno
    obtain ⟨-, ⟨⟩⟩ := Option.ite_none_right_eq_some.mp hnext
    exact h.endClose hcall (by rw [hstage]; rfl) hnot
  next =>
    cases hnext
    exact h.kill hcall hstage
  next =>
    have hnot := hwaits (fun hno => by cases hno) fun how hno => by cases hno
    cases hnext
    exact h.endClose hcall (by rw [hstage]; rfl) hnot
  next => cases hnext

end

/-! ### Reading -/

lemma readDone (h : Inv rules s) (hcall : s.calls[index]? = some call)
    (hreading : call.reader = some .reading) {line : Except FrameError (List UInt8)}
    {stdout : BufferedReader UInt8}
    (hline : ∀ l, line = .ok l → s.stdout.content = l ++ 10 :: stdout.content ∧ 10 ∉ l) :
    Inv rules { s.setCall index { call with reader := some (.read line) } with stdout } := by
  have hok := h.calls index call hcall
  -- There is a goroutine that reads, so what was read ends with a line.
  have hclean : s.Clean := by
    refine h.clean.resolve_right fun hstuck => ?_
    exact hstuck.noReader call (List.mem_of_getElem? hcall) hreading
  obtain ⟨consumed, hconsumed, hend⟩ := hclean
  refine h.update hcall rfl (fun i _ => Iff.rfl) Or.inl (fun h => h) rfl ?_ h.killed
    (fun hno => by cases hno) ?_ h.broken h.dead
  · exact
      { lock := hok.lock
        passed := hok.passed
        shut := hok.shut
        fails := hok.fails
        reading := fun hno => by cases hno
        line := fun l hl => by
          obtain ⟨hcontent, hfree⟩ := hline l (LineReader.read.inj (Option.some.inj hl))
          refine ⟨consumed, stdout.content, ?_, hfree, hend⟩
          rw [List.append_assoc, ← hcontent]
          exact hconsumed
        paired := hok.paired }
  · rcases line with error | l
    · right
      obtain ⟨hlt, -⟩ := List.getElem?_eq_some_iff.mp hcall
      refine ⟨fun other hmem hother => ?_, ?_⟩
      · obtain ⟨i, hi⟩ := List.mem_iff_getElem?.mp hmem
        by_cases hindex : i = index
        · subst hindex
          obtain rfl := Option.some.inj ((List.getElem?_set_self hlt).symm.trans hi)
          cases hother
        · have hold := (List.getElem?_set_ne (Ne.symm hindex)).symm.trans hi
          exact hindex (h.oneReader i index other call hold hcall hother hreading)
      · refine (hok.reading hreading).imp_right fun hstage => ?_
        have hholds : call.stage.holds = true := by
          rcases hstage with hstage | ⟨how, hstage⟩ <;> rw [hstage] <;> rfl
        refine ⟨index, _, hok.lock.mp hholds, List.getElem?_set_self hlt, ?_⟩
        exact hstage.symm.imp_right fun hawaiting => ⟨hawaiting, error, rfl⟩
    · left
      obtain ⟨hcontent, -⟩ := hline l rfl
      refine ⟨consumed ++ l ++ [10], ?_, Or.inr ?_⟩
      · show s.output = _
        rw [hconsumed, hcontent, List.append_assoc, List.append_assoc, List.singleton_append]
      · rw [List.getLast?_concat]

lemma read (h : Inv rules s) (hcall : s.calls[index]? = some call)
    (hnext : s.read? index call = some s') : Inv rules s' := by
  rw [read?] at hnext
  split at hnext
  next hreading =>
    obtain ⟨⟨line, stdout⟩, hline, rfl⟩ := Option.map_eq_some_iff.mp hnext
    refine h.readDone hcall hreading ?_
    rintro l rfl
    obtain ⟨hcontent, hfree, -⟩ := readProtocolFrame_ok hline
    exact ⟨hcontent, hfree⟩
  next => cases hnext

/-! ### The process and the callers -/

lemma isLineOf_append {output line : List UInt8} (h : IsLineOf output line) (piece : List UInt8) :
    IsLineOf (output ++ piece) line := by
  obtain ⟨before, behind, rfl, hline, hbefore⟩ := h
  refine ⟨before, behind ++ piece, ?_, hline, hbefore⟩
  rw [List.append_assoc, List.cons_append]

lemma writes (h : Inv rules s) (piece : List UInt8) : Inv rules { s with
      stdout := { s.stdout with pieces := s.stdout.pieces ++ [piece] }
      output := s.output ++ piece } :=
  { calls := fun i call hcall => by
      have hok := h.calls i call hcall
      exact
        { lock := hok.lock
          passed := hok.passed
          shut := hok.shut
          fails := hok.fails
          reading := hok.reading
          line := fun line hline => isLineOf_append (hok.line line hline) piece
          paired := fun value hvalue => by
            obtain ⟨line, hline, hanswers⟩ := hok.paired value hvalue
            exact ⟨line, isLineOf_append hline piece, hanswers⟩ }
    bound := h.bound
    killed := h.killed
    oneReader := h.oneReader
    clean := by
      refine h.clean.imp (fun hclean => ?_) fun hstuck => ⟨hstuck.noReader, hstuck.doomed⟩
      obtain ⟨consumed, hconsumed, hend⟩ := hclean
      refine ⟨consumed, ?_, hend⟩
      show s.output ++ piece = _
      rw [hconsumed, BufferedReader.content, BufferedReader.content, List.flatten_append,
        List.flatten_singleton, List.append_assoc, List.append_assoc]
    broken := h.broken
    dead := h.dead }

lemma addCall (h : Inv rules s) (request : Option AdapterRequest) :
    Inv rules { s with calls := s.calls ++ [({ request } : AdapterCall)] } := by
  have hsplit : ∀ (i : ℕ) (call : AdapterCall),
      (s.calls ++ [({ request } : AdapterCall)])[i]? = some call →
      s.calls[i]? = some call ∨ i = s.calls.length ∧ call = ({ request } : AdapterCall) := by
    intro i call hcall
    rcases Nat.lt_or_ge i s.calls.length with hlt | hge
    · rw [List.getElem?_append_left hlt] at hcall
      exact Or.inl hcall
    · rw [List.getElem?_append_right hge] at hcall
      obtain ⟨hi, hcall⟩ := List.getElem?_eq_some_iff.mp hcall
      rw [List.length_singleton] at hi
      exact Or.inr ⟨by omega, by rw [← hcall, List.getElem_singleton]⟩
  exact
    { calls := fun i call hcall => by
        rcases hsplit i call hcall with hold | ⟨rfl, rfl⟩
        · have hok := h.calls i call hold
          exact
            { lock := hok.lock
              passed := hok.passed
              shut := hok.shut
              fails := hok.fails
              reading := hok.reading
              line := hok.line
              paired := hok.paired }
        · exact
            { lock := iff_of_false (fun hno => by cases hno) fun hmu =>
                Nat.lt_irrefl _ (h.bound _ hmu)
              passed := fun hno => by cases hno
              shut := fun hno => by cases hno
              fails := fun how hno => by rcases hno with hno | hno <;> cases hno
              reading := fun hno => by cases hno
              line := fun line hno => by cases hno
              paired := fun value hno => by cases hno }
      bound := fun i hi => by
        rw [List.length_append]
        exact Nat.lt_add_right _ (h.bound i hi)
      killed := h.killed
      oneReader := fun i j call other hcall hother hreading hreading' => by
        rcases hsplit i call hcall with hi | ⟨-, rfl⟩
        · rcases hsplit j other hother with hj | ⟨-, rfl⟩
          · exact h.oneReader i j call other hi hj hreading hreading'
          · cases hreading'
        · cases hreading
      clean := by
        refine h.clean.imp_right fun hstuck => ⟨fun call hmem => ?_, hstuck.doomed.imp_right ?_⟩
        · rcases List.mem_append.mp hmem with hmem | hmem
          · exact hstuck.noReader call hmem
          · obtain rfl := List.mem_singleton.mp hmem
            exact fun hno => by cases hno
        · rintro ⟨i, call, hi, hcall, hdoom⟩
          refine ⟨i, call, hi, ?_, hdoom⟩
          rw [List.getElem?_append_left (h.bound i hi)]
          exact hcall
      broken := h.broken
      dead := h.dead }

lemma next (h : Inv rules s) {step : AdapterStep} (hnext : s.next? rules step = some s') :
    Inv rules s' := by
  cases step with
  | call request =>
    cases hnext
    exact h.addCall request
  | go index choice =>
    obtain ⟨call, hcall, hnext⟩ := Option.bind_eq_some_iff.mp hnext
    exact h.go hcall hnext
  | read index =>
    obtain ⟨call, hcall, hnext⟩ := Option.bind_eq_some_iff.mp hnext
    exact h.read hcall hnext
  | readFails index =>
    obtain ⟨call, hcall, hnext⟩ := Option.bind_eq_some_iff.mp hnext
    split at hnext
    next hreading =>
      cases hnext
      exact h.readDone hcall hreading fun l hno => by cases hno
    next => cases hnext
  | writes piece =>
    obtain ⟨-, ⟨⟩⟩ := Option.ite_none_left_eq_some.mp hnext
    exact h.writes piece
  | endsOutput | exits =>
    cases hnext
    exact h.happens rfl rfl rfl rfl rfl rfl h.broken h.dead

lemma wellPaired (h : Inv rules s) : s.WellPaired rules := by
  have hholds : ∀ stage : CallStage, stage.outstanding = true → stage.holds = true := by
    intro stage hstage
    cases stage <;> first | rfl | cases hstage
  exact
    { paired := fun call hmem => by
        obtain ⟨i, hi⟩ := List.mem_iff_getElem?.mp hmem
        exact (h.calls i call hi).paired
      single := fun i j call other hcall hother hout hout' => by
        have hi := (h.calls i call hcall).lock.mp (hholds _ hout)
        have hj := (h.calls j other hother).lock.mp (hholds _ hout')
        exact Option.some.inj (hi.symm.trans hj)
      broken := h.broken }

end Inv

end ProcessAdapter

/-! ## The results -/

/-- An adapter never pairs a response with another request, and lines are read as they are. -/
theorem neverMispairs (rules : AdapterRules) : NeverMispairs rules where
  wellPaired s hreach := by
    refine ProcessAdapter.Inv.wellPaired (hreach.invariant ?_ fun _ _ _ hs _ hnext => hs.next hnext)
    rintro s ⟨size, hpos, rfl⟩
    exact
      { calls := fun i call hcall => by cases hcall
        bound := fun i hi => by cases hi
        killed := fun hno => by cases hno
        oneReader := fun i j call other hcall => by cases hcall
        clean := Or.inl ⟨[], rfl, Or.inl rfl⟩
        broken := List.Pairwise.nil
        dead := fun event hmem => by cases hmem }
  readsLine reader line := by
    constructor
    · rintro ⟨rest, hread⟩
      obtain ⟨hcontent, hrest⟩ := readProtocolFrame_ok hread
      exact ⟨rest.content, hcontent, hrest⟩
    · rintro ⟨behind, hcontent, hline, hne, hfits⟩
      exact exists_readProtocolFrame hcontent hline hne hfits
  leavesRest reader rest line hread := (readProtocolFrame_ok hread).1
  completes reader hsome := readProtocolFrame_ne_none hsome

/-- An empty line is not read. -/
theorem not_readsEveryLine : ¬∀ (reader : BufferedReader UInt8) (line behind : List UInt8),
    reader.content = line ++ 10 :: behind → 10 ∉ line → line.length ≤ maxFrameBytes →
      ∃ rest, readProtocolFrame reader = some (.ok line, rest) := by
  intro h
  obtain ⟨rest, hread⟩ := h ⟨16, by decide, [10], [], true⟩ [] [] rfl List.not_mem_nil
    (Nat.zero_le _)
  exact (readProtocolFrame_ok hread).2.2.1 rfl

end Free4Chat
