import Free4Chat.Data.ListFilterMap
import Free4Chat.Harness.TurnResult
import Mathlib.Data.List.Infix

/-!
# Exclusion of Controls

When a reply is parsed well. A reply whose closing block combines a line to leave and a line of
targets is parsed well exactly if its last two control lines are of different kinds, or a marker of
Task output is in it: the parser compares the last control line with the one before it only.

* `collectTargets_eq`: the targets are the distinct ids in order, up to the limit.
* `envelopeIDs?_eq_some_iff`: the grammar of the line of targets.
* `wellParsed_iff`: when a reply is parsed well.
-/

namespace Free4Chat

/-! ## Targets -/

variable {ids : List Text}

lemma collectTargets_append : ∀ {targets seen : List Text}, (∀ id, id ∈ seen ↔ id ∈ targets) →
      targets.length ≤ maxOutboundTargets →
      collectTargets targets seen ids = targets ++
        (ids.filter fun id => decide (id ∉ targets)).eraseDups.take
          (maxOutboundTargets - targets.length) := by
  induction ids with
  | nil =>
    intro targets seen _ _
    rw [collectTargets, List.filter_nil, List.eraseDups_nil, List.take_nil, List.append_nil]
  | cons id ids ih =>
    intro targets seen hseen hlength
    rw [collectTargets]
    by_cases hmem : id ∈ targets
    · rw [if_pos ((hseen id).mpr hmem), ih hseen hlength, List.filter_cons,
        if_neg (by rwa [decide_eq_true_eq, not_not])]
    · rw [if_neg fun h => hmem ((hseen id).mp h), List.filter_cons, if_pos (decide_eq_true hmem)]
      split
      next hfull => rw [hfull, Nat.sub_self, List.take_zero, List.append_nil]
      next hroom =>
        have hlt : targets.length < maxOutboundTargets := Nat.lt_of_le_of_ne hlength hroom
        obtain ⟨room, hsub⟩ : ∃ room, maxOutboundTargets - targets.length = room + 1 :=
          ⟨maxOutboundTargets - targets.length - 1, by omega⟩
        have hrest : maxOutboundTargets - (targets ++ [id]).length = room := by
          rw [List.length_append, List.length_singleton]
          omega
        have hunseen : ∀ other, other ∈ targets ++ [id] ↔ other = id ∨ other ∈ targets := by
          intro other
          rw [List.mem_append, List.mem_singleton, or_comm]
        have hfilter := List.filter_unseen ids hunseen
        have hseen' : ∀ other, other ∈ id :: seen ↔ other ∈ targets ++ [id] := fun other => by
          rw [List.mem_cons, List.mem_append, List.mem_singleton, hseen other, or_comm]
        have hlength' : (targets ++ [id]).length ≤ maxOutboundTargets := by
          rw [List.length_append, List.length_singleton]
          exact hlt
        rw [ih hseen' hlength', hrest, hfilter, hsub, List.eraseDups_cons, List.take_succ_cons,
          List.append_assoc, List.singleton_append]

lemma collectTargets_eq (ids : List Text) :
    collectTargets [] [] ids = ids.eraseDups.take maxOutboundTargets := by
  rw [collectTargets_append (fun _ => Iff.rfl) (Nat.zero_le _), List.nil_append,
    List.filter_eq_self.mpr fun id _ => decide_eq_true List.not_mem_nil]
  rfl

lemma collectTargets_ne_nil (h : ids ≠ []) : collectTargets [] [] ids ≠ [] := by
  obtain ⟨id, ids, rfl⟩ := List.exists_cons_of_ne_nil h
  rw [collectTargets_eq, List.eraseDups_cons]
  exact List.cons_ne_nil _ _

lemma ne_of_isTargetIDChar {c other : Char} (h : isTargetIDChar c = true)
    (hother : isTargetIDChar other = false) : c ≠ other := by
  rintro rfl
  rw [h] at hother
  cases hother

lemma not_mem_of_validTargetID {id : Text} {other : Char} (h : validTargetID id = true)
    (hother : isTargetIDChar other = false) : other ∉ id := by
  rw [validTargetID, Bool.and_eq_true] at h
  intro hmem
  exact ne_of_isTargetIDChar (List.all_eq_true.mp h.2 other hmem) hother rfl

lemma exists_between {line : Text} (hfront : targetsEnvelopePrefix <+: line)
    (hback : targetsEnvelopeSuffix <:+ line) :
    ∃ between, line = targetsEnvelopePrefix ++ between ++ targetsEnvelopeSuffix := by
  obtain ⟨rest, rfl⟩ := hfront
  have hlong : targetsEnvelopeSuffix.length ≤ rest.length := by
    -- The brackets of the second end are not in the first one.
    have hcount := hback.sublist.count_le ']'
    have hnone : targetsEnvelopePrefix.count ']' = 0 := by decide
    have hboth : targetsEnvelopeSuffix.count ']' = targetsEnvelopeSuffix.length := by decide
    rw [List.count_append, hnone, Nat.zero_add, hboth] at hcount
    exact hcount.trans List.count_le_length
  obtain ⟨between, rfl⟩ := List.suffix_of_suffix_length_le hback ⟨targetsEnvelopePrefix, rfl⟩ hlong
  exact ⟨between, (List.append_assoc _ _ _).symm⟩

lemma take_drop_between (between : Text) :
    ((targetsEnvelopePrefix ++ between ++ targetsEnvelopeSuffix).take
      ((targetsEnvelopePrefix ++ between ++ targetsEnvelopeSuffix).length -
        targetsEnvelopeSuffix.length)).drop targetsEnvelopePrefix.length = between := by
  have hlength : (targetsEnvelopePrefix ++ between ++ targetsEnvelopeSuffix).length -
      targetsEnvelopeSuffix.length = (targetsEnvelopePrefix ++ between).length := by
    rw [List.length_append, Nat.add_sub_cancel]
  rw [hlength, List.take_left, List.drop_left]

lemma envelopeIDs?_eq_some_iff {line : Text} :
    envelopeIDs? line = some ids ↔ IsTargetsEnvelope line ids := by
  rw [envelopeIDs?]
  constructor
  · intro h
    obtain ⟨⟨hfront, hback⟩, h⟩ := Option.ite_none_right_eq_some.mp h
    obtain ⟨between, rfl⟩ := exists_between hfront hback
    obtain ⟨hvalid, h⟩ := Option.ite_none_right_eq_some.mp h
    rw [take_drop_between] at h hvalid
    obtain rfl := Option.some.inj h
    refine ⟨?_, List.splitOn_ne_nil _ _, List.all_eq_true.mp hvalid⟩
    rw [List.intercalate_splitOn]
  · rintro ⟨rfl, hne, hvalid⟩
    have hsplit : ([','].intercalate ids).splitOn ',' = ids :=
      List.splitOn_intercalate ',' (fun id hid => not_mem_of_validTargetID (hvalid id hid) rfl) hne
    rw [if_pos ⟨⟨_, List.append_assoc _ _ _ |>.symm⟩, ⟨_, rfl⟩⟩, take_drop_between, hsplit]
    exact if_pos (List.all_eq_true.mpr hvalid)

/-! ## Control lines -/

lemma not_mem_intercalate {c : Char}
    (hvalid : ∀ id ∈ ids, validTargetID id = true) (hc : isTargetIDChar c = false)
    (hcomma : c ≠ ',') : c ∉ [','].intercalate ids := by
  induction ids with
  | nil => exact List.not_mem_nil
  | cons id ids ih =>
    have hid := not_mem_of_validTargetID (hvalid id List.mem_cons_self) hc
    by_cases hids : ids = []
    · rwa [hids, List.intercalate_singleton]
    · rw [List.intercalate_cons_of_ne_nil hids, List.mem_append, List.mem_append,
        List.mem_singleton]
      rintro ((hmem | heq) | hrest)
      · exact hid hmem
      · exact hcomma heq
      · exact ih (fun other hother => hvalid other (List.mem_cons_of_mem _ hother)) hrest

lemma shape_of_isControl {line : Text} (h : isControl line = true) :
    (∃ back, line = '[' :: back) ∧ (∃ front, line = front ++ [']']) ∧ '\n' ∉ line ∧ '/' ∉ line ∧
      ' ' ∈ line := by
  rw [isControl, Bool.or_eq_true, decide_eq_true_eq, Option.isSome_iff_exists] at h
  rcases h with rfl | ⟨ids, hids⟩
  · exact ⟨⟨_, rfl⟩, ⟨"[[free4chat:lifecycle leave]".toList, rfl⟩, by decide, by decide, by decide⟩
  · obtain ⟨rfl, -, hvalid⟩ := envelopeIDs?_eq_some_iff.mp hids
    have hnot : ∀ c, isTargetIDChar c = false → c ≠ ',' → c ∉ targetsEnvelopePrefix →
        c ∉ targetsEnvelopeSuffix →
          c ∉ targetsEnvelopePrefix ++ [','].intercalate ids ++ targetsEnvelopeSuffix := by
      intro c hc hcomma hfront hback hmem
      rcases List.mem_append.mp hmem with hmem | hmem
      · rcases List.mem_append.mp hmem with hmem | hmem
        · exact hfront hmem
        · exact not_mem_intercalate hvalid hc hcomma hmem
      · exact hback hmem
    refine ⟨⟨_, rfl⟩, ⟨targetsEnvelopePrefix ++ [','].intercalate ids ++ [']'], ?_⟩, ?_, ?_, ?_⟩
    · rw [List.append_assoc _ [']']]
      rfl
    · exact hnot _ (by decide) (by decide) (by decide) (by decide)
    · exact hnot _ (by decide) (by decide) (by decide) (by decide)
    · exact List.mem_append_left _ (List.mem_append_left _ (by decide))

lemma envelopeIDs?_leave : envelopeIDs? lifecycleLeaveEnvelope = none := by decide

lemma lines_trim_of_isControl {line : Text} (h : isControl line = true) {front blanks : List Text}
    (hblanks : ∀ blank ∈ blanks, blank.all isSpace = true) :
    ∃ front', linesOf ((['\n'].intercalate (front ++ line :: blanks)).trim isSpace) =
      front' ++ [line] := by
  obtain ⟨⟨back, hhead⟩, ⟨before, hlast⟩, hnewline, -⟩ := shape_of_isControl h
  have hne : line ≠ [] := by
    rw [hhead]
    exact List.cons_ne_nil _ _
  refine List.exists_splitOn_trim rfl hne ?_ ?_ hnewline fun blank hmem =>
    List.all_eq_true.mp (hblanks blank hmem)
  · simp only [hhead, List.head_cons]
    rfl
  · simp only [hlast, List.getLast_append_singleton]
    rfl

/-! ## Parsing -/

variable {text : Text} {front : List Text} {line : Text}

lemma exists_last_line (h : text.trim isSpace ≠ []) :
    ∃ front line, linesOf (text.trim isSpace) = front ++ [line] ∧ line.all isSpace = false := by
  obtain ⟨front, line, hlines⟩ :=
    (List.eq_nil_or_concat' (linesOf (text.trim isSpace))).resolve_left (List.splitOn_ne_nil _ _)
  refine ⟨front, line, hlines, ?_⟩
  -- The last character of the text is in the last line, or is the end of a line.
  have htext : ['\n'].intercalate (front ++ [line]) = text.trim isSpace := by
    rw [← hlines, linesOf, List.intercalate_splitOn]
  by_contra hblank
  have hall := List.all_eq_true.mp (Bool.not_eq_false _ ▸ hblank)
  by_cases hfront : front = []
  · rw [hfront, List.nil_append, List.intercalate_singleton] at htext
    have hnil := List.trim_eq_nil_iff.mpr hall
    rw [htext, List.trim_trim] at hnil
    exact h hnil
  · rw [List.intercalate_append hfront (List.cons_ne_nil _ _), List.intercalate_singleton] at htext
    have hend : ∀ c ∈ '\n' :: line, isSpace c = true := fun c hc => by
      rcases List.mem_cons.mp hc with rfl | hc
      · rfl
      · exact hall c hc
    have hcut := List.trim_append_blank (l := ['\n'].intercalate front) hend
    rw [htext, List.trim_trim] at hcut
    have hlength := congrArg List.length (htext.trans hcut)
    have hle : ((['\n'].intercalate front).trim isSpace).length ≤
        (['\n'].intercalate front).length :=
      ((List.rdropWhile_prefix _ _).length_le).trans (List.dropWhile_suffix _).length_le
    rw [List.length_append, List.length_cons] at hlength
    omega

lemma bodyOf_append (front : List Text) (line : Text) :
    bodyOf (front ++ [line]) = (['\n'].intercalate front).trim isSpace := by
  rw [bodyOf, List.dropLast_concat]

lemma parseLifecycleIntent_of_lines (h : text.trim isSpace ≠ [])
    (hlines : linesOf (text.trim isSpace) = front ++ [line]) :
    parseLifecycleIntent text = if line = lifecycleLeaveEnvelope then
      ((['\n'].intercalate front).trim isSpace, .leave) else (text.trim isSpace, .none) := by
  rw [parseLifecycleIntent]
  dsimp only
  rw [if_neg h, hlines, List.getLastD_concat, bodyOf_append, ite_not]

lemma parseOutboundTargets_of_lines (h : text.trim isSpace ≠ [])
    (hlines : linesOf (text.trim isSpace) = front ++ [line]) : parseOutboundTargets text =
      match envelopeIDs? line with
      | none => (text.trim isSpace, [])
      | some ids => ((['\n'].intercalate front).trim isSpace, collectTargets [] [] ids) := by
  rw [parseOutboundTargets]
  dsimp only
  rw [if_neg h, hlines, List.getLastD_concat, bodyOf_append]
  cases hids : envelopeIDs? line with
  | none => rfl
  | some ids =>
    -- There is a target in a valid line.
    exact if_neg (collectTargets_ne_nil (envelopeIDs?_eq_some_iff.mp hids).2.1)

lemma parseLifecycleIntent_cases (text : Text) :
    parseLifecycleIntent text = (text.trim isSpace, .none) ∨
      ∃ front, linesOf (text.trim isSpace) = front ++ [lifecycleLeaveEnvelope] ∧
        parseLifecycleIntent text = ((['\n'].intercalate front).trim isSpace, .leave) := by
  by_cases h : text.trim isSpace = []
  · rw [parseLifecycleIntent, if_pos h, h]
    exact Or.inl rfl
  · obtain ⟨front, line, hlines, -⟩ := exists_last_line h
    rw [parseLifecycleIntent_of_lines h hlines]
    split
    next hleave => exact Or.inr ⟨front, hleave ▸ hlines, rfl⟩
    next => exact Or.inl rfl

lemma parseOutboundTargets_cases (text : Text) :
    parseOutboundTargets text = (text.trim isSpace, []) ∨
      ∃ front line ids, linesOf (text.trim isSpace) = front ++ [line] ∧
        IsTargetsEnvelope line ids ∧
          parseOutboundTargets text =
            ((['\n'].intercalate front).trim isSpace, ids.eraseDups.take maxOutboundTargets) ∧
          (parseOutboundTargets text).2 ≠ [] := by
  by_cases h : text.trim isSpace = []
  · rw [parseOutboundTargets, if_pos h, h]
    exact Or.inl rfl
  · obtain ⟨front, line, hlines, -⟩ := exists_last_line h
    rw [parseOutboundTargets_of_lines h hlines]
    cases hids : envelopeIDs? line with
    | none => exact Or.inl rfl
    | some ids =>
      have hline := envelopeIDs?_eq_some_iff.mp hids
      refine Or.inr ⟨front, line, ids, hlines, hline, ?_, collectTargets_ne_nil hline.2.1⟩
      rw [← collectTargets_eq]

lemma parseOutboundResult_cases (text : Text) :
    parseOutboundResult text = (text.trim isSpace, [], .none) ∨
      (∃ front body, linesOf (text.trim isSpace) = front ++ [lifecycleLeaveEnvelope] ∧
        parseOutboundResult text = (body, [], .leave)) ∨
      ∃ front line ids body, linesOf (text.trim isSpace) = front ++ [line] ∧
        IsTargetsEnvelope line ids ∧ ids.eraseDups.take maxOutboundTargets ≠ [] ∧
          parseOutboundResult text = (body, ids.eraseDups.take maxOutboundTargets, .none) := by
  rw [parseOutboundResult]
  rcases parseLifecycleIntent_cases text with hnone | ⟨front, hlines, hleave⟩
  · rw [hnone]
    rcases parseOutboundTargets_cases text with hno | ⟨front, line, ids, hlines, hline, heq, hne⟩
    · rw [hno]
      exact Or.inl rfl
    · rw [heq] at hne ⊢
      dsimp only
      rw [if_neg (not_not.mpr rfl)]
      split
      next => exact Or.inl rfl
      next => exact Or.inr (Or.inr ⟨front, line, ids, _, hlines, hline, hne, rfl⟩)
  · rw [hleave]
    dsimp only
    have hne : LifecycleIntent.leave ≠ .none := by decide
    rw [if_pos hne]
    split
    next => exact Or.inl rfl
    next => exact Or.inr (Or.inl ⟨front, _, hlines, rfl⟩)

/-! ## Combinations -/

/-- The last two control lines of the closing block are of one kind. -/
def EndsAlike (text : Text) : Prop :=
  ∃ front before last, controlLines text = front ++ [before, last] ∧
    (before = lifecycleLeaveEnvelope ↔ last = lifecycleLeaveEnvelope)

lemma envelopeIDs?_of_isControl (h : isControl line = true) (hne : line ≠ lifecycleLeaveEnvelope) :
    ∃ ids, envelopeIDs? line = some ids := by
  rw [isControl, Bool.or_eq_true, decide_eq_true_eq] at h
  exact Option.isSome_iff_exists.mp (h.resolve_left hne)

lemma exists_blanks_of_filter {lines controls : List Text}
    (h : (lines.rtakeWhile fun line => isControl line || line.all isSpace).filter isControl =
      controls ++ [line]) :
    isControl line = true ∧ ∃ front blanks, lines = front ++ line :: blanks ∧
      ∀ blank ∈ blanks, blank.all isSpace = true := by
  induction lines using List.reverseRecOn with
  | nil =>
    rw [List.rtakeWhile_nil, List.filter_nil] at h
    exact absurd h.symm (List.append_ne_nil_of_right_ne_nil _ (List.cons_ne_nil _ _))
  | append_singleton lines other ih =>
    rw [List.rtakeWhile_concat] at h
    split at h
    next hmember =>
      rw [List.filter_append] at h
      cases hcontrol : isControl other with
      | true =>
        rw [List.filter_singleton, hcontrol, cond_true] at h
        obtain ⟨-, hlast⟩ := List.append_inj' h rfl
        obtain rfl := List.singleton_inj.mp hlast
        exact ⟨hcontrol, lines, [], rfl, fun _ hmem => absurd hmem List.not_mem_nil⟩
      | false =>
        rw [List.filter_singleton, hcontrol, cond_false, List.append_nil] at h
        obtain ⟨hline, front, blanks, rfl, hblanks⟩ := ih h
        refine ⟨hline, front, blanks ++ [other], by simp, fun blank hmem => ?_⟩
        rcases List.mem_append.mp hmem with hmem | hmem
        · exact hblanks blank hmem
        · obtain rfl := List.mem_singleton.mp hmem
          rwa [hcontrol, Bool.false_or] at hmember
    next =>
      rw [List.filter_nil] at h
      exact absurd h.symm (List.append_ne_nil_of_right_ne_nil _ (List.cons_ne_nil _ _))

lemma controlLines_of_lines (hlines : linesOf (text.trim isSpace) = front ++ [line])
    (hline : line.all isSpace = false) : (isControl line = false ∧ controlLines text = []) ∨
      isControl line = true ∧ controlLines text =
        (front.rtakeWhile fun line => isControl line || line.all isSpace).filter isControl ++
          [line] := by
  rw [controlLines, hlines, List.rtakeWhile_concat, hline, Bool.or_false]
  cases hcontrol : isControl line
  · exact Or.inl ⟨rfl, rfl⟩
  · refine Or.inr ⟨rfl, ?_⟩
    rw [if_pos rfl, List.filter_append, List.filter_singleton, hcontrol, cond_true]

/-- Of two control lines that end a text the parser looks at both: it executes the last one if they
are of one kind. -/
lemma parseOutboundResult_of_two {before : Text} {blanks : List Text}
    (hlines : linesOf (text.trim isSpace) = front ++ before :: blanks ++ [line])
    (hbefore : isControl before = true) (hline : isControl line = true)
    (hblanks : ∀ blank ∈ blanks, blank.all isSpace = true) :
    ((parseOutboundResult text).2.1 = [] ∧ (parseOutboundResult text).2.2 = .none) ↔
      ¬(before = lifecycleLeaveEnvelope ↔ line = lifecycleLeaveEnvelope) := by
  have htext : text.trim isSpace ≠ [] := by
    intro hnil
    rw [hnil] at hlines
    have hlength := congrArg List.length hlines
    simp [linesOf] at hlength
    omega
  -- What is in front of the last line ends with the other one.
  obtain ⟨front', hbody⟩ := @lines_trim_of_isControl before hbefore front blanks hblanks
  obtain ⟨body, hdef⟩ : ∃ body,
    (['\n'].intercalate (front ++ before :: blanks)).trim isSpace = body := ⟨_, rfl⟩
  have htrim : body.trim isSpace = body := by rw [← hdef, List.trim_trim]
  rw [hdef] at hbody
  have hne : body.trim isSpace ≠ [] := by
    rw [htrim]
    rintro rfl
    obtain ⟨⟨back, hback⟩, -⟩ := shape_of_isControl hbefore
    have hsame : ([] : List Text) ++ [[]] = front' ++ [before] := hbody
    obtain ⟨-, hnil⟩ := List.append_inj' hsame rfl
    rw [hback] at hnil
    cases hnil
  rw [← htrim] at hbody
  have htargets : before = lifecycleLeaveEnvelope ∧ (parseOutboundTargets body).2 = [] ∨
      before ≠ lifecycleLeaveEnvelope ∧ (parseOutboundTargets body).2 ≠ [] := by
    rw [parseOutboundTargets_of_lines hne hbody]
    by_cases hleave : before = lifecycleLeaveEnvelope
    · rw [hleave, envelopeIDs?_leave]
      exact Or.inl ⟨rfl, rfl⟩
    · obtain ⟨ids, hids⟩ := envelopeIDs?_of_isControl hbefore hleave
      rw [hids]
      exact Or.inr ⟨hleave, collectTargets_ne_nil (envelopeIDs?_eq_some_iff.mp hids).2.1⟩
  have hlifecycle := parseLifecycleIntent_of_lines hne hbody
  have hcontrol : LifecycleIntent.leave ≠ .none := by decide
  rw [parseOutboundResult, parseLifecycleIntent_of_lines htext hlines, hdef]
  by_cases hleave : line = lifecycleLeaveEnvelope
  · rw [if_pos hleave]
    dsimp only
    rw [if_pos hcontrol]
    rcases htargets with ⟨hyes, hnil⟩ | ⟨hno, hsome⟩
    · rw [if_neg (not_not.mpr hnil)]
      exact iff_of_false (fun h => hcontrol h.2) (not_not.mpr (iff_of_true hyes hleave))
    · rw [if_pos hsome]
      exact iff_of_true ⟨rfl, rfl⟩ fun hsame => hno (hsame.mpr hleave)
  · rw [if_neg hleave]
    dsimp only
    rw [if_neg (not_not.mpr rfl), parseOutboundTargets_of_lines htext hlines]
    obtain ⟨ids, hids⟩ := envelopeIDs?_of_isControl hline hleave
    have hcollect := collectTargets_ne_nil (envelopeIDs?_eq_some_iff.mp hids).2.1
    rw [hids]
    dsimp only
    rw [hdef, hlifecycle]
    by_cases hyes : before = lifecycleLeaveEnvelope
    · rw [if_pos hyes, if_pos ⟨hcollect, hcontrol⟩]
      exact iff_of_true ⟨rfl, rfl⟩ fun hsame => hleave (hsame.mp hyes)
    · rw [if_neg hyes, if_neg fun h => h.2 rfl]
      exact iff_of_false (fun h => hcollect h.1) (not_not.mpr (iff_of_false hyes hleave))

/-! ## Generated Apps -/

lemma indexOf?_eq_some {sub : Text} {start : ℕ} (h : indexOf? sub text = some start) :
    sub <+: text.drop start ∧ ∀ other < start, ¬sub <+: text.drop other := by
  obtain ⟨hlt, hfound, hnone⟩ := List.findIdx?_eq_some_iff_getElem.mp h
  rw [List.getElem_tails] at hfound
  refine ⟨List.isPrefixOf_iff_prefix.mp hfound, fun other hother hoccurs => ?_⟩
  refine hnone other hother ?_
  rw [List.getElem_tails]
  exact List.isPrefixOf_iff_prefix.mpr hoccurs

lemma indexOf?_eq_none {sub : Text} (h : indexOf? sub text = none) (start : ℕ) :
    ¬sub <+: text.drop start := by
  intro hoccurs
  have hnot := List.findIdx?_eq_none_iff.mp h (text.drop start)
    ((List.mem_tails _ _).mpr (List.drop_suffix start text))
  rw [List.isPrefixOf_iff_prefix.mpr hoccurs] at hnot
  cases hnot

lemma close_suffix_of_open {front behind : Text}
    (h : taskOutputClose <:+ front ++ taskOutputOpen ++ behind) : taskOutputClose <:+ behind := by
  rcases List.suffix_or_suffix_of_suffix h (List.suffix_append _ behind) with hclose | hbehind
  · exact hclose
  · obtain ⟨overlap, hoverlap⟩ := hbehind
    have hends : overlap <:+ front ++ taskOutputOpen := by
      rw [← hoverlap] at h
      exact ((List.suffix_append_inj_of_length_eq rfl).mp h).1
    have hbegins : overlap <+: taskOutputClose := ⟨behind, hoverlap⟩
    have hwithin : overlap <:+ taskOutputOpen :=
      List.suffix_of_suffix_length_le hends (List.suffix_append _ _)
        (hbegins.length_le.trans (by decide))
    -- No beginning of the one is an end of the other.
    have hall : taskOutputClose.inits.all (fun overlap =>
        overlap = [] || !overlap.isSuffixOf taskOutputOpen) = true := by decide
    have hnil := List.all_eq_true.mp hall overlap ((List.mem_inits _ _).mpr hbegins)
    rw [List.isSuffixOf_iff_suffix.mpr hwithin, Bool.not_true, Bool.or_false,
      decide_eq_true_eq] at hnil
    rw [← hoverlap, hnil, List.nil_append]

lemma not_prefix_drop_open {k : ℕ} (hpos : 0 < k) (hlt : k < taskOutputOpen.length) :
    ¬taskOutputOpen.drop k <+: taskOutputOpen := by
  have hall : (List.range taskOutputOpen.length).all (fun k =>
      k = 0 || !(taskOutputOpen.drop k).isPrefixOf taskOutputOpen) = true := by decide
  have hk := List.all_eq_true.mp hall k (List.mem_range.mpr hlt)
  rw [decide_eq_false (Nat.ne_of_gt hpos), Bool.false_or, Bool.not_eq_true'] at hk
  intro hoverlap
  rw [List.isPrefixOf_iff_prefix.mpr hoverlap] at hk
  cases hk

lemma eq_of_occurs {front behind other rest : Text}
    (hsame : front ++ (taskOutputOpen ++ behind) = other ++ (taskOutputOpen ++ rest))
    (hfirst : ∀ k < front.length, ¬taskOutputOpen <+: (front ++ (taskOutputOpen ++ behind)).drop k)
    (hnone : ∀ k, ¬taskOutputOpen <+: behind.drop k) : other = front := by
  have hoccurs : taskOutputOpen <+: (front ++ (taskOutputOpen ++ behind)).drop other.length := by
    rw [hsame, List.drop_left]
    exact List.prefix_append _ _
  rcases Nat.lt_trichotomy other.length front.length with hlt | heq | hgt
  · exact absurd hoccurs (hfirst _ hlt)
  · exact (List.append_inj hsame heq.symm).1.symm
  · obtain ⟨k, hk⟩ := Nat.exists_eq_add_of_lt hgt
    rw [hk, Nat.add_assoc, List.drop_length_add_append] at hoccurs
    by_cases hwithin : k + 1 < taskOutputOpen.length
    · -- The two occurrences would overlap.
      rw [List.drop_append_of_le_length hwithin.le] at hoccurs
      have hoverlap : taskOutputOpen.drop (k + 1) <+: taskOutputOpen :=
        List.prefix_of_prefix_length_le (List.prefix_append _ behind) hoccurs
          (List.drop_suffix _ _).length_le
      exact absurd hoverlap (not_prefix_drop_open (Nat.succ_pos k) hwithin)
    · obtain ⟨more, hmore⟩ := Nat.exists_eq_add_of_le (Nat.le_of_not_lt hwithin)
      rw [hmore, List.drop_length_add_append] at hoccurs
      exact absurd hoccurs (hnone more)

lemma parseGeneratedAppOutput_eq_some {Bundle : Type} {normalizeHTML : Text → Option Bundle}
    {result : Text × Bundle} (h : parseGeneratedAppOutput normalizeHTML text = some result) :
    taskOutputClose <:+ text.trim isSpace ∧ ∃ before document,
      text.trim isSpace = before ++ taskOutputOpen ++ document ++ taskOutputClose ∧
        ∀ other rest, text.trim isSpace = other ++ taskOutputOpen ++ rest → other = before := by
  rw [parseGeneratedAppOutput] at h
  obtain ⟨hclose, h⟩ := Option.ite_none_left_eq_some.mp h
  rw [not_not] at hclose
  refine ⟨hclose, ?_⟩
  generalize text.trim isSpace = trimmed at h hclose ⊢
  cases hindex : indexOf? taskOutputOpen trimmed with
  | none =>
    rw [hindex] at h
    cases h
  | some start =>
    rw [hindex] at h
    obtain ⟨honce, -⟩ := Option.ite_none_left_eq_some.mp h
    obtain ⟨⟨behind, hbehind⟩, hfirst⟩ := indexOf?_eq_some hindex
    rw [← List.drop_drop, ← hbehind, List.drop_left, Bool.not_eq_true,
      Option.isSome_eq_false_iff, Option.isNone_iff_eq_none] at honce
    have hsplit : trimmed = trimmed.take start ++ (taskOutputOpen ++ behind) := by
      rw [hbehind, List.take_append_drop]
    have hlength : (trimmed.take start).length ≤ start := List.length_take_le _ _
    rw [hsplit] at hfirst hclose ⊢
    generalize trimmed.take start = front at hfirst hclose hlength ⊢
    rw [← List.append_assoc] at hclose
    obtain ⟨document, rfl⟩ := close_suffix_of_open hclose
    refine ⟨front, document, by simp only [List.append_assoc], fun other rest hother => ?_⟩
    rw [List.append_assoc other] at hother
    exact eq_of_occurs hother (fun k hk => hfirst k (hk.trans_le hlength)) (indexOf?_eq_none honce)

lemma not_combines_of_close (h : taskOutputClose <:+ text.trim isSpace) :
    ¬CombinesControls text := by
  rintro ⟨hleave, -⟩
  have htext : text.trim isSpace ≠ [] := by
    intro hnil
    rw [hnil] at h
    exact absurd (List.suffix_nil.mp h) (by decide)
  obtain ⟨front, line, hlines, hline⟩ := exists_last_line htext
  rcases controlLines_of_lines hlines hline with ⟨-, hnone⟩ | ⟨hcontrol, -⟩
  · rw [hnone] at hleave
    cases hleave
  · obtain ⟨-, -, -, hslash, hspace⟩ := shape_of_isControl hcontrol
    have hend : line <:+ text.trim isSpace := by
      have hjoin : ['\n'].intercalate (linesOf (text.trim isSpace)) = text.trim isSpace :=
        List.intercalate_splitOn '\n'
      rw [← hjoin, hlines]
      by_cases hfront : front = []
      · rw [hfront, List.nil_append, List.intercalate_singleton]
      · rw [List.intercalate_append hfront (List.cons_ne_nil _ _), List.intercalate_singleton]
        exact (List.suffix_cons _ _).trans (List.suffix_append _ _)
    -- A control line has a blank and no slash, and the marker has a slash and no blank.
    rcases List.suffix_or_suffix_of_suffix hend h with hwithin | hwithin
    · exact absurd (hwithin.subset hspace) (by decide)
    · exact hslash (hwithin.subset (by decide))

lemma nothing_executed_iff (h : CombinesControls text) :
    ((parseOutboundResult (text.trim isSpace)).2.1 = [] ∧
      (parseOutboundResult (text.trim isSpace)).2.2 = .none) ↔ ¬EndsAlike text := by
  obtain ⟨hleave, targets, htargets, hids⟩ := h
  have htext : text.trim isSpace ≠ [] := by
    intro hnil
    rw [controlLines, hnil] at hleave
    exact absurd hleave (by decide)
  obtain ⟨front, line, hlines, hline⟩ := exists_last_line htext
  rcases controlLines_of_lines hlines hline with ⟨-, hnone⟩ | ⟨hcontrol, hcontrols⟩
  · rw [hnone] at hleave
    cases hleave
  · generalize hrest : (front.rtakeWhile fun line => isControl line || line.all isSpace).filter
      isControl = rest at hcontrols
    rcases List.eq_nil_or_concat' rest with rfl | ⟨controls, before, rfl⟩
    · -- The two lines of different kinds would be one.
      rw [hcontrols, List.nil_append, List.mem_singleton] at hleave htargets
      rw [htargets, ← hleave, envelopeIDs?_leave] at hids
      cases hids
    · obtain ⟨hbefore, front, blanks, rfl, hblanks⟩ := exists_blanks_of_filter hrest
      have hends : EndsAlike text ↔
          (before = lifecycleLeaveEnvelope ↔ line = lifecycleLeaveEnvelope) := by
        constructor
        · rintro ⟨other, first, last, heq, hkind⟩
          rw [hcontrols, List.append_assoc] at heq
          obtain ⟨-, hpair⟩ := List.append_inj' heq rfl
          obtain ⟨rfl, rfl⟩ : before = first ∧ line = last := by simpa using hpair
          exact hkind
        · intro hkind
          refine ⟨controls, before, line, ?_, hkind⟩
          rw [hcontrols, List.append_assoc]
          rfl
      rw [hends]
      rw [← List.trim_trim text] at hlines
      exact parseOutboundResult_of_two hlines hbefore hcontrol hblanks

/-! ## Replies -/

variable {Bundle : Type} {taskRequestID : String}

lemma wellParsed_whole : HarnessTurnResult.WellParsed text taskRequestID
      ({ text := text.trim isSpace } : HarnessTurnResult Bundle) :=
  { atMostOne := ⟨Or.inl rfl, Or.inl rfl⟩
    targets := fun hne => absurd rfl hne
    leave := fun heq => by cases heq
    app := fun hne => absurd rfl hne
    whole := fun _ _ _ => rfl
    combination := fun _ => ⟨rfl, rfl, rfl, rfl⟩ }

lemma wellParsed_app {normalizeHTML : Text → Option Bundle} {result : Text × Bundle} {body : Text}
    (hid : taskRequestID ≠ "")
    (h : parseGeneratedAppOutput normalizeHTML (text.trim isSpace) = some result) :
    HarnessTurnResult.WellParsed text taskRequestID
      ({ text := body, generatedApp := some result.2 } : HarnessTurnResult Bundle) := by
  obtain ⟨hclose, hreply⟩ := parseGeneratedAppOutput_eq_some h
  rw [List.trim_trim] at hclose hreply
  exact
    { atMostOne := ⟨Or.inl rfl, Or.inr ⟨rfl, rfl⟩⟩
      targets := fun hne => absurd rfl hne
      leave := fun heq => by cases heq
      app := fun _ => ⟨hid, hreply⟩
      whole := fun _ _ heq => by cases heq
      combination := fun hcombines => absurd hcombines (not_combines_of_close hclose) }

lemma wellParsed_outbound : HarnessTurnResult.WellParsed text taskRequestID
      ({ text := (parseOutboundResult (text.trim isSpace)).1
         targetParticipantIDs := (parseOutboundResult (text.trim isSpace)).2.1
         lifecycleIntent := (parseOutboundResult (text.trim isSpace)).2.2 } :
        HarnessTurnResult Bundle) ↔ ¬(CombinesControls text ∧ EndsAlike text) := by
  constructor
  · rintro h ⟨hcombines, halike⟩
    obtain ⟨htargets, hlifecycle, -⟩ := h.combination hcombines
    exact (nothing_executed_iff hcombines).mp ⟨htargets, hlifecycle⟩ halike
  · intro h
    have hnothing : CombinesControls text → (parseOutboundResult (text.trim isSpace)).2.1 = [] ∧
        (parseOutboundResult (text.trim isSpace)).2.2 = .none := fun hcombines =>
      (nothing_executed_iff hcombines).mpr fun halike => h ⟨hcombines, halike⟩
    have htrim := List.trim_trim (p := isSpace) text
    rcases parseOutboundResult_cases (text.trim isSpace) with
      heq | ⟨front, body, hlines, heq⟩ | ⟨front, line, ids, body, hlines, hline, hne, heq⟩
    · rw [heq, htrim]
      exact wellParsed_whole
    · rw [heq] at hnothing ⊢
      rw [htrim] at hlines
      exact
        { atMostOne := ⟨Or.inl rfl, Or.inl rfl⟩
          targets := fun hne => absurd rfl hne
          leave := fun _ => ⟨front, hlines⟩
          app := fun hne => absurd rfl hne
          whole := fun _ hnone => by cases hnone
          combination := fun hcombines => by cases (hnothing hcombines).2 }
    · rw [heq] at hnothing ⊢
      rw [htrim] at hlines
      exact
        { atMostOne := ⟨Or.inr rfl, Or.inl rfl⟩
          targets := fun _ => ⟨front, ids, line, hlines, hline, rfl⟩
          leave := fun hleave => by cases hleave
          app := fun hne => absurd rfl hne
          whole := fun hnil => absurd hnil hne
          combination := fun hcombines => absurd (hnothing hcombines).1 hne }

/-- A reply is parsed well exactly if it does not combine controls that are alike at the end, or has
a marker of Task output. -/
theorem wellParsed_iff (normalizeHTML : Text → Option Bundle) (text : Text)
    (taskRequestID : String) :
    (parseHarnessTurnResult normalizeHTML text taskRequestID).WellParsed text taskRequestID ↔
      ¬(CombinesControls text ∧ EndsAlike text ∧
        hasTaskOutputMarker (text.trim isSpace) = false) := by
  rw [parseHarnessTurnResult]
  dsimp only
  split
  next happ =>
    cases hmarker : hasTaskOutputMarker (text.trim isSpace) with
    | true =>
      rw [if_pos rfl]
      exact iff_of_true wellParsed_whole fun h => by cases h.2.2
    | false =>
      rw [if_neg Bool.false_ne_true, wellParsed_outbound, ← and_assoc, and_iff_left rfl]
  next before bundle happ =>
    obtain ⟨hid, happ⟩ := Option.ite_none_right_eq_some.mp happ
    have hclose := (parseGeneratedAppOutput_eq_some happ).1
    rw [List.trim_trim] at hclose
    have hnot : ¬(CombinesControls text ∧ EndsAlike text ∧
        hasTaskOutputMarker (text.trim isSpace) = false) := fun h =>
      not_combines_of_close hclose h.1
    split
    next => exact iff_of_true wellParsed_whole hnot
    next => exact iff_of_true (wellParsed_app hid happ) hnot

/-- A reply that names a target and then asks to leave, twice. -/
def leaveTwice : Text :=
  "[[free4chat:targets ada]]\n[[free4chat:lifecycle leave]]\n[[free4chat:lifecycle leave]]".toList

/-- The reply combines controls, and the intent to leave is executed. -/
theorem not_wellParsed_leaveTwice :
    ¬(parseHarnessTurnResult (fun _ => (none : Option Unit)) leaveTwice "").WellParsed leaveTwice
      "" := by
  intro h
  have hcombines : CombinesControls leaveTwice :=
    ⟨by decide, "[[free4chat:targets ada]]".toList, by decide, by decide⟩
  have hnone := (h.combination hcombines).2.1
  exact absurd hnone (by decide)

end Free4Chat
