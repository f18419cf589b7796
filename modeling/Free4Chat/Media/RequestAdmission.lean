import Free4Chat.Media.CapabilityRequests
import Free4Chat.Media.ChannelOwnership
import Free4Chat.Media.RevokedRoutes
import Mathlib.Data.List.Pairwise

/-!
# Admission of Requests

In every run each request that is executed holds one token, of one id at most one is executed within
a window, and what is sent is bounded and echoes its request.

* `CapabilityResult.wire_bounded_le`: a failure always fits.
* `RequestTransport.Admitted`: the invariant. `RequestTransport.TaskOk`: what is known of a task.
* `RequestTransport.CanRelease.of_holding`: each token that is held can be released.
* `wellAdmitted_of_reachable`: requests are well admitted in every run.
-/

namespace Free4Chat

/-! ## Sizes -/

lemma utf8ByteSize_goEscapeChar_le (c : Char) : (goEscapeChar c).utf8ByteSize ≤ 6 := by
  unfold goEscapeChar
  split_ifs
  all_goals try decide
  exact JsonText.utf8ByteSize_escapeChar_le c

lemma utf8ByteSize_goEscapeChars_le (cs : List Char) :
    (goEscapeChars cs).utf8ByteSize ≤ 6 * cs.length := by
  induction cs with
  | nil => decide
  | cons c cs ih =>
    have hc := utf8ByteSize_goEscapeChar_le c
    rw [goEscapeChars, String.utf8ByteSize_append, List.length_cons]
    omega

lemma utf8ByteSize_goString_le {s : String} {n : ℕ} (h : s.toList.length ≤ n) :
    (goString s).utf8ByteSize ≤ 6 * n + 2 := by
  have hquote : "\"".utf8ByteSize = 1 := by decide
  have hchars := utf8ByteSize_goEscapeChars_le s.toList
  rw [goString, String.utf8ByteSize_append, String.utf8ByteSize_append, hquote]
  omega

lemma length_le_utf8ByteSize (s : String) : s.toList.length ≤ s.utf8ByteSize := by
  have hlist : ∀ cs : List Char, cs.length ≤ (String.ofList cs).utf8ByteSize := by
    intro cs
    induction cs with
    | nil => exact Nat.zero_le _
    | cons c cs ih =>
      have hpos := c.utf8Size_pos
      rw [← List.singleton_append, String.ofList_append, String.utf8ByteSize_append,
        ← String.singleton_eq_ofList, String.utf8ByteSize_singleton, List.length_append,
        List.length_singleton]
      omega
  have hs := hlist s.toList
  rwa [String.ofList_toList] at hs

lemma utf8ByteSize_revision_le {revision : ℤ} (hpos : 1 ≤ revision) (hlt : revision < 2 ^ 63) :
    (toString revision).utf8ByteSize ≤ 19 := by
  obtain ⟨n, rfl⟩ := Int.eq_ofNat_of_zero_le (Int.le_trans (by decide) hpos)
  have hn : n < 10 ^ 19 := by omega
  exact JsonText.utf8ByteSize_number_le (by decide) hn

namespace CapabilityResult

variable {r : CapabilityResult}

lemma wire_bounded_le (hid : r.requestID.toList.length ≤ 64)
    (happ : r.appInstanceID.toList.length ≤ 74) (hpos : 1 ≤ r.bundleRevision)
    (hlt : r.bundleRevision < 2 ^ 63) (htask : r.taskRequestID.toList.length ≤ 64)
    (hagent : r.agentID.toList.length ≤ 128) (hcapability : r.capabilityID.toList.length ≤ 64)
    (hoperation : r.operation.toList.length ≤ 7) :
    r.bounded.wire.utf8ByteSize ≤ capabilityPayloadLimit := by
  have hid := utf8ByteSize_goString_le hid
  have happ := utf8ByteSize_goString_le happ
  have hrevision := utf8ByteSize_revision_le hpos hlt
  have htask := utf8ByteSize_goString_le htask
  have hagent := utf8ByteSize_goString_le hagent
  have hcapability := utf8ByteSize_goString_le hcapability
  have hoperation := utf8ByteSize_goString_le hoperation
  have hframe : r.bounded.frame.utf8ByteSize ≤ 3600 := by
    show (JsonText.object
      [("type", goString "runtime-capability-result"), ("requestId", goString r.requestID),
        ("appInstanceId", goString r.appInstanceID), ("bundleRevision", toString r.bundleRevision),
        ("taskRequestId", goString r.taskRequestID), ("agentParticipantId", goString r.agentID),
        ("capabilityId", goString r.capabilityID), ("operation", goString r.operation),
        ("error", goString "controller_error")]).utf8ByteSize ≤ 3600
    have htype : (goString "runtime-capability-result").utf8ByteSize = 27 := by decide
    have herror : (goString "controller_error").utf8ByteSize = 18 := by decide
    have h1 : (JsonText.string "type").utf8ByteSize = 6 := by decide
    have h2 : (JsonText.string "requestId").utf8ByteSize = 11 := by decide
    have h3 : (JsonText.string "appInstanceId").utf8ByteSize = 15 := by decide
    have h4 : (JsonText.string "bundleRevision").utf8ByteSize = 16 := by decide
    have h5 : (JsonText.string "taskRequestId").utf8ByteSize = 15 := by decide
    have h6 : (JsonText.string "agentParticipantId").utf8ByteSize = 20 := by decide
    have h7 : (JsonText.string "capabilityId").utf8ByteSize = 14 := by decide
    have h8 : (JsonText.string "operation").utf8ByteSize = 11 := by decide
    have h9 : (JsonText.string "error").utf8ByteSize = 7 := by decide
    rw [JsonText.utf8ByteSize_object, JsonText.separatedSize]
    simp only [List.map_cons, List.map_nil, List.sum_cons, List.sum_nil, List.length_cons,
      List.length_nil, htype, herror, h1, h2, h3, h4, h5, h6, h7, h8, h9]
    omega
  have hversion : "1".utf8ByteSize = 1 := by decide
  have hlane : (goString "reliable").utf8ByteSize = 10 := by decide
  have h1 : (JsonText.string "protocolVersion").utf8ByteSize = 17 := by decide
  have h2 : (JsonText.string "appInstanceId").utf8ByteSize = 15 := by decide
  have h3 : (JsonText.string "lane").utf8ByteSize = 6 := by decide
  have h4 : (JsonText.string "payload").utf8ByteSize = 9 := by decide
  have happ' : (goString r.bounded.appInstanceID).utf8ByteSize ≤ 6 * 74 + 2 := happ
  rw [wire, JsonText.utf8ByteSize_object, JsonText.separatedSize, capabilityPayloadLimit]
  simp only [List.map_cons, List.map_nil, List.sum_cons, List.sum_nil, List.length_cons,
    List.length_nil, hversion, hlane, h1, h2, h3, h4]
  omega

lemma fitted?_eq_some {sent : CapabilityResult} (h : r.fitted? = some sent) :
    (sent = r ∨ capabilityPayloadLimit < r.wire.utf8ByteSize ∧ sent = r.bounded) ∧
      sent.wire.utf8ByteSize ≤ capabilityPayloadLimit := by
  rw [fitted?] at h
  split at h
  next hfits =>
    obtain rfl := Option.some.inj h
    exact ⟨Or.inl rfl, hfits⟩
  next hlarge =>
    obtain ⟨hbounded, rfl⟩ := Option.of_guarded h
    exact ⟨Or.inr ⟨Nat.lt_of_not_le hlarge, rfl⟩, hbounded.2⟩

lemma exists_fitted? (hok : r.ok = true)
    (hbounded : r.bounded.wire.utf8ByteSize ≤ capabilityPayloadLimit) :
    ∃ sent, r.fitted? = some sent := by
  rw [fitted?]
  split
  · exact ⟨_, rfl⟩
  · rw [if_pos ⟨hok, hbounded⟩]
    exact ⟨_, rfl⟩

end CapabilityResult

/-! ## The invariant -/

namespace RequestTransport

variable {s s' : RequestTransport} {rules : CapabilityRules} {index : ℕ} {task : RequestTask}

/-- What is known of a task. -/
structure TaskOk (s : RequestTransport) (task : RequestTask) : Prop where
  received : s.received[task.number]? = some ⟨task.out, task.call⟩
  admission : ∀ a ∈ task.admission, a.number = task.number ∧ a ∈ s.admissions
  -- A request that is not handled yet was not executed.
  fresh : task.stage = .checking → ∀ a ∈ task.admission, a ∉ s.executed
  holds : (∀ failure value, task.stage ≠ .sending failure value) → task.admission.isSome = true
  route : task.route.bounded = true ∧ task.call.capabilityID ∈ task.route.capabilityIDs
  id : task.call.requestID.utf8ByteSize ≤ 64
  -- Only a valid request is handled.
  operation : (task.stage = .handling ∨ ∃ value, task.stage = .sending "" value) →
    task.call.operation = "observe" ∨ task.call.operation = "invoke"

/-- The invariant of a transport. -/
structure Admitted (s : RequestTransport) : Prop where
  lanes : s.outbound = s.channelTokens
  routes : ∀ route ∈ s.routes.values, route.bounded = true
  tasks : ∀ task ∈ s.tasks, TaskOk s task
  numbers : (s.tasks.map (·.number)).Nodup
  inflight : s.holding.length = s.inflight ∧ s.inflight ≤ capabilityRequestLimit
  seenBound : s.seen.size ≤ capabilitySeenLimit
  tokens : (s.released ++ s.holding).Perm (s.admissions.map (·.number))
  admissionNumbers : (s.admissions.map (·.number)).Nodup
  admissionBound : ∀ a ∈ s.admissions, a.number < s.received.length
  -- An id is remembered for the length of its window.
  remembered : ∀ a ∈ s.admissions, s.now ≤ a.time + capabilityWindow →
    ∃ expiry, s.seen.at? a.requestID = some expiry ∧ a.time + capabilityWindow ≤ expiry
  spaced : s.admissions.Pairwise fun a b => a.requestID = b.requestID →
    a.time + capabilityWindow < b.time
  executed : s.executed ⊆ s.admissions
  executedNodup : s.executed.Nodup
  echoed : ∀ send ∈ s.sends, ∀ result ∈ send.sent, ∃ received,
    s.received[send.number]? = some received ∧ send.channel = received.channel ∧
      result.requestID = received.call.requestID ∧
      result.capabilityID = received.call.capabilityID ∧
      result.wire.utf8ByteSize ≤ capabilityPayloadLimit
  answered : ∀ send ∈ s.sends, send.ready = true → send.result.ok = true →
    ∃ result, send.sent = some result ∧
      (result = send.result ∨ capabilityPayloadLimit < send.result.wire.utf8ByteSize ∧
        result = send.result.bounded)

lemma Admitted.wellAdmitted (h : s.Admitted) : s.WellAdmitted := by
  have hpair : ∀ a ∈ s.admissions, ∀ b ∈ s.admissions, a ≠ b → a.requestID = b.requestID →
      a.time + capabilityWindow < b.time ∨ b.time + capabilityWindow < a.time := by
    -- Of two admissions of an id, one was the first.
    have hsymm : Std.Symm fun a b : RequestAdmission => a.requestID = b.requestID →
        a.time + capabilityWindow < b.time ∨ b.time + capabilityWindow < a.time :=
      ⟨fun _ _ hab hid => (hab hid.symm).symm⟩
    have hspaced : s.admissions.Pairwise fun a b => a.requestID = b.requestID →
        a.time + capabilityWindow < b.time ∨ b.time + capabilityWindow < a.time :=
      h.spaced.imp fun hab hid => Or.inl (hab hid)
    exact fun a ha b hb => hspaced.forall ha hb
  exact
    { executedOnce := h.executedNodup.imp_of_mem fun {a b} ha hb hne hid =>
        hpair a (h.executed ha) b (h.executed hb) hne hid
      inflightBound := h.inflight
      seenBound := h.seenBound
      tokens := ⟨h.tokens, h.admissionNumbers⟩
      echoed := h.echoed
      answered := h.answered }

lemma TaskOk.mono (h : TaskOk s task) (hreceived : s.received <+: s'.received)
    (hadmissions : s.admissions ⊆ s'.admissions)
    (hexecuted : ∀ a ∈ task.admission, a ∈ s'.executed → a ∈ s.executed) : TaskOk s' task :=
  { h with
    received := by
      obtain ⟨more, hmore⟩ := hreceived
      obtain ⟨hlt, -⟩ := List.getElem?_eq_some_iff.mp h.received
      rw [← hmore, List.getElem?_append_left hlt]
      exact h.received
    admission := fun a ha => ⟨(h.admission a ha).1, hadmissions (h.admission a ha).2⟩
    fresh := fun hstage a ha hmem => h.fresh hstage a ha (hexecuted a ha hmem) }

namespace Admitted

/-! ### Tasks -/

lemma number_lt (h : s.Admitted) (hmem : task ∈ s.tasks) : task.number < s.received.length :=
  (List.getElem?_eq_some_iff.mp (h.tasks task hmem).received).1

section

variable (htask : s.tasks[index]? = some task)
include htask

lemma holding_updateIdx : ∃ before after, s.holding =
        before ++ ((task.admission.map fun _ => task.number).toList ++ after) ∧
      ∀ next : Option RequestTask, (s.tasks.updateIdx index next).filterMap
        (fun task => task.admission.map fun _ => task.number) =
          before ++ ((next.bind fun task => task.admission.map fun _ => task.number).toList ++
            after) :=
  List.filterMap_updateIdx _ htask

lemma holding_set (stage : RequestStage) : (s.goOn index task stage).holding = s.holding := by
  obtain ⟨before, after, hbefore, hset⟩ := holding_updateIdx htask
  rw [hbefore]
  exact hset (some { task with stage })

lemma numbers_set (stage : RequestStage) :
    (s.tasks.set index { task with stage }).map (·.number) = s.tasks.map (·.number) := by
  have hsame : (s.tasks.map (·.number))[index]? = some task.number := by
    rw [List.getElem?_map, htask]
    rfl
  obtain ⟨_, hget⟩ := List.getElem?_eq_some_iff.mp hsame
  rw [List.map_set, ← hget, List.set_getElem_self]

end

lemma mem_set_tasks (h : s.Admitted) (htask : s.tasks[index]? = some task)
    {stage : RequestStage} {other : RequestTask}
    (hother : other ∈ s.tasks.set index { task with stage }) :
    other = { task with stage } ∨ other ∈ s.tasks ∧ other.number ≠ task.number := by
  obtain ⟨hlt, -⟩ := List.getElem?_eq_some_iff.mp htask
  obtain ⟨i, hi⟩ := List.mem_iff_getElem?.mp hother
  by_cases hindex : index = i
  · subst hindex
    rw [List.getElem?_set_self hlt] at hi
    exact Or.inl (Option.some.inj hi).symm
  · rw [List.getElem?_set_ne hindex] at hi
    refine Or.inr ⟨List.mem_of_getElem? hi, fun hnumber => hindex ?_⟩
    -- The numbers of the tasks differ.
    have hsame : (s.tasks.map (·.number))[index]? = (s.tasks.map (·.number))[i]? := by
      rw [List.getElem?_map, List.getElem?_map, htask, hi, Option.map_some, Option.map_some,
        hnumber]
    refine (List.getElem?_inj ?_ h.numbers).mp hsame
    rw [List.length_map]
    exact hlt

lemma goOn (h : s.Admitted) (htask : s.tasks[index]? = some task) {stage : RequestStage}
    (hok : TaskOk s { task with stage }) : (s.goOn index task stage).Admitted :=
  { h with
    tasks := fun other hmem => by
      have hother : TaskOk s other := by
        rcases List.mem_or_eq_of_mem_set hmem with hmem | rfl
        · exact h.tasks other hmem
        · exact hok
      exact hother.mono (List.prefix_refl _) (List.Subset.refl _) fun _ _ => id
    numbers := by
      rw [RequestTransport.goOn, numbers_set htask]
      exact h.numbers
    inflight := by
      rw [holding_set htask]
      exact h.inflight
    tokens := by
      rw [holding_set htask]
      exact h.tokens }

variable {failure : String}

lemma fails (h : s.Admitted) (htask : s.tasks[index]? = some task)
    (hfailure : failure ≠ "") : (s.goOn index task (.sending failure none)).Admitted := by
  have hok := h.tasks task (List.mem_of_getElem? htask)
  refine h.goOn htask
    { hok with
      fresh := fun heq => by cases heq
      holds := fun hnot => absurd rfl (hnot failure none)
      operation := fun hor => ?_ }
  rcases hor with heq | ⟨value, heq⟩
  · cases heq
  · injection heq with hsame
    exact absurd hsame hfailure

/-! ### Executing -/

lemma operation_of_valid {request : CapabilityRequest} (hvalid : request.valid rules = true) :
    request.operation = "observe" ∨ request.operation = "invoke" := by
  rw [CapabilityRequest.valid, Bool.and_eq_true] at hvalid
  by_cases hobserve : request.operation = "observe"
  · exact Or.inl hobserve
  · rw [if_neg hobserve, Bool.and_eq_true, decide_eq_true_eq] at hvalid
    exact Or.inr hvalid.2.1

section

variable (h : s.Admitted) (htask : s.tasks[index]? = some task)
include h htask

lemma handle (hstage : task.stage = .checking)
    (hoperation : task.call.operation = "observe" ∨ task.call.operation = "invoke") :
    Admitted { s.goOn index task .handling with
      executed := s.executed ++ task.admission.toList } := by
  have hok := h.tasks task (List.mem_of_getElem? htask)
  have hnext : TaskOk s { task with stage := .handling } :=
    { hok with
      fresh := fun heq => by cases heq
      holds := fun _ => hok.holds fun failure value heq => by
        rw [hstage] at heq
        cases heq
      operation := fun _ => hoperation }
  have hgone := h.goOn htask hnext
  exact
    { hgone with
      tasks := fun other hother => by
        rcases h.mem_set_tasks htask hother with rfl | ⟨hmem, hne⟩
        · exact { hnext with fresh := fun heq => by cases heq }
        · refine (h.tasks other hmem).mono (List.prefix_refl _) (List.Subset.refl _)
            fun a ha hexecuted => ?_
          rcases List.mem_append.mp hexecuted with hold | hnew
          · exact hold
          · -- No other task was admitted so.
            have hnumber := (hok.admission a (Option.mem_toList.mp hnew)).1
            rw [((h.tasks other hmem).admission a ha).1] at hnumber
            exact absurd hnumber hne
      executed := fun a ha => by
        rcases List.mem_append.mp ha with hold | hnew
        · exact h.executed hold
        · exact (hok.admission a (Option.mem_toList.mp hnew)).2
      executedNodup := by
        refine List.Nodup.append h.executedNodup ?_ fun a hold hnew => ?_
        · cases task.admission with
          | none => exact List.nodup_nil
          | some a => exact List.nodup_singleton a
        · exact hok.fresh hstage a (Option.mem_toList.mp hnew) hold }

lemma check (hstage : task.stage = .checking) (descriptors : List CapabilityDescriptor) :
    (s.check rules index task descriptors).Admitted := by
  rw [RequestTransport.check]
  dsimp only
  split
  next => exact h.fails htask (by decide)
  next hallowed =>
    split
    next => exact h.fails htask (by decide)
    next =>
      have hvalid : (task.call.request task.route).valid rules = true := by
        by_contra hnot
        exact hallowed (Or.inl (Bool.eq_false_iff.mpr hnot))
      exact h.handle htask hstage (operation_of_valid hvalid)

lemma handled (hstage : task.stage = .handling) (outcome : HandlerOutcome) :
    (s.handled rules index task outcome).Admitted := by
  have hok := h.tasks task (List.mem_of_getElem? htask)
  cases outcome with
  | value text =>
    rw [RequestTransport.handled]
    split
    next =>
      exact h.goOn htask
        { hok with
          fresh := fun heq => by cases heq
          holds := fun hnot => absurd rfl (hnot "" (some text))
          operation := fun _ => hok.operation (Or.inl hstage) }
    next => exact h.fails htask (by decide)
  | failed timeout =>
    cases timeout
    · exact h.fails htask (by decide)
    · exact h.fails htask (by decide)

end

/-! ### Sending -/

lemma numbers_eraseIdx (h : s.Admitted) (index : ℕ) :
    ((s.tasks.eraseIdx index).map (·.number)).Nodup :=
  h.numbers.sublist ((List.eraseIdx_sublist s.tasks index).map _)

variable {value : Option String}

lemma echoed_result (hok : TaskOk s task) {result : CapabilityResult}
    (hsent : (task.call.result task.route failure value).fitted? = some result) :
    ∃ received, s.received[task.number]? = some received ∧ task.out = received.channel ∧
      result.requestID = received.call.requestID ∧
      result.capabilityID = received.call.capabilityID ∧
      result.wire.utf8ByteSize ≤ capabilityPayloadLimit := by
  obtain ⟨hresult, hsize⟩ := CapabilityResult.fitted?_eq_some hsent
  refine ⟨_, hok.received, rfl, ?_, ?_, hsize⟩
  · rcases hresult with rfl | ⟨-, rfl⟩ <;> rfl
  · rcases hresult with rfl | ⟨-, rfl⟩ <;> rfl

lemma answered_result (hok : TaskOk s task) (hstage : task.stage = .sending failure value)
    (hsuccess : (task.call.result task.route failure value).ok = true) :
    ∃ result, (task.call.result task.route failure value).fitted? = some result := by
  obtain rfl : failure = "" := decide_eq_true_eq.mp hsuccess
  refine CapabilityResult.exists_fitted? hsuccess ?_
  have hroute := hok.route.1
  simp only [CapabilityRoute.bounded, Bool.and_eq_true, decide_eq_true_eq] at hroute
  obtain ⟨⟨⟨⟨⟨happ, hpos⟩, hlt⟩, htask⟩, hagent⟩, hcapabilities⟩ := hroute
  have hcapability := decide_eq_true_eq.mp (List.all_eq_true.mp hcapabilities _ hok.route.2)
  have hid := Nat.le_trans (length_le_utf8ByteSize task.call.requestID) hok.id
  refine CapabilityResult.wire_bounded_le hid happ hpos hlt htask hagent hcapability ?_
  show task.call.operation.toList.length ≤ 7
  rcases hok.operation (Or.inr ⟨value, hstage⟩) with hoperation | hoperation
  · rw [hoperation]
    decide
  · rw [hoperation]
    decide

lemma send (h : s.Admitted) (htask : s.tasks[index]? = some task)
    (hstage : task.stage = .sending failure value) (ready : Bool) :
    (s.send index task failure value ready).Admitted := by
  have hok := h.tasks task (List.mem_of_getElem? htask)
  -- A task that was admitted goes on, and another one is gone.
  have htasks : (∀ other ∈ (s.send index task failure value ready).tasks, TaskOk s other) ∧
      ((s.send index task failure value ready).tasks.map (·.number)).Nodup ∧
      (s.send index task failure value ready).holding = s.holding := by
    obtain ⟨before, after, hholding, hset⟩ := holding_updateIdx htask
    cases hadmission : task.admission with
    | none =>
      have heq : (s.send index task failure value ready).tasks = s.tasks.eraseIdx index := by
        rw [RequestTransport.send, hadmission]
      rw [hadmission] at hholding
      rw [RequestTransport.holding, heq, hholding]
      refine ⟨fun other hother => h.tasks other (List.mem_of_mem_eraseIdx hother),
        h.numbers_eraseIdx index, hset none⟩
    | some a =>
      have heq : (s.send index task failure value ready).tasks =
          s.tasks.set index { task with stage := .releasing } := by
        rw [RequestTransport.send, hadmission]
      have hgone : (s.goOn index task .releasing).Admitted := h.goOn htask
        { hok with
          fresh := fun heq => by cases heq
          holds := fun _ => by rw [hadmission]; rfl
          operation := fun hor => by
            rcases hor with heq | ⟨_, heq⟩ <;> cases heq }
      rw [RequestTransport.holding, heq]
      refine ⟨fun other hother => ?_, hgone.numbers, holding_set htask .releasing⟩
      exact (hgone.tasks other hother).mono (List.prefix_refl _) (List.Subset.refl _)
        fun _ _ => id
  exact
    { h with
      tasks := fun other hother => (htasks.1 other hother).mono (List.prefix_refl _)
        (List.Subset.refl _) fun _ _ => id
      numbers := htasks.2.1
      inflight := by
        rw [htasks.2.2]
        exact h.inflight
      tokens := by
        rw [htasks.2.2]
        exact h.tokens
      echoed := fun sent hmem result hresult => by
        rcases List.mem_append.mp hmem with hold | hnew
        · exact h.echoed sent hold result hresult
        · obtain rfl := List.mem_singleton.mp hnew
          obtain ⟨-, hsent⟩ := (Option.ite_none_right_eq_some).mp hresult
          exact echoed_result hok hsent
      answered := fun sent hmem hready hsuccess => by
        rcases List.mem_append.mp hmem with hold | hnew
        · exact h.answered sent hold hready hsuccess
        · obtain rfl := List.mem_singleton.mp hnew
          obtain ⟨result, hfitted⟩ := answered_result hok hstage hsuccess
          have hresult := (CapabilityResult.fitted?_eq_some hfitted).1
          exact ⟨result, (if_pos hready).trans hfitted, hresult⟩ }

lemma release (h : s.Admitted) (htask : s.tasks[index]? = some task)
    (hstage : task.stage = .releasing) : (s.release index task).Admitted := by
  have hok := h.tasks task (List.mem_of_getElem? htask)
  obtain ⟨before, after, hholding, hset⟩ := holding_updateIdx htask
  have hholds : task.admission.isSome = true := hok.holds fun _ _ heq => by
    rw [hstage] at heq
    cases heq
  obtain ⟨a, hadmission⟩ := Option.isSome_iff_exists.mp hholds
  have hbefore : s.holding = before ++ task.number :: after := by
    rw [hholding, hadmission]
    rfl
  have hafter : (s.release index task).holding = before ++ after := hset none
  exact
    { h with
      tasks := fun other hother =>
        (h.tasks other (List.mem_of_mem_eraseIdx hother)).mono (List.prefix_refl _)
          (List.Subset.refl _) fun _ _ => id
      numbers := h.numbers_eraseIdx index
      inflight := by
        have hinflight := h.inflight
        rw [hbefore, List.length_append, List.length_cons] at hinflight
        rw [hafter, List.length_append]
        show before.length + after.length = s.inflight - 1 ∧
          s.inflight - 1 ≤ capabilityRequestLimit
        omega
      tokens := by
        -- The token that was held is one that was released.
        have htokens := h.tokens
        rw [hbefore] at htokens
        rw [hafter]
        show (s.released ++ [task.number] ++ (before ++ after)).Perm _
        rw [List.append_assoc, List.singleton_append]
        exact (List.perm_middle.symm.append_left s.released).trans htokens }

/-! ### Receiving -/

variable {route : CapabilityRoute} {call : CapabilityCall}

lemma recognized (h : s.Admitted) {label : String} {channel out : ℕ} {payload : List UInt8}
    {ready : List ℕ}
    (hrecognize : s.recognize? rules label channel payload ready = some (out, route, call)) :
    out = channel ∧ (route.bounded = true ∧ call.capabilityID ∈ route.capabilityIDs) ∧
      call.requestID.utf8ByteSize ≤ 64 := by
  rw [recognize?] at hrecognize
  obtain ⟨-, hbind⟩ := Option.ite_none_left_eq_some.mp hrecognize
  obtain ⟨human, -, hbind⟩ := Option.bind_eq_some_iff.mp hbind
  obtain ⟨out', hout, hbind⟩ := Option.bind_eq_some_iff.mp hbind
  obtain ⟨hcurrent, hbind⟩ := Option.ite_none_left_eq_some.mp hbind
  obtain ⟨envelope, -, hbind⟩ := Option.bind_eq_some_iff.mp hbind
  obtain ⟨call', -, hbind⟩ := Option.bind_eq_some_iff.mp hbind
  obtain ⟨-, hbind⟩ := Option.ite_none_left_eq_some.mp hbind
  obtain ⟨route', hroute, hbind⟩ := Option.bind_eq_some_iff.mp hbind
  obtain ⟨⟨haccepts, -, hid, -⟩, ⟨⟩⟩ := Option.ite_none_right_eq_some.mp hbind
  refine ⟨?_, ⟨h.routes _ (KeyedMap.mem_of_get? hroute), ?_⟩, hid⟩
  · -- The result goes to the current channel of the Human, which is the one of the frame.
    have htoken : s.channelTokens.at? human = some channel := by
      by_contra hnot
      exact hcurrent (Or.inr (Or.inr (Or.inr hnot)))
    rw [← h.lanes, hout] at htoken
    exact Option.some.inj htoken
  · rw [CapabilityRoute.accepts, Bool.and_eq_true] at haccepts
    exact List.contains_iff_mem.mp haccepts.2

lemma echoed_append (h : s.Admitted) (frame : ReceivedCall) :
    ∀ send ∈ s.sends, ∀ result ∈ send.sent, ∃ received,
      (s.received ++ [frame])[send.number]? = some received ∧ send.channel = received.channel ∧
        result.requestID = received.call.requestID ∧
        result.capabilityID = received.call.capabilityID ∧
        result.wire.utf8ByteSize ≤ capabilityPayloadLimit := by
  intro send hmem result hresult
  obtain ⟨received, hget, hrest⟩ := h.echoed send hmem result hresult
  obtain ⟨hlt, -⟩ := List.getElem?_eq_some_iff.mp hget
  refine ⟨received, ?_, hrest⟩
  rw [List.getElem?_append_left hlt]
  exact hget

lemma numbers_append (h : s.Admitted) (hnumber : task.number = s.received.length) :
    ((s.tasks ++ [task]).map (·.number)).Nodup := by
  rw [List.map_append, List.map_singleton]
  refine List.Nodup.append h.numbers (List.nodup_singleton _) ?_
  rw [List.disjoint_singleton, hnumber]
  intro hmem
  obtain ⟨other, hother, heq⟩ := List.mem_map.mp hmem
  exact Nat.ne_of_lt (h.number_lt hother) heq

lemma holding_append (tasks : List RequestTask) (task : RequestTask) :
    (tasks ++ [task]).filterMap (fun task => task.admission.map fun _ => task.number) =
      tasks.filterMap (fun task => task.admission.map fun _ => task.number) ++
        (task.admission.map fun _ => task.number).toList := by
  rw [List.filterMap_append, List.filterMap_cons_toList, List.filterMap_nil, List.append_nil]

lemma refuse (h : s.Admitted) {channel : ℕ}
    (hroute : route.bounded = true ∧ call.capabilityID ∈ route.capabilityIDs)
    (hid : call.requestID.utf8ByteSize ≤ 64) : (s.refuse channel channel route call).Admitted := by
  have hholding : (s.refuse channel channel route call).holding = s.holding :=
    (holding_append _ _).trans (List.append_nil _)
  exact
    { h with
      tasks := fun other hother => by
        rcases List.mem_append.mp hother with hold | hnew
        · exact (h.tasks other hold).mono (List.prefix_append _ _) (List.Subset.refl _)
            fun _ _ => id
        · obtain rfl := List.mem_singleton.mp hnew
          exact
            { received := List.getElem?_concat_length
              admission := fun a ha => by cases ha
              fresh := fun heq => by cases heq
              holds := fun hnot => absurd rfl (hnot "unauthorized" none)
              route := hroute
              id := hid
              operation := fun hor => by
                rcases hor with heq | ⟨value, heq⟩
                · cases heq
                · injection heq with hfailure
                  exact absurd hfailure (by decide) }
      numbers := h.numbers_append rfl
      inflight := by
        rw [hholding]
        exact h.inflight
      tokens := by
        rw [hholding]
        exact h.tokens
      admissionBound := fun a ha => by
        rw [RequestTransport.refuse, List.length_append]
        exact Nat.lt_add_right _ (h.admissionBound a ha)
      echoed := h.echoed_append _ }

lemma prune (h : s.Admitted) : s.prune.Admitted :=
  { h with
    tasks := fun other hother => (h.tasks other hother).mono (List.prefix_refl _)
      (List.Subset.refl _) fun _ _ => id
    seenBound := Nat.le_trans (List.length_filter_le _ _) h.seenBound
    remembered := fun a ha hnow => by
      obtain ⟨expiry, hat, hle⟩ := h.remembered a ha hnow
      refine ⟨expiry, LaneMap.at?_eq_some_iff.mpr (List.mem_filter.mpr ⟨?_, ?_⟩), hle⟩
      · exact LaneMap.at?_eq_some_iff.mp hat
      · exact decide_eq_true (Nat.le_trans hnow hle) }

/-- Admitting a request keeps the invariant. -/
lemma admitRequest (h : s.Admitted) {channel : ℕ}
    (hroute : route.bounded = true ∧ call.capabilityID ∈ route.capabilityIDs)
    (hid : call.requestID.utf8ByteSize ≤ 64) (hnew : s.seen.contains call.requestID = false)
    (hseen : s.seen.size < capabilitySeenLimit) (hinflight : s.inflight < capabilityRequestLimit) :
    (s.admitRequest channel channel route call).Admitted := by
  -- The window of every earlier admission of the id has passed.
  have hpassed : ∀ a ∈ s.admissions, a.requestID = call.requestID →
      a.time + capabilityWindow < s.now := by
    intro a ha hsame
    by_contra hnot
    obtain ⟨expiry, hat, -⟩ := h.remembered a ha (Nat.le_of_not_lt hnot)
    obtain ⟨entry, hget, -⟩ := Option.map_eq_some_iff.mp hat
    rw [hsame] at hget
    rw [KeyedMap.contains, hget] at hnew
    cases hnew
  have hholding : (s.admitRequest channel channel route call).holding =
      s.holding ++ [s.received.length] := holding_append _ _
  exact
    { h with
      tasks := fun other hother => by
        rcases List.mem_append.mp hother with hold | hnew
        · exact (h.tasks other hold).mono (List.prefix_append _ _)
            (List.subset_append_left _ _) fun _ _ => id
        · obtain rfl := List.mem_singleton.mp hnew
          exact
            { received := List.getElem?_concat_length
              admission := fun a ha => by
                cases ha
                exact ⟨rfl, List.mem_append_right _ (List.mem_singleton.mpr rfl)⟩
              fresh := fun _ a ha hexecuted => by
                cases ha
                exact Nat.lt_irrefl _ (h.admissionBound _ (h.executed hexecuted))
              holds := fun _ => rfl
              route := hroute
              id := hid
              operation := fun hor => by
                cases hctx : s.ctx <;> rw [hctx] at hor <;>
                  rcases hor with heq | ⟨value, heq⟩ <;> cases heq }
      numbers := h.numbers_append rfl
      inflight := by
        rw [hholding, List.length_append, h.inflight.1]
        exact ⟨rfl, hinflight⟩
      seenBound := Nat.le_trans (KeyedMap.size_set_le _ _) hseen
      tokens := by
        rw [hholding, ← List.append_assoc]
        show (s.released ++ s.holding ++ [s.received.length]).Perm
          ((s.admissions ++ [s.admission call]).map (·.number))
        rw [List.map_append]
        exact h.tokens.append_right [s.received.length]
      admissionNumbers := by
        show ((s.admissions ++ [s.admission call]).map (·.number)).Nodup
        rw [List.map_append, List.map_singleton]
        refine List.Nodup.append h.admissionNumbers (List.nodup_singleton _) ?_
        rw [List.disjoint_singleton]
        intro hmem
        obtain ⟨a, ha, heq⟩ := List.mem_map.mp hmem
        exact Nat.ne_of_lt (h.admissionBound a ha) heq
      admissionBound := fun a ha => by
        rw [RequestTransport.admitRequest, List.length_append, List.length_singleton]
        rcases List.mem_append.mp ha with hold | hnew
        · exact Nat.lt_succ_of_lt (h.admissionBound a hold)
        · obtain rfl := List.mem_singleton.mp hnew
          exact Nat.lt_succ_self _
      remembered := fun a ha hnow => by
        show ∃ expiry, LaneMap.at? (s.seen.set (call.requestID, s.now + capabilityWindow))
          a.requestID = some expiry ∧ _
        rw [LaneMap.at?]
        by_cases hsame : call.requestID = a.requestID
        · rw [← hsame, KeyedMap.get?_set, if_pos (Keyed.key_pair _)]
          refine ⟨s.now + capabilityWindow, rfl, ?_⟩
          rcases List.mem_append.mp ha with hold | hnew
          · have hlt := hpassed a hold hsame.symm
            omega
          · obtain rfl := List.mem_singleton.mp hnew
            exact Nat.le_refl _
        · rw [KeyedMap.get?_set_of_ne _ hsame]
          rcases List.mem_append.mp ha with hold | hnew
          · exact h.remembered a hold hnow
          · obtain rfl := List.mem_singleton.mp hnew
            exact absurd rfl hsame
      spaced := by
        refine List.pairwise_append.mpr ⟨h.spaced, List.pairwise_singleton _ _, ?_⟩
        intro a ha b hb hsame
        obtain rfl := List.mem_singleton.mp hb
        exact hpassed a ha hsame
      executed := List.Subset.trans h.executed (List.subset_append_left _ _)
      echoed := h.echoed_append _ }

lemma receive (h : s.Admitted) (label : String) (channel : ℕ) (payload : List UInt8)
    (ready : List ℕ) (descriptors : List CapabilityDescriptor) :
    (s.receive rules label channel payload ready descriptors).Admitted := by
  rw [RequestTransport.receive]
  split
  next => exact h
  next out route call hrecognize =>
    obtain ⟨rfl, hroute, hid⟩ := h.recognized hrecognize
    split_ifs with hallowed hseen hfull hbusy
    · exact h.prune
    · exact h.prune
    · exact h.prune
    · exact h.prune.admitRequest hroute hid (Bool.eq_false_iff.mpr hseen) (Nat.lt_of_not_le hfull)
        (Nat.lt_of_not_le hbusy)
    · exact h.refuse hroute hid

/-! ### Steps -/

section

variable (h : s.Admitted)
include h

lemma project {ctx : Bool} {lanes : List TransportLane}
    {routes : List CapabilityRoute} (hproject : s.project? ctx lanes routes = some s') :
    s'.Admitted := by
  obtain ⟨⟨-, hbounded⟩, ⟨⟩⟩ := Option.ite_none_right_eq_some.mp hproject
  exact
    { h with
      lanes := rfl
      routes := fun route hmem =>
        List.all_eq_true.mp hbounded route (mem_of_mem_routesByKey hmem)
      tasks := fun other hother => (h.tasks other hother).mono (List.prefix_refl _)
        (List.Subset.refl _) fun _ _ => id }

lemma close : s.close.Admitted :=
  { h with
    lanes := rfl
    routes := fun route hmem => by cases hmem
    tasks := fun other hother => (h.tasks other hother).mono (List.prefix_refl _)
      (List.Subset.refl _) fun _ _ => id }

lemma tick (duration : ℕ) : Admitted { s with now := s.now + duration } :=
  { h with
    tasks := fun other hother => (h.tasks other hother).mono (List.prefix_refl _)
      (List.Subset.refl _) fun _ _ => id
    remembered := fun a ha hnow =>
      h.remembered a ha (Nat.le_trans (Nat.le_add_right _ duration) hnow) }

lemma taskStep (htask : s.tasks[index]? = some task) {step : RequestStep}
    (hstep : s.taskStep? rules index task step = some s') : s'.Admitted := by
  cases step with
  | check _ descriptors =>
    obtain ⟨hstage, ⟨⟩⟩ := Option.ite_none_right_eq_some.mp hstep
    exact h.check htask hstage descriptors
  | handled _ outcome =>
    obtain ⟨hstage, ⟨⟩⟩ := Option.ite_none_right_eq_some.mp hstep
    exact h.handled htask hstage outcome
  | send _ ready =>
    rw [taskStep?] at hstep
    split at hstep
    next failure value hstage =>
      cases hstep
      exact h.send htask hstage ready
    next => cases hstep
  | release =>
    obtain ⟨hstage, ⟨⟩⟩ := Option.ite_none_right_eq_some.mp hstep
    exact h.release htask hstage
  | tick | project | close | receive => cases hstep

lemma of_next {step : RequestStep} (hnext : s.next? rules step = some s') : s'.Admitted := by
  cases step with
  | tick duration =>
    cases hnext
    exact h.tick duration
  | project ctx lanes routes => exact h.project hnext
  | close =>
    cases hnext
    exact h.close
  | receive label channel payload ready descriptors =>
    cases hnext
    exact h.receive label channel payload ready descriptors
  | check index descriptors | handled index outcome | send index ready | release index =>
    obtain ⟨task, htask, hstep⟩ := Option.bind_eq_some_iff.mp hnext
    exact h.taskStep htask hstep

end

end Admitted

/-! ## Releasing -/

namespace CanRelease

lemma of_next {number : ℕ} {step : RequestStep} (hnext : s.next? rules step = some s')
    (h : s'.CanRelease rules number) : s.CanRelease rules number := by
  obtain ⟨labels, s'', hrun, hmem⟩ := h
  refine ⟨step :: labels, s'', ?_, hmem⟩
  rw [List.foldlM_cons, hnext]
  exact hrun

section

variable (htask : s.tasks[index]? = some task)
include htask

lemma getElem?_set_tasks (next : RequestTask) : (s.tasks.set index next)[index]? = some next := by
  obtain ⟨hlt, -⟩ := List.getElem?_eq_some_iff.mp htask
  exact List.getElem?_set_self hlt

lemma of_releasing (hstage : task.stage = .releasing) : s.CanRelease rules task.number := by
  have hnext : s.next? rules (.release index) = some (s.release index task) := by
    rw [next?, htask, Option.bind_some, taskStep?, if_pos hstage]
  refine of_next hnext ⟨[], _, rfl, ?_⟩
  exact List.mem_append_right _ (List.mem_singleton.mpr rfl)

lemma of_sending {a : RequestAdmission}
    (hadmission : task.admission = some a) {failure : String} {value : Option String}
    (hstage : task.stage = .sending failure value) : s.CanRelease rules task.number := by
  have hnext : s.next? rules (.send index false) =
      some (s.send index task failure value false) := by
    rw [next?, htask, Option.bind_some, taskStep?, hstage]
  have hset : (s.send index task failure value false).tasks[index]? =
      some { task with stage := .releasing } := by
    rw [RequestTransport.send, hadmission]
    exact getElem?_set_tasks htask _
  exact of_next hnext (@of_releasing _ _ _ { task with stage := .releasing } hset rfl)

lemma of_task {a : RequestAdmission}
    (hadmission : task.admission = some a) : s.CanRelease rules task.number := by
  cases hstage : task.stage with
  | checking =>
    -- Nothing is described any more, and the request is refused.
    have hnext : s.next? rules (.check index []) =
        some (s.goOn index task (.sending "unauthorized" none)) := by
      have hrefused : rules.allowed [] task.route (task.call.request task.route) = false := by
        rw [CapabilityRules.allowed, List.any_nil, Bool.and_false]
      rw [next?, htask, Option.bind_some, taskStep?, if_pos hstage, RequestTransport.check]
      dsimp only
      rw [if_pos (Or.inr hrefused)]
    exact of_next hnext (@of_sending _ _ _ { task with stage := .sending "unauthorized" none }
      (getElem?_set_tasks htask _) a hadmission _ _ rfl)
  | handling =>
    have hnext : s.next? rules (.handled index (.failed false)) =
        some (s.goOn index task (.sending "unavailable" none)) := by
      rw [next?, htask, Option.bind_some, taskStep?, if_pos hstage]
      rfl
    exact of_next hnext (@of_sending _ _ _ { task with stage := .sending "unavailable" none }
      (getElem?_set_tasks htask _) a hadmission _ _ rfl)
  | sending failure value => exact of_sending htask hadmission hstage
  | releasing => exact of_releasing htask hstage

end

lemma of_holding {number : ℕ} (h : number ∈ s.holding) : s.CanRelease rules number := by
  obtain ⟨task, hmem, hmap⟩ := List.mem_filterMap.mp h
  obtain ⟨a, hadmission, rfl⟩ := Option.map_eq_some_iff.mp hmap
  obtain ⟨index, htask⟩ := List.mem_iff_getElem?.mp hmem
  exact of_task htask hadmission

end CanRelease

end RequestTransport

/-! ## Runs -/

/-- Requests are well admitted in every run, and each token that is held can be released. -/
theorem wellAdmitted_of_reachable {rules : CapabilityRules} {s : RequestTransport}
    (h : (requestSystem rules).Reachable s) :
    s.WellAdmitted ∧ ∀ number ∈ s.holding, s.CanRelease rules number := by
  refine ⟨RequestTransport.Admitted.wellAdmitted (h.invariant ?_ fun _ _ _ hs _ hnext =>
    RequestTransport.Admitted.of_next hs hnext), fun _ => RequestTransport.CanRelease.of_holding⟩
  rintro s rfl
  exact
    { lanes := rfl
      routes := fun _ hmem => by cases hmem
      tasks := fun _ hmem => by cases hmem
      numbers := List.nodup_nil
      inflight := ⟨rfl, Nat.zero_le _⟩
      seenBound := Nat.zero_le _
      tokens := List.Perm.refl _
      admissionNumbers := List.nodup_nil
      admissionBound := fun _ hmem => by cases hmem
      remembered := fun _ hmem => by cases hmem
      spaced := List.Pairwise.nil
      executed := List.Subset.refl _
      executedNodup := List.nodup_nil
      echoed := fun _ hmem => by cases hmem
      answered := fun _ hmem => by cases hmem }

/-! ### One request -/

/-- The frame in which a Human asks for the time. -/
def clockFrame : String :=
  JsonText.object
    [("type", JsonText.string "runtime-capability-request"), ("requestId", JsonText.string "r1"),
      ("appInstanceId", JsonText.string "app"), ("bundleRevision", "1"),
      ("taskRequestId", JsonText.string "task"), ("agentParticipantId", JsonText.string "agent"),
      ("capabilityId", JsonText.string "clock"), ("operation", JsonText.string "observe")]

/-- The envelope of the frame. -/
def clockEnvelope : String :=
  JsonText.object
    [("protocolVersion", "1"), ("appInstanceId", JsonText.string "app"),
      ("lane", JsonText.string "reliable"), ("payload", clockFrame)]

/-- Reads the frame, and handles the request. -/
def clockRules : CapabilityRules where
  envelope payload :=
    if payload = clockEnvelope.toUTF8.data.toList then
      some ⟨1, "app", "reliable", clockFrame.toUTF8.data.toList⟩
    else none
  call payload :=
    if payload = clockFrame.toUTF8.data.toList then
      some ⟨⟨"r1", "app", 1, "task", "agent", "clock"⟩, "runtime-capability-request", "observe",
        "", none⟩
    else none
  texts _ := true
  invocation _ := false
  resultValid _ := true
  handled := true

/-- What the handler describes. -/
def clockDescriptor : CapabilityDescriptor := ⟨"clock", true, true, fun _ => false⟩

/-- The route under which the Human may ask. -/
def clockRoute : CapabilityRoute := ⟨"app", 1, "task", "agent", "ada", "host", ["clock"]⟩

/-- The Human asks, and asks again on another channel while the time is being sent. -/
def clockSteps : List RequestStep :=
  [.project true [⟨"participant-direct-reliable-5-agent-ada", "ada", 0⟩] [clockRoute],
    .receive "participant-direct-reliable-5-agent-ada" 0 clockEnvelope.toUTF8.data.toList [0]
      [clockDescriptor],
    .check 0 [clockDescriptor], .handled 0 (.value "\x7b\"time\":1\x7d"),
    .project true [⟨"participant-direct-reliable-5-agent-ada", "ada", 1⟩] [clockRoute],
    .receive "participant-direct-reliable-5-agent-ada" 1 clockEnvelope.toUTF8.data.toList [1]
      [clockDescriptor], .send 0 true, .release 0]

/-- The request is executed once, and its result is sent. -/
theorem wellAdmitted_clock :
    ∃ s, TransitionSystem.runWhen? (RequestTransport.next? · clockRules ·) (fun _ _ => true) {}
      clockSteps = some s ∧ (s.executed.length = 1 ∧ s.sends.length = 1 ∧ s.released = [0]) ∧
      s.WellAdmitted ∧ ∀ number ∈ s.holding, s.CanRelease clockRules number := by
  have hrun : ((TransitionSystem.runWhen? (RequestTransport.next? · clockRules ·)
      (fun _ _ => true) {} clockSteps).any fun s =>
        decide (s.executed.length = 1 ∧ s.sends.length = 1 ∧ s.released = [0])) = true := by
    decide +kernel
  obtain ⟨s, hs, hdone⟩ := (Option.any_eq_true _ _).mp hrun
  have hreach : (requestSystem clockRules).Reachable s :=
    TransitionSystem.reachable_of_runWhen (fun _ _ _ h => h) rfl hs
  exact ⟨s, hs, of_decide_eq_true hdone, wellAdmitted_of_reachable hreach⟩

end Free4Chat
