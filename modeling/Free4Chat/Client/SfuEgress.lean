import Free4Chat.Data.CounterHistory
import Free4Chat.Data.KeyedMap
import Mathlib.Algebra.Order.BigOperators.Group.Finset
import Mathlib.Data.Rat.Floor

/-!
# Egress Accounting

What a browser has received over one `PeerConnection`, from the reports of it that are sampled. Each
object of a report is compared with the report before.

* `aggregateSfuEgressStats` and `sfuEgressDelta`: the counters of a report, and what it adds.
* `SfuEgressSampler.step?`: `createSfuEgressSampler`, as calls are made and their runs settle.
* `egressAccounted_iff`: when no byte is counted twice.
-/

namespace Free4Chat

open CounterHistory

/-! ## Reports -/

/-- The largest number that is counted with: `Number.MAX_SAFE_INTEGER`. -/
def maxSafeInteger : ℕ := 2 ^ 53 - 1

inductive SfuEgressStatCategory where
  | audio | video | dataChannel
deriving DecidableEq

structure SfuEgressStat where
  category : SfuEgressStatCategory
  bytesReceived : ℕ
deriving DecidableEq

/-- The counters of a report, by the ids of their objects. -/
abbrev SfuEgressStats := KeyedMap (String × SfuEgressStat)

/-- An object of a report. -/
structure RtcStat where
  type : String
  -- The text of an id that is a string or a number.
  id : Option String
  kind : Option String := none
  mediaType : Option String := none
  -- A finite number, if it is one.
  bytesReceived : Option ℚ

def nonNegativeInteger : Option ℚ → ℕ
  | none => 0
  | some value => if value < 0 then 0 else min ⌊value⌋₊ maxSafeInteger

def addBytes (current : ℕ) (value : Option ℚ) : ℕ :=
  min (current + nonNegativeInteger value) maxSafeInteger

def RtcStat.category? (stat : RtcStat) : Option SfuEgressStatCategory :=
  if stat.type = "inbound-rtp" then
    let kind := stat.kind <|> stat.mediaType
    if kind = some "audio" then some .audio
    else if kind = some "video" then some .video
    else none
  else if stat.type = "data-channel" then some .dataChannel
  else none

/-- The receive counters of the objects that a report holds. -/
def aggregateSfuEgressStats (report : List RtcStat) : SfuEgressStats :=
  report.foldl (fun stats stat =>
    match stat.id, stat.category? with
    | some id, some category =>
      if id.length = 0 then stats
      else stats.set (id, ⟨category, nonNegativeInteger stat.bytesReceived⟩)
    | _, _ => stats) KeyedMap.empty

structure SfuEgressBytes where
  audioBytes : ℕ := 0
  videoBytes : ℕ := 0
  dataChannelBytes : ℕ := 0
deriving DecidableEq

namespace SfuEgressBytes

/-- The bytes of a category. -/
def of (bytes : SfuEgressBytes) : SfuEgressStatCategory → ℕ
  | .audio => bytes.audioBytes
  | .video => bytes.videoBytes
  | .dataChannel => bytes.dataChannelBytes

/-- A value is added to its category. -/
def add (bytes : SfuEgressBytes) (category : SfuEgressStatCategory) (value : Option ℚ) :
    SfuEgressBytes :=
  match category with
  | .audio => { bytes with audioBytes := addBytes bytes.audioBytes value }
  | .video => { bytes with videoBytes := addBytes bytes.videoBytes value }
  | .dataChannel => { bytes with dataChannelBytes := addBytes bytes.dataChannelBytes value }

def totalBytes (bytes : SfuEgressBytes) : ℕ :=
  min (bytes.audioBytes + bytes.videoBytes + bytes.dataChannelBytes) maxSafeInteger

end SfuEgressBytes

/-- The loop of `sfuEgressDelta` at one object. -/
def addStat (previous : SfuEgressStats) (bytes : SfuEgressBytes) (entry : String × SfuEgressStat) :
    SfuEgressBytes :=
  match previous.get? entry.1 with
  | none => bytes.add entry.2.category (some entry.2.bytesReceived)
  | some (_, before) =>
    if before.category ≠ entry.2.category ∨ entry.2.bytesReceived < before.bytesReceived then bytes
    else bytes.add entry.2.category (some (entry.2.bytesReceived - before.bytesReceived : ℕ))

/-- `sfuEgressDelta`, where there was a report before. -/
def sfuEgressDelta (previous current : SfuEgressStats) : SfuEgressBytes :=
  current.values.foldl (addStat previous) {}

/-! ## Sampler -/

inductive SfuEgressSampleReason where
  | interval | leave | pagehide | disconnect
deriving DecidableEq

structure SfuEgressSample where
  bytes : SfuEgressBytes
  totalBytes : ℕ
  intervalMs : ℤ
  sampleReason : SfuEgressSampleReason
deriving DecidableEq

variable {Source : Type} [DecidableEq Source]

/-- A call of `sample`. -/
structure EgressCall (Source : Type) where
  source : Source
  reason : SfuEgressSampleReason
deriving DecidableEq

/-- What becomes of `getStats`: a report and when it was observed, unless it fails. -/
abbrev EgressOutcome := Option (List RtcStat × ℤ)

/-- What the sampler keeps between its runs, and what it has emitted. -/
structure EgressAccount (Source : Type) where
  source : Option Source := none
  previous : Option SfuEgressStats := none
  lastObservedAt : Option ℤ := none
  emitted : List (SfuEgressSample × Source) := []

namespace EgressAccount

/-- A run begins: another source begins anew. -/
def start (a : EgressAccount Source) (call : EgressCall Source) : EgressAccount Source :=
  if a.source = some call.source then a
  else { a with source := some call.source, previous := none, lastObservedAt := none }

/-- The sample that is emitted, if there was a report before, and some bytes were received. -/
def sample? (a : EgressAccount Source) (call : EgressCall Source) (current : SfuEgressStats)
    (observedAt : ℤ) : Option (SfuEgressSample × Source) :=
  a.previous.bind fun previous =>
    let delta := sfuEgressDelta previous current
    if delta.totalBytes = 0 then none
    else some (⟨delta, delta.totalBytes,
      (a.lastObservedAt.map fun last => max 0 (observedAt - last)).getD 0, call.reason⟩, call.source)

/-- A run settles. -/
def settle (a : EgressAccount Source) (call : EgressCall Source) : EgressOutcome → EgressAccount Source
  | none => a
  | some (report, observedAt) =>
    let current := aggregateSfuEgressStats report
    { a with
      previous := some current
      lastObservedAt := some observedAt
      emitted := a.emitted ++ (a.sample? call current observedAt).toList }

/-- One call after the other. -/
def after (a : EgressAccount Source) (done : List (EgressCall Source × EgressOutcome)) :
    EgressAccount Source :=
  done.foldl (fun a run => (a.start run.1).settle run.1 run.2) a

end EgressAccount

/-- The sampler: a run goes on, and the others are chained after it. -/
structure SfuEgressSampler (Source : Type) where
  account : EgressAccount Source := {}
  pending : List (EgressCall Source) := []

inductive EgressStep (Source : Type) where
  | sample (call : EgressCall Source)
  | settle (outcome : EgressOutcome)

namespace SfuEgressSampler

def step? (s : SfuEgressSampler Source) : EgressStep Source → Option (SfuEgressSampler Source)
  | .sample call => some
    { account := if s.pending.isEmpty then s.account.start call else s.account
      pending := s.pending ++ [call] }
  | .settle outcome =>
    match s.pending with
    | [] => none
    | call :: rest => some
      { account := rest.head?.elim (s.account.settle call outcome) (s.account.settle call outcome).start
        pending := rest }

def run? (s : SfuEgressSampler Source) (steps : List (EgressStep Source)) :
    Option (SfuEgressSampler Source) :=
  steps.foldlM step? s

end SfuEgressSampler

/-! ## What should hold -/

/-- The counter of an object of a category, if the report holds it. -/
def counter? (category : SfuEgressStatCategory) (id : String) (stats : SfuEgressStats) : Option ℕ :=
  (stats.get? id).bind fun entry =>
    if entry.2.category = category then some entry.2.bytesReceived else none

section Statement

variable (reports : List SfuEgressStats) (category : SfuEgressStatCategory)

/-- The objects of a category. -/
def egressObjects : Finset String :=
  (reports.flatMap fun stats =>
    (stats.values.filter fun entry => entry.2.category = category).map Prod.fst).toFinset

/-- The counters of an object, report by report. -/
def counters (id : String) : List (Option ℕ) := reports.map (counter? category id)

/-- What the counters have grown by since the first report. -/
def grownBy : ℕ :=
  ∑ id ∈ egressObjects reports category, (largest 0 (counters reports category id) -
    ((counters reports category id).head?.join).getD 0)

/-- What the counters were at when their objects came back. -/
def countedAgain : ℕ :=
  ∑ id ∈ egressObjects reports category, recounted 0 none (counters reports category id)

/-- What a report adds to the one before. -/
def received (previous current : SfuEgressStats) : ℕ :=
  ((current.values.filter fun entry => entry.2.category = category).map fun entry =>
    increment (counter? category entry.1 previous) (some entry.2.bytesReceived)).sum

/-- What is not counted, since a report adds more than the largest number. -/
def cutOff : List SfuEgressStats → ℕ
  | previous :: current :: rest =>
    (received category previous current - maxSafeInteger) + cutOff (current :: rest)
  | _ => 0

/-- Objects keep their category, and counters never decrease. -/
structure Consistent : Prop where
  category : ∀ stats ∈ reports, ∀ stats' ∈ reports, ∀ id stat stat',
    (id, stat) ∈ stats.values → (id, stat') ∈ stats'.values → stat.category = stat'.category
  rising : ∀ category id, (counters reports category id).reduceOption.Pairwise (· ≤ ·)

/-- No object disappears. -/
def Steady : Prop := reports.IsChain fun earlier later => earlier.keys ⊆ later.keys

/-- No counter reaches the largest number. -/
def Uncapped : Prop :=
  ∀ stats ∈ reports, ∀ entry ∈ stats.values, entry.2.bytesReceived < maxSafeInteger

/-- The bytes of a category that were emitted. -/
def egress (samples : List (SfuEgressSample × Source)) : ℕ :=
  (samples.map fun sample => sample.1.bytes.of category).sum

/-- No byte is counted twice, and each one is counted if no object disappears. -/
def CountsOnce (samples : List (SfuEgressSample × Source)) : Prop :=
  ∀ category, egress category samples ≤ grownBy reports category ∧
    (Steady reports → Uncapped reports → egress category samples = grownBy reports category)

/-- In no category more is counted again than is not counted, and if no object disappears no report
adds more than the largest number. -/
def CutsOffRecounted : Prop :=
  ∀ category, countedAgain reports category ≤ cutOff category reports ∧
    (Steady reports → Uncapped reports → cutOff category reports = 0)

end Statement

/-- The calls of `sample`, in their order. -/
def sampled (steps : List (EgressStep Source)) : List (EgressCall Source) :=
  steps.filterMap fun
    | .sample call => some call
    | .settle _ => none

/-- What the runs came to, in the order in which they settled. -/
def settled (steps : List (EgressStep Source)) : List EgressOutcome :=
  steps.filterMap fun
    | .sample _ => none
    | .settle outcome => some outcome

/-- The counters that a run has read, unless it failed. -/
def EgressOutcome.stats? (outcome : EgressOutcome) : Option SfuEgressStats :=
  outcome.map fun observed => aggregateSfuEgressStats observed.1

/-- What each run has read, and from which source. -/
def observations (done : List (EgressCall Source × EgressOutcome)) :
    List (Source × Option SfuEgressStats) :=
  done.map fun run => (run.1.source, EgressOutcome.stats? run.2)

/-- Two reports of a source follow one another: between them its runs have failed, and no other
source was read. -/
def Successive (done : List (EgressCall Source × EgressOutcome)) (source : Source)
    (previous current : SfuEgressStats) : Prop :=
  ∃ failed, (source, some previous) :: List.replicate failed (source, none) ++
    [(source, some current)] <:+: observations done

/-- The egress that a sampler has accounted for. -/
structure EgressAccounted (steps : List (EgressStep Source)) (s : SfuEgressSampler Source) : Prop where
  ordered : s.account.emitted =
    (EgressAccount.after {} ((sampled steps).zip (settled steps))).emitted
  separate : ∀ sample ∈ s.account.emitted, ∃ previous current,
    Successive ((sampled steps).zip (settled steps)) sample.2 previous current ∧
      sample.1.bytes = sfuEgressDelta previous current
  counted : ∀ source, (∀ call ∈ sampled steps, call.source = source) →
    Consistent ((settled steps).filterMap EgressOutcome.stats?) →
      CountsOnce ((settled steps).filterMap EgressOutcome.stats?) s.account.emitted

/-! ## Order -/

/-- Some runs have settled, and the next one has begun. -/
def SfuEgressSampler.Follows (s : SfuEgressSampler Source)
    (done : List (EgressCall Source × EgressOutcome)) : Prop :=
  s.account = s.pending.head?.elim (EgressAccount.after {} done) (EgressAccount.after {} done).start

lemma EgressAccount.after_concat (a : EgressAccount Source)
    (done : List (EgressCall Source × EgressOutcome)) (call : EgressCall Source)
    (outcome : EgressOutcome) :
    a.after (done ++ [(call, outcome)]) = ((a.after done).start call).settle call outcome := by
  rw [after, after, List.foldl_concat]

lemma SfuEgressSampler.follows_of_run {steps : List (EgressStep Source)}
    {s s' : SfuEgressSampler Source} {done : List (EgressCall Source × EgressOutcome)}
    (h : s.Follows done) (hrun : s.run? steps = some s') : ∃ done', s'.Follows done' ∧
      done.map Prod.fst ++ s.pending ++ sampled steps = done'.map Prod.fst ++ s'.pending ∧
      done.map Prod.snd ++ settled steps = done'.map Prod.snd := by
  induction steps generalizing s done with
  | nil =>
    obtain rfl := Option.some.inj hrun
    exact ⟨done, h, List.append_nil _, List.append_nil _⟩
  | cons step steps ih =>
    rw [run?, List.foldlM_cons] at hrun
    obtain ⟨next, hnext, hrest⟩ := Option.bind_eq_some_iff.mp hrun
    cases step with
    | sample call =>
      obtain rfl := Option.some.inj hnext
      have hfollows : SfuEgressSampler.Follows
          { account := if s.pending.isEmpty then s.account.start call else s.account
            pending := s.pending ++ [call] } done := by
        rw [Follows] at h ⊢
        cases hpending : s.pending with
        | nil =>
          rw [hpending] at h
          exact congrArg (·.start call) h
        | cons running chained =>
          rw [hpending] at h
          exact h
      obtain ⟨done', hdone, hcalls, houtcomes⟩ := ih hfollows hrest
      refine ⟨done', hdone, ?_, houtcomes⟩
      rw [← hcalls]
      simp only [sampled, List.filterMap_cons, List.append_assoc, List.singleton_append]
    | settle outcome =>
      rw [step?] at hnext
      cases hpending : s.pending with
      | nil =>
        rw [hpending] at hnext
        cases hnext
      | cons call rest =>
        rw [hpending] at hnext
        obtain rfl := Option.some.inj hnext
        have hfollows : SfuEgressSampler.Follows
            { account := rest.head?.elim (s.account.settle call outcome)
                (s.account.settle call outcome).start
              pending := rest } (done ++ [(call, outcome)]) := by
          rw [Follows, hpending] at h
          rw [Follows, EgressAccount.after_concat]
          rw [h]
          rfl
        obtain ⟨done', hdone, hcalls, houtcomes⟩ := ih hfollows hrest
        refine ⟨done', hdone, ?_, ?_⟩
        · rw [← hcalls]
          simp only [sampled, List.filterMap_cons, List.map_append, List.map_cons, List.map_nil,
            List.append_assoc, List.singleton_append]
        · rw [← houtcomes]
          simp only [settled, List.filterMap_cons, List.map_append, List.map_cons, List.map_nil,
            List.append_assoc, List.singleton_append]

lemma EgressAccount.emitted_start (a : EgressAccount Source) (call : EgressCall Source) :
    (a.start call).emitted = a.emitted := by
  rw [start]
  split_ifs <;> rfl

lemma SfuEgressSampler.emitted_of_run {steps : List (EgressStep Source)}
    {s : SfuEgressSampler Source} (hrun : SfuEgressSampler.run? {} steps = some s) :
    ∃ done, (sampled steps).zip (settled steps) = done ∧ settled steps = done.map Prod.snd ∧
      (∀ run ∈ done, run.1 ∈ sampled steps) ∧
      s.account.emitted = (EgressAccount.after {} done).emitted := by
  obtain ⟨done, hfollows, hcalls, houtcomes⟩ := @follows_of_run Source _ steps {} s [] rfl hrun
  rw [List.map_nil, List.nil_append] at hcalls houtcomes
  rw [List.nil_append] at hcalls
  refine ⟨done, ?_, houtcomes, fun run hmem => ?_, ?_⟩
  · rw [hcalls, houtcomes]
    have hzip : (done.map Prod.fst ++ s.pending).zip (done.map Prod.snd ++ []) = _ :=
      List.zip_append (by rw [List.length_map, List.length_map])
    rw [List.append_nil, List.zip_nil_right, List.append_nil] at hzip
    rw [hzip, ← List.unzip_fst, ← List.unzip_snd, List.zip_unzip]
  · rw [hcalls]
    exact List.mem_append_left _ (List.mem_map_of_mem hmem)
  · rw [hfollows]
    cases s.pending with
    | nil => rfl
    | cons call rest => exact EgressAccount.emitted_start _ call

/-! ## Sources -/

/-- What an account remembers of the runs that have settled. -/
structure EgressAccount.Remembers (a : EgressAccount Source)
    (done : List (EgressCall Source × EgressOutcome)) : Prop where
  previous : ∀ stats, a.previous = some stats → ∃ source failed, a.source = some source ∧
    (source, some stats) :: List.replicate failed (source, none) <:+ observations done
  emitted : ∀ sample ∈ a.emitted, ∃ previous current,
    Successive done sample.2 previous current ∧ sample.1.bytes = sfuEgressDelta previous current

lemma EgressAccount.remembers_after (done : List (EgressCall Source × EgressOutcome)) :
    (EgressAccount.after {} done).Remembers done := by
  induction done using List.reverseRecOn with
  | nil => exact ⟨fun _ hno => absurd hno (Option.some_ne_none _).symm, fun _ hno => absurd hno List.not_mem_nil⟩
  | append_singleton done run ih =>
    obtain ⟨call, outcome⟩ := run
    rw [after_concat]
    generalize EgressAccount.after {} done = a at ih
    have hobserved : observations (done ++ [(call, outcome)]) =
        observations done ++ [(call.source, EgressOutcome.stats? outcome)] := by
      rw [observations, List.map_append]
      rfl
    have hold : ∀ sample ∈ a.emitted, ∃ previous current,
        Successive (done ++ [(call, outcome)]) sample.2 previous current ∧
          sample.1.bytes = sfuEgressDelta previous current := by
      intro sample hmem
      obtain ⟨previous, current, ⟨failed, hinfix⟩, hbytes⟩ := ih.emitted sample hmem
      refine ⟨previous, current, ⟨failed, ?_⟩, hbytes⟩
      rw [hobserved]
      exact hinfix.trans (List.prefix_append _ _).isInfix
    -- What is remembered as the run begins was read from its source.
    have hstart : ∀ stats, (a.start call).previous = some stats →
        (a.start call).source = some call.source ∧ ∃ failed,
          (call.source, some stats) :: List.replicate failed (call.source, none) <:+
            observations done := by
      intro stats hstats
      rw [start] at hstats ⊢
      split_ifs at hstats ⊢ with hsame
      obtain ⟨source, failed, hsource, hsuffix⟩ := ih.previous stats hstats
      obtain rfl := Option.some.inj (hsame.symm.trans hsource)
      exact ⟨hsame, failed, hsuffix⟩
    have hsource : (a.start call).source = some call.source := by
      rw [start]
      split_ifs with hsame
      · exact hsame
      · rfl
    cases outcome with
    | none =>
      refine ⟨fun stats hstats => ?_, fun sample hmem => ?_⟩
      · obtain ⟨hsource, failed, before, hbefore⟩ := hstart stats hstats
        refine ⟨call.source, failed + 1, hsource, before, ?_⟩
        rw [hobserved, ← hbefore, List.replicate_succ', List.append_assoc, List.cons_append]
        rfl
      · rw [settle, emitted_start] at hmem
        exact hold sample hmem
    | some observed =>
      obtain ⟨report, observedAt⟩ := observed
      refine ⟨fun stats hstats => ?_, fun sample hmem => ?_⟩
      · obtain rfl := Option.some.inj hstats
        refine ⟨call.source, 0, hsource, ?_⟩
        rw [hobserved]
        exact List.suffix_append _ _
      · rcases List.mem_append.mp hmem with hbefore | hnew
        · rw [emitted_start] at hbefore
          exact hold sample hbefore
        · obtain ⟨previous, hprevious, hsample⟩ :=
            Option.bind_eq_some_iff.mp (Option.mem_toList.mp hnew)
          dsimp only at hsample
          split_ifs at hsample
          obtain rfl := Option.some.inj hsample
          obtain ⟨-, failed, before, hsuffix⟩ := hstart previous hprevious
          refine ⟨previous, _, ⟨failed, before, [], ?_⟩, rfl⟩
          rw [hobserved, ← hsuffix, List.append_nil, List.append_assoc]
          rfl

/-! ## Counters -/

variable {category : SfuEgressStatCategory} {previous current : SfuEgressStats}

lemma addBytes_natCast (count value : ℕ) :
    addBytes count (some (value : ℚ)) = min (count + value) maxSafeInteger := by
  have hnonneg : ¬(value : ℚ) < 0 := not_lt.mpr (Nat.cast_nonneg value)
  rw [addBytes, nonNegativeInteger, if_neg hnonneg, Nat.floor_natCast]
  omega

lemma SfuEgressBytes.of_add (bytes : SfuEgressBytes) (counted : SfuEgressStatCategory)
    (value : Option ℚ) : (bytes.add counted value).of category =
      if counted = category then addBytes (bytes.of category) value else bytes.of category := by
  cases counted <;> cases category <;> rfl

variable {entry : String × SfuEgressStat}

lemma of_addStat {bytes : SfuEgressBytes}
    (hcategory : ∀ before, previous.get? entry.1 = some before →
      before.2.category = entry.2.category) (hle : bytes.of category ≤ maxSafeInteger) :
    (addStat previous bytes entry).of category = if entry.2.category = category then
      min (bytes.of category +
        increment (counter? category entry.1 previous) (some entry.2.bytesReceived)) maxSafeInteger
    else bytes.of category := by
  rw [addStat, counter?]
  cases hget : previous.get? entry.1 with
  | none => rw [SfuEgressBytes.of_add, addBytes_natCast, Option.bind_none, increment]
  | some before =>
    have hsame := hcategory before hget
    rw [Option.bind_some, hsame]
    dsimp only
    rw [hsame]
    by_cases hcounted : entry.2.category = category
    · rw [if_pos hcounted, if_pos hcounted, increment]
      split_ifs with hskips
      · have hless := hskips.resolve_left (not_not_intro rfl)
        rw [Nat.sub_eq_zero_of_le (Nat.le_of_lt hless), Nat.add_zero, Nat.min_eq_left hle]
      · rw [SfuEgressBytes.of_add, if_pos hcounted, addBytes_natCast]
    · rw [if_neg hcounted]
      split_ifs
      · rfl
      · rw [SfuEgressBytes.of_add, if_neg hcounted]

lemma of_sfuEgressDelta (hcategory : ∀ entry ∈ current.values, ∀ before,
      previous.get? entry.1 = some before → before.2.category = entry.2.category) :
    (sfuEgressDelta previous current).of category =
      min (received category previous current) maxSafeInteger := by
  have hfold : ∀ (entries : List (String × SfuEgressStat)) (bytes : SfuEgressBytes),
      (∀ entry ∈ entries, ∀ before, previous.get? entry.1 = some before →
        before.2.category = entry.2.category) → bytes.of category ≤ maxSafeInteger →
      (entries.foldl (addStat previous) bytes).of category = min (bytes.of category +
        ((entries.filter fun entry => entry.2.category = category).map fun entry =>
          increment (counter? category entry.1 previous) (some entry.2.bytesReceived)).sum)
            maxSafeInteger := by
    intro entries
    induction entries with
    | nil => exact fun bytes _ hle => (Nat.min_eq_left hle).symm
    | cons entry entries ih =>
      intro bytes hentries hle
      have hentry := of_addStat (hentries entry List.mem_cons_self) hle
      have hrest := fun entry' hmem => hentries entry' (List.mem_cons_of_mem _ hmem)
      rw [List.foldl_cons]
      by_cases hcounted : entry.2.category = category
      · rw [if_pos hcounted] at hentry
        rw [ih _ hrest (by rw [hentry]; exact Nat.min_le_right _ _), hentry, List.filter_cons,
          if_pos (decide_eq_true hcounted), List.map_cons, List.sum_cons]
        omega
      · rw [if_neg hcounted] at hentry
        rw [ih _ hrest (by rw [hentry]; exact hle), hentry, List.filter_cons,
          if_neg (by simpa using hcounted)]
  have hzero : ({} : SfuEgressBytes).of category = 0 := by cases category <;> rfl
  rw [sfuEgressDelta, hfold _ _ hcategory (by rw [hzero]; exact Nat.zero_le _), hzero, Nat.zero_add]
  rfl

lemma counter?_eq_some {id : String} {count : ℕ} {stats : SfuEgressStats} :
    counter? category id stats = some count ↔ (id, ⟨category, count⟩) ∈ stats.values := by
  rw [counter?, Option.bind_eq_some_iff]
  constructor
  · rintro ⟨⟨id', stat⟩, hget, hcount⟩
    dsimp only at hcount
    split_ifs at hcount with hcategory
    subst hcategory
    obtain rfl := Option.some.inj hcount
    obtain rfl : id' = id := KeyedMap.key_of_get? hget
    exact KeyedMap.mem_of_get? hget
  · exact fun hmem => ⟨_, KeyedMap.get?_key hmem, if_pos rfl⟩

lemma received_eq_sum {ids : Finset String}
    (hids : ∀ entry ∈ current.values, entry.2.category = category → entry.1 ∈ ids) :
    received category previous current = ∑ id ∈ ids,
      increment (counter? category id previous) (counter? category id current) := by
  have hsublist := (current.values.filter_sublist (p := fun entry => entry.2.category = category))
  have hnodup : ((current.values.filter fun entry => entry.2.category = category).map
      Prod.fst).Nodup := current.nodup.sublist (hsublist.map Prod.fst)
  have hcounted : ∀ entry ∈ current.values.filter fun entry => entry.2.category = category,
      counter? category entry.1 current = some entry.2.bytesReceived := by
    intro entry hmem
    obtain ⟨hentry, hcategory⟩ := List.mem_filter.mp hmem
    obtain rfl := of_decide_eq_true hcategory
    exact counter?_eq_some.mpr hentry
  rw [received, List.map_congr_left fun entry hmem => by rw [← hcounted entry hmem]]
  have hsum := List.sum_toFinset
    (fun id => increment (counter? category id previous) (counter? category id current)) hnodup
  rw [List.map_map] at hsum
  refine hsum.symm.trans (Finset.sum_subset (fun id hmem => ?_) fun id _ hnot => ?_)
  · obtain ⟨entry, hentry, rfl⟩ := List.mem_map.mp (List.mem_toFinset.mp hmem)
    obtain ⟨hentry, hcategory⟩ := List.mem_filter.mp hentry
    exact hids entry hentry (of_decide_eq_true hcategory)
  · cases hcount : counter? category id current with
    | none => cases counter? category id previous <;> rfl
    | some count =>
      refine absurd (List.mem_toFinset.mpr (List.mem_map.mpr ⟨_, List.mem_filter.mpr
        ⟨counter?_eq_some.mp hcount, decide_eq_true rfl⟩, rfl⟩)) hnot

/-- What the reports add, one after the other. -/
def deltas (category : SfuEgressStatCategory) : Option SfuEgressStats → List SfuEgressStats → ℕ
  | _, [] => 0
  | previous, current :: rest =>
    (previous.elim 0 fun stats => (sfuEgressDelta stats current).of category) +
      deltas category (some current) rest

lemma EgressAccount.egress_after {source : Source} {a : EgressAccount Source}
    {done : List (EgressCall Source × EgressOutcome)} (hsame : ∀ run ∈ done, run.1.source = source)
    (hsource : a.source = some source ∨ a.previous = none) :
    egress category (a.after done).emitted = egress category a.emitted +
      deltas category a.previous (done.filterMap fun run => EgressOutcome.stats? run.2) := by
  induction done generalizing a with
  | nil => rfl
  | cons run done ih =>
    obtain ⟨call, outcome⟩ := run
    have hcall : call.source = source := hsame _ List.mem_cons_self
    have hrest := fun run hmem => hsame run (List.mem_cons_of_mem _ hmem)
    have hstart : (a.start call).source = some source ∧ (a.start call).previous = a.previous := by
      rw [start, hcall]
      split_ifs with hstarted
      · exact ⟨hstarted, rfl⟩
      · exact ⟨rfl, (hsource.resolve_left hstarted).symm⟩
    have hsettle : ((a.start call).settle call outcome).source = some source := by
      cases outcome <;> exact hstart.1
    show egress category (((a.start call).settle call outcome).after done).emitted = _
    rw [ih hrest (Or.inl hsettle)]
    cases outcome with
    | none =>
      rw [settle, emitted_start, hstart.2]
      rfl
    | some observed =>
      obtain ⟨report, observedAt⟩ := observed
      rw [List.filterMap_cons]
      dsimp only [settle, EgressOutcome.stats?, Option.map_some]
      rw [deltas, ← Nat.add_assoc, emitted_start, egress, List.map_append, List.sum_append, sample?,
        hstart.2]
      refine congrArg₂ (· + ·) (congrArg₂ (· + ·) rfl ?_) rfl
      cases a.previous with
      | none => rfl
      | some previous =>
        rw [Option.bind_some, Option.elim_some]
        dsimp only
        split_ifs with hzero
        · -- What is not emitted is nothing.
          have hparts : (sfuEgressDelta previous (aggregateSfuEgressStats report)).totalBytes = 0 :=
            hzero
          rw [SfuEgressBytes.totalBytes, maxSafeInteger] at hparts
          cases category <;> rw [SfuEgressBytes.of] <;> simp <;> omega
        · exact Nat.add_zero _

lemma deltas_add_cutOff {first : SfuEgressStats} {rest : List SfuEgressStats} {ids : Finset String}
    (hcategory : ∀ stats ∈ first :: rest, ∀ stats' ∈ first :: rest, ∀ id stat stat',
      (id, stat) ∈ stats.values → (id, stat') ∈ stats'.values → stat.category = stat'.category)
    (hids : ∀ stats ∈ rest, ∀ entry ∈ stats.values, entry.2.category = category → entry.1 ∈ ids) :
    deltas category (some first) rest + cutOff category (first :: rest) =
      ∑ id ∈ ids, counted (counter? category id first) (rest.map (counter? category id)) := by
  induction rest generalizing first with
  | nil => exact (Finset.sum_eq_zero fun _ _ => rfl).symm
  | cons current rest ih =>
    have hdelta : (sfuEgressDelta first current).of category =
        min (received category first current) maxSafeInteger := by
      refine of_sfuEgressDelta fun entry hmem before hget => ?_
      obtain ⟨id, stat⟩ := before
      obtain rfl : id = entry.1 := KeyedMap.key_of_get? hget
      exact hcategory first List.mem_cons_self current (by simp) entry.1 stat entry.2
        (KeyedMap.mem_of_get? hget) hmem
    have hrest := ih (fun stats hstats stats' hstats' => hcategory stats
      (List.mem_cons_of_mem _ hstats) stats' (List.mem_cons_of_mem _ hstats'))
      fun stats hstats => hids stats (List.mem_cons_of_mem _ hstats)
    have hsum : ∑ id ∈ ids, counted (counter? category id first)
        ((current :: rest).map (counter? category id)) =
          received category first current + ∑ id ∈ ids,
            counted (counter? category id current) (rest.map (counter? category id)) := by
      rw [received_eq_sum (hids current List.mem_cons_self), ← Finset.sum_add_distrib]
      rfl
    rw [hsum, ← hrest, deltas, cutOff, Option.elim_some, hdelta]
    omega

variable {reports : List SfuEgressStats}

lemma mem_egressObjects {stats : SfuEgressStats}
    (hstats : stats ∈ reports) (hentry : entry ∈ stats.values)
    (hcategory : entry.2.category = category) : entry.1 ∈ egressObjects reports category :=
  List.mem_toFinset.mpr (List.mem_flatMap.mpr ⟨stats, hstats, List.mem_map_of_mem
    (List.mem_filter.mpr ⟨hentry, decide_eq_true hcategory⟩)⟩)

lemma Consistent.deltas_add_cutOff (h : Consistent reports) :
    deltas category none reports + cutOff category reports =
      grownBy reports category + countedAgain reports category := by
  cases reports with
  | nil => rfl
  | cons first rest =>
    have hobject : ∀ id, counted (counter? category id first) (rest.map (counter? category id)) =
        (largest 0 (counters (first :: rest) category id) -
          ((counters (first :: rest) category id).head?.join).getD 0) +
            recounted 0 none (counters (first :: rest) category id) := by
      intro id
      have hrising : (0 :: (counters (first :: rest) category id).reduceOption).Pairwise (· ≤ ·) :=
        List.pairwise_cons.mpr ⟨fun _ _ => Nat.zero_le _, h.rising category id⟩
      have hcounted := counted_add hrising (fun _ hno => absurd hno (Option.some_ne_none _).symm)
      have hfirst : increment none (counter? category id first) =
          (counter? category id first).getD 0 := by
        cases counter? category id first <;> rfl
      have hle : (counter? category id first).getD 0 ≤
          largest 0 (counters (first :: rest) category id) :=
        Nat.le_trans (Nat.le_max_right _ _) le_largest
      rw [counters, List.map_cons, counted, hfirst, Nat.add_zero] at hcounted
      rw [counters, List.map_cons] at hle ⊢
      rw [List.head?_cons, Option.join_some]
      omega
    show 0 + deltas category (some first) rest + _ = _
    rw [Nat.zero_add, Free4Chat.deltas_add_cutOff h.category fun stats hstats entry =>
      mem_egressObjects (List.mem_cons_of_mem _ hstats), Finset.sum_congr rfl fun id _ => hobject id,
      Finset.sum_add_distrib]
    rfl

lemma Consistent.countedAgain_eq_zero (h : Consistent reports) (hsteady : Steady reports) :
    countedAgain reports category = 0 := by
  refine Finset.sum_eq_zero fun id _ => recounted_eq_zero ?_ fun _ => rfl
  have hchain : (counters reports category id).IsChain fun earlier later =>
      earlier.isSome → later.isSome := by
    rw [counters, List.isChain_map]
    refine List.IsChain.imp_of_mem_imp (fun earlier later hearlier hlater hkeys hcount => ?_) hsteady
    obtain ⟨count, hcount⟩ := Option.isSome_iff_exists.mp hcount
    have hmem := counter?_eq_some.mp hcount
    -- The object is still there, in the same category.
    obtain ⟨⟨id', stat⟩, hlatermem, hid⟩ := List.mem_map.mp (hkeys (List.mem_map_of_mem hmem))
    obtain rfl : id' = id := hid
    have hsame := h.category earlier hearlier later hlater id' _ stat hmem hlatermem
    obtain ⟨kept, received⟩ := stat
    obtain rfl : category = kept := hsame
    rw [counter?_eq_some.mpr hlatermem]
    rfl
  cases hcounters : counters reports category id with
  | nil => exact List.IsChain.singleton _
  | cons reading history =>
    rw [hcounters] at hchain
    exact List.isChain_cons_cons.mpr ⟨fun hno => absurd hno Bool.false_ne_true, hchain⟩

omit [DecidableEq Source] in
lemma Consistent.countsOnce_iff (h : Consistent reports) {samples : List (SfuEgressSample × Source)}
    (hsamples : ∀ category, egress category samples = deltas category none reports) :
    CountsOnce reports samples ↔ CutsOffRecounted reports := by
  refine forall_congr' fun category => and_congr ?_ (forall_congr' fun hsteady =>
    forall_congr' fun _ => ?_)
  · have hbalance := @Consistent.deltas_add_cutOff category reports h
    rw [hsamples]
    omega
  · have hbalance := @Consistent.deltas_add_cutOff category reports h
    rw [h.countedAgain_eq_zero hsteady] at hbalance
    rw [hsamples]
    omega

/-! ## What is accounted for -/

/-- No byte is counted twice if, and only if, no more is counted again than is cut off. -/
theorem egressAccounted_iff {steps : List (EgressStep Source)} {s : SfuEgressSampler Source}
    (hrun : SfuEgressSampler.run? {} steps = some s) :
    EgressAccounted steps s ↔ ∀ source, (∀ call ∈ sampled steps, call.source = source) →
      Consistent ((settled steps).filterMap EgressOutcome.stats?) →
        CutsOffRecounted ((settled steps).filterMap EgressOutcome.stats?) := by
  obtain ⟨done, hdone, houtcomes, hcalls, hemitted⟩ := SfuEgressSampler.emitted_of_run hrun
  have hremembers := EgressAccount.remembers_after done
  have hiff : ∀ source, (∀ call ∈ sampled steps, call.source = source) →
      Consistent ((settled steps).filterMap EgressOutcome.stats?) →
        (CountsOnce ((settled steps).filterMap EgressOutcome.stats?) s.account.emitted ↔
          CutsOffRecounted ((settled steps).filterMap EgressOutcome.stats?)) := by
    intro source hsame hconsistent
    refine hconsistent.countsOnce_iff fun category => ?_
    have hegress := @EgressAccount.egress_after Source _ category source {} done
      (fun run hmem => hsame _ (hcalls run hmem)) (Or.inr rfl)
    rw [hemitted, hegress, houtcomes, List.filterMap_map]
    exact Nat.zero_add _
  constructor
  · exact fun h source hsame hconsistent =>
      (hiff source hsame hconsistent).mp (h.counted source hsame hconsistent)
  · intro h
    refine ⟨?_, ?_, fun source hsame hconsistent =>
      (hiff source hsame hconsistent).mpr (h source hsame hconsistent)⟩
    · rw [hdone]
      exact hemitted
    · rw [hdone, hemitted]
      exact hremembers.emitted

/-- Another source is read. -/
theorem egressAccounted_switched : EgressAccounted
    [.sample ⟨0, .interval⟩, .sample ⟨1, .leave⟩, .settle (some ([], 0)), .settle none]
    ({ account := { source := some 1 } } : SfuEgressSampler ℕ) := by
  refine (egressAccounted_iff rfl).mpr fun source hsame => ?_
  have hfirst : 0 = source := hsame ⟨0, .interval⟩ (by decide)
  have hsecond : 1 = source := hsame ⟨1, .leave⟩ (by decide)
  omega

/-- A track that is received for a while, is left out of a report, and comes back. -/
def droppedTrack : List (EgressStep ℕ) :=
  let track : RtcStat := ⟨"inbound-rtp", some "audio-1", some "audio", none, some 100⟩
  [.sample ⟨0, .interval⟩, .settle (some ([], 0)),
    .sample ⟨0, .interval⟩, .settle (some ([track], 300000)),
    .sample ⟨0, .interval⟩, .settle (some ([], 600000)),
    .sample ⟨0, .leave⟩, .settle (some ([track], 900000))]

/-- The bytes of the track are counted twice. -/
theorem not_egressAccounted_droppedTrack :
    ¬EgressAccounted droppedTrack ((SfuEgressSampler.run? {} droppedTrack).getD {}) := by
  intro h
  let received : SfuEgressStats := ⟨[("audio-1", ⟨.audio, 100⟩)], List.nodup_singleton _⟩
  have hreports : (settled droppedTrack).filterMap EgressOutcome.stats? =
      [KeyedMap.empty, received, KeyedMap.empty, received] := by decide +kernel
  have hvalues : ∀ stats ∈ (settled droppedTrack).filterMap EgressOutcome.stats?,
      stats.values ⊆ [("audio-1", ⟨.audio, 100⟩)] := by
    rw [hreports]
    decide
  have hcounts := h.counted 0 (by decide) ⟨fun stats hstats stats' hstats' id stat stat' hmem hmem' =>
    ?_, fun category id => ?_⟩ .audio
  · exact absurd hcounts.1 (by decide +kernel)
  · have hstat := List.mem_singleton.mp (hvalues stats hstats hmem)
    have hstat' := List.mem_singleton.mp (hvalues stats' hstats' hmem')
    rw [(Prod.mk.inj hstat).2, (Prod.mk.inj hstat').2]
  · rw [hreports]
    show (none :: counter? category id received :: none :: [counter? category id received]).reduceOption.Pairwise _
    cases counter? category id received with
    | none => decide
    | some count => simp [List.reduceOption]

end Free4Chat
