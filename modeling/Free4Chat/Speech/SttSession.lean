import Free4Chat.Runtime.Ledger
import Free4Chat.Speech.StreamingStt
import Free4Chat.Speech.SttFrame
import Free4Chat.Transition.Reachable
import Mathlib.Data.List.InsertIdx

/-!
# A Session of the Speech Provider

A session of the provider sends audio under consecutive sequence numbers, and turns the frames that
it receives into a stream of events on a channel of its own. Whoever ranges over this channel waits
until it is closed. Audio is pushed, frames are handled and the session is closed at the same time.

The source breaks this in several places. `Close` closes the events through the same `sync.Once` by
which the reader announces the last package, so that the events stay open once a last package was
handled. A frame that is handled while `Close` runs pushes its events even if the channel is closed
by then. And a sequence number is taken before the audio is decoded, so that audio which cannot be
sent leaves a gap.

* `SttSession`: the session, the calls at work between their critical sections, and its history.
* `Recognition.emitUtterance` and `SttSession.next?`: what an utterance does, and one step.
* `SttSession.Disciplined`: what should hold in every state that is reached.
* `disciplined_of_reachable`: it does in runs that avoid these places.
-/

namespace Free4Chat

/-! ## State -/

/-- Most events that wait in the channel. -/
def sttMaxPendingEvents : ℕ := 256

/-- A call of `PushAudio` that took a sequence number: before and after it built its request. -/
inductive PushStage where
  | decode (number : Int32) (frame : AudioFrame)
  | send (number : Int32) (request : List UInt8)
deriving DecidableEq

/-- The sequence number of a call of `PushAudio`. -/
def PushStage.number : PushStage → Int32
  | .decode number _ => number
  | .send number _ => number

/-- A call of `Close`: after it read the sequence number, before it sends the final frame, before it
marks the session as closed, and before it closes the events. -/
inductive CloseStage where
  | begun (number : Int32)
  | send (number : Int32)
  | mark
  | once
deriving DecidableEq

/-- The reader: it waits for a frame, has to report a failure, or handles a frame. -/
inductive ReaderStage where
  | idle
  | failing (error : SttError)
  -- Events still to be pushed, the utterance they are about, what is left of the frame, whether it
  -- is the last package, and whether the channel was found full.
  | handling (events : List SttEvent) (about : Option SttUtterance) (rest : List SttUtterance)
      (last full : Bool)
deriving DecidableEq

/-- An event that was pushed, what it is about, and whether the channel was closed already. -/
structure PushedEvent where
  event : SttEvent
  about : Option SttUtterance
  late : Bool
deriving DecidableEq

/-- What was recognized so far. -/
structure Recognition where
  speechOpen : Bool := false
  committed : List String := []
  partials : KeyedMap (String × String) := .empty

/-- A session. -/
structure SttSession where
  connected : Bool := true
  sequence : Int32 := 2
  closed : Bool := false
  closing : Bool := false
  failed : Bool := false
  recognition : Recognition := {}
  -- The events that wait in the channel, and whether it was closed.
  events : List SttEvent := []
  eventsClosed : Bool := false
  -- The guard `finalOnce` was used, and the channel `finalCh` was closed.
  finalOnce : Bool := false
  finalClosed : Bool := false
  -- The calls at work, the oldest first.
  pushes : List PushStage := []
  closes : List CloseStage := []
  reader : ReaderStage := .idle
  -- The numbers of the audio that was sent, of the audio that was not, and of the final frames.
  sent : List Int32 := []
  givenUp : List Int32 := []
  finals : List Int32 := []
  pushed : List PushedEvent := []
  eventsCloses : ℕ := 0
  closeReturned : Bool := false

/-- A step of a session. -/
inductive SttStep where
  -- `PushAudio` takes a number, builds its request from what the decoder made of the audio, and
  -- sends it.
  | pushAudio (frame : AudioFrame)
  | build (index : ℕ) (decoded : Option (List UInt8))
  | send (index : ℕ) (delivered : Bool)
  -- `Close` takes the number, looks whether the session failed, sends the final frame and waits,
  -- marks the session, and closes the events.
  | close
  | closeCheck (index : ℕ)
  | closeSend (index : ℕ) (delivered : Bool)
  | closeMark (index : ℕ)
  | closeOnce (index : ℕ)
  -- `HandleMessage` parses a frame, takes one utterance after the other, pushes the events of each,
  -- and returns.
  | receive (data : List UInt8)
  | fail
  | utterance
  | push
  | returns
  -- The consumer receives an event.
  | consume
deriving DecidableEq

/-! ## Utterances -/

/-- The whole part of a time. -/
def wholeMs (time : ℚ) : ℤ := time.num.tdiv time.den

/-- An utterance with its text as it is compared. -/
def SttUtterance.trimmed (utterance : SttUtterance) : SttUtterance :=
  { utterance with text := trimSpace utterance.text }

/-- The times of an utterance as a key. -/
def SttUtterance.key (utterance : SttUtterance) : String :=
  (utterance.startTime.elim "?" fun time => toString (wholeMs time)) ++ ":" ++
    utterance.endTime.elim "?" fun time => toString (wholeMs time)

/-- The time of the events about an utterance. -/
def SttUtterance.timestampMs (utterance : SttUtterance) : Option ℤ :=
  (utterance.endTime <|> utterance.startTime).map wholeMs

/-- The key of an utterance that is committed. -/
def SttUtterance.identity (utterance : SttUtterance) : String :=
  utterance.key ++ ":" ++ utterance.text

/-- What a call of `PushAudio` makes of a frame, given what the decoder made of it. -/
def pcmOf (frame : AudioFrame) (decoded : Option (List UInt8)) : Option (List UInt8) :=
  if frame.codec = "opus" then decoded
  else if frame.codec = "pcm_s16le" then some frame.data
  else none

namespace Recognition

variable (r : Recognition)

/-- The events with which speech begins, unless it has begun. -/
def speechStart (timestampMs : Option ℤ) : List SttEvent :=
  if r.speechOpen then [] else [{ type := .speechStarted, timestampMs }]

/-- The critical section of `emitUtterance` for an utterance with trimmed text, and the events to be
pushed. -/
def emitUtterance (utterance : SttUtterance) : Recognition × List SttEvent :=
  if utterance.text = "" then (r, [])
  else if utterance.definite then
    if utterance.identity ∈ r.committed then (r, [])
    else
      ({ committed := utterance.identity :: r.committed
         partials := r.partials.erase utterance.key
         speechOpen := false },
        r.speechStart utterance.timestampMs ++
          [{ type := .committed, text := utterance.text, timestampMs := utterance.timestampMs },
            { type := .speechEnded, timestampMs := utterance.timestampMs }])
  else if r.partials.get? utterance.key = some (utterance.key, utterance.text) then (r, [])
  else
    ({ r with partials := r.partials.set (utterance.key, utterance.text), speechOpen := true },
      r.speechStart utterance.timestampMs ++
        [{ type := .partialText, text := utterance.text, timestampMs := utterance.timestampMs }])

end Recognition

namespace SttSession

variable (s : SttSession)

/-! ## Steps -/

/-- The critical section of `PushAudio`. -/
def pushAudio (frame : AudioFrame) : SttSession :=
  if s.closed || s.closing || s.failed || !s.connected then s
  else { s with sequence := s.sequence + 1, pushes := s.pushes ++ [.decode s.sequence frame] }

/-- Build the request for some audio. Audio that is empty or cannot be decoded is not sent. -/
def build (codecs : SttCodecs) (index : ℕ) (number : Int32) (pcm : Option (List UInt8)) :
    SttSession :=
  match pcm.filter (· ≠ []) >>= buildSttAudioRequest codecs number with
  | some request => { s with pushes := s.pushes.set index (.send number request) }
  | none => { s with pushes := s.pushes.eraseIdx index, givenUp := s.givenUp ++ [number] }

/-- Send a request, which may fail. -/
def send (index : ℕ) (number : Int32) (delivered : Bool) : SttSession :=
  { s with
    pushes := s.pushes.eraseIdx index
    sent := if delivered then s.sent ++ [number] else s.sent
    givenUp := if delivered then s.givenUp else s.givenUp ++ [number] }

/-- The first critical section of `Close`. -/
def close : SttSession :=
  if s.closed then { s with closeReturned := true }
  else { s with closing := true, closes := s.closes ++ [.begun s.sequence] }

/-- Send the final frame, and wait for the last package, which ends in any case. -/
def closeSend (codecs : SttCodecs) (index : ℕ) (number : Int32) (delivered : Bool) : SttSession :=
  { s with
    closes := s.closes.set index .mark
    finals :=
      if delivered && (buildSttAudioRequest codecs (-number) []).isSome then s.finals ++ [-number]
      else s.finals }

/-- `finalOnce.Do(close(s.events))` at the end of `Close`. -/
def closeOnce (index : ℕ) : SttSession :=
  let returned := { s with closes := s.closes.eraseIdx index, closeReturned := true }
  if s.finalOnce then returned
  else
    { returned with
      finalOnce := true
      eventsClosed := true
      eventsCloses := s.eventsCloses + 1 }

/-- `HandleMessage` begins with a frame. -/
def receive (codecs : SttCodecs) (data : List UInt8) : SttSession :=
  if s.closed then s
  else match parseSttResponse codecs data with
    | .error _ =>
      { s with
        reader := .failing
          { code := "invalid_response", message := "Doubao returned an invalid response" } }
    | .ok response =>
      if response.code ≠ 0 then
        { s with
          reader := .failing
            { code := "provider_error_" ++ toString response.code
              message := "Doubao rejected the speech request" } }
      else { s with reader := .handling [] none response.result response.isLastPackage false }

/-- The critical section of `fail`. -/
def fail (error : SttError) : SttSession :=
  if s.failed || s.closed then { s with reader := .idle }
  else
    { s with
      failed := true
      reader := .handling [{ type := .error, error := some error }] none [] false false }

/-- Push an event. The oldest one is dropped if the channel is found full. A channel that is closed
takes no event: the send ends the program, and the history says that it was late. -/
def push (event : SttEvent) (events : List SttEvent) (about : Option SttUtterance)
    (rest : List SttUtterance) (last full : Bool) : SttSession :=
  if full || s.eventsClosed || s.events.length < sttMaxPendingEvents then
    { s with
      reader := .handling events about rest last false
      events := (if full then s.events.tail else s.events) ++ [event]
      pushed := s.pushed ++ [⟨event, about, s.eventsClosed⟩] }
  else { s with reader := .handling (event :: events) about rest last true }

/-- Take the next utterance of a frame. -/
def takeUtterance (utterance : SttUtterance) (rest : List SttUtterance) (last : Bool) :
    SttSession :=
  { s with
    recognition := (s.recognition.emitUtterance utterance.trimmed).1
    reader := .handling (s.recognition.emitUtterance utterance.trimmed).2 utterance.trimmed rest
      last false }

/-- `HandleMessage` returns. A last package closes `finalCh` through `finalOnce`. -/
def returns (last : Bool) : SttSession :=
  if last && !s.finalOnce then { s with reader := .idle, finalOnce := true, finalClosed := true }
  else { s with reader := .idle }

/-- One step. -/
def next? (codecs : SttCodecs) : SttStep → Option SttSession
  | .pushAudio frame => some (s.pushAudio frame)
  | .build index decoded =>
    match s.pushes[index]? with
    | some (.decode number frame) => some (s.build codecs index number (pcmOf frame decoded))
    | _ => none
  | .send index delivered =>
    match s.pushes[index]? with
    | some (.send number _) => some (s.send index number delivered)
    | _ => none
  | .close => some s.close
  | .closeCheck index =>
    match s.closes[index]? with
    | some (.begun number) => some { s with
        closes := s.closes.set index (if s.connected && !s.failed then .send number else .mark) }
    | _ => none
  | .closeSend index delivered =>
    match s.closes[index]? with
    | some (.send number) => some (s.closeSend codecs index number delivered)
    | _ => none
  | .closeMark index =>
    if s.closes[index]? = some .mark then
      some { s with closed := true, closing := false, closes := s.closes.set index .once }
    else none
  | .closeOnce index => if s.closes[index]? = some .once then some (s.closeOnce index) else none
  | .receive data => if s.reader = .idle then some (s.receive codecs data) else none
  | .fail =>
    match s.reader with
    | .failing error => some (s.fail error)
    | _ => none
  | .utterance =>
    match s.reader with
    | .handling [] _ (utterance :: rest) last _ => some (s.takeUtterance utterance rest last)
    | _ => none
  | .push =>
    match s.reader with
    | .handling (event :: events) about rest last full =>
      some (s.push event events about rest last full)
    | _ => none
  | .returns =>
    match s.reader with
    | .handling [] _ [] last _ => some (s.returns last)
    | _ => none
  | .consume =>
    match s.events with
    | [] => none
    | _ :: events => some { s with events }

/-! ## What should hold -/

/-- Whether speech is open after some events. -/
def speechOpenAfter (events : List SttEvent) : Bool :=
  events.foldl (fun isOpen event =>
    match event.type with
    | .speechStarted => true
    | .speechEnded => false
    | _ => isOpen) false

/-- Every text lies behind the beginning of speech, with no end of speech between. -/
def Bracketed (events : List SttEvent) : Prop :=
  ∀ before event after, events = before ++ event :: after →
    event.type = .partialText ∨ event.type = .committed → speechOpenAfter before = true

/-- What the committed texts of some events are about. -/
def commits (events : List PushedEvent) : List (Option SttUtterance) :=
  (events.filter fun entry => entry.event.type = .committed).map (·.about)

/-- The stream is disciplined: the channel is closed once `Close` has returned, it is closed once
and takes no event afterwards, every utterance is committed at most once, the events are bracketed,
and the frames that are sent have consecutive numbers, the final one the negative of the next. -/
structure Disciplined : Prop where
  closed : s.closeReturned = true → s.eventsClosed = true
  closedOnce : s.eventsCloses = if s.eventsClosed then 1 else 0
  punctual : ∀ entry ∈ s.pushed, entry.late = false
  committedOnce : (commits s.pushed).Nodup
  bracketed : Bracketed (s.pushed.map (·.event))
  numbered : s.sent.map (·.toInt) = (List.range' 2 s.sent.length).map Int.ofNat
  final : ∀ number ∈ s.finals, number.toInt = -(2 + s.sent.length)

/-! ## The runs in which it holds -/

/-- Whether the reader has no event left to push. -/
def quiet : Bool :=
  match s.reader with
  | .handling events _ rest _ _ =>
    events.isEmpty && rest.all fun utterance =>
      (s.recognition.emitUtterance utterance.trimmed).2.isEmpty
  | _ => true

/-- Whether audio with a number may be sent: no call with a smaller number is at work, or has given
its audio up. -/
def isNext (index : ℕ) : Bool :=
  index = 0 && s.pushes.head?.all fun stage => s.givenUp.all fun number => stage.number < number

/-- The condition: no number is skipped or used after the largest one, no audio is outstanding when
the final frame is sent, no last package was handled and no event is to be pushed when `Close`
closes the events, and another `Close` comes only afterwards. -/
def avoidsRaces : SttStep → Bool
  | .pushAudio _ => s.sequence < Int32.maxValue
  | .send index delivered => !delivered || s.isNext index
  | .close => !s.closed || s.eventsClosed
  | .closeSend _ delivered => !delivered || s.pushes.isEmpty && s.givenUp.isEmpty
  | .closeOnce _ => !s.finalClosed && s.quiet
  | _ => true

end SttSession

/-- A session as a transition system, whether it is connected or not. -/
def sttSystem (codecs : SttCodecs) : TransitionSystem SttSession SttStep where
  init s := ∃ connected, s = { connected }
  step s step s' := s.next? codecs step = some s'

namespace SttSession

variable {s s' : SttSession} {codecs : SttCodecs}

/-! ## Sequence numbers -/

lemma toInt_succ {number : Int32} (h : number < Int32.maxValue) :
    (number + 1).toInt = number.toInt + 1 := by
  have hmax : number.toInt < 2147483647 := Int32.lt_iff_toInt_lt.mp h
  have hmin := Int32.le_toInt number
  rw [Int32.toInt_add, show (1 : Int32).toInt = 1 from rfl]
  exact Int.bmod_eq_of_le (by omega) (by omega)

lemma toInt_neg {number : Int32} (h : 2 ≤ number.toInt) : (-number).toInt = -number.toInt := by
  have hmax := Int32.toInt_lt number
  rw [Int32.toInt_neg]
  exact Int.bmod_eq_of_le (by omega) (by omega)

/-- The numbers of the calls of `PushAudio` at work. -/
def outstanding (s : SttSession) : List ℤ := s.pushes.map fun stage => stage.number.toInt

lemma outstanding_eraseIdx {index : ℕ} :
    (s.pushes.eraseIdx index).map (fun stage => stage.number.toInt) =
      s.outstanding.eraseIdx index := by
  rw [outstanding, List.eraseIdx_map]

/-- The invariant of the sequence numbers: those that were sent come first, and all others are
outstanding or were given up. -/
structure Numbering (s : SttSession) : Prop where
  numbered : s.sent.map (·.toInt) = (List.range' 2 s.sent.length).map Int.ofNat
  next : 2 + s.sent.length ≤ s.sequence.toInt
  increasing : s.outstanding.Pairwise (· < ·)
  bounds : ∀ number ∈ s.outstanding, 2 + s.sent.length ≤ number ∧ number < s.sequence.toInt
  covered : ∀ number : ℤ, 2 + s.sent.length ≤ number → number < s.sequence.toInt →
    number ∈ s.outstanding ∨ number ∈ s.givenUp.map (·.toInt)
  -- Once a call of `Close` is at work, no number is taken.
  calls : s.closes ≠ [] → (s.closing || s.closed) = true
  callNumber : ∀ number, .begun number ∈ s.closes ∨ .send number ∈ s.closes → number = s.sequence
  finals : ∀ number ∈ s.finals, number.toInt = -s.sequence.toInt
  ended : s.finals ≠ [] →
    s.pushes = [] ∧ s.givenUp = [] ∧ (s.closing || s.closed) = true

namespace Numbering

lemma final (h : s.Numbering) : ∀ number ∈ s.finals, number.toInt = -(2 + s.sent.length) := by
  intro number hmem
  obtain ⟨hpushes, hgivenUp, -⟩ := h.ended (List.ne_nil_of_mem hmem)
  -- With nothing outstanding or given up, the next number follows the last one sent.
  have hnext : s.sequence.toInt = 2 + s.sent.length := by
    by_contra hne
    have hlt : (2 + s.sent.length : ℤ) < s.sequence.toInt := lt_of_le_of_ne h.next (Ne.symm hne)
    rcases h.covered _ le_rfl hlt with hmem | hmem
    · rw [outstanding, hpushes] at hmem
      exact absurd hmem List.not_mem_nil
    · rw [hgivenUp] at hmem
      exact absurd hmem List.not_mem_nil
  rw [h.finals number hmem, hnext]

lemma pushAudio (h : s.Numbering) {frame : AudioFrame}
    (hguard : s.avoidsRaces (.pushAudio frame) = true) : (s.pushAudio frame).Numbering := by
  rw [SttSession.pushAudio]
  split
  · exact h
  next hopen =>
    have hfree : (s.closing || s.closed) ≠ true := by
      intro hclosed
      rw [Bool.or_eq_true] at hclosed
      rcases hclosed with hclosed | hclosed <;> simp [hclosed] at hopen
    have hsucc := toInt_succ (of_decide_eq_true hguard)
    have hnext := h.next
    have hcalls : s.closes = [] := by_contra fun hne => hfree (h.calls hne)
    have hfinals : s.finals = [] := by_contra fun hne => hfree (h.ended hne).2.2
    have houtstanding : ({ s with
        sequence := s.sequence + 1
        pushes := s.pushes ++ [.decode s.sequence frame] } : SttSession).outstanding =
          s.outstanding ++ [s.sequence.toInt] := by
      rw [outstanding, List.map_append]
      rfl
    refine
      { h with
        next := by rw [hsucc]; show (2 + s.sent.length : ℤ) ≤ _; omega
        increasing := ?_
        bounds := fun number hmem => ?_
        covered := fun number hge hlt => ?_
        callNumber := fun number hmem => ?_
        finals := fun number hmem => ?_
        ended := fun hne => absurd hfinals hne }
    · rw [houtstanding, List.pairwise_append]
      refine ⟨h.increasing, List.pairwise_singleton _ _, fun number hmem last hlast => ?_⟩
      rw [List.mem_singleton.mp hlast]
      exact (h.bounds number hmem).2
    · rw [hsucc]
      rw [houtstanding] at hmem
      rcases List.mem_append.mp hmem with hmem | hmem
      · have := h.bounds number hmem
        exact ⟨this.1, by omega⟩
      · rw [List.mem_singleton.mp hmem]
        exact ⟨hnext, by omega⟩
    · rw [houtstanding]
      rw [hsucc] at hlt
      by_cases hlast : number = s.sequence.toInt
      · exact Or.inl (List.mem_append_right _ (List.mem_singleton.mpr hlast))
      · exact (h.covered number hge (by omega)).imp_left (List.mem_append_left _)
    · rw [hcalls] at hmem
      rcases hmem with hmem | hmem <;> exact absurd hmem List.not_mem_nil
    · rw [hfinals] at hmem
      exact absurd hmem List.not_mem_nil

variable {index : ℕ}

lemma giveUp (h : s.Numbering) {stage : PushStage} (hstage : s.pushes[index]? = some stage) :
    ({ s with
        pushes := s.pushes.eraseIdx index
        givenUp := s.givenUp ++ [stage.number] } : SttSession).Numbering := by
  have hwork : s.finals = [] := by
    by_contra hne
    rw [(h.ended hne).1] at hstage
    cases hstage
  refine
    { h with
      increasing := ?_
      bounds := fun number hmem => h.bounds number ?_
      covered := fun number hge hlt => ?_
      ended := fun hne => absurd hwork hne }
  · rw [outstanding, outstanding_eraseIdx]
    exact h.increasing.sublist (List.eraseIdx_sublist _ _)
  · rw [outstanding, outstanding_eraseIdx] at hmem
    exact List.mem_of_mem_eraseIdx hmem
  · rw [outstanding, outstanding_eraseIdx, List.map_append, List.mem_append]
    rcases h.covered number hge hlt with hmem | hmem
    · by_cases hsame : number = stage.number.toInt
      · exact Or.inr (Or.inr (List.mem_singleton.mpr hsame))
      · refine Or.inl (List.mem_eraseIdx_iff_getElem?.mpr ?_)
        obtain ⟨place, hplace⟩ := List.getElem?_of_mem hmem
        refine ⟨place, fun heq => hsame ?_, hplace⟩
        rw [heq, outstanding, List.getElem?_map, hstage] at hplace
        exact (Option.some.inj hplace).symm
    · exact Or.inr (Or.inl hmem)

variable {number : Int32}

section

variable (h : s.Numbering)
include h

/-- Sending audio keeps the invariant, if its number is the next one. -/
lemma send {request : List UInt8}
    {delivered : Bool} (hstage : s.pushes[index]? = some (.send number request))
    (hguard : s.avoidsRaces (.send index delivered) = true) :
    (s.send index number delivered).Numbering := by
  cases delivered with
  | false => exact h.giveUp hstage
  | true =>
    rw [avoidsRaces, Bool.not_true, Bool.false_or, isNext, Bool.and_eq_true] at hguard
    obtain rfl := of_decide_eq_true hguard.1
    obtain ⟨rest, hpushes⟩ : ∃ rest, s.pushes = .send number request :: rest := by
      match hlist : s.pushes with
      | [] => rw [hlist] at hstage; cases hstage
      | first :: rest =>
        rw [hlist] at hstage
        exact ⟨rest, by rw [Option.some.inj hstage]⟩
    have hsmallest : ∀ other ∈ s.givenUp, number.toInt < other.toInt := by
      have hall := hguard.2
      rw [hpushes, List.head?_cons, Option.all_some, List.all_eq_true] at hall
      exact fun other hmem => Int32.lt_iff_toInt_lt.mp (of_decide_eq_true (hall other hmem))
    have houtstanding : s.outstanding = number.toInt ::
        rest.map fun stage => stage.number.toInt := by
      rw [outstanding, hpushes]
      rfl
    have hincreasing := h.increasing
    rw [houtstanding, List.pairwise_cons] at hincreasing
    have hbounds := h.bounds number.toInt (houtstanding ▸ List.mem_cons_self)
    -- Everything that is not sent yet has this number or a larger one.
    have hnumber : number.toInt = 2 + s.sent.length := by
      by_contra hne
      rcases h.covered _ le_rfl (by omega) with hmem | hmem
      · rw [houtstanding] at hmem
        rcases List.mem_cons.mp hmem with heq | hmem
        · exact hne heq.symm
        · have := hincreasing.1 _ hmem
          omega
      · obtain ⟨other, hother, heq⟩ := List.mem_map.mp hmem
        have := hsmallest other hother
        omega
    have hwork : s.finals = [] := by
      by_contra hne
      rw [(h.ended hne).1] at hstage
      cases hstage
    have hafter : (s.send 0 number true).outstanding =
        rest.map fun stage => stage.number.toInt := by
      rw [outstanding, SttSession.send, hpushes]
      rfl
    have hlength : (s.send 0 number true).sent.length = s.sent.length + 1 := by
      show (s.sent ++ [number]).length = _
      rw [List.length_append, List.length_singleton]
    refine
      { h with
        numbered := ?_
        next := ?_
        increasing := hafter ▸ hincreasing.2
        bounds := fun other hmem => ?_
        covered := fun other hge hlt => ?_
        ended := fun hne => absurd hwork hne }
    · rw [hlength, List.range'_concat, List.map_append, ← h.numbered]
      show (s.sent ++ [number]).map _ = _
      rw [List.map_append]
      simp only [List.map_cons, List.map_nil, hnumber]
      congr 2
      simp
    · rw [hlength]
      show _ ≤ s.sequence.toInt
      omega
    · rw [hlength]
      rw [hafter] at hmem
      have hlarger := hincreasing.1 other hmem
      have := h.bounds other (houtstanding ▸ List.mem_cons_of_mem _ hmem)
      exact ⟨by omega, this.2⟩
    · rw [hlength] at hge
      rw [hafter]
      rcases h.covered other (by omega) hlt with hmem | hmem
      · rw [houtstanding] at hmem
        rcases List.mem_cons.mp hmem with heq | hmem
        · omega
        · exact Or.inl hmem
      · exact Or.inr hmem

lemma build {frame : AudioFrame}
    {pcm : Option (List UInt8)} (hstage : s.pushes[index]? = some (.decode number frame)) :
    (s.build codecs index number pcm).Numbering := by
  rw [SttSession.build]
  split
  next request hrequest =>
    -- The call stays where it is, with its number.
    have hsame : ({ s with
        pushes := s.pushes.set index (.send number request) } : SttSession).outstanding =
          s.outstanding := by
      have hnumber : s.outstanding[index]? = some number.toInt := by
        rw [outstanding, List.getElem?_map, hstage]
        rfl
      obtain ⟨hlength, heq⟩ := List.getElem?_eq_some_iff.mp hnumber
      rw [outstanding, List.map_set]
      show s.outstanding.set index number.toInt = s.outstanding
      rw [← heq]
      exact List.set_getElem_self hlength
    refine
      { h with
        increasing := hsame ▸ h.increasing
        bounds := hsame ▸ h.bounds
        covered := hsame ▸ h.covered
        ended := fun hne => ?_ }
    rw [(h.ended hne).1] at hstage
    cases hstage
  next => exact h.giveUp hstage

lemma close : s.close.Numbering := by
  rw [SttSession.close]
  split
  · exact { h with }
  · refine
      { h with
        calls := fun _ => rfl
        callNumber := fun number hmem => ?_
        ended := fun hne => ⟨(h.ended hne).1, (h.ended hne).2.1, rfl⟩ }
    simp only [List.mem_append, List.mem_singleton] at hmem
    rcases hmem with (hmem | hmem) | (hmem | hmem)
    · exact h.callNumber number (Or.inl hmem)
    · exact CloseStage.begun.inj hmem
    · exact h.callNumber number (Or.inr hmem)
    · cases hmem

lemma closes {index : ℕ} {before after : CloseStage} (hstage : s.closes[index]? = some before)
    (hnumber : ∀ number, after = .begun number ∨ after = .send number → number = s.sequence) :
    ({ s with closes := s.closes.set index after } : SttSession).Numbering := by
  have hcalled := h.calls (List.ne_nil_of_mem (List.mem_of_getElem? hstage))
  refine { h with calls := fun _ => hcalled, callNumber := fun number hmem => ?_ }
  rcases hmem with hmem | hmem
  · rcases List.mem_or_eq_of_mem_set hmem with hold | hnew
    · exact h.callNumber number (Or.inl hold)
    · exact hnumber number (Or.inl hnew.symm)
  · rcases List.mem_or_eq_of_mem_set hmem with hold | hnew
    · exact h.callNumber number (Or.inr hold)
    · exact hnumber number (Or.inr hnew.symm)

lemma closeSend {delivered : Bool} (hstage : s.closes[index]? = some (.send number))
    (hguard : s.avoidsRaces (.closeSend index delivered) = true) :
    (s.closeSend codecs index number delivered).Numbering := by
  have hmem := List.mem_of_getElem? hstage
  have hcalled := h.calls (List.ne_nil_of_mem hmem)
  obtain rfl := h.callNumber number (Or.inr hmem)
  have hmark : ({ s with closes := s.closes.set index .mark } : SttSession).Numbering :=
    h.closes hstage fun _ hstage => by rcases hstage with hstage | hstage <;> cases hstage
  have hnext := h.next
  refine { hmark with finals := fun final hfinal => ?_, ended := fun hne => ?_ }
  · change final ∈ (if _ then s.finals ++ [-s.sequence] else s.finals) at hfinal
    split at hfinal
    · rcases List.mem_append.mp hfinal with hfinal | hfinal
      · exact h.finals final hfinal
      · rw [List.mem_singleton.mp hfinal]
        exact toInt_neg (by omega)
    · exact h.finals final hfinal
  · change (if _ then s.finals ++ [-s.sequence] else s.finals) ≠ [] at hne
    split at hne
    next hsent =>
      rw [Bool.and_eq_true] at hsent
      rw [avoidsRaces, hsent.1, Bool.not_true, Bool.false_or, Bool.and_eq_true,
        List.isEmpty_iff, List.isEmpty_iff] at hguard
      exact ⟨hguard.1, hguard.2, hcalled⟩
    · exact h.ended hne

lemma closeMark (hstage : s.closes[index]? = some .mark) :
    ({ s with closed := true, closing := false, closes := s.closes.set index .once } :
      SttSession).Numbering := by
  have honce : ({ s with closes := s.closes.set index .once } : SttSession).Numbering :=
    h.closes hstage fun _ hstage => by rcases hstage with hstage | hstage <;> cases hstage
  exact
    { honce with
      calls := fun _ => rfl
      ended := fun hne => ⟨(h.ended hne).1, (h.ended hne).2.1, rfl⟩ }

lemma closeOnce : (s.closeOnce index).Numbering := by
  have hreturned : ({ s with closes := s.closes.eraseIdx index, closeReturned := true } :
      SttSession).Numbering :=
    { h with
      calls := fun hne => h.calls fun hnil => hne (by
        show s.closes.eraseIdx index = []
        rw [hnil, List.eraseIdx_nil])
      callNumber := fun number hmem => h.callNumber number
        (hmem.imp List.mem_of_mem_eraseIdx List.mem_of_mem_eraseIdx) }
  rw [SttSession.closeOnce]
  dsimp only
  split
  · exact hreturned
  · exact { hreturned with }

end

end Numbering

/-! ## Events -/

lemma speechOpenAfter_snoc (events : List SttEvent) (event : SttEvent) :
    speechOpenAfter (events ++ [event]) =
      match event.type with
      | .speechStarted => true
      | .speechEnded => false
      | _ => speechOpenAfter events := by
  rw [speechOpenAfter, List.foldl_append]
  rfl

lemma Bracketed.of_append {events more : List SttEvent} (h : Bracketed (events ++ more)) :
    Bracketed events := by
  intro before event after hsplit
  refine h before event (after ++ more) ?_
  rw [hsplit, List.append_assoc, List.cons_append]

lemma Bracketed.snoc {events : List SttEvent} (h : Bracketed events) (event : SttEvent)
    (hopen : event.type = .partialText ∨ event.type = .committed →
      speechOpenAfter events = true) : Bracketed (events ++ [event]) := by
  intro before text after hsplit htext
  rcases List.eq_nil_or_concat after with rfl | ⟨init, last, rfl⟩
  · obtain ⟨rfl, hlast⟩ := List.append_inj' hsplit rfl
    obtain rfl := (List.cons.inj hlast).1
    exact hopen htext
  · rw [List.concat_eq_append, ← List.cons_append, ← List.append_assoc] at hsplit
    obtain ⟨hinit, -⟩ := List.append_inj' hsplit rfl
    exact h before text init hinit htext

lemma commits_append (events more : List PushedEvent) :
    commits (events ++ more) = commits events ++ commits more := by
  rw [commits, List.filter_append, List.map_append]
  rfl

/-- Events about an utterance, before they are pushed. -/
def pendingEvents (events : List SttEvent) (about : Option SttUtterance) : List PushedEvent :=
  events.map fun event => ⟨event, about, false⟩

lemma map_pendingEvents (events : List SttEvent) (about : Option SttUtterance) :
    (pendingEvents events about).map (·.event) = events := by
  rw [pendingEvents, List.map_map]
  exact List.map_id events

end SttSession

namespace Recognition

variable {r : Recognition} {events : List SttEvent}

lemma emitUtterance_cases (r : Recognition) (utterance : SttUtterance) :
    r.emitUtterance utterance = (r, []) ∨
    (utterance.identity ∉ r.committed ∧ r.emitUtterance utterance =
      ({ committed := utterance.identity :: r.committed
         partials := r.partials.erase utterance.key
         speechOpen := false },
        r.speechStart utterance.timestampMs ++
          [{ type := .committed, text := utterance.text, timestampMs := utterance.timestampMs },
            { type := .speechEnded, timestampMs := utterance.timestampMs }])) ∨
    r.emitUtterance utterance =
      ({ r with partials := r.partials.set (utterance.key, utterance.text), speechOpen := true },
        r.speechStart utterance.timestampMs ++
          [{ type := .partialText, text := utterance.text,
             timestampMs := utterance.timestampMs }]) := by
  rw [emitUtterance]
  split
  · exact Or.inl rfl
  · split
    · split
      · exact Or.inl rfl
      next hnew => exact Or.inr (Or.inl ⟨hnew, rfl⟩)
    · split
      · exact Or.inl rfl
      · exact Or.inr (Or.inr rfl)

lemma emitUtterance_eq_self {utterance : SttUtterance}
    (hsilent : (r.emitUtterance utterance).2 = []) : (r.emitUtterance utterance).1 = r := by
  rcases r.emitUtterance_cases utterance with heq | ⟨-, heq⟩ | heq
  · rw [heq]
  · rw [heq] at hsilent
    exact absurd hsilent (List.append_ne_nil_of_right_ne_nil _ (List.cons_ne_nil _ _))
  · rw [heq] at hsilent
    exact absurd hsilent (List.append_ne_nil_of_right_ne_nil _ (List.cons_ne_nil _ _))

lemma bracketed_speechStart (h : SttSession.Bracketed events)
    (hopen : SttSession.speechOpenAfter events = r.speechOpen) (timestampMs : Option ℤ) :
    SttSession.Bracketed (events ++ r.speechStart timestampMs) ∧
      SttSession.speechOpenAfter (events ++ r.speechStart timestampMs) = true := by
  rw [speechStart]
  split
  next hyes =>
    rw [List.append_nil]
    exact ⟨h, hopen.trans hyes⟩
  next =>
    refine ⟨h.snoc _ fun htext => ?_, SttSession.speechOpenAfter_snoc _ _⟩
    rcases htext with htext | htext <;> cases htext

lemma bracketed_emitUtterance (h : SttSession.Bracketed events)
    (hopen : SttSession.speechOpenAfter events = r.speechOpen) (utterance : SttUtterance) :
    SttSession.Bracketed (events ++ (r.emitUtterance utterance).2) ∧
      SttSession.speechOpenAfter (events ++ (r.emitUtterance utterance).2) =
        (r.emitUtterance utterance).1.speechOpen := by
  obtain ⟨hstart, hstarted⟩ := bracketed_speechStart h hopen utterance.timestampMs
  rcases r.emitUtterance_cases utterance with heq | ⟨-, heq⟩ | heq
  · rw [heq, List.append_nil]
    exact ⟨h, hopen⟩
  · have hcommitted := hstart.snoc
      { type := .committed, text := utterance.text, timestampMs := utterance.timestampMs }
      fun _ => hstarted
    have hended := hcommitted.snoc
      { type := .speechEnded, timestampMs := utterance.timestampMs }
      fun htext => by rcases htext with htext | htext <;> cases htext
    rw [heq]
    simp only [List.append_assoc, List.cons_append, List.nil_append] at hended ⊢
    refine ⟨hended, ?_⟩
    have hlast := SttSession.speechOpenAfter_snoc (events ++ (r.speechStart utterance.timestampMs ++
      [{ type := .committed, text := utterance.text, timestampMs := utterance.timestampMs }]))
        { type := .speechEnded, timestampMs := utterance.timestampMs }
    simpa only [List.append_assoc, List.cons_append, List.nil_append] using hlast
  · have hsnoc := hstart.snoc
      { type := .partialText, text := utterance.text, timestampMs := utterance.timestampMs }
      fun _ => hstarted
    rw [heq]
    rw [List.append_assoc] at hsnoc
    refine ⟨hsnoc, ?_⟩
    rw [← List.append_assoc, SttSession.speechOpenAfter_snoc]
    exact hstarted

lemma commits_emitUtterance (r : Recognition) (utterance : SttUtterance) :
    (SttSession.commits (SttSession.pendingEvents (r.emitUtterance utterance).2 (some utterance)) =
      [] ∧ (r.emitUtterance utterance).1.committed = r.committed) ∨
    (SttSession.commits (SttSession.pendingEvents (r.emitUtterance utterance).2 (some utterance)) =
      [some utterance] ∧ utterance.identity ∉ r.committed ∧
      (r.emitUtterance utterance).1.committed = utterance.identity :: r.committed) := by
  have hstart : SttSession.commits (SttSession.pendingEvents
      (r.speechStart utterance.timestampMs) (some utterance)) = [] := by
    rw [speechStart]
    split <;> rfl
  have happend : ∀ more, SttSession.commits (SttSession.pendingEvents
      (r.speechStart utterance.timestampMs ++ more) (some utterance)) =
        SttSession.commits (SttSession.pendingEvents more (some utterance)) := by
    intro more
    rw [SttSession.pendingEvents, List.map_append, SttSession.commits_append]
    show SttSession.commits (SttSession.pendingEvents _ _) ++ _ = _
    rw [hstart]
    rfl
  rcases r.emitUtterance_cases utterance with heq | ⟨hnew, heq⟩ | heq
  · rw [heq]
    exact Or.inl ⟨rfl, rfl⟩
  · rw [heq]
    exact Or.inr ⟨happend _, hnew, rfl⟩
  · rw [heq]
    exact Or.inl ⟨happend _, rfl⟩

end Recognition

namespace SttSession

variable {s s' : SttSession} {codecs : SttCodecs}

/-- The events of the reader that are still to be pushed. -/
def pending (s : SttSession) : List PushedEvent :=
  match s.reader with
  | .handling events about _ _ _ => pendingEvents events about
  | _ => []

/-- The invariant of the events, including those still to be pushed. -/
structure Streaming (s : SttSession) : Prop where
  bracketed : Bracketed ((s.pushed ++ s.pending).map (·.event))
  isOpen : speechOpenAfter ((s.pushed ++ s.pending).map (·.event)) = s.recognition.speechOpen
  committedOnce : (commits (s.pushed ++ s.pending)).Nodup
  known : ∀ about ∈ commits (s.pushed ++ s.pending),
    ∃ utterance, about = some utterance ∧ utterance.identity ∈ s.recognition.committed

namespace Streaming

lemma of_same (h : s.Streaming) (hpushed : s'.pushed = s.pushed) (hpending : s'.pending = s.pending)
    (hrecognition : s'.recognition = s.recognition) : s'.Streaming := by
  obtain ⟨hbracketed, hopen, honce, hknown⟩ := h
  rw [← hpushed, ← hpending, ← hrecognition] at *
  exact ⟨hbracketed, hopen, honce, hknown⟩

lemma takeUtterance (h : s.Streaming) (hpending : s.pending = []) {utterance : SttUtterance}
    {rest : List SttUtterance} {last : Bool} : (s.takeUtterance utterance rest last).Streaming := by
  obtain ⟨hbracketed, hopen, honce, hknown⟩ := h
  rw [hpending, List.append_nil] at hbracketed hopen honce hknown
  obtain ⟨hbracketed', hopen'⟩ :=
    Recognition.bracketed_emitUtterance hbracketed hopen utterance.trimmed
  have hevents : ((s.takeUtterance utterance rest last).pushed ++
      (s.takeUtterance utterance rest last).pending).map (·.event) =
        s.pushed.map (·.event) ++ (s.recognition.emitUtterance utterance.trimmed).2 := by
    rw [List.map_append]
    exact congrArg _ (map_pendingEvents _ _)
  have hcommits : commits ((s.takeUtterance utterance rest last).pushed ++
      (s.takeUtterance utterance rest last).pending) = commits s.pushed ++
        commits (pendingEvents (s.recognition.emitUtterance utterance.trimmed).2
          (some utterance.trimmed)) :=
    commits_append _ _
  refine ⟨hevents ▸ hbracketed', hevents ▸ hopen', ?_, ?_⟩
  · rw [hcommits]
    rcases s.recognition.commits_emitUtterance utterance.trimmed with ⟨hnone, -⟩ | ⟨hone, hnew, -⟩
    · rw [hnone, List.append_nil]
      exact honce
    · -- An utterance that was committed before would be known.
      rw [hone]
      refine List.Nodup.append honce (List.nodup_singleton _) fun about hmem hself => ?_
      obtain ⟨other, rfl, hother⟩ := hknown about hmem
      rw [Option.some.inj (List.mem_singleton.mp hself)] at hother
      exact hnew hother
  · rw [hcommits]
    intro about hmem
    show ∃ other, about = some other ∧
      other.identity ∈ (s.recognition.emitUtterance utterance.trimmed).1.committed
    rcases s.recognition.commits_emitUtterance utterance.trimmed with
      ⟨hnone, hsame⟩ | ⟨hone, -, hsame⟩
    · rw [hnone, List.append_nil] at hmem
      rw [hsame]
      exact hknown about hmem
    · rw [hone] at hmem
      rw [hsame]
      rcases List.mem_append.mp hmem with hmem | hmem
      · obtain ⟨other, hother, hidentity⟩ := hknown about hmem
        exact ⟨other, hother, List.mem_cons_of_mem _ hidentity⟩
      · exact ⟨utterance.trimmed, List.mem_singleton.mp hmem, List.mem_cons_self⟩

lemma push (h : s.Streaming) {event : SttEvent} {events : List SttEvent}
    {about : Option SttUtterance} {rest : List SttUtterance} {last full : Bool}
    (hreader : s.reader = .handling (event :: events) about rest last full) :
    (s.push event events about rest last full).Streaming := by
  have hpending : s.pending = ⟨event, about, false⟩ :: pendingEvents events about := by
    rw [pending, hreader]
    rfl
  rw [SttSession.push]
  split
  · obtain ⟨hbracketed, hopen, honce, hknown⟩ := h
    -- Only what the history says about the channel is new.
    have hevents : ((s.pushed ++ [(⟨event, about, s.eventsClosed⟩ : PushedEvent)]) ++
        pendingEvents events about).map (·.event) = (s.pushed ++ s.pending).map (·.event) := by
      rw [hpending]
      simp only [List.map_append, List.map_cons, List.append_assoc, List.cons_append,
        List.nil_append]
    have hcommits : commits ((s.pushed ++ [⟨event, about, s.eventsClosed⟩]) ++
        pendingEvents events about) = commits (s.pushed ++ s.pending) := by
      rw [hpending, List.append_assoc, commits_append, commits_append s.pushed]
      congr 1
      by_cases hcommitted : event.type = .committed
      · simp [commits, hcommitted]
      · simp [commits, hcommitted]
    exact ⟨hevents ▸ hbracketed, hevents ▸ hopen, hcommits ▸ honce, hcommits ▸ hknown⟩
  · exact h.of_same rfl (by rw [hpending]; rfl) rfl

lemma fail (h : s.Streaming) (hpending : s.pending = []) {error : SttError} :
    (s.fail error).Streaming := by
  rw [SttSession.fail]
  split
  · exact h.of_same rfl hpending.symm rfl
  · obtain ⟨hbracketed, hopen, honce, hknown⟩ := h
    rw [hpending, List.append_nil] at hbracketed hopen honce hknown
    have hcommits : commits (s.pushed ++ pendingEvents
        [{ type := .error, error := some error }] none) = commits s.pushed := by
      rw [commits_append]
      exact List.append_nil _
    refine ⟨?_, ?_, hcommits ▸ honce, hcommits ▸ hknown⟩
    · show Bracketed ((s.pushed ++ pendingEvents _ _).map _)
      rw [List.map_append, map_pendingEvents]
      exact hbracketed.snoc _ fun htext => by rcases htext with htext | htext <;> cases htext
    · show speechOpenAfter ((s.pushed ++ pendingEvents _ _).map _) = _
      rw [List.map_append, map_pendingEvents, speechOpenAfter_snoc]
      exact hopen

end Streaming

/-! ## The channel -/

/-- The invariant of the channel. -/
structure Closing (s : SttSession) : Prop where
  returned : s.closeReturned = true → s.eventsClosed = true
  closedOnce : s.eventsCloses = if s.eventsClosed then 1 else 0
  punctual : ∀ entry ∈ s.pushed, entry.late = false
  -- What `finalOnce` was used for.
  once : s.finalOnce = true → s.eventsClosed = true ∨ s.finalClosed = true
  used : s.eventsClosed = true → s.finalOnce = true
  settled : s.eventsClosed = true → s.closed = true ∧ s.quiet = true
  marked : .once ∈ s.closes → s.closed = true

namespace Closing

section

variable (h : s.Closing)
include h

lemma close (hguard : s.avoidsRaces .close = true) : s.close.Closing := by
  rw [SttSession.close]
  split
  next hclosed =>
    rw [avoidsRaces, hclosed, Bool.not_true, Bool.false_or] at hguard
    exact { h with returned := fun _ => hguard }
  next =>
    refine { h with marked := fun hmem => h.marked ?_ }
    rcases List.mem_append.mp hmem with hmem | hmem
    · exact hmem
    · cases List.mem_singleton.mp hmem

lemma closes {index : ℕ} {stage : CloseStage} (hstage : stage ≠ .once) :
    ({ s with closes := s.closes.set index stage } : SttSession).Closing := by
  refine { h with marked := fun hmem => h.marked ?_ }
  exact (List.mem_or_eq_of_mem_set hmem).resolve_right (Ne.symm hstage)

lemma closeMark {index : ℕ} :
    ({ s with closed := true, closing := false, closes := s.closes.set index .once } :
      SttSession).Closing :=
  { h with
    settled := fun hevents => ⟨rfl, (h.settled hevents).2⟩
    marked := fun _ => rfl }

lemma closeOnce {index : ℕ} (hstage : s.closes[index]? = some .once)
    (hguard : s.avoidsRaces (.closeOnce index) = true) : (s.closeOnce index).Closing := by
  rw [avoidsRaces, Bool.and_eq_true, Bool.not_eq_true'] at hguard
  have hmarked : .once ∈ s.closes.eraseIdx index → s.closed = true := fun hmem =>
    h.marked (List.mem_of_mem_eraseIdx hmem)
  rw [SttSession.closeOnce]
  dsimp only
  split
  next hused =>
    have hclosed : s.eventsClosed = true := (h.once hused).resolve_right fun hfinal =>
      Bool.noConfusion (hguard.1.symm.trans hfinal)
    exact { h with returned := fun _ => hclosed, marked := hmarked }
  next hunused =>
    have hopen : s.eventsClosed = false :=
      Bool.eq_false_of_not_eq_true fun hclosed => hunused (h.used hclosed)
    exact
      { h with
        returned := fun _ => rfl
        closedOnce := by
          show s.eventsCloses + 1 = 1
          rw [h.closedOnce, hopen, if_neg Bool.false_ne_true]
        once := fun _ => Or.inl rfl
        used := fun _ => rfl
        settled := fun _ => ⟨h.marked (List.mem_of_getElem? hstage), hguard.2⟩
        marked := hmarked }

lemma receive {data : List UInt8} : (s.receive codecs data).Closing := by
  rw [SttSession.receive]
  split
  · exact h
  next hopen =>
    have hevents : s.eventsClosed ≠ true := fun hclosed => hopen (h.settled hclosed).1
    split
    · exact { h with settled := fun hclosed => absurd hclosed hevents }
    · split
      · exact { h with settled := fun hclosed => absurd hclosed hevents }
      · exact { h with settled := fun hclosed => absurd hclosed hevents }

lemma fail {error : SttError} : (s.fail error).Closing := by
  rw [SttSession.fail]
  split
  · exact { h with settled := fun hclosed => ⟨(h.settled hclosed).1, rfl⟩ }
  next hopen =>
    refine { h with settled := fun hclosed => absurd (h.settled hclosed).1 fun hyes => ?_ }
    rw [hyes, Bool.or_true] at hopen
    exact hopen rfl

variable {about : Option SttUtterance}

lemma takeUtterance {utterance : SttUtterance} {rest : List SttUtterance} {last full : Bool}
    (hreader : s.reader = .handling [] about (utterance :: rest) last full) :
    (s.takeUtterance utterance rest last).Closing := by
  refine { h with settled := fun hclosed => ⟨(h.settled hclosed).1, ?_⟩ }
  have hquiet := (h.settled hclosed).2
  simp only [quiet, hreader, List.isEmpty_nil, Bool.true_and, List.all_cons, Bool.and_eq_true,
    List.isEmpty_iff] at hquiet
  -- An utterance without events leaves what was recognized.
  have hsame := Recognition.emitUtterance_eq_self hquiet.1
  simp only [quiet, SttSession.takeUtterance, hsame, hquiet.1, List.isEmpty_nil, Bool.true_and]
  exact hquiet.2

lemma push {event : SttEvent} {events : List SttEvent} {rest : List SttUtterance} {last full : Bool}
    (hreader : s.reader = .handling (event :: events) about rest last full) :
    (s.push event events about rest last full).Closing := by
  have hopen : s.eventsClosed = false := Bool.eq_false_of_not_eq_true fun hclosed => by
    have hquiet := (h.settled hclosed).2
    simp [quiet, hreader] at hquiet
  have hnever : ∀ {p : Prop}, s.eventsClosed = true → p := fun hclosed =>
    Bool.noConfusion (hopen.symm.trans hclosed)
  rw [SttSession.push]
  split
  · refine { h with punctual := fun entry hmem => ?_, settled := fun hclosed => hnever hclosed }
    rcases List.mem_append.mp hmem with hmem | hmem
    · exact h.punctual entry hmem
    · rw [List.mem_singleton.mp hmem]
      exact hopen
  · exact { h with settled := fun hclosed => hnever hclosed }

lemma returns {last : Bool} : (s.returns last).Closing := by
  rw [SttSession.returns]
  split
  next hlast =>
    rw [Bool.and_eq_true, Bool.not_eq_true'] at hlast
    have hopen : s.eventsClosed ≠ true := fun hclosed =>
      Bool.noConfusion (hlast.2.symm.trans (h.used hclosed))
    exact
      { h with
        once := fun _ => Or.inr rfl
        used := fun _ => rfl
        settled := fun hclosed => absurd hclosed hopen }
  next => exact { h with settled := fun hclosed => ⟨(h.settled hclosed).1, rfl⟩ }

end

end Closing

/-! ## All steps -/

/-- The invariant of a session. -/
structure Invariant (s : SttSession) : Prop where
  numbering : s.Numbering
  streaming : s.Streaming
  channel : s.Closing

/-- A step that meets the condition keeps the invariant. -/
lemma Invariant.of_next (h : s.Invariant) {step : SttStep} (hguard : s.avoidsRaces step = true)
    (hnext : s.next? codecs step = some s') : s'.Invariant := by
  obtain ⟨hnumbering, hstreaming, hchannel⟩ := h
  cases step with
  | pushAudio frame =>
    obtain rfl := Option.some.inj hnext
    refine ⟨hnumbering.pushAudio hguard, ?_, ?_⟩
    · rw [pushAudio]
      split
      · exact hstreaming
      · exact hstreaming.of_same rfl rfl rfl
    · rw [pushAudio]
      split
      · exact hchannel
      · exact { hchannel with }
  | build index decoded =>
    rw [next?] at hnext
    split at hnext
    next number frame hstage =>
      obtain rfl := Option.some.inj hnext
      refine ⟨hnumbering.build hstage, ?_, ?_⟩
      · rw [build]
        split <;> exact hstreaming.of_same rfl rfl rfl
      · rw [build]
        split <;> exact { hchannel with }
    next => cases hnext
  | send index delivered =>
    rw [next?] at hnext
    split at hnext
    next number request hstage =>
      obtain rfl := Option.some.inj hnext
      exact ⟨hnumbering.send hstage hguard, hstreaming.of_same rfl rfl rfl, { hchannel with }⟩
    next => cases hnext
  | close =>
    obtain rfl := Option.some.inj hnext
    refine ⟨hnumbering.close, ?_, hchannel.close hguard⟩
    rw [close]
    split <;> exact hstreaming.of_same rfl rfl rfl
  | closeCheck index =>
    rw [next?] at hnext
    split at hnext
    next number hstage =>
      obtain rfl := Option.some.inj hnext
      have hnumber := hnumbering.callNumber number (Or.inl (List.mem_of_getElem? hstage))
      refine ⟨hnumbering.closes hstage fun other hother => ?_, hstreaming.of_same rfl rfl rfl,
        hchannel.closes ?_⟩
      · split at hother
        · rcases hother with hother | hother
          · cases hother
          · rw [← CloseStage.send.inj hother, hnumber]
        · rcases hother with hother | hother <;> cases hother
      · split <;> exact fun hsame => by cases hsame
    next => cases hnext
  | closeSend index delivered =>
    rw [next?] at hnext
    split at hnext
    next number hstage =>
      obtain rfl := Option.some.inj hnext
      exact ⟨hnumbering.closeSend hstage hguard, hstreaming.of_same rfl rfl rfl,
        { @Closing.closes s hchannel index .mark (fun hsame => by cases hsame) with }⟩
    next => cases hnext
  | closeMark index =>
    obtain ⟨hstage, rfl⟩ := Option.of_guarded hnext
    exact ⟨hnumbering.closeMark hstage, hstreaming.of_same rfl rfl rfl, hchannel.closeMark⟩
  | closeOnce index =>
    obtain ⟨hstage, rfl⟩ := Option.of_guarded hnext
    refine ⟨hnumbering.closeOnce, ?_, hchannel.closeOnce hstage hguard⟩
    rw [closeOnce]
    dsimp only
    split <;> exact hstreaming.of_same rfl rfl rfl
  | receive data =>
    obtain ⟨hidle, rfl⟩ := Option.of_guarded hnext
    have hpending : s.pending = [] := by rw [pending, hidle]
    refine ⟨?_, ?_, hchannel.receive⟩
    · rw [receive]
      split
      · exact hnumbering
      · split
        · exact { hnumbering with }
        · split <;> exact { hnumbering with }
    · rw [receive]
      split
      · exact hstreaming
      · split
        · exact hstreaming.of_same rfl hpending.symm rfl
        · split <;> exact hstreaming.of_same rfl hpending.symm rfl
  | fail =>
    rw [next?] at hnext
    split at hnext
    next error hreader =>
      obtain rfl := Option.some.inj hnext
      refine ⟨?_, hstreaming.fail (by rw [pending, hreader]), hchannel.fail⟩
      rw [fail]
      split <;> exact { hnumbering with }
    next => cases hnext
  | utterance =>
    rw [next?] at hnext
    split at hnext
    next about utterance rest last full hreader =>
      obtain rfl := Option.some.inj hnext
      exact ⟨{ hnumbering with }, hstreaming.takeUtterance (by rw [pending, hreader]; rfl),
        hchannel.takeUtterance hreader⟩
    next => cases hnext
  | push =>
    rw [next?] at hnext
    split at hnext
    next event events about rest last full hreader =>
      obtain rfl := Option.some.inj hnext
      refine ⟨?_, hstreaming.push hreader, hchannel.push hreader⟩
      rw [push]
      split <;> exact { hnumbering with }
    next => cases hnext
  | returns =>
    rw [next?] at hnext
    split at hnext
    next about last full hreader =>
      obtain rfl := Option.some.inj hnext
      have hpending : s.pending = [] := by rw [pending, hreader]; rfl
      refine ⟨?_, ?_, hchannel.returns⟩
      · rw [returns]
        split <;> exact { hnumbering with }
      · rw [returns]
        split <;> exact hstreaming.of_same rfl hpending.symm rfl
    next => cases hnext
  | consume =>
    rw [next?] at hnext
    split at hnext
    next => cases hnext
    next event events hevents =>
      obtain rfl := Option.some.inj hnext
      exact ⟨{ hnumbering with }, hstreaming.of_same rfl rfl rfl, { hchannel with }⟩

lemma Invariant.disciplined (h : s.Invariant) : s.Disciplined :=
  { closed := h.channel.returned
    closedOnce := h.channel.closedOnce
    punctual := h.channel.punctual
    committedOnce := by
      have honce := h.streaming.committedOnce
      rw [commits_append] at honce
      exact honce.sublist (List.sublist_append_left _ _)
    bracketed := by
      have hbracketed := h.streaming.bracketed
      rw [List.map_append] at hbracketed
      exact hbracketed.of_append
    numbered := h.numbering.numbered
    final := h.numbering.final }

end SttSession

/-- In every run that avoids the races of `Close` and leaves no gap in the numbers, the stream is
disciplined. -/
theorem disciplined_of_reachable {codecs : SttCodecs} {s : SttSession}
    (h : (sttSystem codecs).ReachableWhen (fun s step => s.avoidsRaces step = true) s) :
    s.Disciplined := by
  refine SttSession.Invariant.disciplined (h.invariant ?_ fun s step s' hs hguard hnext =>
    SttSession.Invariant.of_next hs hguard hnext)
  rintro s ⟨connected, rfl⟩
  refine ⟨?_, ?_, ?_⟩
  · exact
      { numbered := rfl
        next := le_rfl
        increasing := List.Pairwise.nil
        bounds := fun _ hmem => absurd hmem List.not_mem_nil
        covered := fun number hge hlt => absurd (hge.trans_lt hlt) (lt_irrefl _)
        calls := fun hne => absurd rfl hne
        callNumber := fun _ hmem => by rcases hmem with hmem | hmem <;> cases hmem
        finals := fun _ hmem => absurd hmem List.not_mem_nil
        ended := fun hne => absurd rfl hne }
  · exact
      { bracketed := fun before _ _ hsplit => by cases before <;> cases hsplit
        isOpen := rfl
        committedOnce := List.nodup_nil
        known := fun _ hmem => absurd hmem List.not_mem_nil }
  · exact
      { returned := fun hreturned => by cases hreturned
        closedOnce := rfl
        punctual := fun _ hmem => absurd hmem List.not_mem_nil
        once := fun hused => by cases hused
        used := fun hclosed => by cases hclosed
        settled := fun hclosed => by cases hclosed
        marked := fun hmem => by cases hmem }

/-! ### One session -/

/-- The codecs on the data of a short session: streams of two contents, and a document with a text
beside its result. -/
def shortSttCodecs : SttCodecs where
  gzip data :=
    if data = [] then some [31, 139, 8, 0, 0, 0, 0, 0, 0, 255, 3, 0, 0, 0, 0, 0, 0, 0, 0, 0]
    else if data = [1, 2] then
      some [31, 139, 8, 0, 0, 0, 0, 0, 0, 255, 99, 100, 2, 0, 146, 66, 204, 182, 2, 0, 0, 0]
    else none
  gunzip _ := none
  response document :=
    if document = [123, 34, 116, 101, 120, 116, 34, 58, 34, 104, 105, 34, 125] then
      some { text := "hi" }
    else none
  array _ := none
  wrapper _ := none
  utterance _ := none
  object _ := none

/-- Audio is sent, and a response with the document is handled. -/
def spokenSteps : List SttStep :=
  [.pushAudio ⟨"pcm_s16le", [1, 2]⟩, .build 0 none, .send 0 true,
    .receive ([0x11, 0x90, 0x10, 0, 0, 0, 0, 13] ++
      [123, 34, 116, 101, 120, 116, 34, 58, 34, 104, 105, 34, 125]),
    .utterance, .push, .push, .returns]

/-- `Close` sends the final frame, then some other steps are taken, and it returns. -/
def closingSteps (between : List SttStep) : List SttStep :=
  [.close, .closeCheck 0, .closeSend 0 true] ++ between ++ [.closeMark 0, .closeOnce 0]

/-- The last package is handled. -/
def lastPackageSteps : List SttStep :=
  [.receive [0x11, 0x92, 0, 0, 0, 0, 0, 0], .returns]

/-- A session that is closed without a last package is disciplined. -/
theorem disciplined_spoken :
    ∃ s, TransitionSystem.runWhen? (fun s => SttSession.next? s shortSttCodecs)
      SttSession.avoidsRaces {} (spokenSteps ++ closingSteps []) = some s ∧ s.Disciplined := by
  have hrun : (TransitionSystem.runWhen? (fun s => SttSession.next? s shortSttCodecs)
      SttSession.avoidsRaces {} (spokenSteps ++ closingSteps [])).isSome = true := by
    decide +kernel
  obtain ⟨s, hs⟩ := Option.isSome_iff_exists.mp hrun
  exact ⟨s, hs, @disciplined_of_reachable shortSttCodecs s
    (TransitionSystem.reachableWhen_of_runWhen (fun _ _ _ h => h) ⟨true, rfl⟩ hs)⟩

/-- When the last package answers the final frame, `Close` returns with the events open. -/
theorem not_disciplined_lastPackage :
    ¬∀ s, (sttSystem shortSttCodecs).Reachable s → s.Disciplined := by
  intro hheld
  have hrun : ((TransitionSystem.runWhen? (fun s => SttSession.next? s shortSttCodecs)
      (fun _ _ => true) {} (spokenSteps ++ closingSteps lastPackageSteps)).any fun s =>
        s.closeReturned && !s.eventsClosed) = true := by
    decide +kernel
  obtain ⟨s, hs, hopen⟩ := (Option.any_eq_true _ _).mp hrun
  have hreach : (sttSystem shortSttCodecs).Reachable s :=
    TransitionSystem.reachable_of_runWhen (fun _ _ _ h => h) ⟨true, rfl⟩ hs
  obtain ⟨hreturned, hevents⟩ := Bool.and_eq_true_iff.mp hopen
  rw [(hheld s hreach).closed hreturned] at hevents
  cases hevents

end Free4Chat
