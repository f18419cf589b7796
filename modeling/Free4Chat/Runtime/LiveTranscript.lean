import Free4Chat.Data.ListFilterMap
import Free4Chat.Runtime.Ledger
import Free4Chat.Transition.Reachable

/-!
# Live Transcript

What is said in a Room is turned into text by sessions of a speech provider, one for each track.
The sessions belong to a transcriber, and each transcriber has a generation. While the Runtime
produces the Live Transcript of the Room, the text goes to the Room under the epoch of the
production; otherwise it goes to the local Meeting Notes.

The epoch changes in one critical section of the Runtime, and the transcriber is replaced in later
ones. All of them run under the media lock, as does the recording of local notes, but the
publication of text does not take that lock.

* `TrackState`, `Transcriber`: tracks with their sessions, and what closes them.
* `SttHandler`: the goroutine that handles one committed text.
* `LiveRun`: the state of the Runtime, the transcribers and the goroutines.
* `LiveRun.isCurrentLiveProducer` and `LiveRun.liveProducerSnapshot?`: what a handler looks at.
* `LiveRun.next?`: one critical section. `liveSystem`: the transition system.
-/

namespace Free4Chat

/-! ## Transcribers -/

/-- The Live Transcript of a Room, as far as its producer knows. -/
structure LiveTranscriptInfo where
  active : Bool := false
  epoch : ℕ := 0
deriving DecidableEq

/-- A track, and its session of the speech provider. -/
structure TrackState where
  -- Which state this is, in place of its address.
  id : ℕ
  -- The generation of the transcriber.
  generation : ℕ
  stopped : Bool := false
  failed : Bool := false
  -- The epoch that was produced when the session was created.
  session : Option (Option ℕ) := none
deriving DecidableEq

instance : Keyed TrackState ℕ where
  key := TrackState.id

namespace TrackState

variable (state : TrackState)

/-- The track ended. -/
def stop : TrackState := { state with stopped := true }

/-- The session of the track failed. -/
def fail : TrackState := if state.stopped then state else { state with failed := true }

lemma key_stop : Keyed.key state.stop = Keyed.key state := rfl

lemma key_fail : Keyed.key state.fail = Keyed.key state := by
  unfold fail
  split <;> rfl

/-- The session of a track was created. -/
def connect (epoch : Option ℕ) (state : TrackState) : TrackState :=
  { state with session := some epoch }

lemma key_connect (epoch : Option ℕ) (state : TrackState) :
    Keyed.key (state.connect epoch) = Keyed.key state := rfl

end TrackState

/-- The tracks of one generation of sessions. -/
structure Transcriber where
  generation : ℕ
  closed : Bool := false
  -- The tracks, by participant and name.
  tracks : KeyedMap (String × ℕ) := .empty

namespace Transcriber

variable (t : Transcriber) (states : KeyedMap TrackState)

/-- A track ends: its session is closed, and what it still commits is dropped. -/
def endTrack (key : String) : Transcriber × KeyedMap TrackState :=
  match t.tracks.get? key with
  | none => (t, states)
  | some track =>
    ({ t with tracks := t.tracks.erase key },
      states.modify track.2 TrackState.stop TrackState.key_stop)

/-- Close a transcriber: the tracks are forgotten, and then each of them is ended. -/
def close : Transcriber × KeyedMap TrackState :=
  if t.closed then (t, states)
  else t.tracks.keys.foldl (fun closed key => closed.1.endTrack closed.2 key)
    ({ t with closed := true, tracks := .empty }, states)

lemma endTrack_forgotten (h : t.tracks = .empty) (key : String) :
    t.endTrack states key = (t, states) := by
  rw [endTrack, h, KeyedMap.get?_empty]

lemma close_states : (t.close states).2 = states := by
  unfold close
  split
  · rfl
  · have hfold : ∀ (keys : List String) (closed : Transcriber), closed.tracks = .empty →
        keys.foldl (fun closed key => closed.1.endTrack closed.2 key) (closed, states) =
          (closed, states) := by
      intro keys
      induction keys with
      | nil => exact fun _ _ => rfl
      | cons key keys ih =>
        intro closed hclosed
        rw [List.foldl_cons, endTrack_forgotten _ _ hclosed]
        exact ih closed hclosed
    rw [hfold _ _ rfl]

end Transcriber

/-! ## Handlers -/

/-- Where the goroutine for a committed text is. -/
inductive SttPhase where
  | committed
  -- It records the text locally, unless it finds that it produces the Live Transcript after all.
  | fallingBack
  -- It looks at the epoch before an attempt to publish.
  | publishing (attempt : ℕ)
  -- The text is on its way to the Room, as the Runtime of a generation published it.
  | appending (attempt epoch current : ℕ)
deriving DecidableEq

/-- The goroutine that handles one committed text. -/
structure SttHandler where
  generation : ℕ
  -- The epoch that was produced when the session was created.
  created : Option ℕ
  text : String
  phase : SttPhase := .committed
deriving DecidableEq

/-- What became of an attempt to append to the Live Transcript of the Room. -/
inductive AppendOutcome where
  | appended
  -- It was appended, and the answer of the Room was lost.
  | unconfirmed
  | transient
  | rejected
deriving DecidableEq

/-- A text that was appended to the Room. -/
structure PublishedText where
  text : String
  created : Option ℕ
  generation : ℕ
  epoch : ℕ
  -- The generation of the Runtime at the attempt.
  current : ℕ
deriving DecidableEq

/-- A text that was recorded in the local Meeting Notes. -/
structure RecordedText where
  text : String
  created : Option ℕ
  generation : ℕ
  -- The generation of the Runtime when it was recorded.
  current : ℕ
deriving DecidableEq

/-! ## Runs -/

/-- Who holds the media lock. -/
inductive MediaSection where
  | idle
  -- The producer changed, and the generation is next.
  | changed (sttEnabled : Bool)
  -- The generation changed, and the transcriber is replaced next.
  | replacing (sttEnabled : Bool)
deriving DecidableEq

/-- The number of attempts to publish a text. -/
def maxPublishAttempts : ℕ := 3

/-- The state of the Runtime as far as it concerns speech, the transcribers, and the goroutines. -/
structure LiveRun where
  stopped : Bool := false
  participantHandle : String := ""
  liveTranscript : LiveTranscriptInfo := {}
  liveTranscriptProducing : Bool := false
  sttGeneration : ℕ := 0
  mediaGeneration : ℕ := 0
  -- Whether there are local Meeting Notes.
  transcript : Bool := false
  transcriber : Option Transcriber := none
  mediaMu : MediaSection := .idle
  states : KeyedMap TrackState := .empty
  nextState : ℕ := 0
  handlers : List SttHandler := []
  published : List PublishedText := []
  recorded : List RecordedText := []

/-- One critical section. -/
inductive LiveStep where
  | setHandle (handle : String)
  | stop
  -- A controller of the media tells whether the Runtime is the producer.
  | setProducer (mediaGeneration : ℕ) (state : LiveTranscriptInfo) (producing sttEnabled : Bool)
  | restartMediaController (sttEnabled : Bool)
  -- The transcriber is replaced.
  | replaceTranscriber
  | releaseResources
  | acceptAudio (mediaGeneration : ℕ) (key : String)
  | endTrack (mediaGeneration : ℕ) (key : String)
  | failTrack (id : ℕ)
  | createSession (id : ℕ)
  -- A session commits a text.
  | commit (id : ℕ) (text : String)
  | goOn (index : ℕ) (outcome : AppendOutcome)

namespace LiveRun

variable (s : LiveRun)

/-- The epoch that is produced. -/
def producedEpoch : Option ℕ :=
  if s.liveTranscriptProducing then some s.liveTranscript.epoch else none

/-- Whether the sessions of a generation produce the Live Transcript. -/
def isCurrentLiveProducer (generation : ℕ) : Bool :=
  !s.stopped && s.liveTranscriptProducing && s.liveTranscript.active &&
    0 < s.liveTranscript.epoch && s.sttGeneration = generation && s.participantHandle ≠ ""

/-- The epoch under which the text of a generation is published. -/
def liveProducerSnapshot? (generation : ℕ) : Option ℕ :=
  if s.isCurrentLiveProducer generation then some s.liveTranscript.epoch else none

/-! ### The media lock -/

/-- Whether the Runtime starts or stops to produce, or produces another epoch. -/
def changesProducer (state : LiveTranscriptInfo) (producing : Bool) : Bool :=
  producing ≠ s.liveTranscriptProducing ||
    producing && (!s.liveTranscript.active || s.liveTranscript.epoch ≠ state.epoch)

/-- The Runtime is told whether it is the producer. -/
def setLiveTranscriptProducer (state : LiveTranscriptInfo) (producing sttEnabled : Bool) :
    LiveRun :=
  if s.changesProducer state producing then
    { s with
      liveTranscript := if producing then state else {}
      liveTranscriptProducing := producing
      mediaMu := .changed sttEnabled }
  else s

/-- The controller of the media is built anew. -/
def restartMediaController (sttEnabled : Bool) : LiveRun :=
  if s.stopped || s.participantHandle = "" then s
  else { s with
    mediaGeneration := s.mediaGeneration + 1
    liveTranscript := {}
    liveTranscriptProducing := false
    mediaMu := .changed sttEnabled }

/-- Close the transcriber, if there is one. -/
def closeTranscriber : LiveRun :=
  { s with
    states := ((s.transcriber.map fun t => (t.close s.states).2).getD s.states)
    transcriber := none }

/-- The next section in which the transcriber is replaced. -/
def replaceTranscriber? : Option LiveRun :=
  match s.mediaMu with
  | .idle => none
  | .changed sttEnabled =>
    some { s with sttGeneration := s.sttGeneration + 1, mediaMu := .replacing sttEnabled }
  | .replacing sttEnabled =>
    some { s.closeTranscriber with
      transcriber := if sttEnabled then some { generation := s.sttGeneration } else none
      mediaMu := .idle }

/-- Everything that concerns media is given up. -/
def releaseResources : LiveRun :=
  { s.closeTranscriber with
    mediaGeneration := s.mediaGeneration + 1
    liveTranscript := {}
    liveTranscriptProducing := false
    transcript := false }

/-! ### Tracks -/

/-- A frame of audio of a track, which is new or not. -/
def acceptAudio (key : String) : LiveRun :=
  match s.transcriber with
  | none => s
  | some t =>
    if t.closed || t.tracks.contains key then s
    else { s with
      transcriber := some { t with tracks := t.tracks.set (key, s.nextState) }
      states := s.states.set { id := s.nextState, generation := t.generation }
      nextState := s.nextState + 1 }

/-- A track ends. -/
def endTrack (key : String) : LiveRun :=
  match s.transcriber with
  | none => s
  | some t =>
    { s with
      transcriber := some (t.endTrack s.states key).1
      states := (t.endTrack s.states key).2 }

/-- The session of a track fails. -/
def failTrack (id : ℕ) : LiveRun :=
  { s with states := s.states.modify id TrackState.fail TrackState.key_fail }

/-- The session of a track that did not end is created. -/
def createSession? (id : ℕ) : Option LiveRun :=
  match s.states.get? id with
  | none => none
  | some state =>
    if state.stopped || state.failed || state.session.isSome then none
    else some { s with
      states := s.states.modify id (TrackState.connect s.producedEpoch)
        (TrackState.key_connect s.producedEpoch) }

/-- A session of a track that did not end commits a text. -/
def commit? (id : ℕ) (text : String) : Option LiveRun :=
  match s.states.get? id with
  | none => none
  | some state =>
    match state.session with
    | none => none
    | some created =>
      if state.stopped then none
      else if trimSpace text = "" then some s
      else some { s with
        handlers := s.handlers ++
          [{ generation := state.generation, created, text := trimSpace text }] }

/-! ### Handlers -/

/-- A text is recorded in the local Meeting Notes, unless it belongs to the Live Transcript. -/
def record (handler : SttHandler) : LiveRun :=
  if s.transcript && !s.isCurrentLiveProducer handler.generation then
    { s with
      recorded := s.recorded ++
        [{ text := handler.text
           created := handler.created
           generation := handler.generation
           current := s.sttGeneration }] }
  else s

/-- A text arrives at the Room under an epoch. -/
def publish (handler : SttHandler) (epoch current : ℕ) : LiveRun :=
  { s with
    published := s.published ++
      [{ text := handler.text
         created := handler.created
         generation := handler.generation
         epoch, current }] }

/-- What is changed in the section of a handler, and where the handler is afterwards. -/
def handle (handler : SttHandler) (outcome : AppendOutcome) : LiveRun × Option SttPhase :=
  match handler.phase with
  | .committed =>
    (s, some (if s.isCurrentLiveProducer handler.generation then .publishing 0 else .fallingBack))
  | .fallingBack => (s.record handler, none)
  | .publishing attempt =>
    (s, (s.liveProducerSnapshot? handler.generation).map fun epoch =>
      .appending attempt epoch s.sttGeneration)
  | .appending attempt epoch current =>
    match outcome with
    | .appended => (s.publish handler epoch current, none)
    | .unconfirmed =>
      (s.publish handler epoch current,
        if attempt + 1 < maxPublishAttempts then some (.publishing (attempt + 1)) else none)
    | .transient =>
      (s, if attempt + 1 < maxPublishAttempts then some (.publishing (attempt + 1)) else none)
    | .rejected => (s, none)

/-- A handler goes on. The local Meeting Notes are recorded under the media lock. -/
def goOn? (index : ℕ) (outcome : AppendOutcome) : Option LiveRun :=
  match s.handlers[index]? with
  | none => none
  | some handler =>
    if handler.phase = .fallingBack ∧ s.mediaMu ≠ .idle then none
    else some { (s.handle handler outcome).1 with
      handlers := s.handlers.updateIdx index
        ((s.handle handler outcome).2.map fun phase => { handler with phase }) }

/-! ### Steps -/

/-- A section that takes the media lock, and what it does if it is still asked for. -/
def locked? (current : Bool) (after : LiveRun) : Option LiveRun :=
  if s.mediaMu = .idle then some (if current then after else s) else none

/-- One critical section. -/
def next? : LiveStep → Option LiveRun
  | .setHandle handle => some { s with participantHandle := handle }
  | .stop => some { s with stopped := true }
  | .setProducer mediaGeneration state producing sttEnabled =>
    s.locked? (s.mediaGeneration = mediaGeneration)
      (s.setLiveTranscriptProducer state producing sttEnabled)
  | .restartMediaController sttEnabled => s.locked? true (s.restartMediaController sttEnabled)
  | .replaceTranscriber => s.replaceTranscriber?
  | .releaseResources => if s.stopped then s.locked? true s.releaseResources else none
  | .acceptAudio mediaGeneration key =>
    s.locked? (s.mediaGeneration = mediaGeneration) (s.acceptAudio key)
  | .endTrack mediaGeneration key =>
    s.locked? (s.mediaGeneration = mediaGeneration) (s.endTrack key)
  | .failTrack id => some (s.failTrack id)
  | .createSession id => s.createSession? id
  | .commit id text => s.commit? id text
  | .goOn index outcome => s.goOn? index outcome

end LiveRun

/-- Runs of the Runtime as far as they concern speech. There are local Meeting Notes, unless their
file could not be created. -/
def liveSystem : TransitionSystem LiveRun LiveStep where
  init s := ∃ transcript, s = { transcript }
  step s label s' := s.next? label = some s'

end Free4Chat
