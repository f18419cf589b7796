import Free4Chat.Data.KeyedMap
import Free4Chat.Data.ListFilterMap
import Free4Chat.Transition.Reachable

/-!
# Media Bridge

The media bridge subscribes to the audio of the Humans in a Room. Discovery finds their tracks, and
each of them is reserved before its subscription is negotiated. The negotiation returns the MID of
the track, and the track itself arrives later, or never if its Human is silent. It is bound to a
pending subscription by its MID, and the frames of audio are attributed by the MID that is bound.

Only one negotiation goes on at a time. Discovery, negotiations, tracks and frames run in goroutines
of their own, and the subscriptions may be forgotten at any time.

* `AudioTrack`: what discovery finds.
* `PendingTrack` and `Subscription`: the tables of the bridge.
* `SubscribeCall`: a goroutine that negotiates a subscription.
* `BridgeRun`: the bridge, the goroutines, and what happened so far.
* `BridgeRun.handleIncomingTrack` and `BridgeRun.handleAudioFrame`: how audio is attributed.
* `BridgeRun.next?`: one critical section. `bridgeSystem`: the transition system.
-/

namespace Free4Chat

/-! ## Tables -/

/-- Whose audio it is. -/
structure AudioSource where
  participantID : String
  participantName : String
  trackName : String
deriving DecidableEq

/-- A track of audio, as discovery finds it. -/
structure AudioTrack where
  participantID : String
  participantName : String
  sessionID : String
  trackName : String
deriving DecidableEq

namespace AudioTrack

variable (track : AudioTrack)

/-- Whose audio a track has. -/
def source : AudioSource where
  participantID := track.participantID
  participantName := track.participantName
  trackName := track.trackName

/-- The key of a track in the tables. -/
def subscriptionKey : String :=
  track.participantID ++ ":" ++ track.sessionID ++ ":" ++ track.trackName

end AudioTrack

/-- A subscription whose track has not arrived. -/
structure PendingTrack where
  track : AudioTrack
  -- Which call of `subscribe` it belongs to.
  call : ℕ
  expectedMid : Option String := none
deriving DecidableEq

instance : Keyed PendingTrack String where
  key pending := pending.track.subscriptionKey

/-- The negotiation returned a MID, unless it returned none. -/
def PendingTrack.expect (mid : String) (pending : PendingTrack) : PendingTrack :=
  { pending with expectedMid := if mid = "" then none else some mid }

lemma PendingTrack.key_expect (mid : String) (pending : PendingTrack) :
    Keyed.key (pending.expect mid) = Keyed.key pending := rfl

/-- A subscription, with the MID of its track once that has arrived. -/
structure Subscription where
  track : AudioTrack
  -- Which call of `subscribe` it belongs to.
  call : ℕ
  mid : String := ""
deriving DecidableEq

instance : Keyed Subscription String where
  key sub := sub.track.subscriptionKey

@[simp]
lemma Subscription.key_eq (sub : Subscription) : Keyed.key sub = sub.track.subscriptionKey := rfl

/-- The track of a subscription has arrived. -/
def Subscription.bind (mid : String) (sub : Subscription) : Subscription := { sub with mid }

lemma Subscription.key_bind (mid : String) (sub : Subscription) :
    Keyed.key (sub.bind mid) = Keyed.key sub := rfl

/-! ## Goroutines -/

/-- Where a call of `subscribe` is. -/
inductive SubscribePhase where
  -- It waits for its turn to negotiate.
  | reserved
  | requesting
  | answered (mid : String)
  | applying
deriving DecidableEq

/-- Whether it is the turn of a call. -/
def SubscribePhase.negotiates : SubscribePhase → Bool
  | .reserved => false
  | _ => true

/-- A call of `subscribe` that has reserved its track. -/
structure SubscribeCall where
  id : ℕ
  track : AudioTrack
  phase : SubscribePhase := .reserved
deriving DecidableEq

/-- What becomes of a request to the SFU, or of its description. -/
inductive NegotiationOutcome where
  | failed
  | accepted (mid : String)
deriving DecidableEq

/-! ## Runs -/

/-- A MID that was returned to a call. -/
structure NegotiatedMid where
  call : ℕ
  track : AudioTrack
  mid : String
deriving DecidableEq

/-- A track that was bound to the subscription of a call, and announced. -/
structure BoundTrack where
  mid : String
  call : ℕ
  source : AudioSource
deriving DecidableEq

/-- The bridge, the goroutines, and what happened so far. -/
structure BridgeRun where
  stopped : Bool := false
  subs : KeyedMap Subscription := .empty
  pending : KeyedMap PendingTrack := .empty
  calls : List SubscribeCall := []
  -- The tracks that were reserved, by call.
  reserved : List AudioTrack := []
  negotiated : List NegotiatedMid := []
  bound : List BoundTrack := []
  -- The frames of audio that were delivered, by MID.
  delivered : List (String × AudioSource) := []
deriving DecidableEq

/-- One critical section. The iteration over a table picks one of the entries that match. -/
inductive BridgeStep where
  -- The tracks that an answer of discovery lists, which need not be a recent one.
  | reconcileEnded (live : List AudioTrack)
  | subscribe (track : AudioTrack)
  | negotiate (index : ℕ) (outcome : NegotiationOutcome)
  | incomingTrack (mid : String) (pick : Option String)
  | audioFrame (mid : String) (pick : Option String)
  | clearRemoteSubscriptions
  | stop
deriving DecidableEq

namespace BridgeRun

variable (b : BridgeRun)

/-- The subscriptions of tracks that are gone are forgotten. -/
def reconcileEnded (live : List AudioTrack) : BridgeRun :=
  { b with
    subs := b.subs.filter fun sub =>
      sub.track.subscriptionKey ∈ live.map AudioTrack.subscriptionKey }

/-- A track is reserved that is not subscribed to. -/
def subscribe (track : AudioTrack) : BridgeRun :=
  if b.subs.contains track.subscriptionKey then b
  else { b with
    subs := b.subs.set { track, call := b.reserved.length }
    calls := b.calls ++ [{ id := b.reserved.length, track }]
    reserved := b.reserved ++ [track] }

/-- The reservation of a track is dropped. -/
def dropReservation (track : AudioTrack) : BridgeRun :=
  { b with
    pending := b.pending.erase track.subscriptionKey
    subs := b.subs.erase track.subscriptionKey }

/-- Whether a negotiation goes on. -/
def negotiating : Bool := b.calls.any fun call => call.phase.negotiates

/-- What is changed in the next section of a call, and where the call is afterwards. The SFU returns
each MID once. -/
def negotiate (call : SubscribeCall) (outcome : NegotiationOutcome) :
    Option (BridgeRun × Option SubscribePhase) :=
  match call.phase with
  | .reserved =>
    if b.negotiating then none
    else if b.stopped then some (b, none)
    else some ({ b with pending := b.pending.set { track := call.track, call := call.id } },
      some .requesting)
  | .requesting =>
    match outcome with
    | .failed => some (b.dropReservation call.track, none)
    | .accepted mid =>
      if mid ≠ "" ∧ mid ∈ b.negotiated.map NegotiatedMid.mid then none
      else some ({ b with
        negotiated := b.negotiated ++ [{ call := call.id, track := call.track, mid }] },
        some (.answered mid))
  | .answered mid =>
    some ({ b with
      pending := b.pending.modify call.track.subscriptionKey (PendingTrack.expect mid)
        (PendingTrack.key_expect mid) }, some .applying)
  | .applying =>
    match outcome with
    | .failed => some (b.dropReservation call.track, none)
    | .accepted _ => some (b, none)

/-- A call goes on. -/
def negotiate? (index : ℕ) (outcome : NegotiationOutcome) : Option BridgeRun :=
  match b.calls[index]? with
  | none => none
  | some call =>
    (b.negotiate call outcome).map fun after =>
      { after.1 with
        calls := b.calls.updateIdx index (after.2.map fun phase => { call with phase }) }

/-- Whether a track with a MID may belong to a pending one. -/
def accepts (mid : String) (pending : PendingTrack) : Bool := pending.expectedMid.all (· = mid)

/-- A track is bound to a pending one, and to the subscription with the same key. -/
def bindTrack (mid : String) (pending : PendingTrack) : BridgeRun :=
  let rest := { b with pending := b.pending.erase pending.track.subscriptionKey }
  match b.subs.get? pending.track.subscriptionKey with
  | none => rest
  | some sub =>
    { rest with
      subs := b.subs.modify pending.track.subscriptionKey (Subscription.bind mid)
        (Subscription.key_bind mid)
      bound := b.bound ++ [{ mid, call := sub.call, source := pending.track.source }] }

/-- A track arrives, and is bound to a pending one that may be its own, or ignored. -/
def handleIncomingTrack (mid : String) : Option String → Option BridgeRun
  | none => if b.pending.values.any (accepts mid) then none else some b
  | some key =>
    match b.pending.get? key with
    | none => none
    | some pending => if accepts mid pending then some (b.bindTrack mid pending) else none

/-- A frame of audio arrives, and is delivered for a subscription with its MID, or dropped. -/
def handleAudioFrame (mid : String) : Option String → Option BridgeRun
  | none => if b.subs.values.any (fun sub => sub.mid = mid) then none else some b
  | some key =>
    match b.subs.get? key with
    | none => none
    | some sub =>
      if sub.mid = mid then some { b with delivered := b.delivered ++ [(mid, sub.track.source)] }
      else none

/-- The subscriptions are forgotten. -/
def clearRemoteSubscriptions : BridgeRun := { b with subs := .empty, pending := .empty }

/-- The bridge is stopped. -/
def stop : BridgeRun := { b with stopped := true, subs := .empty, pending := .empty }

/-- One critical section. -/
def next? : BridgeStep → Option BridgeRun
  | .reconcileEnded live => some (b.reconcileEnded live)
  | .subscribe track => some (b.subscribe track)
  | .negotiate index outcome => b.negotiate? index outcome
  | .incomingTrack mid pick => b.handleIncomingTrack mid pick
  | .audioFrame mid pick => b.handleAudioFrame mid pick
  | .clearRemoteSubscriptions => some b.clearRemoteSubscriptions
  | .stop => some b.stop

end BridgeRun

/-- Runs of a bridge whose session is established. -/
def bridgeSystem : TransitionSystem BridgeRun BridgeStep where
  init b := b = {}
  step b label b' := b.next? label = some b'

end Free4Chat
