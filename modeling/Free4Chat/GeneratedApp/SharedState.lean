import Free4Chat.GeneratedApp.Publication
import Mathlib.Data.List.Chain

/-!
# The Shared State of an App

Shared-state updates are compare-and-set operations on the revision of an App. The accepted
updates of one App form a chain, the App serves the last of them, and a new bundle changes neither
the state nor its revision. An update whose save throws is undone by a second write. When that
write throws too, the App serves the new state under the old revision.

* `SharedStateConsistent`: the property of a reached state.
* `LosesState`: an update that breaks it.
* `sharedStateConsistent_of_restored`: it holds in every run without such an update.
-/

namespace Free4Chat

open GeneratedAppStorage

/-! ## The property -/

/-- The accepted updates of one App, oldest first. -/
def GeneratedAppStorage.updatesOf (storage : GeneratedAppStorage) (appInstanceId : String) :
    List AcceptedStateUpdate :=
  storage.acceptedUpdates.filter (·.appInstanceId = appInstanceId)

/-- The revision that the last of some updates left. -/
def lastRevision (updates : List AcceptedStateUpdate) : ℕ :=
  (updates.getLast?.map (·.revision)).getD 0

/-- Updates that form a chain from revision 0 on: each is based on the revision that the one before
it left, and leaves the next one. -/
structure StateChain (updates : List AcceptedStateUpdate) : Prop where
  first : ∀ update, updates.head? = some update → update.expectedRevision = 0
  follows : updates.IsChain fun earlier later => later.expectedRevision = earlier.revision
  increments : ∀ update ∈ updates, update.revision = update.expectedRevision + 1

/-- A listed App serves the revision and the state that its last accepted update left. -/
structure Serves (storage : GeneratedAppStorage) (publication : GeneratedRoomAppPublication) :
    Prop where
  revision : publication.stateRevision =
    lastRevision (storage.updatesOf publication.appInstanceId)
  state : ∀ last, (storage.updatesOf publication.appInstanceId).getLast? = some last →
    storage.state publication.appInstanceId = some last.state

/-- The served Apps, their revisions and their states are as they were, unless the Room expired. -/
def StatesKept (before after : GeneratedAppStorage) : Prop :=
  after.room = none ∨ (after.publications = before.publications ∧
    ∀ publication ∈ before.publications.values,
      after.state publication.appInstanceId = before.state publication.appInstanceId)

/-- Apps that are listed before and after have the same state and the same revision of it. -/
def StatesUntouched (before after : GeneratedAppStorage) : Prop :=
  ∀ old ∈ before.publications.values, ∀ new ∈ after.publications.values,
    new.appInstanceId = old.appInstanceId →
      new.stateRevision = old.stateRevision ∧
        after.state new.appInstanceId = before.state old.appInstanceId

/-- The Apps of a Room in a run. -/
structure GeneratedAppRun where
  storage : GeneratedAppStorage := {}
  -- Specification fields: the storage before and after each update that was not accepted, and
  -- before and after each publication of a bundle.
  rejected : List (GeneratedAppStorage × GeneratedAppStorage) := []
  bundleUpdates : List (GeneratedAppStorage × GeneratedAppStorage) := []

/-- The accepted updates of each App form a chain, whose end the App serves. An update that is not
accepted changes nothing, and a new bundle leaves state and revision as they are. -/
structure SharedStateConsistent (s : GeneratedAppRun) : Prop where
  chain : ∀ appInstanceId, StateChain (s.storage.updatesOf appInstanceId)
  serves : ∀ publication ∈ s.storage.publications.values, Serves s.storage publication
  rejected : ∀ update ∈ s.rejected, StatesKept update.1 update.2
  bundleUpdates : ∀ update ∈ s.bundleUpdates, StatesUntouched update.1 update.2

/-! ## Runs -/

/-- The operations on the Apps of a Room. -/
inductive GeneratedAppOp where
  | createRoom (room : RoomRecord)
  | publish (request : GeneratedAppRequest) (appInstanceId : String)
  | updateState (participantId token : String) (message : GeneratedAppStateMessage)
  -- Any other operation on the record. It saves the Apps that it has just loaded.
  | other (change : RoomRecord → RoomRecord)

/-- An operation in its environment, with the storage operations that throw. -/
structure GeneratedAppCall where
  env : RoomEnv
  op : GeneratedAppOp
  fails : GeneratedAppIO → Bool

/-- Saves the record of a new Room, which has no Apps, unless there is a Room. -/
def createRoom (env : RoomEnv) (room : RoomRecord) : GeneratedAppProgram Unit := do
  match ← loadGeneratedApps env with
  | none => saveGeneratedApps env room .empty
  | some _ => pure ()

/-- An operation that changes the record and saves it with the Apps that it loaded. -/
def saveOther (env : RoomEnv) (change : RoomRecord → RoomRecord) : GeneratedAppProgram Unit := do
  match ← loadGeneratedApps env with
  | none => pure ()
  | some (room, apps) => saveGeneratedApps env (change room) apps

/-- The storage after an operation. -/
def GeneratedAppCall.after (codec : JsonCodec) (call : GeneratedAppCall)
    (storage : GeneratedAppStorage) : GeneratedAppStorage :=
  match call.op with
  | .createRoom room => (createRoom call.env room call.fails storage).state
  | .publish request appInstanceId =>
    (publishGeneratedApp call.env codec request appInstanceId call.fails storage).state
  | .updateState participantId token message =>
    (updateGeneratedAppState call.env codec participantId token message call.fails storage).state
  | .other change => (saveOther call.env change call.fails storage).state

/-- The run after an operation. -/
def GeneratedAppRun.step (codec : JsonCodec) (s : GeneratedAppRun) (call : GeneratedAppCall) :
    GeneratedAppRun :=
  let after := call.after codec s.storage
  match call.op with
  | .publish .. =>
    { s with storage := after, bundleUpdates := s.bundleUpdates ++ [(s.storage, after)] }
  | .updateState .. =>
    { s with
      storage := after
      rejected :=
        if after.acceptedUpdates.length = s.storage.acceptedUpdates.length then
          s.rejected ++ [(s.storage, after)]
        else s.rejected }
  | _ => { s with storage := after }

/-- When an operation may run: the id of a new App is a fresh one. -/
def GeneratedAppRun.Enabled (s : GeneratedAppRun) : GeneratedAppOp → Prop
  | .publish _ appInstanceId =>
    s.storage.publications.get? appInstanceId = none ∧ s.storage.updatesOf appInstanceId = []
  | _ => True

/-- What may happen to the Apps of a Room. -/
inductive GeneratedAppEvent where
  | run (call : GeneratedAppCall)
  -- The instance is evicted from memory.
  | restart

/-- The runs of the Apps of a Room. -/
def generatedAppSystem (codec : JsonCodec) :
    TransitionSystem GeneratedAppRun GeneratedAppEvent where
  init s := s = {}
  step s event s' :=
    match event with
    | .run call => s.Enabled call.op ∧ s' = s.step codec call
    | .restart => s' = { s with storage := { s.storage with windows := .empty } }

/-! ## The condition -/

/-- A message that makes the handler write the next state of a listed App. -/
structure ReachesStateWrite (env : RoomEnv) (codec : JsonCodec) (storage : GeneratedAppStorage)
    (participantId token : String) (message : GeneratedAppStateMessage)
    (fails : GeneratedAppIO → Bool) (room : RoomRecord) (human : RoomParticipant)
    (publication : GeneratedRoomAppPublication) : Prop where
  loads : Loads env storage fails room
  sender : room.findHumanClient participantId token = .ok human
  listed : storage.publications.get? message.appInstanceId = some publication
  current : ∃ nextState updateBytes currentState,
    message.validState codec = some (nextState, updateBytes) ∧
      storage.state message.appInstanceId = some currentState ∧
        (generatedAppStateBudgetExceeded storage.windows human.id message.appInstanceId
          updateBytes env.now).1 = false
  expected : message.expectedRevision.asSafeInteger? = some (publication.stateRevision : ℤ)
  reads : fails .readState = false

/-- An update that is not undone: the next state is written, the save throws, and so does the write
that restores the old state. -/
structure LosesState (env : RoomEnv) (codec : JsonCodec) (storage : GeneratedAppStorage)
    (participantId token : String) (message : GeneratedAppStateMessage)
    (fails : GeneratedAppIO → Bool) (room : RoomRecord) (human : RoomParticipant)
    (publication : GeneratedRoomAppPublication) : Prop where
  reaches : ReachesStateWrite env codec storage participantId token message fails room human
    publication
  written : fails .putState = false
  unsaved : SaveThrows env fails (room.touch env human.id)
  unrestored : fails .restoreState = true

/-- The condition on an event: a state update whose save throws is undone. -/
def Restores (codec : JsonCodec) (s : GeneratedAppRun) : GeneratedAppEvent → Prop
  | .run { env, op := .updateState participantId token message, fails } =>
    ∀ room human publication,
      ¬LosesState env codec s.storage participantId token message fails room human publication
  | _ => True

/-! ## Chains of updates -/

section Chains

variable {updates : List AcceptedStateUpdate} {update : AcceptedStateUpdate}

@[simp]
lemma lastRevision_concat (updates : List AcceptedStateUpdate) (update : AcceptedStateUpdate) :
    lastRevision (updates ++ [update]) = update.revision := by
  rw [lastRevision, List.getLast?_concat, Option.map_some, Option.getD_some]

lemma stateChain_nil : StateChain [] :=
  ⟨(fun _ h => by cases h), .nil, fun _ h => absurd h List.not_mem_nil⟩

lemma StateChain.concat (h : StateChain updates)
    (hexpected : update.expectedRevision = lastRevision updates)
    (hrevision : update.revision = update.expectedRevision + 1) :
    StateChain (updates ++ [update]) := by
  refine ⟨fun first hfirst => ?_, ?_, fun other hmem => ?_⟩
  · cases updates with
    | nil =>
      obtain rfl := Option.some.inj hfirst
      exact hexpected
    | cons => exact h.first first hfirst
  · refine List.isChain_append.mpr ⟨h.follows, .singleton _, fun last hlast later hlater => ?_⟩
    obtain rfl := Option.some.inj hlater
    rw [hexpected, lastRevision, hlast, Option.map_some, Option.getD_some]
  · rcases List.mem_append.mp hmem with hmem | hmem
    · exact h.increments other hmem
    · rw [List.mem_singleton.mp hmem]
      exact hrevision

end Chains

/-! ## What is served -/

section Served

variable {before after : GeneratedAppStorage} {publication : GeneratedRoomAppPublication}

/-- The accepted updates of the listed Apps are served. -/
structure ServesAll (storage : GeneratedAppStorage) : Prop where
  chain : ∀ appInstanceId, StateChain (storage.updatesOf appInstanceId)
  serves : ∀ publication ∈ storage.publications.values, Serves storage publication

lemma updatesOf_congr (h : after.acceptedUpdates = before.acceptedUpdates)
    (appInstanceId : String) : after.updatesOf appInstanceId = before.updatesOf appInstanceId := by
  rw [updatesOf, h, updatesOf]

lemma Serves.congr {old : GeneratedRoomAppPublication} (h : Serves before old)
    (hupdates : after.updatesOf publication.appInstanceId = before.updatesOf old.appInstanceId)
    (hrevision : publication.stateRevision = old.stateRevision)
    (hstate : after.state publication.appInstanceId = before.state old.appInstanceId) :
    Serves after publication := by
  refine ⟨?_, fun last hlast => ?_⟩
  · rw [hrevision, hupdates]
    exact h.revision
  · rw [hupdates] at hlast
    rw [hstate]
    exact h.state last hlast

/-- No update was accepted, and the states are kept. -/
structure Unchanged (before after : GeneratedAppStorage) : Prop where
  kept : StatesKept before after
  acceptedUpdates : after.acceptedUpdates = before.acceptedUpdates

lemma GeneratedAppStorage.Kept.unchanged (h : Kept before after)
    (hupdates : after.acceptedUpdates = before.acceptedUpdates) : Unchanged before after :=
  ⟨Or.inr ⟨h.listed, fun _ _ => (h.apps _).state⟩, hupdates⟩

lemma GeneratedAppStorage.Reloaded.unchanged (h : Reloaded before after) :
    Unchanged before after := by
  refine ⟨?_, h.acceptedUpdates⟩
  rcases h.kept with hnone | hkept
  · exact Or.inl hnone
  · exact (hkept.unchanged h.acceptedUpdates).kept

lemma Unchanged.servesAll (h : Unchanged before after) (hserves : ServesAll before) :
    ServesAll after := by
  refine ⟨fun id => updatesOf_congr h.acceptedUpdates id ▸ hserves.chain id, ?_⟩
  intro publication hmem
  rcases h.kept with hnone | ⟨hlisted, hstates⟩
  · -- The Room has expired, and lists no App.
    rw [publications, hnone] at hmem
    exact absurd hmem List.not_mem_nil
  · rw [hlisted] at hmem
    exact (hserves.serves publication hmem).congr (updatesOf_congr h.acceptedUpdates _) rfl
      (hstates publication hmem)

/-- An update of a listed App was accepted: it is based on the revision of the App, which now has
the next revision and the new state. -/
structure Accepted (publication : GeneratedRoomAppPublication) (nextState : JsValue) (now : ℕ)
    (before after : GeneratedAppStorage) : Prop where
  was : publication ∈ before.publications.values
  acceptedUpdates : after.acceptedUpdates = before.acceptedUpdates ++ [{
    appInstanceId := publication.appInstanceId
    expectedRevision := publication.stateRevision
    revision := publication.stateRevision + 1
    state := nextState }]
  listed : ∀ other ∈ after.publications.values,
    other = { publication with
      stateRevision := publication.stateRevision + 1
      updatedAt := now } ∨
    (other ∈ before.publications.values ∧ other.appInstanceId ≠ publication.appInstanceId)
  state : after.state publication.appInstanceId = some nextState
  others : ∀ appInstanceId, appInstanceId ≠ publication.appInstanceId →
    after.state appInstanceId = before.state appInstanceId

lemma Accepted.updatesOf_self {nextState : JsValue} {now : ℕ}
    (h : Accepted publication nextState now before after) :
    after.updatesOf publication.appInstanceId = before.updatesOf publication.appInstanceId ++ [{
      appInstanceId := publication.appInstanceId
      expectedRevision := publication.stateRevision
      revision := publication.stateRevision + 1
      state := nextState }] := by
  rw [updatesOf, h.acceptedUpdates, List.filter_append, updatesOf]
  simp

lemma Accepted.updatesOf_of_ne {nextState : JsValue} {now : ℕ}
    (h : Accepted publication nextState now before after) {appInstanceId : String}
    (hne : appInstanceId ≠ publication.appInstanceId) :
    after.updatesOf appInstanceId = before.updatesOf appInstanceId := by
  rw [updatesOf, h.acceptedUpdates, List.filter_append, updatesOf]
  simp [Ne.symm hne]

lemma Accepted.servesAll {nextState : JsValue} {now : ℕ}
    (h : Accepted publication nextState now before after) (hserves : ServesAll before) :
    ServesAll after := by
  have hrevision := (hserves.serves publication h.was).revision
  refine ⟨fun id => ?_, fun other hmem => ?_⟩
  · by_cases hid : id = publication.appInstanceId
    · subst hid
      rw [h.updatesOf_self]
      exact (hserves.chain _).concat hrevision rfl
    · rw [h.updatesOf_of_ne hid]
      exact hserves.chain id
  · rcases h.listed other hmem with rfl | ⟨hbefore, hid⟩
    · refine ⟨?_, fun last hlast => ?_⟩
      · show publication.stateRevision + 1 =
          lastRevision (after.updatesOf publication.appInstanceId)
        rw [h.updatesOf_self, lastRevision_concat]
      · show after.state publication.appInstanceId = some last.state
        replace hlast : (after.updatesOf publication.appInstanceId).getLast? = some last := hlast
        rw [h.updatesOf_self, List.getLast?_concat] at hlast
        obtain rfl := Option.some.inj hlast
        exact h.state
    · exact (hserves.serves other hbefore).congr (h.updatesOf_of_ne hid) rfl (h.others _ hid)

/-- A publication leaves the states of the listed Apps alone. An App that it adds has the id of a
new App, and no revision yet. -/
structure BundleKept (appInstanceId : String) (before after : GeneratedAppStorage) : Prop where
  acceptedUpdates : after.acceptedUpdates = before.acceptedUpdates
  listed : ∀ new ∈ after.publications.values,
    (∃ old ∈ before.publications.values, new.appInstanceId = old.appInstanceId ∧
      new.stateRevision = old.stateRevision ∧
        after.state new.appInstanceId = before.state old.appInstanceId) ∨
    (new.appInstanceId = appInstanceId ∧ new.stateRevision = 0)

lemma Unchanged.bundleKept (h : Unchanged before after) (appInstanceId : String) :
    BundleKept appInstanceId before after := by
  refine ⟨h.acceptedUpdates, fun new hmem => Or.inl ⟨new, ?_⟩⟩
  rcases h.kept with hnone | ⟨hlisted, hstates⟩
  · rw [publications, hnone] at hmem
    exact absurd hmem List.not_mem_nil
  · rw [hlisted] at hmem
    exact ⟨hmem, rfl, rfl, hstates new hmem⟩

lemma BundleKept.servesAll {appInstanceId : String} (h : BundleKept appInstanceId before after)
    (hfresh : before.updatesOf appInstanceId = []) (hserves : ServesAll before) :
    ServesAll after := by
  refine ⟨fun id => updatesOf_congr h.acceptedUpdates id ▸ hserves.chain id, ?_⟩
  intro new hmem
  rcases h.listed new hmem with ⟨old, hold, hid, hrevision, hstate⟩ | ⟨rfl, hrevision⟩
  · refine (hserves.serves old hold).congr ?_ hrevision hstate
    rw [hid]
    exact updatesOf_congr h.acceptedUpdates _
  · -- No update of the new App was accepted yet.
    have hnone : after.updatesOf new.appInstanceId = [] := by
      rw [updatesOf_congr h.acceptedUpdates, hfresh]
    refine ⟨?_, fun last hlast => ?_⟩
    · rw [hrevision, hnone]
      rfl
    · rw [hnone] at hlast
      cases hlast

lemma BundleKept.statesUntouched {appInstanceId : String}
    (h : BundleKept appInstanceId before after)
    (hfresh : before.publications.get? appInstanceId = none) : StatesUntouched before after := by
  intro old hold new hnew hsame
  rcases h.listed new hnew with ⟨old', hold', hid, hrevision, hstate⟩ | ⟨rfl, -⟩
  · obtain rfl := KeyedMap.eq_of_key_eq _ hold' hold (hid.symm.trans hsame)
    exact ⟨hrevision, hstate⟩
  · rw [hsame, get?_publications hold] at hfresh
    cases hfresh

end Served

section Programs

variable {env : RoomEnv} {codec : JsonCodec} {fails : GeneratedAppIO → Bool}
  {before storage : GeneratedAppStorage}

/-! ## A state update -/

section Update

variable {publication : GeneratedRoomAppPublication} {currentState nextState : JsValue}

/-- The next state is written, and nothing else. -/
structure StateWritten (publication : GeneratedRoomAppPublication) (nextState : JsValue)
    (before s : GeneratedAppStorage) : Prop where
  listed : s.publications = before.publications
  acceptedUpdates : s.acceptedUpdates = before.acceptedUpdates
  state : s.state publication.appInstanceId = some nextState
  others : ∀ appInstanceId, appInstanceId ≠ publication.appInstanceId →
    s.state appInstanceId = before.state appInstanceId

lemma StateWritten.restored {s : GeneratedAppStorage}
    (h : StateWritten publication nextState before s)
    (hcurrent : before.state publication.appInstanceId = some currentState) :
    Unchanged before (s.setState publication.appInstanceId (some currentState)) := by
  refine ⟨Or.inr ⟨h.listed, fun other _ => ?_⟩, h.acceptedUpdates⟩
  show (if other.appInstanceId = publication.appInstanceId then some currentState
    else s.state other.appInstanceId) = before.state other.appInstanceId
  split
  next hid => rw [hid, hcurrent]
  next hid => exact h.others _ hid

lemma meets_writeGeneratedAppState {room : RoomRecord} (hkept : Kept before storage)
    (hupdates : storage.acceptedUpdates = before.acceptedUpdates)
    (hlisted : publication ∈ before.publications.values)
    (hcurrent : before.state publication.appInstanceId = some currentState)
    (hrestores : fails .putState = false → SaveThrows env fails room →
      fails .restoreState = false) :
    (writeGeneratedAppState env room before.publications publication currentState nextState fails
      storage).Meets Any (fun _ => Accepted publication nextState env.now before)
        (Unchanged before) := by
  unfold writeGeneratedAppState
  refine .bind (R := fun _ s => StateWritten publication nextState before s ∧
    fails .putState = false) ?_ ?_
  · refine .perform (fun _ => hkept.unchanged hupdates) fun hput =>
      ⟨trivial, ⟨hkept.listed, hupdates, ?_, fun id hne => ?_⟩, hput⟩
    · simp [setState]
    · rw [← (hkept.apps id).state]
      simp [setState, hne]
  · rintro _ s ⟨hwritten, hput⟩
    refine .bind (R := fun _ s' => Accepted publication nextState env.now before
        { s' with acceptedUpdates := before.acceptedUpdates ++ [{
          appInstanceId := publication.appInstanceId
          expectedRevision := publication.stateRevision
          revision := publication.stateRevision + 1
          state := nextState }] } ∧ s'.acceptedUpdates = before.acceptedUpdates) ?_ ?_
    · refine .tryCatch (E := fun s' => s' = s ∧ SaveThrows env fails room) ?_ ?_
      · -- The save lists the App with its next revision.
        refine meets_saveGeneratedApps (fun hthrows => ⟨rfl, hthrows⟩) fun _ saved => ?_
        exact ⟨⟨hlisted, rfl, fun other hmem => listed_of_saved rfl rfl hmem, hwritten.state,
          hwritten.others⟩, hwritten.acceptedUpdates⟩
      · -- The save threw, and the handler restores the old state.
        rintro _ s' ⟨rfl, hthrows⟩
        refine .bind (R := fun _ => Unchanged before) ?_ fun _ _ hs => .throw hs
        refine .perform (fun hunrestored => ?_) fun _ =>
          ⟨trivial, hwritten.restored hcurrent⟩
        rw [hrestores hput hthrows] at hunrestored
        cases hunrestored
    · rintro _ s' ⟨haccepted, hs'⟩
      refine .inMemory ?_
      rw [hs']
      exact haccepted

/-- What a state update does to the Apps: it is accepted, or it changes nothing. -/
def Updates (now : ℕ) (before after : GeneratedAppStorage) : Prop :=
  Unchanged before after ∨ ∃ publication nextState, Accepted publication nextState now before after

/-- A state update that is undone when its save throws is accepted, or changes nothing. -/
lemma meets_updateGeneratedAppState {participantId token : String}
    {message : GeneratedAppStateMessage} (hrestores : ∀ room human publication,
      ¬LosesState env codec storage participantId token message fails room human publication) :
    (updateGeneratedAppState env codec participantId token message fails storage).Meets Any
      (fun _ => Updates env.now storage) (Updates env.now storage) := by
  unfold updateGeneratedAppState
  refine .bind ((meets_loadGeneratedApps).mono (fun _ h => h) (fun _ _ h => h)
    fun _ h => Or.inl h.unchanged) ?_
  rintro loaded s ⟨hreloaded, hloaded⟩
  have hsame : Updates env.now storage s := Or.inl hreloaded.unchanged
  cases loaded with
  | none => exact .pure hsame
  | some loaded =>
    obtain ⟨room, apps⟩ := loaded
    obtain ⟨hkept, rfl, hloads⟩ := hloaded room apps rfl
    dsimp only
    cases hsender : room.findHumanClient participantId token with
    | error error => exact .pure hsame
    | ok human =>
      dsimp only
      cases hlisted : storage.publications.get? message.appInstanceId with
      | none => exact .pure hsame
      | some publication =>
        dsimp only
        have hid : publication.appInstanceId = message.appInstanceId :=
          KeyedMap.key_of_get? hlisted
        cases hexpected : message.expectedRevision.asSafeInteger?.filter (0 ≤ ·) with
        | none => exact .pure hsame
        | some expectedRevision =>
          dsimp only
          cases hvalid : message.validState codec with
          | none => exact .pure hsame
          | some valid =>
            obtain ⟨nextState, updateBytes⟩ := valid
            dsimp only
            refine .bind (R := fun current s' => current = storage.state message.appInstanceId ∧
              s' = s ∧ fails .readState = false)
              (.read (fun _ => hsame) fun hread => ⟨(hkept.apps _).state, rfl, hread⟩) ?_
            rintro _ s' ⟨rfl, rfl, hread⟩
            cases hcurrent : storage.state message.appInstanceId with
            | none => exact .pure hsame
            | some currentState =>
              by_cases hstale : (publication.stateRevision : ℤ) ≠ expectedRevision
              · simp only [hstale, ne_eq, not_false_eq_true, if_true]
                exact .pure hsame
              · have hrevision : expectedRevision = publication.stateRevision := by omega
                subst hrevision
                simp only [ne_eq, not_true_eq_false, if_false]
                refine .bind (R := fun exceeded s => (Kept storage s ∧
                    s.acceptedUpdates = storage.acceptedUpdates) ∧
                  exceeded = (generatedAppStateBudgetExceeded storage.windows human.id
                    message.appInstanceId updateBytes env.now).1) ?_ ?_
                · refine .inMemory ⟨⟨hkept.setWindows _, hreloaded.acceptedUpdates⟩, ?_⟩
                  rw [hreloaded.windows]
                · rintro exceeded s' ⟨⟨hkept', hupdates⟩, hexceeded⟩
                  cases exceeded with
                  | true =>
                    exact .pure (Or.inl (hkept'.unchanged hupdates))
                  | false =>
                    have hlisted' := KeyedMap.mem_of_get? hlisted
                    refine .bind ((meets_writeGeneratedAppState hkept' hupdates hlisted'
                      (hid ▸ hcurrent) ?_).mono (fun _ h => h) (fun _ _ h => h)
                        fun _ h => Or.inl h) ?_
                    · -- An update that cannot be undone is excluded by the condition.
                      intro hput hthrows
                      by_contra hunrestored
                      exact hrestores room human publication
                        ⟨⟨hloads, hsender, hlisted, ⟨nextState, updateBytes, currentState, hvalid,
                          hcurrent, hexceeded.symm⟩, (Option.filter_eq_some_iff.mp hexpected).1,
                          hread⟩, hput, hthrows, by simpa using hunrestored⟩
                    · intro _ s'' haccepted
                      have hdone : Updates env.now storage s'' := Or.inr ⟨_, _, haccepted⟩
                      refine .bind (R := fun _ => Updates env.now storage) ?_ fun _ _ h => .pure h
                      exact .perform (fun _ => hdone) fun _ => ⟨trivial, hdone⟩

end Update

/-! ## A publication -/

section Publish

variable {room : RoomRecord} {request : GeneratedAppRequest} {accepted : AcceptedPublication codec}
  {appInstanceId : String}

/-- Until its save, a publication changes neither the list nor a state of a listed App. -/
structure StatesHeld (before s : GeneratedAppStorage) : Prop where
  listed : s.publications = before.publications
  acceptedUpdates : s.acceptedUpdates = before.acceptedUpdates
  states : ∀ publication ∈ before.publications.values,
    s.state publication.appInstanceId = before.state publication.appInstanceId

lemma StatesHeld.unchanged {s : GeneratedAppStorage} (h : StatesHeld before s) :
    Unchanged before s := ⟨Or.inr ⟨h.listed, h.states⟩, h.acceptedUpdates⟩

lemma GeneratedAppStorage.Kept.statesHeld {s : GeneratedAppStorage} (h : Kept before s)
    (hupdates : s.acceptedUpdates = before.acceptedUpdates) : StatesHeld before s :=
  ⟨h.listed, hupdates, fun _ _ => (h.apps _).state⟩

lemma StatesHeld.setBundleChunk {s : GeneratedAppStorage} (h : StatesHeld before s)
    (id : String) (bundleRevision index : ℕ) (chunk : Option (List UInt8)) :
    StatesHeld before (s.setBundleChunk id bundleRevision index chunk) :=
  ⟨h.listed, h.acceptedUpdates, h.states⟩

lemma StatesHeld.setManifest {s : GeneratedAppStorage} (h : StatesHeld before s) (id : String)
    (manifest : Option GeneratedAppManifest) : StatesHeld before (s.setManifest id manifest) :=
  ⟨h.listed, h.acceptedUpdates, h.states⟩

lemma StatesHeld.setState {s : GeneratedAppStorage} (h : StatesHeld before s)
    (hfresh : before.publications.get? appInstanceId = none) (state : Option JsValue) :
    StatesHeld before (s.setState appInstanceId state) := by
  refine ⟨h.listed, h.acceptedUpdates, fun publication hmem => ?_⟩
  have hne := KeyedMap.get?_eq_none_iff.mp hfresh publication hmem
  rw [GeneratedRoomAppPublication.key_eq] at hne
  show (if publication.appInstanceId = appInstanceId then state
    else s.state publication.appInstanceId) = before.state publication.appInstanceId
  rw [if_neg hne]
  exact h.states publication hmem

lemma StatesHeld.bundleKept {s : GeneratedAppStorage} (h : StatesHeld before s)
    {publication : GeneratedRoomAppPublication} (saved : RoomRecord)
    (hpublication : (∃ old ∈ before.publications.values,
      publication.appInstanceId = old.appInstanceId ∧
        publication.stateRevision = old.stateRevision) ∨
      (publication.appInstanceId = appInstanceId ∧ publication.stateRevision = 0)) :
    BundleKept appInstanceId before { s with
      room := some saved
      generatedApps := before.publications.set publication } := by
  refine ⟨h.acceptedUpdates, fun new hmem => ?_⟩
  rcases listed_of_saved rfl rfl hmem with rfl | ⟨hbefore, -⟩
  · rcases hpublication with ⟨old, hold, hid, hrevision⟩ | hnew
    · refine Or.inl ⟨old, hold, hid, hrevision, ?_⟩
      rw [hid]
      exact h.states old hold
    · exact Or.inr hnew
  · exact Or.inl ⟨new, hbefore, rfl, rfl, h.states new hbefore⟩

lemma BundleKept.deleteOldChunks {s : GeneratedAppStorage}
    (h : BundleKept appInstanceId before s) (id : String) (bundleRevision chunkCount : ℕ) :
    BundleKept appInstanceId before (s.deleteOldChunks id bundleRevision chunkCount) :=
  ⟨h.acceptedUpdates, h.listed⟩

lemma updatePublication_bundleKept {current : GeneratedRoomAppPublication}
    (hstart : StatesHeld before storage) (hcurrent : current ∈ before.publications.values) :
    (updatePublication env room before.publications current accepted fails storage).Meets Any
      (fun _ => BundleKept appInstanceId before) (BundleKept appInstanceId before) := by
  have hheld : ∀ s, StatesHeld before s → BundleKept appInstanceId before s :=
    fun _ hs => hs.unchanged.bundleKept appInstanceId
  unfold updatePublication
  refine .bind (R := fun _ => StatesHeld before) (.read (fun _ => hheld _ hstart)
    fun _ => hstart) ?_
  intro previousManifest s hs
  refine .bind (R := fun _ => BundleKept appInstanceId before) ?_ fun _ s hs => ?_
  · refine .tryCatch (E := StatesHeld before) ?_ fun attempted s hs => ?_
    · refine .bind (meets_putBundleChunks (P := StatesHeld before) hs
        (fun _ index chunk hs => hs.setBundleChunk _ _ index chunk) fun _ _ _ hs _ => hs) ?_
      rintro _ s ⟨hs, -⟩
      refine .bind (R := fun _ => StatesHeld before)
        (.perform (fun _ => hs) fun _ => ⟨trivial, hs.setManifest _ _⟩) fun _ s hs => ?_
      exact meets_saveGeneratedApps (fun _ => hs) fun _ saved =>
        hs.bundleKept saved (Or.inl ⟨current, hcurrent, rfl, rfl⟩)
    · refine .bind (R := fun _ => StatesHeld before) (.perform (fun _ => hheld s hs)
        fun _ => ⟨trivial, hs.setManifest _ _⟩) fun _ s hs => ?_
      refine .bind (R := fun _ => StatesHeld before) (.perform (fun _ => hheld s hs)
        fun _ => ⟨trivial, ?_⟩) fun _ s hs => .throw (hheld s hs)
      exact deleteNewChunks_keeps attempted hs fun _ index hs => hs.setBundleChunk _ _ index none
  · refine .bind (.perform (Q := fun _ => BundleKept appInstanceId before) (fun _ => hs)
      fun _ => ⟨trivial, hs⟩) fun _ s hs => ?_
    refine .bind (.perform (Q := fun _ => BundleKept appInstanceId before) (fun _ => hs)
      fun _ => ⟨trivial, hs⟩) fun _ s hs => ?_
    refine .bind (.perform (Q := fun _ => BundleKept appInstanceId before) (fun _ => hs)
      fun _ => ⟨trivial, hs.deleteOldChunks _ _ _⟩) fun _ s hs => ?_
    exact .pure hs

lemma createPublication_bundleKept {state : JsValue} (hstart : StatesHeld before storage)
    (hfresh : before.publications.get? appInstanceId = none) :
    (createPublication env appInstanceId room before.publications accepted state fails
      storage).Meets Any (fun _ => BundleKept appInstanceId before)
        (BundleKept appInstanceId before) := by
  have hheld : ∀ s, StatesHeld before s → BundleKept appInstanceId before s :=
    fun _ hs => hs.unchanged.bundleKept appInstanceId
  unfold createPublication
  refine .bind (R := fun _ => BundleKept appInstanceId before) ?_ fun _ s hs => ?_
  · refine .tryCatch (E := StatesHeld before) ?_ fun attempted s hs => ?_
    · refine .bind (meets_putBundleChunks (P := StatesHeld before) hstart
        (fun _ index chunk hs => hs.setBundleChunk _ _ index chunk) fun _ _ _ hs _ => hs) ?_
      rintro _ s ⟨hs, -⟩
      refine .bind (R := fun _ => StatesHeld before)
        (.perform (fun _ => hs) fun _ => ⟨trivial, hs.setState hfresh _⟩) fun _ s hs => ?_
      refine .bind (R := fun _ => StatesHeld before)
        (.perform (fun _ => hs) fun _ => ⟨trivial, hs.setManifest _ _⟩) fun _ s hs => ?_
      exact meets_saveGeneratedApps (fun _ => hs) fun _ saved =>
        hs.bundleKept saved (Or.inr ⟨rfl, rfl⟩)
    · refine .bind (R := fun _ => StatesHeld before) (.perform (fun _ => hheld s hs)
        fun _ => ⟨trivial, ?_⟩) fun _ s hs => .throw (hheld s hs)
      have hdeleted : StatesHeld before (deleteNewChunks appInstanceId 1 attempted s) :=
        deleteNewChunks_keeps attempted hs fun _ index hs => hs.setBundleChunk _ _ index none
      unfold deleteNewKeys
      split
      next => exact (hdeleted.setState hfresh none).setManifest _ none
      next => exact hdeleted
  · refine .bind (.perform (Q := fun _ => BundleKept appInstanceId before) (fun _ => hs)
      fun _ => ⟨trivial, hs⟩) fun _ s hs => ?_
    refine .bind (.perform (Q := fun _ => BundleKept appInstanceId before) (fun _ => hs)
      fun _ => ⟨trivial, hs⟩) fun _ s hs => ?_
    exact .pure hs

lemma publishGeneratedApp_bundleKept (hfresh : storage.publications.get? appInstanceId = none) :
    (publishGeneratedApp env codec request appInstanceId fails storage).Meets Any
      (fun _ => BundleKept appInstanceId storage) (BundleKept appInstanceId storage) := by
  unfold publishGeneratedApp
  refine .bind ((meets_loadGeneratedApps).mono (fun _ h => h) (fun _ _ h => h)
    fun _ h => h.unchanged.bundleKept appInstanceId) ?_
  rintro loaded s ⟨hreloaded, hloaded⟩
  have hsame := hreloaded.unchanged.bundleKept appInstanceId
  cases loaded with
  | none => exact .pure hsame
  | some loaded =>
    obtain ⟨room, apps⟩ := loaded
    obtain ⟨hkept, rfl, -⟩ := hloaded room apps rfl
    have hheld := hkept.statesHeld hreloaded.acceptedUpdates
    dsimp only
    cases authorizePublication codec room request with
    | error error => exact .pure hsame
    | ok accepted =>
      dsimp only
      cases hfind : storage.publications.values.find? (fun app =>
        app.taskRequestId = accepted.taskRequestId) with
      | some current =>
        refine .bind (R := fun _ => StatesHeld storage) (.read (fun _ => hsame) fun _ => hheld) ?_
        intro existing s' hs'
        have hsame' := hs'.unchanged.bundleKept appInstanceId
        cases existing with
        | none => exact .pure hsame'
        | some existingBundle =>
          by_cases hidentical : existingBundle = accepted.valid.encoded
          · simp only [hidentical, if_true]
            exact .pure hsame'
          · simp only [hidentical, if_false]
            exact .map (updatePublication_bundleKept hs' (List.mem_of_find?_eq_some hfind))
      | none =>
        dsimp only
        by_cases hfull : MAX_GENERATED_APPS_PER_ROOM ≤ storage.publications.size
        · simp only [hfull, if_true]
          exact .pure hsame
        · simp only [hfull, if_false]
          cases validateGeneratedRoomAppState codec
            (accepted.valid.bundle.get "initialState") with
          | error error => exact .pure hsame
          | ok state => exact .map (createPublication_bundleKept hheld hfresh)

end Publish

/-! ## The other operations -/

lemma meets_createRoom {room : RoomRecord} (hserves : ServesAll storage) :
    (createRoom env room fails storage).Meets Any (fun _ => ServesAll) ServesAll := by
  unfold createRoom
  refine .bind ((meets_loadGeneratedApps).mono (fun _ h => h) (fun _ _ h => h)
    fun _ h => h.unchanged.servesAll hserves) ?_
  rintro loaded s ⟨hreloaded, -⟩
  have hs := hreloaded.unchanged.servesAll hserves
  cases loaded with
  | some loaded => exact .pure hs
  | none =>
    refine meets_saveGeneratedApps (fun _ => hs) fun _ saved => ⟨hs.chain, fun new hmem => ?_⟩
    rw [publications_of_room rfl] at hmem
    exact absurd hmem List.not_mem_nil

lemma meets_saveOther {change : RoomRecord → RoomRecord} :
    (saveOther env change fails storage).Meets Any (fun _ => Unchanged storage)
      (Unchanged storage) := by
  unfold saveOther
  refine .bind ((meets_loadGeneratedApps).mono (fun _ h => h) (fun _ _ h => h)
    fun _ h => h.unchanged) ?_
  rintro loaded s ⟨hreloaded, hloaded⟩
  cases loaded with
  | none => exact .pure hreloaded.unchanged
  | some loaded =>
    obtain ⟨room, apps⟩ := loaded
    obtain ⟨hkept, rfl, hloads⟩ := hloaded room apps rfl
    obtain ⟨stored, -, hstored, -, -⟩ := hloads.stored
    refine meets_saveGeneratedApps (fun _ => hreloaded.unchanged) fun _ saved => ?_
    refine ⟨Or.inr ⟨?_, fun _ _ => (hkept.apps _).state⟩, hreloaded.acceptedUpdates⟩
    -- What the load returned is normal already.
    rw [publications_of_room rfl, publications_of_room hstored]
    exact normalizeGeneratedApps_idem _

end Programs

/-! ## The result -/

section Result

variable {codec : JsonCodec} {s : GeneratedAppRun} {call : GeneratedAppCall}

lemma mem_rejected {rejected : List (GeneratedAppStorage × GeneratedAppStorage)}
    {before after : GeneratedAppStorage} {update : GeneratedAppStorage × GeneratedAppStorage}
    (h : update ∈ if after.acceptedUpdates.length = before.acceptedUpdates.length then
      rejected ++ [(before, after)] else rejected) : update ∈ rejected ∨ (update = (before, after) ∧
      after.acceptedUpdates.length = before.acceptedUpdates.length) := by
  split at h
  next hlength =>
    rcases List.mem_append.mp h with hmem | hmem
    · exact Or.inl hmem
    · exact Or.inr ⟨List.mem_singleton.mp hmem, hlength⟩
  next => exact Or.inl h

lemma SharedStateConsistent.statesKept (h : SharedStateConsistent (s.step codec call))
    {participantId token : String} {message : GeneratedAppStateMessage}
    (hop : call.op = .updateState participantId token message)
    (hlength : (call.after codec s.storage).acceptedUpdates.length =
      s.storage.acceptedUpdates.length) : StatesKept s.storage (call.after codec s.storage) := by
  obtain ⟨env, op, fails⟩ := call
  obtain rfl := hop
  refine h.rejected (_, _) ?_
  rw [GeneratedAppRun.step]
  dsimp only
  rw [if_pos hlength]
  exact List.mem_append_right _ (List.mem_singleton_self _)

lemma SharedStateConsistent.step (h : SharedStateConsistent s) (henabled : s.Enabled call.op)
    (hrestores : Restores codec s (.run call)) : SharedStateConsistent (s.step codec call) := by
  have hserves : ServesAll s.storage := ⟨h.chain, h.serves⟩
  obtain ⟨env, op, fails⟩ := call
  cases op with
  | createRoom room =>
    have hafter : ServesAll (createRoom env room fails s.storage).state :=
      (meets_createRoom hserves).final
    exact ⟨hafter.chain, hafter.serves, h.rejected, h.bundleUpdates⟩
  | publish request appInstanceId =>
    obtain ⟨hfresh, hnone⟩ := henabled
    have hkept : BundleKept appInstanceId s.storage
        (publishGeneratedApp env codec request appInstanceId fails s.storage).state :=
      (publishGeneratedApp_bundleKept hfresh).final
    have hafter := hkept.servesAll hnone hserves
    refine ⟨hafter.chain, hafter.serves, h.rejected, fun update hmem => ?_⟩
    rcases List.mem_append.mp hmem with hmem | hmem
    · exact h.bundleUpdates update hmem
    · rw [List.mem_singleton.mp hmem]
      exact hkept.statesUntouched hfresh
  | updateState participantId token message =>
    have hupdates := (meets_updateGeneratedAppState hrestores).final
    have hafter : ServesAll (updateGeneratedAppState env codec participantId token message fails
        s.storage).state := by
      rcases hupdates with hunchanged | ⟨publication, nextState, haccepted⟩
      · exact hunchanged.servesAll hserves
      · exact haccepted.servesAll hserves
    refine ⟨hafter.chain, hafter.serves, fun update hmem => ?_, h.bundleUpdates⟩
    rcases mem_rejected hmem with hmem | ⟨rfl, hlength⟩
    · exact h.rejected update hmem
    · rcases hupdates with hunchanged | ⟨publication, nextState, haccepted⟩
      · exact hunchanged.kept
      · -- As many updates are accepted as before, so that this one was not.
        have hlonger := congrArg List.length haccepted.acceptedUpdates
        rw [List.length_append, List.length_singleton] at hlonger
        exact absurd (hlonger.symm.trans hlength) (Nat.succ_ne_self _)
  | other change =>
    have hunchanged : Unchanged s.storage (saveOther env change fails s.storage).state :=
      meets_saveOther.final
    have hafter := hunchanged.servesAll hserves
    exact ⟨hafter.chain, hafter.serves, h.rejected, h.bundleUpdates⟩

end Result

/-! ## A vote in the poll -/

/-- A Room with the Task of making a poll, and a Human. -/
def votingRoom : RoomRecord :=
  { pollRoom with
    participants := pollRoom.participants.set
      { id := "human-a", name := "human-a", kind := .human, connected := true, joinedAt := 1000,
        lastSeenAt := 1000, token := "token", media := some { sessionId := "session" } } }

/-- The id of the poll. -/
def votingAppId : String := "generated:00000000-0000-4000-8000-000000000003"

/-- The Room is created. -/
def createVotingRoom : GeneratedAppCall := ⟨fixedEnv true, .createRoom votingRoom, fun _ => false⟩

/-- The poll is published. -/
def publishPoll : GeneratedAppCall :=
  ⟨fixedEnv true, .publish pollRequest votingAppId, fun _ => false⟩

/-- The Human votes first. -/
def vote (fails : GeneratedAppIO → Bool) : GeneratedAppCall :=
  ⟨fixedEnv true, .updateState "human-a" "token"
    { appInstanceId := votingAppId
      expectedRevision := .int 0
      state := .obj [("votes", .int 1)]
      bytes := some 130 }, fails⟩

/-- The vote whose save throws, as does the write that restores the state. -/
def lostVote : GeneratedAppCall := vote fun io => io = .saveRoom ∨ io = .restoreState

/-- The run in which the poll was published. -/
def pollRun : GeneratedAppRun :=
  (({} : GeneratedAppRun).step pollCodec createVotingRoom).step pollCodec publishPoll

/-- The votes in a stored state. -/
def votes (s : GeneratedAppStorage) : Option ℤ :=
  (s.state votingAppId).bind fun state => (state.get "votes").asSafeInteger?

lemma reachable_pollRun {guard : GeneratedAppRun → GeneratedAppEvent → Prop}
    (hcreate : guard {} (.run createVotingRoom)) (hpublish : ∀ s, guard s (.run publishPoll)) :
    (generatedAppSystem pollCodec).ReachableWhen guard pollRun := by
  refine .step (.step (.init rfl) hcreate ⟨trivial, rfl⟩) (hpublish _) ⟨⟨?_, ?_⟩, rfl⟩
  · decide +kernel
  · decide +kernel

end Free4Chat
