import Free4Chat.Data.Chunked
import Free4Chat.Data.FaultyProgram
import Free4Chat.GeneratedApp.Bundle
import Free4Chat.Session.Machine

/-!
# The Store of Generated Apps

A Room record lists the Apps that its Agents generated. The bundle of an App is stored in chunks
beside the record, with a manifest, and so is the state that its participants share. Storage
operations may throw.

* `GeneratedRoomAppPublication` and `normalizeGeneratedApps`: the listed Apps, and how a load
  repairs the list.
* `GeneratedAppStorage.readGeneratedAppBundleBytes` and `GeneratedAppStorage.handleGeneratedAppRead`:
  the two ways to read a bundle.
* `publishGeneratedApp`: publishes an App, or a new bundle of one.
* `updateGeneratedAppState`: replaces the shared state of an App.
-/

namespace Free4Chat

/-! ## Publications -/

/-- A published App. One that was stored without a bundle revision has revision 1. -/
structure GeneratedRoomAppPublication where
  appInstanceId : String
  taskRequestId : String
  title : String
  bundleBytes : ℕ
  bundleRevision : ℕ
  stateRevision : ℕ
  createdAt : ℕ
  updatedAt : ℕ
deriving DecidableEq

instance : Keyed GeneratedRoomAppPublication String where
  key publication := publication.appInstanceId

@[simp]
lemma GeneratedRoomAppPublication.key_eq (publication : GeneratedRoomAppPublication) :
    Keyed.key publication = publication.appInstanceId := rfl

/-- The listed Apps of a Room. -/
abbrev GeneratedApps := KeyedMap GeneratedRoomAppPublication

/-- The pattern `^generated:[0-9a-f-]{36}$` of App ids. -/
def isGeneratedAppId (appInstanceId : String) : Bool :=
  let parts := appInstanceId.toList
  parts.take 10 = "generated:".toList && (parts.drop 10).length = 36 &&
    (parts.drop 10).all fun c => c.isDigit || ('a' ≤ c && c ≤ 'f') || c = '-'

/-- Whether a stored publication is well formed. -/
def validGeneratedAppPublication (candidate : GeneratedRoomAppPublication) : Bool :=
  isGeneratedAppId candidate.appInstanceId &&
    candidate.taskRequestId ≠ "" && JsString.utf16Length candidate.taskRequestId ≤ 64 &&
    candidate.title ≠ "" && JsString.utf16Length candidate.title ≤ 80 &&
    0 < candidate.bundleBytes && candidate.bundleBytes ≤ MAX_GENERATED_APP_BUNDLE_BYTES &&
    1 ≤ candidate.bundleRevision

/-- The list with one more stored publication, unless it is malformed, surplus, or of a Task that
has one. -/
def admitGeneratedApp (result : GeneratedApps) (raw : GeneratedRoomAppPublication) :
    GeneratedApps :=
  if MAX_GENERATED_APPS_PER_ROOM ≤ result.size ∨ validGeneratedAppPublication raw = false ∨
      (result.values.any fun app => app.taskRequestId = raw.taskRequestId) = true then result
  else result.set raw

/-- The listed Apps that a load keeps. -/
def normalizeGeneratedApps (stored : GeneratedApps) : GeneratedApps :=
  stored.values.foldl admitGeneratedApp .empty

lemma mem_normalizeGeneratedApps {stored : GeneratedApps}
    {publication : GeneratedRoomAppPublication}
    (h : publication ∈ (normalizeGeneratedApps stored).values) :
    publication ∈ stored.values ∧ validGeneratedAppPublication publication = true := by
  have hfold : ∀ (raws : List GeneratedRoomAppPublication) (result : GeneratedApps),
      publication ∈ (raws.foldl admitGeneratedApp result).values →
        publication ∈ result.values ∨
          publication ∈ raws ∧ validGeneratedAppPublication publication = true := by
    intro raws
    induction raws with
    | nil => exact fun result hmem => Or.inl hmem
    | cons raw raws ih =>
      intro result hmem
      rcases ih _ hmem with hmem | ⟨hmem, hvalid⟩
      · unfold admitGeneratedApp at hmem
        split at hmem
        · exact Or.inl hmem
        · rename_i hadmitted
          rcases KeyedMap.mem_set.mp hmem with rfl | ⟨hmem, -⟩
          · refine Or.inr ⟨List.mem_cons_self, ?_⟩
            simpa using fun hinvalid => hadmitted (Or.inr (Or.inl hinvalid))
          · exact Or.inl hmem
      · exact Or.inr ⟨List.mem_cons_of_mem _ hmem, hvalid⟩
  rcases hfold _ _ h with h | h
  · exact absurd h List.not_mem_nil
  · exact h

/-- A list that a load leaves alone: it is bounded, its entries are well formed, and no two are of
one Task. -/
structure NormalApps (apps : List GeneratedRoomAppPublication) : Prop where
  bounded : apps.length ≤ MAX_GENERATED_APPS_PER_ROOM
  valid : ∀ app ∈ apps, validGeneratedAppPublication app = true
  tasks : (apps.map (·.taskRequestId)).Nodup

lemma foldl_admitGeneratedApp {raws : List GeneratedRoomAppPublication} {result : GeneratedApps}
    (hnormal : NormalApps (result.values ++ raws))
    (hids : ((result.values ++ raws).map Keyed.key).Nodup) :
    (raws.foldl admitGeneratedApp result).values = result.values ++ raws := by
  induction raws generalizing result with
  | nil => simp
  | cons raw raws ih =>
    have happend : result.values ++ raw :: raws = (result.values ++ [raw]) ++ raws := by simp
    have hset : (admitGeneratedApp result raw).values = result.values ++ [raw] := by
      have hnotMem : Keyed.key raw ∉ result.keys := by
        rw [List.map_append, List.map_cons, List.nodup_append] at hids
        exact fun hmem => hids.2.2 _ hmem _ List.mem_cons_self rfl
      have htask : (result.values.any fun app => app.taskRequestId = raw.taskRequestId) =
          false := by
        have htasks := hnormal.tasks
        rw [List.map_append, List.map_cons, List.nodup_append] at htasks
        rw [List.any_eq_false]
        intro app hmem heq
        exact htasks.2.2 _ (List.mem_map_of_mem hmem) _ List.mem_cons_self (by simpa using heq)
      have hsize : result.size < MAX_GENERATED_APPS_PER_ROOM := by
        have hbounded := hnormal.bounded
        rw [List.length_append, List.length_cons] at hbounded
        exact Nat.lt_of_lt_of_le (Nat.lt_add_of_pos_right (Nat.succ_pos _)) hbounded
      have hvalid := hnormal.valid raw (List.mem_append_right _ List.mem_cons_self)
      rw [admitGeneratedApp, if_neg (by simp [hvalid, htask, Nat.not_le.mpr hsize]),
        KeyedMap.values_set_of_notMem hnotMem]
    rw [List.foldl_cons, ih, hset, ← happend]
    · rwa [hset, ← happend]
    · rwa [hset, ← happend]

lemma normalApps_normalizeGeneratedApps (stored : GeneratedApps) :
    NormalApps (normalizeGeneratedApps stored).values := by
  have hfold : ∀ (raws : List GeneratedRoomAppPublication) (result : GeneratedApps),
      NormalApps result.values → (result.keys ++ raws.map Keyed.key).Nodup →
        NormalApps (raws.foldl admitGeneratedApp result).values := by
    intro raws
    induction raws with
    | nil => exact fun _ h _ => h
    | cons raw raws ih =>
      intro result h hids
      have hnotMem : Keyed.key raw ∉ result.keys := by
        rw [List.map_cons, List.nodup_append] at hids
        exact fun hmem => hids.2.2 _ hmem _ List.mem_cons_self rfl
      rw [List.map_cons, List.append_cons] at hids
      rw [List.foldl_cons, admitGeneratedApp]
      split
      · refine ih _ h (hids.sublist ?_)
        exact (List.sublist_append_left _ _).append (List.Sublist.refl _)
      · rename_i hadmitted
        push Not at hadmitted
        obtain ⟨hsize, hvalid, htask⟩ := hadmitted
        have hvalues := KeyedMap.values_set_of_notMem hnotMem
        refine ih _ ⟨?_, ?_, ?_⟩ ?_
        · rw [hvalues, List.length_append, List.length_singleton]
          exact hsize
        · rw [hvalues]
          intro app happ
          rcases List.mem_append.mp happ with happ | happ
          · exact h.valid app happ
          · rw [List.mem_singleton.mp happ]
            simpa using hvalid
        · rw [hvalues, List.map_append, List.map_singleton]
          refine List.Nodup.append h.tasks (List.nodup_singleton _) ?_
          rw [List.disjoint_singleton]
          intro hmem
          obtain ⟨app, happ, heq⟩ := List.mem_map.mp hmem
          exact htask (List.any_eq_true.mpr ⟨app, happ, by simpa using heq⟩)
        · rw [KeyedMap.keys_set, if_neg hnotMem]
          exact hids
  exact hfold _ _ ⟨Nat.zero_le _, fun _ h => absurd h List.not_mem_nil, List.nodup_nil⟩
    stored.nodup

lemma normalizeGeneratedApps_idem (stored : GeneratedApps) :
    normalizeGeneratedApps (normalizeGeneratedApps stored) = normalizeGeneratedApps stored := by
  refine KeyedMap.ext ?_
  exact foldl_admitGeneratedApp (normalApps_normalizeGeneratedApps stored)
    (normalizeGeneratedApps stored).nodup

/-! ## Storage -/

/-- The manifest of a stored bundle. An old one has no bundle revision. -/
structure GeneratedAppManifest where
  appInstanceId : String
  bundleBytes : ℕ
  chunkCount : ℕ
  bundleRevision : Option ℕ
deriving DecidableEq

/-- The state updates of a participant on an App in one window of time. -/
structure GeneratedAppStateWindow where
  key : String
  windowStartedAt : ℕ
  count : ℕ
  bytes : ℕ
deriving DecidableEq

instance : Keyed GeneratedAppStateWindow String where
  key window := window.key

/-- A shared-state update that was accepted: the revision it was based on, and the revision and the
state it left. -/
structure AcceptedStateUpdate where
  appInstanceId : String
  expectedRevision : ℕ
  revision : ℕ
  state : JsValue

/-- What is stored of the Apps, and the rate windows that the instance keeps in memory. Chunks are
stored under App id, bundle revision and index; old ones under App id and index. -/
structure GeneratedAppStorage where
  room : Option RoomRecord := none
  generatedApps : GeneratedApps := .empty
  bundleChunk : String → ℕ → ℕ → Option (List UInt8) := fun _ _ _ => none
  legacyChunk : String → ℕ → Option (List UInt8) := fun _ _ => none
  manifest : String → Option GeneratedAppManifest := fun _ => none
  state : String → Option JsValue := fun _ => none
  windows : KeyedMap GeneratedAppStateWindow := .empty
  -- Specification field, not part of the stored data: the accepted state updates, oldest first.
  acceptedUpdates : List AcceptedStateUpdate := []

namespace GeneratedAppStorage

variable (storage : GeneratedAppStorage)

/-- The Apps that a load of the stored Room returns. -/
def publications : GeneratedApps :=
  match storage.room with
  | none => .empty
  | some _ => normalizeGeneratedApps storage.generatedApps

/-- Stores or deletes a chunk of a bundle. -/
def setBundleChunk (appInstanceId : String) (bundleRevision index : ℕ)
    (chunk : Option (List UInt8)) : GeneratedAppStorage :=
  { storage with
    bundleChunk := fun id revision i =>
      if id = appInstanceId ∧ revision = bundleRevision ∧ i = index then chunk
      else storage.bundleChunk id revision i }

/-- Stores or deletes the manifest of an App. -/
def setManifest (appInstanceId : String) (manifest : Option GeneratedAppManifest) :
    GeneratedAppStorage :=
  { storage with
    manifest := fun id => if id = appInstanceId then manifest else storage.manifest id }

/-- Stores or deletes the shared state of an App. -/
def setState (appInstanceId : String) (state : Option JsValue) : GeneratedAppStorage :=
  { storage with state := fun id => if id = appInstanceId then state else storage.state id }

/-- Deletes the chunks of a bundle, and the old ones of the App, below an index. -/
def deleteOldChunks (appInstanceId : String) (bundleRevision chunkCount : ℕ) :
    GeneratedAppStorage :=
  { storage with
    bundleChunk := fun id revision i =>
      if id = appInstanceId ∧ revision = bundleRevision ∧ i < chunkCount then none
      else storage.bundleChunk id revision i
    legacyChunk := fun id i =>
      if id = appInstanceId ∧ i < chunkCount then none else storage.legacyChunk id i }

/-- The bytes of a bundle, from the chunks of its revision. An old bundle, of revision 1 and
without a revision in its manifest, is read from the old chunks. -/
def readGeneratedAppBundleBytes (publication : GeneratedRoomAppPublication) :
    Option (List UInt8) :=
  (Chunked.collect GENERATED_APP_CHUNK_SIZE publication.bundleBytes
      (storage.bundleChunk publication.appInstanceId publication.bundleRevision)).or
    (if ((storage.manifest publication.appInstanceId).bind (·.bundleRevision)).isNone ∧
        publication.bundleRevision = 1 then
      Chunked.collect GENERATED_APP_CHUNK_SIZE publication.bundleBytes
        (storage.legacyChunk publication.appInstanceId)
    else none)

/-- An App as a Human reads it. -/
structure Document where
  publication : GeneratedRoomAppPublication
  bundle : JsValue
  state : JsValue

/-- The document of an App from the bytes of its bundle and its stored state. -/
def readDocument (codec : JsonCodec) (publication : GeneratedRoomAppPublication)
    (bytes : Option (List UInt8)) (state : JsValue) : Except String Document := do
  let bytes ← Except.require bytes "generated_app_unavailable"
  let parsed ← Except.require (codec.parse bytes) "generated_app_unavailable"
  let valid ← Except.require (validateGeneratedRoomAppBundle codec parsed).toOption
    "generated_app_unavailable"
  let state ← Except.require (validateGeneratedRoomAppState codec state).toOption
    "generated_app_unavailable"
  return { publication, bundle := valid.bundle, state }

/-- What a participant that reads an App in the active Room is answered. -/
def handleGeneratedAppRead (codec : JsonCodec) (room : RoomRecord)
    (participantId token appInstanceId : String) : Except String Document := do
  let _ ← Except.require ((room.findParticipant participantId token "").filter (·.kind = .human))
    "unauthorized"
  let publication ← Except.require
    ((storage.publications.get? appInstanceId).filter fun _ => isGeneratedAppId appInstanceId)
    "generated_app_not_found"
  readDocument codec publication (storage.readGeneratedAppBundleBytes publication)
    ((storage.state appInstanceId).getD .undefined)

end GeneratedAppStorage

/-! ## Programs -/

/-- The operations of a publication and of a state update that may throw. -/
inductive GeneratedAppIO where
  | readRoom
  | repairRoom
  | expireRoom
  | readBundle
  | readManifest
  | putBundleChunk (index : ℕ)
  | putState
  | putManifest
  | saveRoom
  -- The handler of a failed publication.
  | restoreManifest
  | deleteNewKeys
  | scheduleNextAlarm
  | broadcast
  | deleteOldChunks
  | readState
  -- The handler of a state update whose save failed.
  | restoreState
deriving DecidableEq

/-- Programs over the stored Apps. -/
abbrev GeneratedAppProgram := FaultyProgram GeneratedAppIO GeneratedAppStorage

section Programs

variable (env : RoomEnv) (codec : JsonCodec)

/-- Writes the repaired record and the repaired list, if the load repaired them. -/
def writeRepairedApps (stored repaired : RoomRecord) (storedApps apps : GeneratedApps) :
    GeneratedAppProgram Unit :=
  if repaired = stored ∧ apps = storedApps then pure ()
  else .perform .repairRoom fun storage =>
    { storage with room := some repaired, generatedApps := apps }

/-- Loads the Room and its Apps. A repaired record is written, and an expired Room is deleted. -/
def loadGeneratedApps : GeneratedAppProgram (Option (RoomRecord × GeneratedApps)) := do
  match ← .read .readRoom fun storage => (storage.room, storage.generatedApps) with
  | (none, _) => pure none
  | (some stored, storedApps) =>
    match loadRoom env stored with
    | none => .throw
    | some (room, repaired) => do
      let apps := normalizeGeneratedApps storedApps
      writeRepairedApps stored repaired storedApps apps
      if room.isExpired env then do
        .perform .expireRoom fun storage =>
          { windows := storage.windows, acceptedUpdates := storage.acceptedUpdates }
        pure none
      else pure (some (room, apps))

/-- Saves the record with its Apps. The save throws when the record is rejected. -/
def saveGeneratedApps (room : RoomRecord) (apps : GeneratedApps) : GeneratedAppProgram Unit :=
  match room.saveRoom env with
  | none => .throw
  | some saved =>
    .perform .saveRoom fun storage => { storage with room := some saved, generatedApps := apps }

/-- Stores the chunks of a bundle. -/
def putBundleChunks (appInstanceId : String) (bundleRevision : ℕ) (encoded : List UInt8) :
    GeneratedAppProgram Unit :=
  .forIndex (Chunked.count GENERATED_APP_CHUNK_SIZE encoded.length) fun index =>
    .perform (.putBundleChunk index) fun storage =>
      storage.setBundleChunk appInstanceId bundleRevision index
        (some (Chunked.chunkAt GENERATED_APP_CHUNK_SIZE encoded index))

/-- Deletes the chunks that a failed publication attempted to put. -/
def deleteNewChunks (appInstanceId : String) (bundleRevision : ℕ) (attempted : List GeneratedAppIO)
    (storage : GeneratedAppStorage) : GeneratedAppStorage :=
  attempted.foldl (fun storage operation =>
    match operation with
    | .putBundleChunk index => storage.setBundleChunk appInstanceId bundleRevision index none
    | _ => storage) storage

/-- Deletes what a failed first publication attempted to put: chunks, and from the first state on
the state and the manifest. -/
def deleteNewKeys (appInstanceId : String) (attempted : List GeneratedAppIO)
    (storage : GeneratedAppStorage) : GeneratedAppStorage :=
  let storage := deleteNewChunks appInstanceId 1 attempted storage
  if .putState ∈ attempted then
    (storage.setState appInstanceId none).setManifest appInstanceId none
  else storage

/-- A request to publish an App. -/
structure GeneratedAppRequest where
  participantId : String
  token : String
  taskRequestId : JsValue
  bundle : JsValue

/-- A request that may be served: its Agent, its Task and its bundle. -/
structure AcceptedPublication where
  agent : RoomParticipant
  taskRequestId : String
  valid : ValidBundle codec

/-- Whether an Agent may publish an App for a Task, and whether the bundle is valid. -/
def authorizePublication (room : RoomRecord) (request : GeneratedAppRequest) :
    Except String (AcceptedPublication codec) := do
  let agent ← room.findAgent request.participantId request.token
  let taskRequestId ← Except.require
    (JsString.nonempty? (request.taskRequestId.asString?.map JsString.trim)) "invalid_task_request"
  let task ← Except.require
    ((buildTaskProjectionIndex room.messages room.participants).tasks.get? taskRequestId)
    "unknown_task_request"
  Except.rejectWhen
    (initialTaskAgentParticipantId task.request room.participants ≠ some agent.id)
    "generated_app_not_authorized"
  let valid ← validateGeneratedRoomAppBundle codec request.bundle
  return { agent, taskRequestId, valid }

variable {codec}

/-- The publication of a new bundle of an App. -/
def GeneratedRoomAppPublication.updated (current : GeneratedRoomAppPublication)
    (valid : ValidBundle codec) : GeneratedRoomAppPublication :=
  { current with
    title := valid.title
    bundleBytes := valid.encoded.length
    bundleRevision := current.bundleRevision + 1
    updatedAt := env.now }

/-- The first publication of an App. -/
def AcceptedPublication.created (accepted : AcceptedPublication codec) (appInstanceId : String) :
    GeneratedRoomAppPublication :=
  { appInstanceId
    taskRequestId := accepted.taskRequestId
    title := accepted.valid.title
    bundleBytes := accepted.valid.encoded.length
    bundleRevision := 1
    stateRevision := 0
    createdAt := env.now
    updatedAt := env.now }

/-- The manifest of a publication. -/
def GeneratedRoomAppPublication.newManifest (publication : GeneratedRoomAppPublication) :
    GeneratedAppManifest :=
  { appInstanceId := publication.appInstanceId
    bundleBytes := publication.bundleBytes
    chunkCount := Chunked.count GENERATED_APP_CHUNK_SIZE publication.bundleBytes
    bundleRevision := some publication.bundleRevision }

/-- Publishes a new bundle of an App. Its chunks are stored under the next revision, and the record
that names them is saved last. -/
def updatePublication (room : RoomRecord) (apps : GeneratedApps)
    (current : GeneratedRoomAppPublication) (accepted : AcceptedPublication codec) :
    GeneratedAppProgram GeneratedRoomAppPublication := do
  let publication := current.updated env accepted.valid
  let previousManifest ← .read .readManifest fun storage => storage.manifest current.appInstanceId
  .tryCatch
    (do
      putBundleChunks current.appInstanceId publication.bundleRevision accepted.valid.encoded
      .perform .putManifest fun storage =>
        storage.setManifest current.appInstanceId (some publication.newManifest)
      saveGeneratedApps env (room.touch env accepted.agent.id) (apps.set publication))
    fun attempted => do
      .perform .restoreManifest fun storage =>
        storage.setManifest current.appInstanceId previousManifest
      .perform .deleteNewKeys
        (deleteNewChunks current.appInstanceId publication.bundleRevision attempted)
      .throw
  .perform .scheduleNextAlarm fun storage => storage
  .perform .broadcast fun storage => storage
  .perform .deleteOldChunks fun storage =>
    storage.deleteOldChunks current.appInstanceId current.bundleRevision
      (Chunked.count GENERATED_APP_CHUNK_SIZE current.bundleBytes)
  pure publication

/-- Publishes the first bundle of an App, with its initial state. -/
def createPublication (appInstanceId : String) (room : RoomRecord) (apps : GeneratedApps)
    (accepted : AcceptedPublication codec) (state : JsValue) :
    GeneratedAppProgram GeneratedRoomAppPublication := do
  let publication := accepted.created env appInstanceId
  .tryCatch
    (do
      putBundleChunks appInstanceId 1 accepted.valid.encoded
      .perform .putState fun storage => storage.setState appInstanceId (some state)
      .perform .putManifest fun storage =>
        storage.setManifest appInstanceId (some publication.newManifest)
      saveGeneratedApps env (room.touch env accepted.agent.id) (apps.set publication))
    fun attempted => do
      .perform .deleteNewKeys (deleteNewKeys appInstanceId attempted)
      .throw
  .perform .scheduleNextAlarm fun storage => storage
  .perform .broadcast fun storage => storage
  pure publication

variable (codec)

/-- Publishes an App for a Task, or a new bundle of the App that the Task has. The id is that of a
new App. -/
def publishGeneratedApp (request : GeneratedAppRequest) (appInstanceId : String) :
    GeneratedAppProgram (Except String GeneratedRoomAppPublication) := do
  match ← loadGeneratedApps env with
  | none => pure (.error "room_expired")
  | some (room, apps) =>
    match authorizePublication codec room request with
    | .error error => pure (.error error)
    | .ok accepted =>
      match apps.values.find? fun app => app.taskRequestId = accepted.taskRequestId with
      | some current =>
        match ← .read .readBundle fun storage => storage.readGeneratedAppBundleBytes current with
        | none => pure (.error "generated_app_unavailable")
        | some existingBundle =>
          if existingBundle = accepted.valid.encoded then pure (.ok current)
          else .ok <$> updatePublication env room apps current accepted
      | none =>
        if MAX_GENERATED_APPS_PER_ROOM ≤ apps.size then pure (.error "generated_app_capacity")
        else
          match validateGeneratedRoomAppState codec (accepted.valid.bundle.get "initialState") with
          | .error error => pure (.error error)
          | .ok state => .ok <$> createPublication env appInstanceId room apps accepted state

/-! ## Shared state -/


/-- Whether a state update exceeds the rate of its sender on the App, and the windows afterwards. -/
def generatedAppStateBudgetExceeded (windows : KeyedMap GeneratedAppStateWindow)
    (participantId appInstanceId : String) (bytes now : ℕ) :
    Bool × KeyedMap GeneratedAppStateWindow :=
  let windows :=
    if MAX_CLIENT_MESSAGE_WINDOWS < windows.size then
      windows.filter fun entry => now < entry.windowStartedAt + GENERATED_APP_STATE_WINDOW_MS
    else windows
  let key := participantId ++ ":" ++ appInstanceId
  let window := ((windows.get? key).filter fun current =>
    now < current.windowStartedAt + GENERATED_APP_STATE_WINDOW_MS).getD
      { key, windowStartedAt := now, count := 0, bytes := 0 }
  if GENERATED_APP_STATE_MAX_MUTATIONS_PER_WINDOW ≤ window.count ∨
      GENERATED_APP_STATE_MAX_BYTES_PER_WINDOW < window.bytes + bytes then (true, windows)
  else (false, windows.set { window with count := window.count + 1, bytes := window.bytes + bytes })

/-- A Human's request to replace the shared state of an App. -/
structure GeneratedAppStateMessage where
  appInstanceId : String
  expectedRevision : JsValue
  state : JsValue
  -- UTF-8 length of the serialized message.
  bytes : Option ℕ

/-- What a state update is answered. -/
inductive GeneratedAppStateAnswer where
  | error (text : String)
  | conflict (revision : ℕ) (state : JsValue)
  | accepted (revision : ℕ)

/-- The next state of an App and the size of the message, if both are within their bounds. -/
def GeneratedAppStateMessage.validState (message : GeneratedAppStateMessage) :
    Option (JsValue × ℕ) := do
  let state ← (validateGeneratedRoomAppState codec message.state).toOption
  let bytes ← message.bytes.filter (· ≤ MAX_GENERATED_APP_UPDATE_BYTES)
  return (state, bytes)

/-- Stores the next state of an App, and then the record with its next revision. The old state is
restored when the record cannot be saved. -/
def writeGeneratedAppState (room : RoomRecord) (apps : GeneratedApps)
    (publication : GeneratedRoomAppPublication) (currentState nextState : JsValue) :
    GeneratedAppProgram Unit := do
  .perform .putState fun storage => storage.setState publication.appInstanceId (some nextState)
  .tryCatch
    (saveGeneratedApps env room (apps.set
      { publication with
        stateRevision := publication.stateRevision + 1
        updatedAt := env.now }))
    fun _ => do
      .perform .restoreState fun storage =>
        storage.setState publication.appInstanceId (some currentState)
      .throw
  .inMemory fun storage => ((), { storage with
    acceptedUpdates := storage.acceptedUpdates ++ [{
      appInstanceId := publication.appInstanceId
      expectedRevision := publication.stateRevision
      revision := publication.stateRevision + 1
      state := nextState }] })

/-- Replaces the shared state of an App, if the sender has seen its last revision. -/
def updateGeneratedAppState (participantId token : String) (message : GeneratedAppStateMessage) :
    GeneratedAppProgram GeneratedAppStateAnswer := do
  match ← loadGeneratedApps env with
  | none => pure (.error "expired")
  | some (room, apps) =>
    match room.findHumanClient participantId token with
    | .error error => pure (.error error)
    | .ok human =>
      match apps.get? message.appInstanceId with
      | none => pure (.error "generated_app_not_found")
      | some publication =>
        match message.expectedRevision.asSafeInteger?.filter (0 ≤ ·) with
        | none => pure (.error "invalid_revision")
        | some expectedRevision =>
          match message.validState codec with
          | none => pure (.error "generated_app_state_invalid")
          | some (nextState, updateBytes) => do
            match ← .read .readState fun storage => storage.state message.appInstanceId with
            | none => pure (.conflict publication.stateRevision (.obj []))
            | some currentState =>
              if publication.stateRevision ≠ expectedRevision then
                pure (.conflict publication.stateRevision currentState)
              else do
                let exceeded ← .inMemory fun storage =>
                  let budget := generatedAppStateBudgetExceeded storage.windows human.id
                    message.appInstanceId updateBytes env.now
                  (budget.1, { storage with windows := budget.2 })
                if exceeded then pure (.error "generated_app_state_rate_limited")
                else do
                  writeGeneratedAppState env (room.touch env human.id) apps publication currentState
                    nextState
                  .perform .broadcast fun storage => storage
                  pure (.accepted (publication.stateRevision + 1))

end Programs

end Free4Chat
