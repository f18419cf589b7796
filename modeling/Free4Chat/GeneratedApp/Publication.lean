import Free4Chat.Collab.Atomicity
import Free4Chat.GeneratedApp.Loading

/-!
# Publishing an App

Whatever operation of a publication throws, every App that is listed afterwards can be read in
full: the bundle that it had, or the new one once the record that names it is saved. There is one
exception. An old bundle is read only while the manifest of its App has no revision. When the save
of an update throws after the new manifest was written, and restoring the old manifest throws too,
the old bundle is listed but can no longer be read.

* `PublishAtomic`: the property of one publication.
* `LosesLegacyBundle`: when it fails.
* `publishAtomic_iff`: it fails in no other case.
-/

namespace Free4Chat

open GeneratedAppStorage

/-! ## The property -/

/-- An App is read as before: its bytes, and what every participant is answered. -/
structure SameReads (codec : JsonCodec) (before after : GeneratedAppStorage)
    (publication : GeneratedRoomAppPublication) : Prop where
  bytes : after.readGeneratedAppBundleBytes publication =
    before.readGeneratedAppBundleBytes publication
  document : ∀ room participantId token,
    after.handleGeneratedAppRead codec room participantId token publication.appInstanceId =
      before.handleGeneratedAppRead codec room participantId token publication.appInstanceId

/-- An App is read with a new bundle: its bytes, and what every Human is answered that may read
it. -/
structure ReadsNew (codec : JsonCodec) (after : GeneratedAppStorage)
    (publication : GeneratedRoomAppPublication) (valid : ValidBundle codec) : Prop where
  bytes : after.readGeneratedAppBundleBytes publication = some valid.encoded
  document : ∀ room participantId token state,
    ((room.findParticipant participantId token "").filter (·.kind = .human)).isSome →
      validateGeneratedRoomAppState codec
        ((after.state publication.appInstanceId).getD .undefined) = .ok state →
      after.handleGeneratedAppRead codec room participantId token publication.appInstanceId =
        .ok { publication, bundle := valid.bundle, state }

/-- A publication is atomic: every App that is listed afterwards was listed and is read as before,
or is new and is read with the new bundle. What is stored in chunks is read back. -/
structure PublishAtomic (codec : JsonCodec) (request : GeneratedAppRequest)
    (before after : GeneratedAppStorage) : Prop where
  listed : ∀ publication ∈ after.publications.values,
    (publication ∈ before.publications.values ∧ SameReads codec before after publication) ∨
      (publication ∉ before.publications.values ∧
        ∃ valid, validateGeneratedRoomAppBundle codec request.bundle = .ok valid ∧
          ReadsNew codec after publication valid)
  roundTrip : ∀ (storage : GeneratedAppStorage) (publication : GeneratedRoomAppPublication)
    (encoded : List UInt8), publication.bundleBytes = encoded.length →
    (∀ index < Chunked.count GENERATED_APP_CHUNK_SIZE encoded.length,
      storage.bundleChunk publication.appInstanceId publication.bundleRevision index =
        some (Chunked.chunkAt GENERATED_APP_CHUNK_SIZE encoded index)) →
    storage.readGeneratedAppBundleBytes publication = some encoded

/-! ## The condition -/

/-- A request that makes the handler write a new bundle of a listed App. -/
structure ReachesUpdate (env : RoomEnv) (codec : JsonCodec) (storage : GeneratedAppStorage)
    (request : GeneratedAppRequest) (fails : GeneratedAppIO → Bool) (room : RoomRecord)
    (current : GeneratedRoomAppPublication) (accepted : AcceptedPublication codec) : Prop where
  loads : Loads env storage fails room
  authorized : authorizePublication codec room request = .ok accepted
  listed : storage.publications.values.find? (fun app =>
    app.taskRequestId = accepted.taskRequestId) = some current
  changed : ∃ bytes, storage.readGeneratedAppBundleBytes current = some bytes ∧
    bytes ≠ accepted.valid.encoded
  reads : fails .readBundle = false ∧ fails .readManifest = false

/-- An update that loses an old bundle. The bundle is stored in old chunks only, the new chunks and
the new manifest are written, the save throws, and so does the restoring of the manifest. -/
structure LosesLegacyBundle (env : RoomEnv) (codec : JsonCodec) (storage : GeneratedAppStorage)
    (request : GeneratedAppRequest) (fails : GeneratedAppIO → Bool) (room : RoomRecord)
    (current : GeneratedRoomAppPublication) (accepted : AcceptedPublication codec) : Prop where
  reaches : ReachesUpdate env codec storage request fails room current accepted
  legacy : Chunked.collect GENERATED_APP_CHUNK_SIZE current.bundleBytes
    (storage.bundleChunk current.appInstanceId current.bundleRevision) = none
  written : fails .putManifest = false ∧
    ∀ index < Chunked.count GENERATED_APP_CHUNK_SIZE accepted.valid.encoded.length,
      fails (.putBundleChunk index) = false
  unsaved : (room.touch env accepted.agent.id).saveRoom env = none ∨ fails .saveRoom = true
  unrestored : fails .restoreManifest = true

/-! ## Reading -/

section Reading

variable {codec : JsonCodec} {before after storage : GeneratedAppStorage}
  {publication : GeneratedRoomAppPublication}

lemma get?_publications (h : publication ∈ storage.publications.values) :
    storage.publications.get? publication.appInstanceId = some publication :=
  KeyedMap.get?_key h

lemma SameReads.of_bytes (hbefore : publication ∈ before.publications.values)
    (hafter : publication ∈ after.publications.values)
    (hbytes : after.readGeneratedAppBundleBytes publication =
      before.readGeneratedAppBundleBytes publication)
    (hstate : after.state publication.appInstanceId = before.state publication.appInstanceId) :
    SameReads codec before after publication := by
  refine ⟨hbytes, fun room participantId token => ?_⟩
  unfold handleGeneratedAppRead
  rw [get?_publications hbefore, get?_publications hafter, hstate]
  refine bind_congr fun _ => Except.require_bind_congr fun found hfound => ?_
  obtain rfl := Option.some.inj (Option.filter_eq_some_iff.mp hfound).1
  rw [hbytes]

lemma readGeneratedAppBundleBytes_of_chunks {encoded : List UInt8}
    (hbytes : publication.bundleBytes = encoded.length)
    (hchunks : ∀ index < Chunked.count GENERATED_APP_CHUNK_SIZE encoded.length,
      storage.bundleChunk publication.appInstanceId publication.bundleRevision index =
        some (Chunked.chunkAt GENERATED_APP_CHUNK_SIZE encoded index)) :
    storage.readGeneratedAppBundleBytes publication = some encoded := by
  unfold GeneratedAppStorage.readGeneratedAppBundleBytes
  rw [hbytes, Chunked.collect_chunkAt (by decide) hchunks, Option.some_or]

lemma isGeneratedAppId_of_mem (h : publication ∈ storage.publications.values) :
    isGeneratedAppId publication.appInstanceId = true := by
  unfold publications at h
  split at h
  · exact absurd h List.not_mem_nil
  · have hvalid := (mem_normalizeGeneratedApps h).2
    simp only [validGeneratedAppPublication, Bool.and_eq_true] at hvalid
    exact hvalid.1.1.1.1.1.1.1

lemma ReadsNew.of_bytes (hcodec : codec.RoundTrips) {valid : ValidBundle codec}
    (hlisted : publication ∈ after.publications.values)
    (hbytes : after.readGeneratedAppBundleBytes publication = some valid.encoded) :
    ReadsNew codec after publication valid := by
  refine ⟨hbytes, fun room participantId token state hhuman hstate => ?_⟩
  obtain ⟨human, hhuman⟩ := Option.isSome_iff_exists.mp hhuman
  have hid := isGeneratedAppId_of_mem hlisted
  simp only [handleGeneratedAppRead, readDocument, Except.bind_eq_ok, Except.require_eq_ok,
    Except.toOption_eq_some, Except.pure_eq_ok]
  refine ⟨human, hhuman, publication, ?_, valid.encoded, hbytes, valid.bundle,
    hcodec _ _ valid.stringify, valid, validateGeneratedRoomAppBundle_bundle valid, state, hstate,
    rfl⟩
  rw [get?_publications hlisted, Option.filter_some, if_pos hid]

end Reading

section Programs

variable {env : RoomEnv} {codec : JsonCodec} {fails : GeneratedAppIO → Bool}
  {storage : GeneratedAppStorage}

lemma validate_of_authorizePublication {room : RoomRecord} {request : GeneratedAppRequest}
    {accepted : AcceptedPublication codec}
    (h : authorizePublication codec room request = .ok accepted) :
    validateGeneratedRoomAppBundle codec request.bundle = .ok accepted.valid := by
  simp only [authorizePublication, Except.bind_eq_ok, Except.pure_eq_ok] at h
  obtain ⟨_, _, _, _, _, _, _, _, valid, hvalid, rfl⟩ := h
  exact hvalid

/-! ## What an operation lists -/

/-- Every App that is listed afterwards was listed and is read as before, or is new and is read
with the new bundle. -/
def AtomicListing (codec : JsonCodec) (request : GeneratedAppRequest)
    (before after : GeneratedAppStorage) : Prop :=
  ∀ publication ∈ after.publications.values,
    (publication ∈ before.publications.values ∧ SameReads codec before after publication) ∨
      (publication ∉ before.publications.values ∧
        ∃ valid, validateGeneratedRoomAppBundle codec request.bundle = .ok valid ∧
          ReadsNew codec after publication valid)

lemma GeneratedAppStorage.Reloaded.atomicListing {before after : GeneratedAppStorage}
    {request : GeneratedAppRequest} (h : Reloaded before after) :
    AtomicListing codec request before after := by
  intro publication hmem
  obtain ⟨hbefore, hsame⟩ := h.listed hmem
  exact Or.inl ⟨hbefore, .of_bytes hbefore hmem hsame.readGeneratedAppBundleBytes hsame.state⟩

lemma AtomicListing.publishAtomic {before after : GeneratedAppStorage}
    {request : GeneratedAppRequest} (h : AtomicListing codec request before after) :
    PublishAtomic codec request before after :=
  ⟨h, fun _ _ _ hbytes hchunks => readGeneratedAppBundleBytes_of_chunks hbytes hchunks⟩

/-- Before its save, an update changes the chunks of the next revision and the manifest only. -/
structure Updating (current : GeneratedRoomAppPublication) (before s : GeneratedAppStorage) :
    Prop where
  listed : ∀ publication ∈ s.publications.values, publication ∈ before.publications.values
  others : ∀ appInstanceId, appInstanceId ≠ current.appInstanceId →
    SameApp appInstanceId before s
  bundleChunk : s.bundleChunk current.appInstanceId current.bundleRevision =
    before.bundleChunk current.appInstanceId current.bundleRevision
  legacyChunk : s.legacyChunk current.appInstanceId = before.legacyChunk current.appInstanceId
  state : s.state current.appInstanceId = before.state current.appInstanceId

namespace Updating

variable {current : GeneratedRoomAppPublication} {before s : GeneratedAppStorage}

lemma of_kept (h : Kept before s) : Updating current before s :=
  ⟨fun _ hmem => h.listed ▸ hmem, fun id _ => h.apps id, by rw [(h.apps _).bundleChunk], (h.apps _).legacyChunk,
    (h.apps _).state⟩

section

variable (h : Updating current before s)
include h

lemma setBundleChunk (index : ℕ) (chunk : Option (List UInt8)) : Updating current before
      (s.setBundleChunk current.appInstanceId (current.bundleRevision + 1) index chunk) := by
  refine ⟨h.listed, fun id hne => (h.others id hne).trans ⟨?_, rfl, rfl, rfl⟩, ?_,
    h.legacyChunk, h.state⟩
  · funext revision i
    simp [GeneratedAppStorage.setBundleChunk, hne]
  · rw [← h.bundleChunk]
    funext i
    simp [GeneratedAppStorage.setBundleChunk]

lemma setManifest (manifest : Option GeneratedAppManifest) :
    Updating current before (s.setManifest current.appInstanceId manifest) := by
  refine ⟨h.listed, fun id hne => (h.others id hne).trans ⟨rfl, rfl, ?_, rfl⟩, h.bundleChunk,
    h.legacyChunk, h.state⟩
  simp [GeneratedAppStorage.setManifest, hne]

lemma deleteNewChunks (attempted : List GeneratedAppIO) :
    Updating current before (deleteNewChunks current.appInstanceId (current.bundleRevision + 1)
      attempted s) :=
  deleteNewChunks_keeps attempted h fun _ index hs => hs.setBundleChunk index none

lemma atomicListing {request : GeneratedAppRequest}
    (hcurrent : current ∈ before.publications.values)
    (hmanifest : s.manifest current.appInstanceId = before.manifest current.appInstanceId ∨
      (Chunked.collect GENERATED_APP_CHUNK_SIZE current.bundleBytes
        (before.bundleChunk current.appInstanceId current.bundleRevision)).isSome) :
    AtomicListing codec request before s := by
  intro publication hmem
  have hbefore := h.listed publication hmem
  refine Or.inl ⟨hbefore, ?_⟩
  by_cases hid : publication.appInstanceId = current.appInstanceId
  · obtain rfl := KeyedMap.eq_of_key_eq _ hbefore hcurrent hid
    refine .of_bytes hbefore hmem ?_ h.state
    unfold GeneratedAppStorage.readGeneratedAppBundleBytes
    rw [h.bundleChunk, h.legacyChunk]
    rcases hmanifest with hmanifest | hrevisioned
    · rw [hmanifest]
    · obtain ⟨bytes, hbytes⟩ := Option.isSome_iff_exists.mp hrevisioned
      rw [hbytes, Option.some_or, Option.some_or]
  · have hsame := h.others _ hid
    exact .of_bytes hbefore hmem hsame.readGeneratedAppBundleBytes hsame.state

end

end Updating

/-- Once it is saved, a publication is listed in the place of an old one, and its chunks are
stored. -/
structure Published (publication : GeneratedRoomAppPublication) (encoded : List UInt8)
    (before s : GeneratedAppStorage) : Prop where
  listed : ∀ other ∈ s.publications.values, other = publication ∨
    (other ∈ before.publications.values ∧ other.appInstanceId ≠ publication.appInstanceId)
  others : ∀ appInstanceId, appInstanceId ≠ publication.appInstanceId →
    SameApp appInstanceId before s
  chunks : ∀ index < Chunked.count GENERATED_APP_CHUNK_SIZE encoded.length,
    s.bundleChunk publication.appInstanceId publication.bundleRevision index =
      some (Chunked.chunkAt GENERATED_APP_CHUNK_SIZE encoded index)

lemma Published.atomicListing {publication : GeneratedRoomAppPublication}
    {before s : GeneratedAppStorage} {request : GeneratedAppRequest} {valid : ValidBundle codec}
    (hcodec : codec.RoundTrips) (h : Published publication valid.encoded before s)
    (hnew : publication ∉ before.publications.values)
    (hbytes : publication.bundleBytes = valid.encoded.length)
    (hvalid : validateGeneratedRoomAppBundle codec request.bundle = .ok valid) :
    AtomicListing codec request before s := by
  intro other hmem
  rcases h.listed other hmem with rfl | ⟨hbefore, hid⟩
  · exact Or.inr ⟨hnew, valid, hvalid,
      .of_bytes hcodec hmem (readGeneratedAppBundleBytes_of_chunks hbytes h.chunks)⟩
  · have hsame := h.others _ hid
    exact Or.inl ⟨hbefore, .of_bytes hbefore hmem hsame.readGeneratedAppBundleBytes hsame.state⟩

/-! ## Writing -/

/-- The chunks of a bundle below an index are stored. -/
def ChunksBelow (appInstanceId : String) (bundleRevision : ℕ) (encoded : List UInt8)
    (fails : GeneratedAppIO → Bool) (n : ℕ) (s : GeneratedAppStorage) : Prop :=
  ∀ index < n, fails (.putBundleChunk index) = false ∧
    s.bundleChunk appInstanceId bundleRevision index =
      some (Chunked.chunkAt GENERATED_APP_CHUNK_SIZE encoded index)

lemma meets_putBundleChunks {appInstanceId : String} {bundleRevision : ℕ}
    {encoded : List UInt8} {P threw : GeneratedAppStorage → Prop} (h : P storage)
    (hput : ∀ s index chunk, P s → P (s.setBundleChunk appInstanceId bundleRevision index chunk))
    (hthrew : ∀ s, ∀ index < Chunked.count GENERATED_APP_CHUNK_SIZE encoded.length, P s →
      fails (.putBundleChunk index) = true → threw s) :
    (putBundleChunks appInstanceId bundleRevision encoded fails storage).Meets Any
      (fun _ s => P s ∧ ChunksBelow appInstanceId bundleRevision encoded fails
        (Chunked.count GENERATED_APP_CHUNK_SIZE encoded.length) s) threw := by
  refine .forIndex (L := fun n s => P s ∧
    ChunksBelow appInstanceId bundleRevision encoded fails n s) _
      ⟨h, fun _ hlt => absurd hlt (Nat.not_lt_zero _)⟩ ?_
  rintro n s hn ⟨hs, hbelow⟩
  refine .perform (hthrew s n hn hs) fun hfails => ⟨trivial, hput s n _ hs, fun index hindex => ?_⟩
  by_cases hlast : index = n
  · subst hlast
    exact ⟨hfails, by simp [setBundleChunk]⟩
  · obtain ⟨hbefore, hchunk⟩ := hbelow index (by omega)
    exact ⟨hbefore, by simpa [setBundleChunk, hlast] using hchunk⟩

section Update

variable {before : GeneratedAppStorage} {room : RoomRecord} {request : GeneratedAppRequest}
  {current : GeneratedRoomAppPublication} {accepted : AcceptedPublication codec}

lemma Published.deleteOldChunks {publication : GeneratedRoomAppPublication}
    {encoded : List UInt8} {s : GeneratedAppStorage} (h : Published publication encoded before s)
    {bundleRevision : ℕ} (hrevision : publication.bundleRevision ≠ bundleRevision)
    (chunkCount : ℕ) : Published publication encoded before
      (s.deleteOldChunks publication.appInstanceId bundleRevision chunkCount) := by
  refine ⟨h.listed, fun id hne => (h.others id hne).trans ⟨?_, ?_, rfl, rfl⟩,
    fun index hindex => ?_⟩
  · funext revision i
    simp [GeneratedAppStorage.deleteOldChunks, hne]
  · funext i
    simp [GeneratedAppStorage.deleteOldChunks, hne]
  · rw [← h.chunks index hindex]
    simp [GeneratedAppStorage.deleteOldChunks, hrevision]

/-- An update is atomic, unless an old bundle loses its manifest. -/
lemma meets_updatePublication (hcodec : codec.RoundTrips) (hkept : Kept before storage)
    (hcurrent : current ∈ before.publications.values)
    (hauthorized : authorizePublication codec room request = .ok accepted)
    (hrestores : fails .readManifest = false →
      Chunked.collect GENERATED_APP_CHUNK_SIZE current.bundleBytes
        (before.bundleChunk current.appInstanceId current.bundleRevision) = none →
      (fails .putManifest = false ∧
        ∀ index < Chunked.count GENERATED_APP_CHUNK_SIZE accepted.valid.encoded.length,
          fails (.putBundleChunk index) = false) →
      SaveThrows env fails (room.touch env accepted.agent.id) →
      fails .restoreManifest = false) :
    (updatePublication env room before.publications current accepted fails storage).Meets Any
      (fun _ => AtomicListing codec request before) (AtomicListing codec request before) := by
  have hvalid := validate_of_authorizePublication hauthorized
  have hstart : Updating current before storage := .of_kept hkept
  have hnew : current.updated env accepted.valid ∉ before.publications.values := by
    intro hmem
    have heq := KeyedMap.eq_of_key_eq _ hmem hcurrent rfl
    have hrevision := congrArg GeneratedRoomAppPublication.bundleRevision heq
    exact absurd hrevision (Nat.succ_ne_self _)
  have hpublished : ∀ s, Published (current.updated env accepted.valid) accepted.valid.encoded
      before s → AtomicListing codec request before s := fun s hs =>
    hs.atomicListing hcodec hnew rfl hvalid
  unfold updatePublication
  refine .bind (R := fun manifest s => manifest = before.manifest current.appInstanceId ∧
      s = storage ∧ fails .readManifest = false)
    (.read (fun _ => hstart.atomicListing hcurrent (Or.inl (hkept.apps _).manifest))
      fun hread => ⟨(hkept.apps _).manifest, rfl, hread⟩) ?_
  rintro _ s ⟨rfl, hs, hread⟩
  subst s
  refine .bind (R := fun _ => Published (current.updated env accepted.valid)
    accepted.valid.encoded before) ?_ fun _ s hs => ?_
  · refine .tryCatch (E := fun s => Updating current before s ∧
      (s.manifest current.appInstanceId = before.manifest current.appInstanceId ∨
        (Chunked.collect GENERATED_APP_CHUNK_SIZE current.bundleBytes
          (before.bundleChunk current.appInstanceId current.bundleRevision)).isSome ∨
        fails .restoreManifest = false)) ?_ ?_
    · refine .bind (meets_putBundleChunks (P := fun s => Updating current before s ∧
        s.manifest current.appInstanceId = before.manifest current.appInstanceId)
          ⟨hstart, (hkept.apps _).manifest⟩
          (fun s index chunk hs => ⟨hs.1.setBundleChunk index chunk, hs.2⟩)
          fun _ _ _ hs _ => ⟨hs.1, Or.inl hs.2⟩) ?_
      rintro _ s ⟨⟨hs, hmanifest⟩, hchunks⟩
      refine .bind (R := fun _ s => Updating current before s ∧ fails .putManifest = false ∧
        ChunksBelow current.appInstanceId (current.bundleRevision + 1) accepted.valid.encoded fails
          (Chunked.count GENERATED_APP_CHUNK_SIZE accepted.valid.encoded.length) s) ?_ ?_
      · exact .perform (fun _ => ⟨hs, Or.inl hmanifest⟩) fun hput =>
          ⟨trivial, hs.setManifest _, hput, hchunks⟩
      · rintro _ s ⟨hs, hput, hchunks⟩
        refine meets_saveGeneratedApps (fun hthrows => ⟨hs, Or.inr ?_⟩) fun _ saved => ?_
        · cases hcollect : Chunked.collect GENERATED_APP_CHUNK_SIZE current.bundleBytes
            (before.bundleChunk current.appInstanceId current.bundleRevision) with
          | some bytes => exact Or.inl rfl
          | none => exact Or.inr (hrestores hread hcollect
              ⟨hput, fun index hindex => (hchunks index hindex).1⟩ hthrows)
        · refine ⟨fun other hmem => listed_of_saved rfl rfl hmem, fun id hne => ?_,
            fun index hindex => (hchunks index hindex).2⟩
          have hother := hs.others id hne
          exact ⟨hother.bundleChunk, hother.legacyChunk, hother.manifest, hother.state⟩
    · rintro attempted s ⟨hs, hmanifest⟩
      refine .bind (R := fun _ s => Updating current before s ∧
        s.manifest current.appInstanceId = before.manifest current.appInstanceId) ?_ ?_
      · refine .perform (fun hthrows => hs.atomicListing hcurrent ?_) fun _ =>
          ⟨trivial, hs.setManifest _, by simp [GeneratedAppStorage.setManifest]⟩
        rcases hmanifest with hmanifest | hrevisioned | hrestored
        · exact Or.inl hmanifest
        · exact Or.inr hrevisioned
        · exact nomatch hthrows.symm.trans hrestored
      · rintro _ s ⟨hs, hmanifest⟩
        refine .bind (R := fun _ => AtomicListing codec request before) ?_ fun _ _ hs => .throw hs
        refine .perform (fun _ => hs.atomicListing hcurrent (Or.inl hmanifest)) fun _ =>
          ⟨trivial, (hs.deleteNewChunks attempted).atomicListing hcurrent (Or.inl ?_)⟩
        exact deleteNewChunks_keeps (P := fun s => s.manifest current.appInstanceId =
          before.manifest current.appInstanceId) attempted hmanifest fun _ _ hs => hs
  · refine .bind (.perform (Q := fun _ => Published (current.updated env accepted.valid)
      accepted.valid.encoded before) (fun _ => hpublished s hs) fun _ => ⟨trivial, hs⟩) ?_
    intro _ s hs
    refine .bind (.perform (Q := fun _ => Published (current.updated env accepted.valid)
      accepted.valid.encoded before) (fun _ => hpublished s hs) fun _ => ⟨trivial, hs⟩) ?_
    intro _ s hs
    refine .bind (.perform (Q := fun _ => Published (current.updated env accepted.valid)
      accepted.valid.encoded before) (fun _ => hpublished s hs) fun _ => ⟨trivial, ?_⟩) ?_
    · exact hs.deleteOldChunks (Nat.succ_ne_self _) _
    · exact fun _ s hs => .pure (hpublished s hs)

end Update

/-! ## A first publication -/

section Create

variable {before : GeneratedAppStorage} {room : RoomRecord} {request : GeneratedAppRequest}
  {accepted : AcceptedPublication codec} {appInstanceId : String}

/-- Before its save, a first publication changes what is stored of the new App only. -/
structure Creating (appInstanceId : String) (before s : GeneratedAppStorage) : Prop where
  listed : ∀ publication ∈ s.publications.values, publication ∈ before.publications.values
  others : ∀ other, other ≠ appInstanceId → SameApp other before s

namespace Creating

variable {s : GeneratedAppStorage}

section

variable (h : Creating appInstanceId before s)
include h

lemma setBundleChunk (index : ℕ) (chunk : Option (List UInt8)) :
    Creating appInstanceId before (s.setBundleChunk appInstanceId 1 index chunk) := by
  refine ⟨h.listed, fun id hne => (h.others id hne).trans ⟨?_, rfl, rfl, rfl⟩⟩
  funext revision i
  simp [GeneratedAppStorage.setBundleChunk, hne]

lemma setState (state : Option JsValue) :
    Creating appInstanceId before (s.setState appInstanceId state) := by
  refine ⟨h.listed, fun id hne => (h.others id hne).trans ⟨rfl, rfl, rfl, ?_⟩⟩
  simp [GeneratedAppStorage.setState, hne]

lemma setManifest (manifest : Option GeneratedAppManifest) :
    Creating appInstanceId before (s.setManifest appInstanceId manifest) := by
  refine ⟨h.listed, fun id hne => (h.others id hne).trans ⟨rfl, rfl, ?_, rfl⟩⟩
  simp [GeneratedAppStorage.setManifest, hne]

lemma deleteNewKeys (attempted : List GeneratedAppIO) :
    Creating appInstanceId before (deleteNewKeys appInstanceId attempted s) := by
  have hchunks : Creating appInstanceId before
      (deleteNewChunks appInstanceId 1 attempted s) :=
    deleteNewChunks_keeps attempted h fun _ index hs => hs.setBundleChunk index none
  unfold Free4Chat.deleteNewKeys
  dsimp only
  split
  · exact (hchunks.setState none).setManifest none
  · exact hchunks

lemma atomicListing (hfresh : before.publications.get? appInstanceId = none) :
    AtomicListing codec request before s := by
  intro publication hmem
  have hbefore := h.listed publication hmem
  have hsame := h.others _ (KeyedMap.get?_eq_none_iff.mp hfresh publication hbefore)
  exact Or.inl ⟨hbefore, .of_bytes hbefore hmem hsame.readGeneratedAppBundleBytes hsame.state⟩

end

end Creating

lemma meets_createPublication (hcodec : codec.RoundTrips) (hkept : Kept before storage)
    (hfresh : before.publications.get? appInstanceId = none)
    (hauthorized : authorizePublication codec room request = .ok accepted) {state : JsValue} :
    (createPublication env appInstanceId room before.publications accepted state fails
      storage).Meets Any (fun _ => AtomicListing codec request before)
      (AtomicListing codec request before) := by
  have hstart : Creating appInstanceId before storage :=
    ⟨fun _ hmem => hkept.listed ▸ hmem, fun id _ => hkept.apps id⟩
  have hcreating : ∀ s, Creating appInstanceId before s → AtomicListing codec request before s :=
    fun _ hs => hs.atomicListing hfresh
  unfold createPublication
  generalize hpublication : accepted.created env appInstanceId = publication
  have hid : publication.appInstanceId = appInstanceId := by rw [← hpublication]; rfl
  have hrevision : publication.bundleRevision = 1 := by rw [← hpublication]; rfl
  have hnew : publication ∉ before.publications.values := fun hmem =>
    KeyedMap.get?_eq_none_iff.mp hfresh publication hmem hid
  have hpublished : ∀ s, Published publication accepted.valid.encoded before s →
      AtomicListing codec request before s := fun s hs =>
    hs.atomicListing hcodec hnew (by rw [← hpublication]; rfl)
      (validate_of_authorizePublication hauthorized)
  refine .bind (R := fun _ => Published publication accepted.valid.encoded before) ?_
    fun _ s hs => ?_
  · refine .tryCatch (E := Creating appInstanceId before) ?_ fun attempted s hs => ?_
    · refine .bind (meets_putBundleChunks (P := Creating appInstanceId before) hstart
        (fun s index chunk hs => hs.setBundleChunk index chunk) fun _ _ _ hs _ => hs) ?_
      rintro _ s ⟨hs, hchunks⟩
      refine .bind (R := fun _ s => Creating appInstanceId before s ∧
        ChunksBelow appInstanceId 1 accepted.valid.encoded fails
          (Chunked.count GENERATED_APP_CHUNK_SIZE accepted.valid.encoded.length) s)
        (.perform (fun _ => hs) fun _ => ⟨trivial, hs.setState _, hchunks⟩) ?_
      rintro _ s ⟨hs, hchunks⟩
      refine .bind (R := fun _ s => Creating appInstanceId before s ∧
        ChunksBelow appInstanceId 1 accepted.valid.encoded fails
          (Chunked.count GENERATED_APP_CHUNK_SIZE accepted.valid.encoded.length) s)
        (.perform (fun _ => hs) fun _ => ⟨trivial, hs.setManifest _, hchunks⟩) ?_
      rintro _ s ⟨hs, hchunks⟩
      refine meets_saveGeneratedApps (fun _ => hs) fun _ saved => ?_
      refine ⟨fun other hmem => listed_of_saved rfl rfl hmem, fun id hne => ?_,
        fun index hindex => ?_⟩
      · have hother := hs.others id (hid ▸ hne)
        exact ⟨hother.bundleChunk, hother.legacyChunk, hother.manifest, hother.state⟩
      · rw [hid, hrevision]
        exact (hchunks index hindex).2
    · refine .bind (R := fun _ => AtomicListing codec request before) ?_ fun _ _ hs => .throw hs
      exact .perform (fun _ => hcreating s hs) fun _ =>
        ⟨trivial, hcreating _ (hs.deleteNewKeys attempted)⟩
  · refine .bind (.perform (Q := fun _ => Published publication accepted.valid.encoded before)
      (fun _ => hpublished s hs) fun _ => ⟨trivial, hs⟩) fun _ s hs => ?_
    refine .bind (.perform (Q := fun _ => Published publication accepted.valid.encoded before)
      (fun _ => hpublished s hs) fun _ => ⟨trivial, hs⟩) fun _ s hs => ?_
    exact .pure (hpublished s hs)

end Create

/-! ## The whole operation -/

section Publish

variable {request : GeneratedAppRequest} {appInstanceId : String}

lemma meets_publishGeneratedApp (hcodec : codec.RoundTrips)
    (hfresh : storage.publications.get? appInstanceId = none) (hkeeps : ∀ room current accepted,
      ¬LosesLegacyBundle env codec storage request fails room current accepted) :
    (publishGeneratedApp env codec request appInstanceId fails storage).Meets Any
      (fun _ => AtomicListing codec request storage) (AtomicListing codec request storage) := by
  unfold publishGeneratedApp
  refine .bind ((meets_loadGeneratedApps).mono (fun _ h => h) (fun _ _ h => h)
    fun _ h => h.atomicListing) ?_
  rintro loaded s ⟨hreloaded, hloaded⟩
  have hsame : AtomicListing codec request storage s := hreloaded.atomicListing
  cases loaded with
  | none => exact .pure hsame
  | some loaded =>
    obtain ⟨room, apps⟩ := loaded
    obtain ⟨hkept, rfl, hloads⟩ := hloaded room apps rfl
    dsimp only
    cases hauthorized : authorizePublication codec room request with
    | error error => exact .pure hsame
    | ok accepted =>
      dsimp only
      cases hfind : storage.publications.values.find? (fun app =>
        app.taskRequestId = accepted.taskRequestId) with
      | some current =>
        dsimp only
        refine .bind (R := fun existing s' => existing = s.readGeneratedAppBundleBytes current ∧
          s' = s ∧ fails .readBundle = false) (.read (fun _ => hsame) fun h => ⟨rfl, rfl, h⟩) ?_
        rintro _ s' ⟨rfl, hs', hreadBundle⟩
        subst s'
        rw [(hkept.apps _).readGeneratedAppBundleBytes]
        cases hexisting : storage.readGeneratedAppBundleBytes current with
        | none => exact .pure hsame
        | some existingBundle =>
          by_cases hidentical : existingBundle = accepted.valid.encoded
          · simp only [hidentical, if_true]
            exact .pure hsame
          · simp only [hidentical, if_false]
            refine .map (meets_updatePublication hcodec hkept
              (List.mem_of_find?_eq_some hfind) hauthorized ?_)
            intro hreadManifest hlegacy hwritten hunsaved
            by_contra hrestored
            exact hkeeps room current accepted
              ⟨⟨hloads, hauthorized, hfind, ⟨_, hexisting, hidentical⟩, hreadBundle,
                hreadManifest⟩, hlegacy, hwritten, hunsaved, by simpa using hrestored⟩
      | none =>
        dsimp only
        by_cases hfull : MAX_GENERATED_APPS_PER_ROOM ≤ storage.publications.size
        · simp only [hfull, if_true]
          exact .pure hsame
        · simp only [hfull, if_false]
          cases validateGeneratedRoomAppState codec
            (accepted.valid.bundle.get "initialState") with
          | error error => exact .pure hsame
          | ok state => exact .map (meets_createPublication hcodec hkept hfresh hauthorized)

end Publish

/-! ## The loss of an old bundle -/

section Loss

variable {before : GeneratedAppStorage} {room : RoomRecord} {request : GeneratedAppRequest}
  {current : GeneratedRoomAppPublication} {accepted : AcceptedPublication codec}
  {appInstanceId : String}

/-- The App is still listed, but its bundle cannot be read. -/
def Unreadable (current : GeneratedRoomAppPublication) (s : GeneratedAppStorage) : Prop :=
  current ∈ s.publications.values ∧ s.readGeneratedAppBundleBytes current = none

lemma Updating.unreadable {s : GeneratedAppStorage} (h : Updating current before s)
    (hlisted : current ∈ s.publications.values)
    (hlegacy : Chunked.collect GENERATED_APP_CHUNK_SIZE current.bundleBytes
      (before.bundleChunk current.appInstanceId current.bundleRevision) = none)
    {manifest : GeneratedAppManifest} (hmanifest : s.manifest current.appInstanceId = some manifest)
    (hrevision : manifest.bundleRevision.isSome) : Unreadable current s := by
  refine ⟨hlisted, ?_⟩
  unfold GeneratedAppStorage.readGeneratedAppBundleBytes
  rw [h.bundleChunk, hlegacy, hmanifest, Option.bind_some, Option.none_or, if_neg]
  rintro ⟨hnone, -⟩
  rw [Option.isNone_iff_eq_none.mp hnone] at hrevision
  cases hrevision

lemma meets_updatePublication_loses (hkept : Kept before storage)
    (hcurrent : current ∈ before.publications.values)
    (hloses : LosesLegacyBundle env codec before request fails room current accepted) :
    (updatePublication env room before.publications current accepted fails storage).Meets Any
      (fun _ _ => False) (Unreadable current) := by
  have hstart : Updating current before storage := .of_kept hkept
  have hlisted : current ∈ storage.publications.values := hkept.listed ▸ hcurrent
  unfold updatePublication
  refine .bind (R := fun _ s => s = storage)
    (.read (fun hthrows => nomatch hloses.reaches.reads.2.symm.trans hthrows) fun _ => rfl) ?_
  rintro _ s rfl
  refine .bind (R := fun _ _ => False) ?_ fun _ _ hfalse => hfalse.elim
  refine .tryCatch (E := Unreadable current) ?_ ?_
  · refine .bind (meets_putBundleChunks (P := fun s => Updating current before s ∧
      current ∈ s.publications.values) ⟨hstart, hlisted⟩
        (fun s index chunk hs => ⟨hs.1.setBundleChunk index chunk, hs.2⟩)
        fun _ index hindex _ hthrows =>
          nomatch (hloses.written.2 index hindex).symm.trans hthrows) ?_
    rintro _ s ⟨⟨hs, hlisted⟩, -⟩
    refine .bind (R := fun _ => Unreadable current) ?_ fun _ s hs => ?_
    · have hwritten : (s.setManifest current.appInstanceId
          (some (current.updated env accepted.valid).newManifest)).manifest current.appInstanceId =
          some (current.updated env accepted.valid).newManifest := by
        simp [GeneratedAppStorage.setManifest]
      refine .perform (fun hthrows => nomatch hloses.written.1.symm.trans hthrows) fun _ => ?_
      exact ⟨trivial, (hs.setManifest _).unreadable hlisted hloses.legacy hwritten rfl⟩
    · exact meets_saveGeneratedApps (fun _ => hs) fun hsaves _ => hsaves hloses.unsaved
  · intro attempted s hs
    refine .bind (R := fun _ _ => False) ?_ fun _ _ hfalse => hfalse.elim
    exact .perform (fun _ => hs) fun hrestores => nomatch hrestores.symm.trans hloses.unrestored

lemma meets_publishGeneratedApp_loses
    (hloses : LosesLegacyBundle env codec storage request fails room current accepted) :
    (publishGeneratedApp env codec request appInstanceId fails storage).Meets Any
      (fun _ _ => False) (Unreadable current) := by
  obtain ⟨hloads, hauthorized, hfind, ⟨bytes, hbytes, hne⟩, hreadBundle, -⟩ := id hloses.reaches
  unfold publishGeneratedApp
  refine .bind ((meets_loadGeneratedApps_of_loads hloads).mono (fun _ h => h) (fun _ _ h => h)
    fun _ h => h.elim) ?_
  rintro _ s ⟨rfl, hkept⟩
  dsimp only
  rw [hauthorized]
  dsimp only
  rw [hfind]
  dsimp only
  refine .bind (R := fun existing s' => existing = some bytes ∧ s' = s)
    (.read (fun hthrows => nomatch hreadBundle.symm.trans hthrows)
      fun _ => ⟨((hkept.apps _).readGeneratedAppBundleBytes).trans hbytes, rfl⟩) ?_
  rintro _ s' ⟨rfl, rfl⟩
  simp only [hne, if_false]
  exact .map (meets_updatePublication_loses hkept (List.mem_of_find?_eq_some hfind) hloses)

end Loss

end Programs

/-! ## The result -/

lemma LosesLegacyBundle.not_publishAtomic {env : RoomEnv} {codec : JsonCodec}
    {storage : GeneratedAppStorage} {request : GeneratedAppRequest} {appInstanceId : String}
    {fails : GeneratedAppIO → Bool} {room : RoomRecord} {current : GeneratedRoomAppPublication}
    {accepted : AcceptedPublication codec}
    (hloses : LosesLegacyBundle env codec storage request fails room current accepted) :
    ¬PublishAtomic codec request storage
      (publishGeneratedApp env codec request appInstanceId fails storage).state := by
  intro hatomic
  have hmeets : (publishGeneratedApp env codec request appInstanceId fails storage).Meets Any
      (fun _ _ => False) (Unreadable current) := meets_publishGeneratedApp_loses hloses
  obtain ⟨hlisted, hnone⟩ := (hmeets.mono (fun _ h => h) (fun _ _ h => h.elim)
    fun _ h => h : FaultyOutcome.Meets _ Any (fun _ => Unreadable current) _).final
  obtain ⟨bytes, hbytes, -⟩ := hloses.reaches.changed
  rcases hatomic.listed current hlisted with ⟨-, hsame⟩ | ⟨hnew, -⟩
  · exact nomatch (hnone.symm.trans hsame.bytes).trans hbytes
  · exact hnew (List.mem_of_find?_eq_some hloses.reaches.listed)

/-- Whatever operations of a publication throw, it is atomic exactly when it is not an update that
loses an old bundle. -/
theorem publishAtomic_iff (env : RoomEnv) (codec : JsonCodec) (storage : GeneratedAppStorage)
    (request : GeneratedAppRequest) (appInstanceId : String) (fails : GeneratedAppIO → Bool)
    (hcodec : codec.RoundTrips) (hfresh : storage.publications.get? appInstanceId = none) :
    PublishAtomic codec request storage
        (publishGeneratedApp env codec request appInstanceId fails storage).state ↔
      ∀ room current accepted,
        ¬LosesLegacyBundle env codec storage request fails room current accepted :=
  ⟨fun hatomic _ _ _ hloses => hloses.not_publishAtomic hatomic,
    fun hkeeps => (meets_publishGeneratedApp hcodec hfresh hkeeps).final.publishAtomic⟩

/-! ## The App of a poll -/

/-- The bundle of a poll. -/
def pollBundle : JsValue :=
  .obj [("version", .int 1),
    ("manifest", .obj [("title", .str "Poll"), ("networkOrigins", .arr [])]),
    ("html", .str "<p>1</p>"), ("css", .str "p"), ("js", .str "1"), ("initialState", .obj [])]

/-- The JSON text of the bundle of the poll. -/
def pollText : List UInt8 :=
  ("\x7b\x22version\x22:1,\x22manifest\x22:\x7b\x22title\x22:\x22Poll\x22," ++
    "\x22networkOrigins\x22:[]\x7d,\x22html\x22:\x22<p>1</p>\x22,\x22css\x22:\x22p\x22," ++
    "\x22js\x22:\x221\x22,\x22initialState\x22:\x7b\x7d\x7d").toList.map
    fun c => UInt8.ofNat c.toNat

/-- The JSON text of the state of the poll with one vote. -/
def voteText : List UInt8 :=
  [0x7B, 0x22, 0x76, 0x6F, 0x74, 0x65, 0x73, 0x22, 0x3A, 0x31, 0x7D]

/-- The serialization of the bundle of the poll, of its initial state and of its state with one
vote. -/
def pollCodec : JsonCodec where
  stringify
    | .obj [] => some [0x7B, 0x7D]
    | .obj [("votes", .int 1)] => some voteText
    | .obj [("version", .int 1),
        ("manifest", .obj [("title", .str "Poll"), ("networkOrigins", .arr [])]),
        ("html", .str "<p>1</p>"), ("css", .str "p"), ("js", .str "1"),
        ("initialState", .obj [])] => some pollText
    | _ => none
  parse bytes :=
    if bytes = pollText then some pollBundle
    else if bytes = [0x7B, 0x7D] then some (.obj [])
    else if bytes = voteText then some (.obj [("votes", .int 1)])
    else none

lemma pollCodec_roundTrips : pollCodec.RoundTrips := by
  intro value bytes h
  simp only [pollCodec] at h ⊢
  split at h
  · obtain rfl := Option.some.inj h
    rw [if_neg (by decide +kernel), if_pos rfl]
  · obtain rfl := Option.some.inj h
    rw [if_neg (by decide +kernel), if_neg (by decide +kernel), if_pos rfl]
  · obtain rfl := Option.some.inj h
    rw [if_pos rfl]
    rfl
  · cases h

/-- The valid bundle of the poll. -/
def validPoll : ValidBundle pollCodec :=
  ⟨pollBundle, pollText, by decide +kernel, rfl, by decide +kernel⟩

/-- The Task of making a poll. -/
def pollTask : CollabEvent :=
  { requestId := "task-1"
    kind := .request
    fromParticipantId := "agent-b"
    targetParticipantId := "agent-a" }

/-- A Room with the Task of making a poll. -/
def pollRoom : RoomRecord :=
  { exampleRoom with
    messages := [{ collabMessage (exampleAgent "agent-b") pollTask 1000 with sequence := 1 }]
    nextMessageSequence := 1 }

/-- An old publication of the poll. -/
def oldPoll : GeneratedRoomAppPublication :=
  { appInstanceId := "generated:00000000-0000-4000-8000-000000000001"
    taskRequestId := "task-1"
    title := "Poll"
    bundleBytes := 2
    bundleRevision := 1
    stateRevision := 3
    createdAt := 500
    updatedAt := 500 }

/-- The stored poll, whose bundle is in an old chunk. -/
def pollStorage : GeneratedAppStorage :=
  { room := some pollRoom
    generatedApps := KeyedMap.empty.set oldPoll
    legacyChunk := fun id index =>
      if id = oldPoll.appInstanceId ∧ index = 0 then some [1, 2] else none }

/-- The Agent of the Task publishes the bundle of the poll. -/
def pollRequest : GeneratedAppRequest :=
  { participantId := "agent-a", token := "token", taskRequestId := .str "task-1"
    bundle := pollBundle }

lemma authorize_poll : authorizePublication pollCodec pollRoom pollRequest =
    .ok ⟨exampleAgent "agent-a", "task-1", validPoll⟩ := by
  simp only [authorizePublication, Except.bind_eq_ok, Except.pure_eq_ok, Except.require_eq_ok,
    Except.rejectWhen_eq_ok]
  have htask : (buildTaskProjectionIndex pollRoom.messages pollRoom.participants).tasks.get?
      "task-1" = some (openTask pollRoom.participants
        { collabMessage (exampleAgent "agent-b") pollTask 1000 with sequence := 1 } pollTask) := by
    decide +kernel
  exact ⟨exampleAgent "agent-a", by decide +kernel, "task-1", by decide +kernel, _, htask, (),
    by decide +kernel, validPoll, validateGeneratedRoomAppBundle_bundle validPoll, rfl⟩

/-- An update of the poll in which nothing throws. -/
theorem publishAtomic_iff_poll : PublishAtomic pollCodec pollRequest pollStorage
    (publishGeneratedApp (fixedEnv true) pollCodec pollRequest
      "generated:00000000-0000-4000-8000-000000000002" (fun _ => false) pollStorage).state :=
  (publishAtomic_iff (fixedEnv true) pollCodec pollStorage pollRequest _ _ pollCodec_roundTrips
    (by decide +kernel)).mpr fun _ _ _ hloses => nomatch hloses.unrestored

/-- When the save of an update of the poll throws, and restoring its manifest throws too, the old
bundle of the poll is lost. -/
theorem not_publishAtomic_poll :
    ¬ ∀ env (codec : JsonCodec) storage request appInstanceId fails, codec.RoundTrips →
      storage.publications.get? appInstanceId = none →
        PublishAtomic codec request storage
          (publishGeneratedApp env codec request appInstanceId fails storage).state := by
  intro hall
  have hloses : LosesLegacyBundle (fixedEnv true) pollCodec pollStorage pollRequest
      (fun io => io = .saveRoom ∨ io = .restoreManifest) pollRoom oldPoll
      ⟨exampleAgent "agent-a", "task-1", validPoll⟩ := by
    refine ⟨⟨⟨rfl, ⟨pollRoom, pollRoom, rfl, by decide +kernel, Or.inl ⟨rfl, by decide +kernel⟩⟩,
      by decide +kernel⟩, authorize_poll, by decide +kernel, ⟨[1, 2], ?_, ?_⟩, rfl, rfl⟩,
      by decide +kernel, ⟨rfl, fun _ _ => rfl⟩, Or.inr rfl, rfl⟩ <;> decide +kernel
  exact hloses.not_publishAtomic (hall (fixedEnv true) pollCodec pollStorage pollRequest
    "generated:00000000-0000-4000-8000-000000000002" _ pollCodec_roundTrips (by decide +kernel))

end Free4Chat
