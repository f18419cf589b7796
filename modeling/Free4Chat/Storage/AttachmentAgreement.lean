import Free4Chat.Collab.Atomicity
import Free4Chat.Room.MessageLog
import Free4Chat.Storage.AttachmentStore

/-!
# Attachment Metadata and Bytes

Every entry of the stored list has all of its chunks, in every state that is left in storage, and
an upload that is answered with an error changes nothing that could be listed or read. An upload
breaks both when an operation after its save throws, since its handler deletes the chunks of an
attachment that is listed by then. It also breaks the first one when it saves a list that it
loaded before attachments on it were discarded.

* `AttachmentsAgree`: the property of a reached state.
* `AttachmentCall.Clean`: when an operation keeps it.
* `attachmentsAgree_of_clean`: it holds in every run of such operations.
-/

namespace Free4Chat

namespace AttachmentStorage

/-- Every entry of the stored list has all of its chunks. -/
def Complete (storage : AttachmentStorage) : Prop :=
  ∀ room, storage.room = some room → ∀ attachment ∈ room.attachments,
    ∀ index < attachment.chunkCount, (storage.chunk attachment.id index).isSome

/-- The list is as it was, and so is everything that could be read. -/
structure Unchanged (before after : AttachmentStorage) : Prop where
  listed : after.listed = before.listed
  readable : ∀ attachmentId payload, before.readAttachmentPayload attachmentId = some payload →
    after.readAttachmentPayload attachmentId = some payload

end AttachmentStorage

/-- Metadata and bytes agree: the stored list is complete, and no upload that was answered with an
error changed anything. -/
structure AttachmentsAgree (s : AttachmentStore) : Prop where
  complete : s.storage.Complete
  failures : ∀ failure ∈ s.failures, AttachmentStorage.Unchanged failure.1 failure.2

/-! ## The condition -/

/-- The operations of an upload after its save: it tells the other participants, deletes the
chunks of the attachments that it drops, and schedules the alarm. -/
def AttachmentUpload.AfterCommit (upload : AttachmentUpload) (env : RoomEnv) (id : String)
    (byteLength : ℕ) : AttachmentIO → Prop
  | .broadcast | .scheduleNextAlarm => True
  | .deleteChunk droppedId index =>
    ∃ dropped ∈ upload.evicted env id byteLength,
      dropped.id = droppedId ∧ index < dropped.chunkCount
  | _ => False

/-- The upload saves its record: nothing before the save refuses or throws, nor does the save. -/
structure AttachmentUpload.Commits (upload : AttachmentUpload) (env : RoomEnv) (id : String)
    (bytes : List UInt8) (fails : AttachmentIO → Bool) : Prop where
  valid : ¬upload.invalidBody bytes.length
  stored : ∀ index < (upload.attachment env id bytes.length).chunkCount,
    fails (.putChunk index) = false
  notFull : ¬upload.storeFull
  accepted : ((upload.recorded env id bytes.length).saveRoom env).isSome
  saved : fails .saveRoom = false

/-- A request that finds the Room expired finds no attachment listed. -/
def NothingExpires (env : RoomEnv) (storage : AttachmentStorage) : Prop :=
  ∀ stored room repaired, storage.room = some stored →
    loadRoom env stored = some (room, repaired) → room.isExpired env = true →
      room.attachments = []

/-- The condition on an operation. Once an upload has saved its record none of its operations
throws, and the attachments that it keeps from the Room it loaded are still stored when its body
has been read. No request deletes an expired Room that lists attachments. -/
def AttachmentCall.Clean (s : AttachmentStore) (call : AttachmentCall) : Prop :=
  match call.op with
  | .finishUpload upload id bytes =>
    upload.Commits call.env id bytes call.fails →
      (∀ io, upload.AfterCommit call.env id bytes.length io → call.fails io = false) ∧
        ∀ attachment ∈ (upload.recorded call.env id bytes.length).attachments,
          attachment.id ≠ id → ∀ index < attachment.chunkCount,
            (s.storage.chunk attachment.id index).isSome
  | .save _ => True
  | _ => NothingExpires call.env s.storage

/-! ## States of the storage -/

namespace AttachmentStorage

variable {before after storage : AttachmentStorage}

/-- The stored list is complete and its ids are distinct. -/
structure Sound (storage : AttachmentStorage) : Prop where
  complete : storage.Complete
  distinct : ∀ room, storage.room = some room → (room.attachments.map (·.id)).Nodup

/-- The list and the chunks of everything on it are as they were. -/
structure Kept (before after : AttachmentStorage) : Prop where
  listed : after.listed = before.listed
  chunk : ∀ attachment ∈ before.listed, after.chunk attachment.id = before.chunk attachment.id

/-- Nothing but the chunks of one attachment differs. -/
structure SameBut (id : String) (before after : AttachmentStorage) : Prop where
  room : after.room = before.room
  chunk : ∀ id', id' ≠ id → after.chunk id' = before.chunk id'

variable {attachment : RoomAttachment}

lemma mem_of_listed (h : attachment ∈ storage.listed) :
    ∃ room, storage.room = some room ∧ attachment ∈ room.attachments := by
  unfold listed at h
  split at h
  · exact absurd h List.not_mem_nil
  · rename_i room hroom
    exact ⟨room, hroom, List.mem_of_mem_filter h⟩

lemma Sound.listed_complete (h : storage.Sound) (hlisted : attachment ∈ storage.listed) :
    ∀ index < attachment.chunkCount, (storage.chunk attachment.id index).isSome := by
  obtain ⟨room, hroom, hmem⟩ := mem_of_listed hlisted
  exact h.complete room hroom attachment hmem

lemma Sound.listed_distinct (h : storage.Sound) : (storage.listed.map (·.id)).Nodup := by
  unfold listed
  split
  · exact List.nodup_nil
  · rename_i room hroom
    exact (h.distinct room hroom).sublist (List.filter_sublist.map _)

lemma Kept.refl (storage : AttachmentStorage) : Kept storage storage := ⟨rfl, fun _ _ => rfl⟩

lemma Kept.unchanged (h : Kept before after) : Unchanged before after := by
  refine ⟨h.listed, fun attachmentId payload hread => ?_⟩
  unfold readAttachmentPayload at hread ⊢
  rw [h.listed]
  obtain ⟨attachment, hfind, hchunks⟩ := Option.bind_eq_some_iff.mp hread
  refine Option.bind_eq_some_iff.mpr ⟨attachment, hfind, ?_⟩
  rw [h.chunk attachment (List.mem_of_find?_eq_some hfind)]
  exact hchunks

lemma SameBut.refl (id : String) (storage : AttachmentStorage) : SameBut id storage storage :=
  ⟨rfl, fun _ _ => rfl⟩

lemma SameBut.putChunk {id : String} (h : SameBut id before after) (index : ℕ)
    (bytes : List UInt8) : SameBut id before (after.putChunk id index bytes) :=
  ⟨h.room, fun id' hne => (after.putChunk_chunk_of_ne index bytes hne).trans (h.chunk id' hne)⟩

lemma SameBut.deleteChunk {id : String} (h : SameBut id before after) (index : ℕ) :
    SameBut id before (after.deleteChunk id index) :=
  ⟨h.room, fun id' hne => (after.deleteChunk_chunk_of_ne index hne).trans (h.chunk id' hne)⟩

lemma SameBut.sound {id : String} (h : SameBut id before after) (hsound : before.Sound)
    (hfresh : ∀ room, before.room = some room → ∀ attachment ∈ room.attachments,
      attachment.id ≠ id) : after.Sound := by
  refine ⟨fun room hroom attachment hmem index hindex => ?_, fun room hroom => ?_⟩
  · rw [h.room] at hroom
    rw [h.chunk _ (hfresh room hroom attachment hmem)]
    exact hsound.complete room hroom attachment hmem index hindex
  · exact hsound.distinct room (h.room ▸ hroom)

lemma SameBut.kept {id : String} (h : SameBut id before after)
    (hfresh : ∀ room, before.room = some room → ∀ attachment ∈ room.attachments,
      attachment.id ≠ id) : Kept before after := by
  refine ⟨by simp only [listed, h.room], fun attachment hlisted => ?_⟩
  obtain ⟨room, hroom, hmem⟩ := mem_of_listed hlisted
  exact h.chunk _ (hfresh room hroom attachment hmem)

end AttachmentStorage

open AttachmentStorage

/-! ## Loading -/

variable {stored room repaired : RoomRecord}

lemma attachments_of_loadRoom {env : RoomEnv} (h : loadRoom env stored = some (room, repaired)) :
    room.attachments = stored.attachments.filter validAttachment ∧
      (repaired = stored ∨ repaired = room) := by
  obtain ⟨⟨_, _, rfl⟩, hrepaired⟩ := loadRoom_eq_some h
  exact ⟨rfl, hrepaired⟩

lemma kept_repaired {env : RoomEnv} {storage : AttachmentStorage}
    (hstored : storage.room = some stored) (h : loadRoom env stored = some (room, repaired)) :
    Kept storage { storage with room := some repaired } := by
  refine ⟨?_, fun _ _ => rfl⟩
  obtain ⟨hattachments, rfl | rfl⟩ := attachments_of_loadRoom h
  · simp only [listed, hstored]
  · simp only [listed, hstored, hattachments, List.filter_filter, Bool.and_self]

lemma sound_repaired {env : RoomEnv} {storage : AttachmentStorage} (hsound : storage.Sound)
    (hstored : storage.room = some stored) (h : loadRoom env stored = some (room, repaired)) :
    Sound { storage with room := some repaired } := by
  have hsublist : repaired.attachments.Sublist stored.attachments := by
    obtain ⟨hattachments, rfl | rfl⟩ := attachments_of_loadRoom h
    · exact List.Sublist.refl _
    · rw [hattachments]
      exact List.filter_sublist
  refine ⟨?_, ?_⟩
  · rintro _ ⟨⟩ attachment hmem
    exact hsound.complete stored hstored attachment (hsublist.subset hmem)
  · rintro _ ⟨⟩
    exact (hsound.distinct stored hstored).sublist (hsublist.map _)

/-! ## What the programs guarantee -/

section Programs

variable {env : RoomEnv} {fails : AttachmentIO → Bool} {storage : AttachmentStorage}
  {inv threw : AttachmentStorage → Prop}

lemma meets_deleteAttachmentChunks {name : ℕ → AttachmentIO} {attachment : RoomAttachment}
    {P : AttachmentStorage → Prop} (h : P storage)
    (hdelete : ∀ s index, P s → P (s.deleteChunk attachment.id index)) (hinv : ∀ s, P s → inv s)
    (hthrew : ∀ s, ∀ index < attachment.chunkCount, P s → fails (name index) = true →
      threw s) :
    (deleteAttachmentChunks name attachment fails storage).Meets inv (fun _ => P) threw := by
  refine FaultyOutcome.Meets.forIndex (L := fun _ => P) _ h fun index s hindex hs => ?_
  refine .perform (hthrew s index hindex hs) fun _ => ?_
  exact ⟨hinv _ (hdelete s index hs), hdelete s index hs⟩

lemma meets_saveRecord {room : RoomRecord} {post : AttachmentStorage → Prop}
    (hthrew : threw storage)
    (hsaved : ∀ saved, room.saveRoom env = some saved → fails .saveRoom = false →
      inv { storage with room := some saved } ∧ post { storage with room := some saved }) :
    (saveRecord env room fails storage).Meets inv (fun _ => post) threw := by
  unfold saveRecord
  cases hsome : room.saveRoom env with
  | none => exact .throw hthrew
  | some saved => exact .perform (fun _ => hthrew) fun hfails => hsaved saved hsome hfails

/-- Storage that is sound, and in which everything is kept. -/
def SoundKept (before after : AttachmentStorage) : Prop := after.Sound ∧ Kept before after

lemma meets_deleteExpiredRoom {room : RoomRecord} (hempty : room.attachments = [])
    {before : AttachmentStorage} (hlisted : before.listed = []) (h : SoundKept before storage) :
    (deleteExpiredRoom room fails storage).Meets (SoundKept before)
      (fun _ => SoundKept before) (SoundKept before) := by
  unfold deleteExpiredRoom
  rw [hempty]
  refine .bind (.perform (Q := fun _ => SoundKept before) (fun _ => h) fun _ => ⟨h, h⟩) ?_
  intro _ s hs
  refine .bind (R := fun _ => SoundKept before) (.pure hs) fun _ s hs => ?_
  refine .bind (.perform (Q := fun _ => SoundKept before) (fun _ => hs) fun _ => ⟨hs, hs⟩) ?_
  intro _ s hs
  have hnothing : SoundKept before {} := by
    refine ⟨⟨fun _ hroom => (nomatch hroom), fun _ hroom => nomatch hroom⟩, ?_, ?_⟩
    · exact hlisted.symm
    · rw [hlisted]
      exact fun _ hmem => absurd hmem List.not_mem_nil
  exact .perform (fun _ => hs) fun _ => ⟨hnothing, hnothing⟩

lemma meets_loadActiveRoom (hsound : storage.Sound) (hexpires : NothingExpires env storage) :
    (loadActiveRoom env fails storage).Meets (SoundKept storage)
      (fun loaded s => SoundKept storage s ∧
        ∀ room, loaded = some room → room.attachments = storage.listed)
      (SoundKept storage) := by
  have hrefl : SoundKept storage storage := ⟨hsound, .refl _⟩
  unfold loadActiveRoom
  refine .bind (R := fun stored s => stored = storage.room ∧ s = storage)
    (.read (fun _ => hrefl) fun _ => ⟨rfl, rfl⟩) ?_
  rintro _ s ⟨rfl, hs⟩
  subst s
  cases hstored : storage.room with
  | none => exact .pure ⟨hrefl, fun _ hnone => nomatch hnone⟩
  | some stored =>
    dsimp only
    cases hload : loadRoom env stored with
    | none => exact .throw hrefl
    | some loaded =>
      obtain ⟨room, repaired⟩ := loaded
      have hrepaired : SoundKept storage { storage with room := some repaired } :=
        ⟨sound_repaired hsound hstored hload, kept_repaired hstored hload⟩
      have hroom : room.attachments = storage.listed := by
        rw [(attachments_of_loadRoom hload).1]
        simp only [listed, hstored]
      refine .bind (R := fun _ => SoundKept storage) ?_ ?_
      · unfold writeRepaired
        by_cases heq : repaired = stored
        · simp only [heq, if_true]
          exact .pure hrefl
        · simp only [heq, if_false]
          exact .perform (fun _ => hrefl) fun _ => ⟨hrepaired, hrepaired⟩
      · intro _ s hs
        by_cases hexpired : room.isExpired env = true
        · have hempty := hexpires stored room repaired hstored hload hexpired
          simp only [hexpired, if_true]
          refine .bind (meets_deleteExpiredRoom hempty (hroom ▸ hempty) hs) ?_
          exact fun _ s hs => .pure ⟨hs, fun _ hnone => nomatch hnone⟩
        · simp only [hexpired]
          refine .pure ⟨hs, ?_⟩
          rintro _ ⟨⟩
          exact hroom

lemma meets_beginUpload {participantId token : String} {headers : AttachmentHeaders}
    (hsound : storage.Sound) (hexpires : NothingExpires env storage) :
    (beginUpload env participantId token headers fails storage).Meets (SoundKept storage)
      (fun answer s => SoundKept storage s ∧
        ∀ upload, answer = .waiting upload → upload.room.attachments = storage.listed)
      (SoundKept storage) := by
  unfold beginUpload
  refine .bind (meets_loadActiveRoom hsound hexpires) ?_
  rintro loaded s ⟨hs, hlisted⟩
  cases loaded with
  | none => exact .pure ⟨hs, fun _ h => nomatch h⟩
  | some room =>
    cases hstart : room.attachmentUploadStart participantId token headers with
    | error error =>
      simp only [hstart]
      exact .pure ⟨hs, fun _ h => nomatch h⟩
    | ok upload =>
      simp only [hstart]
      refine .pure ⟨hs, ?_⟩
      rintro _ ⟨⟩
      rw [room_of_attachmentUploadStart hstart]
      exact hlisted room rfl

/-! ## An upload from the reading of its body on -/

lemma AttachmentUpload.evicted_append_recorded (upload : AttachmentUpload) (id : String)
    (byteLength : ℕ) :
    upload.evicted env id byteLength ++ (upload.recorded env id byteLength).attachments =
      upload.appended env id byteLength :=
  List.take_append_drop _ _

/-- The chunks of the new attachment below an index are stored. -/
def StoredBelow (id : String) (before : AttachmentStorage) (fails : AttachmentIO → Bool)
    (index : ℕ) (after : AttachmentStorage) : Prop :=
  SameBut id before after ∧
    ∀ j < index, (after.chunk id j).isSome ∧ fails (.putChunk j) = false

lemma meets_putChunks {id : String} {bytes : List UInt8} {chunkCount : ℕ}
    (hinv : ∀ s, SameBut id storage s → inv s) :
    (FaultyProgram.forIndex chunkCount (fun index => FaultyProgram.perform (.putChunk index)
        (·.putChunk id index (Chunked.chunkAt ATTACHMENT_CHUNK_SIZE bytes index)))
      fails storage).Meets inv (fun _ => StoredBelow id storage fails chunkCount)
      (SameBut id storage) := by
  refine .forIndex (L := StoredBelow id storage fails) _
    ⟨.refl _ _, fun _ h => absurd h (Nat.not_lt_zero _)⟩ ?_
  rintro index s - ⟨hsame, hstored⟩
  refine .perform (fun _ => hsame) fun hfails => ?_
  have hput := hsame.putChunk index (Chunked.chunkAt ATTACHMENT_CHUNK_SIZE bytes index)
  refine ⟨hinv _ hput, hput, fun j hj => ?_⟩
  by_cases hlast : j = index
  · subst hlast
    exact ⟨by simp, hfails⟩
  · have hbelow := hstored j (by omega)
    refine ⟨?_, hbelow.2⟩
    simpa [AttachmentStorage.putChunk, hlast] using hbelow.1

/-- What holds after an upload saved its record: the record is stored and complete. -/
def Committed (saved : RoomRecord) (s : AttachmentStorage) : Prop :=
  s.room = some saved ∧ s.Sound

lemma Committed.deleteChunk {saved : RoomRecord} {s : AttachmentStorage} {id : String}
    (h : Committed saved s) (hid : ∀ attachment ∈ saved.attachments, attachment.id ≠ id)
    (index : ℕ) : Committed saved (s.deleteChunk id index) := by
  obtain ⟨hroom, hsound⟩ := h
  refine ⟨hroom, ((SameBut.refl id s).deleteChunk index).sound hsound ?_⟩
  intro room hroom'
  obtain rfl := Option.some.inj (hroom.symm.trans hroom')
  exact hid

/-- What an upload starts from when its body has been read: the id of the new attachment is fresh,
and the loaded list has distinct ids. -/
structure ReadyToStore (storage : AttachmentStorage) (upload : AttachmentUpload) (id : String) :
    Prop where
  sound : storage.Sound
  fresh : ∀ room, storage.room = some room → ∀ attachment ∈ room.attachments, attachment.id ≠ id
  freshLoaded : ∀ attachment ∈ upload.room.attachments, attachment.id ≠ id
  distinct : (upload.room.attachments.map (·.id)).Nodup

namespace ReadyToStore

variable {upload : AttachmentUpload} {id : String} {bytes : List UInt8}

section

variable (h : ReadyToStore storage upload id)
include h

lemma appended_distinct (byteLength : ℕ) :
    ((upload.appended env id byteLength).map (·.id)).Nodup := by
  rw [AttachmentUpload.appended, List.map_append, List.nodup_append]
  refine ⟨h.distinct, by simp, ?_⟩
  intro loadedId hloaded newId hnew
  obtain ⟨attachment, hmem, rfl⟩ := List.mem_map.mp hloaded
  obtain rfl := List.mem_singleton.mp hnew
  exact h.freshLoaded attachment hmem

lemma evicted_ne {byteLength : ℕ} {attachment dropped : RoomAttachment}
    (hdropped : dropped ∈ upload.evicted env id byteLength)
    (hmem : attachment ∈ (upload.recorded env id byteLength).attachments) :
    attachment.id ≠ dropped.id := by
  have hdistinct : ((upload.appended env id byteLength).map (·.id)).Nodup :=
    h.appended_distinct byteLength
  rw [← upload.evicted_append_recorded, List.map_append, List.nodup_append] at hdistinct
  exact (hdistinct.2.2 _ (List.mem_map_of_mem hdropped) _ (List.mem_map_of_mem hmem)).symm

lemma committed {saved : RoomRecord}
    (hsaved : (upload.recorded env id bytes.length).saveRoom env = some saved)
    (hkept : ∀ attachment ∈ (upload.recorded env id bytes.length).attachments,
      attachment.id ≠ id → ∀ index < attachment.chunkCount,
        (storage.chunk attachment.id index).isSome)
    {after : AttachmentStorage} (hstored : StoredBelow id storage fails
      (upload.attachment env id bytes.length).chunkCount after) :
    Committed saved { after with room := some saved } := by
  obtain ⟨messages, -, rfl⟩ := RoomRecord.saveRoom_eq_some env hsaved
  refine ⟨rfl, ?_, ?_⟩
  · rintro _ ⟨⟩ attachment hmem index hindex
    by_cases hid : attachment.id = id
    · have hnew : attachment = upload.attachment env id bytes.length := by
        have happended := List.mem_of_mem_drop hmem
        rcases List.mem_append.mp happended with hloaded | hnew
        · exact absurd hid (h.freshLoaded attachment hloaded)
        · exact List.mem_singleton.mp hnew
      subst hnew
      exact (hstored.2 index hindex).1
    · dsimp only
      rw [hstored.1.chunk _ hid]
      exact hkept attachment hmem hid index hindex
  · rintro _ ⟨⟩
    exact (h.appended_distinct bytes.length).sublist ((List.drop_sublist _ _).map _)

/-- Storing an upload keeps the stored list complete, and keeps everything unless it succeeds. -/
lemma meets_store (hclean : upload.Commits env id bytes fails →
      (∀ io, upload.AfterCommit env id bytes.length io → fails io = false) ∧
        ∀ attachment ∈ (upload.recorded env id bytes.length).attachments,
          attachment.id ≠ id → ∀ index < attachment.chunkCount,
            (storage.chunk attachment.id index).isSome) :
    (upload.store env id bytes fails storage).Meets Sound
      (fun answer s => s.Sound ∧
        (isFailedAnswer (some answer) = true → SoundKept storage s))
      (SoundKept storage) := by
  have hsame : ∀ s, SameBut id storage s → SoundKept storage s := fun s hs =>
    ⟨hs.sound h.sound h.fresh, hs.kept h.fresh⟩
  unfold AttachmentUpload.store
  by_cases hinvalid : upload.invalidBody bytes.length
  · simp only [hinvalid, if_true]
    exact .pure ⟨h.sound, fun _ => hsame _ (.refl _ _)⟩
  simp only [hinvalid, if_false]
  refine .tryCatch (E := SameBut id storage) ?_ ?_
  · refine .bind (meets_putChunks fun s hs => (hsame s hs).1) fun _ s hstored => ?_
    by_cases hfull : upload.storeFull
    · simp only [hfull, if_true]
      refine .bind (meets_deleteAttachmentChunks (P := SameBut id storage) hstored.1
        (fun _ index hs => hs.deleteChunk index) (fun s hs => (hsame s hs).1)
        fun _ _ _ hs _ => hs) ?_
      exact fun _ s hs => .pure ⟨(hsame s hs).1, fun _ => hsame s hs⟩
    simp only [hfull, if_false]
    cases hsave : (upload.recorded env id bytes.length).saveRoom env with
    | none =>
      refine .bind (R := fun _ _ => False) ?_ fun _ _ hfalse => hfalse.elim
      exact meets_saveRecord hstored.1 fun saved hsome => nomatch hsave.symm.trans hsome
    | some saved =>
      -- From here on no operation throws, so that the handler does not run.
      refine .bind (R := fun _ s => Committed saved s ∧
        ∀ io, upload.AfterCommit env id bytes.length io → fails io = false) ?_ ?_
      · refine meets_saveRecord hstored.1 fun saved' hsome hfails => ?_
        obtain rfl := Option.some.inj (hsave.symm.trans hsome)
        have hcommits : upload.Commits env id bytes fails :=
          ⟨hinvalid, fun index hindex => (hstored.2 index hindex).2, hfull, by simp [hsave],
            hfails⟩
        obtain ⟨hquiet, hkept⟩ := hclean hcommits
        have hcommitted := h.committed hsave hkept hstored
        exact ⟨hcommitted.2, hcommitted, hquiet⟩
      · rintro _ s ⟨hcommitted, hquiet⟩
        have hnothrow : ∀ {io : AttachmentIO} {s' : AttachmentStorage},
            upload.AfterCommit env id bytes.length io → fails io = true →
              SameBut id storage s' := fun hafter hthrows =>
          absurd (hquiet _ hafter) (by simp [hthrows])
        have hrecorded : ∀ attachment ∈ saved.attachments,
            attachment ∈ (upload.recorded env id bytes.length).attachments := by
          obtain ⟨messages, -, rfl⟩ := RoomRecord.saveRoom_eq_some env hsave
          exact fun _ hmem => hmem
        refine .bind (.perform (Q := fun _ => Committed saved) (hnothrow trivial)
          fun _ => ⟨hcommitted.2, hcommitted⟩) fun _ s hcommitted => ?_
        refine .bind (.forEach (L := fun _ => Committed saved) hcommitted ?_)
          fun _ s hcommitted => ?_
        · intro dropped rest s' hsuffix hs'
          have hdropped := hsuffix.subset List.mem_cons_self
          refine meets_deleteAttachmentChunks hs' (fun _ index hs => hs.deleteChunk ?_ index)
            (fun _ hs => hs.2) fun _ index hindex _ => hnothrow ⟨dropped, hdropped, rfl, hindex⟩
          exact fun attachment hmem => h.evicted_ne hdropped (hrecorded attachment hmem)
        · refine .bind (.perform (Q := fun _ => Committed saved) (hnothrow trivial)
            fun _ => ⟨hcommitted.2, hcommitted⟩) fun _ s hcommitted => ?_
          exact .pure ⟨hcommitted.2, fun hfailed => nomatch hfailed⟩
  · intro _ s hs
    refine .bind (meets_deleteAttachmentChunks (P := SameBut id storage) hs
      (fun _ index hs => hs.deleteChunk index) (fun s hs => (hsame s hs).1)
      fun s _ _ hs _ => hsame s hs) ?_
    exact fun _ s hs => .pure ⟨(hsame s hs).1, fun _ => hsame s hs⟩

end

end ReadyToStore

/-! ## Discards and other operations -/

lemma committed_of_sublist {room saved : RoomRecord} (hsound : storage.Sound)
    (hsublist : room.attachments.Sublist storage.listed) (hsaved : room.saveRoom env = some saved) :
    Committed saved { storage with room := some saved } := by
  obtain ⟨messages, -, rfl⟩ := RoomRecord.saveRoom_eq_some env hsaved
  refine ⟨rfl, ?_, ?_⟩
  · rintro _ ⟨⟩ attachment hmem
    exact hsound.listed_complete (hsublist.subset hmem)
  · rintro _ ⟨⟩
    exact hsound.listed_distinct.sublist (hsublist.map _)

/-- A discard keeps the stored list complete. -/
lemma meets_discardStagedAttachment
    {participantId token attachmentId taskRequestId : String} {registry : CollabRegistry}
    (hsound : storage.Sound) (hexpires : NothingExpires env storage) :
    (discardStagedAttachment env participantId token attachmentId taskRequestId registry fails
      storage).Meets Sound (fun _ => Sound) Sound := by
  unfold discardStagedAttachment
  refine .bind ((meets_loadActiveRoom hsound hexpires).mono (fun _ h => h.1) (fun _ _ h => h)
    fun _ h => h.1) ?_
  rintro loaded s ⟨hs, hlisted⟩
  cases loaded with
  | none => exact .pure hs.1
  | some room =>
    have hroom : room.attachments = s.listed := (hlisted room rfl).trans hs.2.listed.symm
    dsimp only
    cases (room.findParticipant participantId token "").filter (·.kind = .human) with
    | none => exact .pure hs.1
    | some human =>
      dsimp only
      cases hdiscardable : RoomSession.discardableAttachment room human attachmentId
        taskRequestId with
      | none => exact .pure hs.1
      | some attachment =>
        have hid : attachment.id = attachmentId := by
          have hfind := (Option.filter_eq_some_iff.mp hdiscardable).1
          simpa using List.find?_some hfind
        by_cases htask : (registry.find taskRequestId).isSome = true
        · simp only [htask, if_true]
          exact .pure hs.1
        simp only [htask]
        generalize hdiscarded : ({ room with
          attachments := room.attachments.filter fun entry => entry.id ≠ attachmentId }.touch env
            human.id) = discarded
        have hattachments : discarded.attachments =
            room.attachments.filter fun entry => entry.id ≠ attachmentId := by
          rw [← hdiscarded]
          rfl
        cases hsave : discarded.saveRoom env with
        | none =>
          refine .bind (R := fun _ _ => False) ?_ fun _ _ hfalse => hfalse.elim
          exact meets_saveRecord hs.1 fun saved hsome => nomatch hsave.symm.trans hsome
        | some saved =>
          refine .bind (R := fun _ => Committed saved) ?_ fun _ s hcommitted => ?_
          · refine meets_saveRecord hs.1 fun saved' hsome _ => ?_
            obtain rfl := Option.some.inj (hsave.symm.trans hsome)
            have hcommitted : Committed saved { s with room := some saved } := by
              refine committed_of_sublist hs.1 ?_ hsome
              rw [hattachments, hroom]
              exact List.filter_sublist
            exact ⟨hcommitted.2, hcommitted⟩
          have hother : ∀ entry ∈ saved.attachments, entry.id ≠ attachment.id := by
            obtain ⟨messages, -, rfl⟩ := RoomRecord.saveRoom_eq_some env hsave
            intro entry hmem
            change entry ∈ discarded.attachments at hmem
            rw [hattachments] at hmem
            rw [hid]
            simpa using List.of_mem_filter hmem
          refine .bind (meets_deleteAttachmentChunks hcommitted
            (fun _ index h => h.deleteChunk hother index) (fun _ h => h.2) fun _ _ _ h _ => h.2) ?_
          intro _ s hs
          refine .bind (.perform (Q := fun _ => Sound) (fun _ => hs.2)
            fun _ => ⟨hs.2, hs.2⟩) fun _ s hs => ?_
          refine .bind (.perform (Q := fun _ => Sound) (fun _ => hs) fun _ => ⟨hs, hs⟩) ?_
          exact fun _ _ hs => .pure hs

lemma meets_save {room : RoomRecord} (hsound : storage.Sound)
    (hroom : room.attachments = storage.listed) :
    ((AttachmentOp.save room).program env fails storage).Meets Sound (fun _ => Sound) Sound := by
  refine .bind (R := fun _ => Sound) (meets_saveRecord hsound fun saved hsome _ => ?_)
    fun _ _ hs => .pure hs
  have hcommitted := committed_of_sublist hsound (hroom ▸ List.Sublist.refl _) hsome
  exact ⟨hcommitted.2, hcommitted.2⟩

end Programs

/-! ## Runs -/

/-- What holds in every state of a run of clean operations. -/
structure AttachmentInvariant (s : AttachmentStore) : Prop where
  sound : s.storage.Sound
  loaded : ∀ upload ∈ s.uploads, (upload.room.attachments.map (·.id)).Nodup
  failures : ∀ failure ∈ s.failures, AttachmentStorage.Unchanged failure.1 failure.2

namespace AttachmentInvariant

variable {s : AttachmentStore} {call : AttachmentCall}

section

variable (h : AttachmentInvariant s)
include h

lemma meets (henabled : s.Enabled call.op) (hclean : call.Clean s) : (s.outcome call).Meets Sound
      (fun answer after => after.Sound ∧
        (call.op.isUpload = true → isFailedAnswer (some answer) = true → Kept s.storage after) ∧
        ∀ upload ∈ s.uploadsAfter call.op (some answer),
          (upload.room.attachments.map (·.id)).Nodup)
      (fun after => after.Sound ∧ (call.op.isUpload = true → Kept s.storage after)) := by
  obtain ⟨env, op, fails⟩ := call
  cases op with
  | beginUpload participantId token headers =>
    refine (meets_beginUpload h.sound hclean).mono (fun _ hs => hs.1) ?_
      fun _ hs => ⟨hs.1, fun _ => hs.2⟩
    rintro answer after ⟨hs, hwaiting⟩
    refine ⟨hs.1, fun _ _ => hs.2, fun upload hupload => ?_⟩
    cases answer with
    | waiting started =>
      rcases List.mem_append.mp hupload with hupload | hupload
      · exact h.loaded upload hupload
      · obtain rfl := List.mem_singleton.mp hupload
        rw [hwaiting upload rfl]
        exact h.sound.listed_distinct
    | stored _ | refused _ | done => exact h.loaded upload hupload
  | finishUpload upload id bytes =>
    obtain ⟨hwaits, hfresh, hfreshLoaded⟩ := henabled
    have hready : ReadyToStore s.storage upload id :=
      ⟨h.sound, hfresh, hfreshLoaded, h.loaded upload hwaits⟩
    refine (hready.meets_store hclean).mono (fun _ hs => hs) ?_ fun _ hs => ⟨hs.1, fun _ => hs.2⟩
    rintro answer after ⟨hs, hfailed⟩
    refine ⟨hs, fun _ hanswer => (hfailed hanswer).2, fun other hother => ?_⟩
    exact h.loaded other (List.mem_of_mem_erase hother)
  | discard participantId token attachmentId taskRequestId registry =>
    refine (meets_discardStagedAttachment h.sound hclean).mono (fun _ hs => hs) ?_
      fun _ hs => ⟨hs, fun hupload => nomatch hupload⟩
    exact fun _ _ hs => ⟨hs, fun hupload => (nomatch hupload), h.loaded⟩
  | save room =>
    refine (meets_save h.sound henabled).mono (fun _ hs => hs) ?_
      fun _ hs => ⟨hs, fun hupload => nomatch hupload⟩
    exact fun _ _ hs => ⟨hs, fun hupload => (nomatch hupload), h.loaded⟩

lemma failures_run
    (hunchanged : call.op.isUpload = true → isFailedAnswer (s.outcome call).result = true →
      AttachmentStorage.Unchanged s.storage (s.outcome call).state) :
    ∀ failure ∈ (s.run call).failures, AttachmentStorage.Unchanged failure.1 failure.2 := by
  intro failure hfailure
  simp only [AttachmentStore.run] at hfailure
  split at hfailure
  · rename_i hfailed
    obtain ⟨hupload, hresult⟩ := Bool.and_eq_true_iff.mp hfailed
    rcases List.mem_append.mp hfailure with hfailure | hfailure
    · exact h.failures failure hfailure
    · rw [List.mem_singleton.mp hfailure]
      exact hunchanged hupload hresult
  · exact h.failures failure hfailure

lemma run (henabled : s.Enabled call.op) (hclean : call.Clean s) :
    AttachmentInvariant (s.run call) := by
  have hmeets := h.meets henabled hclean
  cases hresult : (s.outcome call).result with
  | none =>
    obtain ⟨hsound, hkept⟩ := hmeets.threw hresult
    refine ⟨hsound, ?_, ?_⟩
    · intro upload hupload
      simp only [AttachmentStore.run, hresult] at hupload
      refine h.loaded upload ?_
      cases hop : call.op with
      | finishUpload finished id bytes =>
        rw [hop] at hupload
        exact List.mem_of_mem_erase hupload
      | beginUpload _ _ _ | discard _ _ _ _ _ | save _ => rwa [hop] at hupload
    · exact failures_run h fun hupload _ => (hkept hupload).unchanged
  | some answer =>
    obtain ⟨hsound, hkept, hloaded⟩ := hmeets.returned answer hresult
    refine ⟨hsound, ?_, ?_⟩
    · simpa only [AttachmentStore.run, hresult] using hloaded
    · refine failures_run h fun hupload hfailed => ?_
      exact (hkept hupload (hresult ▸ hfailed)).unchanged

lemma step {event : AttachmentEvent} {s' : AttachmentStore}
    (hclean : event.call.Clean s) (hstep : attachmentSystem.step s event s') :
    AttachmentInvariant s' := by
  obtain ⟨henabled, hstep⟩ := hstep
  cases event with
  | run call =>
    subst hstep
    exact h.run henabled hclean
  | crash call storage =>
    obtain ⟨hvisited, rfl⟩ := hstep
    refine ⟨(h.meets henabled hclean).visited storage hvisited, ?_, h.failures⟩
    exact fun _ hupload => absurd hupload List.not_mem_nil

end

end AttachmentInvariant

/-- In every run of clean operations, metadata and bytes agree in every state that is left in
storage. -/
theorem attachmentsAgree_of_clean {s : AttachmentStore}
    (hreach : attachmentSystem.ReachableWhen (fun s event => event.call.Clean s) s) :
    AttachmentsAgree s := by
  have hinvariant : AttachmentInvariant s := by
    refine hreach.invariant ?_ fun _ _ _ h hclean hstep => h.step hclean hstep
    rintro _ rfl
    refine ⟨⟨fun _ hroom => (nomatch hroom), fun _ hroom => nomatch hroom⟩, ?_, ?_⟩
    · exact fun _ hupload => absurd hupload List.not_mem_nil
    · exact fun _ hfailure => absurd hfailure List.not_mem_nil
  exact ⟨hinvariant.sound.complete, hinvariant.failures⟩

/-! ## An upload into an example Room -/

/-- The headers of a note. -/
def exampleHeaders : AttachmentHeaders :=
  { mimeType := "text/plain", declaredSize := 3, fileName := "notes.txt" }

/-- An upload of a note that waits for its body. -/
def exampleUpload : AttachmentUpload :=
  { room := exampleRoom
    participant := exampleAgent "agent-a"
    headers := exampleHeaders
    taskRequestId := none
    pendingTaskContext := false
    taskWake := false }

/-- A call in which some storage operations throw. -/
def exampleCall (op : AttachmentOp) (fails : AttachmentIO → Bool) : AttachmentCall :=
  { env := fixedEnv true, op, fails }

/-- The store of the example Room, in which an Agent has begun to upload a note. -/
def exampleWaiting : AttachmentStore :=
  (AttachmentStore.run {} (exampleCall (.save exampleRoom) fun _ => false)).run
    (exampleCall (.beginUpload "agent-a" "token" exampleHeaders) fun _ => false)

/-- The Agent uploads the body of its note. -/
def exampleFinish (fails : AttachmentIO → Bool) : AttachmentCall :=
  exampleCall (.finishUpload exampleUpload "note" [1, 2, 3]) fails

lemma exampleWaiting_uploads : exampleWaiting.uploads = [exampleUpload] := by decide +kernel

lemma exampleWaiting_room : exampleWaiting.storage.room = some exampleRoom := by decide +kernel

lemma reachable_exampleWaiting {guard : AttachmentStore → AttachmentEvent → Prop}
    (hguard : ∀ s call, s.storage.listed = [] → call.Clean s → guard s (.run call)) :
    attachmentSystem.ReachableWhen guard exampleWaiting := by
  have hsaved : (AttachmentStore.run {} (exampleCall (.save exampleRoom)
      fun _ => false)).storage.listed = [] := by decide +kernel
  have hstart : attachmentSystem.ReachableWhen guard
      (AttachmentStore.run {} (exampleCall (.save exampleRoom) fun _ => false)) :=
    .step (.init rfl) (hguard {} (exampleCall (.save exampleRoom) fun _ => false) rfl trivial)
      ⟨rfl, rfl⟩
  refine .step hstart (hguard _ (exampleCall (.beginUpload "agent-a" "token" exampleHeaders)
    fun _ => false) hsaved ?_) ⟨trivial, rfl⟩
  intro stored room repaired hstored hload _
  rw [(attachments_of_loadRoom hload).1]
  simpa only [listed, hstored] using hsaved

lemma exampleWaiting_enabled (fails : AttachmentIO → Bool) :
    exampleWaiting.Enabled (exampleFinish fails).op := by
  refine ⟨exampleWaiting_uploads ▸ List.mem_singleton_self _, ?_, ?_⟩
  · intro room hroom
    obtain rfl := Option.some.inj (exampleWaiting_room.symm.trans hroom)
    exact fun _ hmem => absurd hmem List.not_mem_nil
  · exact fun _ hmem => absurd hmem List.not_mem_nil

/-- An upload in which nothing throws. -/
theorem attachmentsAgree_of_clean_note :
    AttachmentsAgree (exampleWaiting.run (exampleFinish fun _ => false)) := by
  refine attachmentsAgree_of_clean (.step (reachable_exampleWaiting fun _ _ _ h => h)
    (a := .run (exampleFinish fun _ => false)) ?_ ⟨exampleWaiting_enabled _, rfl⟩)
  intro _
  refine ⟨fun _ _ => rfl, fun attachment hmem hne => ?_⟩
  have hnote : ((exampleUpload.recorded (fixedEnv true) "note" 3).attachments.map (·.id)) =
      ["note"] := by decide +kernel
  have hid := List.mem_map_of_mem (f := RoomAttachment.id) hmem
  exact absurd (List.mem_singleton.mp (hnote ▸ hid)) hne

/-- When the broadcast after the save throws, the handler deletes the chunks of the attachment that
is listed by then. -/
theorem not_attachmentsAgree_broadcast :
    ¬ ∀ s, attachmentSystem.Reachable s → AttachmentsAgree s := by
  intro hall
  have hagree := hall _ (.step (reachable_exampleWaiting fun _ _ _ _ => trivial)
    (a := .run (exampleFinish (· = .broadcast))) trivial ⟨exampleWaiting_enabled _, rfl⟩)
  have hlisted : (exampleWaiting.run (exampleFinish (· = .broadcast))).storage.room.map
      (fun room => room.attachments.map fun attachment => (attachment.id, attachment.chunkCount)) =
        some [("note", 1)] := by decide +kernel
  have hmissing : (exampleWaiting.run (exampleFinish (· = .broadcast))).storage.chunk "note" 0 =
      none := by decide +kernel
  obtain ⟨room, hroom, hattachments⟩ := Option.map_eq_some_iff.mp hlisted
  obtain ⟨attachment, hmem, hnote⟩ := List.mem_map.mp
    (hattachments ▸ List.mem_singleton_self ("note", 1))
  have hchunk := hagree.complete room hroom attachment hmem 0
    (by rw [(Prod.mk.inj hnote).2]; exact Nat.one_pos)
  rw [(Prod.mk.inj hnote).1, hmissing] at hchunk
  cases hchunk

end Free4Chat
