import Free4Chat.GeneratedApp.Store

/-!
# Loading and Saving Generated Apps

What a load of the Room keeps of its Apps, and what a save stores.

* `SameApp` and `Kept`: nothing that is stored of one App, or of any, has changed.
* `meets_loadGeneratedApps`: a load keeps everything, unless it deletes an expired Room.
* `meets_saveGeneratedApps`: a save stores the record and the list, or throws.
-/

namespace Free4Chat

open GeneratedAppStorage

/-- The Room is loaded: it can be read, it is repaired if need be, and it has not expired. -/
structure Loads (env : RoomEnv) (storage : GeneratedAppStorage) (fails : GeneratedAppIO → Bool)
    (room : RoomRecord) : Prop where
  read : fails .readRoom = false
  stored : ∃ stored repaired, storage.room = some stored ∧
    loadRoom env stored = some (room, repaired) ∧
      (repaired = stored ∧
          normalizeGeneratedApps storage.generatedApps = storage.generatedApps ∨
        fails .repairRoom = false)
  active : room.isExpired env = false

namespace GeneratedAppStorage

/-- Whatever is stored of one App is the same. -/
structure SameApp (appInstanceId : String) (before after : GeneratedAppStorage) : Prop where
  bundleChunk : after.bundleChunk appInstanceId = before.bundleChunk appInstanceId
  legacyChunk : after.legacyChunk appInstanceId = before.legacyChunk appInstanceId
  manifest : after.manifest appInstanceId = before.manifest appInstanceId
  state : after.state appInstanceId = before.state appInstanceId

lemma SameApp.refl (appInstanceId : String) (storage : GeneratedAppStorage) :
    SameApp appInstanceId storage storage := ⟨rfl, rfl, rfl, rfl⟩

lemma SameApp.trans {appInstanceId : String} {s₁ s₂ s₃ : GeneratedAppStorage}
    (h : SameApp appInstanceId s₁ s₂) (h' : SameApp appInstanceId s₂ s₃) :
    SameApp appInstanceId s₁ s₃ :=
  ⟨h'.bundleChunk.trans h.bundleChunk, h'.legacyChunk.trans h.legacyChunk,
    h'.manifest.trans h.manifest, h'.state.trans h.state⟩

variable {before after : GeneratedAppStorage} {publication : GeneratedRoomAppPublication}

lemma SameApp.readGeneratedAppBundleBytes (h : SameApp publication.appInstanceId before after) :
    after.readGeneratedAppBundleBytes publication =
      before.readGeneratedAppBundleBytes publication := by
  unfold GeneratedAppStorage.readGeneratedAppBundleBytes
  rw [h.bundleChunk, h.legacyChunk, h.manifest]

/-- The same Apps are listed, and everything that is stored of Apps is kept. -/
structure Kept (before after : GeneratedAppStorage) : Prop where
  listed : after.publications = before.publications
  apps : ∀ appInstanceId, SameApp appInstanceId before after

lemma Kept.refl (storage : GeneratedAppStorage) : Kept storage storage :=
  ⟨rfl, fun _ => .refl _ _⟩

lemma Kept.setWindows (h : Kept before after) (windows : KeyedMap GeneratedAppStateWindow) :
    Kept before { after with windows := windows } := by
  refine ⟨h.listed, fun id => ?_⟩
  obtain ⟨hbundle, hlegacy, hmanifest, hstate⟩ := h.apps id
  exact ⟨hbundle, hlegacy, hmanifest, hstate⟩

/-- The Room was deleted, or everything is kept. No state update was accepted or counted. -/
structure Reloaded (before after : GeneratedAppStorage) : Prop where
  kept : after.room = none ∨ Kept before after
  acceptedUpdates : after.acceptedUpdates = before.acceptedUpdates
  windows : after.windows = before.windows

lemma Reloaded.refl (storage : GeneratedAppStorage) : Reloaded storage storage :=
  ⟨Or.inr (.refl _), rfl, rfl⟩

lemma Reloaded.listed (h : Reloaded before after)
    (hmem : publication ∈ after.publications.values) : publication ∈ before.publications.values ∧
      SameApp publication.appInstanceId before after := by
  rcases h.kept with hnone | hkept
  · rw [publications, hnone] at hmem
    exact absurd hmem List.not_mem_nil
  · exact ⟨hkept.listed ▸ hmem, hkept.apps _⟩

/-- No condition on the states in between. -/
def Any : GeneratedAppStorage → Prop := fun _ => True

end GeneratedAppStorage

lemma deleteNewChunks_keeps {P : GeneratedAppStorage → Prop} {appInstanceId : String}
    {bundleRevision : ℕ} (attempted : List GeneratedAppIO) {s : GeneratedAppStorage} (h : P s)
    (hdelete : ∀ s index, P s → P (s.setBundleChunk appInstanceId bundleRevision index none)) :
    P (deleteNewChunks appInstanceId bundleRevision attempted s) := by
  induction attempted generalizing s with
  | nil => exact h
  | cons operation attempted ih =>
    rw [deleteNewChunks, List.foldl_cons]
    refine ih ?_
    cases operation with
    | putBundleChunk index => exact hdelete s index h
    | _ => exact h

section Programs

variable {env : RoomEnv} {codec : JsonCodec} {fails : GeneratedAppIO → Bool}
  {storage : GeneratedAppStorage}

lemma publications_of_room {stored : RoomRecord} (h : storage.room = some stored) :
    storage.publications = normalizeGeneratedApps storage.generatedApps := by
  rw [publications, h]

lemma meets_loadGeneratedApps : (loadGeneratedApps env fails storage).Meets Any
      (fun loaded s => Reloaded storage s ∧ ∀ room apps, loaded = some (room, apps) →
        Kept storage s ∧ apps = storage.publications ∧ Loads env storage fails room)
      (Reloaded storage) := by
  have hrefl := Reloaded.refl storage
  unfold loadGeneratedApps
  refine .bind (R := fun read s => read = (storage.room, storage.generatedApps) ∧
      s = storage ∧ fails .readRoom = false)
    (.read (fun _ => hrefl) fun hread => ⟨rfl, rfl, hread⟩) ?_
  rintro _ s ⟨rfl, hs, hread⟩
  subst s
  cases hstored : storage.room with
  | none => exact .pure ⟨hrefl, fun _ _ hnone => nomatch hnone⟩
  | some stored =>
    dsimp only
    cases hload : loadRoom env stored with
    | none => exact .throw hrefl
    | some loaded =>
      obtain ⟨room, repaired⟩ := loaded
      have happs := publications_of_room hstored
      refine .bind (R := fun _ s => (Kept storage s ∧ s.acceptedUpdates = storage.acceptedUpdates ∧
          s.windows = storage.windows) ∧ (repaired = stored ∧
          normalizeGeneratedApps storage.generatedApps = storage.generatedApps ∨
            fails .repairRoom = false)) ?_ ?_
      · unfold writeRepairedApps
        by_cases hclean : repaired = stored ∧
            normalizeGeneratedApps storage.generatedApps = storage.generatedApps
        · simp only [hclean, and_self, if_true]
          exact .pure ⟨⟨.refl _, rfl, rfl⟩, Or.inl trivial⟩
        · simp only [hclean, if_false]
          refine .perform (fun _ => hrefl) fun hwritten =>
            ⟨trivial, ⟨⟨?_, fun _ => ⟨rfl, rfl, rfl, rfl⟩⟩, rfl, rfl⟩, Or.inr hwritten⟩
          rw [happs]
          exact normalizeGeneratedApps_idem _
      · rintro _ s ⟨hs, hwritten⟩
        by_cases hexpired : room.isExpired env = true
        · simp only [hexpired, if_true]
          refine .bind (R := fun _ => Reloaded storage) ?_ fun _ s hs =>
            .pure ⟨hs, fun _ _ hnone => nomatch hnone⟩
          exact .perform (fun _ => ⟨Or.inr hs.1, hs.2.1, hs.2.2⟩) fun _ => ⟨trivial, Or.inl rfl, hs.2.1, hs.2.2⟩
        · simp only [hexpired]
          refine .pure ⟨⟨Or.inr hs.1, hs.2.1, hs.2.2⟩, ?_⟩
          rintro _ _ ⟨⟩
          exact ⟨hs.1, happs.symm, hread, ⟨stored, repaired, hstored, hload, hwritten⟩,
            by simpa using hexpired⟩

/-- The save does not take place. -/
def SaveThrows (env : RoomEnv) (fails : GeneratedAppIO → Bool) (room : RoomRecord) : Prop :=
  room.saveRoom env = none ∨ fails .saveRoom = true

lemma meets_saveGeneratedApps {room : RoomRecord} {apps : GeneratedApps}
    {post threw : GeneratedAppStorage → Prop} (hthrew : SaveThrows env fails room → threw storage)
    (hsaved : ¬SaveThrows env fails room → ∀ saved,
      post { storage with room := some saved, generatedApps := apps }) :
    (saveGeneratedApps env room apps fails storage).Meets Any (fun _ => post) threw := by
  unfold saveGeneratedApps
  cases hsave : room.saveRoom env with
  | none => exact .throw (hthrew (Or.inl hsave))
  | some saved =>
    refine .perform (fun hfails => hthrew (Or.inr hfails)) fun hfails => ⟨trivial, ?_⟩
    refine hsaved ?_ saved
    rintro (hnone | hthrows)
    · exact nomatch hsave.symm.trans hnone
    · exact nomatch hfails.symm.trans hthrows

lemma listed_of_saved {before s : GeneratedAppStorage} {saved : RoomRecord}
    {publication other : GeneratedRoomAppPublication} (hroom : s.room = some saved)
    (happs : s.generatedApps = before.publications.set publication)
    (hmem : other ∈ s.publications.values) : other = publication ∨
      (other ∈ before.publications.values ∧ other.appInstanceId ≠ publication.appInstanceId) := by
  rw [publications_of_room hroom, happs] at hmem
  exact KeyedMap.mem_set.mp (mem_normalizeGeneratedApps hmem).1

lemma meets_loadGeneratedApps_of_loads {room : RoomRecord} (h : Loads env storage fails room) :
    (loadGeneratedApps env fails storage).Meets Any
      (fun loaded s => loaded = some (room, storage.publications) ∧ Kept storage s)
      fun _ => False := by
  obtain ⟨hread, ⟨stored, repaired, hstored, hload, hrepair⟩, hactive⟩ := h
  have happs := publications_of_room hstored
  unfold loadGeneratedApps
  refine .bind (R := fun read s => read = (some stored, storage.generatedApps) ∧ s = storage)
    (.read (fun hthrows => nomatch hread.symm.trans hthrows)
      fun _ => ⟨by rw [hstored], rfl⟩) ?_
  rintro _ s ⟨rfl, hs⟩
  subst s
  dsimp only
  rw [hload]
  refine .bind (R := fun _ => Kept storage) ?_ fun _ s hs => ?_
  · unfold writeRepairedApps
    by_cases hclean : repaired = stored ∧
        normalizeGeneratedApps storage.generatedApps = storage.generatedApps
    · simp only [hclean, and_self, if_true]
      exact .pure ⟨rfl, fun _ => .refl _ _⟩
    · simp only [hclean, if_false]
      refine .perform (fun hthrows => ?_) fun _ => ⟨trivial, ?_, fun _ => ⟨rfl, rfl, rfl, rfl⟩⟩
      · exact nomatch (hrepair.resolve_left hclean).symm.trans hthrows
      · rw [happs]
        exact normalizeGeneratedApps_idem _
  · simp only [hactive, Bool.false_eq_true, if_false]
    exact .pure ⟨by rw [happs], hs⟩

end Programs

end Free4Chat
