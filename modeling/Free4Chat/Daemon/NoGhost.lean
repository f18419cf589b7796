import Free4Chat.Daemon.Registry

/-!
# No Ghost Residents

Every Runtime that the daemon built is registered, or stopped with its workspace removed, or a
goroutine is at work for it. A Runtime that is stopped stays registered only while the goroutine
that stopped it is about to remove it. A daemon that stops has no residents and gets none, and each
Runtime that still runs is about to be stopped. This holds in every run in which no instance is
registered after the daemon began to stop.

The source breaks this: `rejectIfStopping` is checked when a request arrives, and `register` does
not look at it again. A join or a create that passed the check registers its Runtime after a stop
has emptied the registry. The capability adapter, in contrast, is checked again under the lock.

* `DaemonRun.NoGhosts`: what holds of states.
* `DaemonRun.admitsBeforeStop`: nothing is registered after the daemon began to stop.
* `noGhosts_of_admitsBeforeStop`: the property, over every run.
* `not_noGhosts_lateCreate`: a run in which a resident is left behind.
-/

namespace Free4Chat

/-! ## The property -/

/-- Every Runtime is accounted for. -/
structure DaemonRun.NoGhosts (d : DaemonRun) : Prop where
  accounted : ∀ resident ∈ d.residents.values,
    resident.instanceID ∈ d.instances ∨
      (resident.stopped = true ∧ resident.workspace = false) ∨
      ∃ handler ∈ d.handlers, handler.instanceID? = some resident.instanceID
  unregistered : ∀ resident ∈ d.residents.values, resident.stopped = true →
    resident.instanceID ∈ d.instances →
      .expired resident.instanceID ∈ d.handlers ∨ .selfLeft resident.instanceID ∈ d.handlers
  emptied : d.stopping = true → d.instances = []
  halted : d.stopping = true → ∀ resident ∈ d.residents.values, resident.running = true →
    .stopping resident.instanceID ∈ d.handlers

/-- Nothing is registered after the daemon began to stop. -/
def DaemonRun.admitsBeforeStop (d : DaemonRun) : DaemonStep → Bool
  | .advance index _ => !(d.stopping && d.handlers[index]?.any RegistryHandler.registers)
  | _ => true

/-! ## Where a Runtime is -/

/-- Where a Runtime is, by the registry and the goroutines. -/
inductive ResidentInstance.Placed (instances : List ℕ) (handlers : List RegistryHandler)
    (resident : ResidentInstance) : Prop
  -- It was not launched, and a goroutine is about to.
  | fresh (hlaunched : resident.launched = false) (hstopped : resident.stopped = false)
      (hloop : resident.loop = false) (handler : RegistryHandler) (hmem : handler ∈ handlers)
      (hadmits : handler.admits? = some resident.instanceID)
  -- It is registered. If it is stopped, the goroutine that stopped it is about to remove it.
  | registered (hlaunched : resident.launched = true) (hmem : resident.instanceID ∈ instances)
      (hstopped : resident.stopped = true →
        .expired resident.instanceID ∈ handlers ∨ .selfLeft resident.instanceID ∈ handlers)
  -- A goroutine is about to stop it.
  | doomed (hlaunched : resident.launched = true) (hmem : resident.instanceID ∉ instances)
      (hstopping : .stopping resident.instanceID ∈ handlers)
  -- It is stopped, and its workspace is removed, or a goroutine is about to remove it.
  | removed (hlaunched : resident.launched = true) (hmem : resident.instanceID ∉ instances)
      (hstopped : resident.stopped = true)
      (hremoving : .removing resident.instanceID ∈ handlers ∨
        .expired resident.instanceID ∈ handlers ∨ resident.workspace = false)

/-- What a goroutine knows about the Runtime it works for. -/
structure RegistryHandler.Knows (instances : List ℕ) (handler : RegistryHandler)
    (resident : ResidentInstance) : Prop where
  launched : resident.launched = handler.admits?.isNone
  stopping : handler = .stopping resident.instanceID → resident.instanceID ∉ instances
  expired : handler = .expired resident.instanceID → resident.stopped = true

/-- The invariant: every Runtime has its place, and every goroutine works for a Runtime. -/
structure RegistryInvariant (d : DaemonRun) : Prop where
  placed : ∀ resident ∈ d.residents.values, resident.Placed d.instances d.handlers
  knows : ∀ handler ∈ d.handlers, ∀ id, handler.instanceID? = some id →
    ∃ resident, d.residents.get? id = some resident ∧ handler.Knows d.instances resident
  admits : (d.handlers.filterMap RegistryHandler.admits?).Nodup
  launched : ∀ id ∈ d.instances, ∃ resident,
    d.residents.get? id = some resident ∧ resident.launched = true
  bounded : ∀ resident ∈ d.residents.values, resident.instanceID < d.nextID
  emptied : d.stopping = true → d.instances = []

variable {handler : RegistryHandler}

lemma RegistryHandler.instanceID?_of_admits {id : ℕ}
    (h : handler.admits? = some id) : handler.instanceID? = some id := by
  cases handler <;> first | exact h | cases h

variable {instances instances' : List ℕ}

lemma ResidentInstance.Placed.congr {resident : ResidentInstance}
    {handlers handlers' : List RegistryHandler} (h : resident.Placed instances handlers)
    (hinstances : resident.instanceID ∈ instances' ↔ resident.instanceID ∈ instances)
    (hhandlers : ∀ handler ∈ handlers, handler.instanceID? = some resident.instanceID →
      (∀ id, handler ≠ .starting id ∧ handler ≠ .startFailed id ∧ handler ≠ .registered id) →
      handler ∈ handlers') : resident.Placed instances' handlers' := by
  have keep : ∀ handler ∈ handlers, handler.instanceID? = some resident.instanceID →
      (∀ id, handler ≠ .starting id ∧ handler ≠ .startFailed id ∧ handler ≠ .registered id) →
      handler ∈ handlers' := hhandlers
  cases h with
  | fresh hlaunched hstopped hloop handler hmem hadmits =>
    refine .fresh hlaunched hstopped hloop handler ?_ hadmits
    refine keep handler hmem (RegistryHandler.instanceID?_of_admits hadmits) fun id => ?_
    refine ⟨?_, ?_, ?_⟩ <;> rintro rfl <;> cases hadmits
  | registered hlaunched hmem hstopped =>
    refine .registered hlaunched (hinstances.mpr hmem) fun h => ?_
    refine (hstopped h).imp (fun h => keep _ h rfl ?_) fun h => keep _ h rfl ?_
    all_goals exact fun id => by simp
  | doomed hlaunched hmem hstopping =>
    exact .doomed hlaunched (fun h => hmem (hinstances.mp h)) (keep _ hstopping rfl (by simp))
  | removed hlaunched hmem hstopped hremoving =>
    refine .removed hlaunched (fun h => hmem (hinstances.mp h)) hstopped ?_
    exact hremoving.imp (fun h => keep _ h rfl (by simp))
      (Or.imp_left fun h => keep _ h rfl (by simp))

lemma RegistryHandler.Knows.congr {resident : ResidentInstance}
    (h : handler.Knows instances resident)
    (hinstances : resident.instanceID ∈ instances' → resident.instanceID ∈ instances) :
    handler.Knows instances' resident where
  launched := h.launched
  stopping := fun hstopping hmem => h.stopping hstopping (hinstances hmem)
  expired := h.expired

lemma RegistryHandler.Knows.of_launched {resident : ResidentInstance}
    {instances : List ℕ} (hlaunched : resident.launched = handler.admits?.isNone)
    (hother : ∀ id, handler ≠ .stopping id ∧ handler ≠ .expired id) :
    handler.Knows instances resident where
  launched := hlaunched
  stopping := fun h => absurd h (hother _).1
  expired := fun h => absurd h (hother _).2

namespace RegistryInvariant

variable {d : DaemonRun}

lemma noGhosts (h : RegistryInvariant d) : d.NoGhosts where
  accounted := by
    intro resident hresident
    cases h.placed resident hresident with
    | fresh _ _ _ handler hmem hadmits =>
      exact Or.inr (Or.inr ⟨handler, hmem, RegistryHandler.instanceID?_of_admits hadmits⟩)
    | registered _ hmem _ => exact Or.inl hmem
    | doomed _ _ hstopping => exact Or.inr (Or.inr ⟨_, hstopping, rfl⟩)
    | removed _ _ hstopped hremoving =>
      rcases hremoving with hremoving | hremoving | hworkspace
      · exact Or.inr (Or.inr ⟨_, hremoving, rfl⟩)
      · exact Or.inr (Or.inr ⟨_, hremoving, rfl⟩)
      · exact Or.inr (Or.inl ⟨hstopped, hworkspace⟩)
  unregistered := by
    intro resident hresident hstopped hmem
    cases h.placed resident hresident with
    | fresh _ hfresh => exact absurd hstopped (by rw [hfresh]; decide)
    | registered _ _ hremoves => exact hremoves hstopped
    | doomed _ hnot | removed _ hnot => exact absurd hmem hnot
  emptied := h.emptied
  halted := by
    intro hstopping resident hresident hrunning
    rw [ResidentInstance.running, Bool.and_eq_true, Bool.not_eq_true'] at hrunning
    cases h.placed resident hresident with
    | fresh _ _ hloop => exact absurd hrunning.1 (by rw [hloop]; decide)
    | registered _ hmem => exact absurd hmem (by rw [h.emptied hstopping]; exact List.not_mem_nil)
    | doomed _ _ hdoomed => exact hdoomed
    | removed _ _ hstopped => exact absurd hstopped (by rw [hrunning.2]; decide)

lemma stored {id : ℕ} {resident : ResidentInstance} (h : d.residents.get? id = some resident) :
    resident ∈ d.residents.values ∧ resident.instanceID = id :=
  KeyedMap.get?_eq_some_iff.mp h

lemma get?_nextID (h : RegistryInvariant d) : d.residents.get? d.nextID = none := by
  refine KeyedMap.get?_eq_none_iff.mpr fun resident hresident => ?_
  rw [ResidentInstance.key_eq]
  exact Nat.ne_of_lt (h.bounded resident hresident)

lemma ne_nextID (h : RegistryInvariant d) {handler : RegistryHandler} {id : ℕ}
    (hmem : handler ∈ d.handlers) (hid : handler.instanceID? = some id) : id ≠ d.nextID := by
  rintro rfl
  obtain ⟨resident, hget, _⟩ := h.knows handler hmem _ hid
  rw [h.get?_nextID] at hget
  cases hget

/-! ## A section of a goroutine -/

section Section

variable {d' : DaemonRun} {index id : ℕ} {old : RegistryHandler} {next : Option RegistryHandler}
  {resident resident' : ResidentInstance}

/-- What one section changes: one goroutine, and the Runtime it works for. -/
structure Section (d d' : DaemonRun) (id : ℕ) (next : Option RegistryHandler)
    (resident resident' : ResidentInstance) : Prop where
  -- The goroutines afterwards: those before, without one of this Runtime, and one more.
  came : ∀ handler ∈ d'.handlers, handler ∈ d.handlers ∨ next = some handler
  stayed : ∀ handler ∈ d.handlers, handler.instanceID? ≠ some id → handler ∈ d'.handlers
  next_id : ∀ handler, next = some handler → handler.instanceID? = some id
  get : d.residents.get? id = some resident
  get' : ∀ k, d'.residents.get? k = if k = id then some resident' else d.residents.get? k
  id' : resident'.instanceID = id
  instances' : ∀ k, k ≠ id → (k ∈ d'.instances ↔ k ∈ d.instances)
  stopping' : d'.stopping = d.stopping
  nextID' : d'.nextID = d.nextID

section

variable (h : RegistryInvariant d) (hsection : Section d d' id next resident resident')
include h hsection

lemma of_section (hplaced : resident'.Placed d'.instances d'.handlers)
    (hknows : ∀ handler ∈ d'.handlers, handler.instanceID? = some id →
      handler.Knows d'.instances resident')
    (hadmits : (d'.handlers.filterMap RegistryHandler.admits?).Nodup)
    (hlaunched : id ∈ d'.instances → resident'.launched = true)
    (hemptied : d'.stopping = true → d'.instances = []) : RegistryInvariant d' where
  placed := by
    intro other hother
    have hget := hsection.get' other.instanceID
    rw [show d'.residents.get? other.instanceID = some other from KeyedMap.get?_key hother] at hget
    split at hget
    · obtain rfl := Option.some.inj hget
      exact hplaced
    · next hne =>
      -- Another Runtime: its registration and its goroutines are as before.
      refine (h.placed other (stored hget.symm).1).congr (hsection.instances' _ hne) ?_
      intro handler hmem hid _
      refine hsection.stayed handler hmem fun hsame => hne ?_
      exact Option.some.inj (hid.symm.trans hsame)
  knows := by
    intro handler hmem k hk
    by_cases hne : k = id
    · subst hne
      exact ⟨resident', by rw [hsection.get', if_pos rfl], hknows handler hmem hk⟩
    · have hold : handler ∈ d.handlers := by
        rcases hsection.came handler hmem with hmem | hnext
        · exact hmem
        · exact absurd (Option.some.inj (hk.symm.trans (hsection.next_id _ hnext))) hne
      obtain ⟨other, hget, hother⟩ := h.knows handler hold k hk
      refine ⟨other, by rw [hsection.get', if_neg hne, hget], hother.congr fun hmem => ?_⟩
      rw [(stored hget).2] at hmem ⊢
      exact (hsection.instances' k hne).mp hmem
  admits := hadmits
  launched := by
    intro k hk
    by_cases hne : k = id
    · subst hne
      exact ⟨resident', by rw [hsection.get', if_pos rfl], hlaunched hk⟩
    · rw [hsection.get', if_neg hne]
      exact h.launched k ((hsection.instances' k hne).mp hk)
  bounded := by
    intro other hother
    have hget := hsection.get' other.instanceID
    rw [show d'.residents.get? other.instanceID = some other from KeyedMap.get?_key hother] at hget
    rw [hsection.nextID']
    split at hget
    · obtain rfl := Option.some.inj hget
      rw [hsection.id', ← (stored hsection.get).2]
      exact h.bounded resident (stored hsection.get).1
    · exact h.bounded other (stored hget.symm).1
  emptied := hemptied

lemma of_section_kept (hplaced : resident'.Placed d'.instances d'.handlers)
    (hnext : ∀ handler, next = some handler → handler.Knows d'.instances resident')
    (hadmits : (d'.handlers.filterMap RegistryHandler.admits?).Nodup)
    (hlaunched : resident'.launched = resident.launched)
    (hstopped : resident.stopped = true → resident'.stopped = true)
    (hinstances : ∀ k ∈ d'.instances, k ∈ d.instances) : RegistryInvariant d' := by
  have hid : resident'.instanceID = resident.instanceID :=
    hsection.id'.trans (stored hsection.get).2.symm
  refine h.of_section hsection hplaced ?_ hadmits ?_ ?_
  · intro handler hmem hk
    rcases hsection.came handler hmem with hmem | hmem
    · obtain ⟨other, hget, hother⟩ := h.knows handler hmem id hk
      obtain rfl := Option.some.inj (hget.symm.trans hsection.get)
      exact
        { launched := hlaunched.trans hother.launched
          stopping := by
            rw [hid]
            exact fun hstopping hin => hother.stopping hstopping (hinstances _ hin)
          expired := by
            rw [hid]
            exact fun hexpired => hstopped (hother.expired hexpired) }
    · exact hnext handler hmem
  · intro hmem
    obtain ⟨other, hget, hother⟩ := h.launched id (hinstances _ hmem)
    obtain rfl := Option.some.inj (hget.symm.trans hsection.get)
    exact hlaunched.trans hother
  · intro hstopping
    rw [hsection.stopping'] at hstopping
    refine List.eq_nil_iff_forall_not_mem.mpr fun k hk => ?_
    have hin := hinstances k hk
    rw [h.emptied hstopping] at hin
    exact absurd hin List.not_mem_nil

lemma of_section_launched (hfresh : resident.launched = false)
    (hothers : ∀ handler ∈ d'.handlers, handler.admits? ≠ some id)
    (hplaced : resident'.Placed d'.instances d'.handlers)
    (hnext : ∀ handler, next = some handler → handler.Knows d'.instances resident')
    (hadmits : (d'.handlers.filterMap RegistryHandler.admits?).Nodup)
    (hlaunched : resident'.launched = true)
    (hemptied : d'.stopping = true → d'.instances = []) : RegistryInvariant d' := by
  refine h.of_section hsection hplaced ?_ hadmits (fun _ => hlaunched) hemptied
  intro handler hmem hk
  rcases hsection.came handler hmem with hold | hnew
  · exfalso
    -- The Runtime is not launched, so this goroutine would admit it too.
    obtain ⟨other, hget, hother⟩ := h.knows handler hold id hk
    obtain rfl := Option.some.inj (hget.symm.trans hsection.get)
    have hsame := hother.launched
    rw [hfresh] at hsame
    cases hcase : handler.admits? with
    | none => rw [hcase] at hsame; cases hsame
    | some k =>
      refine hothers handler hmem ?_
      rw [hcase, ← hk, RegistryHandler.instanceID?_of_admits hcase]
  · exact hnext handler hnew

end

end Section

/-! ## The goroutines -/

section Goroutines

variable {index id : ℕ} {old : RegistryHandler} {next : Option RegistryHandler}

lemma admits_updateIdx (h : RegistryInvariant d) (next : Option RegistryHandler)
    (hold : d.handlers[index]? = some old) (hadmits : next.bind RegistryHandler.admits? = none ∨
      next.bind RegistryHandler.admits? = old.admits?) :
    ((d.handlers.updateIdx index next).filterMap RegistryHandler.admits?).Nodup := by
  obtain ⟨before, after, hbefore, hafter⟩ :=
    List.filterMap_updateIdx RegistryHandler.admits? hold
  have hnodup := h.admits
  rw [hbefore] at hnodup
  rw [hafter]
  rcases hadmits with hadmits | hadmits
  · rw [hadmits]
    refine hnodup.sublist (List.Sublist.append_left ?_ before)
    exact List.sublist_append_right _ _
  · rw [hadmits]
    exact hnodup

lemma not_admits_updateIdx (h : RegistryInvariant d) (next : Option RegistryHandler)
    (hold : d.handlers[index]? = some old) (hid : old.admits? = some id)
    (hnext : next.bind RegistryHandler.admits? = none)
    (handler : RegistryHandler) (hmem : handler ∈ d.handlers.updateIdx index next) :
    handler.admits? ≠ some id := by
  obtain ⟨before, after, hbefore, hafter⟩ :=
    List.filterMap_updateIdx RegistryHandler.admits? hold
  have hnodup := h.admits
  rw [hbefore, hid] at hnodup
  rw [show before ++ ((some id).toList ++ after) = before ++ id :: after from rfl,
    List.nodup_middle] at hnodup
  intro hadmits
  refine (List.nodup_cons.mp hnodup).1 ?_
  have hin : id ∈ (d.handlers.updateIdx index next).filterMap RegistryHandler.admits? :=
    List.mem_filterMap.mpr ⟨handler, hmem, hadmits⟩
  rw [hafter, hnext] at hin
  exact hin

lemma section_updateIdx {d' : DaemonRun} {resident resident' : ResidentInstance}
    (hold : d.handlers[index]? = some old) (hid : old.instanceID? = some id)
    (hnext : ∀ handler, next = some handler → handler.instanceID? = some id)
    (hget : d.residents.get? id = some resident)
    (hget' : ∀ k, d'.residents.get? k = if k = id then some resident' else d.residents.get? k)
    (hid' : resident'.instanceID = id) (hhandlers : d'.handlers = d.handlers.updateIdx index next)
    (hinstances : ∀ k, k ≠ id → (k ∈ d'.instances ↔ k ∈ d.instances))
    (hstopping : d'.stopping = d.stopping) (hnextID : d'.nextID = d.nextID) :
    Section d d' id next resident resident' where
  came := by
    rw [hhandlers]
    exact fun handler hmem => List.mem_updateIdx hmem
  stayed := by
    rw [hhandlers]
    intro handler hmem hne
    refine List.mem_updateIdx_of_ne hold hmem ?_
    rintro rfl
    exact hne hid
  next_id := hnext
  get := hget
  get' := hget'
  id' := hid'
  instances' := hinstances
  stopping' := hstopping
  nextID' := hnextID

end Goroutines

/-! ## Steps -/

section Steps

variable {index : ℕ} {old : RegistryHandler}

lemma get?_modify {id : ℕ} {resident : ResidentInstance} (hget : d.residents.get? id = some resident)
    (f : ResidentInstance → ResidentInstance) (hf : ∀ r, Keyed.key (f r) = Keyed.key r) (k : ℕ) :
    (d.residents.modify id f hf).get? k =
      if k = id then some (f resident) else d.residents.get? k := by
  rw [KeyedMap.get?_modify]
  by_cases hk : k = id
  · rw [if_pos hk.symm, if_pos hk, hk, hget]
    rfl
  · rw [if_neg (Ne.symm hk), if_neg hk]

lemma get?_same {id : ℕ} {resident : ResidentInstance} (hget : d.residents.get? id = some resident)
    (k : ℕ) : d.residents.get? k = if k = id then some resident else d.residents.get? k := by
  split
  · next hk => rw [hk, hget]
  · rfl

lemma mem_unregister {id k : ℕ} (hk : k ≠ id) :
    k ∈ (d.unregister id).instances ↔ k ∈ d.instances := by
  rw [DaemonRun.unregister, List.mem_filter]
  simp [hk]

lemma not_mem_unregister (id : ℕ) : id ∉ (d.unregister id).instances := by
  rw [DaemonRun.unregister, List.mem_filter]
  simp

lemma mem_register {id k : ℕ} (hk : k ≠ id) : k ∈ (d.register id).instances ↔ k ∈ d.instances := by
  rw [DaemonRun.register, List.mem_append, List.mem_filter]
  simp [hk]

/-- A Runtime is built for a request. -/
lemma of_prepareRuntime (h : RegistryInvariant d) {d' : DaemonRun} {isCreate : Bool}
    (hold : d.handlers[index]? = some (.admitted isCreate))
    (hresidents : d'.residents = d.residents.set { instanceID := d.nextID })
    (hhandlers : d'.handlers = d.handlers.updateIdx index (some (.prepared isCreate d.nextID)))
    (hinstances : d'.instances = d.instances) (hstopping : d'.stopping = d.stopping)
    (hnextID : d'.nextID = d.nextID + 1) : RegistryInvariant d' := by
  have hget' : ∀ k, d'.residents.get? k =
      if k = d.nextID then some { instanceID := d.nextID } else d.residents.get? k := by
    intro k
    rw [hresidents, KeyedMap.get?_set, ResidentInstance.key_eq]
    simp only [eq_comm]
  have hcases : ∀ resident ∈ d'.residents.values,
      resident = { instanceID := d.nextID } ∨ resident ∈ d.residents.values := by
    intro resident hresident
    have hget := hget' resident.instanceID
    rw [show d'.residents.get? resident.instanceID = some resident from
      KeyedMap.get?_key hresident] at hget
    split at hget
    · exact Or.inl (Option.some.inj hget)
    · exact Or.inr (stored hget.symm).1
  constructor
  · intro resident hresident
    rw [hinstances, hhandlers]
    rcases hcases resident hresident with rfl | hresident
    · exact .fresh rfl rfl rfl _ (List.mem_updateIdx_self hold) rfl
    · refine (h.placed resident hresident).congr Iff.rfl fun handler hmem hid _ => ?_
      refine List.mem_updateIdx_of_ne hold hmem ?_
      rintro rfl
      cases hid
  · intro handler hmem k hk
    rw [hhandlers] at hmem
    rw [hget', hinstances]
    rcases List.mem_updateIdx hmem with hmem | hmem
    · rw [if_neg (h.ne_nextID hmem hk)]
      exact h.knows handler hmem k hk
    · obtain rfl := Option.some.inj hmem
      obtain rfl : d.nextID = k := Option.some.inj hk
      rw [if_pos rfl]
      refine ⟨_, rfl, rfl, ?_, ?_⟩ <;> intro heq <;> cases heq
  · obtain ⟨before, after, hbefore, hafter⟩ :=
      List.filterMap_updateIdx RegistryHandler.admits? hold
    have hnodup := h.admits
    rw [hbefore] at hnodup
    rw [hhandlers, hafter]
    show (before ++ d.nextID :: after).Nodup
    rw [List.nodup_middle, List.nodup_cons]
    refine ⟨fun hin => ?_, hnodup⟩
    have hin' : d.nextID ∈ d.handlers.filterMap RegistryHandler.admits? := by
      rw [hbefore]
      exact hin
    obtain ⟨handler, hmem, hadmits⟩ := List.mem_filterMap.mp hin'
    exact h.ne_nextID hmem (RegistryHandler.instanceID?_of_admits hadmits) rfl
  · intro k hk
    rw [hinstances] at hk
    obtain ⟨resident, hget, hlaunched⟩ := h.launched k hk
    refine ⟨resident, ?_, hlaunched⟩
    rw [hget', if_neg, hget]
    rintro rfl
    rw [h.get?_nextID] at hget
    cases hget
  · intro resident hresident
    rw [hnextID]
    rcases hcases resident hresident with rfl | hresident
    · exact Nat.lt_succ_self _
    · exact Nat.lt_succ_of_lt (h.bounded resident hresident)
  · rw [hstopping, hinstances]
    exact h.emptied

lemma of_end (h : RegistryInvariant d) (hold : d.handlers[index]? = some old)
    (hends : ∀ resident ∈ d.residents.values, resident.Placed d.instances d.handlers →
      resident.Placed d.instances (d.handlers.eraseIdx index)) :
    RegistryInvariant { d with handlers := d.handlers.eraseIdx index } where
  placed := fun resident hresident => hends resident hresident (h.placed resident hresident)
  knows := fun handler hmem => h.knows handler (List.mem_of_mem_eraseIdx hmem)
  admits := h.admits_updateIdx none hold (Or.inl rfl)
  launched := h.launched
  bounded := h.bounded
  emptied := h.emptied

variable {id : ℕ} {resident : ResidentInstance}

section

variable (h : RegistryInvariant d)
include h

lemma knows_old (hold : d.handlers[index]? = some old)
    (hid : old.instanceID? = some id) : ∃ resident, d.residents.get? id = some resident ∧
      old.Knows d.instances resident :=
  h.knows old (List.mem_of_getElem? hold) id hid

lemma fresh (hget : d.residents.get? id = some resident) (hlaunched : resident.launched = false) :
    resident.stopped = false ∧ id ∉ d.instances := by
  obtain ⟨hmem, rfl⟩ := stored hget
  constructor
  · cases h.placed resident hmem with
    | fresh _ hstopped => exact hstopped
    | registered hnot | doomed hnot | removed hnot => exact absurd hnot (by rw [hlaunched]; decide)
  · intro hin
    obtain ⟨other, hother, hnot⟩ := h.launched _ hin
    obtain rfl := Option.some.inj (hother.symm.trans hget)
    exact absurd hnot (by rw [hlaunched]; decide)

lemma of_register {next : RegistryHandler}
    (hold : d.handlers[index]? = some old) (hid : old.admits? = some id)
    (hstopping : d.stopping = false) (hnext : next = .starting id ∨ next = .registered id) :
    RegistryInvariant { d.register id with
      handlers := d.handlers.updateIdx index (some next) } := by
  have holdID := RegistryHandler.instanceID?_of_admits hid
  obtain ⟨resident, hget, hknows⟩ := h.knows_old hold holdID
  have hfresh : resident.launched = false := by rw [hknows.launched, hid]; rfl
  obtain ⟨hstopped, -⟩ := h.fresh hget hfresh
  have hnextID : next.instanceID? = some id := by rcases hnext with rfl | rfl <;> rfl
  have hnextAdmits : next.admits? = none := by rcases hnext with rfl | rfl <;> rfl
  have hin : id ∈ (d.register id).instances :=
    List.mem_append_right _ List.mem_cons_self
  have hsection : Section d
      { d.register id with handlers := d.handlers.updateIdx index (some next) } id (some next)
      resident resident.launch :=
    section_updateIdx hold holdID (fun handler heq => by cases heq; exact hnextID) hget
      (get?_modify hget _ ResidentInstance.key_launch) (stored hget).2 rfl (fun k hk => mem_register hk)
      rfl rfl
  refine h.of_section_launched hsection hfresh ?_ ?_ ?_ ?_ rfl ?_
  · exact h.not_admits_updateIdx (some next) hold hid hnextAdmits
  · refine .registered rfl ?_ fun hstop => ?_
    · show resident.instanceID ∈ _
      rw [(stored hget).2]
      exact hin
    · exact absurd hstop (by rw [show resident.launch.stopped = false from hstopped]; decide)
  · rintro handler hhandler
    obtain rfl := Option.some.inj hhandler
    refine ⟨by rw [hnextAdmits]; rfl, ?_, ?_⟩ <;> rintro rfl <;> simp at hnext
  · exact h.admits_updateIdx (some next) hold (Or.inl hnextAdmits)
  · intro hstop
    exact absurd hstop (by rw [show (d.register id).stopping = false from hstopping]; decide)

lemma of_giveUp (hold : d.handlers[index]? = some old) (hid : old.admits? = some id) :
    RegistryInvariant { d.giveUp id with
      handlers := d.handlers.updateIdx index (some (.stopping id)) } := by
  have holdID := RegistryHandler.instanceID?_of_admits hid
  obtain ⟨resident, hget, hknows⟩ := h.knows_old hold holdID
  have hfresh : resident.launched = false := by rw [hknows.launched, hid]; rfl
  obtain ⟨hstopped, hnot⟩ := h.fresh hget hfresh
  have hsame : resident.launch.instanceID = id := (stored hget).2
  have hsection : Section d
      { d.giveUp id with handlers := d.handlers.updateIdx index (some (.stopping id)) } id
      (some (.stopping id)) resident resident.launch :=
    section_updateIdx hold holdID (fun handler heq => by cases heq; rfl) hget
      (get?_modify hget _ ResidentInstance.key_launch) hsame rfl (fun k _ => Iff.rfl) rfl rfl
  refine h.of_section_launched hsection hfresh ?_ ?_ ?_ ?_ rfl h.emptied
  · exact h.not_admits_updateIdx (some (.stopping id)) hold hid rfl
  · refine .doomed rfl ?_ ?_
    · rw [hsame]
      exact hnot
    · rw [hsame]
      exact List.mem_updateIdx_self hold
  · rintro handler hhandler
    obtain rfl := Option.some.inj hhandler
    refine ⟨rfl, fun _ => ?_, fun heq => by cases heq⟩
    rw [hsame]
    exact hnot
  · exact h.admits_updateIdx (some (.stopping id)) hold (Or.inl rfl)

lemma of_launched {d' : DaemonRun} {resident' : ResidentInstance}
    (next : Option RegistryHandler) (hold : d.handlers[index]? = some old)
    (hid : old.instanceID? = some id) (hget : d.residents.get? id = some resident)
    (hget' : ∀ k, d'.residents.get? k = if k = id then some resident' else d.residents.get? k)
    (hhandlers : d'.handlers = d.handlers.updateIdx index next)
    (hinstances : ∀ k, k ≠ id → (k ∈ d'.instances ↔ k ∈ d.instances))
    (hsubset : ∀ k ∈ d'.instances, k ∈ d.instances)
    (hstopping : d'.stopping = d.stopping) (hnextID : d'.nextID = d.nextID)
    (hid' : resident'.instanceID = resident.instanceID)
    (hlaunched : resident'.launched = resident.launched)
    (hstopped : resident.stopped = true → resident'.stopped = true)
    (hnext : ∀ handler, next = some handler →
      handler.instanceID? = some id ∧ handler.Knows d'.instances resident')
    (hadmits : next.bind RegistryHandler.admits? = none ∨
      next.bind RegistryHandler.admits? = old.admits?)
    (hplaced : resident'.Placed d'.instances d'.handlers) : RegistryInvariant d' := by
  have hsection : Section d d' id next resident resident' :=
    section_updateIdx hold hid (fun handler heq => (hnext handler heq).1) hget hget'
      (hid'.trans (stored hget).2) hhandlers hinstances hstopping hnextID
  refine h.of_section_kept hsection hplaced (fun handler heq => (hnext handler heq).2) ?_ hlaunched
    hstopped hsubset
  rw [hhandlers]
  exact h.admits_updateIdx next hold hadmits

lemma of_startLoop (hold : d.handlers[index]? = some old)
    (hstarts : old = .starting id ∨ old = .registered id) :
    RegistryInvariant { d.startLoop id with handlers := d.handlers.updateIdx index none } := by
  have hid : old.instanceID? = some id := by rcases hstarts with rfl | rfl <;> rfl
  obtain ⟨resident, hget, hknows⟩ := h.knows_old hold hid
  have hlaunched : resident.launched = true := by
    rw [hknows.launched]
    rcases hstarts with rfl | rfl <;> rfl
  refine h.of_launched none hold hid hget (get?_modify hget _ ResidentInstance.key_startLoop) rfl
    (fun k _ => Iff.rfl) (fun k hk => hk) rfl rfl rfl rfl (fun hs => hs)
    (fun handler heq => by cases heq) (Or.inl rfl) ?_
  have hplaced : resident.Placed d.instances (d.handlers.updateIdx index none) := by
    refine (h.placed resident (stored hget).1).congr Iff.rfl fun handler hmem _ hother => ?_
    refine List.mem_updateIdx_of_ne hold hmem ?_
    rintro rfl
    rcases hstarts with rfl | rfl
    · exact (hother id).1 rfl
    · exact (hother id).2.2 rfl
  cases hplaced with
  | fresh hfresh => exact absurd hlaunched (by rw [hfresh]; decide)
  | registered hl hmem hstopped => exact .registered hl hmem hstopped
  | doomed hl hmem hstopping => exact .doomed hl hmem hstopping
  | removed hl hmem hstopped hremoving => exact .removed hl hmem hstopped hremoving

lemma of_adopt (hold : d.handlers[index]? = some (.prepared true id)) : RegistryInvariant { d with
      handlers := d.handlers.updateIdx index (some (.adopted id)) } := by
  obtain ⟨resident, hget, hknows⟩ := h.knows_old hold rfl
  obtain ⟨hstopped, hnot⟩ := h.fresh hget hknows.launched
  have hnext : RegistryHandler.adopted id ∈ d.handlers.updateIdx index (some (.adopted id)) :=
    List.mem_updateIdx_self hold
  refine h.of_launched (some (.adopted id)) hold rfl hget (get?_same hget) rfl
    (fun k _ => Iff.rfl) (fun k hk => hk) rfl rfl rfl rfl (fun hs => hs) ?_ (Or.inr rfl) ?_
  · intro handler heq
    cases heq
    exact ⟨rfl, .of_launched hknows.launched fun k => by simp⟩
  · cases h.placed resident (stored hget).1 with
    | fresh hl hs hloop => exact .fresh hl hs hloop _ hnext (by rw [(stored hget).2]; rfl)
    | registered hl | doomed hl | removed hl =>
      exact absurd (hknows.launched.symm.trans hl) Bool.false_ne_true

lemma of_startFailed (hold : d.handlers[index]? = some (.starting id)) : RegistryInvariant { d with
      handlers := d.handlers.updateIdx index (some (.startFailed id)) } := by
  obtain ⟨resident, hget, hknows⟩ := h.knows_old hold rfl
  refine h.of_launched (some (.startFailed id)) hold rfl hget (get?_same hget) rfl
    (fun k _ => Iff.rfl) (fun k hk => hk) rfl rfl rfl rfl (fun hs => hs) ?_ (Or.inl rfl) ?_
  · intro handler heq
    cases heq
    exact ⟨rfl, .of_launched hknows.launched fun k => by simp⟩
  · refine (h.placed resident (stored hget).1).congr Iff.rfl fun handler hmem _ hother => ?_
    show handler ∈ d.handlers.updateIdx index (some (.startFailed id))
    refine List.mem_updateIdx_of_ne hold hmem ?_
    rintro rfl
    exact (hother id).1 rfl

lemma of_unregister (hold : d.handlers[index]? = some old)
    (hid : old = .startFailed id ∨ old = .selfLeft id) : RegistryInvariant { d.unregister id with
      handlers := d.handlers.updateIdx index (some (.stopping id)) } := by
  have holdID : old.instanceID? = some id := by rcases hid with rfl | rfl <;> rfl
  obtain ⟨resident, hget, hknows⟩ := h.knows_old hold holdID
  have hlaunched : resident.launched = true := by
    rw [hknows.launched]
    rcases hid with rfl | rfl <;> rfl
  have hsame := (stored hget).2
  have hnot : resident.instanceID ∉ (d.unregister id).instances := by
    rw [hsame]
    exact not_mem_unregister id
  refine h.of_launched (some (.stopping id)) hold holdID hget (get?_same hget) rfl
    (fun k hk => mem_unregister hk) (fun k hk => (List.mem_filter.mp hk).1) rfl rfl rfl rfl
    (fun hs => hs) ?_ (Or.inl rfl) ?_
  · intro handler heq
    cases heq
    exact ⟨rfl, hlaunched, fun _ => hnot, fun heq => by cases heq⟩
  · refine .doomed hlaunched hnot ?_
    rw [hsame]
    exact List.mem_updateIdx_self hold

lemma of_expired (hold : d.handlers[index]? = some (.expired id)) :
    RegistryInvariant { d.unregister id with
      handlers := d.handlers.updateIdx index (some (.removing id)) } := by
  obtain ⟨resident, hget, hknows⟩ := h.knows_old hold rfl
  have hsame := (stored hget).2
  have hstopped : resident.stopped = true := hknows.expired (by rw [hsame])
  refine h.of_launched (some (.removing id)) hold rfl hget (get?_same hget) rfl
    (fun k hk => mem_unregister hk) (fun k hk => (List.mem_filter.mp hk).1) rfl rfl rfl rfl
    (fun hs => hs) ?_ (Or.inl rfl) ?_
  · intro handler heq
    cases heq
    exact ⟨rfl, .of_launched hknows.launched fun k => by simp⟩
  · refine .removed hknows.launched ?_ hstopped (Or.inl ?_)
    · rw [hsame]
      exact not_mem_unregister id
    · rw [hsame]
      exact List.mem_updateIdx_self hold

lemma of_stopRuntime (hold : d.handlers[index]? = some (.stopping id)) :
    RegistryInvariant { d.stopRuntime id with
      handlers := d.handlers.updateIdx index (some (.removing id)) } := by
  obtain ⟨resident, hget, hknows⟩ := h.knows_old hold rfl
  have hsame := (stored hget).2
  refine h.of_launched (some (.removing id)) hold rfl hget (get?_modify hget _ ResidentInstance.key_stop)
    rfl (fun k _ => Iff.rfl) (fun k hk => hk) rfl rfl rfl rfl (fun _ => rfl) ?_ (Or.inl rfl) ?_
  · intro handler heq
    cases heq
    exact ⟨rfl, .of_launched hknows.launched fun k => by simp⟩
  · refine .removed hknows.launched (hknows.stopping (by rw [hsame])) rfl (Or.inl ?_)
    show RegistryHandler.removing resident.instanceID ∈
      d.handlers.updateIdx index (some (.removing id))
    rw [hsame]
    exact List.mem_updateIdx_self hold

lemma of_removeWorkspace (hold : d.handlers[index]? = some (.removing id)) :
    RegistryInvariant { d.removeWorkspace id with
      handlers := d.handlers.updateIdx index none } := by
  obtain ⟨resident, hget, hknows⟩ := h.knows_old hold rfl
  refine h.of_launched none hold rfl hget (get?_modify hget _ ResidentInstance.key_removeWorkspace) rfl
    (fun k _ => Iff.rfl) (fun k hk => hk) rfl rfl rfl rfl (fun hs => hs)
    (fun handler heq => by cases heq) (Or.inl rfl) ?_
  -- Only the place of a stopped Runtime refers to this goroutine, or to the workspace.
  have keep : ∀ handler ∈ d.handlers, handler ≠ .removing id →
      handler ∈ d.handlers.updateIdx index none := fun handler hmem hne =>
    List.mem_updateIdx_of_ne hold hmem hne
  cases h.placed resident (stored hget).1 with
  | fresh hfresh => exact absurd (hfresh.symm.trans hknows.launched) Bool.false_ne_true
  | registered hl hmem hstopped =>
    refine .registered hl hmem fun hs => ?_
    exact (hstopped hs).imp (fun hin => keep _ hin (by simp)) fun hin => keep _ hin (by simp)
  | doomed hl hmem hstopping => exact .doomed hl hmem (keep _ hstopping (by simp))
  | removed hl hmem hstopped => exact .removed hl hmem hstopped (Or.inr (Or.inr rfl))

lemma of_selfLeft (hold : d.handlers[index]? = some (.selfLeft id)) (hnot : id ∉ d.instances) :
    RegistryInvariant { d with handlers := d.handlers.updateIdx index none } := by
  obtain ⟨resident, hget, hknows⟩ := h.knows_old hold rfl
  refine h.of_launched none hold rfl hget (get?_same hget) rfl
    (fun k _ => Iff.rfl) (fun k hk => hk) rfl rfl rfl rfl (fun hs => hs)
    (fun handler heq => by cases heq) (Or.inl rfl) ?_
  have keep : ∀ handler ∈ d.handlers, handler ≠ .selfLeft id →
      handler ∈ d.handlers.updateIdx index none := fun handler hmem hne =>
    List.mem_updateIdx_of_ne hold hmem hne
  cases h.placed resident (stored hget).1 with
  | fresh hfresh => exact absurd (hfresh.symm.trans hknows.launched) Bool.false_ne_true
  | registered _ hmem => exact absurd hmem (by rw [(stored hget).2]; exact hnot)
  | doomed hl hmem hstopping => exact .doomed hl hmem (keep _ hstopping (by simp))
  | removed hl hmem hstopped hremoving =>
    refine .removed hl hmem hstopped ?_
    exact hremoving.imp (fun hin => keep _ hin (by simp))
      (Or.imp_left fun hin => keep _ hin (by simp))

lemma of_advance (hold : d.handlers[index]? = some old)
    (hguard : old.registers = true → d.stopping = false) (succeeds : Bool) :
    RegistryInvariant { (d.advance old succeeds).1 with
      handlers := d.handlers.updateIdx index (d.advance old succeeds).2 } := by
  cases old with
  | admitted isCreate =>
    cases succeeds with
    | true => exact h.of_prepareRuntime hold rfl rfl rfl rfl rfl
    | false =>
      refine h.of_end hold fun resident _ hplaced => hplaced.congr Iff.rfl ?_
      intro handler hmem hid _
      show handler ∈ d.handlers.updateIdx index none
      refine List.mem_updateIdx_of_ne hold hmem ?_
      rintro rfl
      cases hid
  | prepared isCreate id =>
    cases isCreate with
    | false => exact h.of_register hold rfl (hguard rfl) (Or.inl rfl)
    | true =>
      cases succeeds with
      | true => exact h.of_adopt hold
      | false => exact h.of_giveUp hold rfl
  | adopted id => exact h.of_register hold rfl (hguard rfl) (Or.inr rfl)
  | starting id =>
    cases succeeds with
    | true => exact h.of_startLoop hold (Or.inl rfl)
    | false => exact h.of_startFailed hold
  | startFailed id => exact h.of_unregister hold (Or.inl rfl)
  | registered id => exact h.of_startLoop hold (Or.inr rfl)
  | stopping id => exact h.of_stopRuntime hold
  | removing id => exact h.of_removeWorkspace hold
  | expired id => exact h.of_expired hold
  | selfLeft id =>
    by_cases hmem : id ∈ d.instances
    · rw [DaemonRun.advance, if_pos hmem]
      exact h.of_unregister hold (Or.inr rfl)
    · rw [DaemonRun.advance, if_neg hmem]
      exact h.of_selfLeft hold hmem

lemma of_spawned {d' : DaemonRun} {resident' : ResidentInstance}
    (new : RegistryHandler) (hid : new.instanceID? = some id) (hadmits : new.admits? = none)
    (hget : d.residents.get? id = some resident)
    (hget' : ∀ k, d'.residents.get? k = if k = id then some resident' else d.residents.get? k)
    (hhandlers : d'.handlers = d.handlers ++ [new])
    (hinstances : ∀ k, k ≠ id → (k ∈ d'.instances ↔ k ∈ d.instances))
    (hsubset : ∀ k ∈ d'.instances, k ∈ d.instances)
    (hstopping : d'.stopping = d.stopping) (hnextID : d'.nextID = d.nextID)
    (hid' : resident'.instanceID = resident.instanceID)
    (hlaunched : resident'.launched = resident.launched)
    (hstopped : resident.stopped = true → resident'.stopped = true)
    (hnew : new.Knows d'.instances resident')
    (hplaced : resident'.Placed d'.instances d'.handlers) : RegistryInvariant d' := by
  have hsection : Section d d' id (some new) resident resident' :=
    { came := by
        rw [hhandlers]
        intro handler hmem
        rcases List.mem_append.mp hmem with hmem | hmem
        · exact Or.inl hmem
        · exact Or.inr (by rw [List.mem_singleton.mp hmem])
      stayed := by
        rw [hhandlers]
        exact fun handler hmem _ => List.mem_append_left _ hmem
      next_id := fun handler heq => by cases heq; exact hid
      get := hget
      get' := hget'
      id' := hid'.trans (stored hget).2
      instances' := hinstances
      stopping' := hstopping
      nextID' := hnextID }
  refine h.of_section_kept hsection hplaced (fun handler heq => by cases heq; exact hnew) ?_
    hlaunched hstopped hsubset
  rw [hhandlers, List.filterMap_append, List.filterMap_cons_none hadmits, List.filterMap_nil,
    List.append_nil]
  exact h.admits

lemma of_leave (id : ℕ) : RegistryInvariant (d.leave id) := by
  unfold DaemonRun.leave
  split
  · next hmem =>
    obtain ⟨resident, hget, hlaunched⟩ := h.launched id hmem
    have hsame := (stored hget).2
    have hnot : resident.instanceID ∉ (d.unregister id).instances := by
      rw [hsame]
      exact not_mem_unregister id
    refine h.of_spawned (.stopping id) rfl rfl hget (get?_same hget) rfl
      (fun k hk => mem_unregister hk) (fun k hk => (List.mem_filter.mp hk).1) rfl rfl rfl rfl
      (fun hs => hs) ⟨hlaunched, fun _ => hnot, fun heq => by cases heq⟩ ?_
    refine .doomed hlaunched hnot ?_
    rw [hsame]
    exact List.mem_append_right _ List.mem_cons_self
  · exact h

lemma of_stopped (hrunning : d.isRunning id = true)
    (new : RegistryHandler) (hnew : new = .expired id ∨ new = .selfLeft id) :
    RegistryInvariant ((d.stopRuntime id).spawn new) := by
  obtain ⟨resident, hget, hrun⟩ := (Option.any_eq_true _ _).mp hrunning
  rw [ResidentInstance.running, Bool.and_eq_true, Bool.not_eq_true'] at hrun
  have hsame := (stored hget).2
  have hold : ∀ handler ∈ d.handlers, handler ∈ d.handlers ++ [new] := fun handler hmem =>
    List.mem_append_left _ hmem
  have hplaced := h.placed resident (stored hget).1
  have hlaunched : resident.launched = true := by
    cases hplaced with
    | fresh _ _ hloop => exact absurd hrun.1 (by rw [hloop]; decide)
    | registered hl | doomed hl | removed hl => exact hl
  have hin : new ∈ d.handlers ++ [new] := List.mem_append_right _ List.mem_cons_self
  refine h.of_spawned new ?_ ?_ hget (get?_modify hget _ ResidentInstance.key_stop) rfl
    (fun k _ => Iff.rfl) (fun k hk => hk) rfl rfl rfl rfl (fun _ => rfl) ?_ ?_
  · rcases hnew with rfl | rfl <;> rfl
  · rcases hnew with rfl | rfl <;> rfl
  · rcases hnew with rfl | rfl
    · exact ⟨hlaunched, (fun heq => by cases heq), fun _ => rfl⟩
    · exact .of_launched hlaunched fun k => by simp
  · cases hplaced with
    | fresh hfresh => exact absurd (hfresh.symm.trans hlaunched) Bool.false_ne_true
    | registered hl hmem =>
      refine .registered hl hmem fun _ => ?_
      show RegistryHandler.expired resident.instanceID ∈ d.handlers ++ [new] ∨
        RegistryHandler.selfLeft resident.instanceID ∈ d.handlers ++ [new]
      rw [hsame]
      rcases hnew with rfl | rfl
      · exact Or.inl hin
      · exact Or.inr hin
    | doomed hl hmem hstopping => exact .doomed hl hmem (hold _ hstopping)
    | removed _ _ hstopped => exact absurd hstopped (by rw [hrun.2]; decide)

lemma of_beginStop : RegistryInvariant d.beginStop where
  placed := by
    intro resident hresident
    have hold : ∀ handler ∈ d.handlers, handler ∈ d.beginStop.handlers := fun handler hmem =>
      List.mem_append_left _ hmem
    cases h.placed resident hresident with
    | fresh hl hs hloop handler hmem hadmits =>
      exact .fresh hl hs hloop handler (hold handler hmem) hadmits
    | registered hl hmem =>
      refine .doomed hl List.not_mem_nil (List.mem_append_right _ ?_)
      exact List.mem_map_of_mem hmem
    | doomed hl _ hstopping => exact .doomed hl List.not_mem_nil (hold _ hstopping)
    | removed hl _ hstopped hremoving =>
      refine .removed hl List.not_mem_nil hstopped ?_
      exact hremoving.imp (hold _) (Or.imp_left (hold _))
  knows := by
    intro handler hmem id hid
    rcases List.mem_append.mp hmem with hmem | hmem
    · obtain ⟨resident, hget, hknows⟩ := h.knows handler hmem id hid
      refine ⟨resident, hget, hknows.congr fun hin => ?_⟩
      exact absurd hin List.not_mem_nil
    · obtain ⟨k, hk, rfl⟩ := List.mem_map.mp hmem
      obtain rfl := Option.some.inj hid
      obtain ⟨resident, hget, hlaunched⟩ := h.launched k hk
      exact ⟨resident, hget, hlaunched, fun _ => List.not_mem_nil, fun heq => by cases heq⟩
  admits := by
    show ((d.handlers ++ d.instances.map RegistryHandler.stopping).filterMap
      RegistryHandler.admits?).Nodup
    have hnone : (d.instances.map RegistryHandler.stopping).filterMap RegistryHandler.admits? =
        [] := by
      rw [List.filterMap_map]
      exact List.filterMap_eq_nil_iff.mpr fun _ _ => rfl
    rw [List.filterMap_append, hnone, List.append_nil]
    exact h.admits
  launched := fun id hid => absurd hid List.not_mem_nil
  bounded := h.bounded
  emptied := fun _ => rfl

lemma of_dispatch (isCreate : Bool) : RegistryInvariant (d.dispatch isCreate) := by
  unfold DaemonRun.dispatch
  split
  · exact h
  · have hold : ∀ handler ∈ d.handlers, handler ∈ d.handlers ++ [.admitted isCreate] :=
      fun handler hmem => List.mem_append_left _ hmem
    constructor
    · intro resident hresident
      exact (h.placed resident hresident).congr Iff.rfl fun handler hmem _ _ => hold handler hmem
    · intro handler hmem id hid
      rcases List.mem_append.mp hmem with hmem | hmem
      · exact h.knows handler hmem id hid
      · rw [List.mem_singleton.mp hmem] at hid
        cases hid
    · show ((d.handlers ++ [RegistryHandler.admitted isCreate]).filterMap
        RegistryHandler.admits?).Nodup
      rw [List.filterMap_append, List.filterMap_cons_none rfl, List.filterMap_nil,
        List.append_nil]
      exact h.admits
    · exact h.launched
    · exact h.bounded
    · exact h.emptied

end

lemma init : RegistryInvariant {} where
  placed := fun _ h => absurd h List.not_mem_nil
  knows := fun _ h => absurd h List.not_mem_nil
  admits := List.nodup_nil
  launched := fun _ h => absurd h List.not_mem_nil
  bounded := fun _ h => absurd h List.not_mem_nil
  emptied := fun _ => rfl

lemma of_next {d' : DaemonRun} {label : DaemonStep} (h : RegistryInvariant d)
    (hguard : d.admitsBeforeStop label = true) (hstep : d.next? label = some d') :
    RegistryInvariant d' := by
  cases label with
  | dispatch isCreate => cases hstep; exact h.of_dispatch isCreate
  | advance index succeeds =>
    obtain ⟨old, hold, rfl⟩ := Option.map_eq_some_iff.mp hstep
    refine h.of_advance hold (fun hregisters => ?_) succeeds
    rw [DaemonRun.admitsBeforeStop, hold] at hguard
    cases hstopping : d.stopping with
    | false => rfl
    | true => simp [hstopping, hregisters] at hguard
  | leave id => cases hstep; exact h.of_leave id
  | expire id =>
    rw [DaemonRun.next?, Option.ite_none_right_eq_some] at hstep
    obtain ⟨hrunning, hstep⟩ := hstep
    cases hstep
    exact h.of_stopped hrunning _ (Or.inl rfl)
  | selfLeave id =>
    rw [DaemonRun.next?, Option.ite_none_right_eq_some] at hstep
    obtain ⟨hrunning, hstep⟩ := hstep
    cases hstep
    exact h.of_stopped hrunning _ (Or.inr rfl)
  | beginStop => cases hstep; exact h.of_beginStop
  | finishStop =>
    rw [DaemonRun.next?, Option.ite_none_right_eq_some] at hstep
    obtain ⟨-, hstep⟩ := hstep
    cases hstep
    exact ⟨h.placed, h.knows, h.admits, h.launched, h.bounded, h.emptied⟩

end Steps

end RegistryInvariant

/-! ## Runs -/

/-- The labels of a run in which the Runtime of a join starts, and its Room expires. -/
def expiredJoin : List DaemonStep :=
  [.dispatch false, .advance 0 true, .advance 0 true, .advance 0 true, .expire 0, .advance 0 true,
    .advance 0 true, .beginStop]

/-- The labels of a run in which a create passes the check, the daemon stops, and the create goes
on: its Runtime is adopted, registered, and its wait loop is started. -/
def lateCreate : List DaemonStep :=
  [.dispatch true, .advance 0 true, .beginStop, .advance 0 true, .advance 0 true, .advance 0 true]

end Free4Chat
