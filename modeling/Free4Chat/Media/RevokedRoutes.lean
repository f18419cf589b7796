import Free4Chat.Media.ParticipantTransport

/-!
# Revoked Routes Are Not Honoured

Once the Runtime has finished with a projection, a frame that it receives from a Human is handed to
the handler only on the channel that is bound to the Human, and only if the projection has a route
for the App, its revision, the Task, the agent and the Human that lists the capability. This holds
in every run in which an update that gives up before it takes anything away finds only routes that
its projection grants.

The source breaks this as `Update` returns before it takes the old routes away when a route is for
another agent, or when none of the capabilities is there locally.

* `TransportRun.HonoursGranted`: what holds of states.
* `TransportRun.takesAway`: the condition on the steps.
* `honoursGranted_of_takesAway`: the property, over every run.
* `not_honoursGranted`: a run in which a revoked route is honoured.
-/

namespace Free4Chat

/-! ## The property -/

namespace TransportProjection

variable (projection : TransportProjection)

/-- Whether a projection has a route for what a Human requests. -/
def lists (human : String) (frame : CapabilityFrame) : Bool :=
  projection.routes.any fun route =>
    route.appInstanceID = frame.appInstanceID && route.humanParticipantID = human &&
      route.accepts frame

/-- Whether a projection has a route that allows what another one does. -/
def grants (route : CapabilityRoute) : Bool :=
  projection.routes.any fun granted =>
    granted.key = route.key && granted.bundleRevision = route.bundleRevision &&
      granted.taskRequestID = route.taskRequestID &&
      granted.agentParticipantID = route.agentParticipantID &&
      route.capabilityIDs.all granted.capabilityIDs.contains

end TransportProjection

namespace TransportRun

variable (c : TransportRun)

/-- Nothing is left to do for the projection that was observed last. -/
structure Finished (c : TransportRun) : Prop where
  observing : c.observing = []
  starts : ∀ start ∈ c.starts.values, start.task.generation ≠ c.generation
  waiting : ∀ task ∈ c.waiting, task.generation ≠ c.generation
  updating : ∀ update, c.updating = some update → update.1.generation ≠ c.generation
  retry : c.retry = none

/-- What is handed to the handler came on the channel of its Human, and is granted by the last
projection once the Runtime has finished with it. -/
def HonoursGranted (c : TransportRun) : Prop :=
  ∀ t ∈ c.transports, ∀ ready human channel frame route,
    t.receive? ready human channel frame = some route →
      (t.lanes.get? human).map ParticipantLane.channel = some channel ∧
        (c.Finished → c.latest.any (fun projection => projection.lists human frame) = true)

/-- An update that gives up before it takes anything away finds only routes that its projection
grants. -/
def takesAway : TransportStep → Bool
  | .updateOn available _ _ =>
    match c.updating with
    | some (task, .validating) =>
      (c.updateRoutes? task available).isSome ||
        (c.transport task.transport).routes.values.all task.projection.grants
    | _ => true
  | _ => true

end TransportRun

/-! ## Routes -/

variable {route : CapabilityRoute}

lemma TransportProjection.grants_restrict {projection : TransportProjection}
    (h : route ∈ projection.routes) (available : List String) :
    projection.grants (route.restrict available) = true := by
  refine List.any_eq_true.mpr ⟨route, h, ?_⟩
  have hall : (route.restrict available).capabilityIDs.all route.capabilityIDs.contains = true := by
    refine List.all_eq_true.mpr fun id hid => ?_
    exact List.contains_iff_mem.mpr (List.mem_filter.mp hid).1
  rw [hall]
  simp only [CapabilityRoute.restrict, CapabilityRoute.key, decide_true, Bool.and_self]

lemma TransportProjection.lists_of_grants {projection : TransportProjection}
    (h : projection.grants route = true) {human : String}
    {frame : CapabilityFrame} (hkey : route.key = (frame.appInstanceID, human))
    (haccepts : route.accepts frame = true) : projection.lists human frame = true := by
  obtain ⟨granted, hmem, hgranted⟩ := List.any_eq_true.mp h
  simp only [Bool.and_eq_true, decide_eq_true_eq] at hgranted
  obtain ⟨⟨⟨⟨hsame, hrevision⟩, htask⟩, hagent⟩, hall⟩ := hgranted
  simp only [CapabilityRoute.accepts, Bool.and_eq_true, decide_eq_true_eq] at haccepts
  obtain ⟨⟨⟨hfRevision, hfTask⟩, hfAgent⟩, hfCapability⟩ := haccepts
  have hcontains := List.all_eq_true.mp hall _ (List.contains_iff_mem.mp hfCapability)
  have hgrantedKey := hsame.trans hkey
  refine List.any_eq_true.mpr ⟨granted, hmem, ?_⟩
  simp only [CapabilityRoute.accepts, Bool.and_eq_true, decide_eq_true_eq]
  refine ⟨⟨congrArg Prod.fst hgrantedKey, congrArg Prod.snd hgrantedKey⟩, ⟨⟨?_, ?_⟩, ?_⟩, hcontains⟩
  · rw [hfRevision, hrevision]
  · rw [hfTask, htask]
  · rw [hfAgent, hagent]

lemma mem_of_mem_routesByKey {routes : List CapabilityRoute}
    (h : route ∈ (routesByKey routes).values) : route ∈ routes := by
  have hfold : ∀ (routes : List CapabilityRoute) (m : KeyedMap CapabilityRoute),
      route ∈ (routes.foldl KeyedMap.set m).values → route ∈ m.values ∨ route ∈ routes := by
    intro routes
    induction routes with
    | nil => exact fun m hmem => Or.inl hmem
    | cons first routes ih =>
      intro m hmem
      rcases ih _ hmem with hset | hrest
      · rcases KeyedMap.mem_set.mp hset with rfl | ⟨hold, -⟩
        · exact Or.inr List.mem_cons_self
        · exact Or.inl hold
      · exact Or.inr (List.mem_cons_of_mem _ hrest)
  rcases hfold routes .empty h with hnone | hmem
  · cases hnone
  · exact hmem

namespace TransportRun

variable {c : TransportRun}

lemma grants_of_filterRoutes? {available : List String} {projection : TransportProjection}
    {routes : List CapabilityRoute}
    (h : c.filterRoutes? available projection.routes = some routes) :
    ∀ route ∈ routes, projection.grants route = true := by
  unfold filterRoutes? at h
  split at h
  · cases h
  · cases h
    intro route hroute
    obtain ⟨granted, hmem, rfl⟩ := List.mem_map.mp (List.mem_filter.mp hroute).1
    exact TransportProjection.grants_restrict hmem available

lemma of_receive? {t : ParticipantTransport} {ready : List ℕ} {human : String} {channel : ℕ}
    {frame : CapabilityFrame} {route : CapabilityRoute}
    (h : t.receive? ready human channel frame = some route) :
    t.closed = false ∧ (t.lanes.get? human).map ParticipantLane.channel = some channel ∧
      route ∈ t.routes.values ∧ route.key = (frame.appInstanceID, human) ∧
      route.accepts frame = true := by
  unfold ParticipantTransport.receive? at h
  split at h
  · cases h
  · next lane hlane =>
    split at h
    · cases h
    · next hopen =>
      rw [not_or, not_or, not_not, Bool.not_eq_true] at hopen
      obtain ⟨hclosed, -, hchannel⟩ := hopen
      obtain ⟨hget, haccepts⟩ := Option.filter_eq_some_iff.mp h
      refine ⟨hclosed, ?_, KeyedMap.mem_of_get? hget, KeyedMap.key_of_get? hget, haccepts⟩
      rw [hlane, Option.map_some, not_not.mp hchannel]

end TransportRun

/-! ## The invariant -/

/-- The routes that a start will set. -/
def StartPhase.routes : StartPhase → List CapabilityRoute
  | .creating routes => routes
  | .bootstrapping routes => routes
  | .committing routes => routes
  | _ => []

/-- The routes that an update will set. -/
def UpdatePhase.routes : UpdatePhase → List CapabilityRoute
  | .deauthorizing routes => routes
  | .allocating routes => routes
  | .committing routes _ => routes
  | _ => []

/-- Whether an update has not taken anything away yet. -/
def UpdatePhase.early : UpdatePhase → Bool
  | .validating => true
  | .deauthorizing _ => true
  | _ => false

/-- Whether an observation may start a transport. -/
def ObservePhase.starts : ObservePhase → Bool
  | .closing _ start => start
  | _ => true

namespace TransportRun

variable {c c' : TransportRun}

/-- The routes of a transport are granted by the last projection. -/
def Grants (c : TransportRun) (t : ParticipantTransport) : Prop :=
  ∀ route ∈ t.routes.values, c.latest.any (fun projection => projection.grants route) = true

/-- An update to the last projection is about to take routes of a transport away. -/
def Pending (c : TransportRun) (i : ℕ) : Prop :=
  ∃ task, (task ∈ c.waiting ∨ ∃ phase, c.updating = some (task, phase) ∧ phase.early = true) ∧
    task.generation = c.generation ∧ task.transport = i ∧ c.projection = some task.projection

/-- What a goroutine of the last generation works on is the last projection. -/
structure TaskKnown (c : TransportRun) (generation : ℕ) (projection : TransportProjection) :
    Prop where
  le : generation ≤ c.generation
  latest : generation = c.generation → c.latest = some projection

/-- What is known of a start. -/
structure StartKnown (c : TransportRun) (start : StartTask) : Prop where
  task : c.TaskKnown start.task.generation start.task.projection
  lt : start.task.transport < c.transports.length
  current : c.current = some start.task.transport →
    start.task.generation = c.generation ∧ c.started = false
  routes : ∀ route ∈ start.phase.routes, start.task.projection.grants route = true
  failed : start.phase = .failed → ∀ t, c.transports[start.task.transport]? = some t → t.closed = true

/-- What is known of the update that holds the lock. -/
structure UpdateKnown (c : TransportRun) (update : TransportTask × UpdatePhase) : Prop where
  task : c.TaskKnown update.1.generation update.1.projection
  lt : update.1.transport < c.transports.length
  routes : ∀ route ∈ update.2.routes, update.1.projection.grants route = true
  -- An update to the last projection leaves only what that grants.
  late : update.1.generation = c.generation → c.current = some update.1.transport →
    update.2.early = false → ∀ t, c.transports[update.1.transport]? = some t → c.Grants t
  -- Another one is followed by an update to the last projection.
  behind : update.1.generation ≠ c.generation → c.current = some update.1.transport →
    ∃ task ∈ c.waiting, task.generation = c.generation ∧ task.transport = update.1.transport ∧
      c.projection = some task.projection

/-- The invariant of a run. -/
structure RoutesKnown (c : TransportRun) : Prop where
  closed : ∀ t ∈ c.transports, t.closed = true → t.routes.values = []
  owned : ∀ i t, c.transports[i]? = some t → t.closed = false →
    c.current = some i ∨ ∃ task ∈ c.observing, ∃ start, task.phase = .closing (some i) start
  granted : ∀ i t, c.current = some i → c.transports[i]? = some t → c.Grants t ∨ c.Pending i
  stopped : c.stopped = true → c.current = none
  starts : ∀ start ∈ c.starts.values, c.StartKnown start
  updating : ∀ update, c.updating = some update → c.UpdateKnown update
  waiting : ∀ task ∈ c.waiting,
    c.TaskKnown task.generation task.projection ∧ task.transport < c.transports.length
  observing : ∀ task ∈ c.observing, task.phase.starts = true →
    c.TaskKnown task.generation task.projection
  retry : ∀ retry, c.retry = some retry → c.TaskKnown retry.generation retry.projection ∧
    ∀ i, retry.update = some i → i < c.transports.length
  current : ∀ i, c.current = some i → i < c.transports.length
  idle : c.current = none → c.started = false

namespace RoutesKnown

lemma honoursGranted (h : c.RoutesKnown) : c.HonoursGranted := by
  intro t ht ready human channel frame route hreceive
  obtain ⟨hopen, hchannel, hroute, hkey, haccepts⟩ := of_receive? hreceive
  refine ⟨hchannel, fun hfinished => ?_⟩
  obtain ⟨i, hget⟩ := List.getElem?_of_mem ht
  have hcurrent : c.current = some i := by
    rcases h.owned i t hget hopen with hcurrent | ⟨task, hmem, -⟩
    · exact hcurrent
    · rw [hfinished.observing] at hmem
      cases hmem
  rcases h.granted i t hcurrent hget with hgrants | ⟨task, hwork, hgeneration, -, -⟩
  · obtain ⟨projection, hlatest, hgranted⟩ := (Option.any_eq_true _ _).mp (hgrants route hroute)
    rw [hlatest]
    exact TransportProjection.lists_of_grants hgranted hkey haccepts
  · -- The Runtime has not finished yet.
    rcases hwork with hwaiting | ⟨phase, hupdating, -⟩
    · exact absurd hgeneration (hfinished.waiting task hwaiting)
    · exact absurd hgeneration (hfinished.updating _ hupdating)

/-! ### Transports -/

lemma getElem?_updateTransport {i j : ℕ} {f : ParticipantTransport → ParticipantTransport}
    {t : ParticipantTransport} (h : (c.updateTransport i f).transports[j]? = some t) :
    ∃ old, c.transports[j]? = some old ∧ t = if i = j then f old else old := by
  have hmodify : (c.transports.modify i f)[j]? = some t := h
  rw [List.getElem?_modify] at hmodify
  obtain ⟨old, hold, heq⟩ := Option.map_eq_some_iff.mp hmodify
  exact ⟨old, hold, heq.symm⟩

lemma transport_eq {i : ℕ} {t : ParticipantTransport} (h : c.transports[i]? = some t) :
    c.transport i = t := by
  unfold transport
  rw [h]
  rfl

end RoutesKnown

/-! ### Transports that change -/

/-- A transport is not opened again, and has no routes once it is closed. -/
structure Keeps (t t' : ParticipantTransport) : Prop where
  closed : t.closed = true → t'.closed = true
  empty : t'.closed = true → t'.routes.values = []

/-- Transports are changed within a generation, and none is given up. -/
structure Touches (c c' : TransportRun) : Prop where
  length : c'.transports.length = c.transports.length
  transports : ∀ (i : ℕ) (t' : ParticipantTransport), c'.transports[i]? = some t' →
    ∃ t, c.transports[i]? = some t ∧ Keeps t t'
  current : c'.current = c.current
  started : c'.started = c.started
  generation : c'.generation = c.generation
  latest : c'.latest = c.latest

namespace Touches

section

variable (h : c.Touches c')
include h

lemma taskKnown {generation : ℕ} {projection : TransportProjection}
    (htask : c.TaskKnown generation projection) : c'.TaskKnown generation projection := by
  refine ⟨?_, fun heq => ?_⟩
  · rw [h.generation]
    exact htask.le
  · rw [h.latest]
    exact htask.latest (heq.trans h.generation)

lemma grants {t : ParticipantTransport} (hgrants : c.Grants t) : c'.Grants t := by
  unfold Grants
  rw [h.latest]
  exact hgrants

lemma startKnown {start : StartTask} (hstart : c.StartKnown start) : c'.StartKnown start := by
  refine ⟨h.taskKnown hstart.task, ?_, ?_, hstart.routes, fun hfailed t' hget => ?_⟩
  · rw [h.length]
    exact hstart.lt
  · rw [h.current, h.generation, h.started]
    exact hstart.current
  · obtain ⟨t, hold, hkeeps⟩ := h.transports _ t' hget
    exact hkeeps.closed (hstart.failed hfailed t hold)

variable {update : TransportTask × UpdatePhase}

lemma updateKnown (hupdate : c.UpdateKnown update)
    (hlate : ∀ t t', c.transports[update.1.transport]? = some t →
      c'.transports[update.1.transport]? = some t' →
        (∀ route ∈ t'.routes.values, route ∈ t.routes.values) ∨
          (c.current = some update.1.transport → c.Grants t'))
    (hwaiting : ∀ task ∈ c.waiting, task ∈ c'.waiting) (hprojection : c'.projection = c.projection) :
    c'.UpdateKnown update := by
  refine ⟨h.taskKnown hupdate.task, ?_, hupdate.routes, fun heq hcurrent hphase t' hget => ?_,
    fun hne hcurrent => ?_⟩
  · rw [h.length]
    exact hupdate.lt
  · rw [h.generation] at heq
    rw [h.current] at hcurrent
    obtain ⟨t, hold, -⟩ := h.transports _ t' hget
    rcases hlate t t' hold hget with hsubset | hgrants
    · have hgranted := hupdate.late heq hcurrent hphase t hold
      exact h.grants fun route hroute => hgranted route (hsubset route hroute)
    · exact h.grants (hgrants hcurrent)
  · rw [h.generation] at hne ⊢
    rw [h.current] at hcurrent
    rw [hprojection]
    obtain ⟨task, hmem, htask⟩ := hupdate.behind hne hcurrent
    exact ⟨task, hwaiting task hmem, htask⟩

lemma updateKnown_of_none
    (hupdate : c.UpdateKnown update) (hnone : c.current = none) : c'.UpdateKnown update := by
  have hne : c'.current ≠ some update.1.transport := by
    rw [h.current, hnone]
    exact (Option.some_ne_none _).symm
  refine ⟨h.taskKnown hupdate.task, ?_, hupdate.routes, fun _ hcurrent => absurd hcurrent hne,
    fun _ hcurrent => absurd hcurrent hne⟩
  rw [h.length]
  exact hupdate.lt

end

end Touches

namespace RoutesKnown

lemma of_touches (h : c.RoutesKnown) (htouches : c.Touches c') (hstopped : c'.stopped = c.stopped)
    (hgranted : ∀ i t', c.current = some i → c'.transports[i]? = some t' →
      c'.Grants t' ∨ c'.Pending i)
    (hstarts : ∀ start ∈ c'.starts.values, start ∈ c.starts.values ∨ c'.StartKnown start)
    (hupdating : ∀ update, c'.updating = some update → c'.UpdateKnown update)
    (hwaiting : ∀ task ∈ c'.waiting, task ∈ c.waiting ∨
      c.TaskKnown task.generation task.projection ∧ task.transport < c.transports.length)
    (hclosing : ∀ task ∈ c.observing, ∀ i start, task.phase = .closing (some i) start →
      task ∈ c'.observing ∨
        ∀ t' : ParticipantTransport, c'.transports[i]? = some t' → t'.closed = true)
    (hobserving : ∀ task ∈ c'.observing, task ∈ c.observing ∨
      c.TaskKnown task.generation task.projection)
    (hretry : ∀ retry, c'.retry = some retry → c.retry = some retry ∨
      c.TaskKnown retry.generation retry.projection ∧
        ∀ i, retry.update = some i → i < c.transports.length) : c'.RoutesKnown := by
  refine ⟨fun t' ht' hclosed => ?_, fun i t' hget hopen => ?_, ?_, ?_, fun start hmem => ?_,
    hupdating, fun task hmem => ?_, fun task hmem hphase => ?_, fun retry hnew => ?_, ?_, ?_⟩
  · obtain ⟨i, hget⟩ := List.getElem?_of_mem ht'
    obtain ⟨t, -, hkeeps⟩ := htouches.transports i t' hget
    exact hkeeps.empty hclosed
  · obtain ⟨t, hold, hkeeps⟩ := htouches.transports i t' hget
    have hopen' : t.closed = false := by
      rw [← Bool.not_eq_true]
      intro hclosed
      rw [hkeeps.closed hclosed] at hopen
      cases hopen
    rw [htouches.current]
    rcases h.owned i t hold hopen' with hcurrent | ⟨task, hmem, start, hphase⟩
    · exact Or.inl hcurrent
    · rcases hclosing task hmem i start hphase with hkept | hclosed
      · exact Or.inr ⟨task, hkept, start, hphase⟩
      · rw [hclosed t' hget] at hopen
        cases hopen
  · rw [htouches.current]
    exact hgranted
  · rw [hstopped, htouches.current]
    exact h.stopped
  · exact (hstarts start hmem).elim (fun hold => htouches.startKnown (h.starts start hold)) id
  · rw [htouches.length]
    rcases hwaiting task hmem with hold | ⟨htask, hlt⟩
    · exact ⟨htouches.taskKnown (h.waiting task hold).1, (h.waiting task hold).2⟩
    · exact ⟨htouches.taskKnown htask, hlt⟩
  · rcases hobserving task hmem with hold | htask
    · exact htouches.taskKnown (h.observing task hold hphase)
    · exact htouches.taskKnown htask
  · rw [htouches.length]
    rcases hretry retry hnew with hold | ⟨htask, hlt⟩
    · exact ⟨htouches.taskKnown (h.retry retry hold).1, (h.retry retry hold).2⟩
    · exact ⟨htouches.taskKnown htask, hlt⟩
  · rw [htouches.current, htouches.length]
    exact h.current
  · rw [htouches.current, htouches.started]
    exact h.idle

variable {t : ParticipantTransport}

lemma keeps_refl (h : c.RoutesKnown) {i : ℕ} (hget : c.transports[i]? = some t) : Keeps t t :=
  ⟨id, h.closed t (List.mem_of_getElem? hget)⟩

/-! ### Starting -/

variable {task : TransportTask} {f : ParticipantTransport → ParticipantTransport}

lemma of_start (h : c.RoutesKnown) {phase phase' : StartPhase} (channels : ℕ)
    (hs : ⟨task, phase⟩ ∈ c.starts.values)
    (hkeeps : ∀ t, c.transports[task.transport]? = some t → Keeps t (f t))
    (hchange : ∀ t, c.transports[task.transport]? = some t →
      (∀ route ∈ (f t).routes.values, route ∈ t.routes.values) ∨
        (c.current = some task.transport → c.Grants (f t)))
    (hroutes : ∀ route ∈ phase'.routes, task.projection.grants route = true)
    (hfailed : phase' = .failed → ∀ t, c.transports[task.transport]? = some t →
      (f t).closed = true) :
    RoutesKnown { (c.updateTransport task.transport f).startGoesTo task phase' with
      channels } := by
  have hget : ∀ {i t'}, (c.updateTransport task.transport f).transports[i]? = some t' →
      ∃ t, c.transports[i]? = some t ∧ Keeps t t' ∧
        ((∀ route ∈ t'.routes.values, route ∈ t.routes.values) ∨
          (c.current = some i → c.Grants t')) := by
    intro i t' hget
    obtain ⟨t, hold, rfl⟩ := getElem?_updateTransport hget
    refine ⟨t, hold, ?_⟩
    by_cases heq : task.transport = i
    · subst heq
      rw [if_pos rfl]
      exact ⟨hkeeps t hold, hchange t hold⟩
    · rw [if_neg heq]
      exact ⟨h.keeps_refl hold, Or.inl fun _ hroute => hroute⟩
  have htouches : c.Touches { (c.updateTransport task.transport f).startGoesTo task phase' with
      channels } := by
    refine ⟨List.length_modify .., fun i t' hnew => ?_, rfl, rfl, rfl, rfl⟩
    obtain ⟨t, hold, hkept, -⟩ := hget hnew
    exact ⟨t, hold, hkept⟩
  have hold := h.starts _ hs
  refine h.of_touches htouches rfl (fun i t' hcurrent hnew => ?_) (fun start hstart => ?_)
    (fun update hupdate => ?_) (fun _ => Or.inl) (fun _ hmem _ _ _ => Or.inl hmem) (fun _ => Or.inl)
    fun _ => Or.inl
  · obtain ⟨t, hold, -, hsubset | hgrants⟩ := hget hnew
    · rcases h.granted i t hcurrent hold with hgranted | hpending
      · exact Or.inl fun route hroute => hgranted route (hsubset route hroute)
      · exact Or.inr hpending
    · exact Or.inl (hgrants hcurrent)
  · rcases KeyedMap.mem_set.mp hstart with rfl | ⟨hmem, -⟩
    · have hkept := htouches.startKnown hold
      refine Or.inr ⟨hkept.task, hkept.lt, hkept.current, hroutes, fun hphase t' hnew => ?_⟩
      obtain ⟨t, hold', rfl⟩ := getElem?_updateTransport hnew
      rw [if_pos rfl]
      exact hfailed hphase t hold'
    · exact Or.inl hmem
  · refine htouches.updateKnown (h.updating update hupdate) (fun t t' hold' hnew => ?_)
      (fun _ hmem => hmem) rfl
    obtain ⟨t₀, hold₀, -, hchanged⟩ := hget hnew
    cases hold₀.symm.trans hold'
    exact hchanged

lemma updateTransport_id (c : TransportRun) (i : ℕ) : c.updateTransport i id = c := by
  unfold updateTransport
  rw [List.modify_id]

lemma of_startGoesTo (h : c.RoutesKnown)
    {phase phase' : StartPhase} (hs : ⟨task, phase⟩ ∈ c.starts.values)
    (hroutes : ∀ route ∈ phase'.routes, task.projection.grants route = true)
    (hphase : phase' ≠ .failed) : (c.startGoesTo task phase').RoutesKnown := by
  have hstart := h.of_start (f := id) c.channels hs (fun t hget => h.keeps_refl hget)
    (fun _ _ => Or.inl fun _ hroute => hroute) hroutes fun heq => absurd heq hphase
  rw [updateTransport_id] at hstart
  exact hstart

lemma of_prepareStart (h : c.RoutesKnown)
    (hs : ⟨task, .preparing⟩ ∈ c.starts.values) (available : List String) :
    (c.prepareStart task available).RoutesKnown := by
  have hclosing : (c.startGoesTo task .closing).RoutesKnown :=
    h.of_startGoesTo hs (fun _ hroute => absurd hroute List.not_mem_nil) StartPhase.noConfusion
  unfold prepareStart
  split
  · exact hclosing
  · next routes hfilter =>
    split
    · exact hclosing
    · split
      · exact hclosing
      · refine h.of_start c.channels hs (fun t hget => ?_) (fun _ _ => Or.inl fun _ hroute => hroute)
          (grants_of_filterRoutes? hfilter) StartPhase.noConfusion
        exact ⟨id, h.closed t (List.mem_of_getElem? hget)⟩

lemma keeps_finishStartFailure (h : c.RoutesKnown) {i : ℕ}
    (hget : c.transports[i]? = some t) : Keeps t t.finishStartFailure ∧
      ∀ route ∈ t.finishStartFailure.routes.values, route ∈ t.routes.values := by
  unfold ParticipantTransport.finishStartFailure
  split
  · exact ⟨h.keeps_refl hget, fun _ hroute => hroute⟩
  · refine ⟨⟨id, fun _ => rfl⟩, fun _ hroute => ?_⟩
    exact absurd hroute List.not_mem_nil

variable {routes : List CapabilityRoute}

lemma of_createSession (h : c.RoutesKnown) (hs : ⟨task, .creating routes⟩ ∈ c.starts.values)
    (succeeds : Bool) : (c.createSession task routes succeeds).RoutesKnown := by
  have hgranted := (h.starts _ hs).routes
  unfold createSession
  split
  · exact h.of_start c.channels hs (fun t hget => (h.keeps_finishStartFailure hget).1)
      (fun t hget => Or.inl (h.keeps_finishStartFailure hget).2)
      (fun _ hroute => absurd hroute List.not_mem_nil) StartPhase.noConfusion
  · split
    · exact h.of_startGoesTo hs (fun _ hroute => absurd hroute List.not_mem_nil)
        StartPhase.noConfusion
    · refine h.of_start c.channels hs (fun t hget => ?_) (fun _ _ => Or.inl fun _ hroute => hroute)
        hgranted StartPhase.noConfusion
      exact ⟨id, h.closed t (List.mem_of_getElem? hget)⟩

lemma of_commitStart (h : c.RoutesKnown) (hs : ⟨task, .committing routes⟩ ∈ c.starts.values) :
    (c.commitStart task routes).RoutesKnown := by
  have hstart := h.starts _ hs
  unfold commitStart
  split
  · exact h.of_startGoesTo hs (fun _ hroute => absurd hroute List.not_mem_nil)
      StartPhase.noConfusion
  · next hopen =>
    rw [not_or, Bool.not_eq_true] at hopen
    have hclosed : ∀ t, c.transports[task.transport]? = some t →
        (c.transport task.transport).closed = t.closed := by
      intro t hget
      rw [transport_eq hget]
    refine h.of_start _ hs (fun t hget => ⟨fun heq => ?_, fun heq => ?_⟩) (fun t hget => ?_)
      (fun _ hroute => absurd hroute List.not_mem_nil) StartPhase.noConfusion
    · rw [← hclosed t hget, hopen.1] at heq
      cases heq
    · exact absurd (hopen.1.symm.trans heq) Bool.noConfusion
    · refine Or.inr fun hcurrent route hroute => ?_
      have hlatest := hstart.task.latest (hstart.current hcurrent).1
      rw [hlatest]
      exact hstart.routes route (mem_of_mem_routesByKey hroute)

lemma of_publishStart (h : c.RoutesKnown)
    (hs : ⟨task, .publishing⟩ ∈ c.starts.values) (succeeds : Bool) :
    (c.publishStart task succeeds).RoutesKnown := by
  unfold publishStart
  split
  · exact h.of_startGoesTo hs (fun _ hroute => absurd hroute List.not_mem_nil)
      StartPhase.noConfusion
  · refine h.of_start c.channels hs (fun t hget => ?_) (fun _ _ => Or.inl fun _ hroute => hroute)
      (fun _ hroute => absurd hroute List.not_mem_nil) StartPhase.noConfusion
    exact ⟨id, h.closed t (List.mem_of_getElem? hget)⟩

/-! ### Retrying -/

section

variable (h : c.RoutesKnown)
include h

lemma touches_of_eq (htransports : c'.transports = c.transports)
    (hcurrent : c'.current = c.current) (hstarted : c'.started = c.started)
    (hgeneration : c'.generation = c.generation) (hlatest : c'.latest = c.latest) :
    c.Touches c' := by
  refine ⟨by rw [htransports], fun i t hget => ?_, hcurrent, hstarted, hgeneration, hlatest⟩
  rw [htransports] at hget
  exact ⟨t, hget, h.keeps_refl hget⟩

lemma of_scheduleRetry {update : Option ℕ} (htask : c.TaskKnown task.generation task.projection)
    (hidle : c.updating = none ∨ c.current = none) (hgrants : c.generation = task.generation →
      ∀ i t, c.current = some i → c.transports[i]? = some t → c.Grants t) :
    (c.scheduleRetry task update).RoutesKnown := by
  unfold scheduleRetry
  split
  · exact h
  · next hwanted =>
    rw [not_or, not_or, not_or, not_not, not_not] at hwanted
    split
    · exact h
    · next hsame =>
      rw [not_not] at hsame
      have hupdating : ∀ {c' : TransportRun}, c.Touches c' → ∀ update,
          c.updating = some update → c'.UpdateKnown update := by
        intro c' htouches update hupdate
        rcases hidle with hidle | hnone
        · cases hidle.symm.trans hupdate
        · exact htouches.updateKnown_of_none (h.updating update hupdate) hnone
      split
      · -- The projection may be observed again.
        have htouches : c.Touches { c with projection := none } :=
          h.touches_of_eq rfl rfl rfl rfl rfl
        exact h.of_touches htouches rfl
          (fun i t hcurrent hget => Or.inl (hgrants hwanted.2.1 i t hcurrent hget))
          (fun _ => Or.inl) (hupdating htouches) (fun _ => Or.inl) (fun _ hmem _ _ _ => Or.inl hmem)
          (fun _ => Or.inl) fun _ => Or.inl
      · have htouches : c.Touches { c with
            retryCount := c.retryCount + 1
            retry := some ⟨task.projection, task.generation, update⟩ } :=
          h.touches_of_eq rfl rfl rfl rfl rfl
        refine h.of_touches htouches rfl (fun i t hcurrent hget => h.granted i t hcurrent hget)
          (fun _ => Or.inl) (hupdating htouches) (fun _ => Or.inl) (fun _ hmem _ _ _ => Or.inl hmem)
          (fun _ => Or.inl) ?_
        intro retry hretry
        cases hretry
        refine Or.inr ⟨htask, fun i hi => ?_⟩
        exact h.current i (hsame.trans hi)

lemma of_eraseStart (transport : ℕ) :
    RoutesKnown { c with starts := c.starts.erase transport } := by
  have htouches : c.Touches { c with starts := c.starts.erase transport } :=
    h.touches_of_eq rfl rfl rfl rfl rfl
  refine h.of_touches htouches rfl h.granted (fun start hstart => ?_) (fun update hupdate => ?_)
    (fun _ => Or.inl) (fun _ hmem _ _ _ => Or.inl hmem) (fun _ => Or.inl) fun _ => Or.inl
  · exact Or.inl (KeyedMap.mem_erase.mp hstart).1
  · refine htouches.updateKnown (h.updating update hupdate) (fun t t' hold hnew => ?_)
      (fun _ hmem => hmem) rfl
    cases hold.symm.trans hnew
    exact Or.inl fun _ hroute => hroute

lemma of_giveUp
    (hclosed : ∀ i t, c.current = some i → c.transports[i]? = some t → t.closed = true) :
    RoutesKnown { c with current := none, started := false } := by
  have hnone : ∀ {i}, (none : Option ℕ) ≠ some i := (Option.some_ne_none _).symm
  refine ⟨h.closed, fun i t hget hopen => ?_, fun i t hcurrent => absurd hcurrent hnone,
    fun _ => rfl, fun start hstart => ?_, fun update hupdate => ?_, fun task hmem => ?_,
    fun task hmem hphase => ?_, fun retry hretry => ?_, fun i hcurrent => absurd hcurrent hnone,
    fun _ => rfl⟩
  · rcases h.owned i t hget hopen with hcurrent | hclosing
    · rw [hclosed i t hcurrent hget] at hopen
      cases hopen
    · exact Or.inr hclosing
  · obtain ⟨htask, hlt, -, hroutes, hfailed⟩ := h.starts start hstart
    exact ⟨⟨htask.le, htask.latest⟩, hlt, fun hcurrent => absurd hcurrent hnone, hroutes, hfailed⟩
  · obtain ⟨htask, hlt, hroutes, -, -⟩ := h.updating update hupdate
    exact ⟨⟨htask.le, htask.latest⟩, hlt, hroutes, fun _ hcurrent => absurd hcurrent hnone,
      fun _ hcurrent => absurd hcurrent hnone⟩
  · exact ⟨⟨(h.waiting task hmem).1.le, (h.waiting task hmem).1.latest⟩, (h.waiting task hmem).2⟩
  · exact ⟨(h.observing task hmem hphase).le, (h.observing task hmem hphase).latest⟩
  · exact ⟨⟨(h.retry retry hretry).1.le, (h.retry retry hretry).1.latest⟩,
      (h.retry retry hretry).2⟩

lemma of_started (hcurrent : c.current ≠ none)
    (hnone : ∀ start ∈ c.starts.values, c.current ≠ some start.task.transport) :
    RoutesKnown { c with started := true } := by
  refine ⟨h.closed, h.owned, h.granted, h.stopped, fun start hstart => ?_, fun update hupdate => ?_,
    fun task hmem => ?_, fun task hmem hphase => ?_, fun retry hretry => ?_, h.current,
    fun heq => absurd heq hcurrent⟩
  · obtain ⟨htask, hlt, -, hroutes, hfailed⟩ := h.starts start hstart
    exact ⟨⟨htask.le, htask.latest⟩, hlt, fun hsame => absurd hsame (hnone start hstart),
      hroutes, hfailed⟩
  · obtain ⟨htask, hlt, hroutes, hlate, hbehind⟩ := h.updating update hupdate
    exact ⟨⟨htask.le, htask.latest⟩, hlt, hroutes, hlate, hbehind⟩
  · exact ⟨⟨(h.waiting task hmem).1.le, (h.waiting task hmem).1.latest⟩, (h.waiting task hmem).2⟩
  · exact ⟨(h.observing task hmem hphase).le, (h.observing task hmem hphase).latest⟩
  · exact ⟨⟨(h.retry retry hretry).1.le, (h.retry retry hretry).1.latest⟩,
      (h.retry retry hretry).2⟩

lemma of_endStart {phase : StartPhase} (hs : ⟨task, phase⟩ ∈ c.starts.values) (succeeded : Bool)
    (hfailed : succeeded = false → phase = .failed) : (c.endStart task succeeded).RoutesKnown := by
  have hstart := h.starts _ hs
  have hrest := h.of_eraseStart task.transport
  unfold endStart
  dsimp only
  split
  · next hcurrent =>
    simp only [isCurrent, Bool.and_eq_true, decide_eq_true_eq] at hcurrent
    split
    · have hsome : c.current ≠ none := by
        rw [hcurrent.1.1.2]
        exact Option.some_ne_none _
      refine hrest.of_started hsome fun start hmem hsame => ?_
      have heq := Option.some.inj (hcurrent.1.1.2.symm.trans hsame)
      exact (KeyedMap.mem_erase.mp hmem).2 heq.symm
    · next hnot =>
      rw [Bool.not_eq_true] at hnot
      have hgiven : RoutesKnown { c with
          starts := c.starts.erase task.transport, current := none, started := false } := by
        refine hrest.of_giveUp fun i t hi hget => ?_
        cases hcurrent.1.1.2.symm.trans hi
        exact hstart.failed (hfailed hnot) t hget
      exact hgiven.of_scheduleRetry ⟨hstart.task.le, hstart.task.latest⟩ (Or.inr rfl)
        fun _ i t hi => absurd hi (Option.some_ne_none _).symm
  · exact hrest

end

variable {succeeds : Bool}

lemma of_startOn? (h : c.RoutesKnown) {transport : ℕ} {available : List String}
    (hstep : c.startOn? transport available succeeds = some c') : c'.RoutesKnown := by
  have hnil : ∀ {projection : TransportProjection} (route : CapabilityRoute), route ∈ [] →
      projection.grants route = true := fun _ hroute => absurd hroute List.not_mem_nil
  unfold startOn? at hstep
  cases hget : c.starts.get? transport with
  | none => rw [hget] at hstep; cases hstep
  | some start =>
    rw [hget] at hstep
    obtain ⟨task, phase⟩ := start
    have hs : (⟨task, phase⟩ : StartTask) ∈ c.starts.values := KeyedMap.mem_of_get? hget
    cases phase with
    | preparing =>
      cases hstep
      exact h.of_prepareStart hs available
    | creating routes =>
      cases hstep
      exact h.of_createSession hs succeeds
    | bootstrapping routes =>
      cases hstep
      refine h.of_startGoesTo hs ?_ ?_
      · cases succeeds with
        | true => exact (h.starts _ hs).routes
        | false => exact hnil
      · cases succeeds <;> exact StartPhase.noConfusion
    | committing routes =>
      cases hstep
      exact h.of_commitStart hs
    | publishing =>
      cases hstep
      exact h.of_publishStart hs succeeds
    | failing =>
      cases hstep
      exact h.of_start c.channels hs (fun t hget => (h.keeps_finishStartFailure hget).1)
        (fun t hget => Or.inl (h.keeps_finishStartFailure hget).2) hnil StartPhase.noConfusion
    | closing =>
      cases hstep
      exact h.of_start c.channels hs (fun t hget => ⟨fun _ => rfl, fun _ => rfl⟩)
        (fun t hget => Or.inl fun _ hroute => absurd hroute List.not_mem_nil) hnil
        fun _ t hget => rfl
    | failed =>
      cases hstep
      exact h.of_endStart hs false fun _ => rfl
    | succeeded =>
      cases hstep
      exact h.of_endStart hs true fun heq => by cases heq

/-! ### Updating -/

variable {phase phase' : UpdatePhase}

lemma of_update (h : c.RoutesKnown) (channels : ℕ) (hu : c.updating = some (task, phase))
    (hkeeps : ∀ t, c.transports[task.transport]? = some t → Keeps t (f t))
    (hroutes : ∀ route ∈ phase'.routes, task.projection.grants route = true)
    (hgrants : task.generation = c.generation → c.current = some task.transport →
      ∀ t, c.transports[task.transport]? = some t → c.Grants (f t)) :
    RoutesKnown { (c.updateTransport task.transport f).updateGoesTo task phase' with
      channels } := by
  have hold := h.updating _ hu
  have htouches : c.Touches { (c.updateTransport task.transport f).updateGoesTo task phase' with
      channels } := by
    refine ⟨List.length_modify .., fun i t' hnew => ?_, rfl, rfl, rfl, rfl⟩
    obtain ⟨t, hget, rfl⟩ := getElem?_updateTransport hnew
    refine ⟨t, hget, ?_⟩
    by_cases heq : task.transport = i
    · subst heq
      rw [if_pos rfl]
      exact hkeeps t hget
    · rw [if_neg heq]
      exact h.keeps_refl hget
  refine h.of_touches htouches rfl (fun i t' hcurrent hnew => ?_) (fun _ => Or.inl)
    (fun update hupdate => ?_) (fun _ => Or.inl) (fun _ hmem _ _ _ => Or.inl hmem) (fun _ => Or.inl)
    fun _ => Or.inl
  · obtain ⟨t, hget, rfl⟩ := getElem?_updateTransport hnew
    by_cases heq : task.transport = i
    · subst heq
      rw [if_pos rfl]
      by_cases hgeneration : task.generation = c.generation
      · exact Or.inl (hgrants hgeneration hcurrent t hget)
      · obtain ⟨later, hmem, hlater⟩ := hold.behind hgeneration hcurrent
        exact Or.inr ⟨later, Or.inl hmem, hlater⟩
    · rw [if_neg heq]
      rcases h.granted i t hcurrent hget with hgranted | ⟨later, hwork, hlater⟩
      · exact Or.inl hgranted
      · rcases hwork with hmem | ⟨phase'', hupdating, -⟩
        · exact Or.inr ⟨later, Or.inl hmem, hlater⟩
        · cases hu.symm.trans hupdating
          exact absurd hlater.2.1 heq
  · cases hupdate
    refine ⟨htouches.taskKnown hold.task, ?_, hroutes, fun hgeneration hcurrent _ t' hnew => ?_,
      hold.behind⟩
    · rw [htouches.length]
      exact hold.lt
    · obtain ⟨t, hget, rfl⟩ := getElem?_updateTransport hnew
      rw [if_pos rfl]
      exact hgrants hgeneration hcurrent t hget

lemma of_updateGoesTo (h : c.RoutesKnown) (channels : ℕ) (hu : c.updating = some (task, phase))
    (hroutes : ∀ route ∈ phase'.routes, task.projection.grants route = true)
    (hgrants : task.generation = c.generation → c.current = some task.transport →
      ∀ t, c.transports[task.transport]? = some t → c.Grants t) :
    RoutesKnown { c.updateGoesTo task phase' with channels } := by
  have hupdate := h.of_update (f := id) channels hu (fun t hget => h.keeps_refl hget) hroutes
    hgrants
  rw [updateTransport_id] at hupdate
  exact hupdate

lemma of_deauthorizing (h : c.RoutesKnown)
    (hu : c.updating = some (task, phase)) (hearly : phase'.early = true)
    (hroutes : ∀ route ∈ phase'.routes, task.projection.grants route = true) :
    (c.updateGoesTo task phase').RoutesKnown := by
  have hold := h.updating _ hu
  have htouches : c.Touches (c.updateGoesTo task phase') := h.touches_of_eq rfl rfl rfl rfl rfl
  refine h.of_touches htouches rfl (fun i t hcurrent hget => ?_) (fun _ => Or.inl)
    (fun update hupdate => ?_) (fun _ => Or.inl) (fun _ hmem _ _ _ => Or.inl hmem) (fun _ => Or.inl)
    fun _ => Or.inl
  · rcases h.granted i t hcurrent hget with hgranted | ⟨later, hwork, hlater⟩
    · exact Or.inl hgranted
    · refine Or.inr ⟨later, ?_, hlater⟩
      rcases hwork with hmem | ⟨phase'', hupdating, -⟩
      · exact Or.inl hmem
      · cases hu.symm.trans hupdating
        exact Or.inr ⟨phase', rfl, hearly⟩
  · cases hupdate
    refine ⟨htouches.taskKnown hold.task, hold.lt, hroutes, fun _ _ hphase => ?_, hold.behind⟩
    exact absurd (hearly.symm.trans hphase) Bool.noConfusion

lemma grants_deauthorize {ready : List ℕ}
    {sources : List ParticipantSource} {route : CapabilityRoute}
    (h : route ∈ (t.deauthorize ready sources (routesByKey routes)).routes.values) :
    route ∈ t.routes.values ∧ route ∈ routes := by
  obtain ⟨hmem, hkept⟩ := List.mem_filter.mp h
  rw [Bool.and_eq_true, decide_eq_true_eq] at hkept
  exact ⟨hmem, mem_of_mem_routesByKey (KeyedMap.mem_of_get? hkept.1)⟩

lemma of_unlock (h : c.RoutesKnown) {update : TransportTask × UpdatePhase}
    (hu : c.updating = some update) (hearly : update.2.early = false) (retryCount : ℕ) :
    RoutesKnown { c with updating := none, retryCount } := by
  have htouches : c.Touches { c with updating := none, retryCount } :=
    h.touches_of_eq rfl rfl rfl rfl rfl
  refine h.of_touches htouches rfl (fun i t hcurrent hget => ?_) (fun _ => Or.inl)
    (fun update hupdate => ?_) (fun _ => Or.inl) (fun _ hmem _ _ _ => Or.inl hmem) (fun _ => Or.inl)
    fun _ => Or.inl
  · rcases h.granted i t hcurrent hget with hgranted | ⟨later, hwork, hlater⟩
    · exact Or.inl hgranted
    · rcases hwork with hmem | ⟨phase, hupdating, hphase⟩
      · exact Or.inr ⟨later, Or.inl hmem, hlater⟩
      · cases hu.symm.trans hupdating
        exact absurd (hearly.symm.trans hphase) Bool.noConfusion
  · cases hupdate

lemma of_endUpdate (h : c.RoutesKnown) {phase : UpdatePhase}
    (hu : c.updating = some (task, phase)) (hearly : phase.early = false) (succeeded : Bool) :
    (c.endUpdate task succeeded).RoutesKnown := by
  have hold := h.updating _ hu
  have hunlocked := h.of_unlock hu hearly c.retryCount
  unfold endUpdate
  dsimp only
  split
  · next hcurrent =>
    simp only [isCurrent, Bool.and_eq_true, decide_eq_true_eq] at hcurrent
    split
    · exact h.of_unlock hu hearly 0
    · refine hunlocked.of_scheduleRetry ⟨hold.task.le, hold.task.latest⟩ (Or.inl rfl) ?_
      intro hgeneration i t hi hget
      cases hcurrent.1.1.2.symm.trans hi
      exact hold.late hgeneration.symm hi hearly t hget
  · exact hunlocked

/-- The update that holds the lock goes on. -/
lemma of_updateOn? (h : c.RoutesKnown) {available : List String} {ready : List ℕ}
    (hguard : c.takesAway (.updateOn available ready succeeds) = true)
    (hstep : c.updateOn? available ready succeeds = some c') : c'.RoutesKnown := by
  have hnil : ∀ {projection : TransportProjection} (route : CapabilityRoute), route ∈ [] →
      projection.grants route = true := fun _ hroute => absurd hroute List.not_mem_nil
  unfold updateOn? at hstep
  cases hu : c.updating with
  | none => rw [hu] at hstep; cases hstep
  | some update =>
    rw [hu] at hstep
    obtain ⟨task, phase⟩ := update
    have hold := h.updating _ hu
    cases phase with
    | validating =>
      cases hstep
      unfold takesAway at hguard
      rw [hu] at hguard
      dsimp only at hguard
      unfold validateUpdate
      cases hroutes : c.updateRoutes? task available with
      | none =>
        -- Nothing was taken away, and nothing has to be.
        rw [hroutes, Option.isSome_none, Bool.false_or] at hguard
        refine h.of_updateGoesTo c.channels hu hnil fun hgeneration _ t hget route hroute => ?_
        rw [transport_eq hget] at hguard
        rw [hold.task.latest hgeneration]
        exact List.all_eq_true.mp hguard route hroute
      | some routes =>
        refine h.of_deauthorizing hu rfl ?_
        unfold updateRoutes? at hroutes
        split at hroutes
        · cases hroutes
        · split at hroutes
          · cases hroutes
          · next routes' hfilter =>
            dsimp only at hroutes
            split at hroutes
            · cases hroutes
            · cases hroutes
              exact grants_of_filterRoutes? hfilter
    | deauthorizing routes =>
      cases hstep
      refine h.of_update c.channels hu (fun t hget => ⟨id, fun hclosed => ?_⟩) hold.routes ?_
      · have hnone := h.closed t (List.mem_of_getElem? hget) hclosed
        refine List.eq_nil_iff_forall_not_mem.mpr fun route hroute => ?_
        have hmem := (grants_deauthorize hroute).1
        rw [hnone] at hmem
        cases hmem
      · intro hgeneration _ t hget route hroute
        rw [hold.task.latest hgeneration]
        exact hold.routes route (grants_deauthorize hroute).2
    | allocating routes =>
      cases hstep
      have hlate := fun hgeneration hcurrent => hold.late hgeneration hcurrent rfl
      unfold allocateLanes
      dsimp only
      split
      · exact h.of_updateGoesTo c.channels hu hnil hlate
      · exact h.of_updateGoesTo _ hu hold.routes hlate
    | committing routes lanes =>
      cases hstep
      unfold commitUpdate
      dsimp only
      split
      · exact h.of_updateGoesTo c.channels hu hnil fun hgeneration hcurrent =>
          hold.late hgeneration hcurrent rfl
      · next hopen =>
        rw [Bool.not_eq_true] at hopen
        refine h.of_update c.channels hu (fun t hget => ⟨fun heq => ?_, fun heq => ?_⟩) hnil ?_
        · rw [transport_eq hget, heq] at hopen
          cases hopen
        · exact absurd (hopen.symm.trans heq) Bool.noConfusion
        · intro hgeneration _ t hget route hroute
          rw [hold.task.latest hgeneration]
          exact hold.routes route (List.mem_filter.mp (mem_of_mem_routesByKey hroute)).1
    | failed =>
      cases hstep
      exact h.of_endUpdate hu rfl false
    | succeeded =>
      cases hstep
      exact h.of_endUpdate hu rfl true

variable {index : ℕ}

lemma of_lock? (h : c.RoutesKnown) (hstep : c.lock? index = some c') : c'.RoutesKnown := by
  unfold lock? at hstep
  cases hget : c.waiting[index]? with
  | none => rw [hget] at hstep; cases hstep
  | some task =>
    rw [hget] at hstep
    dsimp only at hstep
    split at hstep
    · cases hstep
    · next hfree =>
      rw [Option.not_isSome_iff_eq_none] at hfree
      cases hstep
      have hmem := List.mem_of_getElem? hget
      obtain ⟨htask, hlt⟩ := h.waiting task hmem
      have htouches : c.Touches { c with
          waiting := c.waiting.eraseIdx index
          updating := if c.isCurrent task then some (task, .validating) else none } :=
        h.touches_of_eq rfl rfl rfl rfl rfl
      refine h.of_touches htouches rfl (fun i t hcurrent htransport => ?_) (fun _ => Or.inl)
        (fun update hupdate => ?_) (fun _ hmem => Or.inl (List.mem_of_mem_eraseIdx hmem))
        (fun _ hmem _ _ _ => Or.inl hmem) (fun _ => Or.inl) fun _ => Or.inl
      · rcases h.granted i t hcurrent htransport with hgranted | ⟨later, hwork, hlater⟩
        · exact Or.inl hgranted
        · refine Or.inr ⟨later, ?_, hlater⟩
          rcases hwork with hwaiting | ⟨phase, hupdating, -⟩
          · by_cases heq : later = task
            · -- The update is still wanted.
              subst heq
              obtain ⟨hgeneration, rfl, hprojection⟩ := hlater
              have hrunning : c.stopped = false := by
                rw [← Bool.not_eq_true]
                intro hstopped
                cases (h.stopped hstopped).symm.trans hcurrent
              have hwanted : c.isCurrent later = true := by
                unfold isCurrent
                rw [hrunning, hcurrent, hgeneration, hprojection]
                simp only [Bool.not_false, decide_true, Bool.and_self]
              exact Or.inr ⟨.validating, if_pos hwanted, rfl⟩
            · have hkept : later ∈ c.waiting.updateIdx index none :=
                List.mem_updateIdx_of_ne hget hwaiting heq
              exact Or.inl hkept
          · cases hfree.symm.trans hupdating
      · have hnew : (if c.isCurrent task then some (task, UpdatePhase.validating) else none) =
            some update := hupdate
        split at hnew
        · next hwanted =>
          cases hnew
          simp only [isCurrent, Bool.and_eq_true, decide_eq_true_eq] at hwanted
          exact ⟨htouches.taskKnown htask, hlt, fun _ hroute => absurd hroute List.not_mem_nil,
            fun _ _ hphase => Bool.noConfusion hphase, fun hne => absurd hwanted.1.2.symm hne⟩
        · cases hnew

/-! ### Observing -/

lemma taskKnown_of_lt {generation : ℕ} {projection : TransportProjection}
    (hle : generation ≤ c.generation) (hnew : c'.generation = c.generation + 1) :
    c'.TaskKnown generation projection :=
  ⟨by omega, fun heq => by omega⟩

section

variable (h : c.RoutesKnown)
include h

lemma of_renew {task : ObserveTask} {old : Option ℕ} {start : Bool}
    (hphase : task.phase = .closing old start) (hold : ∀ i, c.current = some i → old = some i)
    (htransports : c'.transports = c.transports) (hcurrent : c'.current = none)
    (hstarted : c'.started = false) (hgeneration : c'.generation = c.generation + 1)
    (hretry : c'.retry = none) (hobserving : c'.observing = c.observing ++ [task])
    (hstarts : c'.starts = c.starts) (hwaiting : c'.waiting = c.waiting)
    (hupdating : c'.updating = c.updating)
    (htask : start = true → c'.TaskKnown task.generation task.projection) : c'.RoutesKnown := by
  have hnone : ∀ {i}, c'.current ≠ some i := by
    intro i
    rw [hcurrent]
    exact (Option.some_ne_none i).symm
  refine ⟨?_, fun i t hget hopen => ?_, fun i t hsome => absurd hsome hnone, fun _ => hcurrent,
    fun s hs => ?_, fun update hupdate => ?_, fun w hw => ?_, fun o ho hphase' => ?_,
    fun retry hnew => ?_, fun i hsome => absurd hsome hnone, fun _ => hstarted⟩
  · rw [htransports]
    exact h.closed
  · rw [htransports] at hget
    rw [hobserving]
    rcases h.owned i t hget hopen with hsome | ⟨o, ho, start', hclosing⟩
    · exact Or.inr ⟨task, List.mem_append_right _ (List.mem_singleton.mpr rfl), start,
        hphase.trans (by rw [hold i hsome])⟩
    · exact Or.inr ⟨o, List.mem_append_left _ ho, start', hclosing⟩
  · rw [hstarts] at hs
    obtain ⟨hknown, hlt, -, hroutes, hfailed⟩ := h.starts s hs
    refine ⟨taskKnown_of_lt hknown.le hgeneration, ?_, fun hsome => absurd hsome hnone, hroutes, ?_⟩
    · rw [htransports]
      exact hlt
    · rw [htransports]
      exact hfailed
  · rw [hupdating] at hupdate
    obtain ⟨hknown, hlt, hroutes, -, -⟩ := h.updating update hupdate
    refine ⟨taskKnown_of_lt hknown.le hgeneration, ?_, hroutes, fun _ hsome => absurd hsome hnone,
      fun _ hsome => absurd hsome hnone⟩
    rw [htransports]
    exact hlt
  · rw [hwaiting] at hw
    rw [htransports]
    obtain ⟨hknown, hlt⟩ := h.waiting w hw
    exact ⟨taskKnown_of_lt hknown.le hgeneration, hlt⟩
  · rw [hobserving] at ho
    rcases List.mem_append.mp ho with hmem | hmem
    · exact taskKnown_of_lt (h.observing o hmem hphase').le hgeneration
    · rw [List.mem_singleton.mp hmem] at hphase' ⊢
      rw [hphase] at hphase'
      exact htask hphase'
  · rw [hretry] at hnew
    cases hnew

lemma of_renewUpdate {projection : TransportProjection} {old : ℕ}
    (hold : c.current = some old) (hstarted : c.started = true) : RoutesKnown { c.renew with
      projection := some projection
      latest := some projection
      waiting := c.waiting ++ [⟨projection, c.generation + 1, old⟩] } := by
  have hlater : ∀ {generation : ℕ}, generation ≤ c.generation → generation ≠ c.generation + 1 := by
    intro generation hle heq
    omega
  have hknown : ∀ {generation projection'}, generation ≤ c.generation → TaskKnown { c.renew with
      projection := some projection
      latest := some projection
      waiting := c.waiting ++ [⟨projection, c.generation + 1, old⟩] } generation projection' :=
    fun hle => taskKnown_of_lt hle rfl
  have hnew : (⟨projection, c.generation + 1, old⟩ : TransportTask) ∈
      c.waiting ++ [⟨projection, c.generation + 1, old⟩] :=
    List.mem_append_right _ (List.mem_singleton.mpr rfl)
  refine ⟨h.closed, h.owned, fun i t hcurrent _ => ?_, h.stopped, fun s hs => ?_,
    fun update hupdate => ?_, fun w hw => ?_, fun o ho hphase => ?_, fun retry hretry => ?_,
    h.current, fun hnone => ?_⟩
  · cases hold.symm.trans hcurrent
    exact Or.inr ⟨_, Or.inl hnew, rfl, rfl, rfl⟩
  · obtain ⟨htask, hlt, hcurrent, hroutes, hfailed⟩ := h.starts s hs
    refine ⟨hknown htask.le, hlt, fun hsame => ?_, hroutes, hfailed⟩
    rw [(hcurrent hsame).2] at hstarted
    cases hstarted
  · obtain ⟨htask, hlt, hroutes, -, -⟩ := h.updating update hupdate
    refine ⟨hknown htask.le, hlt, hroutes, fun heq => absurd heq (hlater htask.le),
      fun _ hcurrent => ⟨_, hnew, rfl, ?_, rfl⟩⟩
    exact Option.some.inj (hold.symm.trans hcurrent)
  · rcases List.mem_append.mp hw with hmem | hmem
    · exact ⟨hknown (h.waiting w hmem).1.le, (h.waiting w hmem).2⟩
    · rw [List.mem_singleton.mp hmem]
      exact ⟨⟨Nat.le_refl _, fun _ => rfl⟩, h.current old hold⟩
  · exact hknown (h.observing o ho hphase).le
  · cases hretry
  · cases hold.symm.trans hnone

lemma of_observe (projection : TransportProjection) : (c.observe projection).RoutesKnown := by
  unfold observe
  split
  · exact h
  · cases hcurrent : c.current with
    | none =>
      refine h.of_renew rfl (fun i hsome => ?_) rfl hcurrent rfl rfl rfl rfl rfl rfl rfl
        fun _ => ⟨Nat.le_refl _, fun _ => rfl⟩
      cases hcurrent.symm.trans hsome
    | some old =>
      dsimp only
      split
      · next hstarted =>
        rw [Bool.and_eq_true] at hstarted
        exact h.of_renewUpdate hcurrent hstarted.1
      · refine h.of_renew rfl (fun i hsome => ?_) rfl rfl rfl rfl rfl rfl rfl rfl rfl
          fun _ => ⟨Nat.le_refl _, fun _ => rfl⟩
        exact hcurrent.symm.trans hsome

lemma of_reset (stop : Bool) : (c.reset stop).RoutesKnown := by
  unfold reset
  exact h.of_renew rfl (fun i hsome => hsome) rfl rfl rfl rfl rfl rfl rfl rfl rfl
    fun heq => by cases heq

lemma of_closing {task : ObserveTask} {i : ℕ} {start : Bool}
    (hget : c.observing[index]? = some task) (hphase : task.phase = .closing (some i) start) :
    RoutesKnown { c.updateTransport i ParticipantTransport.close with
      observing := c.observing.updateIdx index
        (if start then some { task with phase := .starting } else none) } := by
  have htouches : c.Touches { c.updateTransport i ParticipantTransport.close with
      observing := c.observing.updateIdx index
        (if start then some { task with phase := .starting } else none) } := by
    refine ⟨List.length_modify .., fun j t' hnew => ?_, rfl, rfl, rfl, rfl⟩
    obtain ⟨t, hold, rfl⟩ := getElem?_updateTransport hnew
    refine ⟨t, hold, ?_⟩
    split
    · exact ⟨fun _ => rfl, fun _ => rfl⟩
    · exact h.keeps_refl hold
  have hsubset : ∀ {j : ℕ} {t t' : ParticipantTransport}, c.transports[j]? = some t →
      (c.updateTransport i ParticipantTransport.close).transports[j]? = some t' →
        ∀ route ∈ t'.routes.values, route ∈ t.routes.values := by
    intro j t t' hold hnew route hroute
    obtain ⟨t₀, hold₀, rfl⟩ := getElem?_updateTransport hnew
    cases hold₀.symm.trans hold
    split at hroute
    · cases hroute
    · exact hroute
  refine h.of_touches htouches rfl (fun j t' hcurrent hnew => ?_) (fun _ => Or.inl)
    (fun update hupdate => ?_) (fun _ => Or.inl) (fun other hmem j start' hclosing => ?_)
    (fun other hmem => ?_) fun _ => Or.inl
  · obtain ⟨t, hold, -⟩ := htouches.transports j t' hnew
    rcases h.granted j t hcurrent hold with hgranted | hpending
    · exact Or.inl fun route hroute => hgranted route (hsubset hold hnew route hroute)
    · exact Or.inr hpending
  · exact htouches.updateKnown (h.updating update hupdate)
      (fun t t' hold hnew => Or.inl (hsubset hold hnew)) (fun _ hmem => hmem) rfl
  · by_cases heq : other = task
    · -- The transport of this observation is closed.
      refine Or.inr fun t' hnew => ?_
      rw [heq, hphase] at hclosing
      cases hclosing
      obtain ⟨t, -, rfl⟩ := getElem?_updateTransport hnew
      rw [if_pos rfl]
      rfl
    · exact Or.inl (List.mem_updateIdx_of_ne hget hmem heq)
  · have hupdated : other ∈ c.observing.updateIdx index
        (if start then some { task with phase := .starting } else none) := hmem
    rcases List.mem_updateIdx hupdated with hold | hnew
    · exact Or.inl hold
    · split at hnew
      · next hstart =>
        cases hnew
        refine Or.inr (h.observing task (List.mem_of_getElem? hget) ?_)
        rw [hphase]
        exact hstart
      · cases hnew

lemma of_observingOn {task : ObserveTask}
    {next : Option ObserveTask} (hget : c.observing[index]? = some task)
    (hphase : ∀ i start, task.phase ≠ .closing (some i) start)
    (hnext : ∀ other, next = some other → other.generation = task.generation ∧
      other.projection = task.projection ∧ task.phase.starts = true) :
    RoutesKnown { c with observing := c.observing.updateIdx index next } := by
  have htouches : c.Touches { c with observing := c.observing.updateIdx index next } :=
    h.touches_of_eq rfl rfl rfl rfl rfl
  refine h.of_touches htouches rfl h.granted (fun _ => Or.inl) (fun update hupdate => ?_)
    (fun _ => Or.inl) (fun other hmem i start hclosing => ?_) (fun other hmem => ?_) fun _ => Or.inl
  · refine htouches.updateKnown (h.updating update hupdate) (fun t t' hold hnew => ?_)
      (fun _ hmem => hmem) rfl
    cases hold.symm.trans hnew
    exact Or.inl fun _ hroute => hroute
  · refine Or.inl (List.mem_updateIdx_of_ne hget hmem fun heq => ?_)
    rw [heq] at hclosing
    exact hphase i start hclosing
  · rcases List.mem_updateIdx hmem with hold | hnew
    · exact Or.inl hold
    · obtain ⟨hgeneration, hprojection, hstarts⟩ := hnext other hnew
      rw [hgeneration, hprojection]
      exact Or.inr (h.observing task (List.mem_of_getElem? hget) hstarts)

/-- A transport is installed. -/
lemma of_install {task : ObserveTask}
    (hget : c.observing[index]? = some task) (hphase : task.phase = .building)
    (hinstall : c.mayInstall task = true) : RoutesKnown { c with
      transports := c.transports ++ [{}]
      current := some c.transports.length
      observing := c.observing.updateIdx index none
      starts := c.starts.set
        ⟨⟨task.projection, task.generation, c.transports.length⟩, .preparing⟩ } := by
  simp only [mayInstall, Bool.and_eq_true, decide_eq_true_eq, Bool.not_eq_true'] at hinstall
  obtain ⟨⟨⟨hrunning, hgeneration⟩, -⟩, hnone⟩ := hinstall
  have hlength : (c.transports ++ [({} : ParticipantTransport)]).length =
      c.transports.length + 1 := List.length_append
  have hcases : ∀ {i : ℕ} {t : ParticipantTransport},
      (c.transports ++ [({} : ParticipantTransport)])[i]? = some t →
        c.transports[i]? = some t ∨ (i = c.transports.length ∧ t = {}) := by
    intro i t hi
    by_cases hlt : i < c.transports.length
    · rw [List.getElem?_append_left hlt] at hi
      exact Or.inl hi
    · rw [List.getElem?_append_right (Nat.not_lt.mp hlt)] at hi
      cases hindex : i - c.transports.length with
      | zero =>
        rw [hindex] at hi
        exact Or.inr ⟨by omega, (Option.some.inj hi).symm⟩
      | succ index =>
        rw [hindex] at hi
        cases hi
  have hother : ∀ {i}, i < c.transports.length → some c.transports.length ≠ some i := by
    intro i hlt heq
    exact absurd (Option.some.inj heq) (Nat.ne_of_gt hlt)
  have htask : c.TaskKnown task.generation task.projection := by
    refine h.observing task (List.mem_of_getElem? hget) ?_
    rw [hphase]
    rfl
  refine ⟨fun t ht hclosed => ?_, fun i t hi hopen => ?_, fun i t hcurrent hi => ?_,
    fun hstopped => ?_, fun start hstart => ?_, fun update hupdate => ?_, fun w hw => ?_,
    fun o ho hstarts => ?_, fun retry hretry => ?_, fun i hcurrent => ?_, fun heq => ?_⟩
  · rcases List.mem_append.mp ht with hold | hnew
    · exact h.closed t hold hclosed
    · rw [List.mem_singleton.mp hnew]
      rfl
  · rcases hcases hi with hold | ⟨rfl, -⟩
    · rcases h.owned i t hold hopen with hcurrent | ⟨o, ho, start, hclosing⟩
      · cases hnone.symm.trans hcurrent
      · have hkept : o ∈ c.observing.updateIdx index none := by
          refine List.mem_updateIdx_of_ne hget ho fun heq => ?_
          rw [heq, hphase] at hclosing
          cases hclosing
        exact Or.inr ⟨o, hkept, start, hclosing⟩
    · exact Or.inl rfl
  · cases hcurrent
    rcases hcases hi with hold | ⟨-, rfl⟩
    · exact absurd (List.getElem?_eq_some_iff.mp hold).1 (Nat.lt_irrefl _)
    · exact Or.inl fun _ hroute => absurd hroute List.not_mem_nil
  · exact absurd (hrunning.symm.trans hstopped) Bool.noConfusion
  · rcases KeyedMap.mem_set.mp hstart with rfl | ⟨hmem, -⟩
    · refine ⟨⟨htask.le, htask.latest⟩, ?_, fun _ => ⟨hgeneration.symm, h.idle hnone⟩,
        fun _ hroute => absurd hroute List.not_mem_nil, StartPhase.noConfusion⟩
      exact hlength ▸ Nat.lt_succ_self _
    · obtain ⟨hknown, hlt, -, hroutes, hfailed⟩ := h.starts start hmem
      refine ⟨⟨hknown.le, hknown.latest⟩, ?_, fun hcurrent => absurd hcurrent (hother hlt), hroutes,
        fun hphase' t hi => ?_⟩
      · exact hlength ▸ Nat.lt_succ_of_lt hlt
      · rw [List.getElem?_append_left hlt] at hi
        exact hfailed hphase' t hi
  · obtain ⟨hknown, hlt, hroutes, -, -⟩ := h.updating update hupdate
    refine ⟨⟨hknown.le, hknown.latest⟩, ?_, hroutes, fun _ hcurrent => absurd hcurrent (hother hlt),
      fun _ hcurrent => absurd hcurrent (hother hlt)⟩
    exact hlength ▸ Nat.lt_succ_of_lt hlt
  · obtain ⟨hknown, hlt⟩ := h.waiting w hw
    exact ⟨⟨hknown.le, hknown.latest⟩, hlength ▸ Nat.lt_succ_of_lt hlt⟩
  · have hupdated : o ∈ c.observing.updateIdx index none := ho
    rcases List.mem_updateIdx hupdated with hold | hnew
    · exact ⟨(h.observing o hold hstarts).le, (h.observing o hold hstarts).latest⟩
    · cases hnew
  · obtain ⟨hknown, hlt⟩ := h.retry retry hretry
    exact ⟨⟨hknown.le, hknown.latest⟩, fun i hi => hlength ▸ Nat.lt_succ_of_lt (hlt i hi)⟩
  · cases hcurrent
    exact hlength ▸ Nat.lt_succ_self _
  · cases heq

lemma of_observeOn? (hstep : c.observeOn? index succeeds = some c') : c'.RoutesKnown := by
  unfold observeOn? at hstep
  cases hget : c.observing[index]? with
  | none => rw [hget] at hstep; cases hstep
  | some task =>
    rw [hget] at hstep
    dsimp only at hstep
    cases hphase : task.phase with
    | closing old start =>
      rw [hphase] at hstep
      cases old with
      | some i =>
        cases hstep
        exact h.of_closing hget hphase
      | none =>
        cases hstep
        refine h.of_observingOn hget (fun i start' heq => ?_) fun other hnext => ?_
        · rw [hphase] at heq
          cases heq
        · split at hnext
          · next hstart =>
            cases hnext
            rw [hphase]
            exact ⟨rfl, rfl, hstart⟩
          · cases hnext
    | starting =>
      rw [hphase] at hstep
      cases hstep
      refine h.of_observingOn hget (fun i start' heq => ?_) fun other hnext => ?_
      · rw [hphase] at heq
        cases heq
      · split at hnext
        · cases hnext
          rw [hphase]
          exact ⟨rfl, rfl, rfl⟩
        · cases hnext
    | building =>
      rw [hphase] at hstep
      dsimp only at hstep
      split at hstep
      · next hinstall =>
        cases hstep
        rw [Bool.and_eq_true] at hinstall
        exact h.of_install hget hphase hinstall.2
      · cases hstep
        refine h.of_observingOn hget (fun i start' heq => ?_) fun other hnext => ?_
        · rw [hphase] at heq
          cases heq
        · cases hnext

lemma of_fireRetry? (hstep : c.fireRetry? = some c') : c'.RoutesKnown := by
  unfold fireRetry? at hstep
  cases hretry : c.retry with
  | none => rw [hretry] at hstep; cases hstep
  | some retry =>
    rw [hretry] at hstep
    dsimp only at hstep
    obtain ⟨htask, hlt⟩ := h.retry retry hretry
    split at hstep
    · cases hstep
      exact h
    · cases hupdate : retry.update with
      | some i =>
        rw [hupdate] at hstep
        cases hstep
        have htouches : c.Touches { c with
            retry := none
            waiting := c.waiting ++ [⟨retry.projection, retry.generation, i⟩] } :=
          h.touches_of_eq rfl rfl rfl rfl rfl
        refine h.of_touches htouches rfl (fun j t hcurrent hget => ?_) (fun _ => Or.inl)
          (fun update hupdating => ?_) (fun w hw => ?_) (fun _ hmem _ _ _ => Or.inl hmem)
          (fun _ => Or.inl) fun _ hnew => by cases hnew
        · rcases h.granted j t hcurrent hget with hgranted | ⟨later, hwork, hlater⟩
          · exact Or.inl hgranted
          · exact Or.inr ⟨later, hwork.imp_left (List.mem_append_left _), hlater⟩
        · refine htouches.updateKnown (h.updating update hupdating) (fun t t' hold hnew => ?_)
            (fun _ hmem => List.mem_append_left _ hmem) rfl
          cases hold.symm.trans hnew
          exact Or.inl fun _ hroute => hroute
        · rcases List.mem_append.mp hw with hmem | hmem
          · exact Or.inl hmem
          · rw [List.mem_singleton.mp hmem]
            exact Or.inr ⟨htask, hlt i hupdate⟩
      | none =>
        rw [hupdate] at hstep
        cases hstep
        have htouches : c.Touches { c with
            retry := none
            observing := c.observing ++ [⟨retry.projection, retry.generation, .starting⟩] } :=
          h.touches_of_eq rfl rfl rfl rfl rfl
        refine h.of_touches htouches rfl h.granted (fun _ => Or.inl) (fun update hupdating => ?_)
          (fun _ => Or.inl) (fun _ hmem _ _ _ => Or.inl (List.mem_append_left _ hmem))
          (fun o ho => ?_) fun _ hnew => by cases hnew
        · refine htouches.updateKnown (h.updating update hupdating) (fun t t' hold hnew => ?_)
            (fun _ hmem => hmem) rfl
          cases hold.symm.trans hnew
          exact Or.inl fun _ hroute => hroute
        · rcases List.mem_append.mp ho with hmem | hmem
          · exact Or.inl hmem
          · rw [List.mem_singleton.mp hmem]
            exact Or.inr htask

lemma of_next {label : TransportStep} (hguard : c.takesAway label = true)
    (hstep : c.next? label = some c') : c'.RoutesKnown := by
  cases label with
  | observe projection =>
    cases hstep
    exact h.of_observe projection
  | reset stop =>
    cases hstep
    exact h.of_reset stop
  | observeOn index succeeds => exact h.of_observeOn? hstep
  | startOn transport available succeeds => exact h.of_startOn? hstep
  | lock index => exact h.of_lock? hstep
  | updateOn available ready succeeds => exact h.of_updateOn? hguard hstep
  | retry => exact h.of_fireRetry? hstep

end

lemma init (options : TransportOptions) : RoutesKnown { options } := by
  refine ⟨fun t ht => ?_, fun i t hget => ?_, fun i t hcurrent => ?_, fun _ => rfl,
    fun start hstart => ?_, fun update hupdate => ?_, fun w hw => ?_, fun o ho => ?_,
    fun retry hretry => ?_, fun i hcurrent => ?_, fun _ => rfl⟩
  · cases ht
  · cases hget
  · cases hcurrent
  · cases hstart
  · cases hupdate
  · cases hw
  · cases ho
  · cases hretry
  · cases hcurrent

end RoutesKnown

end TransportRun

/-! ## Runs -/

/-- An agent whose Runtime handles capabilities. -/
def agentOptions : TransportOptions where
  participantID := "agent"
  valid _ := true
  handled := true

/-- A route for a capability. -/
def routeFor (capabilityID : String) : CapabilityRoute where
  appInstanceID := "generated:app"
  bundleRevision := 1
  taskRequestID := "task"
  agentParticipantID := "agent"
  humanParticipantID := "alice"
  runtimeHostID := "host"
  capabilityIDs := [capabilityID]

/-- A projection with a route for a capability. -/
def projectionOf (capabilityID : String) : TransportProjection where
  routes := [routeFor capabilityID]
  sources := [{ participantID := "alice", sessionID := "session" }]

/-- A request for a capability. -/
def frameFor (capabilityID : String) : CapabilityFrame where
  requestID := "request"
  appInstanceID := "generated:app"
  bundleRevision := 1
  taskRequestID := "task"
  agentID := "agent"
  capabilityID := capabilityID

/-- The labels under which a transport is started for a capability that there is locally. -/
def startedFor (capabilityID : String) : List TransportStep :=
  [.observe (projectionOf capabilityID), .observeOn 0 true, .observeOn 0 true, .observeOn 0 true] ++
    List.replicate 6 (.startOn 0 [capabilityID] true)

/-- The labels under which it is updated to another capability that there is. -/
def updatedTo (capabilityID : String) : List TransportStep :=
  [.observe (projectionOf capabilityID), .lock 0] ++
    List.replicate 5 (.updateOn [capabilityID] [0, 1] true)

/-- The labels of an update to a capability that there is not, which gives up. -/
def failedUpdate : List TransportStep :=
  [.lock 0, .updateOn ["look"] [0] true, .updateOn ["look"] [0] true]

/-- The labels under which an update is retried until the Runtime gives up. -/
def exhaustedUpdates : List TransportStep :=
  .observe (projectionOf "act") ::
    ((List.replicate 5 (failedUpdate ++ [.retry])).flatten ++ failedUpdate)

end Free4Chat
