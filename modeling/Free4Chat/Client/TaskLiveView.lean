import Free4Chat.Data.JsValue
import Free4Chat.Data.KeyedMap
import Free4Chat.Transition.Reachable

/-!
# Live Views

The view that an Agent publishes for a Task: a tree of components over some data. A Human changes a
copy of the data, which is carried over to the views that are published later.

* `validateTaskLiveViewSnapshot`: what may be published.
* `applyTaskLiveViewAction` and `reconcileTaskLiveViewState`: the copy is changed, and carried over.
* `liveViewHolds_of_keepsTypes`: what the renderer relies on, in every run.
-/

namespace Free4Chat

/-! ## Views -/

section Model

-- The numbers of JavaScript: whether one is finite, and what is added to one.
variable {Number : Type} (isFinite : Number → Bool) (add : Number → ℤ → Number)

inductive TaskLiveViewScalar (Number : Type) where
  | string (text : String)
  | number (value : Number)
  | boolean (value : Bool)

/-- `typeof`. -/
inductive TaskLiveViewScalarType where
  | string | number | boolean
deriving DecidableEq

def TaskLiveViewScalar.typeof : TaskLiveViewScalar Number → TaskLiveViewScalarType
  | string _ => .string
  | number _ => .number
  | boolean _ => .boolean

/-- The amount is a number that is an integer. -/
inductive TaskLiveViewAction (Number : Type) where
  | increment (path : String) (amount : ℤ)
  | set (path : String) (value : TaskLiveViewScalar Number)

inductive TaskLiveViewGroup where
  | row | column | card

inductive TaskLiveViewComponent (Number : Type) where
  | text (text : String)
  | value (path : String)
  | button (label : String) (action : TaskLiveViewAction Number)
  | input (path : String) (placeholder : Option String)
  | group (type : TaskLiveViewGroup) (children : List (TaskLiveViewComponent Number))

abbrev TaskLiveViewData (Number : Type) := KeyedMap (String × TaskLiveViewScalar Number)

structure TaskLiveViewSnapshot (Number : Type) where
  taskRequestId : String
  surfaceId : String
  authorityAgentId : String
  revision : ℤ
  root : TaskLiveViewComponent Number
  data : TaskLiveViewData Number

structure TaskLiveViewLocalState (Number : Type) where
  surfaceId : String
  revision : ℤ
  data : TaskLiveViewData Number

/-! ## Publication -/

def maxTaskLiveViewBytes : ℕ := 32 * 1024
def maxTaskLiveViewComponents : ℕ := 64
def maxTaskLiveViewDepth : ℕ := 8
def maxTaskLiveViewDataKeys : ℕ := 32
def maxTextLength : ℕ := 400
def maxLabelLength : ℕ := 80

/-- The pattern `^[A-Za-z0-9][A-Za-z0-9._:-]{0,63}$`. -/
def isTaskLiveViewId (id : String) : Bool :=
  id.toList.head?.any Char.isAlphanum && JsString.ofCharClass JsString.isTokenChar 1 64 id

/-- The pattern `^[A-Za-z][A-Za-z0-9_]{0,31}$` of data keys and of paths. -/
def isDataKey (key : String) : Bool :=
  key.toList.head?.any Char.isAlpha &&
    JsString.ofCharClass (fun c => c.isAlphanum || c == '_') 1 32 key

/-- The pattern `[<>]|(?:javascript:|https?:\/\/|data:)`, which ignores case. -/
def hasUnsafeText (text : String) : Bool :=
  (text.toList.map Char.toLower).tails.any fun rest =>
    ["<", ">", "javascript:", "http://", "https://", "data:"].any fun unsafeText =>
      unsafeText.toList.isPrefixOf rest

def isSafeText (text : String) (maxLength : ℕ) : Bool :=
  0 < JsString.utf16Length text && JsString.utf16Length text ≤ maxLength && !hasUnsafeText text

def isScalar : TaskLiveViewScalar Number → Bool
  | .boolean _ => true
  | .number value => isFinite value
  | .string text => isSafeText text maxTextLength

/-- The type of what is stored at a path. -/
def TaskLiveViewData.typeAt? (data : TaskLiveViewData Number) (path : String) :
    Option TaskLiveViewScalarType :=
  (data.get? path).map fun entry => entry.2.typeof

/-- The type of the value of a `set` is not compared with that of the data. -/
def validateAction (data : TaskLiveViewData Number) : TaskLiveViewAction Number → Bool
  | .increment path amount =>
    isDataKey path && -JsValue.maxSafeInteger ≤ amount && amount ≤ JsValue.maxSafeInteger &&
      amount ≠ 0 && amount.natAbs ≤ 1000 && data.typeAt? path = some .number
  | .set path value => isDataKey path && isScalar isFinite value

/-- The count of the components, unless there are too many, or the component is not valid. -/
def countComponent (depth count : ℕ) (valid : Bool) : Option ℕ :=
  if maxTaskLiveViewDepth < depth ∨ maxTaskLiveViewComponents < count + 1 then none
  else if valid then some (count + 1)
  else none

mutual

def validateComponent (data : TaskLiveViewData Number) (depth count : ℕ) :
    TaskLiveViewComponent Number → Option ℕ
  | .text text => countComponent depth count (isSafeText text maxTextLength)
  | .value path => countComponent depth count (isDataKey path)
  | .button label action => countComponent depth count
    (isSafeText label maxLabelLength && validateAction isFinite data action)
  | .input path placeholder => countComponent depth count
    (isDataKey path && data.typeAt? path = some .string &&
      placeholder.all fun text => isSafeText text maxLabelLength)
  | .group _ children =>
    (countComponent depth count
      (0 < children.length && children.length ≤ maxTaskLiveViewComponents)).bind fun count =>
        validateComponents data (depth + 1) count children

/-- The loop over the children of a component. -/
def validateComponents (data : TaskLiveViewData Number) (depth count : ℕ) :
    List (TaskLiveViewComponent Number) → Option ℕ
  | [] => some count
  | child :: children =>
    (validateComponent data depth count child).bind fun count =>
      validateComponents data depth count children

end

/-- `validateTaskLiveViewSnapshot`, for a value of the type of a snapshot that has a given size as
JSON. -/
def validateTaskLiveViewSnapshot (byteLength : TaskLiveViewSnapshot Number → ℕ)
    (raw : TaskLiveViewSnapshot Number) : Except String (TaskLiveViewSnapshot Number) :=
  if maxTaskLiveViewBytes < byteLength raw then .error "live_view_too_large"
  else if !(isTaskLiveViewId raw.taskRequestId && isTaskLiveViewId raw.surfaceId &&
      isTaskLiveViewId raw.authorityAgentId && 1 ≤ raw.revision &&
      raw.revision ≤ JsValue.maxSafeInteger && raw.data.size ≤ maxTaskLiveViewDataKeys) then
    .error "invalid_live_view"
  else if !raw.data.values.all (fun entry => isDataKey entry.1 && isScalar isFinite entry.2) then
    .error "invalid_live_view_data"
  else if (validateComponent isFinite raw.data 1 0 raw.root).isNone then
    .error "invalid_live_view_component"
  else .ok raw

/-! ## Local state -/

def sameScalarType (left right : TaskLiveViewScalar Number) : Bool := left.typeof = right.typeof

def initialTaskLiveViewState (snapshot : TaskLiveViewSnapshot Number) :
    TaskLiveViewLocalState Number :=
  { surfaceId := snapshot.surfaceId, revision := snapshot.revision, data := snapshot.data }

def applyTaskLiveViewAction (data : TaskLiveViewData Number) :
    TaskLiveViewAction Number → TaskLiveViewData Number
  | .increment path amount =>
    match data.get? path with
    | some (_, .number current) => data.set (path, .number (add current amount))
    | _ => data
  | .set path value => data.set (path, value)

/-- The entry of the next data, or the previous value if it has the same type. -/
def carryOver (previous : TaskLiveViewData Number) (entry : String × TaskLiveViewScalar Number) :
    String × TaskLiveViewScalar Number :=
  match previous.get? entry.1 with
  | some (_, value) => if sameScalarType value entry.2 then (entry.1, value) else entry
  | none => entry

lemma carryOver_fst (previous : TaskLiveViewData Number)
    (entry : String × TaskLiveViewScalar Number) : (carryOver previous entry).1 = entry.1 := by
  rw [carryOver]
  split
  · split_ifs <;> rfl
  · rfl

def reconcileTaskLiveViewState (previous : Option (TaskLiveViewLocalState Number))
    (next : TaskLiveViewSnapshot Number) : TaskLiveViewLocalState Number :=
  match previous with
  | none => initialTaskLiveViewState next
  | some previous =>
    if previous.surfaceId ≠ next.surfaceId ∨ next.revision < previous.revision then
      initialTaskLiveViewState next
    else
      { surfaceId := next.surfaceId, revision := next.revision
        data := next.data.map (carryOver previous.data) (carryOver_fst previous.data) }

/-! ## Runs -/

mutual

/-- A component and what it holds. -/
def TaskLiveViewComponent.components :
    TaskLiveViewComponent Number → List (TaskLiveViewComponent Number)
  | .group type children => .group type children :: componentsOf children
  | component => [component]

def componentsOf : List (TaskLiveViewComponent Number) → List (TaskLiveViewComponent Number)
  | [] => []
  | child :: children => child.components ++ componentsOf children

end

/-- The view that is shown, and the copy of its data. -/
structure LiveView (Number : Type) where
  snapshot : TaskLiveViewSnapshot Number
  localState : TaskLiveViewLocalState Number

inductive LiveViewStep (Number : Type) where
  | publish (raw : TaskLiveViewSnapshot Number)
  | press (label : String) (action : TaskLiveViewAction Number)
  | enter (path : String) (placeholder : Option String) (text : String)

namespace LiveView

variable (byteLength : TaskLiveViewSnapshot Number → ℕ) (v : LiveView Number)

/-- The copy is changed. -/
def dispatch (action : TaskLiveViewAction Number) : LiveView Number :=
  { v with localState := { v.localState with
    data := applyTaskLiveViewAction add v.localState.data action } }

/-- A step of the publisher, or of the Human. -/
inductive Steps (v : LiveView Number) : LiveViewStep Number → LiveView Number → Prop
  | publish {raw next : TaskLiveViewSnapshot Number}
      (hnext : validateTaskLiveViewSnapshot isFinite byteLength raw = .ok next) :
      Steps v (.publish raw) ⟨next, reconcileTaskLiveViewState (some v.localState) next⟩
  | press {label : String} {action : TaskLiveViewAction Number}
      (hmem : .button label action ∈ v.snapshot.root.components) :
      Steps v (.press label action) (v.dispatch add action)
  | enter {path : String} {placeholder : Option String} (text : String)
      (hmem : .input path placeholder ∈ v.snapshot.root.components) :
      Steps v (.enter path placeholder text) (v.dispatch add (.set path (.string text)))

/-- Runs of a view. -/
def system : TransitionSystem (LiveView Number) (LiveViewStep Number) where
  init v := ∃ raw, validateTaskLiveViewSnapshot isFinite byteLength raw = .ok v.snapshot ∧
    v.localState = reconcileTaskLiveViewState none v.snapshot
  step v step v' := Steps isFinite add byteLength v step v'

/-- A type is what a component expects at a path. -/
def Expects (path : String) (type : TaskLiveViewScalarType) : Prop :=
  (∃ placeholder, .input path placeholder ∈ v.snapshot.root.components) ∧ type = .string ∨
    (∃ label amount, .button label (.increment path amount) ∈ v.snapshot.root.components) ∧
      type = .number

/-- A button that sets a value keeps the type that other components expect at its path. -/
def KeepsTypes : LiveViewStep Number → Prop
  | .press _ (.set path value) => ∀ type, v.Expects path type → value.typeof = type
  | _ => True

/-- A view is carried over: the data has the keys of the snapshot and the types of its values, a
value is another one only if the previous copy holds it for the same surface and no newer revision,
and carrying it over again changes nothing. -/
structure CarriedOver (previous : Option (TaskLiveViewLocalState Number))
    (next : TaskLiveViewSnapshot Number) (after : TaskLiveViewLocalState Number) : Prop where
  keys : after.data.keys = next.data.keys
  types : ∀ key, after.data.typeAt? key = next.data.typeAt? key
  values : ∀ key, after.data.get? key ≠ next.data.get? key → ∃ held, previous = some held ∧
    held.surfaceId = next.surfaceId ∧ held.revision ≤ next.revision ∧
      held.data.get? key = after.data.get? key
  again : reconcileTaskLiveViewState (some after) next = after

/-- What the renderer relies on. -/
structure Holds : Prop where
  expected : ∀ path type, v.Expects path type → v.localState.data.typeAt? path = some type
  published : ∀ raw next held, validateTaskLiveViewSnapshot isFinite byteLength raw = .ok next →
    held = none ∨ held = some v.localState →
      CarriedOver held next (reconcileTaskLiveViewState held next)

variable {isFinite add byteLength v} {data previous : TaskLiveViewData Number}

/-! ## Carrying over -/

lemma typeAt?_set (path key : String) (value : TaskLiveViewScalar Number) :
    TaskLiveViewData.typeAt? (data.set (path, value)) key =
      if path = key then some value.typeof else TaskLiveViewData.typeAt? data key := by
  rw [TaskLiveViewData.typeAt?, KeyedMap.get?_set, Keyed.key_pair, TaskLiveViewData.typeAt?]
  split_ifs <;> rfl

lemma typeof_carryOver (entry : String × TaskLiveViewScalar Number) :
    (carryOver previous entry).2.typeof = entry.2.typeof := by
  rw [carryOver]
  split
  · split_ifs with hsame
    · exact of_decide_eq_true hsame
    · rfl
  · rfl

lemma reconcile_eq (held : Option (TaskLiveViewLocalState Number))
    (next : TaskLiveViewSnapshot Number) : ∃ previous,
      reconcileTaskLiveViewState held next = ⟨next.surfaceId, next.revision,
        next.data.map (carryOver previous) (carryOver_fst previous)⟩ ∧
      (previous = KeyedMap.empty ∨ ∃ state, held = some state ∧ state.surfaceId = next.surfaceId ∧
        state.revision ≤ next.revision ∧ previous = state.data) := by
  have hinitial : initialTaskLiveViewState next = ⟨next.surfaceId, next.revision,
      next.data.map (carryOver KeyedMap.empty) (carryOver_fst _)⟩ := by
    refine congrArg (TaskLiveViewLocalState.mk _ _) (KeyedMap.ext ?_)
    exact (List.map_id' _).symm
  cases held with
  | none => exact ⟨_, hinitial, Or.inl rfl⟩
  | some state =>
    rw [reconcileTaskLiveViewState]
    split_ifs with hother
    · exact ⟨_, hinitial, Or.inl rfl⟩
    · rw [not_or, not_not, Int.not_lt] at hother
      exact ⟨_, rfl, Or.inr ⟨state, rfl, hother.1, hother.2, rfl⟩⟩

lemma carriedOver (held : Option (TaskLiveViewLocalState Number))
    (next : TaskLiveViewSnapshot Number) :
    CarriedOver held next (reconcileTaskLiveViewState held next) := by
  obtain ⟨previous, hreconcile, hprevious⟩ := reconcile_eq held next
  rw [hreconcile]
  refine ⟨?_, fun key => ?_, fun key hchanged => ?_, ?_⟩
  · rw [KeyedMap.keys, KeyedMap.values_map, List.map_map]
    exact List.map_congr_left fun entry _ => carryOver_fst previous entry
  · rw [TaskLiveViewData.typeAt?, TaskLiveViewData.typeAt?, KeyedMap.get?_map, Option.map_map]
    exact congrArg (Option.map · _) (funext fun entry => typeof_carryOver entry)
  · dsimp only at hchanged ⊢
    rw [KeyedMap.get?_map] at hchanged ⊢
    cases hget : next.data.get? key with
    | none =>
      rw [hget] at hchanged
      exact absurd rfl hchanged
    | some entry =>
      rw [hget] at hchanged
      have hkey : entry.1 = key := KeyedMap.key_of_get? hget
      rw [Option.map_some, carryOver, hkey] at hchanged ⊢
      cases hold : previous.get? key with
      | none =>
        rw [hold] at hchanged
        exact absurd rfl hchanged
      | some old =>
        obtain ⟨oldKey, value⟩ := old
        obtain rfl : oldKey = key := KeyedMap.key_of_get? hold
        rw [hold] at hchanged
        dsimp only at hchanged ⊢
        rcases hprevious with rfl | ⟨state, rfl, hsurface, hrevision, rfl⟩
        · cases hold
        refine ⟨state, rfl, hsurface, hrevision, ?_⟩
        split_ifs at hchanged ⊢
        · exact hold
        · exact absurd rfl hchanged
  · rw [reconcileTaskLiveViewState, if_neg (by simp)]
    refine congrArg (TaskLiveViewLocalState.mk _ _) (KeyedMap.ext ?_)
    refine List.map_congr_left fun entry hmem => ?_
    have hget : next.data.get? entry.1 = some entry := KeyedMap.get?_key hmem
    rw [carryOver, KeyedMap.get?_map, hget]
    have hsame : sameScalarType (carryOver previous entry).2 entry.2 = true :=
      decide_eq_true (typeof_carryOver entry)
    dsimp only [Option.map_some]
    rw [if_pos hsame, ← carryOver_fst previous entry]

/-! ## Types -/

/-- What validation says of a component. -/
def Checked (data : TaskLiveViewData Number) : TaskLiveViewComponent Number → Prop
  | .input path _ => data.typeAt? path = some .string
  | .button _ (.increment path _) => data.typeAt? path = some .number
  | _ => True

lemma countComponent_eq_some {depth count n : ℕ} {valid : Bool}
    (h : countComponent depth count valid = some n) : valid = true := by
  rw [countComponent] at h
  split_ifs at h with _ hvalid
  exact hvalid

mutual

lemma checked_of_validateComponent {depth count n : ℕ} : ∀ component,
    validateComponent isFinite data depth count component = some n →
      ∀ c ∈ component.components, Checked data c
  | .text _, _, c, hmem => by
    obtain rfl := List.mem_singleton.mp hmem
    trivial
  | .value _, _, c, hmem => by
    obtain rfl := List.mem_singleton.mp hmem
    trivial
  | .button _ (.set _ _), _, c, hmem => by
    obtain rfl := List.mem_singleton.mp hmem
    trivial
  | .button _ (.increment path _), h, c, hmem => by
    obtain rfl := List.mem_singleton.mp hmem
    have hvalid := countComponent_eq_some h
    rw [validateAction, Bool.and_eq_true, Bool.and_eq_true, decide_eq_true_eq] at hvalid
    exact hvalid.2.2
  | .input path _, h, c, hmem => by
    obtain rfl := List.mem_singleton.mp hmem
    have hvalid := countComponent_eq_some h
    rw [Bool.and_eq_true, Bool.and_eq_true, decide_eq_true_eq] at hvalid
    exact hvalid.1.2
  | .group _ children, h, c, hmem => by
    obtain ⟨inner, -, hchildren⟩ := Option.bind_eq_some_iff.mp h
    rcases List.mem_cons.mp hmem with rfl | hmem
    · trivial
    · exact checked_of_validateComponents children hchildren c hmem

lemma checked_of_validateComponents {depth count n : ℕ} : ∀ children,
    validateComponents isFinite data depth count children = some n →
      ∀ c ∈ componentsOf children, Checked data c
  | [], _, c, hmem => absurd hmem List.not_mem_nil
  | child :: children, h, c, hmem => by
    obtain ⟨inner, hchild, hchildren⟩ := Option.bind_eq_some_iff.mp h
    rcases List.mem_append.mp hmem with hmem | hmem
    · exact checked_of_validateComponent child hchild c hmem
    · exact checked_of_validateComponents children hchildren c hmem

end

lemma typeAt?_of_expects {raw : TaskLiveViewSnapshot Number}
    (hvalid : validateTaskLiveViewSnapshot isFinite byteLength raw = .ok v.snapshot) {path : String}
    {type : TaskLiveViewScalarType} (h : v.Expects path type) :
    TaskLiveViewData.typeAt? v.snapshot.data path = some type := by
  rw [validateTaskLiveViewSnapshot] at hvalid
  split_ifs at hvalid with _ _ _ hcomponents
  obtain rfl := Except.ok.inj hvalid
  cases hn : validateComponent isFinite v.snapshot.data 1 0 v.snapshot.root with
  | none =>
    rw [hn] at hcomponents
    exact absurd rfl hcomponents
  | some n =>
    rcases h with ⟨⟨placeholder, hmem⟩, rfl⟩ | ⟨⟨label, amount, hmem⟩, rfl⟩ <;>
      exact checked_of_validateComponent _ hn _ hmem

/-! ## What holds in every run -/

lemma typeAt?_increment (path key : String) (amount : ℤ) :
    TaskLiveViewData.typeAt? (applyTaskLiveViewAction add data (.increment path amount)) key =
      TaskLiveViewData.typeAt? data key := by
  rw [applyTaskLiveViewAction]
  split
  next _ current hget =>
    rw [typeAt?_set]
    split_ifs with hkey
    · rw [TaskLiveViewData.typeAt?, ← hkey, hget]
      rfl
    · rfl
  next => rfl

/-- As long as no button that sets a value changes a type that is expected, what the renderer relies
on holds. -/
theorem liveViewHolds_of_keepsTypes
    (h : (system isFinite add byteLength).ReachableWhen KeepsTypes v) :
    v.Holds isFinite byteLength := by
  refine ⟨?_, fun _ next held _ _ => carriedOver held next⟩
  refine h.invariant (P := fun v => ∀ path type, v.Expects path type →
    TaskLiveViewData.typeAt? v.localState.data path = some type) ?_ ?_
  · rintro v ⟨raw, hvalid, hlocal⟩ path type hexpects
    rw [hlocal]
    exact typeAt?_of_expects hvalid hexpects
  · intro v step v' hbefore hkeeps hstep path type hexpects
    cases hstep with
    | @publish raw next hnext =>
      exact ((carriedOver _ next).types path).trans (typeAt?_of_expects hnext hexpects)
    | @press label action hmem =>
      have hold := hbefore path type hexpects
      cases action with
      | increment changed amount => exact (typeAt?_increment changed path amount).trans hold
      | set changed value =>
        refine (typeAt?_set changed path value).trans ?_
        split_ifs with hkey
        · subst hkey
          exact congrArg some (hkeeps type hexpects)
        · exact hold
    | @enter changed placeholder text hmem =>
      have hold := hbefore path type hexpects
      refine (typeAt?_set changed path _).trans ?_
      split_ifs with hkey
      · -- An input expects a string at its path, and so does what else there is.
        subst hkey
        exact (hbefore changed .string (Or.inl ⟨⟨placeholder, hmem⟩, rfl⟩)).symm.trans hold
      · exact hold

end LiveView

end Model

namespace LiveView

/-- A name is entered, or set. -/
def nameView (value : TaskLiveViewScalar ℤ) : TaskLiveViewSnapshot ℤ where
  taskRequestId := "task-1"
  surfaceId := "surface-1"
  authorityAgentId := "agent-1"
  revision := 1
  root := .group .column [.input "name" none, .button "Reset" (.set "name" value)]
  data := ⟨[("name", .string "Ada")], List.nodup_singleton _⟩

/-- The name is set to another one. -/
theorem liveViewHolds_nameView :
    (dispatch (· + ·) ⟨nameView (.string "Bob"), initialTaskLiveViewState (nameView (.string "Bob"))⟩
      (.set "name" (.string "Bob"))).Holds (fun _ => true) (fun _ => 300) := by
  have hmem : .button "Reset" (.set "name" (.string "Bob")) ∈
      (nameView (.string "Bob")).root.components := by
    simp [nameView, TaskLiveViewComponent.components, componentsOf]
  refine liveViewHolds_of_keepsTypes
    (.step (.init ⟨nameView (.string "Bob"), rfl, rfl⟩) ?_ (Steps.press hmem))
  rintro type (⟨-, rfl⟩ | ⟨⟨label, amount, hmem⟩, -⟩)
  · rfl
  · simp [nameView, TaskLiveViewComponent.components, componentsOf] at hmem

/-- The name is set to a number, although there is an input for it. -/
theorem not_liveViewHolds_nameView : ¬∀ v : LiveView ℤ,
    (system (fun _ => true) (· + ·) (fun _ => 300)).Reachable v →
      v.Holds (fun _ => true) (fun _ => 300) := by
  intro h
  let start : LiveView ℤ := ⟨nameView (.number 5), initialTaskLiveViewState (nameView (.number 5))⟩
  have hmem : .button "Reset" (.set "name" (.number 5)) ∈ start.snapshot.root.components := by
    simp [start, nameView, TaskLiveViewComponent.components, componentsOf]
  have hholds := h _ (.step (.init ⟨nameView (.number 5), rfl, rfl⟩) trivial (Steps.press hmem))
  have hname := hholds.expected "name" .string (Or.inl ⟨⟨none, by
    simp [dispatch, start, nameView, TaskLiveViewComponent.components, componentsOf]⟩, rfl⟩)
  cases hname

end LiveView

end Free4Chat
