import Mathlib.Data.List.Nodup

/-!
# `SceneEffectItem`

`SceneEffectItem` (`scripting/sceneeffectitem.cpp`) is the QML item of a scripted scene effect.
Its `visible` property keeps the effect running: becoming visible stops the single-shot
`m_visibleTimer` and calls `setRunning(true)`, becoming invisible starts the timer, and the
timer's timeout calls `setRunning(false)`. Its `data` list property holds the item's QML
children, each reparented to the item when it is appended.

`QuickSceneEffect::setRunning`, `QTimer` and `QObject::setParent` are outside `src/`; the model
keeps what they set: the running flag, whether the timer is pending, and each object's parent.
Other code may give an object another parent at any time (`Action.reparent`).

Over every run from a new item (`Reachable`), the effect runs exactly while the item is visible
or the timer is pending, the timer is pending only while the item is invisible, and
`visibleChanged` has been emitted an odd number of times exactly when the item is visible
(`Reachable.timing`); the children list never holds an object twice
(`Reachable.children_nodup`). `data_clear` empties the list and leaves every object it held
without a parent, also one that other code reparented after it was appended, and touches no
other object (`dataClear_parent`).
-/

namespace KWin

namespace SceneEffectItem

/-- What `QObject::parent()` answers for an object: no parent, the item, or another object. -/
inductive Parent where
  | none
  | item
  | other (object : Nat)
  deriving DecidableEq, Repr

/-- The members of `SceneEffectItem` and `QuickSceneEffect` the modelled functions read and
write, and each object's parent. A `QObject *` other than `nullptr` is a number. -/
structure State where
  /-- `m_children`. -/
  children : List Nat
  /-- `m_isVisible`. -/
  isVisible : Bool
  /-- `m_visibleTimer.isActive()`. -/
  visibleTimerActive : Bool
  /-- `QuickSceneEffect::isRunning()`. -/
  running : Bool
  /-- How many times `visibleChanged()` was emitted. -/
  visibleChanged : Nat
  /-- `QObject::parent()` of each object. -/
  parent : Nat → Parent

namespace State

/-- `SceneEffectItem()`: no children, invisible, the timer stopped, the effect not running;
the objects have the parents `parent` gives them. -/
def create (parent : Nat → Parent) : State where
  children := []
  isVisible := false
  visibleTimerActive := false
  running := false
  visibleChanged := 0
  parent := parent

/-- `QuickSceneEffect::setRunning(running)`. `QuickSceneEffect` is not under `src/`; the model
assumes the call always sets the running flag to `running`, and keeps nothing else of it. -/
def setRunning (s : State) (running : Bool) : State :=
  { s with running }

/-- `setVisible(visible)`. -/
def setVisible (s : State) (visible : Bool) : State :=
  if s.isVisible = visible then s
  else
    let s := { s with isVisible := visible }
    let s := if visible then { s with visibleTimerActive := false }.setRunning true
      else { s with visibleTimerActive := true }
    { s with visibleChanged := s.visibleChanged + 1 }

/-- A `setVisible` that changes the visibility: the timer is started for hiding and stopped for
showing, showing starts the effect, and `visibleChanged()` is emitted. -/
theorem setVisible_changed {s : State} {visible : Bool} (changed : ¬s.isVisible = visible) :
    s.setVisible visible =
      { s with
        isVisible := visible
        visibleTimerActive := !visible
        running := visible || s.running
        visibleChanged := s.visibleChanged + 1 } := by
  rw [setVisible, if_neg changed]
  cases visible <;> rfl

/-- The timeout of the single-shot `m_visibleTimer`, which the constructor connects to
`setRunning(false)`. -/
def visibleTimeout (s : State) : State :=
  { s with visibleTimerActive := false }.setRunning false

/-- `data_append(objects, object)`; `none` is `nullptr`. -/
def dataAppend (s : State) : Option Nat → State
  | none => s
  | some object =>
    if s.children.contains object then s
    else { s with parent := Function.update s.parent object .item, children := s.children ++ [object] }

/-- `data_count(objects)`. -/
def dataCount (s : State) : Nat :=
  s.children.length

/-- `data_at(objects, index)`: `QList::value`, `nullptr` for an index out of range. -/
def dataAt (s : State) (index : Int) : Option Nat :=
  if 0 ≤ index then s.children[index.toNat]? else none

/-- The loop of `data_clear`, over the list from its last object: each `takeLast()` is followed
by `setParent(nullptr)`. -/
def clearParents : List Nat → (Nat → Parent) → (Nat → Parent)
  | [], parent => parent
  | child :: rest, parent => clearParents rest (Function.update parent child .none)

/-- `data_clear(objects)`. -/
def dataClear (s : State) : State :=
  { s with children := [], parent := clearParents s.children.reverse s.parent }

end State

/-- What can happen to an item: the QML engine sets `visible`, the timer fires, QML appends to
or clears `data`, or other code reparents an object. -/
inductive Action where
  | setVisible (visible : Bool)
  | visibleTimeout
  | dataAppend (object : Option Nat)
  | dataClear
  | reparent (object : Nat) (parent : Parent)

/-- One action; a timeout happens only while the timer is pending. -/
def step (s : State) : Action → Option State
  | .setVisible visible => some (s.setVisible visible)
  | .visibleTimeout => if s.visibleTimerActive then some s.visibleTimeout else none
  | .dataAppend object => some (s.dataAppend object)
  | .dataClear => some s.dataClear
  | .reparent object parent => some { s with parent := Function.update s.parent object parent }

/-- The states a new item reaches. -/
inductive Reachable : State → Prop where
  | initial (parent : Nat → Parent) : Reachable (State.create parent)
  | step {s s' : State} {action : Action} : Reachable s → step s action = some s' → Reachable s'

/-! ## Visibility, the timer and the running effect -/

/-- How the visibility, the timer and the effect's running flag hang together. -/
structure Timing (s : State) : Prop where
  running : s.running = (s.isVisible || s.visibleTimerActive)
  timerHidden : s.visibleTimerActive = true → s.isVisible = false
  signals : s.visibleChanged % 2 = 1 ↔ s.isVisible = true

theorem Timing.create (parent : Nat → Parent) : Timing (State.create parent) :=
  ⟨rfl, nofun, by simp [State.create]⟩

theorem Timing.setVisible {s : State} (timing : Timing s) (visible : Bool) :
    Timing (s.setVisible visible) := by
  obtain ⟨running, timerHidden, signals⟩ := timing
  by_cases same : s.isVisible = visible
  · rw [State.setVisible, if_pos same]
    exact ⟨running, timerHidden, signals⟩
  have wasVisible : s.isVisible = !visible := by cases visible <;> simpa using same
  have parity : s.visibleChanged % 2 = 1 ↔ visible = false := by
    rw [signals, wasVisible]
    cases visible <;> decide
  rw [State.setVisible_changed same]
  refine ⟨?_, by cases visible <;> simp, ?_⟩
  · cases visible <;> simp [running, wasVisible]
  · show (s.visibleChanged + 1) % 2 = 1 ↔ visible = true
    cases visible <;> simp only [reduceCtorEq, iff_false, iff_true, true_iff, not_true] at parity ⊢ <;> omega

theorem Timing.visibleTimeout {s : State} (timing : Timing s) (pending : s.visibleTimerActive = true) :
    Timing s.visibleTimeout := by
  obtain ⟨running, timerHidden, signals⟩ := timing
  have hidden := timerHidden pending
  exact ⟨by simp [State.visibleTimeout, State.setRunning, hidden], nofun,
    by simpa [State.visibleTimeout, State.setRunning, hidden] using signals⟩

theorem Timing.dataAppend {s : State} (timing : Timing s) (object : Option Nat) :
    Timing (s.dataAppend object) := by
  unfold State.dataAppend
  split
  · exact timing
  · split
    · exact timing
    · exact ⟨timing.running, timing.timerHidden, timing.signals⟩

theorem Timing.step {s s' : State} {action : Action} (timing : Timing s)
    (stepped : step s action = some s') : Timing s' := by
  cases action with
  | setVisible visible => cases stepped; exact timing.setVisible visible
  | visibleTimeout =>
    simp only [SceneEffectItem.step] at stepped
    split at stepped <;> cases stepped
    exact timing.visibleTimeout ‹_›
  | dataAppend object => cases stepped; exact timing.dataAppend object
  | dataClear => cases stepped; exact ⟨timing.running, timing.timerHidden, timing.signals⟩
  | reparent => cases stepped; exact ⟨timing.running, timing.timerHidden, timing.signals⟩

theorem Reachable.timing {s : State} (reachable : Reachable s) : Timing s := by
  induction reachable with
  | initial parent => exact Timing.create parent
  | step _ stepped timing => exact timing.step stepped

/-- Shown, then hidden again: the effect runs on through the timer's grace period. -/
def hiddenAgain : State :=
  ((State.create fun _ => .none).setVisible true).setVisible false

theorem hiddenAgain_reachable : Reachable hiddenAgain :=
  @Reachable.step _ _ (.setVisible false) (@Reachable.step _ _ (.setVisible true) (.initial _) rfl) rfl

/-- The effect runs exactly while the item is visible or the timer that hides it is pending,
and that timer is pending only while the item is invisible. -/
theorem Reachable.running_iff {s : State} (reachable : Reachable s) :
    (s.running = true ↔ s.isVisible = true ∨ s.visibleTimerActive = true) ∧
      (s.visibleTimerActive = true → s.isVisible = false) := by
  obtain ⟨running, timerHidden, -⟩ := reachable.timing
  exact ⟨by rw [running, Bool.or_eq_true], timerHidden⟩

theorem Reachable.running_iff_hiddenAgain :
    Reachable hiddenAgain ∧
      ((hiddenAgain.running = true ↔
          hiddenAgain.isVisible = true ∨ hiddenAgain.visibleTimerActive = true) ∧
        (hiddenAgain.visibleTimerActive = true → hiddenAgain.isVisible = false)) :=
  ⟨hiddenAgain_reachable, Reachable.running_iff hiddenAgain_reachable⟩

example : hiddenAgain.running = true ∧ hiddenAgain.isVisible = false ∧
    hiddenAgain.visibleTimeout.running = false := by
  decide

/-- `visibleChanged()` has been emitted an odd number of times exactly when the item is
visible: the signal comes with every change, and with nothing else. -/
theorem Reachable.visibleChanged_odd_iff {s : State} (reachable : Reachable s) :
    s.visibleChanged % 2 = 1 ↔ s.isVisible = true :=
  reachable.timing.signals

theorem Reachable.visibleChanged_odd_iff_hiddenAgain :
    Reachable hiddenAgain ∧ (hiddenAgain.visibleChanged % 2 = 1 ↔ hiddenAgain.isVisible = true) :=
  ⟨hiddenAgain_reachable, Reachable.visibleChanged_odd_iff hiddenAgain_reachable⟩

/-! ## The children -/

/-- `data_append` appends an object only when the list does not hold it. -/
theorem dataAppend_children_nodup {s : State} (nodup : s.children.Nodup) (object : Option Nat) :
    (s.dataAppend object).children.Nodup := by
  unfold State.dataAppend
  split
  · exact nodup
  · split
    · exact nodup
    · rename_i absent
      exact nodup.append (List.nodup_singleton _)
        (List.disjoint_singleton.mpr (by simpa using absent))

theorem step_children_nodup {s s' : State} {action : Action} (nodup : s.children.Nodup)
    (stepped : step s action = some s') : s'.children.Nodup := by
  cases action with
  | dataAppend object => cases stepped; exact dataAppend_children_nodup nodup object
  | dataClear => cases stepped; exact List.nodup_nil
  | visibleTimeout =>
    simp only [SceneEffectItem.step] at stepped
    split at stepped <;> cases stepped
    exact nodup
  | setVisible visible =>
    cases stepped
    unfold State.setVisible
    split
    · exact nodup
    · cases visible <;> exact nodup
  | reparent => cases stepped; exact nodup

/-- The children list never holds an object twice. -/
theorem Reachable.children_nodup {s : State} (reachable : Reachable s) : s.children.Nodup := by
  induction reachable with
  | initial => exact List.nodup_nil
  | step _ stepped nodup => exact step_children_nodup nodup stepped

/-- The same object appended twice. -/
def appendedTwice : State :=
  ((State.create fun _ => .none).dataAppend (some 1)).dataAppend (some 1)

theorem appendedTwice_reachable : Reachable appendedTwice :=
  @Reachable.step _ _ (.dataAppend (some 1))
    (@Reachable.step _ _ (.dataAppend (some 1)) (.initial _) rfl) rfl

theorem Reachable.children_nodup_appendedTwice :
    Reachable appendedTwice ∧ appendedTwice.children.Nodup :=
  ⟨appendedTwice_reachable, Reachable.children_nodup appendedTwice_reachable⟩

theorem clearParents_apply (children : List Nat) (parent : Nat → Parent) (object : Nat) :
    State.clearParents children parent object =
      if object ∈ children then .none else parent object := by
  induction children generalizing parent with
  | nil => simp [State.clearParents]
  | cons child rest ih =>
    rw [State.clearParents, ih]
    by_cases here : object = child
    · subst here
      simp
    · simp [here, Function.update_noteq]

/-- `data_clear` leaves each object the list held without a parent, whatever parent it had
been given since it was appended, and leaves every other object's parent as it was. -/
theorem dataClear_parent (s : State) (object : Nat) :
    s.dataClear.parent object = if object ∈ s.children then .none else s.parent object := by
  show State.clearParents s.children.reverse s.parent object = _
  simp only [clearParents_apply, List.mem_reverse]

end SceneEffectItem

end KWin
