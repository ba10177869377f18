import Mathlib.Logic.Function.Basic

/-!
# Drag sources and their data sources

Two protocol extensions of `KWaylandServer` attach an object to a client's data source:
`xdg_toplevel_drag_v1` (`xdgtopleveldrag_v1_interface.cpp`) and the extended drag source of
`zcr_extended_drag_v1` (`extdrag_v1_interface.cpp`). Each one keeps a `QPointer` to its data
source, and its constructor writes a plain back pointer into the source's
`DataSourceInterfacePrivate`: `xdgToplevelDrag` and `extendedDragSource`. The toplevel drag's
destructor clears the back pointer while the source lives; the extended drag source's
destructor is the default one and leaves it.

The model is one address space of objects, each unborn, alive or destroyed, with the members the
two files read and write. A `QPointer` keeps the address it was given and reads as `nullptr`
once the object is destroyed (`State.guarded`); a plain pointer reads as the address it holds.
Data sources, toplevels and surfaces are created and destroyed by code outside `src/`
(`Action.create`, `Action.destroy`); addresses are not reused.

Under every interleaving of the requests and of those creations and destructions
(`Reachable`), a live data source's `xdgToplevelDrag` is `nullptr` or a live toplevel drag made
for that source (`Reachable.toplevelDragLive`). The extended drag source's back pointer has no
such guarantee: destroying the extended drag source leaves its live data source pointing at it
(`extendedDragSource_dangles`).
-/

namespace KWin

namespace KWaylandServer

open Function

/-- The lifetime of the object at an address. -/
inductive Life where
  | unborn
  | alive
  | destroyed
  deriving DecidableEq, Repr

/-- What the object at an address is: a data source, one of the two drag objects, or anything
else (a toplevel, a surface). -/
inductive Kind where
  | dataSource
  | toplevelDrag
  | extendedDragSource
  | other
  deriving DecidableEq, Repr

/-- The objects, and the members of `DataSourceInterfacePrivate`,
`XdgToplevelDragV1InterfacePrivate` and `ExtDragSourceV1InterfacePrivate` that the two files
read and write, by address. -/
structure State where
  life : Nat → Life
  kind : Nat → Kind
  /-- `DataSourceInterfacePrivate::xdgToplevelDrag`, a plain pointer. -/
  xdgToplevelDrag : Nat → Option Nat
  /-- `DataSourceInterfacePrivate::extendedDragSource`, a plain pointer. -/
  extendedDragSource : Nat → Option Nat
  /-- `XdgToplevelDragV1InterfacePrivate::dataSource`, a `QPointer`. -/
  dragDataSource : Nat → Option Nat
  /-- `XdgToplevelDragV1InterfacePrivate::toplevel`, a `QPointer`. -/
  dragToplevel : Nat → Option Nat
  /-- `XdgToplevelDragV1InterfacePrivate::pos`. -/
  dragOffset : Nat → Int × Int
  /-- `ExtDragSourceV1InterfacePrivate::dataSource`, a `QPointer`. -/
  extDataSource : Nat → Option Nat
  /-- `ExtDragSourceV1InterfacePrivate::options`. -/
  extOptions : Nat → Nat
  /-- `ExtDragSourceV1InterfacePrivate::surface`, a plain pointer. -/
  extSurface : Nat → Option Nat
  /-- `ExtDragSourceV1InterfacePrivate::pos`. -/
  extOffset : Nat → Int × Int

namespace State

/-- No object yet. -/
def empty : State where
  life _ := .unborn
  kind _ := .other
  xdgToplevelDrag _ := none
  extendedDragSource _ := none
  dragDataSource _ := none
  dragToplevel _ := none
  dragOffset _ := (0, 0)
  extDataSource _ := none
  extOptions _ := 0
  extSurface _ := none
  extOffset _ := (0, 0)

/-- Reading a `QPointer`: the object while it lives, `nullptr` once it is destroyed. -/
def guarded (s : State) (pointer : Option Nat) : Option Nat :=
  pointer.filter fun object => s.life object = .alive

/-- An object made by code outside `src/`; a data source starts with both back pointers
`nullptr`. -/
def create (s : State) (object : Nat) (kind : Kind) : State :=
  { s with
    life := update s.life object .alive
    kind := update s.kind object kind
    xdgToplevelDrag := update s.xdgToplevelDrag object none
    extendedDragSource := update s.extendedDragSource object none }

/-- An object destroyed by code outside `src/`. -/
def destroy (s : State) (object : Nat) : State :=
  { s with life := update s.life object .destroyed }

/-- `XdgToplevelDragV1Interface(resource, dataSource)`. -/
def createToplevelDrag (s : State) (drag source : Nat) : State :=
  { s with
    life := update s.life drag .alive
    kind := update s.kind drag .toplevelDrag
    dragDataSource := update s.dragDataSource drag (some source)
    dragToplevel := update s.dragToplevel drag none
    dragOffset := update s.dragOffset drag (0, 0)
    xdgToplevelDrag := update s.xdgToplevelDrag source (some drag) }

/-- `~XdgToplevelDragV1Interface()`: the body clears the source's back pointer while the source
lives, then the object is gone. -/
def destroyToplevelDrag (s : State) (drag : Nat) : State :=
  let s := match s.guarded (s.dragDataSource drag) with
    | some source => { s with xdgToplevelDrag := update s.xdgToplevelDrag source none }
    | none => s
  { s with life := update s.life drag .destroyed }

/-- `xdg_toplevel_drag_v1_attach(toplevel, x_offset, y_offset)`; `toplevel` is what
`XdgToplevelInterface::get` answers. -/
def attach (s : State) (drag : Nat) (toplevel : Option Nat) (xOffset yOffset : Int) : State :=
  { s with
    dragToplevel := update s.dragToplevel drag toplevel
    dragOffset := update s.dragOffset drag (xOffset, yOffset) }

/-- `XdgToplevelDragV1Interface::toplevel()`. -/
def toplevel (s : State) (drag : Nat) : Option Nat :=
  s.guarded (s.dragToplevel drag)

/-- `get_xdg_toplevel_drag(id, data_source)`; `created` is whether `wl_resource_create`
succeeded, and the client is sent `no_memory` otherwise. -/
def getXdgToplevelDrag (s : State) (drag source : Nat) (created : Bool) : State :=
  if created then s.createToplevelDrag drag source else s

/-- `ExtDragSourceV1Interface(resource, dataSource, options)`. -/
def createExtendedDragSource (s : State) (extended source options : Nat) : State :=
  { s with
    life := update s.life extended .alive
    kind := update s.kind extended .extendedDragSource
    extDataSource := update s.extDataSource extended (some source)
    extOptions := update s.extOptions extended options
    extSurface := update s.extSurface extended none
    extOffset := update s.extOffset extended (0, 0)
    extendedDragSource := update s.extendedDragSource source (some extended) }

/-- `~ExtDragSourceV1Interface() = default`. -/
def destroyExtendedDragSource (s : State) (extended : Nat) : State :=
  { s with life := update s.life extended .destroyed }

/-- `zcr_extended_drag_source_v1_drag(surface, x_offset, y_offset)`; `surface` is what
`SurfaceInterface::get` answers. -/
def drag (s : State) (extended : Nat) (surface : Option Nat) (xOffset yOffset : Int) : State :=
  { s with
    extSurface := update s.extSurface extended surface
    extOffset := update s.extOffset extended (xOffset, yOffset) }

/-- `ExtDragSourceV1Interface::surface()`: a plain pointer, read as it is. -/
def surface (s : State) (extended : Nat) : Option Nat :=
  s.extSurface extended

/-- `get_extended_drag_source(id, data_source, options)`. -/
def getExtendedDragSource (s : State) (extended source options : Nat) (created : Bool) : State :=
  if created then s.createExtendedDragSource extended source options else s

end State

/-- The requests of the two protocols and what code outside `src/` does to the objects. -/
inductive Action where
  | create (object : Nat) (kind : Kind)
  | destroy (object : Nat)
  | getXdgToplevelDrag (drag source : Nat) (created : Bool)
  | attach (drag : Nat) (toplevel : Option Nat) (xOffset yOffset : Int)
  | destroyToplevelDrag (drag : Nat)
  | getExtendedDragSource (extended source options : Nat) (created : Bool)
  | drag (extended : Nat) (surface : Option Nat) (xOffset yOffset : Int)
  | destroyExtendedDragSource (extended : Nat)

/-- The object at `object` is alive and of kind `kind`. -/
def State.isLive (s : State) (object : Nat) (kind : Kind) : Prop :=
  s.life object = .alive ∧ s.kind object = kind

instance (s : State) (object : Nat) (kind : Kind) : Decidable (s.isLive object kind) :=
  inferInstanceAs (Decidable (_ ∧ _))

/-- One action. New objects take unborn addresses; outside code creates and destroys data
sources and other objects, never the two drag objects, which their own requests destroy; the
requests name live objects of their kinds. -/
def step (s : State) : Action → Option State
  | .create object kind =>
    if s.life object = .unborn ∧ (kind = .dataSource ∨ kind = .other) then some (s.create object kind)
    else none
  | .destroy object =>
    if s.isLive object .dataSource ∨ s.isLive object .other then some (s.destroy object) else none
  | .getXdgToplevelDrag drag source created =>
    if s.life drag = .unborn ∧ s.isLive source .dataSource then
      some (s.getXdgToplevelDrag drag source created)
    else none
  | .attach drag toplevel xOffset yOffset =>
    if s.isLive drag .toplevelDrag then some (s.attach drag toplevel xOffset yOffset) else none
  | .destroyToplevelDrag drag =>
    if s.isLive drag .toplevelDrag then some (s.destroyToplevelDrag drag) else none
  | .getExtendedDragSource extended source options created =>
    if s.life extended = .unborn ∧ s.isLive source .dataSource then
      some (s.getExtendedDragSource extended source options created)
    else none
  | .drag extended surface xOffset yOffset =>
    if s.isLive extended .extendedDragSource then some (s.drag extended surface xOffset yOffset)
    else none
  | .destroyExtendedDragSource extended =>
    if s.isLive extended .extendedDragSource then some (s.destroyExtendedDragSource extended)
    else none

/-- The states reached from no object at all. -/
inductive Reachable : State → Prop where
  | empty : Reachable State.empty
  | step {s s' : State} {action : Action} : Reachable s → step s action = some s' → Reachable s'

/-! ## The toplevel drag's back pointer -/

/-- The toplevel drag back pointers: an unborn object has none, and a live object's points at a
live toplevel drag whose data source is that object. -/
structure ToplevelDragLive (s : State) : Prop where
  unborn : ∀ object, s.life object = .unborn → s.xdgToplevelDrag object = none
  live : ∀ source drag, s.life source = .alive → s.xdgToplevelDrag source = some drag →
    s.isLive drag .toplevelDrag ∧ s.dragDataSource drag = some source

namespace ToplevelDragLive

variable {s : State}

theorem empty : ToplevelDragLive State.empty :=
  ⟨fun _ _ => rfl, fun _ _ _ points => nomatch points⟩

/-- An object made outside `src/` takes an unborn address and starts with no back pointer. -/
theorem create (inv : ToplevelDragLive s) {object : Nat} (fresh : s.life object = .unborn)
    (kind : Kind) : ToplevelDragLive (s.create object kind) := by
  constructor
  · intro other unborn
    simp only [State.create, update_apply] at unborn ⊢
    split_ifs at unborn ⊢
    exact inv.unborn other unborn
  · intro source drag alive points
    simp only [State.create, State.isLive, update_apply] at alive points ⊢
    split_ifs at alive points with here
    obtain ⟨⟨live, isDrag⟩, back⟩ := inv.live source drag alive points
    have other : drag ≠ object := by rintro rfl; simp [fresh] at live
    simp [other, live, isDrag, back]

/-- Outside code destroys no toplevel drag. -/
theorem destroy (inv : ToplevelDragLive s) {object : Nat} (notDrag : s.kind object ≠ .toplevelDrag) :
    ToplevelDragLive (s.destroy object) := by
  constructor
  · intro other unborn
    simp only [State.destroy, update_apply] at unborn
    split_ifs at unborn
    exact inv.unborn other unborn
  · intro source drag alive points
    simp only [State.destroy, State.isLive, update_apply] at alive ⊢
    split_ifs at alive with here
    obtain ⟨⟨live, isDrag⟩, back⟩ := inv.live source drag alive points
    have other : drag ≠ object := by rintro rfl; exact notDrag isDrag
    simp [other, live, isDrag, back]

theorem createToplevelDrag (inv : ToplevelDragLive s) {drag source : Nat}
    (fresh : s.life drag = .unborn) (alive : s.life source = .alive) :
    ToplevelDragLive (s.createToplevelDrag drag source) := by
  constructor
  · intro other unborn
    simp only [State.createToplevelDrag, update_apply] at unborn ⊢
    split_ifs at unborn ⊢ with isSource
    · subst isSource; simp [alive] at unborn
    · exact inv.unborn other unborn
  · intro other pointee otherAlive points
    simp only [State.createToplevelDrag, State.isLive, update_apply] at otherAlive points ⊢
    split_ifs at points with isSource
    · cases points
      simp [isSource]
    · split_ifs at otherAlive with isDrag
      · subst isDrag; simp [inv.unborn _ fresh] at points
      obtain ⟨⟨live, kind⟩, back⟩ := inv.live other pointee otherAlive points
      have older : pointee ≠ drag := by rintro rfl; simp [fresh] at live
      simp [older, live, kind, back]

/-- A toplevel drag's destructor clears the back pointer of its live data source, which is the
only object that can point at the drag. -/
theorem destroyToplevelDrag (inv : ToplevelDragLive s) (drag : Nat) :
    ToplevelDragLive (s.destroyToplevelDrag drag) := by
  unfold State.destroyToplevelDrag
  cases found : s.guarded (s.dragDataSource drag) with
  | none =>
    constructor
    · intro other unborn
      simp only [update_apply] at unborn
      split_ifs at unborn
      exact inv.unborn other unborn
    · intro source pointee alive points
      simp only [State.isLive, update_apply] at alive ⊢
      split_ifs at alive with here
      obtain ⟨⟨live, kind⟩, back⟩ := inv.live source pointee alive points
      have other : pointee ≠ drag := by
        rintro rfl
        simp [State.guarded, back, alive] at found
      simp [other, live, kind, back]
  | some source =>
    obtain ⟨back, sourceAlive⟩ : s.dragDataSource drag = some source ∧ s.life source = .alive := by
      simpa [State.guarded] using found
    constructor
    · intro other unborn
      simp only [update_apply] at unborn ⊢
      split_ifs at unborn ⊢
      · rfl
      · exact inv.unborn other unborn
    · intro other pointee alive points
      simp only [State.isLive, update_apply] at alive points ⊢
      split_ifs at alive points with here isSource
      obtain ⟨⟨live, kind⟩, pointeeBack⟩ := inv.live other pointee alive points
      have older : pointee ≠ drag := by
        rintro rfl
        exact isSource (Option.some.inj (pointeeBack.symm.trans back))
      simp [older, live, kind, pointeeBack]

theorem createExtendedDragSource (inv : ToplevelDragLive s) {extended source options : Nat}
    (fresh : s.life extended = .unborn) :
    ToplevelDragLive (s.createExtendedDragSource extended source options) := by
  constructor
  · intro other unborn
    simp only [State.createExtendedDragSource, update_apply] at unborn
    split_ifs at unborn
    exact inv.unborn other unborn
  · intro other pointee otherAlive points
    change s.xdgToplevelDrag other = some pointee at points
    simp only [State.createExtendedDragSource, State.isLive, update_apply] at otherAlive ⊢
    split_ifs at otherAlive with isNew
    · subst isNew; simp [inv.unborn _ fresh] at points
    obtain ⟨⟨live, kind⟩, back⟩ := inv.live other pointee otherAlive points
    have older : pointee ≠ extended := by rintro rfl; simp [fresh] at live
    simp [older, live, kind, back]

theorem destroyExtendedDragSource (inv : ToplevelDragLive s) {extended : Nat}
    (isExtended : s.kind extended = .extendedDragSource) :
    ToplevelDragLive (s.destroyExtendedDragSource extended) :=
  inv.destroy (by rw [isExtended]; nofun)

theorem step {s' : State} {action : Action} (inv : ToplevelDragLive s)
    (stepped : KWaylandServer.step s action = some s') : ToplevelDragLive s' := by
  cases action <;> simp only [KWaylandServer.step] at stepped <;> split at stepped <;>
    cases stepped <;> rename_i guards
  case create _ kind => exact inv.create guards.1 kind
  case destroy =>
    exact inv.destroy (by rcases guards with ⟨-, kind⟩ | ⟨-, kind⟩ <;> rw [kind] <;> nofun)
  case getXdgToplevelDrag =>
    unfold State.getXdgToplevelDrag
    split
    · exact inv.createToplevelDrag guards.1 guards.2.1
    · exact inv
  case destroyToplevelDrag drag => exact inv.destroyToplevelDrag drag
  case getExtendedDragSource =>
    unfold State.getExtendedDragSource
    split
    · exact inv.createExtendedDragSource guards.1
    · exact inv
  case destroyExtendedDragSource => exact inv.destroyExtendedDragSource guards.2
  all_goals exact ⟨inv.unborn, inv.live⟩

end ToplevelDragLive

theorem Reachable.toplevelDragLive {s : State} (reachable : Reachable s) : ToplevelDragLive s := by
  induction reachable with
  | empty => exact .empty
  | step _ stepped inv => exact inv.step stepped

/-- Under every interleaving of the requests and of what outside code creates and destroys, a
live data source's `xdgToplevelDrag` is `nullptr` or a live toplevel drag whose `dataSource`
reads back that source. -/
theorem Reachable.xdgToplevelDrag_live {s : State} (reachable : Reachable s) {source drag : Nat}
    (alive : s.life source = .alive) (points : s.xdgToplevelDrag source = some drag) :
    s.isLive drag .toplevelDrag ∧ s.guarded (s.dragDataSource drag) = some source := by
  obtain ⟨live, back⟩ := reachable.toplevelDragLive.live source drag alive points
  exact ⟨live, by simp [State.guarded, back, alive]⟩

/-- A data source with a toplevel drag made for it. -/
def dragging : State :=
  (State.empty.create 0 .dataSource).getXdgToplevelDrag 1 0 true

theorem dragging_reachable : Reachable dragging :=
  @Reachable.step _ _ (.getXdgToplevelDrag 1 0 true)
    (@Reachable.step _ _ (.create 0 .dataSource) .empty rfl) rfl

theorem Reachable.xdgToplevelDrag_live_dragging :
    Reachable dragging ∧ dragging.life 0 = .alive ∧ dragging.xdgToplevelDrag 0 = some 1 ∧
      dragging.isLive 1 .toplevelDrag ∧ dragging.guarded (dragging.dragDataSource 1) = some 0 :=
  ⟨dragging_reachable, rfl, rfl, Reachable.xdgToplevelDrag_live dragging_reachable rfl rfl⟩

/-- The extended drag source's destructor leaves its data source's back pointer as it was: a
live data source that pointed at it points at a destroyed object. -/
theorem extendedDragSource_dangles {s s' : State} {source extended : Nat}
    (isSource : s.isLive source .dataSource) (points : s.extendedDragSource source = some extended)
    (stepped : step s (.destroyExtendedDragSource extended) = some s') :
    s'.life source = .alive ∧ s'.extendedDragSource source = some extended ∧
      s'.life extended = .destroyed := by
  simp only [KWaylandServer.step] at stepped
  split at stepped <;> cases stepped
  rename_i isExtended
  have apart : source ≠ extended := by
    rintro rfl
    exact absurd (isSource.2.symm.trans isExtended.2) nofun
  simp [State.destroyExtendedDragSource, update_apply, apart, isSource.1, points]

end KWaylandServer

end KWin
