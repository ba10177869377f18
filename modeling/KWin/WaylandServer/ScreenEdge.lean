import KWin.WaylandServer.Drag

/-!
# Screen edges

`ScreenEdgeManagerV1Interface` (`screenedge_v1_interface.cpp`) serves the request
`get_screen_edge(id, border, surface)` of `kde_screen_edge_manager_v1`. The `switch (border)`
turns the protocol's four border values into an electric border. It then makes a
`ScreenEdgeV1Interface` for it and announces the edge with `edgeRequested`. Any other value
posts the protocol error of code 0 and text "invalid border" and makes nothing. An edge keeps its
surface in a `QPointer` and forwards the `show` and `hide` requests as `showRequested` and
`hideRequested`.

The state holds the objects by address, as in `Drag`, with the edges' private members, and the
two logs a client can observe: the signals emitted and the errors posted. Surfaces are made
and destroyed by code outside `src/`.

A `get_screen_edge` with a border outside the four posts the error and changes nothing else
(`getScreenEdge_of_invalid`). In every reachable state, every edge has one of the four side
borders and was announced at its own address (`Reachable.edgesAnnounced`). Over every run,
each `get_screen_edge` request is answered exactly once, by an `edgeRequested` signal or by the
"invalid border" error, and no other error is posted (`run_answers_getScreenEdge`).
-/

namespace KWin

namespace KWaylandServer

namespace ScreenEdgeV1

open Function

/-- `border_top` of `kde_screen_edge_manager_v1` (`kde-screen-edge-v1.xml`, not under `src/`). -/
def borderTop : UInt32 := 1

/-- `border_bottom`. -/
def borderBottom : UInt32 := 2

/-- `border_left`. -/
def borderLeft : UInt32 := 3

/-- `border_right`. -/
def borderRight : UInt32 := 4

/-- `KWin::ElectricBorder` of `kwinglobals.h`, not under `src/`. -/
inductive ElectricBorder where
  | ElectricTop
  | ElectricTopRight
  | ElectricRight
  | ElectricBottomRight
  | ElectricBottom
  | ElectricBottomLeft
  | ElectricLeft
  | ElectricTopLeft
  | ELECTRIC_COUNT
  | ElectricNone
  deriving DecidableEq, Repr

/-- The four sides of the screen, as against its corners, `ELECTRIC_COUNT` and
`ElectricNone`. -/
def ElectricBorder.isSide : ElectricBorder → Bool
  | ElectricTop | ElectricRight | ElectricBottom | ElectricLeft => true
  | _ => false

/-- The `switch (border)` of `get_screen_edge`; `none` is its `default:` branch. -/
def electricBorderOf (border : UInt32) : Option ElectricBorder :=
  if border = borderTop then some .ElectricTop
  else if border = borderBottom then some .ElectricBottom
  else if border = borderLeft then some .ElectricLeft
  else if border = borderRight then some .ElectricRight
  else none

/-- The switch maps the four protocol values to sides of the screen. -/
theorem electricBorderOf_isSide {border : UInt32} {electric : ElectricBorder}
    (mapped : electricBorderOf border = some electric) : electric.isSide = true := by
  unfold electricBorderOf at mapped
  split_ifs at mapped <;> cases mapped <;> rfl

/-- The signals of `ScreenEdgeManagerV1Interface` and `ScreenEdgeV1Interface`, by the edge
they carry or are emitted by. -/
inductive Signal where
  | edgeRequested (edge : Nat)
  | showRequested (edge : Nat)
  | hideRequested (edge : Nat)
  deriving DecidableEq, Repr

/-- Whether a signal is `edgeRequested`. -/
def Signal.isEdgeRequested : Signal → Bool
  | edgeRequested _ => true
  | _ => false

/-- `ScreenEdgeV1InterfacePrivate`: `surface`, a `QPointer`, and `border`. -/
structure ScreenEdgeV1InterfacePrivate where
  surface : Option Nat
  border : ElectricBorder
  deriving DecidableEq, Repr

/-- The objects by address; the private members of the edges; and what a client observes:
the signals emitted and the protocol errors posted, each with its code and message. -/
structure State where
  life : Nat → Life
  edges : Nat → Option ScreenEdgeV1InterfacePrivate
  signals : List Signal
  errors : List (UInt32 × String)

namespace State

/-- No object yet. -/
def empty : State where
  life _ := .unborn
  edges _ := none
  signals := []
  errors := []

/-- `kde_screen_edge_manager_v1_get_screen_edge(resource, id, border, surface)`. The new
`ScreenEdgeV1Interface` lives at `edge`, and `surface` is what `SurfaceInterface::get` returns
for the surface argument. -/
def getScreenEdge (s : State) (edge : Nat) (border : UInt32) (surface : Option Nat) : State :=
  match electricBorderOf border with
  | none => { s with errors := s.errors ++ [(0, "invalid border")] }
  | some electricBorder =>
    { s with
      life := update s.life edge .alive
      edges := update s.edges edge (some ⟨surface, electricBorder⟩)
      signals := s.signals ++ [.edgeRequested edge] }

/-- `kde_screen_edge_v1_show`. -/
def screenEdgeShow (s : State) (edge : Nat) : State :=
  { s with signals := s.signals ++ [.showRequested edge] }

/-- `kde_screen_edge_v1_hide`. -/
def screenEdgeHide (s : State) (edge : Nat) : State :=
  { s with signals := s.signals ++ [.hideRequested edge] }

/-- `kde_screen_edge_v1_destroy`: `wl_resource_destroy`, whose `destroy_resource` deletes the
edge. -/
def screenEdgeDestroy (s : State) (edge : Nat) : State :=
  { s with life := update s.life edge .destroyed }

/-- `ScreenEdgeV1Interface::surface()`: the `QPointer`, `nullptr` once the surface is
destroyed. -/
def surface (s : State) (edge : Nat) : Option Nat :=
  (s.edges edge).bind fun edge => edge.surface.filter fun object => s.life object = .alive

/-- `ScreenEdgeV1Interface::border()`. -/
def border (s : State) (edge : Nat) : Option ElectricBorder :=
  (s.edges edge).map (·.border)

/-- A request with a border outside the four posts "invalid border" with code 0 and changes
nothing else. -/
theorem getScreenEdge_of_invalid (s : State) (edge : Nat) {border : UInt32}
    (invalid : electricBorderOf border = none) (surface : Option Nat) :
    s.getScreenEdge edge border surface = { s with errors := s.errors ++ [(0, "invalid border")] } := by
  simp [getScreenEdge, invalid]

theorem getScreenEdge_of_valid (s : State) (edge : Nat) {border : UInt32}
    {electric : ElectricBorder} (valid : electricBorderOf border = some electric)
    (surface : Option Nat) :
    s.getScreenEdge edge border surface =
      { s with
        life := update s.life edge .alive
        edges := update s.edges edge (some ⟨surface, electric⟩)
        signals := s.signals ++ [.edgeRequested edge] } := by
  simp [getScreenEdge, valid]

end State

/-- The requests of the two interfaces, and the surfaces code outside `src/` makes and
destroys. -/
inductive Action where
  | getScreenEdge (edge : Nat) (border : UInt32) (surface : Option Nat)
  | screenEdgeShow (edge : Nat)
  | screenEdgeHide (edge : Nat)
  | screenEdgeDestroy (edge : Nat)
  | createSurface (surface : Nat)
  | destroySurface (surface : Nat)
  deriving DecidableEq, Repr

/-- Whether an action is a `get_screen_edge` request. -/
def Action.isGetScreenEdge : Action → Bool
  | getScreenEdge .. => true
  | _ => false

/-- The live edge at an address. -/
def State.isLiveEdge (s : State) (edge : Nat) : Bool :=
  s.life edge == .alive && (s.edges edge).isSome

/-- One action. A new edge takes an unborn address and names a live surface or none; a request
on an edge needs the edge to live; outside code destroys surfaces only. -/
def step (s : State) : Action → Option State
  | .getScreenEdge edge border surface =>
    if s.life edge = .unborn ∧ surface.all fun object => s.life object == .alive then
      some (s.getScreenEdge edge border surface)
    else none
  | .screenEdgeShow edge => if s.isLiveEdge edge then some (s.screenEdgeShow edge) else none
  | .screenEdgeHide edge => if s.isLiveEdge edge then some (s.screenEdgeHide edge) else none
  | .screenEdgeDestroy edge => if s.isLiveEdge edge then some (s.screenEdgeDestroy edge) else none
  | .createSurface surface =>
    if s.life surface = .unborn then some { s with life := update s.life surface .alive }
    else none
  | .destroySurface surface =>
    if s.life surface = .alive ∧ s.edges surface = none then
      some { s with life := update s.life surface .destroyed }
    else none

/-- A schedule of actions, stopping at the first one whose guard fails. -/
def run (s : State) : List Action → Option State
  | [] => some s
  | action :: actions => (step s action).bind fun next => run next actions

/-- The states reached from no object at all. -/
inductive Reachable : State → Prop where
  | empty : Reachable State.empty
  | step {s s' : State} (action : Action) : Reachable s → step s action = some s' → Reachable s'

/-- Every action of a step: its guard held and it did what its handler does. -/
theorem step_cases {s s' : State} {action : Action} (stepped : step s action = some s') :
    (∃ edge border surface, action = .getScreenEdge edge border surface ∧
      s' = s.getScreenEdge edge border surface) ∨
    (∃ edge, action = .screenEdgeShow edge ∧ s' = s.screenEdgeShow edge) ∨
    (∃ edge, action = .screenEdgeHide edge ∧ s' = s.screenEdgeHide edge) ∨
    (∃ edge, action = .screenEdgeDestroy edge ∧ s' = s.screenEdgeDestroy edge) ∨
    (action.isGetScreenEdge = false ∧ s'.edges = s.edges ∧ s'.signals = s.signals ∧
      s'.errors = s.errors) := by
  cases action <;> simp only [step] at stepped <;> split at stepped <;> cases stepped
  case getScreenEdge => exact .inl ⟨_, _, _, rfl, rfl⟩
  case screenEdgeShow => exact .inr (.inl ⟨_, rfl, rfl⟩)
  case screenEdgeHide => exact .inr (.inr (.inl ⟨_, rfl, rfl⟩))
  case screenEdgeDestroy => exact .inr (.inr (.inr (.inl ⟨_, rfl, rfl⟩)))
  all_goals exact .inr (.inr (.inr (.inr ⟨rfl, rfl, rfl, rfl⟩)))

/-! ## Each request is answered once -/

/-- The answers to `get_screen_edge` requests a client has seen: `edgeRequested` signals and
posted errors. -/
def State.answers (s : State) : Nat :=
  s.signals.countP Signal.isEdgeRequested + s.errors.length

/-- A step answers once if it is a `get_screen_edge` request, and not at all otherwise; the
only error it can post is "invalid border". -/
theorem step_answers {s s' : State} {action : Action} (stepped : step s action = some s') :
    s'.answers = s.answers + (if action.isGetScreenEdge then 1 else 0) ∧
      (s'.errors = s.errors ∨ s'.errors = s.errors ++ [(0, "invalid border")]) := by
  rcases step_cases stepped with
    ⟨edge, border, surface, rfl, rfl⟩ | ⟨edge, rfl, rfl⟩ | ⟨edge, rfl, rfl⟩ | ⟨edge, rfl, rfl⟩ |
    ⟨other, -, signals, errors⟩
  · cases mapped : electricBorderOf border with
    | none =>
      simp [State.getScreenEdge_of_invalid _ _ mapped, State.answers, Action.isGetScreenEdge]
      omega
    | some electric =>
      simp [State.getScreenEdge_of_valid _ _ mapped, State.answers, Action.isGetScreenEdge,
        Signal.isEdgeRequested, List.countP_append]
      omega
  · simp [State.screenEdgeShow, State.answers, Action.isGetScreenEdge, Signal.isEdgeRequested,
      List.countP_append]
  · simp [State.screenEdgeHide, State.answers, Action.isGetScreenEdge, Signal.isEdgeRequested,
      List.countP_append]
  · simp [State.screenEdgeDestroy, State.answers, Action.isGetScreenEdge]
  · simp [State.answers, other, signals, errors]

/-- A run answers each of its `get_screen_edge` requests once, and the only error it posts is
"invalid border". -/
theorem run_answers {start s : State} {actions : List Action}
    (ran : run start actions = some s) :
    s.answers = start.answers + actions.countP Action.isGetScreenEdge ∧
      ∀ error ∈ s.errors, error ∈ start.errors ∨ error = (0, "invalid border") := by
  induction actions generalizing start with
  | nil =>
    cases ran
    exact ⟨rfl, fun _ posted => .inl posted⟩
  | cons action actions ih =>
    obtain ⟨next, stepped, ran⟩ := Option.bind_eq_some.mp ran
    obtain ⟨answered, errors⟩ := ih ran
    obtain ⟨stepAnswered, stepErrors⟩ := step_answers stepped
    refine ⟨by rw [answered, stepAnswered, List.countP_cons]; omega, fun error posted => ?_⟩
    rcases errors error posted, stepErrors with ⟨earlier | invalid, same | appended⟩
    · exact .inl (same ▸ earlier)
    · simpa [appended] using earlier
    all_goals exact .inr invalid

/-- Over every run, each `get_screen_edge` request is answered exactly once, by an
`edgeRequested` signal or by the "invalid border" error, and no other error is posted. -/
theorem run_answers_getScreenEdge {s : State} {actions : List Action}
    (ran : run State.empty actions = some s) :
    s.signals.countP Signal.isEdgeRequested + s.errors.length =
        actions.countP Action.isGetScreenEdge ∧
      ∀ error ∈ s.errors, error = (0, "invalid border") := by
  obtain ⟨answered, errors⟩ := run_answers ran
  exact ⟨by simpa [State.answers, State.empty] using answered,
    fun error posted => by simpa [State.empty] using errors error posted⟩

/-- Two requests, one with `border_top` and one with the value 9. -/
def requestedTwice : List Action :=
  [.getScreenEdge 0 borderTop none, .getScreenEdge 1 9 none]

theorem run_answers_getScreenEdge_requestedTwice :
    ∃ s, run State.empty requestedTwice = some s ∧
      s.signals.countP Signal.isEdgeRequested + s.errors.length =
          requestedTwice.countP Action.isGetScreenEdge ∧
        ∀ error ∈ s.errors, error = (0, "invalid border") :=
  ⟨_, (Option.some_get (by decide : (run State.empty requestedTwice).isSome)).symm,
    run_answers_getScreenEdge (Option.some_get _).symm⟩

/-! ## Every edge is on a side and was announced -/

/-- Every edge has one of the four side borders and was announced at its address. -/
structure EdgesAnnounced (s : State) : Prop where
  side : ∀ edge private_, s.edges edge = some private_ → private_.border.isSide = true
  announced : ∀ edge private_, s.edges edge = some private_ → .edgeRequested edge ∈ s.signals

theorem EdgesAnnounced.step {s s' : State} {action : Action} (inv : EdgesAnnounced s)
    (stepped : step s action = some s') : EdgesAnnounced s' := by
  rcases step_cases stepped with
    ⟨edge, border, surface, rfl, rfl⟩ | ⟨edge, rfl, rfl⟩ | ⟨edge, rfl, rfl⟩ | ⟨edge, rfl, rfl⟩ |
    ⟨-, edges, signals, -⟩
  · cases mapped : electricBorderOf border with
    | none =>
      rw [State.getScreenEdge_of_invalid _ _ mapped]
      exact ⟨inv.side, inv.announced⟩
    | some electric =>
      rw [State.getScreenEdge_of_valid _ _ mapped]
      refine ⟨fun other private_ found => ?_, fun other private_ found => ?_⟩ <;>
        simp only [update_apply] at found <;> split_ifs at found with same
      · exact Option.some.inj found ▸ electricBorderOf_isSide mapped
      · exact inv.side other private_ found
      · simp [same]
      · exact List.mem_append_left _ (inv.announced other private_ found)
  · exact ⟨inv.side, fun edge private_ found =>
      List.mem_append_left _ (inv.announced edge private_ found)⟩
  · exact ⟨inv.side, fun edge private_ found =>
      List.mem_append_left _ (inv.announced edge private_ found)⟩
  · exact ⟨inv.side, inv.announced⟩
  · exact ⟨edges ▸ inv.side, fun edge private_ found => signals ▸ inv.announced edge private_
      (edges ▸ found)⟩

theorem Reachable.edgesAnnounced {s : State} (reachable : Reachable s) : EdgesAnnounced s := by
  induction reachable with
  | empty => exact ⟨nofun, nofun⟩
  | step _ _ stepped ih => exact ih.step stepped

/-- An edge on the top border, with no surface. -/
def topEdge : State :=
  State.empty.getScreenEdge 0 borderTop none

theorem topEdge_reachable : Reachable topEdge :=
  @Reachable.step _ _ (.getScreenEdge 0 borderTop none) .empty rfl

theorem Reachable.edgesAnnounced_topEdge : Reachable topEdge ∧ EdgesAnnounced topEdge :=
  ⟨topEdge_reachable, Reachable.edgesAnnounced topEdge_reachable⟩

end ScreenEdgeV1

end KWaylandServer

end KWin
