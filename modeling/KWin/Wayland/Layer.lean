import KWin.Wayland.Swapchain

/-!
# Output layers of the nested Wayland backend

Each output of the nested Wayland backend has a primary layer and a cursor layer, in an
EGL flavour (`wayland_egl_backend.cpp`) and a QPainter flavour
(`wayland_qpainter_backend.cpp`). `beginFrame` makes a new swapchain when the layer has
none or its size no longer fits, then acquires a buffer and hands it to the renderer. The
primary layer's `present` and the cursor layer's `endFrame` give the buffer back with
`release`.

The two layers of one flavour keep the same fields and differ only in the values they
pass, so each flavour has one `beginFrame` and one `releaseBuffer`, and each layer's
function is that one applied to its own values.

The EGL swapchain's `acquire` takes `% m_buffers.count()`. When both allocations of a new
swapchain fail, that is a remainder by zero. The QPainter `beginFrame` reads
`m_back->image` and `m_back->age` right after an `acquire` that returns `nullptr` when the
allocation fails (`beginFrame_faults_when_allocation_fails`). In every run without a fault,
the EGL layer's `m_buffer` is `m_buffers[m_index]` of its current swapchain, so the
`Q_ASSERT` in `release` holds (`WaylandEglLayer.Reachable.bufferAtIndex`). Its ring holds at
most two buffers, and the next frame on a kept swapchain renders into the buffer the last one
rendered into exactly when the ring holds a single buffer
(`WaylandEglLayer.Reachable.beginFrame_reuses_buffer_iff`).
-/

namespace KWin

namespace Wayland

/-- The `repaint` region of an `OutputLayerBeginFrameInfo`. The damage journal is not under
`src/`; a region it accumulates is kept as the buffer age it was asked for. -/
inductive Repaint where
  /-- `infiniteRegion()`. -/
  | infinite
  /-- `m_damageJournal.accumulate(age, infiniteRegion())`. -/
  | accumulated (age : Int)
  /-- An empty `QRegion`. -/
  | empty
  deriving DecidableEq, Repr

/-- `OutputLayerBeginFrameInfo`: the render target is the buffer at position `buffer` of the
layer's current swapchain. -/
structure BeginFrameInfo where
  buffer : Nat
  repaint : Repaint
  deriving DecidableEq, Repr

/-- The size a cursor layer's buffers get: `size().expandedTo(QSize(64, 64))`, rounded up.
The layer's size is taken in whole pixels, where `std::ceil` leaves it as it is. -/
def cursorBufferSize (size : Size) : Size :=
  ⟨max size.width 64, max size.height 64⟩

/-- The fields `WaylandEglPrimaryLayer` and `WaylandEglCursorLayer` share. -/
structure WaylandEglLayer where
  /-- `m_swapchain`. -/
  swapchain : Option WaylandEglLayerSwapchain
  /-- `m_buffer`, by its position in `swapchain`. -/
  buffer : Option Nat
  deriving DecidableEq, Repr

namespace WaylandEglLayer

/-- A layer as its constructor leaves it. -/
def initial : WaylandEglLayer :=
  ⟨none, none⟩

/-- The swapchain `beginFrame` keeps: the current one if its size is `bufferSize`. -/
def fittingSwapchain (layer : WaylandEglLayer) (bufferSize : Size) :
    Option WaylandEglLayerSwapchain :=
  layer.swapchain.filter fun swapchain => swapchain.size = bufferSize

/-- `m_buffer = m_swapchain->acquire()` on `swapchain`, and the frame it begins; `repaint`
makes the repaint region from the buffer's age. `acquire` only returns positions of
buffers, so the lookup does not fail (`acquireFrame_ok`). -/
def acquireFrame (swapchain : WaylandEglLayerSwapchain) (repaint : Int → Repaint) :
    Except Fault (Option BeginFrameInfo × WaylandEglLayer) := do
  let (index, swapchain) ← swapchain.acquire
  match swapchain.buffers[index]? with
  | some buffer => pure (some ⟨index, repaint buffer.age⟩, ⟨some swapchain, some index⟩)
  | none => throw .nullDereference

/-- The `beginFrame` of both EGL layers. `contextCurrent` is what `eglMakeCurrent` returns,
`formatSupported` whether the dmabuf formats hold the layer's format, and `allocated` the
outcomes of a new swapchain's allocations. -/
def beginFrame (layer : WaylandEglLayer) (contextCurrent : Bool) (bufferSize : Size)
    (formatSupported : Bool) (allocated : Nat → Bool) (repaint : Int → Repaint) :
    Except Fault (Option BeginFrameInfo × WaylandEglLayer) :=
  if !contextCurrent then pure (none, layer)
  else
    match layer.fittingSwapchain bufferSize with
    | some swapchain => acquireFrame swapchain repaint
    | none =>
      if !formatSupported then pure (none, layer)
      else acquireFrame (WaylandEglLayerSwapchain.create bufferSize allocated) repaint

/-- Giving `m_buffer` back: `m_buffer->buffer()` is read, then
`m_swapchain->release(m_buffer)`. -/
def releaseBuffer (layer : WaylandEglLayer) : Except Fault WaylandEglLayer :=
  match layer.swapchain, layer.buffer with
  | some swapchain, some buffer =>
    (swapchain.release (some buffer)).map fun swapchain => { layer with swapchain := some swapchain }
  | _, _ => throw .nullDereference

/-- A frame begun on `swapchain` renders into the buffer at `m_index` of the swapchain the
layer then keeps, which is `swapchain` with its index moved on. -/
theorem acquireFrame_ok {swapchain : WaylandEglLayerSwapchain} {repaint : Int → Repaint}
    {frame : Option BeginFrameInfo} {next : WaylandEglLayer}
    (ran : acquireFrame swapchain repaint = .ok (frame, next)) :
    ∃ acquired : WaylandEglLayerSwapchain, next = ⟨some acquired, some acquired.index⟩ ∧
      acquired.index < acquired.buffers.length ∧ acquired.size = swapchain.size ∧
      frame.map (·.buffer) = some acquired.index := by
  simp only [acquireFrame, bind, Except.bind] at ran
  split at ran
  · cases ran
  rename_i result acquiredRan
  obtain ⟨index, acquired⟩ := result
  obtain ⟨rfl, inBounds, -, sameSize⟩ := WaylandEglLayerSwapchain.acquire_ok acquiredRan
  simp only [List.getElem?_eq_getElem inBounds, pure, Except.pure] at ran
  cases ran
  exact ⟨acquired, rfl, inBounds, sameSize, rfl⟩

/-- `beginFrame` either returns `std::nullopt` and leaves the layer as it was, or begins a
frame with `acquireFrame`. -/
theorem beginFrame_ok {layer next : WaylandEglLayer} {contextCurrent formatSupported : Bool}
    {bufferSize : Size} {allocated : Nat → Bool} {repaint : Int → Repaint}
    {frame : Option BeginFrameInfo}
    (ran : layer.beginFrame contextCurrent bufferSize formatSupported allocated repaint =
      .ok (frame, next)) :
    (frame = none ∧ next = layer) ∨
      ∃ swapchain, acquireFrame swapchain repaint = .ok (frame, next) := by
  unfold beginFrame at ran
  split at ran
  · cases ran; exact .inl ⟨rfl, rfl⟩
  split at ran
  · exact .inr ⟨_, ran⟩
  split at ran
  · cases ran; exact .inl ⟨rfl, rfl⟩
  · exact .inr ⟨_, ran⟩

/-- Giving the buffer back releases `m_buffer` on the current swapchain and keeps
`m_buffer`. -/
theorem releaseBuffer_ok {layer next : WaylandEglLayer} (ran : layer.releaseBuffer = .ok next) :
    ∃ swapchain buffer released, layer.swapchain = some swapchain ∧ layer.buffer = some buffer ∧
      swapchain.release (some buffer) = .ok released ∧ next = ⟨some released, some buffer⟩ := by
  unfold releaseBuffer at ran
  split at ran
  · rename_i swapchain buffer inSwapchain inBuffer
    simp only [Except.map] at ran
    split at ran
    · cases ran
    rename_i released releaseRan
    cases ran
    exact ⟨swapchain, buffer, released, inSwapchain, inBuffer, releaseRan, by simp [inBuffer]⟩
  · cases ran

/-- When all allocations of the swapchain `beginFrame` has to make fail, it takes a
remainder by zero. -/
theorem beginFrame_divisionByZero {layer : WaylandEglLayer} {bufferSize : Size}
    {repaint : Int → Repaint} (noneKept : layer.fittingSwapchain bufferSize = none) :
    layer.beginFrame true bufferSize true (fun _ => false) repaint = .error .divisionByZero := by
  simp only [beginFrame, noneKept, Bool.not_true]
  rfl

/-- `m_buffer` is `m_buffers[m_index]` of the layer's swapchain, as the `Q_ASSERT` in
`release` requires. -/
def BufferAtIndex (layer : WaylandEglLayer) : Prop :=
  ∀ buffer, layer.buffer = some buffer → ∃ swapchain, layer.swapchain = some swapchain ∧
    swapchain.index = buffer ∧ buffer < swapchain.buffers.length

theorem BufferAtIndex.initial : BufferAtIndex initial := by
  intro buffer held
  cases held

theorem BufferAtIndex.beginFrame {layer next : WaylandEglLayer} {contextCurrent formatSupported : Bool}
    {bufferSize : Size} {allocated : Nat → Bool} {repaint : Int → Repaint}
    {frame : Option BeginFrameInfo} (atIndex : layer.BufferAtIndex)
    (ran : layer.beginFrame contextCurrent bufferSize formatSupported allocated repaint =
      .ok (frame, next)) : next.BufferAtIndex := by
  rcases beginFrame_ok ran with ⟨-, rfl⟩ | ⟨swapchain, framed⟩
  · exact atIndex
  · obtain ⟨acquired, rfl, inBounds, -⟩ := acquireFrame_ok framed
    rintro buffer ⟨⟩
    exact ⟨acquired, rfl, rfl, inBounds⟩

theorem BufferAtIndex.releaseBuffer {layer next : WaylandEglLayer} (atIndex : layer.BufferAtIndex)
    (ran : layer.releaseBuffer = .ok next) : next.BufferAtIndex := by
  obtain ⟨swapchain, buffer, released, inSwapchain, inBuffer, releaseRan, rfl⟩ :=
    releaseBuffer_ok ran
  obtain ⟨-, sameIndex, sameLength⟩ := WaylandEglLayerSwapchain.release_shape releaseRan
  obtain ⟨kept, keptEq, atBuffer, inBounds⟩ := atIndex buffer inBuffer
  rw [inSwapchain, Option.some.injEq] at keptEq
  subst keptEq
  rintro _ ⟨⟩
  exact ⟨released, rfl, sameIndex.trans atBuffer, sameLength ▸ inBounds⟩

/-- The states of an EGL layer that its calls reach, in any order, none of them faulting. -/
inductive Reachable : WaylandEglLayer → Prop where
  | initial : Reachable initial
  | beginFrame {layer next : WaylandEglLayer} {frame : Option BeginFrameInfo}
      (contextCurrent : Bool) (bufferSize : Size) (formatSupported : Bool)
      (allocated : Nat → Bool) (repaint : Int → Repaint) : Reachable layer →
      layer.beginFrame contextCurrent bufferSize formatSupported allocated repaint =
        .ok (frame, next) → Reachable next
  | releaseBuffer {layer next : WaylandEglLayer} : Reachable layer →
      layer.releaseBuffer = .ok next → Reachable next

theorem Reachable.bufferAtIndex {layer : WaylandEglLayer} (reachable : layer.Reachable) :
    layer.BufferAtIndex := by
  induction reachable with
  | initial => exact .initial
  | beginFrame _ _ _ _ _ _ ran ih => exact ih.beginFrame ran
  | releaseBuffer _ ran ih => exact ih.releaseBuffer ran

/-! ### The buffer the next frame renders into -/

/-- A frame begun on `swapchain` renders into the buffer after `m_index`, modulo the ring's
length, and the layer keeps `swapchain` with `m_index` moved there. -/
theorem acquireFrame_index {swapchain : WaylandEglLayerSwapchain} {repaint : Int → Repaint}
    {frame : Option BeginFrameInfo} {next : WaylandEglLayer}
    (ran : acquireFrame swapchain repaint = .ok (frame, next)) :
    frame.map (·.buffer) = some ((swapchain.index + 1) % swapchain.buffers.length) ∧
      next = ⟨some { swapchain with index := (swapchain.index + 1) % swapchain.buffers.length },
        some ((swapchain.index + 1) % swapchain.buffers.length)⟩ := by
  by_cases empty : swapchain.buffers.length = 0
  · simp [acquireFrame, WaylandEglLayerSwapchain.acquire, empty, bind, Except.bind] at ran
  have inBounds := Nat.mod_lt (swapchain.index + 1) (Nat.pos_of_ne_zero empty)
  simp only [acquireFrame, WaylandEglLayerSwapchain.acquire, empty, bind, Except.bind,
    if_false, List.getElem?_eq_getElem inBounds, pure, Except.pure, Except.ok.injEq,
    Prod.mk.injEq] at ran
  obtain ⟨rfl, rfl⟩ := ran
  exact ⟨rfl, rfl⟩

/-- The layer's swapchain holds at most the two buffers its constructor allocates. -/
def RingOfTwo (layer : WaylandEglLayer) : Prop :=
  ∀ swapchain, layer.swapchain = some swapchain → swapchain.buffers.length ≤ 2

theorem RingOfTwo.acquireFrame {swapchain : WaylandEglLayerSwapchain} {repaint : Int → Repaint}
    {frame : Option BeginFrameInfo} {next : WaylandEglLayer}
    (bounded : swapchain.buffers.length ≤ 2) (ran : acquireFrame swapchain repaint = .ok (frame, next)) :
    next.RingOfTwo := by
  obtain ⟨-, rfl⟩ := acquireFrame_index ran
  rintro _ ⟨⟩
  exact bounded

theorem RingOfTwo.beginFrame {layer next : WaylandEglLayer} {contextCurrent formatSupported : Bool}
    {bufferSize : Size} {allocated : Nat → Bool} {repaint : Int → Repaint}
    {frame : Option BeginFrameInfo} (bounded : layer.RingOfTwo)
    (ran : layer.beginFrame contextCurrent bufferSize formatSupported allocated repaint =
      .ok (frame, next)) : next.RingOfTwo := by
  unfold WaylandEglLayer.beginFrame at ran
  split at ran
  · cases ran; exact bounded
  split at ran
  · rename_i kept fitting
    have current : layer.swapchain = some kept := by
      simp only [fittingSwapchain, Option.filter_eq_some] at fitting
      exact fitting.1
    exact .acquireFrame (bounded kept current) ran
  split at ran
  · cases ran; exact bounded
  · exact .acquireFrame ((List.length_filterMap_le _ _).trans (by simp)) ran

theorem RingOfTwo.releaseBuffer {layer next : WaylandEglLayer} (bounded : layer.RingOfTwo)
    (ran : layer.releaseBuffer = .ok next) : next.RingOfTwo := by
  obtain ⟨swapchain, _, released, current, -, releaseRan, rfl⟩ := releaseBuffer_ok ran
  obtain ⟨-, -, sameLength⟩ := WaylandEglLayerSwapchain.release_shape releaseRan
  rintro _ ⟨⟩
  exact sameLength ▸ bounded swapchain current

theorem Reachable.ringOfTwo {layer : WaylandEglLayer} (reachable : layer.Reachable) :
    layer.RingOfTwo := by
  induction reachable with
  | initial => nofun
  | beginFrame _ _ _ _ _ _ ran ih => exact ih.beginFrame ran
  | releaseBuffer _ ran ih => exact ih.releaseBuffer ran

/-- Two frames in a row on the swapchain the layer keeps: the second renders into the buffer
the first one rendered into, and `present` attached to the surface, exactly when the ring
holds a single buffer, as it does once one of its constructor's two allocations failed. -/
theorem Reachable.beginFrame_reuses_buffer_iff {layer next : WaylandEglLayer}
    (reachable : layer.Reachable) {swapchain : WaylandEglLayerSwapchain} {buffer : Nat}
    (current : layer.swapchain = some swapchain) (held : layer.buffer = some buffer)
    {bufferSize : Size} (fits : swapchain.size = bufferSize) {formatSupported : Bool}
    {allocated : Nat → Bool} {repaint : Int → Repaint} {info : BeginFrameInfo}
    (ran : layer.beginFrame true bufferSize formatSupported allocated repaint =
      .ok (some info, next)) :
    info.buffer = buffer ↔ swapchain.buffers.length = 1 := by
  obtain ⟨kept, keptEq, atIndex, inBounds⟩ := reachable.bufferAtIndex buffer held
  rw [current, Option.some.injEq] at keptEq
  subst keptEq
  have bounded := reachable.ringOfTwo _ current
  have fitting : layer.fittingSwapchain bufferSize = some swapchain := by
    simp [fittingSwapchain, current, fits]
  simp only [WaylandEglLayer.beginFrame, Bool.not_true, fitting] at ran
  have following : info.buffer = (buffer + 1) % swapchain.buffers.length := by
    simpa [atIndex] using (acquireFrame_index ran).1
  rw [following]
  generalize swapchain.buffers.length = length at inBounds bounded ⊢
  rcases (by omega : length = 1 ∨ length = 2) with rfl | rfl <;> omega

/-- A swapchain whose second allocation failed, after its first frame. -/
def singleBufferFrame : WaylandEglLayer :=
  ⟨some ⟨⟨64, 64⟩, [⟨0⟩], 0⟩, some 0⟩

theorem singleBufferFrame_reachable : singleBufferFrame.Reachable :=
  @Reachable.beginFrame initial singleBufferFrame (some ⟨0, .empty⟩) true ⟨64, 64⟩ true
    (fun call => call == 0) (fun _ => .empty) .initial rfl

theorem Reachable.beginFrame_reuses_buffer_iff_singleBufferFrame :
    singleBufferFrame.Reachable ∧
      singleBufferFrame.beginFrame true ⟨64, 64⟩ true (fun call => call == 0) (fun _ => .empty) =
        .ok (some ⟨0, .empty⟩, singleBufferFrame) ∧
      ((⟨0, .empty⟩ : BeginFrameInfo).buffer = 0 ↔
        ([⟨0⟩] : List WaylandEglLayerBuffer).length = 1) :=
  have ran : singleBufferFrame.beginFrame true ⟨64, 64⟩ true (fun call => call == 0)
      (fun _ => .empty) = .ok (some ⟨0, .empty⟩, singleBufferFrame) := rfl
  ⟨singleBufferFrame_reachable, ran,
    Reachable.beginFrame_reuses_buffer_iff singleBufferFrame_reachable rfl rfl rfl ran⟩

end WaylandEglLayer

namespace WaylandEglPrimaryLayer

/-- `beginFrame()`: `nativeSize` is the output's `pixelSize()`, and the repaint region
comes from the buffer's age when the backend supports buffer age. -/
def beginFrame (layer : WaylandEglLayer) (contextCurrent : Bool) (nativeSize : Size)
    (formatSupported : Bool) (allocated : Nat → Bool) (supportsBufferAge : Bool) :
    Except Fault (Option BeginFrameInfo × WaylandEglLayer) :=
  layer.beginFrame contextCurrent nativeSize formatSupported allocated fun age =>
    if supportsBufferAge then .accumulated age else .empty

/-- `present()`. -/
def present (layer : WaylandEglLayer) : Except Fault WaylandEglLayer :=
  layer.releaseBuffer

end WaylandEglPrimaryLayer

namespace WaylandEglCursorLayer

/-- `beginFrame()` for a cursor of size `size`. -/
def beginFrame (layer : WaylandEglLayer) (contextCurrent : Bool) (size : Size)
    (formatSupported : Bool) (allocated : Nat → Bool) :
    Except Fault (Option BeginFrameInfo × WaylandEglLayer) :=
  layer.beginFrame contextCurrent (cursorBufferSize size) formatSupported allocated
    fun _ => .infinite

/-- `endFrame(renderedRegion, damagedRegion)`. -/
def endFrame (layer : WaylandEglLayer) : Except Fault (Bool × WaylandEglLayer) :=
  layer.releaseBuffer.map fun layer => (true, layer)

end WaylandEglCursorLayer

/-- The fields `WaylandQPainterPrimaryLayer` and `WaylandQPainterCursorLayer` share. -/
structure WaylandQPainterLayer where
  /-- `m_swapchain`. -/
  swapchain : Option WaylandQPainterSwapchain
  /-- `m_back`, by its position in `swapchain`. -/
  back : Option Nat
  deriving DecidableEq, Repr

namespace WaylandQPainterLayer

/-- A layer as its constructor leaves it. -/
def initial : WaylandQPainterLayer :=
  ⟨none, none⟩

/-- The swapchain `beginFrame` acquires from: the current one if its size is `bufferSize`,
otherwise a new one. -/
def keptSwapchain (layer : WaylandQPainterLayer) (bufferSize : Size) : WaylandQPainterSwapchain :=
  (layer.swapchain.filter fun swapchain => swapchain.size = bufferSize).getD
    (WaylandQPainterSwapchain.create bufferSize)

/-- The `beginFrame` of both QPainter layers: a new swapchain when there is none or its
size is not `bufferSize`, then `m_back = m_swapchain->acquire()`, whose allocation, if it
makes one, succeeds when `allocated`. The frame reads `m_back->image` and `m_back->age`,
through a null `m_back` when `acquire` returns `nullptr`. -/
def beginFrame (layer : WaylandQPainterLayer) (bufferSize : Size) (allocated : Bool)
    (repaint : Int → Repaint) : Except Fault (Option BeginFrameInfo × WaylandQPainterLayer) :=
  match (layer.keptSwapchain bufferSize).acquire allocated with
  | (some back, swapchain) =>
    match swapchain.slots[back]? with
    | some slot => pure (some ⟨back, repaint slot.age⟩, ⟨some swapchain, some back⟩)
    | none => throw .nullDereference
  | (none, _) => throw .nullDereference

/-- Giving `m_back` back: `m_back->buffer` is read, then `m_swapchain->release(m_back)`. -/
def releaseBuffer (layer : WaylandQPainterLayer) : Except Fault WaylandQPainterLayer :=
  match layer.swapchain, layer.back with
  | some swapchain, some back =>
    (swapchain.release (some back)).map fun swapchain => { layer with swapchain := some swapchain }
  | _, _ => throw .nullDereference

/-- With no free slot in the swapchain `beginFrame` acquires from and the allocation
failing, `beginFrame` reads through a null `m_back`. -/
theorem beginFrame_nullDereference {layer : WaylandQPainterLayer} {bufferSize : Size}
    {repaint : Int → Repaint} (noneFree : ∀ slot ∈ (layer.keptSwapchain bufferSize).slots, slot.used) :
    layer.beginFrame bufferSize false repaint = .error .nullDereference := by
  have allUsed : (layer.keptSwapchain bufferSize).slots.findIdx? (fun slot => !slot.used) = none :=
    List.findIdx?_eq_none_iff.mpr fun slot member => by simp [noneFree slot member]
  simp only [beginFrame, WaylandQPainterSwapchain.acquire_failed allUsed]
  rfl

end WaylandQPainterLayer

namespace WaylandQPainterPrimaryLayer

/-- `beginFrame()`: `nativeSize` is the output's `pixelSize()`. -/
def beginFrame (layer : WaylandQPainterLayer) (nativeSize : Size) (allocated : Bool) :
    Except Fault (Option BeginFrameInfo × WaylandQPainterLayer) :=
  layer.beginFrame nativeSize allocated .accumulated

/-- `present()`. -/
def present (layer : WaylandQPainterLayer) : Except Fault WaylandQPainterLayer :=
  layer.releaseBuffer

end WaylandQPainterPrimaryLayer

namespace WaylandQPainterCursorLayer

/-- `beginFrame()` for a cursor of size `size`. -/
def beginFrame (layer : WaylandQPainterLayer) (size : Size) (allocated : Bool) :
    Except Fault (Option BeginFrameInfo × WaylandQPainterLayer) :=
  layer.beginFrame (cursorBufferSize size) allocated fun _ => .infinite

/-- `endFrame(renderedRegion, damagedRegion)`. -/
def endFrame (layer : WaylandQPainterLayer) : Except Fault (Bool × WaylandQPainterLayer) :=
  layer.releaseBuffer.map fun layer => (true, layer)

end WaylandQPainterCursorLayer

namespace WaylandEglLayer.Reachable

variable {layer next : WaylandEglLayer} {frame : Option BeginFrameInfo}

theorem primaryBeginFrame {contextCurrent formatSupported supportsBufferAge : Bool}
    {nativeSize : Size} {allocated : Nat → Bool} (reachable : layer.Reachable)
    (ran : WaylandEglPrimaryLayer.beginFrame layer contextCurrent nativeSize formatSupported
      allocated supportsBufferAge = .ok (frame, next)) : next.Reachable :=
  .beginFrame _ _ _ _ _ reachable ran

theorem present (reachable : layer.Reachable) (ran : WaylandEglPrimaryLayer.present layer = .ok next) :
    next.Reachable :=
  .releaseBuffer reachable ran

theorem cursorBeginFrame {contextCurrent formatSupported : Bool} {size : Size}
    {allocated : Nat → Bool} (reachable : layer.Reachable)
    (ran : WaylandEglCursorLayer.beginFrame layer contextCurrent size formatSupported allocated =
      .ok (frame, next)) : next.Reachable :=
  .beginFrame _ _ _ _ _ reachable ran

theorem endFrame {result : Bool} (reachable : layer.Reachable)
    (ran : WaylandEglCursorLayer.endFrame layer = .ok (result, next)) : next.Reachable := by
  simp only [WaylandEglCursorLayer.endFrame, Except.map] at ran
  split at ran
  · cases ran
  · cases ran
    exact .releaseBuffer reachable ‹_›

end WaylandEglLayer.Reachable

/-- When the swapchain `beginFrame` has to make gets no buffer from its allocations, the
EGL layers' `beginFrame` takes a remainder by zero in `acquire`. When the QPainter swapchain
has no free slot and the allocation fails, the QPainter layers' `beginFrame` reads through
the null `m_back`. -/
theorem beginFrame_faults_when_allocation_fails :
    (∀ (layer : WaylandEglLayer) (nativeSize : Size) (supportsBufferAge : Bool),
      layer.fittingSwapchain nativeSize = none →
      WaylandEglPrimaryLayer.beginFrame layer true nativeSize true (fun _ => false)
        supportsBufferAge = .error .divisionByZero) ∧
    (∀ (layer : WaylandEglLayer) (size : Size),
      layer.fittingSwapchain (cursorBufferSize size) = none →
      WaylandEglCursorLayer.beginFrame layer true size true (fun _ => false) =
        .error .divisionByZero) ∧
    (∀ (layer : WaylandQPainterLayer) (nativeSize : Size),
      (∀ slot ∈ (layer.keptSwapchain nativeSize).slots, slot.used) →
      WaylandQPainterPrimaryLayer.beginFrame layer nativeSize false = .error .nullDereference) ∧
    (∀ (layer : WaylandQPainterLayer) (size : Size),
      (∀ slot ∈ (layer.keptSwapchain (cursorBufferSize size)).slots, slot.used) →
      WaylandQPainterCursorLayer.beginFrame layer size false = .error .nullDereference) :=
  ⟨fun _ _ _ noneKept => WaylandEglLayer.beginFrame_divisionByZero noneKept,
    fun _ _ noneKept => WaylandEglLayer.beginFrame_divisionByZero noneKept,
    fun _ _ noneFree => WaylandQPainterLayer.beginFrame_nullDereference noneFree,
    fun _ _ noneFree => WaylandQPainterLayer.beginFrame_nullDereference noneFree⟩

/-- The first frame of each layer, with every allocation failing. -/
theorem beginFrame_faults_when_allocation_fails_initial :
    (WaylandEglLayer.initial.fittingSwapchain ⟨1920, 1080⟩ = none ∧
      WaylandEglPrimaryLayer.beginFrame .initial true ⟨1920, 1080⟩ true (fun _ => false) true =
        .error .divisionByZero) ∧
    (WaylandEglLayer.initial.fittingSwapchain (cursorBufferSize ⟨24, 24⟩) = none ∧
      WaylandEglCursorLayer.beginFrame .initial true ⟨24, 24⟩ true (fun _ => false) =
        .error .divisionByZero) ∧
    ((∀ slot ∈ (WaylandQPainterLayer.initial.keptSwapchain ⟨1920, 1080⟩).slots, slot.used) ∧
      WaylandQPainterPrimaryLayer.beginFrame .initial ⟨1920, 1080⟩ false =
        .error .nullDereference) ∧
    ((∀ slot ∈ (WaylandQPainterLayer.initial.keptSwapchain (cursorBufferSize ⟨24, 24⟩)).slots,
        slot.used) ∧
      WaylandQPainterCursorLayer.beginFrame .initial ⟨24, 24⟩ false = .error .nullDereference) :=
  have noneFree : ∀ size, ∀ slot ∈ (WaylandQPainterLayer.initial.keptSwapchain size).slots,
      slot.used := fun _ _ member => nomatch member
  ⟨⟨rfl, beginFrame_faults_when_allocation_fails.1 _ _ _ rfl⟩,
    ⟨rfl, beginFrame_faults_when_allocation_fails.2.1 _ _ rfl⟩,
    ⟨noneFree _, beginFrame_faults_when_allocation_fails.2.2.1 _ _ (noneFree _)⟩,
    ⟨noneFree _, beginFrame_faults_when_allocation_fails.2.2.2 _ _ (noneFree _)⟩⟩

end Wayland

end KWin
