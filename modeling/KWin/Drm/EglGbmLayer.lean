import KWin.Geometry

/-!
# The EGL/GBM layer of a DRM pipeline

`EglGbmLayer` (`egl_gbm_layer.cpp`) gives a DRM pipeline the buffer to show. It either
renders one through its `EglGbmSurface` (`beginFrame`, `endFrame`) or, in `scanout`, shows
a client's dmabuf directly. `m_currentBuffer` and `m_currentDamage` are what the last
successful frame produced, and `m_scanoutBuffer` is the direct-scanout buffer until the next
page flip or frame.

The surface, the dmabuf feedback, the pipeline and the surface item are classes outside
`src/`. The model takes what the layer reads from them as arguments: the pipeline's
`sourceSize()`, `supportedFormats()` and the outcome of its `TEST_ONLY` commit, the
feedback's current surface, and what the surface's rendering returns. It records the calls
the layer makes into the dmabuf feedback. A `QSharedPointer<DrmBuffer>` is named by the
object it points to.

A rejected `scanout` keeps `m_currentBuffer` and `m_currentDamage` (`scanout_rejected_keeps_current`).
When the surface is the feedback's current surface, though, `scanout` resets the surface
item's damage before the test commit, and that damage is gone if the kernel then rejects
the commit (`scanout_rejected_loses_damage`).
-/

namespace KWin

/-- A `QSharedPointer<DrmBuffer>`, by the object it points to. -/
abbrev DrmBuffer := Nat

/-- The call the layer makes into `m_dmabufFeedback`. -/
inductive FeedbackCall where
  | renderingSurface
  /-- `scanoutFailed(surface, formats)`. -/
  | scanoutFailed (surface : Nat) (formats : List Nat)
  /-- `scanoutSuccessful(surface)`. -/
  | scanoutSuccessful (surface : Nat)
  deriving DecidableEq, Repr

/-- What the layer reads of its `DrmPipeline`. -/
structure DrmPipeline where
  sourceSize : Size
  /-- The formats of `supportedFormats()`. -/
  supportedFormats : List Nat
  /-- `output()->geometry()`. -/
  outputGeometry : Rect
  deriving DecidableEq, Repr

/-- A `LinuxDmaBufV1ClientBuffer`. -/
structure ClientBuffer where
  /-- `planes().count()`. -/
  planes : Nat
  size : Size
  format : Nat
  deriving DecidableEq, Repr

/-- A `SurfaceInterface`, by its identity, with the client buffer attached to it when that
is a dmabuf. -/
structure Surface where
  id : Nat
  buffer : Option ClientBuffer
  deriving DecidableEq, Repr

/-- The `SurfaceItem` handed to `scanout`. -/
structure SurfaceItem where
  /-- The item is a `SurfaceItemWayland`. -/
  wayland : Bool
  surface : Option Surface
  /-- The damage the item has accumulated, which `resetDamage()` empties. -/
  damage : Region
  deriving DecidableEq, Repr

/-- The members of `EglGbmLayer` that its functions write. -/
structure EglGbmLayer where
  mScanoutBuffer : Option DrmBuffer
  mCurrentBuffer : Option DrmBuffer
  mCurrentDamage : Region
  /-- The calls made into `m_dmabufFeedback`, the latest last. -/
  feedbackCalls : List FeedbackCall
  deriving DecidableEq, Repr

namespace EglGbmLayer

/-- The layer after a call into `m_dmabufFeedback`. -/
def feedback (layer : EglGbmLayer) (call : FeedbackCall) : EglGbmLayer :=
  { layer with feedbackCalls := layer.feedbackCalls ++ [call] }

/-- `beginFrame(geometry)`; `started` is what `m_surface.startRendering` returns. -/
def beginFrame (layer : EglGbmLayer) (started : Option Region) : Option Region × EglGbmLayer :=
  (started, { layer.feedback .renderingSurface with mScanoutBuffer := none })

/-- `endFrame(renderedRegion, damagedRegion)`; `rendered` is what `m_surface.endRendering`
returns. -/
def endFrame (layer : EglGbmLayer) (rendered : Option (DrmBuffer × Region)) : EglGbmLayer :=
  match rendered with
  | some (buffer, damage) => { layer with mCurrentBuffer := some buffer, mCurrentDamage := damage }
  | none => layer

/-- `checkTestBuffer()`: when the surface does not fit (`fits` is
`m_surface.doesSurfaceFit(...)`), a frame is rendered, with the results `started` and
`rendered` of the surface. -/
def checkTestBuffer (layer : EglGbmLayer) (fits : Bool) (started : Option Region)
    (rendered : Option (DrmBuffer × Region)) : Bool × EglGbmLayer :=
  let layer := if fits then layer else (layer.beginFrame started).2.endFrame rendered
  (layer.mCurrentBuffer.isSome, layer)

/-- `currentBuffer()`. -/
def currentBuffer (layer : EglGbmLayer) : Option DrmBuffer :=
  match layer.mScanoutBuffer with
  | some buffer => some buffer
  | none => layer.mCurrentBuffer

/-- `currentDamage()`. -/
def currentDamage (layer : EglGbmLayer) : Region :=
  layer.mCurrentDamage

/-- `hasDirectScanoutBuffer()`. -/
def hasDirectScanoutBuffer (layer : EglGbmLayer) : Bool :=
  layer.mScanoutBuffer.isSome

/-- `pageFlipped()`. -/
def pageFlipped (layer : EglGbmLayer) : EglGbmLayer :=
  { layer with mScanoutBuffer := none }

/-- The part of `scanout` after the buffer's format was found supported: import the
client buffer (`imported` is the new `DrmGbmBuffer` when its `bufferId()` is not zero),
take the damage for screen casting, and run the test commit (`testScanout`). -/
def scanoutSupported (layer : EglGbmLayer) (pipeline : DrmPipeline) (item : SurfaceItem)
    (surface : Surface) (feedbackSurface : Option Nat) (imported : Option DrmBuffer)
    (testScanout : Bool) : Bool × EglGbmLayer × SurfaceItem :=
  let failed := { layer.feedback (.scanoutFailed surface.id pipeline.supportedFormats) with
    mScanoutBuffer := none }
  match imported with
  | none => (false, failed, item)
  | some buffer =>
    let (damage, item) :=
      if feedbackSurface = some surface.id then
        (item.damage.translated pipeline.outputGeometry.x pipeline.outputGeometry.y,
          { item with damage := [] })
      else ([pipeline.outputGeometry], item)
    if testScanout then
      (true, { layer.feedback (.scanoutSuccessful surface.id) with
        mScanoutBuffer := some buffer, mCurrentBuffer := some buffer, mCurrentDamage := damage }, item)
    else (false, failed, item)

/-- `scanout(surfaceItem)`: whether the surface item's buffer is shown directly, the layer
after, and the surface item after. `directScanoutDisabled` is `KWIN_DRM_NO_DIRECT_SCANOUT`. -/
def scanout (layer : EglGbmLayer) (pipeline : DrmPipeline) (directScanoutDisabled : Bool)
    (item : SurfaceItem) (feedbackSurface : Option Nat) (imported : Option DrmBuffer)
    (testScanout : Bool) : Bool × EglGbmLayer × SurfaceItem :=
  if directScanoutDisabled || !item.wayland then (false, layer, item)
  else
    match item.surface with
    | none => (false, layer, item)
    | some surface =>
      match surface.buffer with
      | none => (false, layer, item)
      | some buffer =>
        if buffer.planes = 0 ∨ buffer.size ≠ pipeline.sourceSize then (false, layer, item)
        else if buffer.format ∉ pipeline.supportedFormats then
          (false, layer.feedback (.scanoutFailed surface.id pipeline.supportedFormats), item)
        else
          layer.scanoutSupported pipeline item surface feedbackSurface imported testScanout

@[simp] theorem feedback_mCurrentBuffer (layer : EglGbmLayer) (call : FeedbackCall) :
    (layer.feedback call).mCurrentBuffer = layer.mCurrentBuffer := rfl

@[simp] theorem feedback_mCurrentDamage (layer : EglGbmLayer) (call : FeedbackCall) :
    (layer.feedback call).mCurrentDamage = layer.mCurrentDamage := rfl

@[simp] theorem feedback_mScanoutBuffer (layer : EglGbmLayer) (call : FeedbackCall) :
    (layer.feedback call).mScanoutBuffer = layer.mScanoutBuffer := rfl

@[simp] theorem beginFrame_snd (layer : EglGbmLayer) (started : Option Region) :
    (layer.beginFrame started).2 =
      { layer.feedback .renderingSurface with mScanoutBuffer := none } := rfl

@[simp] theorem endFrame_none (layer : EglGbmLayer) : layer.endFrame none = layer := rfl

@[simp] theorem endFrame_some (layer : EglGbmLayer) (buffer : DrmBuffer) (damage : Region) :
    layer.endFrame (some (buffer, damage)) =
      { layer with mCurrentBuffer := some buffer, mCurrentDamage := damage } := rfl

section Scanout

variable {layer : EglGbmLayer} {pipeline : DrmPipeline} {item : SurfaceItem}
  {feedbackSurface : Option Nat} {imported : Option DrmBuffer} {testScanout : Bool}

/-- After the format check, a rejection keeps `m_currentBuffer` and `m_currentDamage`, and
the surface item's damage unless the surface is the feedback's current surface. -/
theorem scanoutSupported_rejected {surface : Surface}
    (rejected : (layer.scanoutSupported pipeline item surface feedbackSurface imported
      testScanout).1 = false) :
    let after := layer.scanoutSupported pipeline item surface feedbackSurface imported testScanout
    after.2.1.mCurrentBuffer = layer.mCurrentBuffer ∧
      after.2.1.mCurrentDamage = layer.mCurrentDamage ∧
      (after.2.2 = item ∨ feedbackSurface = some surface.id ∧ after.2.2 = { item with damage := [] }) := by
  unfold scanoutSupported at rejected ⊢
  split
  · simp
  · split_ifs at rejected ⊢ with current tested <;> simp_all

/-- A rejected `scanout` keeps `m_currentBuffer` and `m_currentDamage`. It keeps the
surface item's damage too, except when the item's surface is the feedback's current
surface. -/
theorem scanout_rejected_keeps_current {directScanoutDisabled : Bool}
    (rejected : (layer.scanout pipeline directScanoutDisabled item feedbackSurface imported
      testScanout).1 = false) :
    let after := layer.scanout pipeline directScanoutDisabled item feedbackSurface imported testScanout
    after.2.1.mCurrentBuffer = layer.mCurrentBuffer ∧
      after.2.1.mCurrentDamage = layer.mCurrentDamage ∧
      (after.2.2 = item ∨ ∃ surface, item.surface = some surface ∧
        feedbackSurface = some surface.id ∧ after.2.2 = { item with damage := [] }) := by
  unfold scanout at rejected ⊢
  split
  · simp
  rename_i enabled
  rw [if_neg enabled] at rejected
  split
  · simp
  rename_i surface attached
  simp only [attached] at rejected
  split
  · simp
  rename_i buffer dmabuf
  simp only [dmabuf] at rejected
  split_ifs at rejected ⊢
  · simp
  · obtain ⟨keptBuffer, keptDamage, kept⟩ := scanoutSupported_rejected rejected
    exact ⟨keptBuffer, keptDamage, kept.imp_right fun reset => ⟨surface, attached, reset⟩⟩
  · simp

/-- When the surface is the feedback's current surface and its dmabuf passes every check
before the test commit, a `TEST_ONLY` rejection makes `scanout` return `false` with the
surface item's damage reset, while `m_currentBuffer` and `m_currentDamage` stay. -/
theorem scanout_rejected_loses_damage {surface : Surface} {buffer : ClientBuffer}
    {framebuffer : DrmBuffer} (wayland : item.wayland = true) (attached : item.surface = some surface)
    (dmabuf : surface.buffer = some buffer) (planes : buffer.planes ≠ 0)
    (sized : buffer.size = pipeline.sourceSize) (supported : buffer.format ∈ pipeline.supportedFormats) :
    layer.scanout pipeline false item (some surface.id) (some framebuffer) false =
      (false, { layer.feedback (.scanoutFailed surface.id pipeline.supportedFormats) with
        mScanoutBuffer := none }, { item with damage := [] }) := by
  simp [scanout, scanoutSupported, wayland, attached, dmabuf, planes, sized, supported]

end Scanout

/-- A 1920×1080 `DRM_FORMAT_XRGB8888` dmabuf of one plane. -/
def fullHdBuffer : ClientBuffer :=
  ⟨1, ⟨1920, 1080⟩, 875713112⟩

/-- A client surface showing `fullHdBuffer`. -/
def clientSurface : Surface :=
  ⟨7, some fullHdBuffer⟩

/-- The item of `clientSurface`, with one damaged rectangle. -/
def damagedItem : SurfaceItem :=
  ⟨true, some clientSurface, [⟨0, 0, 64, 64⟩]⟩

/-- A pipeline of a 1920×1080 output that supports `DRM_FORMAT_XRGB8888`. -/
def fullHdPipeline : DrmPipeline :=
  ⟨⟨1920, 1080⟩, [875713112], ⟨0, 0, 1920, 1080⟩⟩

theorem scanout_rejected_loses_damage_damagedItem :
    (damagedItem.wayland = true ∧ damagedItem.surface = some clientSurface ∧
      clientSurface.buffer = some fullHdBuffer ∧ fullHdBuffer.planes ≠ 0 ∧
      fullHdBuffer.size = fullHdPipeline.sourceSize ∧
      fullHdBuffer.format ∈ fullHdPipeline.supportedFormats) ∧
    (⟨none, some 3, [⟨0, 0, 1920, 1080⟩], []⟩ : EglGbmLayer).scanout fullHdPipeline false damagedItem
        (some clientSurface.id) (some 4) false =
      (false, ⟨none, some 3, [⟨0, 0, 1920, 1080⟩], [.scanoutFailed 7 [875713112]]⟩,
        { damagedItem with damage := [] }) :=
  have wayland : damagedItem.wayland = true := rfl
  have attached : damagedItem.surface = some clientSurface := rfl
  have dmabuf : clientSurface.buffer = some fullHdBuffer := rfl
  have planes : fullHdBuffer.planes ≠ 0 := by decide
  have sized : fullHdBuffer.size = fullHdPipeline.sourceSize := rfl
  have supported : fullHdBuffer.format ∈ fullHdPipeline.supportedFormats := by decide
  ⟨⟨wayland, attached, dmabuf, planes, sized, supported⟩,
    scanout_rejected_loses_damage wayland attached dmabuf planes sized supported⟩

section TestBuffer

/-- The layer as its constructor leaves it: no buffer, no damage. -/
def initial : EglGbmLayer :=
  ⟨none, none, [], []⟩

/-- When the surface does not fit and the frame it renders yields no buffer,
`checkTestBuffer` still reports success whenever `m_currentBuffer` holds a buffer from
before the call, and `currentBuffer()` then returns that buffer with its damage. -/
theorem checkTestBuffer_reports_stale_buffer {layer : EglGbmLayer} {buffer : DrmBuffer}
    (stale : layer.mCurrentBuffer = some buffer) (started : Option Region) :
    (layer.checkTestBuffer false started none).1 = true ∧
      (layer.checkTestBuffer false started none).2.currentBuffer = some buffer ∧
      (layer.checkTestBuffer false started none).2.currentDamage = layer.currentDamage := by
  simp [checkTestBuffer, currentBuffer, currentDamage, stale]

/-- A layer whose last frame went into buffer 3 while the output was 1280×720. -/
def renderedAt720p : EglGbmLayer :=
  (initial.checkTestBuffer false (some [⟨0, 0, 1280, 720⟩]) (some (3, [⟨0, 0, 1280, 720⟩]))).2

theorem checkTestBuffer_reports_stale_buffer_renderedAt720p :
    renderedAt720p.mCurrentBuffer = some 3 ∧
      (renderedAt720p.checkTestBuffer false none none).1 = true ∧
      (renderedAt720p.checkTestBuffer false none none).2.currentBuffer = some 3 ∧
      (renderedAt720p.checkTestBuffer false none none).2.currentDamage =
        renderedAt720p.currentDamage :=
  ⟨rfl, checkTestBuffer_reports_stale_buffer rfl none⟩

end TestBuffer

end EglGbmLayer

end KWin
