import KWin.Drm.EglGbmLayer

/-!
# Runs of the EGL/GBM layer

The compositor drives an `EglGbmLayer` with `beginFrame` and `endFrame` around each frame
it renders, `scanout` when a client buffer may be shown directly, `checkTestBuffer` before a
test commit, and `pageFlipped` when the kernel reports a flip. `currentBuffer()` prefers
`m_scanoutBuffer` to `m_currentBuffer`, while `currentDamage()` always reads
`m_currentDamage`. The pipeline gets the two as one frame, so they should come from one
write.

`Reachable` follows the layer through any sequence of these calls in which no `endFrame`
comes after a `scanout` that returned `true` without a `beginFrame` or `pageFlipped` between
them. It carries as a ghost the pair the latest successful `endFrame` or `scanout` wrote: the
buffer and damage the surface rendered, or the imported buffer with the damage `scanout`
computes for screen casting (`scanoutWrite`). In every such state `m_scanoutBuffer` is null
or the current buffer, and `(m_currentBuffer, m_currentDamage)` is that pair
(`current_pair_from_latest_write`). A successful `scanout` between a `beginFrame` and its
`endFrame` breaks this: the frame's buffer becomes `m_currentBuffer` while `currentBuffer()`
still returns the scanout buffer (`scanout_inside_frame_tears_pair`).

A `scanout` rejected before its format test reports nothing to the dmabuf feedback; every
other `scanout` reports once for the item's surface, `scanoutSuccessful` when it shows the
client's buffer and `scanoutFailed` with the pipeline's formats otherwise (`scanout_feedback`).
-/

namespace KWin

namespace EglGbmLayer

/-- The damage `scanout` stores with a client buffer it shows, for screen casting: the surface
item's damage moved to the output's position when the item's surface is the dmabuf feedback's
current surface, else the output's whole geometry. -/
def scanoutDamage (pipeline : DrmPipeline) (item : SurfaceItem) (feedbackSurface : Option Nat)
    (surface : Surface) : Region :=
  if feedbackSurface = some surface.id then
    item.damage.translated pipeline.outputGeometry.x pipeline.outputGeometry.y
  else [pipeline.outputGeometry]

/-- The pair a `scanout` that returns `true` writes into `m_currentBuffer` and
`m_currentDamage`: the buffer imported from the item's surface, with `scanoutDamage`. -/
def scanoutWrite (pipeline : DrmPipeline) (item : SurfaceItem) (feedbackSurface : Option Nat)
    (imported : Option DrmBuffer) : Option (DrmBuffer × Region) :=
  item.surface.bind fun surface =>
    imported.map fun buffer => (buffer, scanoutDamage pipeline item feedbackSurface surface)

/-- The item's surface when `scanout` gets past the checks before its format test: direct
scanout enabled, a Wayland item with a surface, and a dmabuf attached to that surface with
planes and the pipeline's source size. -/
def scanoutCandidate (pipeline : DrmPipeline) (directScanoutDisabled : Bool)
    (item : SurfaceItem) : Option Surface :=
  if directScanoutDisabled || !item.wayland then none
  else item.surface.filter fun surface =>
    surface.buffer.any fun buffer => buffer.planes != 0 && buffer.size == pipeline.sourceSize

section Cases

variable (layer : EglGbmLayer) (pipeline : DrmPipeline) (item : SurfaceItem)
  (feedbackSurface : Option Nat) (imported : Option DrmBuffer) (testScanout : Bool)

/-- What `scanoutSupported` can do to the layer: reject and keep the current pair, with
`m_scanoutBuffer` reset; or accept the imported buffer as both the scanout and the current
buffer, with `scanoutDamage` as the current damage. -/
theorem scanoutSupported_cases (surface : Surface) :
    let after := layer.scanoutSupported pipeline item surface feedbackSurface imported testScanout
    (after.1 = false ∧ after.2.1.mCurrentBuffer = layer.mCurrentBuffer ∧
        after.2.1.mCurrentDamage = layer.mCurrentDamage ∧ after.2.1.mScanoutBuffer = none) ∨
      (after.1 = true ∧ ∃ framebuffer, imported = some framebuffer ∧
        after.2.1.mScanoutBuffer = some framebuffer ∧ after.2.1.mCurrentBuffer = some framebuffer ∧
        after.2.1.mCurrentDamage = scanoutDamage pipeline item feedbackSurface surface) := by
  unfold scanoutSupported scanoutDamage
  split
  · exact .inl ⟨rfl, rfl, rfl, rfl⟩
  · split_ifs <;> simp

/-- What `scanout` can do to the layer: reject and keep the current pair, with
`m_scanoutBuffer` kept or reset; or accept the imported buffer as both the scanout and the
current buffer, and write the pair `scanoutWrite`. -/
theorem scanout_cases (directScanoutDisabled : Bool) :
    let after := layer.scanout pipeline directScanoutDisabled item feedbackSurface imported
      testScanout
    (after.1 = false ∧ after.2.1.mCurrentBuffer = layer.mCurrentBuffer ∧
        after.2.1.mCurrentDamage = layer.mCurrentDamage ∧
        (after.2.1.mScanoutBuffer = none ∨ after.2.1.mScanoutBuffer = layer.mScanoutBuffer)) ∨
      (after.1 = true ∧ ∃ framebuffer damage,
        scanoutWrite pipeline item feedbackSurface imported = some (framebuffer, damage) ∧
        after.2.1.mScanoutBuffer = some framebuffer ∧ after.2.1.mCurrentBuffer = some framebuffer ∧
        after.2.1.mCurrentDamage = damage) := by
  unfold scanout
  iterate 2 (split; · exact .inl ⟨rfl, rfl, rfl, .inr rfl⟩)
  rename_i surface itemSurface
  iterate 3 (split; · exact .inl ⟨rfl, rfl, rfl, .inr rfl⟩)
  rcases scanoutSupported_cases layer pipeline item feedbackSurface imported testScanout surface with
    ⟨rejected, buffer, damage, reset⟩ | ⟨accepted, framebuffer, rfl, scanoutBuffer, buffer, damage⟩
  · exact .inl ⟨rejected, buffer, damage, .inl reset⟩
  · exact .inr ⟨accepted, framebuffer, _, by simp [scanoutWrite, itemSurface], scanoutBuffer,
      buffer, damage⟩

/-- `scanoutSupported` reports to the dmabuf feedback once: success when it shows the buffer,
and the failure with the pipeline's formats otherwise. -/
theorem scanoutSupported_feedback (surface : Surface) :
    let after := layer.scanoutSupported pipeline item surface feedbackSurface imported testScanout
    after.2.1.feedbackCalls = layer.feedbackCalls ++
      [if after.1 then .scanoutSuccessful surface.id
        else .scanoutFailed surface.id pipeline.supportedFormats] := by
  unfold scanoutSupported
  split
  · rfl
  · split_ifs <;> rfl

/-- Which `scanout` calls report to the dmabuf feedback. One rejected before the format test
(direct scanout disabled, no Wayland item or surface, no dmabuf, no planes, the wrong size)
returns `false` and reports nothing. Every other one reports once, for the item's surface:
`scanoutSuccessful` when it shows the client's buffer, and `scanoutFailed` with the pipeline's
formats when it rejects it, for an unsupported format, a failed import or a failed test
commit. -/
theorem scanout_feedback (directScanoutDisabled : Bool) :
    (scanoutCandidate pipeline directScanoutDisabled item = none →
      (layer.scanout pipeline directScanoutDisabled item feedbackSurface imported
          testScanout).1 = false ∧
        (layer.scanout pipeline directScanoutDisabled item feedbackSurface imported
          testScanout).2.1.feedbackCalls = layer.feedbackCalls) ∧
    ∀ surface, scanoutCandidate pipeline directScanoutDisabled item = some surface →
      (layer.scanout pipeline directScanoutDisabled item feedbackSurface imported
          testScanout).2.1.feedbackCalls = layer.feedbackCalls ++
        [if (layer.scanout pipeline directScanoutDisabled item feedbackSurface imported
            testScanout).1 then .scanoutSuccessful surface.id
          else .scanoutFailed surface.id pipeline.supportedFormats] := by
  unfold scanout scanoutCandidate
  by_cases skipped : (directScanoutDisabled || !item.wayland) = true
  · rw [if_pos skipped, if_pos skipped]
    exact ⟨fun _ => ⟨rfl, rfl⟩, nofun⟩
  rw [if_neg skipped, if_neg skipped]
  rcases itemSurface : item.surface with _ | surface
  · exact ⟨fun _ => ⟨rfl, rfl⟩, nofun⟩
  rcases dmabuf : surface.buffer with _ | buffer
  · simp [Option.filter, dmabuf]
  by_cases unfit : buffer.planes = 0 ∨ buffer.size ≠ pipeline.sourceSize
  · rcases unfit with unfit | unfit <;> simp [Option.filter, dmabuf, unfit]
  have accepted : (buffer.planes != 0 && buffer.size == pipeline.sourceSize) = true := by
    simp only [not_or, not_not] at unfit
    simp [unfit.1, unfit.2]
  simp only [Option.filter, Option.any, dmabuf, accepted, if_true, if_neg unfit]
  refine ⟨nofun, fun _ same => ?_⟩
  cases same
  split
  · rfl
  · exact scanoutSupported_feedback layer pipeline item feedbackSurface imported testScanout surface

end Cases

/-- `currentBuffer()` is `m_currentBuffer` unless a different buffer is the scanout buffer. -/
theorem currentBuffer_of_scanout_current {layer : EglGbmLayer}
    (scanoutCurrent : layer.mScanoutBuffer = none ∨ layer.mScanoutBuffer = layer.mCurrentBuffer) :
    layer.currentBuffer = layer.mCurrentBuffer := by
  unfold currentBuffer
  rcases scanoutCurrent with reset | same
  · rw [reset]
  · rw [same]
    cases layer.mCurrentBuffer <;> rfl

/-- The pair `(m_currentBuffer, m_currentDamage)` that the writes in `written` left, or the
constructor's null buffer and empty damage; `shown` is `false` only when no scanout buffer is
set. -/
structure PairWritten (layer : EglGbmLayer) (written : Option (DrmBuffer × Region))
    (shown : Bool) : Prop where
  scanout_current : layer.mScanoutBuffer = none ∨ layer.mScanoutBuffer = layer.mCurrentBuffer
  unshown : shown = false → layer.mScanoutBuffer = none
  buffer_written : layer.mCurrentBuffer = written.map (·.1)
  damage_written : layer.mCurrentDamage = (written.map (·.2)).getD []

/-- The layers a run of calls reaches from the constructor, with the pair the latest
successful `endFrame` or `scanout` wrote, and whether a `scanout` returned `true` since the
latest `beginFrame` or `pageFlipped`. An `endFrame` runs only where none did. A `scanout` that
returns `true` writes `scanoutWrite`. -/
inductive Reachable : EglGbmLayer → Option (DrmBuffer × Region) → Bool → Prop where
  | initial : Reachable initial none false
  | beginFrame {layer written shown} (started : Option Region) :
      Reachable layer written shown → Reachable (layer.beginFrame started).2 written false
  | endFrame {layer written} (rendered : Option (DrmBuffer × Region)) :
      Reachable layer written false → Reachable (layer.endFrame rendered) (rendered.or written) false
  | scanout {layer written shown} {after : Bool × EglGbmLayer × SurfaceItem}
      (pipeline : DrmPipeline) (directScanoutDisabled : Bool) (item : SurfaceItem)
      (feedbackSurface : Option Nat) (imported : Option DrmBuffer) (testScanout : Bool)
      (ran : layer.scanout pipeline directScanoutDisabled item feedbackSurface imported
        testScanout = after) :
      Reachable layer written shown →
      Reachable after.2.1
        (if after.1 then scanoutWrite pipeline item feedbackSurface imported else written)
        (shown || after.1)
  | checkTestBuffer {layer written shown} (fits : Bool) (started : Option Region)
      (rendered : Option (DrmBuffer × Region)) :
      Reachable layer written shown →
      Reachable (layer.checkTestBuffer fits started rendered).2
        (if fits then written else rendered.or written) (shown && fits)
  | pageFlipped {layer written shown} :
      Reachable layer written shown → Reachable layer.pageFlipped written false

namespace PairWritten

variable {layer : EglGbmLayer} {written : Option (DrmBuffer × Region)} {shown : Bool}

theorem initial : PairWritten EglGbmLayer.initial none false :=
  ⟨.inl rfl, fun _ => rfl, rfl, rfl⟩

theorem beginFrame (consistent : PairWritten layer written shown) (started : Option Region) :
    PairWritten (layer.beginFrame started).2 written false :=
  ⟨.inl rfl, fun _ => rfl, consistent.buffer_written, consistent.damage_written⟩

/-- `endFrame` on a layer without a scanout buffer. -/
theorem endFrame (consistent : PairWritten layer written false)
    (rendered : Option (DrmBuffer × Region)) :
    PairWritten (layer.endFrame rendered) (rendered.or written) false := by
  match rendered with
  | none => exact consistent
  | some (buffer, damage) =>
    exact ⟨.inl (consistent.unshown rfl), consistent.unshown, rfl, rfl⟩

theorem scanout (consistent : PairWritten layer written shown)
    {after : Bool × EglGbmLayer × SurfaceItem} {pipeline : DrmPipeline}
    {directScanoutDisabled : Bool} {item : SurfaceItem} {feedbackSurface : Option Nat}
    {imported : Option DrmBuffer} {testScanout : Bool}
    (ran : layer.scanout pipeline directScanoutDisabled item feedbackSurface imported
      testScanout = after) :
    PairWritten after.2.1
      (if after.1 then scanoutWrite pipeline item feedbackSurface imported else written)
      (shown || after.1) := by
  rcases ran ▸ scanout_cases layer pipeline item feedbackSurface imported testScanout
      directScanoutDisabled with
    ⟨rejected, buffer, damage, scanoutBuffer⟩ |
      ⟨accepted, framebuffer, damage, write, scanoutBuffer, buffer, currentDamage⟩
  · simp only [rejected, Bool.or_false, Bool.false_eq_true, if_false]
    refine ⟨?_, fun unshown => ?_, buffer.trans consistent.buffer_written,
      damage.trans consistent.damage_written⟩
    · rcases scanoutBuffer with reset | kept
      · exact .inl reset
      · rw [kept, buffer]
        exact consistent.scanout_current
    · exact scanoutBuffer.elim id fun kept => kept.trans (consistent.unshown unshown)
  · simp only [accepted, Bool.or_true, if_true, write]
    exact ⟨.inr (scanoutBuffer.trans buffer.symm), nofun, buffer, currentDamage⟩

theorem checkTestBuffer (consistent : PairWritten layer written shown) (fits : Bool)
    (started : Option Region) (rendered : Option (DrmBuffer × Region)) :
    PairWritten (layer.checkTestBuffer fits started rendered).2
      (if fits then written else rendered.or written) (shown && fits) := by
  cases fits with
  | true => simpa only [Bool.and_true] using consistent
  | false => simpa only [Bool.and_false] using (consistent.beginFrame started).endFrame rendered

theorem pageFlipped (consistent : PairWritten layer written shown) :
    PairWritten layer.pageFlipped written false :=
  ⟨.inl rfl, fun _ => rfl, consistent.buffer_written, consistent.damage_written⟩

end PairWritten

theorem Reachable.pairWritten {layer : EglGbmLayer} {written : Option (DrmBuffer × Region)}
    {shown : Bool} (reachable : Reachable layer written shown) : PairWritten layer written shown := by
  induction reachable with
  | initial => exact .initial
  | beginFrame started _ ih => exact ih.beginFrame started
  | endFrame rendered _ ih => exact ih.endFrame rendered
  | scanout pipeline disabled item feedbackSurface imported testScanout ran _ ih =>
    exact ih.scanout ran
  | checkTestBuffer fits started rendered _ ih => exact ih.checkTestBuffer fits started rendered
  | pageFlipped _ ih => exact ih.pageFlipped

/-- In every reachable layer, `m_scanoutBuffer` is null or the current buffer, so
`currentBuffer()` returns `m_currentBuffer`; and `(m_currentBuffer, m_currentDamage)` is the
pair the latest successful `endFrame` or `scanout` wrote. -/
theorem current_pair_from_latest_write {layer : EglGbmLayer}
    {written : Option (DrmBuffer × Region)} {shown : Bool}
    (reachable : Reachable layer written shown) :
    (layer.mScanoutBuffer = none ∨ layer.mScanoutBuffer = layer.mCurrentBuffer) ∧
      layer.currentBuffer = layer.mCurrentBuffer ∧
      layer.mCurrentBuffer = written.map (·.1) ∧
      layer.currentDamage = (written.map (·.2)).getD [] := by
  obtain ⟨scanoutCurrent, -, buffer, damage⟩ := reachable.pairWritten
  exact ⟨scanoutCurrent, currentBuffer_of_scanout_current scanoutCurrent, buffer, damage⟩

/-- A frame begun, a direct scanout of buffer 4 from the feedback's current surface, and a page
flip. -/
def scannedOut : EglGbmLayer :=
  ((initial.beginFrame (some [])).2.scanout fullHdPipeline false damagedItem (some 7) (some 4)
    true).2.1.pageFlipped

/-- After `scannedOut` the pair is buffer 4 with the item's damage moved to the output. -/
theorem current_pair_from_latest_write_scannedOut :
    Reachable scannedOut (some (4, [⟨0, 0, 64, 64⟩])) false ∧
      ((scannedOut.mScanoutBuffer = none ∨ scannedOut.mScanoutBuffer = scannedOut.mCurrentBuffer) ∧
        scannedOut.currentBuffer = scannedOut.mCurrentBuffer ∧ scannedOut.mCurrentBuffer = some 4 ∧
        scannedOut.currentDamage = [⟨0, 0, 64, 64⟩]) :=
  have reachable : Reachable scannedOut (some (4, [⟨0, 0, 64, 64⟩])) false :=
    .pageFlipped (.scanout fullHdPipeline false damagedItem (some 7) (some 4) true rfl
      (.beginFrame (some []) .initial))
  ⟨reachable, current_pair_from_latest_write reachable⟩

/-- A successful `scanout` between a `beginFrame` and its `endFrame`: the frame's buffer 5 becomes
`m_currentBuffer`, but `currentBuffer()` still returns the scanout buffer 4, and the pipeline
gets it with the damage of frame 5. -/
theorem scanout_inside_frame_tears_pair :
    let begun := (initial.beginFrame (some [⟨0, 0, 1920, 1080⟩])).2
    let shown := begun.scanout fullHdPipeline false damagedItem none (some 4) true
    let ended := shown.2.1.endFrame (some (5, [⟨0, 0, 64, 64⟩]))
    shown.1 = true ∧ ended.mScanoutBuffer = some 4 ∧ ended.mCurrentBuffer = some 5 ∧
      ended.currentBuffer = some 4 ∧ ended.currentDamage = [⟨0, 0, 64, 64⟩] :=
  ⟨rfl, rfl, rfl, rfl, rfl⟩

end EglGbmLayer

end KWin
