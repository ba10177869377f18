import KWin.Wayland.Swapchain

/-!
# The gbm buffer allocator

`GbmGraphicsBufferAllocator::allocate` (`core/gbmgraphicsbufferallocator.cpp`) asks libgbm
for a buffer object at most twice. First it asks with the caller's explicit modifiers, unless the
list is empty or holds `DRM_FORMAT_MOD_INVALID` alone. Then, if that was skipped or came back
null, it asks with the implicit modifier for scanout and rendering. libgbm is not under `src/`:
its answer to each call is an argument, `device`, and the model returns the calls `allocate`
made beside the buffer it returns.

`allocate` returns `nullptr` exactly when it fell back to `gbm_bo_create` and every call it
made failed (`allocate_eq_none_iff`). The EGL layer swapchain's constructor
calls `allocate` twice and keeps what it gets: its ring is empty, so its first `acquire()`
divides by zero, exactly when every gbm call of both allocations failed
(`createWithAllocator_acquire_faults_iff`).
-/

namespace KWin

/-- `DRM_FORMAT_MOD_INVALID` of `drm_fourcc.h`. -/
def drmFormatModInvalid : UInt64 := 0x00ffffffffffffff

/-- `GBM_BO_USE_SCANOUT` of `gbm.h`. -/
def gbmBoUseScanout : UInt32 := 1

/-- `GBM_BO_USE_RENDERING` of `gbm.h`. -/
def gbmBoUseRendering : UInt32 := 4

/-- A request for a buffer object to libgbm. -/
inductive GbmCall where
  /-- `gbm_bo_create_with_modifiers(device, width, height, format, modifiers, count)`. -/
  | createWithModifiers (width height : Int) (format : UInt32) (modifiers : List UInt64)
  /-- `gbm_bo_create(device, width, height, format, flags)`. -/
  | create (width height : Int) (format : UInt32) (flags : UInt32)
  deriving DecidableEq, Repr

/-- `GbmGraphicsBuffer`; the model keeps `m_bo` and `m_size`. -/
structure GbmGraphicsBuffer where
  bo : Nat
  size : Size
  deriving DecidableEq, Repr

namespace GbmGraphicsBufferAllocator

/-- The condition of the first `if` of `allocate`:
`!modifiers.isEmpty() && !(modifiers.size() == 1 && modifiers.first() == DRM_FORMAT_MOD_INVALID)`. -/
def explicitModifiers (modifiers : List UInt64) : Bool :=
  !modifiers.isEmpty && !(modifiers.length == 1 && modifiers.head? == some drmFormatModInvalid)

/-- The call of the first `if`. -/
def withModifiersCall (size : Size) (format : UInt32) (modifiers : List UInt64) : GbmCall :=
  .createWithModifiers size.width size.height format modifiers

/-- The call of the second `if`, with `GBM_BO_USE_SCANOUT | GBM_BO_USE_RENDERING`. -/
def plainCall (size : Size) (format : UInt32) : GbmCall :=
  .create size.width size.height format (gbmBoUseScanout ||| gbmBoUseRendering)

/-- `allocate(size, format, modifiers)` on a gbm device that answers each call with a buffer
object or with `nullptr` (`none`): the calls made, in order, and the buffer returned. -/
def allocate (device : GbmCall → Option Nat) (size : Size) (format : UInt32)
    (modifiers : List UInt64) : List GbmCall × Option GbmGraphicsBuffer :=
  let (calls, bo) : List GbmCall × Option Nat :=
    if explicitModifiers modifiers then
      ([withModifiersCall size format modifiers], device (withModifiersCall size format modifiers))
    else ([], none)
  let (calls, bo) : List GbmCall × Option Nat :=
    if bo.isNone then (calls ++ [plainCall size format], device (plainCall size format))
    else (calls, bo)
  (calls, bo.map fun bo => ⟨bo, size⟩)

/-- Every outcome of `allocate`: the explicit call when the modifiers allow it, with its buffer
object; else, or when it failed, the plain call with its answer. -/
theorem allocate_cases (device : GbmCall → Option Nat) (size : Size) (format : UInt32)
    (modifiers : List UInt64) :
    (explicitModifiers modifiers = true ∧
        ∃ bo, device (withModifiersCall size format modifiers) = some bo ∧
          allocate device size format modifiers = ([withModifiersCall size format modifiers],
            some ⟨bo, size⟩)) ∨
      (explicitModifiers modifiers = true ∧ device (withModifiersCall size format modifiers) = none ∧
        allocate device size format modifiers =
          ([withModifiersCall size format modifiers, plainCall size format],
            (device (plainCall size format)).map fun bo => ⟨bo, size⟩)) ∨
      (explicitModifiers modifiers = false ∧
        allocate device size format modifiers =
          ([plainCall size format], (device (plainCall size format)).map fun bo => ⟨bo, size⟩)) := by
  cases explicit : explicitModifiers modifiers
  · simp [allocate, explicit]
  · cases first : device (withModifiersCall size format modifiers) <;> simp [allocate, explicit, first]

/-- `allocate` returns `nullptr` exactly when it fell back to `gbm_bo_create` and every gbm
call it made failed. -/
theorem allocate_eq_none_iff (device : GbmCall → Option Nat) (size : Size) (format : UInt32)
    (modifiers : List UInt64) :
    (allocate device size format modifiers).2 = none ↔
      plainCall size format ∈ (allocate device size format modifiers).1 ∧
        ∀ call ∈ (allocate device size format modifiers).1, device call = none := by
  rcases allocate_cases device size format modifiers with
    ⟨-, bo, -, made⟩ | ⟨-, first, made⟩ | ⟨-, made⟩
  · simp [made, plainCall, withModifiersCall]
  · simp [made, first]
  · simp [made]

end GbmGraphicsBufferAllocator

namespace Wayland

namespace WaylandEglLayerSwapchain

open GbmGraphicsBufferAllocator

/-- The constructor with its `GbmGraphicsBufferAllocator`: allocation `call` runs on a gbm device
that answers with `device call`, and the ring keeps the buffers that came back. -/
def createWithAllocator (device : Nat → GbmCall → Option Nat) (size : Size) (format : UInt32)
    (modifiers : List UInt64) : WaylandEglLayerSwapchain :=
  create size fun call => ((allocate (device call) size format modifiers).2).isSome

/-- `acquire()` faults exactly on an empty ring, where `% m_buffers.count()` divides by zero. -/
theorem acquire_eq_error_iff (swapchain : WaylandEglLayerSwapchain) :
    swapchain.acquire = .error .divisionByZero ↔ swapchain.buffers = [] := by
  unfold acquire
  split <;> simp_all

theorem create_buffers_eq_nil_iff (size : Size) (allocated : Nat → Bool) :
    (create size allocated).buffers = [] ↔ ∀ call < 2, allocated call = false := by
  simp [create, List.filterMap_eq_nil_iff, List.mem_range]

/-- The first `acquire()` of a new swapchain divides by zero exactly when every gbm call of both
allocations failed, the fallback to `gbm_bo_create` included. -/
theorem createWithAllocator_acquire_faults_iff (device : Nat → GbmCall → Option Nat) (size : Size)
    (format : UInt32) (modifiers : List UInt64) :
    (createWithAllocator device size format modifiers).acquire = .error .divisionByZero ↔
      ∀ call < 2, plainCall size format ∈ (allocate (device call) size format modifiers).1 ∧
        ∀ gbmCall ∈ (allocate (device call) size format modifiers).1, device call gbmCall = none := by
  simp [acquire_eq_error_iff, createWithAllocator, create_buffers_eq_nil_iff,
    ← allocate_eq_none_iff]

end WaylandEglLayerSwapchain

end Wayland

end KWin
