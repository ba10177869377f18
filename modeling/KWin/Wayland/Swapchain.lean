import KWin.Geometry

/-!
# Swapchains of the nested Wayland backend

The nested Wayland backend paints into buffers that it attaches to a surface of the host
compositor. The QPainter backend keeps a `WaylandQPainterSwapchain`
(`wayland_qpainter_backend.cpp`). Its slots each carry a `used` flag, which the
`wl_buffer` release event clears, and an age. The EGL backend keeps a
`WaylandEglLayerSwapchain` (`wayland_egl_backend.cpp`): a ring of the buffers that its
constructor could allocate, at most two, with an age each.

Both `release` functions run the same loop over the ages. Here it is `releaseLoop`, and
each `release` is that loop applied to its own buffers. The ages are `int`s, and `age++`
past `INT_MAX` is undefined behaviour. The model makes it a `Fault`, beside the other
undefined behaviour the layers can reach. A buffer is named by its position in its
swapchain, which never changes, and a null `std::shared_ptr` by `none`.
-/

namespace KWin

namespace Wayland

/-- Undefined behaviour the code can reach; a run of the model stops there. -/
inductive Fault where
  /-- `%` with a zero divisor. -/
  | divisionByZero
  /-- A member access through a null `std::shared_ptr`. -/
  | nullDereference
  /-- An `int` incremented past `INT_MAX`. -/
  | signedOverflow
  deriving DecidableEq, Repr

/-- `INT_MAX` of a 32-bit `int`. -/
def intMax : Int := 2147483647

/-- `value++` on an `int`. -/
def incrementInt (value : Int) : Except Fault Int :=
  if value = intMax then .error .signedOverflow else .ok (value + 1)

/-- One buffer's part of the loop in `release`: the released buffer's age becomes 1, and
any other buffer with a positive age grows older by one. -/
def releaseAge (released : Bool) (age : Int) : Except Fault Int :=
  if released then .ok 1 else if age > 0 then incrementInt age else .ok age

/-- The loop of both swapchains' `release`, from the buffer at position `index` on:
`if (slot == buffer) age = 1; else if (age > 0) age++;`. -/
def releaseLoop {α : Type} (age : α → Int) (withAge : α → Int → α) (buffer : Option Nat) :
    List α → Nat → Except Fault (List α)
  | [], _ => .ok []
  | slot :: slots, index => do
    let newAge ← releaseAge (buffer == some index) (age slot)
    let rest ← releaseLoop age withAge buffer slots (index + 1)
    pure (withAge slot newAge :: rest)

/-- The age `release` gives one buffer when no `int` overflows. -/
def releasedAge (released : Bool) (age : Int) : Int :=
  if released then 1 else if age > 0 then age + 1 else age

theorem releaseAge_eq_ok {released : Bool} {age : Int} (fits : released = true ∨ age ≠ intMax) :
    releaseAge released age = .ok (releasedAge released age) := by
  unfold releaseAge releasedAge incrementInt
  cases released with
  | true => rfl
  | false => split_ifs <;> simp_all

theorem releaseAge_of_eq_ok {released : Bool} {age newAge : Int}
    (ran : releaseAge released age = .ok newAge) : newAge = releasedAge released age := by
  unfold releaseAge releasedAge incrementInt at *
  cases released <;> split_ifs at ran ⊢ <;> cases ran <;> rfl

theorem releaseAge_intMax : releaseAge false intMax = .error .signedOverflow := rfl

theorem releaseAge_eq_error {released : Bool} {age : Int} {fault : Fault}
    (failed : releaseAge released age = .error fault) : fault = .signedOverflow := by
  unfold releaseAge incrementInt at failed
  cases released <;> split_ifs at failed <;> cases failed <;> rfl

section ReleaseLoop

variable {α : Type} (age : α → Int) (withAge : α → Int → α) (buffer : Option Nat)

/-- What a successful `release` leaves: each buffer with the age `releasedAge` gives it. -/
theorem releaseLoop_eq_mapIdx {slots released : List α} {index : Nat}
    (ran : releaseLoop age withAge buffer slots index = .ok released) :
    released = slots.mapIdx fun position slot =>
      withAge slot (releasedAge (buffer == some (index + position)) (age slot)) := by
  induction slots generalizing index released with
  | nil => cases ran; rfl
  | cons slot slots ih =>
    simp only [releaseLoop, bind, Except.bind, pure, Except.pure] at ran
    split at ran
    · cases ran
    rename_i newAge first
    split at ran
    · cases ran
    rename_i rest restRan
    cases ran
    simp [List.mapIdx_cons, releaseAge_of_eq_ok first, ih restRan, Nat.add_assoc, Nat.add_comm 1]

/-- The loop runs to its end unless it reaches a buffer other than `buffer` whose age is
already `INT_MAX`. -/
theorem releaseLoop_eq_ok_of_fits {slots : List α} {index : Nat}
    (fits : ∀ position slot, slots[position]? = some slot → buffer ≠ some (index + position) →
      age slot ≠ intMax) :
    ∃ released, releaseLoop age withAge buffer slots index = .ok released := by
  induction slots generalizing index with
  | nil => exact ⟨[], rfl⟩
  | cons slot slots ih =>
    have first : (buffer == some index) = true ∨ age slot ≠ intMax := by
      by_cases own : buffer = some index
      · exact .inl (by simp [own])
      · exact .inr (fits 0 slot (by simp) own)
    obtain ⟨rest, restRan⟩ := ih fun position slot found other =>
      fits (position + 1) slot (by simpa using found)
        (by rwa [← Nat.add_assoc, Nat.add_right_comm])
    exact ⟨withAge slot (releasedAge (buffer == some index) (age slot)) :: rest, by
      simp [releaseLoop, releaseAge_eq_ok first, restRan, bind, Except.bind, pure, Except.pure]⟩

/-- The loop stops with an overflow once some buffer other than `buffer` has age
`INT_MAX`. -/
theorem releaseLoop_eq_error {slots : List α} {index position : Nat} {slot : α}
    (found : slots[position]? = some slot) (other : buffer ≠ some (index + position))
    (full : age slot = intMax) :
    releaseLoop age withAge buffer slots index = .error .signedOverflow := by
  induction slots generalizing index position with
  | nil => cases found
  | cons first slots ih =>
    simp only [releaseLoop, bind, Except.bind]
    cases position with
    | zero =>
      obtain rfl : first = slot := by simpa using found
      have notReleased : (buffer == some index) = false := by simpa using other
      rw [notReleased, full, releaseAge_intMax]
    | succ position =>
      have rest : releaseLoop age withAge buffer slots (index + 1) = .error .signedOverflow :=
        ih (by simpa using found) (by rwa [Nat.add_right_comm, Nat.add_assoc])
      split
      · rename_i fault failed
        rw [releaseAge_eq_error failed]
      · rw [rest]

/-- The loop runs to its end exactly when it meets no buffer other than `buffer` whose age
is already `INT_MAX`. -/
theorem releaseLoop_ok_iff (slots : List α) (index : Nat) :
    (∃ released, releaseLoop age withAge buffer slots index = .ok released) ↔
      ∀ position slot, slots[position]? = some slot → buffer ≠ some (index + position) →
        age slot ≠ intMax := by
  refine ⟨fun ⟨released, ran⟩ position slot found other full => ?_,
    releaseLoop_eq_ok_of_fits age withAge buffer⟩
  rw [releaseLoop_eq_error age withAge buffer found other full] at ran
  cases ran

/-- The ages a successful `release` leaves, when `withAge` sets the age `age` reads. -/
theorem map_age_of_releaseLoop (lawful : ∀ slot newAge, age (withAge slot newAge) = newAge)
    {slots released : List α} (ran : releaseLoop age withAge buffer slots 0 = .ok released) :
    released.map age = (slots.map age).mapIdx fun position slotAge =>
      releasedAge (buffer == some position) slotAge := by
  apply List.ext_getElem?
  simp [releaseLoop_eq_mapIdx age withAge buffer ran, List.getElem?_mapIdx, lawful,
    Function.comp_def]

theorem map_eq_ok_iff {β : Type} {f : α → β} {result : Except Fault α} {value : β} :
    result.map f = .ok value ↔ ∃ inner, result = .ok inner ∧ f inner = value := by
  cases result <;> simp [Except.map]

/-- A `release` of the buffer at `released`, whatever the swapchain builds from the
buffers, goes through exactly when no other buffer's age is `INT_MAX`. -/
theorem release_ok_iff_of_releaseLoop {σ : Type} (wrap : List α → σ) (released : Nat)
    (slots : List α) :
    (∃ presented, (releaseLoop age withAge (some released) slots 0).map wrap = .ok presented) ↔
      ∀ slot slotAge, (slots.map age)[slot]? = some slotAge → slot ≠ released →
        slotAge ≠ intMax := by
  have loop := releaseLoop_ok_iff age withAge (some released) slots 0
  simp only [Nat.zero_add, ne_eq, Option.some.injEq, @eq_comm _ released] at loop
  simp only [map_eq_ok_iff, List.getElem?_map, Option.map_eq_some', forall_exists_index, and_imp,
    ne_eq]
  constructor
  · rintro ⟨_, inner, ran, -⟩ slot _ found lookup rfl
    exact loop.mp ⟨inner, ran⟩ slot found lookup
  · intro fits
    obtain ⟨inner, ran⟩ := loop.mpr fun slot found lookup => fits slot _ found lookup rfl
    exact ⟨_, inner, ran, rfl⟩

end ReleaseLoop

/-- A slot of `WaylandQPainterSwapchain`; the model keeps the two fields its functions
read. -/
structure WaylandQPainterBufferSlot where
  /-- Set while the host compositor may still read the slot's `wl_buffer`. -/
  used : Bool
  age : Int
  deriving DecidableEq, Repr

/-- Modelled from the spec: a slot as its constructor leaves it. The initializers of
`used` and `age` are in `wayland_qpainter_backend.h`, which is not under `src/`. A new
slot is not in use by the host compositor and has never been presented. -/
def WaylandQPainterBufferSlot.create : WaylandQPainterBufferSlot :=
  ⟨false, 0⟩

structure WaylandQPainterSwapchain where
  /-- `m_size`. -/
  size : Size
  /-- `m_slots`. -/
  slots : List WaylandQPainterBufferSlot
  deriving DecidableEq, Repr

namespace WaylandQPainterSwapchain

/-- The constructor: no slot yet. -/
def create (size : Size) : WaylandQPainterSwapchain :=
  ⟨size, []⟩

/-- `acquire()`: the first slot not in use, which it marks used; otherwise a new slot
when `m_allocator->allocate` returns a buffer (`allocated`), and `nullptr` when not. -/
def acquire (swapchain : WaylandQPainterSwapchain) (allocated : Bool) :
    Option Nat × WaylandQPainterSwapchain :=
  match swapchain.slots.findIdx? fun slot => !slot.used with
  | some index =>
    (some index,
      { swapchain with slots := swapchain.slots.modify (fun slot => { slot with used := true }) index })
  | none =>
    if allocated then
      (some swapchain.slots.length,
        { swapchain with slots := swapchain.slots ++ [WaylandQPainterBufferSlot.create] })
    else (none, swapchain)

/-- `release(buffer)`. -/
def release (swapchain : WaylandQPainterSwapchain) (buffer : Option Nat) :
    Except Fault WaylandQPainterSwapchain :=
  (releaseLoop WaylandQPainterBufferSlot.age (fun slot age => { slot with age := age }) buffer
    swapchain.slots 0).map fun slots => { swapchain with slots := slots }

/-- The `release` event of the `wl_buffer` of the slot at `index`: the host compositor no
longer reads it. -/
def bufferReleased (swapchain : WaylandQPainterSwapchain) (index : Nat) :
    WaylandQPainterSwapchain :=
  { swapchain with slots := swapchain.slots.modify (fun slot => { slot with used := false }) index }

/-- A slot that `acquire` finds unused leaves it marked used. -/
theorem acquire_reused_used {swapchain : WaylandQPainterSwapchain} {allocated : Bool}
    {index : Nat} (found : swapchain.slots.findIdx? (fun slot => !slot.used) = some index) :
    (swapchain.acquire allocated).1 = some index ∧
      ((swapchain.acquire allocated).2.slots[index]?.map (·.used)) = some true := by
  obtain ⟨inBounds, -⟩ := List.findIdx?_eq_some_iff_getElem.mp found
  simp [acquire, found, List.getElem?_modify, inBounds]

/-- `release` changes ages only. -/
theorem release_used {swapchain presented : WaylandQPainterSwapchain} {buffer : Option Nat}
    (ran : swapchain.release buffer = .ok presented) :
    presented.slots.map (·.used) = swapchain.slots.map (·.used) := by
  obtain ⟨slots, loop, rfl⟩ := map_eq_ok_iff.mp ran
  apply List.ext_getElem?
  simp [releaseLoop_eq_mapIdx _ _ _ loop, List.getElem?_mapIdx, Option.map_map, Function.comp_def]

theorem findIdx?_unused_congr {slots other : List WaylandQPainterBufferSlot}
    (sameUse : other.map (·.used) = slots.map (·.used)) :
    other.findIdx? (fun slot => !slot.used) = slots.findIdx? (fun slot => !slot.used) := by
  have mapped (slots : List WaylandQPainterBufferSlot) :
      slots.findIdx? (fun slot => !slot.used) = (slots.map (·.used)).findIdx? (!·) := by
    rw [List.findIdx?_map]; rfl
  rw [mapped, mapped slots, sameUse]

/-- With every slot in use and the allocation failing, `acquire` returns `nullptr`. -/
theorem acquire_failed {swapchain : WaylandQPainterSwapchain}
    (allUsed : swapchain.slots.findIdx? (fun slot => !slot.used) = none) :
    swapchain.acquire false = (none, swapchain) := by
  simp [acquire, allUsed]

/-- The ages of the slots. -/
def ages (swapchain : WaylandQPainterSwapchain) : List Int :=
  swapchain.slots.map (·.age)

/-- Setting or clearing one slot's `used` flag leaves the ages. -/
theorem map_age_modify_used (slots : List WaylandQPainterBufferSlot) (used : Bool) (index : Nat) :
    (slots.modify (fun slot => { slot with used := used }) index).map (·.age) = slots.map (·.age) := by
  apply List.ext_getElem?
  intro position
  simp only [List.getElem?_map, List.getElem?_modify]
  cases slots[position]? <;> simp
  split <;> rfl

theorem ages_acquire (swapchain : WaylandQPainterSwapchain) (allocated : Bool) :
    (swapchain.acquire allocated).2.ages = swapchain.ages ∨
      (swapchain.acquire allocated).2.ages = swapchain.ages ++ [0] := by
  unfold acquire ages
  split
  · exact .inl (map_age_modify_used _ true _)
  · split
    · exact .inr (by simp [WaylandQPainterBufferSlot.create])
    · exact .inl rfl

theorem ages_bufferReleased (swapchain : WaylandQPainterSwapchain) (index : Nat) :
    (swapchain.bufferReleased index).ages = swapchain.ages :=
  map_age_modify_used _ false _

theorem ages_release {swapchain presented : WaylandQPainterSwapchain} {buffer : Option Nat}
    (ran : swapchain.release buffer = .ok presented) :
    presented.ages = swapchain.ages.mapIdx fun slot age => releasedAge (buffer == some slot) age := by
  obtain ⟨slots, loop, rfl⟩ := map_eq_ok_iff.mp ran
  exact map_age_of_releaseLoop _ _ _ (fun _ _ => rfl) loop

/-- A release goes through exactly when no slot other than the released one has age
`INT_MAX`. -/
theorem release_ok_iff {swapchain : WaylandQPainterSwapchain} {released : Nat} :
    (∃ presented, swapchain.release (some released) = .ok presented) ↔
      ∀ slot age, swapchain.ages[slot]? = some age → slot ≠ released → age ≠ intMax :=
  release_ok_iff_of_releaseLoop _ _ _ released swapchain.slots

/-- Whenever `acquire` has to allocate, it hands out the new slot unused, so the next
`acquire` hands it out again, also after the slot was presented and released, with no
`wl_buffer` release event in between. -/
theorem acquire_after_allocation_repeats {swapchain : WaylandQPainterSwapchain}
    (allUsed : swapchain.slots.findIdx? (fun slot => !slot.used) = none) (allocated : Bool) :
    (swapchain.acquire true).1 = some swapchain.slots.length ∧
      ((swapchain.acquire true).2.acquire allocated).1 = some swapchain.slots.length ∧
      ∀ presented, (swapchain.acquire true).2.release (some swapchain.slots.length) = .ok presented →
        (presented.acquire allocated).1 = some swapchain.slots.length := by
  have grown : (swapchain.acquire true).2.slots = swapchain.slots ++ [WaylandQPainterBufferSlot.create] := by
    simp [acquire, allUsed]
  have foundNew : (swapchain.acquire true).2.slots.findIdx? (fun slot => !slot.used) =
      some swapchain.slots.length := by
    rw [grown, List.findIdx?_eq_some_iff_getElem]
    refine ⟨by simp, by simp [WaylandQPainterBufferSlot.create], fun earlier below => ?_⟩
    have used := List.findIdx?_eq_none_iff.mp allUsed swapchain.slots[earlier] (List.getElem_mem _)
    simpa [List.getElem_append_left below] using used
  refine ⟨by simp [acquire, allUsed], (acquire_reused_used foundNew).1, fun presented ran => ?_⟩
  exact (acquire_reused_used ((findIdx?_unused_congr (release_used ran)).trans foundNew)).1

theorem acquire_after_allocation_repeats_create :
    (create ⟨64, 64⟩).slots.findIdx? (fun slot => !slot.used) = none ∧
      ((create ⟨64, 64⟩).acquire true).1 = some 0 ∧
      (((create ⟨64, 64⟩).acquire true).2.acquire true).1 = some 0 ∧
      ∀ presented, ((create ⟨64, 64⟩).acquire true).2.release (some 0) = .ok presented →
        (presented.acquire true).1 = some 0 :=
  ⟨rfl, acquire_after_allocation_repeats
    (show (create ⟨64, 64⟩).slots.findIdx? (fun slot => !slot.used) = none from rfl) true⟩

end WaylandQPainterSwapchain

/-- `WaylandEglLayerBuffer`; the model keeps `m_age`. -/
structure WaylandEglLayerBuffer where
  age : Int
  deriving DecidableEq, Repr

structure WaylandEglLayerSwapchain where
  /-- `m_size`. -/
  size : Size
  /-- `m_buffers`. -/
  buffers : List WaylandEglLayerBuffer
  /-- `m_index`. -/
  index : Nat
  deriving DecidableEq, Repr

namespace WaylandEglLayerSwapchain

/-- Modelled from the spec: the constructor, with the initializers of `m_index` and
`m_age` that `wayland_egl_backend.h`, not under `src/`, holds. It makes two allocations,
and `allocated call` tells whether call `call` returns a buffer; a failed one is skipped.
A new buffer has never been presented, so its age is 0. `m_index` starts at 0; no result
below depends on where it starts. -/
def create (size : Size) (allocated : Nat → Bool) : WaylandEglLayerSwapchain :=
  { size := size
    buffers := (List.range 2).filterMap fun call => if allocated call then some ⟨0⟩ else none
    index := 0 }

/-- `acquire()`: `m_index = (m_index + 1) % m_buffers.count()`, and the buffer there. -/
def acquire (swapchain : WaylandEglLayerSwapchain) : Except Fault (Nat × WaylandEglLayerSwapchain) :=
  if swapchain.buffers.length = 0 then .error .divisionByZero
  else
    let index := (swapchain.index + 1) % swapchain.buffers.length
    .ok (index, { swapchain with index := index })

/-- `release(buffer)`. Its `Q_ASSERT(m_buffers[m_index] == buffer)` is not compiled into
release builds; the layers' call order makes it hold. -/
def release (swapchain : WaylandEglLayerSwapchain) (buffer : Option Nat) :
    Except Fault WaylandEglLayerSwapchain :=
  (releaseLoop WaylandEglLayerBuffer.age (fun _ age => ⟨age⟩) buffer swapchain.buffers 0).map
    fun buffers => { swapchain with buffers := buffers }

theorem acquire_ok {swapchain acquired : WaylandEglLayerSwapchain} {index : Nat}
    (ran : swapchain.acquire = .ok (index, acquired)) :
    acquired.index = index ∧ index < acquired.buffers.length ∧
      acquired.buffers = swapchain.buffers ∧ acquired.size = swapchain.size := by
  unfold acquire at ran
  split at ran
  · cases ran
  cases ran
  exact ⟨rfl, Nat.mod_lt _ (Nat.pos_of_ne_zero ‹_›), rfl, rfl⟩

/-- `release` changes ages only. -/
theorem release_shape {swapchain presented : WaylandEglLayerSwapchain} {buffer : Option Nat}
    (ran : swapchain.release buffer = .ok presented) :
    presented.size = swapchain.size ∧ presented.index = swapchain.index ∧
      presented.buffers.length = swapchain.buffers.length := by
  obtain ⟨buffers, loop, rfl⟩ := map_eq_ok_iff.mp ran
  simp [releaseLoop_eq_mapIdx _ _ _ loop]

/-- The ages of the buffers. -/
def ages (swapchain : WaylandEglLayerSwapchain) : List Int :=
  swapchain.buffers.map (·.age)

theorem ages_create (size : Size) (allocated : Nat → Bool) :
    ∀ age ∈ (create size allocated).ages, age = 0 := by
  simp only [create, ages, List.mem_map, List.mem_filterMap]
  rintro age ⟨buffer, ⟨call, -, made⟩, rfl⟩
  split at made <;> cases made
  rfl

theorem ages_release {swapchain presented : WaylandEglLayerSwapchain} {buffer : Option Nat}
    (ran : swapchain.release buffer = .ok presented) :
    presented.ages = swapchain.ages.mapIdx fun slot age => releasedAge (buffer == some slot) age := by
  obtain ⟨buffers, loop, rfl⟩ := map_eq_ok_iff.mp ran
  exact map_age_of_releaseLoop _ _ _ (fun _ _ => rfl) loop

/-- A release goes through exactly when no buffer other than the released one has age
`INT_MAX`. -/
theorem release_ok_iff {swapchain : WaylandEglLayerSwapchain} {released : Nat} :
    (∃ presented, swapchain.release (some released) = .ok presented) ↔
      ∀ slot age, swapchain.ages[slot]? = some age → slot ≠ released → age ≠ intMax :=
  release_ok_iff_of_releaseLoop _ _ _ released swapchain.buffers

/-- Releasing the second of two buffers ages the first by one while its age fits. -/
theorem release_second {size : Size} {index : Nat} {first : Int} (positive : 0 < first)
    (fits : first ≠ intMax) :
    (⟨size, [⟨first⟩, ⟨1⟩], index⟩ : WaylandEglLayerSwapchain).release (some 1) =
      .ok ⟨size, [⟨first + 1⟩, ⟨1⟩], index⟩ := by
  simp [release, releaseLoop, releaseAge, incrementInt, positive, fits, bind, Except.bind, pure,
    Except.pure, Except.map]

end WaylandEglLayerSwapchain

/-! ## Formats of the QPainter slots

The slot constructor names its format to the host compositor through `drmFormatToShmFormat`
and to `QImage` through `drmFormatToQImageFormat`. -/

/-- `DRM_FORMAT_ARGB8888` of `drm_fourcc.h`, `fourcc_code('A', 'R', '2', '4')`. -/
def drmFormatArgb8888 : UInt32 := 0x34325241

/-- `DRM_FORMAT_XRGB8888`, `fourcc_code('X', 'R', '2', '4')`. -/
def drmFormatXrgb8888 : UInt32 := 0x34325258

/-- `WL_SHM_FORMAT_ARGB8888` of the `wl_shm` protocol. -/
def wlShmFormatArgb8888 : UInt32 := 0

/-- `WL_SHM_FORMAT_XRGB8888`. -/
def wlShmFormatXrgb8888 : UInt32 := 1

/-- The `QImage::Format` values `drmFormatToQImageFormat` returns. -/
inductive QImageFormat where
  | Format_RGB32
  | Format_ARGB32
  deriving DecidableEq, Repr

/-- `drmFormatToShmFormat(drmFormat)`: `wl_shm` numbers two formats 0 and 1 and every other
one by its fourcc code. -/
def drmFormatToShmFormat (drmFormat : UInt32) : UInt32 :=
  if drmFormat = drmFormatArgb8888 then wlShmFormatArgb8888
  else if drmFormat = drmFormatXrgb8888 then wlShmFormatXrgb8888
  else drmFormat

/-- `drmFormatToQImageFormat(drmFormat)`; `none` is its `Q_UNREACHABLE()`. -/
def drmFormatToQImageFormat (drmFormat : UInt32) : Option QImageFormat :=
  if drmFormat = drmFormatArgb8888 then some .Format_ARGB32
  else if drmFormat = drmFormatXrgb8888 then some .Format_RGB32
  else none

/-- The primary layer's `DRM_FORMAT_XRGB8888` and the cursor layer's `DRM_FORMAT_ARGB8888`. -/
example : (drmFormatToQImageFormat drmFormatXrgb8888).isSome ∧
    (drmFormatToQImageFormat drmFormatArgb8888).isSome := by
  decide

end Wayland

end KWin
