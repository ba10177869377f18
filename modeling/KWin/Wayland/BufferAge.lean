import KWin.Wayland.Layer

/-!
# Buffer ages

`release` sets the released buffer's age to 1 and ages by one every other buffer that has
been released before. A buffer's age therefore counts releases. It is 0 for a buffer never
released, and otherwise one more than the number of releases of other buffers since its
own last release (`expectedAge`). The primary layers ask the damage journal for the damage
of that many frames, which is only right when the ages count this way.

Both swapchains keep the ages so in every state that a run of their calls reaches, with the
released buffers as its history (`WaylandQPainterSwapchain.Reachable.agesFollow`,
`WaylandEglLayerSwapchain.Reachable.agesFollow`). The ages are `int`s, though. A release
goes through only while no other buffer's age is `INT_MAX`: after `INT_MAX - 1` releases
of other buffers, the next one overflows (`release_overflows_age`).
-/

namespace KWin

namespace Wayland

/-- How many releases of other buffers came after the last release of `slot`, or `none`
when `slot` has not been released. `history` lists the released buffers, the latest
first. -/
def releasesSince (slot : Nat) : List Nat → Option Nat
  | [] => none
  | released :: earlier =>
    if released = slot then some 0 else (releasesSince slot earlier).map (· + 1)

/-- The age the releases in `history` give `slot`. -/
def expectedAge (slot : Nat) (history : List Nat) : Int :=
  match releasesSince slot history with
  | none => 0
  | some count => count + 1

section History

variable {slot : Nat} {history : List Nat}

theorem releasesSince_eq_none_iff : releasesSince slot history = none ↔ slot ∉ history := by
  induction history with
  | nil => simp [releasesSince]
  | cons released earlier ih =>
    by_cases own : released = slot
    · simp [releasesSince, own]
    · simp [releasesSince, own, ih, Ne.symm own]

theorem releasesSince_eq_zero_iff : releasesSince slot history = some 0 ↔ history.head? = some slot := by
  cases history with
  | nil => simp [releasesSince]
  | cons released earlier =>
    by_cases own : released = slot <;> simp [releasesSince, own]

/-- Two buffers released the same number of releases ago are the same buffer. -/
theorem releasesSince_injective {other count : Nat} (mine : releasesSince slot history = some count)
    (theirs : releasesSince other history = some count) : slot = other := by
  induction history generalizing count with
  | nil => cases mine
  | cons released earlier ih =>
    simp only [releasesSince] at mine theirs
    split_ifs at mine theirs with own their their
    · exact own.symm.trans their
    · obtain rfl := Option.some.inj mine
      simp [Option.map_eq_some'] at theirs
    · obtain rfl := Option.some.inj theirs
      simp [Option.map_eq_some'] at mine
    · obtain ⟨count, mineEarlier, rfl⟩ := Option.map_eq_some'.mp mine
      obtain ⟨_, theirsEarlier, same⟩ := Option.map_eq_some'.mp theirs
      exact ih mineEarlier (Nat.add_right_cancel same ▸ theirsEarlier)

/-- One release more: `expectedAge` moves as `release` moves an age. -/
theorem expectedAge_cons (released : Nat) :
    expectedAge slot (released :: history) =
      releasedAge (released == slot) (expectedAge slot history) := by
  unfold expectedAge releasedAge
  by_cases own : released = slot
  · simp [releasesSince, own]
  · simp only [releasesSince, own, if_false, beq_iff_eq, Bool.false_eq_true]
    cases releasesSince slot history <;> simp

end History

/-- The ages of a swapchain's buffers are those the releases in `history` give them. -/
structure AgesFollow (ages : List Int) (history : List Nat) : Prop where
  released_lt : ∀ slot ∈ history, slot < ages.length
  age_eq : ∀ slot age, ages[slot]? = some age → age = expectedAge slot history

/-- What the ages say about the releases in `history`: a buffer's age is 0 exactly when
it has not been released, and otherwise one more than the releases of other buffers since
its own last release; so the non-zero ages are distinct, and the buffer released last is
the one with age 1. -/
def AgesCountReleases (ages : List Int) (history : List Nat) : Prop :=
  (∀ (slot : Nat) (age : Int), ages[slot]? = some age →
    (age = 0 ↔ slot ∉ history) ∧
    (∀ count, releasesSince slot history = some count → age = count + 1) ∧
    (age = 1 ↔ history.head? = some slot)) ∧
  ∀ (slot other : Nat) (age : Int), ages[slot]? = some age → ages[other]? = some age → age ≠ 0 →
    slot = other

namespace AgesFollow

variable {ages : List Int} {history : List Nat}

theorem fresh (allZero : ∀ age ∈ ages, age = 0) : AgesFollow ages [] :=
  ⟨fun _ member => (nomatch member), fun _ age found => by
    simpa [expectedAge, releasesSince] using allZero age (List.mem_iff_getElem?.mpr ⟨_, found⟩)⟩

theorem append_fresh (follow : AgesFollow ages history) : AgesFollow (ages ++ [0]) history where
  released_lt slot member := by
    have := follow.released_lt slot member
    simp only [List.length_append, List.length_singleton]
    omega
  age_eq slot age found := by
    by_cases old : slot < ages.length
    · rw [List.getElem?_append_left old] at found
      exact follow.age_eq slot age found
    · have never : slot ∉ history := fun member => old (follow.released_lt slot member)
      have : slot - ages.length = 0 := by
        have := (List.getElem?_eq_some_iff.mp found).1
        simp only [List.length_append, List.length_singleton] at this
        omega
      rw [List.getElem?_append_right (by omega), this] at found
      cases found
      simp [expectedAge, releasesSince_eq_none_iff.mpr never]

/-- A release of one of the buffers keeps the ages following the history. -/
theorem release (follow : AgesFollow ages history) {released : Nat}
    (inBounds : released < ages.length) :
    AgesFollow (ages.mapIdx fun slot age => releasedAge (released == slot) age)
      (released :: history) where
  released_lt slot member := by
    rw [List.length_mapIdx]
    rcases List.mem_cons.mp member with rfl | earlier
    · exact inBounds
    · exact follow.released_lt slot earlier
  age_eq slot age found := by
    rw [List.getElem?_mapIdx] at found
    obtain ⟨old, oldFound, rfl⟩ := Option.map_eq_some'.mp found
    rw [expectedAge_cons, follow.age_eq slot old oldFound]

theorem countReleases (follow : AgesFollow ages history) : AgesCountReleases ages history := by
  have shape (slot : Nat) (age : Int) (found : ages[slot]? = some age) :
      (releasesSince slot history = none ∧ age = 0) ∨
        ∃ count, releasesSince slot history = some count ∧ age = count + 1 := by
    rw [follow.age_eq slot age found, expectedAge]
    cases releasesSince slot history <;> simp
  refine ⟨fun slot age found => ⟨?_, ?_, ?_⟩, fun slot other age found otherFound nonzero => ?_⟩
  · rw [← releasesSince_eq_none_iff]
    rcases shape slot age found with ⟨unreleased, rfl⟩ | ⟨count, counted, rfl⟩
    · simp [unreleased]
    · simp only [counted, reduceCtorEq, iff_false]
      omega
  · intro count counted
    rcases shape slot age found with ⟨unreleased, -⟩ | ⟨_, counted', rfl⟩ <;> simp_all
  · rw [← releasesSince_eq_zero_iff]
    rcases shape slot age found with ⟨unreleased, rfl⟩ | ⟨count, counted, rfl⟩
    · simp [unreleased]
    · simp only [counted, Option.some.injEq]
      omega
  · rcases shape slot age found with ⟨-, rfl⟩ | ⟨count, mine, rfl⟩
    · exact absurd rfl nonzero
    rcases shape other _ otherFound with ⟨-, zero⟩ | ⟨theirCount, theirs, same⟩
    · omega
    · obtain rfl : theirCount = count := by omega
      exact releasesSince_injective mine theirs

end AgesFollow

namespace WaylandQPainterSwapchain

/-- The states of a swapchain that its calls and the host compositor's release events
reach, none of them faulting, with the slots released so far, the latest first. -/
inductive Reachable : WaylandQPainterSwapchain → List Nat → Prop where
  | create (size : Size) : Reachable (create size) []
  | acquire {swapchain : WaylandQPainterSwapchain} {history : List Nat} (allocated : Bool) :
      Reachable swapchain history → Reachable (swapchain.acquire allocated).2 history
  | release {swapchain presented : WaylandQPainterSwapchain} {history : List Nat}
      {released : Nat} : Reachable swapchain history → released < swapchain.slots.length →
      swapchain.release (some released) = .ok presented → Reachable presented (released :: history)
  | bufferReleased {swapchain : WaylandQPainterSwapchain} {history : List Nat} (index : Nat) :
      Reachable swapchain history → Reachable (swapchain.bufferReleased index) history

theorem Reachable.agesFollow {swapchain : WaylandQPainterSwapchain} {history : List Nat}
    (reachable : swapchain.Reachable history) : AgesFollow swapchain.ages history := by
  induction reachable with
  | create => exact .fresh fun _ member => nomatch member
  | @acquire swapchain history allocated _ ih =>
    rcases ages_acquire swapchain allocated with same | grown
    · rw [same]; exact ih
    · rw [grown]; exact ih.append_fresh
  | release _ inBounds ran ih =>
    rw [ages_release ran]
    exact ih.release (by simpa [ages] using inBounds)
  | @bufferReleased swapchain history index _ ih =>
    rw [ages_bufferReleased swapchain index]; exact ih

end WaylandQPainterSwapchain

namespace WaylandEglLayerSwapchain

/-- The states of a swapchain that its calls reach, none of them faulting, with the
buffers released so far, the latest first. -/
inductive Reachable : WaylandEglLayerSwapchain → List Nat → Prop where
  | create (size : Size) (allocated : Nat → Bool) : Reachable (create size allocated) []
  | acquire {swapchain acquired : WaylandEglLayerSwapchain} {history : List Nat} {index : Nat} :
      Reachable swapchain history → swapchain.acquire = .ok (index, acquired) →
      Reachable acquired history
  | release {swapchain presented : WaylandEglLayerSwapchain} {history : List Nat}
      {released : Nat} : Reachable swapchain history → released < swapchain.buffers.length →
      swapchain.release (some released) = .ok presented → Reachable presented (released :: history)

theorem Reachable.agesFollow {swapchain : WaylandEglLayerSwapchain} {history : List Nat}
    (reachable : swapchain.Reachable history) : AgesFollow swapchain.ages history := by
  induction reachable with
  | create size allocated => exact .fresh (ages_create size allocated)
  | acquire _ ran ih =>
    obtain ⟨-, -, sameBuffers, -⟩ := acquire_ok ran
    simpa [ages, sameBuffers] using ih
  | release _ inBounds ran ih =>
    rw [ages_release ran]
    exact ih.release (by simpa [ages] using inBounds)

/-- Releasing the second of two buffers `count` times ages the first by `count`, as long as
its age stays within `INT_MAX`. -/
theorem Reachable.release_second {size : Size} {index : Nat} {first : Int} {history : List Nat}
    (count : Nat) (positive : 0 < first) (fits : first + count ≤ intMax)
    (reachable : Reachable ⟨size, [⟨first⟩, ⟨1⟩], index⟩ history) :
    Reachable ⟨size, [⟨first + count⟩, ⟨1⟩], index⟩ (List.replicate count 1 ++ history) := by
  induction count with
  | zero => simpa using reachable
  | succ count ih =>
    have released : (⟨size, [⟨first + count⟩, ⟨1⟩], index⟩ : WaylandEglLayerSwapchain).release
        (some 1) = .ok ⟨size, [⟨first + count + 1⟩, ⟨1⟩], index⟩ :=
      WaylandEglLayerSwapchain.release_second (by omega) (by push_cast at fits; omega)
    rw [List.replicate_succ, List.cons_append, show first + ↑(count + 1) = first + count + 1 by omega]
    exact .release (ih (by push_cast at fits; omega)) (by simp) released

end WaylandEglLayerSwapchain

/-- Release the first of two buffers, then the second `INT_MAX - 1` times. The first
buffer's age is then `INT_MAX`, and the next release of the second buffer overflows it. -/
theorem release_overflows_age :
    ∃ swapchain : WaylandEglLayerSwapchain,
      swapchain.Reachable (List.replicate 2147483645 1 ++ [1, 0]) ∧
        swapchain.ages = [intMax, 1] ∧ swapchain.release (some 1) = .error .signedOverflow := by
  have firstReleased : (WaylandEglLayerSwapchain.create ⟨64, 64⟩ fun _ => true).release (some 0) =
      .ok ⟨⟨64, 64⟩, [⟨1⟩, ⟨0⟩], 0⟩ := rfl
  have secondReleased : (⟨⟨64, 64⟩, [⟨1⟩, ⟨0⟩], 0⟩ : WaylandEglLayerSwapchain).release (some 1) =
      .ok ⟨⟨64, 64⟩, [⟨2⟩, ⟨1⟩], 0⟩ := rfl
  have started : WaylandEglLayerSwapchain.Reachable ⟨⟨64, 64⟩, [⟨2⟩, ⟨1⟩], 0⟩ [1, 0] :=
    .release (.release (.create _ _) (by decide) firstReleased) (by decide) secondReleased
  have aged := started.release_second 2147483645 (by decide) (by decide)
  refine ⟨_, aged, rfl, rfl⟩

/-- The ages in every state that a run of either swapchain's calls reaches count the
releases as `AgesCountReleases` says, and the next release of a buffer goes through exactly
when no other buffer's age is `INT_MAX`. The EGL layers' calls, in any order, hand
`release` the buffer at `m_index`. -/
theorem buffer_ages_count_releases :
    (∀ {swapchain : WaylandQPainterSwapchain} {history : List Nat}, swapchain.Reachable history →
      AgesCountReleases swapchain.ages history ∧
      ∀ released, (∃ presented, swapchain.release (some released) = .ok presented) ↔
        ∀ slot age, swapchain.ages[slot]? = some age → slot ≠ released → age ≠ intMax) ∧
    (∀ {swapchain : WaylandEglLayerSwapchain} {history : List Nat}, swapchain.Reachable history →
      AgesCountReleases swapchain.ages history ∧
      ∀ released, (∃ presented, swapchain.release (some released) = .ok presented) ↔
        ∀ slot age, swapchain.ages[slot]? = some age → slot ≠ released → age ≠ intMax) ∧
    ∀ {layer : WaylandEglLayer}, layer.Reachable → ∀ swapchain buffer,
      layer.swapchain = some swapchain → layer.buffer = some buffer →
      swapchain.index = buffer ∧ buffer < swapchain.buffers.length :=
  ⟨fun reachable => ⟨reachable.agesFollow.countReleases,
      fun _ => WaylandQPainterSwapchain.release_ok_iff⟩,
    fun reachable => ⟨reachable.agesFollow.countReleases,
      fun _ => WaylandEglLayerSwapchain.release_ok_iff⟩,
    fun reachable swapchain buffer kept held => by
      obtain ⟨kept', keptEq, atIndex, inBounds⟩ := reachable.bufferAtIndex buffer held
      rw [kept, Option.some.injEq] at keptEq
      exact keptEq ▸ ⟨atIndex, inBounds⟩⟩

/-- The swapchain of an EGL primary layer after one frame, begun and presented. -/
def presentedSwapchain : WaylandEglLayerSwapchain :=
  ⟨⟨1920, 1080⟩, [⟨0⟩, ⟨1⟩], 1⟩

/-- An EGL primary layer after one frame, begun and presented. -/
def presentedOnce : WaylandEglLayer :=
  ⟨some presentedSwapchain, some 1⟩

/-- A QPainter swapchain with two slots, presented in turn: slot 0, then slot 1. -/
def paintedTwice : WaylandQPainterSwapchain :=
  ⟨⟨64, 64⟩, [⟨true, 2⟩, ⟨false, 1⟩]⟩

theorem buffer_ages_count_releases_presentedOnce :
    (paintedTwice.Reachable [1, 0] ∧ AgesCountReleases paintedTwice.ages [1, 0]) ∧
    (presentedSwapchain.Reachable [1] ∧ AgesCountReleases presentedSwapchain.ages [1]) ∧
    (presentedOnce.Reachable ∧ presentedSwapchain.index = 1 ∧
      1 < presentedSwapchain.buffers.length) := by
  have twoSlots :
      ((((WaylandQPainterSwapchain.create ⟨64, 64⟩).acquire true).2.acquire true).2.acquire
        true).2 = ⟨⟨64, 64⟩, [⟨true, 0⟩, ⟨false, 0⟩]⟩ := by
    decide
  have acquired : WaylandQPainterSwapchain.Reachable ⟨⟨64, 64⟩, [⟨true, 0⟩, ⟨false, 0⟩]⟩ [] :=
    twoSlots ▸ .acquire true (.acquire true (.acquire true (.create ⟨64, 64⟩)))
  have paintedOnce : WaylandQPainterSwapchain.Reachable ⟨⟨64, 64⟩, [⟨true, 1⟩, ⟨false, 0⟩]⟩ [0] :=
    .release acquired (by decide) rfl
  have painted : paintedTwice.Reachable [1, 0] := .release paintedOnce (by decide) rfl
  have begun : WaylandEglPrimaryLayer.beginFrame .initial true ⟨1920, 1080⟩ true (fun _ => true)
      true = .ok (some ⟨1, .accumulated 0⟩, ⟨some ⟨⟨1920, 1080⟩, [⟨0⟩, ⟨0⟩], 1⟩, some 1⟩) := rfl
  have layerReachable : presentedOnce.Reachable :=
    .present (.primaryBeginFrame .initial begun) rfl
  have swapchainReachable : presentedSwapchain.Reachable [1] :=
    .release (.acquire (.create ⟨1920, 1080⟩ fun _ => true) rfl) (by decide) rfl
  exact ⟨⟨painted, (buffer_ages_count_releases.1 painted).1⟩,
    ⟨swapchainReachable, (buffer_ages_count_releases.2.1 swapchainReachable).1⟩,
    ⟨layerReachable, buffer_ages_count_releases.2.2 layerReachable _ _ rfl rfl⟩⟩

end Wayland

end KWin
