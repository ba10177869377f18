import KWin.GLPlatform.Detect

/-!
# What `detect` decides

`detect` first picks a driver and a chip class, then runs the cascade of feature blocks, each
of which tests the driver or the chip family and overwrites some members. This module says
what the two stages leave, for every context on which `detect` completes on a new
`GLPlatform`.

The driver tests never pair a driver with a chip of another vendor
(`detect_driverMatchesClass`): every `detect*Class` answers a class of its own vendor's block,
and the branches that set no class keep the constructor's `UnknownChipClass`. The cascade
then reads only the driver, the chip class and the Mesa version, and writes none of them; its
blocks, flattened, give each member it writes as a decision on those. With the first fact,
the recommended compositor is `compositorFor` (`detect_recommendedCompositor`), loose binding
is Mesa on EGL or one of three drivers (`detect_looseBinding`), and buffer sub-data follows the
driver alone (`detect_preferBufferSubData`).
-/

namespace KWin

open Text

namespace ChipClass

theorem le_iff_value {first second : ChipClass} : first ≤ second ↔ first.value ≤ second.value :=
  Iff.rfl

theorem lt_iff_value {first second : ChipClass} : first < second ↔ first.value < second.value :=
  Iff.rfl

/-- The vendor block of a class: `kwinglplatform.h` numbers each vendor's classes from a
multiple of a thousand. -/
def vendorBlock (chipClass : ChipClass) : Nat :=
  chipClass.value / 1000

/-- The family tests ask for a whole vendor block. -/
theorem between_iff_vendorBlock {first last chipClass : ChipClass}
    (aligned : first.value % 1000 = 0) (spans : last.value = first.value + 999) :
    first ≤ chipClass ∧ chipClass ≤ last ↔ chipClass.vendorBlock = first.vendorBlock := by
  rw [le_iff_value, le_iff_value, vendorBlock, vendorBlock]
  omega

theorem radeon_iff_vendorBlock {chipClass : ChipClass} :
    R100 ≤ chipClass ∧ chipClass ≤ UnknownRadeon ↔ chipClass.vendorBlock = 0 :=
  between_iff_vendorBlock rfl rfl

theorem nvidia_iff_vendorBlock {chipClass : ChipClass} :
    NV10 ≤ chipClass ∧ chipClass ≤ UnknownNVidia ↔ chipClass.vendorBlock = 1 :=
  between_iff_vendorBlock rfl rfl

theorem intel_iff_vendorBlock {chipClass : ChipClass} :
    I8XX ≤ chipClass ∧ chipClass ≤ UnknownIntel ↔ chipClass.vendorBlock = 2 :=
  between_iff_vendorBlock rfl rfl

theorem adreno_iff_vendorBlock {chipClass : ChipClass} :
    Adreno1XX ≤ chipClass ∧ chipClass ≤ UnknownAdreno ↔ chipClass.vendorBlock = 3 :=
  between_iff_vendorBlock rfl rfl

theorem panfrost_iff_vendorBlock {chipClass : ChipClass} :
    MaliT7XX ≤ chipClass ∧ chipClass ≤ UnknownPanfrost ↔ chipClass.vendorBlock = 4 :=
  between_iff_vendorBlock rfl rfl

theorem lima_iff_vendorBlock {chipClass : ChipClass} :
    Mali400 ≤ chipClass ∧ chipClass ≤ UnknownLima ↔ chipClass.vendorBlock = 5 :=
  between_iff_vendorBlock rfl rfl

theorem videoCore4_iff_vendorBlock {chipClass : ChipClass} :
    VC4_2_1 ≤ chipClass ∧ chipClass ≤ UnknownVideoCore4 ↔ chipClass.vendorBlock = 6 :=
  between_iff_vendorBlock rfl rfl

theorem videoCore3D_iff_vendorBlock {chipClass : ChipClass} :
    V3D_4_2 ≤ chipClass ∧ chipClass ≤ UnknownVideoCore3D ↔ chipClass.vendorBlock = 7 :=
  between_iff_vendorBlock rfl rfl

/-- The Radeon block's test for R300 lies within its test for R600. -/
theorem lt_R600_of_lt_R300 {chipClass : ChipClass} (below : chipClass < R300) : chipClass < R600 :=
  Nat.lt_trans below (by decide)

/-- `UnknownChipClass` alone has the block of 99999. -/
theorem eq_UnknownChipClass_iff {chipClass : ChipClass} :
    chipClass = UnknownChipClass ↔ chipClass.vendorBlock = 99 := by
  cases chipClass <;> decide

end ChipClass

theorem Driver.lt_iff_value {first second : Driver} : first < second ↔ first.value < second.value :=
  Iff.rfl

/-! ## Each detector answers a class of its vendor -/

/-- A property both branches of an `if` have, the `if` has; the detectors' chains of tests
are closed by it without deciding a test. -/
theorem ite_of_both {α : Type} (property : α → Prop) {test : Prop} [Decidable test]
    {first second : α} (isFirst : property first) (isSecond : property second) :
    property (if test then first else second) := by
  split
  · exact isFirst
  · exact isSecond

theorem classByName_mem {chipset : List Char} {table : List (ChipClass × List String)}
    {chipClass : ChipClass} (found : classByName chipset table = some chipClass) :
    chipClass ∈ table.map Prod.fst := by
  induction table with
  | nil => cases found
  | cons entry rest ih =>
    obtain ⟨first, names⟩ := entry
    simp only [classByName] at found
    split at found
    · cases found
      exact .head _
    · exact .tail _ (ih found)

/-- A lookup whose table and default lie in one block answers a class of the block. -/
theorem between_of_table {first last fallback : ChipClass} {table : List (ChipClass × List String)}
    (chipset : List Char)
    (inBlock : ∀ chipClass ∈ fallback :: table.map Prod.fst, first ≤ chipClass ∧ chipClass ≤ last) :
    first ≤ (classByName chipset table).getD fallback ∧
      (classByName chipset table).getD fallback ≤ last := by
  apply inBlock
  cases found : classByName chipset table with
  | none => exact .head _
  | some chipClass => exact .tail _ (classByName_mem found)

theorem detectRadeonClass_radeon (chipset : List Char) :
    ChipClass.R100 ≤ detectRadeonClass chipset ∧ detectRadeonClass chipset ≤ .UnknownRadeon := by
  unfold detectRadeonClass
  refine ite_of_both (fun chipClass => ChipClass.R100 ≤ chipClass ∧
    chipClass ≤ .UnknownRadeon) (by decide) ?_
  split
  · exact (by decide : ∀ chipClass ∈ radeonNames.map Prod.fst,
      ChipClass.R100 ≤ chipClass ∧ chipClass ≤ .UnknownRadeon) _ (classByName_mem ‹_›)
  · dsimp only
    repeat' refine ite_of_both (fun chipClass => ChipClass.R100 ≤ chipClass ∧
      chipClass ≤ .UnknownRadeon) ?_ ?_
    all_goals decide

theorem nvidiaClass_nvidia (id : Int) :
    ChipClass.NV10 ≤ nvidiaClass id ∧ nvidiaClass id ≤ .UnknownNVidia := by
  unfold nvidiaClass
  split <;> decide

theorem detectNVidiaClass_nvidia (chipset : List Char) :
    ChipClass.NV10 ≤ detectNVidiaClass chipset ∧ detectNVidiaClass chipset ≤ .UnknownNVidia := by
  unfold detectNVidiaClass
  dsimp only
  repeat' refine ite_of_both (fun chipClass => ChipClass.NV10 ≤ chipClass ∧
    chipClass ≤ .UnknownNVidia) ?_ ?_
  all_goals first | exact nvidiaClass_nvidia _ | decide

theorem detectIntelClass_intel (chipset : List Char) :
    ChipClass.I8XX ≤ detectIntelClass chipset ∧ detectIntelClass chipset ≤ .UnknownIntel :=
  between_of_table chipset (by decide)

/-- The Qualcomm detector answers an Adreno class, or no class at all for a renderer
without `Adreno`. -/
theorem detectQualcommClass_adreno (renderer : List Char) :
    ChipClass.Adreno1XX ≤ detectQualcommClass renderer ∧
        detectQualcommClass renderer ≤ .UnknownAdreno ∨
      detectQualcommClass renderer = .UnknownChipClass := by
  unfold detectQualcommClass
  dsimp only
  refine ite_of_both (fun chipClass => ChipClass.Adreno1XX ≤ chipClass ∧
    chipClass ≤ .UnknownAdreno ∨ chipClass = .UnknownChipClass) (.inr rfl) (.inl ?_)
  refine ite_of_both (fun chipClass => ChipClass.Adreno1XX ≤ chipClass ∧
    chipClass ≤ .UnknownAdreno) (by decide) ?_
  split
  · repeat' refine ite_of_both (fun chipClass => ChipClass.Adreno1XX ≤ chipClass ∧
      chipClass ≤ .UnknownAdreno) ?_ ?_
    all_goals decide
  · decide

theorem detectPanfrostClass_panfrost (renderer : List Char) :
    ChipClass.MaliT7XX ≤ detectPanfrostClass renderer ∧
      detectPanfrostClass renderer ≤ .UnknownPanfrost :=
  between_of_table renderer (by decide)

theorem detectLimaClass_lima (renderer : List Char) :
    ChipClass.Mali400 ≤ detectLimaClass renderer ∧ detectLimaClass renderer ≤ .UnknownLima :=
  between_of_table renderer (by decide)

theorem detectVC4Class_videoCore4 (renderer : List Char) :
    ChipClass.VC4_2_1 ≤ detectVC4Class renderer ∧ detectVC4Class renderer ≤ .UnknownVideoCore4 :=
  between_of_table renderer (by decide)

theorem detectV3DClass_videoCore3D (renderer : List Char) :
    ChipClass.V3D_4_2 ≤ detectV3DClass renderer ∧ detectV3DClass renderer ≤ .UnknownVideoCore3D :=
  between_of_table renderer (by decide)

namespace GLPlatform

/-! ## The driver tests pair a driver with its vendor's chips -/

/-- The chip classes `detect` gives with each driver: a class of the driver's vendor, and no
class for the software rasterizers and the virtual machines' drivers. A Mesa Radeon renderer
whose chip name is none of `R100`, `R200`, `R300` and `R600` keeps the driver `Unknown`
with a Radeon class. -/
def driverMatchesClass (platform : GLPlatform) : Bool :=
  match platform.driver with
  | .R100 | .R200 | .R300C | .R300G | .R600C | .R600G | .RadeonSI | .Catalyst => platform.isRadeon
  | .Nouveau | .NVidia => platform.isNvidia
  | .Intel => platform.isIntel
  | .Qualcomm =>
    platform.classBetween .Adreno1XX .UnknownAdreno || platform.chipClass == .UnknownChipClass
  | .Panfrost => platform.isPanfrost
  | .Lima => platform.isLima
  | .VC4 => platform.isVideoCore4
  | .V3D => platform.isVideoCore3D
  | .Swrast | .Softpipe | .Llvmpipe | .VirtualBox | .VMware | .Virgl =>
    platform.chipClass == .UnknownChipClass
  | .Unknown => platform.isRadeon || platform.chipClass == .UnknownChipClass

/-- The Gallium branch's vendor tests answer one of nine pairs. -/
theorem galliumDriver_mem (platform : GLPlatform) (vendor renderer chipset : List Char) :
    galliumDriver platform vendor renderer chipset ∈
      [(.R300G, detectRadeonClass chipset), (.R600G, detectRadeonClass chipset),
        (.RadeonSI, detectRadeonClass renderer), (.Nouveau, detectNVidiaClass chipset),
        (.Softpipe, platform.chipClass), (.Llvmpipe, platform.chipClass),
        (.VMware, platform.chipClass), (.Virgl, platform.chipClass),
        (platform.driver, platform.chipClass)] := by
  unfold galliumDriver
  repeat' refine ite_of_both (· ∈ _) ?_ ?_
  all_goals simp

theorem identifyDriver_matches {platform identified : GLPlatform} {context : OpenGlContext}
    {parseString : List Char → Version} {versionTokens : List (List Char)}
    (unknown : platform.driver = .Unknown) (unclassified : platform.chipClass = .UnknownChipClass)
    (identifies : platform.identifyDriver context parseString versionTokens = some identified) :
    identified.driverMatchesClass = true := by
  dsimp only [identifyDriver] at identifies
  generalize driverBranch context.vendor context.renderer = branch at identifies
  cases branch with
  | mesaRadeon =>
    simp only [bind, pure, Option.bind_eq_some, Option.some.injEq] at identifies
    obtain ⟨_, -, _, -, rfl⟩ := identifies
    split_ifs <;>
      simp [driverMatchesClass, isRadeon, classBetween, detectRadeonClass_radeon, unknown]
  | gallium =>
    simp only [bind, pure, Option.bind_eq_some, Option.some.injEq] at identifies
    obtain ⟨⟨_, chipset⟩, -, rfl⟩ := identifies
    have choice := galliumDriver_mem platform context.vendor context.renderer chipset
    generalize galliumDriver platform context.vendor context.renderer chipset = pair at choice ⊢
    simp only [List.mem_cons, List.mem_singleton, List.not_mem_nil, or_false] at choice
    rcases choice with rfl | rfl | rfl | rfl | rfl | rfl | rfl | rfl | rfl <;>
      simp [driverMatchesClass, isRadeon, isNvidia, classBetween, detectRadeonClass_radeon,
        detectNVidiaClass_nvidia, unknown, unclassified]
  | _ =>
    simp only [bind, pure, Option.bind_eq_some, Option.some.injEq] at identifies
    first | subst identifies | obtain ⟨_, -, rfl⟩ := identifies
    simp [driverMatchesClass, isIntel, isPanfrost, isLima, isVideoCore4, isVideoCore3D,
      isRadeon, isNvidia, classBetween, detectIntelClass_intel, detectPanfrostClass_panfrost,
      detectLimaClass_lima, detectVC4Class_videoCore4, detectV3DClass_videoCore3D,
      detectRadeonClass_radeon, detectNVidiaClass_nvidia, detectQualcommClass_adreno,
      unclassified]

/-! ## What each block leaves

One lemma per block of the cascade says what it leaves in the members the results below read:
it keeps the driver, the chip class and the Mesa version, and writes the recommended
compositor, loose binding and buffer sub-data only as shown. -/

section Blocks

variable (platformInterface : OpenGLPlatformInterface) (context : OpenGlContext)
  (platform : GLPlatform)

@[simp] theorem radeonFeatures_members :
    (radeonFeatures context platform).driver = platform.driver ∧
      (radeonFeatures context platform).chipClass = platform.chipClass ∧
      (radeonFeatures context platform).mesaVersion = platform.mesaVersion ∧
      (radeonFeatures context platform).recommendedCompositor =
        (if platform.isRadeon then
          if platform.chipClass < .R300 then .NoCompositing
          else if platform.chipClass < .R600 then .NoCompositing else .OpenGLCompositing
        else platform.recommendedCompositor) ∧
      (radeonFeatures context platform).looseBinding =
        (if platform.isRadeon then
          if platform.driver = .R600G ∨
              platform.driver = .R600C ∧ contains context.renderer "DRI2".toList = true then true
          else platform.looseBinding
        else platform.looseBinding) ∧
      (radeonFeatures context platform).preferBufferSubData = platform.preferBufferSubData := by
  unfold radeonFeatures
  split <;> exact ⟨rfl, rfl, rfl, rfl, rfl, rfl⟩

@[simp] theorem nvidiaFeatures_members :
    (nvidiaFeatures platform).driver = platform.driver ∧
      (nvidiaFeatures platform).chipClass = platform.chipClass ∧
      (nvidiaFeatures platform).mesaVersion = platform.mesaVersion ∧
      (nvidiaFeatures platform).recommendedCompositor =
        (if platform.isNvidia then
          if platform.chipClass < .NV40 then .NoCompositing else .OpenGLCompositing
        else platform.recommendedCompositor) ∧
      (nvidiaFeatures platform).looseBinding =
        (if platform.isNvidia then if platform.driver = .NVidia then true else platform.looseBinding
        else platform.looseBinding) ∧
      (nvidiaFeatures platform).preferBufferSubData =
        (if platform.isNvidia then
          if platform.driver = .NVidia then true else platform.preferBufferSubData
        else platform.preferBufferSubData) := by
  unfold nvidiaFeatures
  split <;> exact ⟨rfl, rfl, rfl, rfl, rfl, rfl⟩

@[simp] theorem intelFeatures_members :
    (intelFeatures platform).driver = platform.driver ∧
      (intelFeatures platform).chipClass = platform.chipClass ∧
      (intelFeatures platform).mesaVersion = platform.mesaVersion ∧
      (intelFeatures platform).recommendedCompositor =
        (if platform.isIntel then
          if platform.chipClass < .I915 then .NoCompositing else .OpenGLCompositing
        else platform.recommendedCompositor) ∧
      (intelFeatures platform).looseBinding =
        (if platform.isIntel then false else platform.looseBinding) ∧
      (intelFeatures platform).preferBufferSubData = platform.preferBufferSubData := by
  unfold intelFeatures
  split <;> exact ⟨rfl, rfl, rfl, rfl, rfl, rfl⟩

@[simp] theorem recommendWhen_members (applies : GLPlatform → Bool) (compositor : CompositingType) :
    (recommendWhen applies compositor platform).driver = platform.driver ∧
      (recommendWhen applies compositor platform).chipClass = platform.chipClass ∧
      (recommendWhen applies compositor platform).mesaVersion = platform.mesaVersion ∧
      (recommendWhen applies compositor platform).recommendedCompositor =
        (if applies platform then compositor else platform.recommendedCompositor) ∧
      (recommendWhen applies compositor platform).looseBinding = platform.looseBinding ∧
      (recommendWhen applies compositor platform).preferBufferSubData =
        platform.preferBufferSubData := by
  unfold recommendWhen
  split <;> exact ⟨rfl, rfl, rfl, rfl, rfl, rfl⟩

@[simp] theorem limaFeatures_members :
    (limaFeatures platform).driver = platform.driver ∧
      (limaFeatures platform).chipClass = platform.chipClass ∧
      (limaFeatures platform).mesaVersion = platform.mesaVersion ∧
      (limaFeatures platform).recommendedCompositor =
        (if platform.isLima then .OpenGLCompositing else platform.recommendedCompositor) ∧
      (limaFeatures platform).looseBinding = platform.looseBinding ∧
      (limaFeatures platform).preferBufferSubData = platform.preferBufferSubData := by
  unfold limaFeatures
  split <;> exact ⟨rfl, rfl, rfl, rfl, rfl, rfl⟩

@[simp] theorem mesaEglFeatures_members :
    (mesaEglFeatures platformInterface platform).driver = platform.driver ∧
      (mesaEglFeatures platformInterface platform).chipClass = platform.chipClass ∧
      (mesaEglFeatures platformInterface platform).mesaVersion = platform.mesaVersion ∧
      (mesaEglFeatures platformInterface platform).recommendedCompositor =
        platform.recommendedCompositor ∧
      (mesaEglFeatures platformInterface platform).looseBinding =
        (if platform.isMesaDriver ∧ platformInterface = .EglPlatformInterface then true
        else platform.looseBinding) ∧
      (mesaEglFeatures platformInterface platform).preferBufferSubData =
        platform.preferBufferSubData := by
  unfold mesaEglFeatures
  split <;> exact ⟨rfl, rfl, rfl, rfl, rfl, rfl⟩

@[simp] theorem softwareEmulationFeatures_members :
    (softwareEmulationFeatures context platform).driver = platform.driver ∧
      (softwareEmulationFeatures context platform).chipClass = platform.chipClass ∧
      (softwareEmulationFeatures context platform).mesaVersion = platform.mesaVersion ∧
      (softwareEmulationFeatures context platform).recommendedCompositor =
        (if context.isSoftwareRenderer then
          if platform.driver < .Llvmpipe then .QPainterCompositing else .OpenGLCompositing
        else platform.recommendedCompositor) ∧
      (softwareEmulationFeatures context platform).looseBinding = platform.looseBinding ∧
      (softwareEmulationFeatures context platform).preferBufferSubData =
        platform.preferBufferSubData := by
  unfold softwareEmulationFeatures
  split_ifs <;> exact ⟨rfl, rfl, rfl, rfl, rfl, rfl⟩

@[simp] theorem qualcommFeatures_members :
    (qualcommFeatures platform).driver = platform.driver ∧
      (qualcommFeatures platform).chipClass = platform.chipClass ∧
      (qualcommFeatures platform).mesaVersion = platform.mesaVersion ∧
      (qualcommFeatures platform).recommendedCompositor =
        (if platform.driver = .Qualcomm then
          if platform.chipClass = .Adreno1XX then .NoCompositing else .OpenGLCompositing
        else platform.recommendedCompositor) ∧
      (qualcommFeatures platform).looseBinding = platform.looseBinding ∧
      (qualcommFeatures platform).preferBufferSubData = platform.preferBufferSubData := by
  unfold qualcommFeatures
  split <;> exact ⟨rfl, rfl, rfl, rfl, rfl, rfl⟩

@[simp] theorem unknownHardwareFeatures_members :
    (unknownHardwareFeatures platform).driver = platform.driver ∧
      (unknownHardwareFeatures platform).chipClass = platform.chipClass ∧
      (unknownHardwareFeatures platform).mesaVersion = platform.mesaVersion ∧
      (unknownHardwareFeatures platform).recommendedCompositor =
        (if platform.chipClass = .UnknownChipClass ∧ platform.driver = .Unknown then
          .OpenGLCompositing
        else platform.recommendedCompositor) ∧
      (unknownHardwareFeatures platform).looseBinding = platform.looseBinding ∧
      (unknownHardwareFeatures platform).preferBufferSubData = platform.preferBufferSubData := by
  unfold unknownHardwareFeatures
  split <;> exact ⟨rfl, rfl, rfl, rfl, rfl, rfl⟩

@[simp] theorem virtualMachineFeatures_members (driver : Driver) :
    (virtualMachineFeatures driver platform).driver = platform.driver ∧
      (virtualMachineFeatures driver platform).chipClass = platform.chipClass ∧
      (virtualMachineFeatures driver platform).mesaVersion = platform.mesaVersion ∧
      (virtualMachineFeatures driver platform).recommendedCompositor =
        (if platform.driver = driver then .OpenGLCompositing
        else platform.recommendedCompositor) ∧
      (virtualMachineFeatures driver platform).looseBinding = platform.looseBinding ∧
      (virtualMachineFeatures driver platform).preferBufferSubData =
        platform.preferBufferSubData := by
  unfold virtualMachineFeatures
  split <;> exact ⟨rfl, rfl, rfl, rfl, rfl, rfl⟩

@[simp] theorem glesFeatures_members :
    (glesFeatures context platform).driver = platform.driver ∧
      (glesFeatures context platform).chipClass = platform.chipClass ∧
      (glesFeatures context platform).mesaVersion = platform.mesaVersion ∧
      (glesFeatures context platform).recommendedCompositor = platform.recommendedCompositor ∧
      (glesFeatures context platform).looseBinding = platform.looseBinding ∧
      (glesFeatures context platform).preferBufferSubData = platform.preferBufferSubData := by
  unfold glesFeatures
  split <;> exact ⟨rfl, rfl, rfl, rfl, rfl, rfl⟩

/-- The cascade written out, each block applied to what the ones before it left. -/
theorem runBlocks_featureBlocks :
    runBlocks (featureBlocks platformInterface context) platform =
      (glesFeatures context <| virtualMachineFeatures .Virgl <| virtualMachineFeatures .VMware <|
        virtualMachineFeatures .VirtualBox <| unknownHardwareFeatures <| qualcommFeatures <|
        softwareEmulationFeatures context <| mesaEglFeatures platformInterface <|
        recommendWhen isVideoCore3D .QPainterCompositing <|
        recommendWhen isVideoCore4 .QPainterCompositing <| limaFeatures <|
        recommendWhen isPanfrost .OpenGLCompositing <| intelFeatures <| nvidiaFeatures <|
        radeonFeatures context platform) :=
  rfl

end Blocks

/-! ## The cascade, member by member -/

/-- The compositor the hardware gets, as a decision: none for an Adreno 1xx and, on hardware
that is not a software renderer, for the Radeon, NVIDIA and Intel chips below R600, NV40 and
I915; QPainter for the software renderers with a driver below llvmpipe, and on hardware for
the VideoCore chips and the Gallium software drivers; OpenGL otherwise. -/
def compositorFor (platform : GLPlatform) (softwareRenderer : Bool) : CompositingType :=
  if platform.driver = .Qualcomm ∧ platform.chipClass = .Adreno1XX ∨
      softwareRenderer = false ∧ (platform.isRadeon ∧ platform.chipClass < .R600 ∨
        platform.isNvidia ∧ platform.chipClass < .NV40 ∨
        platform.isIntel ∧ platform.chipClass < .I915) then .NoCompositing
  else if softwareRenderer ∧ platform.driver < .Llvmpipe ∨
      softwareRenderer = false ∧ (platform.isVideoCore4 ∨ platform.isVideoCore3D ∨
        platform.driver = .Swrast ∨ platform.driver = .Softpipe ∨ platform.driver = .Llvmpipe) then
    .QPainterCompositing
  else .OpenGLCompositing

theorem runBlocks_recommendedCompositor (platformInterface : OpenGLPlatformInterface)
    (context : OpenGlContext) {platform : GLPlatform}
    (paired : platform.driverMatchesClass = true)
    (start : platform.recommendedCompositor = .QPainterCompositing) :
    (runBlocks (featureBlocks platformInterface context) platform).recommendedCompositor =
      platform.compositorFor context.isSoftwareRenderer := by
  simp [runBlocks_featureBlocks, start]
  unfold compositorFor driverMatchesClass at *
  simp only [isRadeon, isNvidia, isIntel, isPanfrost, isLima, isVideoCore4, isVideoCore3D,
    classBetween, decide_eq_true_eq, Bool.or_eq_true, beq_iff_eq,
    ChipClass.radeon_iff_vendorBlock, ChipClass.nvidia_iff_vendorBlock,
    ChipClass.intel_iff_vendorBlock, ChipClass.adreno_iff_vendorBlock,
    ChipClass.panfrost_iff_vendorBlock, ChipClass.lima_iff_vendorBlock,
    ChipClass.videoCore4_iff_vendorBlock, ChipClass.videoCore3D_iff_vendorBlock,
    ChipClass.eq_UnknownChipClass_iff, Driver.lt_iff_value] at paired ⊢
  cases driver : platform.driver <;>
    simp only [driver, reduceCtorEq, Driver.value, decide_eq_true_eq, Bool.or_eq_true,
      beq_iff_eq, ChipClass.eq_UnknownChipClass_iff] at paired ⊢
  all_goals
    (try rcases paired with paired | paired) <;>
    cases context.isSoftwareRenderer <;> simp [paired] <;>
    intro below <;> simp [ChipClass.lt_R600_of_lt_R300 below]

/-- The blocks read the driver, the chip class and the Mesa version, and write none of
them. -/
theorem runBlocks_identity (platformInterface : OpenGLPlatformInterface) (context : OpenGlContext)
    (platform : GLPlatform) :
    (runBlocks (featureBlocks platformInterface context) platform).driver = platform.driver ∧
      (runBlocks (featureBlocks platformInterface context) platform).chipClass = platform.chipClass ∧
      (runBlocks (featureBlocks platformInterface context) platform).mesaVersion =
        platform.mesaVersion := by
  simp [runBlocks_featureBlocks]

/-- Only the NVIDIA block asks for buffer sub-data, and only for the NVIDIA driver. -/
theorem runBlocks_preferBufferSubData (platformInterface : OpenGLPlatformInterface)
    (context : OpenGlContext) {platform : GLPlatform}
    (paired : platform.driverMatchesClass = true) (start : platform.preferBufferSubData = false) :
    (runBlocks (featureBlocks platformInterface context) platform).preferBufferSubData = true ↔
      platform.driver = .NVidia := by
  simp [runBlocks_featureBlocks, isNvidia, classBetween, start]
  by_cases nvidia : platform.driver = .NVidia
  · have range : ChipClass.NV10 ≤ platform.chipClass ∧ platform.chipClass ≤ .UnknownNVidia := by
      simpa [driverMatchesClass, nvidia, isNvidia, classBetween] using paired
    simp [nvidia, range]
  · simp [nvidia]

/-- The Radeon and NVIDIA blocks bind loosely for three drivers, the Intel block binds
strictly, and the Mesa EGL block, which comes after them, binds loosely for any Mesa driver on
EGL. -/
theorem runBlocks_looseBinding (platformInterface : OpenGLPlatformInterface)
    (context : OpenGlContext) {platform : GLPlatform}
    (paired : platform.driverMatchesClass = true) (start : platform.looseBinding = false) :
    (runBlocks (featureBlocks platformInterface context) platform).looseBinding = true ↔
      platform.isMesaDriver = true ∧ platformInterface = .EglPlatformInterface ∨
        platform.driver = .NVidia ∨ platform.driver = .R600G ∨
        platform.driver = .R600C ∧ contains context.renderer "DRI2".toList = true := by
  have nvidia : platform.driver = .NVidia → platform.chipClass.vendorBlock = 1 := fun driver => by
    simpa [driverMatchesClass, driver, isNvidia, classBetween, ChipClass.nvidia_iff_vendorBlock]
      using paired
  have radeon : platform.driver = .R600G ∨ platform.driver = .R600C →
      platform.chipClass.vendorBlock = 0 := by
    rintro (driver | driver) <;>
      simpa [driverMatchesClass, driver, isRadeon, classBetween, ChipClass.radeon_iff_vendorBlock]
        using paired
  simp [runBlocks_featureBlocks, isRadeon, isNvidia, isIntel, isMesaDriver, classBetween, start,
    ChipClass.intel_iff_vendorBlock, ChipClass.nvidia_iff_vendorBlock,
    ChipClass.radeon_iff_vendorBlock]
  by_cases isNVidia : platform.driver = .NVidia
  · simp [isNVidia, nvidia isNVidia]
  by_cases isR600G : platform.driver = .R600G
  · simp [isR600G, radeon (.inl isR600G)]
  by_cases isR600C : platform.driver = .R600C
  · simp [isR600C, radeon (.inr isR600C)]
  · simp [isNVidia, isR600G, isR600C]

theorem driverMatchesClass_congr {platform other : GLPlatform}
    (driver : platform.driver = other.driver) (chipClass : platform.chipClass = other.chipClass) :
    platform.driverMatchesClass = other.driverMatchesClass := by
  simp only [driverMatchesClass, isRadeon, isNvidia, isIntel, isPanfrost, isLima, isVideoCore4,
    isVideoCore3D, classBetween, driver, chipClass]

theorem compositorFor_congr {platform other : GLPlatform}
    (driver : platform.driver = other.driver) (chipClass : platform.chipClass = other.chipClass)
    (softwareRenderer : Bool) :
    platform.compositorFor softwareRenderer = other.compositorFor softwareRenderer := by
  simp only [compositorFor, isRadeon, isNvidia, isIntel, isVideoCore4, isVideoCore3D,
    classBetween, driver, chipClass]

/-! ## After `detect` -/

/-- The NVIDIA driver on a GeForce FX 5200, a chip below NV40. -/
def geforceFX5200 : OpenGlContext where
  vendor := "NVIDIA Corporation".toList
  renderer := "GeForce FX 5200/AGP/SSE2".toList
  openglVersionString := "2.1.2 NVIDIA 173.14.39".toList
  isOpenglES := false
  isSoftwareRenderer := false
  hasVersion30 := false
  indexedExtensions := []
  extensionsString := "GL_ARB_shader_objects GL_ARB_fragment_shader GL_ARB_vertex_shader".toList

theorem detect_geforceFX5200_isSome :
    (create.detect .GlxPlatformInterface geforceFX5200 fun _ => ⟨173, 14, 39⟩).isSome := by
  decide

theorem detect_geforceFX5200 :
    create.detect .GlxPlatformInterface geforceFX5200 (fun _ => ⟨173, 14, 39⟩) =
      some ((create.detect .GlxPlatformInterface geforceFX5200 fun _ => ⟨173, 14, 39⟩).get
        detect_geforceFX5200_isSome) :=
  (Option.some_get _).symm

/-- A `detect` that completes on a new `GLPlatform` runs the cascade on what the driver tests
identified, which pairs its driver with its vendor's chips and keeps the constructor's
compositor and flags. -/
theorem detect_eq_runBlocks {platformInterface : OpenGLPlatformInterface}
    {context : OpenGlContext} {parseString : List Char → Version} {platform : GLPlatform}
    (detected : create.detect platformInterface context parseString = some platform) :
    ∃ identified : GLPlatform, identified.driverMatchesClass = true ∧
      identified.recommendedCompositor = .QPainterCompositing ∧
      identified.looseBinding = false ∧ identified.preferBufferSubData = false ∧
      identified.virtualMachine = false ∧
      platform = runBlocks (featureBlocks platformInterface context) identified := by
  simp only [detect, bind, pure, Option.bind_eq_some, Option.some.injEq] at detected
  obtain ⟨_, -, identified, identifies, rfl⟩ := detected
  have paired := identifyDriver_matches rfl rfl identifies
  obtain ⟨_, _, _, _, _, rfl⟩ := identifyDriver_frame identifies
  exact ⟨_, paired, rfl, rfl, rfl, rfl, rfl⟩

/-- After a `detect` that completes on a new `GLPlatform`, the driver and the chip class
belong together. -/
theorem detect_driverMatchesClass {platformInterface : OpenGLPlatformInterface}
    {context : OpenGlContext} {parseString : List Char → Version} {platform : GLPlatform}
    (detected : create.detect platformInterface context parseString = some platform) :
    platform.driverMatchesClass = true := by
  obtain ⟨identified, paired, -, -, -, -, rfl⟩ := detect_eq_runBlocks detected
  obtain ⟨driver, chipClass, -⟩ := runBlocks_identity platformInterface context identified
  rwa [driverMatchesClass_congr driver chipClass]

theorem detect_driverMatchesClass_geforceFX5200 :
    ∃ platform, create.detect .GlxPlatformInterface geforceFX5200 (fun _ => ⟨173, 14, 39⟩) =
      some platform ∧ platform.driverMatchesClass = true :=
  ⟨_, detect_geforceFX5200, detect_driverMatchesClass detect_geforceFX5200⟩

/-- After a `detect` that completes on a new `GLPlatform`, the recommended compositor is
`compositorFor` of its driver and chip class. -/
theorem detect_recommendedCompositor {platformInterface : OpenGLPlatformInterface}
    {context : OpenGlContext} {parseString : List Char → Version} {platform : GLPlatform}
    (detected : create.detect platformInterface context parseString = some platform) :
    platform.recommendedCompositor = platform.compositorFor context.isSoftwareRenderer := by
  obtain ⟨identified, paired, start, -, -, -, rfl⟩ := detect_eq_runBlocks detected
  obtain ⟨driver, chipClass, -⟩ := runBlocks_identity platformInterface context identified
  rw [runBlocks_recommendedCompositor platformInterface context paired start,
    compositorFor_congr driver chipClass]

theorem detect_recommendedCompositor_geforceFX5200 :
    ∃ platform, create.detect .GlxPlatformInterface geforceFX5200 (fun _ => ⟨173, 14, 39⟩) =
      some platform ∧
      platform.recommendedCompositor = platform.compositorFor geforceFX5200.isSoftwareRenderer :=
  ⟨_, detect_geforceFX5200, detect_recommendedCompositor detect_geforceFX5200⟩

set_option maxRecDepth 10000 in
example : ((create.detect .GlxPlatformInterface geforceFX5200 fun _ => ⟨173, 14, 39⟩).get
    detect_geforceFX5200_isSome).recommendedCompositor = .NoCompositing := by
  decide

/-- After a `detect` that completes on a new `GLPlatform`, textures are bound loosely exactly
for a Mesa driver on EGL, the NVIDIA driver, r600g, and r600c on a DRI2 renderer. -/
theorem detect_looseBinding {platformInterface : OpenGLPlatformInterface}
    {context : OpenGlContext} {parseString : List Char → Version} {platform : GLPlatform}
    (detected : create.detect platformInterface context parseString = some platform) :
    platform.supports .LooseBinding = true ↔
      platform.isMesaDriver = true ∧ platformInterface = .EglPlatformInterface ∨
        platform.driver = .NVidia ∨ platform.driver = .R600G ∨
        platform.driver = .R600C ∧ contains context.renderer "DRI2".toList = true := by
  obtain ⟨identified, paired, -, start, -, -, rfl⟩ := detect_eq_runBlocks detected
  obtain ⟨driver, -, mesaVersion⟩ := runBlocks_identity platformInterface context identified
  rw [supports, runBlocks_looseBinding platformInterface context paired start, isMesaDriver,
    isMesaDriver, driver, mesaVersion]

theorem detect_looseBinding_geforceFX5200 :
    ∃ platform, create.detect .GlxPlatformInterface geforceFX5200 (fun _ => ⟨173, 14, 39⟩) =
      some platform ∧ (platform.supports .LooseBinding = true ↔
        platform.isMesaDriver = true ∧
            OpenGLPlatformInterface.GlxPlatformInterface = .EglPlatformInterface ∨
          platform.driver = .NVidia ∨ platform.driver = .R600G ∨
          platform.driver = .R600C ∧ contains geforceFX5200.renderer "DRI2".toList = true) :=
  ⟨_, detect_geforceFX5200, detect_looseBinding detect_geforceFX5200⟩

/-- After a `detect` that completes on a new `GLPlatform`, buffer sub-data is preferred
exactly for the NVIDIA driver. -/
theorem detect_preferBufferSubData {platformInterface : OpenGLPlatformInterface}
    {context : OpenGlContext} {parseString : List Char → Version} {platform : GLPlatform}
    (detected : create.detect platformInterface context parseString = some platform) :
    platform.preferBufferSubData = true ↔ platform.driver = .NVidia := by
  obtain ⟨identified, paired, -, -, start, -, rfl⟩ := detect_eq_runBlocks detected
  obtain ⟨driver, -, -⟩ := runBlocks_identity platformInterface context identified
  rw [runBlocks_preferBufferSubData platformInterface context paired start, driver]

theorem detect_preferBufferSubData_geforceFX5200 :
    ∃ platform, create.detect .GlxPlatformInterface geforceFX5200 (fun _ => ⟨173, 14, 39⟩) =
      some platform ∧ (platform.preferBufferSubData = true ↔ platform.driver = .NVidia) :=
  ⟨_, detect_geforceFX5200, detect_preferBufferSubData detect_geforceFX5200⟩

end GLPlatform

end KWin
