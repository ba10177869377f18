import KWin.GLPlatform.ChipClass

/-!
# `GLPlatform::detect`

`GLPlatform::detect` (`kwinglplatform.cpp`) reads the vendor, renderer and version strings
and the extensions of the current OpenGL context. It picks the driver and the chip class
from them in a chain of tests, and then sets the feature flags in a cascade of blocks, one
per driver or chip family. The context and `Version::parseString` are outside `src/`; the
model takes what they answer as arguments.

`detect` reads words of the version and renderer strings with `QList::at`, and reads some
of them out of range for strings a driver may report (`detect_eq_none_iff`): a version
string whose first `Mesa`, `NVIDIA` or `Chromium` is its last word, an ATI version string of
two words or with an empty third word, a `Mesa DRI R` renderer of three words, a Gallium
renderer of fewer than four.

Whatever the strings, a `detect` that completes leaves `m_limitedGLSL → m_supportsGLSL` and
`m_limitedNPOT → m_textureNPOT`: each block of the cascade keeps the two from any state, and
the constructor starts with both limits off (`detect_flags_consistent`).
-/

namespace KWin

open Text

/-- `Driver` of `kwinglplatform.h`, in the order of its declaration, which
`driverToString8` follows. -/
inductive Driver where
  | R100 | R200 | R300C | R300G | R600C | R600G | RadeonSI | Nouveau | Intel | NVidia
  | Catalyst | Swrast | Softpipe | Llvmpipe | VirtualBox | VMware | Qualcomm | Virgl
  | Panfrost | Lima | VC4 | V3D | Unknown
  deriving DecidableEq, Repr

namespace Driver

/-- The position of a driver in the declaration of `Driver`. -/
def value : Driver → Nat
  | R100 => 0 | R200 => 1 | R300C => 2 | R300G => 3 | R600C => 4 | R600G => 5 | RadeonSI => 6
  | Nouveau => 7 | Intel => 8 | NVidia => 9 | Catalyst => 10 | Swrast => 11 | Softpipe => 12
  | Llvmpipe => 13 | VirtualBox => 14 | VMware => 15 | Qualcomm => 16 | Virgl => 17
  | Panfrost => 18 | Lima => 19 | VC4 => 20 | V3D => 21 | Unknown => 22

instance : LT Driver := ⟨fun first second => first.value < second.value⟩

instance (first second : Driver) : Decidable (first < second) :=
  inferInstanceAs (Decidable (first.value < second.value))

end Driver

/-- `CompositingType`. -/
inductive CompositingType where
  | NoCompositing | OpenGLCompositing | QPainterCompositing
  deriving DecidableEq, Repr

/-- `OpenGLPlatformInterface`. -/
inductive OpenGLPlatformInterface where
  | NoOpenGLPlatformInterface | GlxPlatformInterface | EglPlatformInterface
  deriving DecidableEq, Repr

/-- The features `GLPlatform::supports` answers for. -/
inductive GLFeature where
  | LooseBinding | GLSL | LimitedGLSL | TextureNPOT | LimitedNPOT | PackInvert
  deriving DecidableEq, Repr

/-- `Version`, by its three numbers. -/
structure Version where
  major : Nat
  minor : Nat
  patch : Nat
  deriving DecidableEq, Repr

/-- `Version::isValid()`, from `version.cpp`, which is not under `src/`: a version other
than `0.0.0`. -/
def Version.isValid (version : Version) : Bool :=
  version.major != 0 || version.minor != 0 || version.patch != 0

/-- What `detect` asks of its `OpenGlContext` and of the driver behind it. -/
structure OpenGlContext where
  vendor : List Char
  renderer : List Char
  openglVersionString : List Char
  isOpenglES : Bool
  isSoftwareRenderer : Bool
  /-- `hasVersion(Version(3, 0))`. -/
  hasVersion30 : Bool
  /-- `glGetStringi(GL_EXTENSIONS, i)` for each `i` below `GL_NUM_EXTENSIONS`. -/
  indexedExtensions : List (List Char)
  /-- `glGetString(GL_EXTENSIONS)`. -/
  extensionsString : List Char
  deriving DecidableEq, Repr

/-- The members of `GLPlatform` that `detect` writes and the modelled functions read. -/
structure GLPlatform where
  platformInterface : OpenGLPlatformInterface
  extensions : List (List Char)
  mesaVersion : Version
  galliumVersion : Version
  driverVersion : Version
  chipset : List Char
  driver : Driver
  chipClass : ChipClass
  recommendedCompositor : CompositingType
  looseBinding : Bool
  supportsGLSL : Bool
  limitedGLSL : Bool
  textureNPOT : Bool
  limitedNPOT : Bool
  packInvert : Bool
  virtualMachine : Bool
  preferBufferSubData : Bool
  deriving DecidableEq, Repr

namespace GLPlatform

/-- `GLPlatform()`; the members it leaves to their default constructors are `0.0.0` and
empty. -/
def create : GLPlatform where
  platformInterface := .NoOpenGLPlatformInterface
  extensions := []
  mesaVersion := ⟨0, 0, 0⟩
  galliumVersion := ⟨0, 0, 0⟩
  driverVersion := ⟨0, 0, 0⟩
  chipset := []
  driver := .Unknown
  chipClass := .UnknownChipClass
  recommendedCompositor := .QPainterCompositing
  looseBinding := false
  supportsGLSL := false
  limitedGLSL := false
  textureNPOT := false
  limitedNPOT := false
  packInvert := false
  virtualMachine := false
  preferBufferSubData := false

/-- `supports(feature)`. -/
def supports (platform : GLPlatform) : GLFeature → Bool
  | .LooseBinding => platform.looseBinding
  | .GLSL => platform.supportsGLSL
  | .LimitedGLSL => platform.limitedGLSL
  | .TextureNPOT => platform.textureNPOT
  | .LimitedNPOT => platform.limitedNPOT
  | .PackInvert => platform.packInvert

/-- The chip class lies in the block from `first` to `last`, as `isRadeon()` and the other
family tests ask. -/
def classBetween (platform : GLPlatform) (first last : ChipClass) : Bool :=
  decide (first ≤ platform.chipClass ∧ platform.chipClass ≤ last)

/-- `isRadeon()`. -/
def isRadeon (platform : GLPlatform) : Bool :=
  platform.classBetween .R100 .UnknownRadeon

/-- `isNvidia()`. -/
def isNvidia (platform : GLPlatform) : Bool :=
  platform.classBetween .NV10 .UnknownNVidia

/-- `isIntel()`. -/
def isIntel (platform : GLPlatform) : Bool :=
  platform.classBetween .I8XX .UnknownIntel

/-- `isPanfrost()`. -/
def isPanfrost (platform : GLPlatform) : Bool :=
  platform.classBetween .MaliT7XX .UnknownPanfrost

/-- `isLima()`. -/
def isLima (platform : GLPlatform) : Bool :=
  platform.classBetween .Mali400 .UnknownLima

/-- `isVideoCore4()`. -/
def isVideoCore4 (platform : GLPlatform) : Bool :=
  platform.classBetween .VC4_2_1 .UnknownVideoCore4

/-- `isVideoCore3D()`. -/
def isVideoCore3D (platform : GLPlatform) : Bool :=
  platform.classBetween .V3D_4_2 .UnknownVideoCore3D

/-- `isMesaDriver()`. -/
def isMesaDriver (platform : GLPlatform) : Bool :=
  platform.mesaVersion.isValid

/-! ## Versions and the driver tests -/

/-- `m_mesaVersion`: the word after the first `Mesa` of the version string, parsed. -/
def mesaVersionOf (platform : GLPlatform) (parseString : List Char → Version)
    (versionTokens : List (List Char)) : Option Version :=
  let mesaIndex := indexOf "Mesa".toList versionTokens
  if mesaIndex ≠ -1 then parseString <$> listAt versionTokens (mesaIndex + 1)
  else pure platform.mesaVersion

/-- The driver version of the NVIDIA and the VirtualBox branch: the word after the first
`word` of the version string, parsed. -/
def versionAfter (parseString : List Char → Version) (versionTokens : List (List Char))
    (word : String) : Option Version :=
  let index := indexOf word.toList versionTokens
  if (versionTokens.length : Int) > index then parseString <$> listAt versionTokens (index + 1)
  else pure ⟨0, 0, 0⟩

/-- The driver version of the ATI branch: the second word of the version string when the
third starts with `(`, and the first otherwise. -/
def catalystDriverVersion (parseString : List Char → Version)
    (versionTokens : List (List Char)) : Option Version := do
  let parenthesized ← if versionTokens.length > 1 then
      (listAt versionTokens 2).bind fun token => (byteAt token 0).map (· == '(')
    else pure false
  if parenthesized then parseString <$> listAt versionTokens 1
  else if versionTokens.length > 0 then parseString <$> listAt versionTokens 0
  else pure ⟨0, 0, 0⟩

/-- The branches of `detect`'s chain of driver tests, in its order. -/
inductive DriverBranch where
  | mesaRadeon | intel | catalyst | nvidia | qualcomm | panfrost | lima | videoCore4
  | videoCore3D | softwareRasterizer | virtualBox | gallium
  deriving DecidableEq, Repr

/-- The branch of the chain of driver tests that the vendor and renderer strings select. -/
def driverBranch (vendor renderer : List Char) : DriverBranch :=
  if startsWith renderer "Mesa DRI R".toList then .mesaRadeon
  else if contains renderer "Intel".toList then .intel
  else if vendor = "ATI Technologies Inc.".toList then .catalyst
  else if vendor = "NVIDIA Corporation".toList then .nvidia
  else if vendor = "Qualcomm".toList then .qualcomm
  else if contains renderer "Panfrost".toList then .panfrost
  else if contains renderer "Mali".toList then .lima
  else if startsWith renderer "VC4 ".toList then .videoCore4
  else if startsWith renderer "V3D ".toList then .videoCore3D
  else if renderer = "Software Rasterizer".toList then .softwareRasterizer
  else if vendor = "Humper".toList ∧ renderer = "Chromium".toList then .virtualBox
  else .gallium

/-- The names that make an `X.Org` Gallium renderer an `R600G` one. -/
def r600gNames : List String :=
  ["R6", "R7", "RV6", "RV7", "RS780", "RS880", "CEDAR", "REDWOOD", "JUNIPER", "CYPRESS",
    "HEMLOCK", "PALM", "EVERGREEN", "SUMO", "SUMO2", "BARTS", "TURKS", "CAICOS", "CAYMAN"]

/-- The names that make an `X.Org` or `AMD` Gallium renderer a `RadeonSI` one. -/
def radeonSINames : List String :=
  ["TAHITI", "PITCAIRN", "VERDE", "OLAND", "HAINAN", "BONAIRE", "KAVERI", "KABINI", "HAWAII",
    "MULLINS", "TOPAZ", "TONGA", "FIJI", "CARRIZO", "STONEY", "POLARIS10", "POLARIS11",
    "POLARIS12", "VEGAM", "VEGA10", "VEGA12", "VEGA20", "RAVEN", "RAVEN2", "RENOIR", "ARCTURUS",
    "NAVI10", "NAVI12", "NAVI14"]

/-- The renderer contains one of `names`. -/
def containsAny (renderer : List Char) (names : List String) : Bool :=
  names.any fun name => contains renderer name.toList

/-- The Gallium version and the chipset the Gallium branch reads from the renderer's words:
`Gallium 0.4 on AMD RV740`, or a renderer whose first word is the chipset. -/
def galliumChipset (parseString : List Char → Version) (renderer : List Char) :
    Option (Version × List Char) := do
  let tokens := split ' ' renderer
  if contains renderer "Gallium".toList then
    let versionToken ← listAt tokens 1
    let third ← listAt tokens 3
    let chipset ← if third = "AMD".toList ∨ third = "ATI".toList then listAt tokens 4
      else listAt tokens 3
    pure (parseString versionToken, chipset)
  else
    let first ← listAt tokens 0
    pure (⟨0, 4, 0⟩, first)

/-- The driver and chip class the vendor tests of the Gallium branch set. -/
def galliumDriver (platform : GLPlatform) (vendor renderer chipset : List Char) :
    Driver × ChipClass :=
  if vendor = "X.Org R300 Project".toList then (.R300G, detectRadeonClass chipset)
  else if vendor = "X.Org".toList ∧ containsAny renderer r600gNames then
    (.R600G, detectRadeonClass chipset)
  else if (vendor = "X.Org".toList ∨ vendor = "AMD".toList) ∧ containsAny renderer radeonSINames then
    (.RadeonSI, detectRadeonClass renderer)
  else if vendor = "nouveau".toList then (.Nouveau, detectNVidiaClass chipset)
  else if chipset = "softpipe".toList then (.Softpipe, platform.chipClass)
  else if chipset = "llvmpipe".toList then (.Llvmpipe, platform.chipClass)
  else if vendor = "VMware, Inc.".toList ∧ contains chipset "SVGA3D".toList then
    (.VMware, platform.chipClass)
  else if renderer = "virgl".toList then (.Virgl, platform.chipClass)
  else (platform.driver, platform.chipClass)

/-- The chain of driver tests: the driver, chip class, chipset and versions the selected
branch sets. -/
def identifyDriver (platform : GLPlatform) (context : OpenGlContext)
    (parseString : List Char → Version) (versionTokens : List (List Char)) :
    Option GLPlatform :=
  let renderer := context.renderer
  match driverBranch context.vendor renderer with
  | .mesaRadeon => do
    let tokens := split ' ' renderer
    let chipName ← listAt tokens 2
    let chipset := (← listAt tokens 3).drop 1
    let driver := if chipName = "R100".toList then .R100
      else if chipName = "R200".toList then .R200
      else if chipName = "R300".toList then .R300C
      else if chipName = "R600".toList then .R600C
      else platform.driver
    pure { platform with chipset, driver, chipClass := detectRadeonClass chipset }
  | .intel =>
    let chipset := if startsWith renderer "Intel(R) Integrated Graphics Device".toList then
      "IGD".toList else renderer
    pure { platform with driver := .Intel, chipClass := detectIntelClass chipset }
  | .catalyst => do
    let driverVersion ← catalystDriverVersion parseString versionTokens
    pure { platform with
      chipClass := detectRadeonClass renderer, driver := .Catalyst, driverVersion }
  | .nvidia => do
    let driverVersion ← versionAfter parseString versionTokens "NVIDIA"
    pure { platform with
      chipClass := detectNVidiaClass renderer, driver := .NVidia, driverVersion }
  | .qualcomm => pure { platform with driver := .Qualcomm, chipClass := detectQualcommClass renderer }
  | .panfrost => pure { platform with driver := .Panfrost, chipClass := detectPanfrostClass renderer }
  | .lima => pure { platform with driver := .Lima, chipClass := detectLimaClass renderer }
  | .videoCore4 => pure { platform with driver := .VC4, chipClass := detectVC4Class renderer }
  | .videoCore3D => pure { platform with driver := .V3D, chipClass := detectV3DClass renderer }
  | .softwareRasterizer => pure { platform with driver := .Swrast }
  | .virtualBox => do
    let driverVersion ← versionAfter parseString versionTokens "Chromium"
    pure { platform with driver := .VirtualBox, driverVersion }
  | .gallium => do
    let (galliumVersion, chipset) ← galliumChipset parseString renderer
    let (driver, chipClass) := galliumDriver platform context.vendor renderer chipset
    pure { platform with galliumVersion, chipset, driver, chipClass }

/-! ## Driver and GPU specific features -/

/-- The Radeon block, by the value it leaves in each member. -/
def radeonFeatures (context : OpenGlContext) (platform : GLPlatform) : GLPlatform :=
  if platform.isRadeon then
    let supportsGLSL := if platform.chipClass < .R300 then false else platform.supportsGLSL
    let belowR600 := platform.chipClass < .R600
    { platform with
      supportsGLSL
      limitedGLSL := if belowR600 then supportsGLSL else false
      textureNPOT := if belowR600 ∧ platform.driver = .Catalyst then false else platform.textureNPOT
      limitedNPOT := if belowR600 ∧ platform.driver = .R300G then platform.textureNPOT else false
      recommendedCompositor :=
        if platform.chipClass < .R300 then .NoCompositing
        else if belowR600 then .NoCompositing
        else .OpenGLCompositing
      looseBinding :=
        if platform.driver = .R600G ∨
            (platform.driver = .R600C ∧ contains context.renderer "DRI2".toList) then true
        else platform.looseBinding }
  else platform

/-- The NVIDIA block. -/
def nvidiaFeatures (platform : GLPlatform) : GLPlatform :=
  if platform.isNvidia then
    let supportsGLSL :=
      if platform.driver = .NVidia ∧ platform.chipClass < .NV40 then false
      else platform.supportsGLSL
    { platform with
      supportsGLSL
      looseBinding := if platform.driver = .NVidia then true else platform.looseBinding
      preferBufferSubData :=
        if platform.driver = .NVidia then true else platform.preferBufferSubData
      recommendedCompositor :=
        if platform.chipClass < .NV40 then .NoCompositing else .OpenGLCompositing
      limitedNPOT := platform.textureNPOT && decide (platform.chipClass < .NV40)
      limitedGLSL := supportsGLSL && decide (platform.chipClass < .G80) }
  else platform

/-- The Intel block. -/
def intelFeatures (platform : GLPlatform) : GLPlatform :=
  if platform.isIntel then
    let supportsGLSL := if platform.chipClass < .I915 then false else platform.supportsGLSL
    { platform with
      supportsGLSL
      limitedGLSL := supportsGLSL && decide (platform.chipClass < .I965)
      looseBinding := false
      recommendedCompositor :=
        if platform.chipClass < .I915 then .NoCompositing else .OpenGLCompositing }
  else platform

/-- A block that only recommends `compositor` when `applies` holds: the Panfrost,
VideoCore IV and VideoCore 3D blocks. -/
def recommendWhen (applies : GLPlatform → Bool) (compositor : CompositingType)
    (platform : GLPlatform) : GLPlatform :=
  if applies platform then { platform with recommendedCompositor := compositor } else platform

/-- The Lima block. -/
def limaFeatures (platform : GLPlatform) : GLPlatform :=
  if platform.isLima then
    { platform with recommendedCompositor := .OpenGLCompositing, supportsGLSL := true }
  else platform

/-- The block for Mesa's EGL, which binds loosely. -/
def mesaEglFeatures (platformInterface : OpenGLPlatformInterface) (platform : GLPlatform) :
    GLPlatform :=
  if platform.isMesaDriver ∧ platformInterface = .EglPlatformInterface then
    { platform with looseBinding := true }
  else platform

/-- The software emulation block. -/
def softwareEmulationFeatures (context : OpenGlContext) (platform : GLPlatform) : GLPlatform :=
  if context.isSoftwareRenderer then
    if platform.driver < .Llvmpipe then
      { platform with
        recommendedCompositor := .QPainterCompositing, limitedGLSL := false, supportsGLSL := false }
    else
      { platform with
        recommendedCompositor := .OpenGLCompositing, limitedGLSL := false, supportsGLSL := true }
  else platform

/-- The Qualcomm block. -/
def qualcommFeatures (platform : GLPlatform) : GLPlatform :=
  if platform.driver = .Qualcomm then
    { platform with recommendedCompositor :=
        if platform.chipClass = .Adreno1XX then .NoCompositing else .OpenGLCompositing }
  else platform

/-- The block for hardware nothing recognised. -/
def unknownHardwareFeatures (platform : GLPlatform) : GLPlatform :=
  if platform.chipClass = .UnknownChipClass ∧ platform.driver = .Unknown then
    { platform with recommendedCompositor := .OpenGLCompositing, supportsGLSL := true }
  else platform

/-- The block of a virtual machine's driver: VirtualBox, VMware and virgl. -/
def virtualMachineFeatures (driver : Driver) (platform : GLPlatform) : GLPlatform :=
  if platform.driver = driver then
    { platform with virtualMachine := true, recommendedCompositor := .OpenGLCompositing }
  else platform

/-- The OpenGL ES block, which forces shaders back on. -/
def glesFeatures (context : OpenGlContext) (platform : GLPlatform) : GLPlatform :=
  if context.isOpenglES then { platform with supportsGLSL := true, limitedGLSL := false }
  else platform

/-- The blocks of "Driver/GPU specific features", in their order. -/
def featureBlocks (platformInterface : OpenGLPlatformInterface) (context : OpenGlContext) :
    List (GLPlatform → GLPlatform) :=
  [radeonFeatures context, nvidiaFeatures, intelFeatures,
    recommendWhen isPanfrost .OpenGLCompositing, limaFeatures,
    recommendWhen isVideoCore4 .QPainterCompositing,
    recommendWhen isVideoCore3D .QPainterCompositing, mesaEglFeatures platformInterface,
    softwareEmulationFeatures context, qualcommFeatures, unknownHardwareFeatures,
    virtualMachineFeatures .VirtualBox, virtualMachineFeatures .VMware,
    virtualMachineFeatures .Virgl, glesFeatures context]

/-- The platform after `blocks`, run in order. -/
def runBlocks (blocks : List (GLPlatform → GLPlatform)) (platform : GLPlatform) : GLPlatform :=
  blocks.foldl (fun platform block => block platform) platform

/-! ## `detect` -/

/-- `detect(platformInterface)` on `platform`, with `context` as `m_context` and
`parseString` as `Version::parseString`. `none` is an out-of-range read. On an OpenGL 3
context the indexed extensions are inserted into `m_extensions`; otherwise `m_extensions`
becomes the words of the extension string. -/
def detect (platform : GLPlatform) (platformInterface : OpenGLPlatformInterface)
    (context : OpenGlContext) (parseString : List Char → Version) : Option GLPlatform := do
  let extensions := if !context.isOpenglES && context.hasVersion30 then
      platform.extensions ++ context.indexedExtensions
    else split ' ' context.extensionsString
  let versionTokens := split ' ' context.openglVersionString
  let mesaVersion ← mesaVersionOf platform parseString versionTokens
  let identified ← identifyDriver
    { platform with
      platformInterface, extensions, mesaVersion
      supportsGLSL := context.isOpenglES ||
        (extensions.contains "GL_ARB_shader_objects".toList &&
          extensions.contains "GL_ARB_fragment_shader".toList &&
          extensions.contains "GL_ARB_vertex_shader".toList)
      textureNPOT := context.isOpenglES ||
        extensions.contains "GL_ARB_texture_non_power_of_two".toList
      chipset := "Unknown".toList
      preferBufferSubData := false
      packInvert := extensions.contains "GL_MESA_pack_invert".toList }
    context parseString versionTokens
  pure (runBlocks (featureBlocks platformInterface context) identified)

/-! ## Out-of-range reads -/

/-- The first `word` among `tokens` is the last token, so the token after it is out of
range. -/
def firstIsLast (word : String) (tokens : List (List Char)) : Bool :=
  decide (indexOf word.toList tokens + 1 = tokens.length)

/-- The renderer has too few words for the Gallium branch, which reads the second and the
fourth word, and the fifth when the fourth is `AMD` or `ATI`. -/
def galliumTooShort (renderer : List Char) : Bool :=
  let tokens := split ' ' renderer
  contains renderer "Gallium".toList &&
    decide (tokens.length ≤ 3 ∨ tokens.length = 4 ∧
      (tokens[3]? = some "AMD".toList ∨ tokens[3]? = some "ATI".toList))

/-- The branch of the driver tests the context selects reads a word out of range. -/
def branchReadsOutOfRange (context : OpenGlContext) (versionTokens : List (List Char)) : Bool :=
  match driverBranch context.vendor context.renderer with
  | .mesaRadeon => decide ((split ' ' context.renderer).length ≤ 3)
  | .catalyst => decide (versionTokens.length = 2 ∨
      2 < versionTokens.length ∧ versionTokens[2]? = some [])
  | .nvidia => firstIsLast "NVIDIA" versionTokens
  | .virtualBox => firstIsLast "Chromium" versionTokens
  | .gallium => galliumTooShort context.renderer
  | _ => false

/-- `detect` reads a word out of range: the word after the first `Mesa` of the version
string, or a word its driver branch reads. -/
def readsOutOfRange (context : OpenGlContext) : Bool :=
  let versionTokens := split ' ' context.openglVersionString
  firstIsLast "Mesa" versionTokens || branchReadsOutOfRange context versionTokens

/-- A read followed by `pure` fails exactly when the read does. -/
theorem bind_some_eq_none {α β : Type} {read : Option α} {after : α → β} :
    (read.bind fun value => some (after value)) = none ↔ read = none := by
  cases read <;> simp

theorem mesaVersionOf_eq_none_iff (platform : GLPlatform) (parseString : List Char → Version)
    {versionTokens : List (List Char)} (nonempty : versionTokens ≠ []) :
    platform.mesaVersionOf parseString versionTokens = none ↔
      firstIsLast "Mesa" versionTokens = true := by
  dsimp only [mesaVersionOf]
  rw [firstIsLast, decide_eq_true_iff]
  split_ifs with found
  · simp only [Option.map_eq_map, Option.map_eq_none', listAt_indexOf_add_one_eq_none_iff _ nonempty]
  · have positive : 0 < versionTokens.length := List.length_pos.mpr nonempty
    simp only [ne_eq, not_not] at found
    simp only [found, pure, reduceCtorEq, false_iff]
    omega

theorem versionAfter_eq_none_iff (parseString : List Char → Version)
    {versionTokens : List (List Char)} (word : String) (nonempty : versionTokens ≠ []) :
    versionAfter parseString versionTokens word = none ↔ firstIsLast word versionTokens = true := by
  unfold versionAfter
  rw [if_pos (indexOf_bounds _ _).2, firstIsLast, decide_eq_true_iff]
  simp only [Option.map_eq_map, Option.map_eq_none', listAt_indexOf_add_one_eq_none_iff _ nonempty]

/-- The ATI branch reads the third word when there are at least two, and its first byte. -/
theorem catalystDriverVersion_eq_none_iff (parseString : List Char → Version)
    {versionTokens : List (List Char)} (nonempty : versionTokens ≠ []) :
    catalystDriverVersion parseString versionTokens = none ↔
      versionTokens.length = 2 ∨ 2 < versionTokens.length ∧ versionTokens[2]? = some [] := by
  match versionTokens, nonempty with
  | [_], _ => simp [catalystDriverVersion, listAt]
  | [_, _], _ => simp [catalystDriverVersion, listAt]
  | _ :: _ :: third :: _, _ =>
    cases third with
    | nil => simp [catalystDriverVersion, listAt, byteAt]
    | cons c _ => by_cases c = '(' <;> simp [catalystDriverVersion, listAt, byteAt, *]

theorem galliumChipset_eq_none_iff (parseString : List Char → Version) (renderer : List Char) :
    galliumChipset parseString renderer = none ↔ galliumTooShort renderer = true := by
  have nonempty := split_ne_nil ' ' renderer
  unfold galliumChipset galliumTooShort
  generalize split ' ' renderer = tokens at nonempty ⊢
  cases contains renderer "Gallium".toList with
  | false =>
    obtain ⟨first, rest, rfl⟩ := List.exists_cons_of_ne_nil nonempty
    simp [listAt]
  | true =>
    match tokens with
    | [] | [_] | [_, _] | [_, _, _] => simp [listAt]
    | [_, _, _, _] => simp [listAt, or_iff_not_imp_left]
    | _ :: _ :: _ :: _ :: _ :: _ =>
      simp [listAt]
      split <;> simp

theorem identifyDriver_eq_none_iff (platform : GLPlatform) (context : OpenGlContext)
    (parseString : List Char → Version) {versionTokens : List (List Char)}
    (nonempty : versionTokens ≠ []) :
    platform.identifyDriver context parseString versionTokens = none ↔
      branchReadsOutOfRange context versionTokens = true := by
  dsimp only [identifyDriver, branchReadsOutOfRange]
  generalize driverBranch context.vendor context.renderer = branch
  cases branch with
  | mesaRadeon =>
    generalize split ' ' context.renderer = tokens
    match tokens with
    | [] | [_] | [_, _] | [_, _, _] => simp [listAt]
    | _ :: _ :: _ :: _ :: _ => simp [listAt]
  | catalyst =>
    simp [bind_some_eq_none, -Option.bind_eq_none, catalystDriverVersion_eq_none_iff _ nonempty]
  | nvidia | virtualBox =>
    simp [bind_some_eq_none, -Option.bind_eq_none, versionAfter_eq_none_iff _ _ nonempty]
  | gallium => simp [bind_some_eq_none, -Option.bind_eq_none, galliumChipset_eq_none_iff]
  | _ => simp

/-- `detect` fails, from any state and whatever the platform interface and the parsed
versions, exactly on the contexts whose strings it reads out of range. -/
theorem detect_eq_none_iff (platform : GLPlatform) (platformInterface : OpenGLPlatformInterface)
    (context : OpenGlContext) (parseString : List Char → Version) :
    platform.detect platformInterface context parseString = none ↔
      readsOutOfRange context = true := by
  have nonempty := split_ne_nil ' ' context.openglVersionString
  unfold detect readsOutOfRange
  cases found : platform.mesaVersionOf parseString (split ' ' context.openglVersionString) with
  | none => simp [found, (mesaVersionOf_eq_none_iff _ _ nonempty).1 found]
  | some _ =>
    have notLast := (mesaVersionOf_eq_none_iff platform parseString nonempty).not.1 (by simp [found])
    simp [bind_some_eq_none, -Option.bind_eq_none, found, notLast,
      identifyDriver_eq_none_iff _ _ _ nonempty]

/-- An ATI context whose version string has two words. -/
def twoWordCatalyst : OpenGlContext where
  vendor := "ATI Technologies Inc.".toList
  renderer := "ATI Radeon HD 4800 Series".toList
  openglVersionString := "2.1.8087 Release".toList
  isOpenglES := false
  isSoftwareRenderer := false
  hasVersion30 := false
  indexedExtensions := []
  extensionsString := "GL_ARB_shader_objects GL_ARB_fragment_shader GL_ARB_vertex_shader".toList

theorem detect_eq_none_iff_twoWordCatalyst :
    readsOutOfRange twoWordCatalyst = true ∧
      create.detect .GlxPlatformInterface twoWordCatalyst (fun _ => ⟨2, 1, 0⟩) = none :=
  have reads : readsOutOfRange twoWordCatalyst = true := by decide
  ⟨reads, (detect_eq_none_iff create .GlxPlatformInterface twoWordCatalyst _).2 reads⟩

/-! ## The limits imply the features -/

/-- `supports(LimitedGLSL)` implies `supports(GLSL)`, and `supports(LimitedNPOT)` implies
`supports(TextureNPOT)`. -/
structure FlagsConsistent (platform : GLPlatform) : Prop where
  glsl : platform.limitedGLSL = true → platform.supportsGLSL = true
  npot : platform.limitedNPOT = true → platform.textureNPOT = true

theorem FlagsConsistent.of_limits_off {platform : GLPlatform}
    (glsl : platform.limitedGLSL = false) (npot : platform.limitedNPOT = false) :
    FlagsConsistent platform :=
  ⟨fun limited => absurd (glsl ▸ limited) Bool.false_ne_true,
    fun limited => absurd (npot ▸ limited) Bool.false_ne_true⟩

/-- A block of the cascade that keeps the flags consistent from any state. -/
def KeepsConsistent (block : GLPlatform → GLPlatform) : Prop :=
  ∀ platform, FlagsConsistent platform → FlagsConsistent (block platform)

/-- Every block is `if (test) { ... }`: it keeps the flags when its body does. -/
theorem consistent_ite {test : Prop} [Decidable test] {platform changed : GLPlatform}
    (consistent : FlagsConsistent platform) (body : test → FlagsConsistent changed) :
    FlagsConsistent (if test then changed else platform) := by
  split
  · exact body ‹_›
  · exact consistent

/-- The Radeon block turns each limit off, or sets it to the feature it limits. -/
theorem radeonFeatures_keeps (context : OpenGlContext) : KeepsConsistent (radeonFeatures context) :=
  fun platform consistent => consistent_ite consistent fun _ => by
    constructor <;> dsimp only <;> split_ifs <;> simp_all [consistent.npot]

/-- The NVIDIA block computes each limit as the feature and a test on the class. -/
theorem nvidiaFeatures_keeps : KeepsConsistent nvidiaFeatures :=
  fun platform consistent => consistent_ite consistent fun _ => by constructor <;> simp_all

theorem intelFeatures_keeps : KeepsConsistent intelFeatures :=
  fun platform consistent => consistent_ite consistent fun _ => ⟨by simp_all, consistent.npot⟩

/-- The blocks that write neither a feature nor a limit. -/
theorem recommendWhen_keeps (applies : GLPlatform → Bool) (compositor : CompositingType) :
    KeepsConsistent (recommendWhen applies compositor) :=
  fun _ consistent => consistent_ite consistent fun _ => ⟨consistent.glsl, consistent.npot⟩

theorem mesaEglFeatures_keeps (platformInterface : OpenGLPlatformInterface) :
    KeepsConsistent (mesaEglFeatures platformInterface) :=
  fun _ consistent => consistent_ite consistent fun _ => ⟨consistent.glsl, consistent.npot⟩

theorem qualcommFeatures_keeps : KeepsConsistent qualcommFeatures :=
  fun _ consistent => consistent_ite consistent fun _ => ⟨consistent.glsl, consistent.npot⟩

theorem virtualMachineFeatures_keeps (driver : Driver) :
    KeepsConsistent (virtualMachineFeatures driver) :=
  fun _ consistent => consistent_ite consistent fun _ => ⟨consistent.glsl, consistent.npot⟩

/-- The blocks that turn shaders on. -/
theorem limaFeatures_keeps : KeepsConsistent limaFeatures :=
  fun _ consistent => consistent_ite consistent fun _ => ⟨fun _ => rfl, consistent.npot⟩

theorem unknownHardwareFeatures_keeps : KeepsConsistent unknownHardwareFeatures :=
  fun _ consistent => consistent_ite consistent fun _ => ⟨fun _ => rfl, consistent.npot⟩

/-- The blocks that turn the shader limit off. -/
theorem softwareEmulationFeatures_keeps (context : OpenGlContext) :
    KeepsConsistent (softwareEmulationFeatures context) :=
  fun _ consistent => consistent_ite consistent fun _ => by
    split
    · exact ⟨nofun, consistent.npot⟩
    · exact ⟨nofun, consistent.npot⟩

theorem glesFeatures_keeps (context : OpenGlContext) : KeepsConsistent (glesFeatures context) :=
  fun _ consistent => consistent_ite consistent fun _ => ⟨nofun, consistent.npot⟩

theorem featureBlocks_keep (platformInterface : OpenGLPlatformInterface) (context : OpenGlContext) :
    ∀ block ∈ featureBlocks platformInterface context, KeepsConsistent block := by
  simp only [featureBlocks, List.forall_mem_cons, List.not_mem_nil, false_implies, implies_true,
    and_true]
  exact ⟨radeonFeatures_keeps context, nvidiaFeatures_keeps, intelFeatures_keeps,
    recommendWhen_keeps _ _, limaFeatures_keeps, recommendWhen_keeps _ _, recommendWhen_keeps _ _,
    mesaEglFeatures_keeps platformInterface, softwareEmulationFeatures_keeps context,
    qualcommFeatures_keeps, unknownHardwareFeatures_keeps, virtualMachineFeatures_keeps _,
    virtualMachineFeatures_keeps _, virtualMachineFeatures_keeps _, glesFeatures_keeps context⟩

/-- A run of blocks that each keep the flags consistent keeps them consistent. -/
theorem runBlocks_keeps {blocks : List (GLPlatform → GLPlatform)}
    (keep : ∀ block ∈ blocks, KeepsConsistent block) : KeepsConsistent (runBlocks blocks) := by
  induction blocks with
  | nil => exact fun _ consistent => consistent
  | cons block blocks ih =>
    intro platform consistent
    exact ih (fun later mem => keep later (.tail _ mem)) _ (keep block (.head _) _ consistent)

/-- The driver tests write the chipset, the driver, the chip class and the two versions, and
no other member. -/
theorem identifyDriver_frame {platform identified : GLPlatform} {context : OpenGlContext}
    {parseString : List Char → Version} {versionTokens : List (List Char)}
    (identifies : platform.identifyDriver context parseString versionTokens = some identified) :
    ∃ chipset driver chipClass galliumVersion driverVersion,
      identified = { platform with chipset, driver, chipClass, galliumVersion, driverVersion } := by
  dsimp only [identifyDriver] at identifies
  split at identifies <;> simp only [bind, pure, Option.bind_eq_some, Option.some.injEq] at identifies
  all_goals first
    | subst identifies
    | obtain ⟨⟨_, _⟩, -, rfl⟩ := identifies
    | obtain ⟨_, -, _, -, rfl⟩ := identifies
  all_goals exact ⟨_, _, _, _, _, rfl⟩

/-- After a `detect` that completes on a new `GLPlatform`, neither limit is reported for a
feature that is absent. -/
theorem detect_flags_consistent {platformInterface : OpenGLPlatformInterface}
    {context : OpenGlContext} {parseString : List Char → Version} {platform : GLPlatform}
    (detected : create.detect platformInterface context parseString = some platform) :
    (platform.supports .LimitedGLSL = true → platform.supports .GLSL = true) ∧
      (platform.supports .LimitedNPOT = true → platform.supports .TextureNPOT = true) := by
  suffices consistent : FlagsConsistent platform from ⟨consistent.glsl, consistent.npot⟩
  simp only [detect, bind, pure, Option.bind_eq_some, Option.some.injEq] at detected
  obtain ⟨_, -, identified, identifies, rfl⟩ := detected
  obtain ⟨_, _, _, _, _, rfl⟩ := identifyDriver_frame identifies
  exact runBlocks_keeps (featureBlocks_keep platformInterface context) _ (.of_limits_off rfl rfl)

/-- A Catalyst context on an R500-class chip: the Radeon block limits GLSL. -/
def catalystX1600 : OpenGlContext where
  vendor := "ATI Technologies Inc.".toList
  renderer := "ATI Radeon X1600".toList
  openglVersionString := "2.1.8087 Compatibility Profile Context".toList
  isOpenglES := false
  isSoftwareRenderer := false
  hasVersion30 := false
  indexedExtensions := []
  extensionsString := "GL_ARB_shader_objects GL_ARB_fragment_shader GL_ARB_vertex_shader".toList

theorem detect_flags_consistent_catalystX1600 :
    ∃ platform, create.detect .GlxPlatformInterface catalystX1600 (fun _ => ⟨2, 1, 0⟩) =
        some platform ∧ platform.supports .LimitedGLSL = true ∧
      (platform.supports .LimitedGLSL = true → platform.supports .GLSL = true) ∧
      (platform.supports .LimitedNPOT = true → platform.supports .TextureNPOT = true) :=
  have detected : create.detect .GlxPlatformInterface catalystX1600 (fun _ => ⟨2, 1, 0⟩) =
      some ((create.detect .GlxPlatformInterface catalystX1600 fun _ => ⟨2, 1, 0⟩).get (by decide)) :=
    (Option.some_get _).symm
  ⟨_, detected, by decide, detect_flags_consistent detected⟩

end GLPlatform

end KWin
