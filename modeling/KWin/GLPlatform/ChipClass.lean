import KWin.GLPlatform.Text

/-!
# Chip classes

`kwinglplatform.cpp` sorts the GPU into one of the `ChipClass`es of `kwinglplatform.h`, a
block of classes per vendor, from the renderer string or the chipset name found in it. Most
`detect*Class` functions test for chip names in a fixed order; here each one is a table of
names, in that order, looked up by `classByName`. `detectRadeonClass` and
`detectNVidiaClass` then try regular expressions and read a number out of the match.

`detectRadeonClass` reads its number from the match. `detectNVidiaClass` does not: once
`\bNV[0-9,A-F]{2}\b` matches, it reads the whole chipset string from its third character
as a hexadecimal number. That is the chip id only when the string is the bare `NVxy` token;
otherwise `toInt` fails, and the id 0 makes every such chip an `NV10`
(`detectNVidiaClass_of_nvToken`).
-/

namespace KWin

open Text

/-- `ChipClass` of `kwinglplatform.h`. -/
inductive ChipClass where
  | R100 | R200 | R300 | R400 | R500 | R600 | R700 | Evergreen | NorthernIslands
  | SouthernIslands | SeaIslands | VolcanicIslands | ArcticIslands | Vega | Navi | UnknownRadeon
  | NV10 | NV20 | NV30 | NV40 | G80 | GF100 | UnknownNVidia
  | I8XX | I915 | I965 | SandyBridge | IvyBridge | Haswell | BayTrail | Cherryview | Broadwell
  | ApolloLake | Skylake | GeminiLake | KabyLake | CoffeeLake | WhiskeyLake | CometLake
  | CannonLake | IceLake | TigerLake | UnknownIntel
  | Adreno1XX | Adreno2XX | Adreno3XX | Adreno4XX | Adreno5XX | UnknownAdreno
  | MaliT7XX | MaliT8XX | MaliGXX | UnknownPanfrost
  | Mali400 | Mali450 | Mali470 | UnknownLima
  | VC4_2_1 | UnknownVideoCore4
  | V3D_4_2 | UnknownVideoCore3D
  | UnknownChipClass
  deriving DecidableEq, Repr

namespace ChipClass

/-- The value `kwinglplatform.h` gives each class. Each vendor has a block of a thousand,
its classes in order from the block's start and its unknown class at the block's end. -/
def value : ChipClass → Nat
  | R100 => 0 | R200 => 1 | R300 => 2 | R400 => 3 | R500 => 4 | R600 => 5 | R700 => 6
  | Evergreen => 7 | NorthernIslands => 8 | SouthernIslands => 9 | SeaIslands => 10
  | VolcanicIslands => 11 | ArcticIslands => 12 | Vega => 13 | Navi => 14 | UnknownRadeon => 999
  | NV10 => 1000 | NV20 => 1001 | NV30 => 1002 | NV40 => 1003 | G80 => 1004 | GF100 => 1005
  | UnknownNVidia => 1999
  | I8XX => 2000 | I915 => 2001 | I965 => 2002 | SandyBridge => 2003 | IvyBridge => 2004
  | Haswell => 2005 | BayTrail => 2006 | Cherryview => 2007 | Broadwell => 2008
  | ApolloLake => 2009 | Skylake => 2010 | GeminiLake => 2011 | KabyLake => 2012
  | CoffeeLake => 2013 | WhiskeyLake => 2014 | CometLake => 2015 | CannonLake => 2016
  | IceLake => 2017 | TigerLake => 2018 | UnknownIntel => 2999
  | Adreno1XX => 3000 | Adreno2XX => 3001 | Adreno3XX => 3002 | Adreno4XX => 3003
  | Adreno5XX => 3004 | UnknownAdreno => 3999
  | MaliT7XX => 4000 | MaliT8XX => 4001 | MaliGXX => 4002 | UnknownPanfrost => 4999
  | Mali400 => 5000 | Mali450 => 5001 | Mali470 => 5002 | UnknownLima => 5999
  | VC4_2_1 => 6000 | UnknownVideoCore4 => 6999
  | V3D_4_2 => 7000 | UnknownVideoCore3D => 7999
  | UnknownChipClass => 99999

instance : LT ChipClass := ⟨fun first second => first.value < second.value⟩

instance : LE ChipClass := ⟨fun first second => first.value ≤ second.value⟩

instance (first second : ChipClass) : Decidable (first < second) :=
  inferInstanceAs (Decidable (first.value < second.value))

instance (first second : ChipClass) : Decidable (first ≤ second) :=
  inferInstanceAs (Decidable (first.value ≤ second.value))

end ChipClass

/-- The first class of `table` one of whose names occurs in `chipset`. -/
def classByName (chipset : List Char) : List (ChipClass × List String) → Option ChipClass
  | [] => none
  | (chipClass, names) :: rest =>
    if names.any fun name => contains chipset name.toList then some chipClass
    else classByName chipset rest

/-- `QString::toInt()`, with 0 for a failed conversion. -/
def decimalValue (text : List Char) : Int :=
  (toInt isSpace 10 text).getD 0

/-! ## Radeon -/

/-- The chip names `detectRadeonClass` tests, class by class. -/
def radeonNames : List (ChipClass × List String) := [
  (.R100, ["R100", "RV100", "RS100"]),
  (.R200, ["RV200", "RS200", "R200", "RV250", "RS300", "RV280"]),
  (.R300, ["R300", "R350", "R360", "RV350", "RV370", "RV380"]),
  (.R400, ["R420", "R423", "R430", "R480", "R481", "RV410", "RS400", "RC410", "RS480", "RS482",
    "RS600", "RS690", "RS740"]),
  (.R500, ["RV515", "R520", "RV530", "R580", "RV560", "RV570"]),
  (.R600, ["R600", "RV610", "RV630", "RV670", "RV620", "RV635", "RS780", "RS880"]),
  (.R700, ["R700", "RV770", "RV730", "RV710", "RV740"]),
  (.Evergreen, ["EVERGREEN", "CEDAR", "REDWOOD", "JUNIPER", "CYPRESS", "HEMLOCK", "PALM"]),
  (.NorthernIslands, ["SUMO", "SUMO2", "BARTS", "TURKS", "CAICOS", "CAYMAN"]),
  (.SouthernIslands, ["TAHITI", "PITCAIRN", "VERDE", "OLAND", "HAINAN"]),
  (.SeaIslands, ["BONAIRE", "KAVERI", "KABINI", "HAWAII", "MULLINS"]),
  (.VolcanicIslands, ["TONGA", "TOPAZ", "FIJI", "CARRIZO", "STONEY"]),
  (.ArcticIslands, ["POLARIS10", "POLARIS11", "POLARIS12", "VEGAM"]),
  (.Vega, ["VEGA10", "VEGA12", "VEGA20", "RAVEN", "RAVEN2", "RENOIR", "ARCTURUS"]),
  (.Navi, ["NAVI10", "NAVI12", "NAVI14"])]

/-- `HD [0-9]{4}`. -/
def hdPattern : Regex :=
  .chain [.literal "HD ".toList, Regex.digit.times 4]

/-- `X[0-9]{3,4}`. -/
def xPattern : Regex :=
  .chain [.char 'X', Regex.digit.times 3, Regex.digit.optional]

/-- `\b[0-9]{4}\b`. -/
def fourDigitsPattern : Regex :=
  .chain [.wordBoundary, Regex.digit.times 4, .wordBoundary]

/-- `detectRadeonClass(chipset)`. -/
def detectRadeonClass (chipset : List Char) : ChipClass :=
  if chipset.isEmpty then .UnknownRadeon
  else match classByName chipset radeonNames with
  | some chipClass => chipClass
  | none =>
    let name := extract chipset hdPattern
    if !name.isEmpty then
      let id := decimalValue (right 4 name)
      if id = 6250 ∨ id = 6310 then .Evergreen
      else if 6000 ≤ id ∧ id < 7000 then .NorthernIslands
      else if 5000 ≤ id ∧ id < 6000 then .Evergreen
      else if 4000 ≤ id ∧ id < 5000 then .R700
      else if 2000 ≤ id ∧ id < 4000 then .R600
      else .UnknownRadeon
    else
      let name := extract chipset xPattern
      if !name.isEmpty then
        let id := decimalValue (name.drop 1)
        if 1300 ≤ id then .R500
        else if (700 ≤ id ∧ id < 1000) ∨ 1200 ≤ id then .R400
        else if (300 ≤ id ∧ id < 700) ∨ (1000 ≤ id ∧ id < 1200) then .R300
        else .UnknownRadeon
      else
        let name := extract chipset fourDigitsPattern
        if !name.isEmpty then
          let id := decimalValue name
          if 7000 ≤ id ∧ id < 8000 then .R100
          else if 8000 ≤ id ∧ id < 9500 then .R200
          else if 9500 ≤ id then .R300
          else if id = 2100 then .R400
          else .UnknownRadeon
        else .UnknownRadeon

/-! ## NVIDIA -/

/-- The characters of `[0-9,A-F]`, the comma included. -/
def nvDigits : List Char :=
  "0123456789,ABCDEF".toList

/-- `\bNV[0-9,A-F]{2}\b`. -/
def nvPattern : Regex :=
  .chain [.wordBoundary, .literal "NV".toList, (Regex.symbol (· ∈ nvDigits)).times 2, .wordBoundary]

/-- `GeForce (FX |PCX |Go )?\d{4}(M|\b)`. -/
def geforceFourDigitsPattern : Regex :=
  .chain [.literal "GeForce ".toList,
    (Regex.alt (.literal "FX ".toList) (.alt (.literal "PCX ".toList) (.literal "Go ".toList))).optional,
    Regex.digit.times 4, .alt (.char 'M') .wordBoundary]

/-- `GeForce (G |GT |GTX |GTS )?\d{3}(M|\b)`. -/
def geforceThreeDigitsPattern : Regex :=
  .chain [.literal "GeForce ".toList,
    (Regex.alt (.literal "G ".toList) (.alt (.literal "GT ".toList)
      (.alt (.literal "GTX ".toList) (.literal "GTS ".toList)))).optional,
    Regex.digit.times 3, .alt (.char 'M') .wordBoundary]

/-- The GeForce4 models that `detectNVidiaClass` counts as `NV10`. -/
def geforce4NV10Names : List String :=
  ["MX 420", "MX 440", "MX 460", "MX 4000", "PCX 4300"]

/-- `switch (id & 0xf0)` of `detectNVidiaClass`. On an `int`, `& 0xf0` keeps the second
hexadecimal digit of its two's complement, which is `(id mod 256) / 16`. -/
def nvidiaClass (id : Int) : ChipClass :=
  match (id % 256).toNat / 16 with
  | 0 | 1 => .NV10
  | 2 => .NV20
  | 3 => .NV30
  | 4 | 6 => .NV40
  | 5 | 8 | 9 | 10 => .G80
  | _ => .UnknownNVidia

/-- `if (!name[name.length() - 1].isDigit()) name.chop(1);`. -/
def chopNonDigit (name : List Char) : List Char :=
  if name.getLast?.all Char.isDigit then name else name.dropLast

/-- `detectNVidiaClass(chipset)`. -/
def detectNVidiaClass (chipset : List Char) : ChipClass :=
  if !(extract chipset nvPattern).isEmpty then
    nvidiaClass ((toInt isSpace 16 (chipset.drop 2)).getD 0)
  else if contains chipset "GeForce2".toList || contains chipset "GeForce 256".toList then .NV10
  else if contains chipset "GeForce3".toList then .NV20
  else if contains chipset "GeForce4".toList then
    if geforce4NV10Names.any fun name => contains chipset name.toList then .NV10 else .NV20
  else
    let name := trimmed (extract chipset geforceFourDigitsPattern)
    if !name.isEmpty then
      let id := decimalValue (right 4 (chopNonDigit name))
      if id < 6000 then .NV30
      else if 6000 ≤ id ∧ id < 8000 then .NV40
      else if 8000 ≤ id then .G80
      else .UnknownNVidia
    else
      let name := trimmed (extract chipset geforceThreeDigitsPattern)
      if !name.isEmpty then
        let id := decimalValue (right 3 (chopNonDigit name))
        if 100 ≤ id ∧ id < 600 then (if 400 ≤ id then .GF100 else .G80)
        else .UnknownNVidia
      else .UnknownNVidia

theorem nvDigit_facts : ∀ c ∈ nvDigits, isSpace c = false ∧ c ≠ '-' ∧ c ≠ '+' ∧ c ≠ 'x' ∧
    c ≠ 'X' ∧ (c ≠ ',' → Regex.isWordChar (some c) = true) := by
  decide

/-- After the token's two digits, text that is not whitespace stops the hexadecimal parse:
either the second digit is the comma the pattern admits, or the word boundary puts a
character that is no hexadecimal digit right after it. -/
theorem digitsValue_nvToken_trailing {high low : Char} {rest : List Char}
    (lowDigit : low ∈ nvDigits)
    (boundary : Regex.isWordChar (some low) ≠ Regex.isWordChar rest.head?)
    (trailing : trimEnd isSpace rest ≠ []) :
    digitsValue 16 (high :: low :: trimEnd isSpace rest) = none := by
  obtain ⟨-, -, -, -, -, lowWord⟩ := nvDigit_facts low lowDigit
  obtain ⟨next, later, trimmedRest⟩ := List.exists_cons_of_ne_nil trailing
  have isHead : rest.head? = some next := by rw [← head?_trimEnd trailing, trimmedRest]; rfl
  have stops : ∃ c ∈ high :: low :: next :: later, digitValue 16 c = none := by
    by_cases comma : low = ','
    · exact ⟨low, by simp, by rw [comma]; rfl⟩
    · refine ⟨next, by simp, ?_⟩
      rw [isHead, lowWord comma] at boundary
      cases digit : digitValue 16 next with
      | none => rfl
      | some value =>
        exact absurd (isWordChar_of_digitValue (by simp [digit])) (Ne.symm boundary)
  obtain ⟨c, mem, notDigit⟩ := stops
  rw [trimmedRest, digitsValue, if_neg (List.cons_ne_nil _ _),
    digitsValueFrom_eq_none mem notDigit]

/-- `toInt` of the text after `NV` in a chipset that starts with the token: the two
digits, when only whitespace follows them. -/
theorem toInt_nvToken {high low : Char} {rest : List Char} (highDigit : high ∈ nvDigits)
    (lowDigit : low ∈ nvDigits)
    (boundary : Regex.isWordChar (some low) ≠ Regex.isWordChar rest.head?) :
    toInt isSpace 16 (high :: low :: rest) =
      (if rest.all isSpace then digitsValue 16 [high, low] else none).map Int.ofNat := by
  obtain ⟨highSpace, highMinus, highPlus, -, -, -⟩ := nvDigit_facts high highDigit
  obtain ⟨lowSpace, -, -, lowX, lowCapitalX, -⟩ := nvDigit_facts low lowDigit
  have trimmedToken : trim isSpace (high :: low :: rest) = high :: low :: trimEnd isSpace rest := by
    rw [trim, List.dropWhile_cons_of_neg (by simp [highSpace]), trimEnd_cons_of_not highSpace,
      trimEnd_cons_of_not lowSpace]
  simp only [toInt, trimmedToken, stripSign_cons ⟨highMinus, highPlus⟩, ↓reduceIte,
    stripHexPrefix_cons_cons ⟨lowX, lowCapitalX⟩, Bool.false_eq_true]
  by_cases spaces : rest.all isSpace = true
  · rw [trimEnd_eq_nil_iff.mpr (List.all_eq_true.mp spaces), if_pos spaces]
    cases read : digitsValue 16 [high, low] with
    | none => rfl
    | some value =>
      have small := digitsValue_pair_lt read
      simp only [Option.some_bind, Option.map_some']
      rw [if_pos ⟨by omega, by omega⟩]
      rfl
  · have trailing : trimEnd isSpace rest ≠ [] :=
      fun empty => spaces (List.all_eq_true.mpr (trimEnd_eq_nil_iff.mp empty))
    rw [if_neg spaces, Option.map_none', digitsValue_nvToken_trailing lowDigit boundary trailing]
    rfl

theorem matchedPrefix_nvPattern {start : Option Char} {text found : List Char}
    (matched : nvPattern.matchedPrefix start text = some found) :
    ∃ high low rest, text = 'N' :: 'V' :: high :: low :: rest ∧ high ∈ nvDigits ∧
      low ∈ nvDigits ∧ Regex.isWordChar (some low) ≠ Regex.isWordChar rest.head? := by
  simp only [Regex.matchedPrefix, nvPattern, Regex.chain, Regex.literal, Regex.times,
    Regex.char, Regex.matchHere_seq, Regex.matchHere_wordBoundary, Regex.matchHere_empty,
    Option.map_eq_some'] at matched
  obtain ⟨rest', matched, -⟩ := matched
  match text, matched with
  | n :: v :: high :: low :: rest, matched =>
    simp only [Regex.matchHere_symbol_cons] at matched
    split_ifs at matched with _ isN isV highDigit lowDigit boundary
    cases matched
    simp only [beq_iff_eq, decide_eq_true_eq] at isN isV highDigit lowDigit
    exact ⟨high, low, _, by rw [isN, isV], highDigit, lowDigit, by simpa using boundary⟩
  | [], matched => simp_all
  | [_], matched => simp_all
  | [_, _], matched => simp_all
  | [_, _, _], matched => simp_all

/-- The id a chipset that is a bare `NVxy` token, with nothing after it but whitespace,
stands for: its two characters after `NV` as a hexadecimal number. -/
def bareTokenId : List Char → Option Nat
  | 'N' :: 'V' :: high :: low :: rest =>
    if rest.all isSpace then digitsValue 16 [high, low] else none
  | _ => none

theorem bareTokenId_eq_none_of_mem {chipset : List Char} {c : Char} (mem : c ∈ chipset.drop 2)
    (notSpace : isSpace c = false) (notDigit : digitValue 16 c = none) :
    bareTokenId chipset = none := by
  unfold bareTokenId
  split
  · rename_i high low rest
    split_ifs with spaces
    · rcases List.mem_cons.mp mem with rfl | mem
      · simp [digitsValue, digitsValueFrom, notDigit]
      rcases List.mem_cons.mp mem with rfl | later
      · simp [digitsValue, digitsValueFrom, notDigit]
      · simp [List.all_eq_true.mp spaces c later] at notSpace
    · rfl
  · rfl

/-- Once `\bNV[0-9,A-F]{2}\b` matches, `detectNVidiaClass` reads the chipset from its
third character on. That gives the token's id only for a bare token; for every other
chipset with the token in it the id is 0 and the class `NV10`. -/
theorem detectNVidiaClass_of_nvToken {chipset : List Char}
    (matched : extract chipset nvPattern ≠ []) :
    detectNVidiaClass chipset = nvidiaClass ((bareTokenId chipset).getD 0) := by
  have parsed : toInt isSpace 16 (chipset.drop 2) = (bareTokenId chipset).map Int.ofNat := by
    obtain ⟨before, after, start, rfl, atToken⟩ :=
      Regex.firstMatch_eq_some (firstMatch_of_extract matched)
    obtain ⟨high, low, rest, rfl, highDigit, lowDigit, boundary⟩ :=
      matchedPrefix_nvPattern atToken
    cases before with
    | nil => exact toInt_nvToken highDigit lowDigit boundary
    | cons c before =>
      have mem : 'V' ∈ (c :: before ++ 'N' :: 'V' :: high :: low :: rest).drop 2 := by
        cases before <;> simp
      rw [toInt_eq_none_of_mem mem rfl (by decide) rfl, bareTokenId_eq_none_of_mem mem rfl rfl]
      rfl
  unfold detectNVidiaClass
  rw [if_pos (by simpa [List.isEmpty_iff] using matched), parsed]
  cases bareTokenId chipset <;> rfl

/-- A renderer string with the token after a word: the class of the token's id is `NV30`, the
one `detectNVidiaClass` gives is `NV10`. -/
theorem detectNVidiaClass_of_nvToken_geforceNV34 :
    extract "GeForce NV34".toList nvPattern ≠ [] ∧
      detectNVidiaClass "GeForce NV34".toList = .NV10 ∧ nvidiaClass 0x34 = .NV30 :=
  have matched : extract "GeForce NV34".toList nvPattern ≠ [] := by decide
  ⟨matched, (detectNVidiaClass_of_nvToken matched).trans rfl, rfl⟩

example : detectNVidiaClass "NV34".toList = .NV30 := by decide

/-! ## Intel, Qualcomm, Mali and VideoCore -/

/-- The chip names `detectIntelClass` tests, class by class. -/
def intelNames : List (ChipClass × List String) := [
  (.I8XX, ["845G", "830M", "852GM/855GM", "865G"]),
  (.I915, ["915G", "E7221G", "915GM", "945G", "945GM", "945GME", "Q33", "Q35", "G33", "965Q",
    "946GZ", "IGD"]),
  (.I965, ["965G", "G45/G43", "965GM", "965GME/GLE", "GM45", "Q45/Q43", "G41", "B43",
    "Ironlake"]),
  (.SandyBridge, ["Sandybridge", "SNB GT"]),
  (.IvyBridge, ["Ivybridge", "IVB GT"]),
  (.Haswell, ["Haswell", "HSW GT"]),
  (.BayTrail, ["BYT"]),
  (.Cherryview, ["CHV", "BSW"]),
  (.Broadwell, ["BDW GT"]),
  (.Skylake, ["SKL GT"]),
  (.ApolloLake, ["APL"]),
  (.KabyLake, ["KBL GT"]),
  (.WhiskeyLake, ["WHL GT"]),
  (.CometLake, ["CML GT"]),
  (.CannonLake, ["CNL GT"]),
  (.CoffeeLake, ["CFL GT"]),
  (.IceLake, ["ICL GT"]),
  (.TigerLake, ["TGL GT"])]

/-- `detectIntelClass(chipset)`. -/
def detectIntelClass (chipset : List Char) : ChipClass :=
  (classByName chipset intelNames).getD .UnknownIntel

/-- `detectQualcommClass(chipClass)`: the third word of an `Adreno` renderer, as a
number. -/
def detectQualcommClass (chipClass : List Char) : ChipClass :=
  if !contains chipClass "Adreno".toList then .UnknownChipClass
  else
    let parts := split ' ' chipClass
    if parts.length < 3 then .UnknownAdreno
    else match toInt isAsciiSpace 10 (parts.getD 2 []) with
      | some value =>
        if 100 ≤ value ∧ value < 200 then .Adreno1XX
        else if 200 ≤ value ∧ value < 300 then .Adreno2XX
        else if 300 ≤ value ∧ value < 400 then .Adreno3XX
        else if 400 ≤ value ∧ value < 500 then .Adreno4XX
        else if 500 ≤ value ∧ value < 600 then .Adreno5XX
        else .UnknownAdreno
      | none => .UnknownAdreno

/-- The chip names `detectPanfrostClass` tests, class by class. -/
def panfrostNames : List (ChipClass × List String) := [
  (.MaliT7XX, ["T720", "T760"]),
  (.MaliT8XX, ["T820", "T830", "T860", "T880"]),
  (.MaliGXX, ["G31", "G51", "G52", "G57", "G72", "G76"])]

/-- `detectPanfrostClass(chipClass)`. -/
def detectPanfrostClass (chipClass : List Char) : ChipClass :=
  (classByName chipClass panfrostNames).getD .UnknownPanfrost

/-- `detectLimaClass(chipClass)`. -/
def detectLimaClass (chipClass : List Char) : ChipClass :=
  (classByName chipClass [(.Mali400, ["400"]), (.Mali450, ["450"]), (.Mali470, ["470"])]).getD
    .UnknownLima

/-- `detectVC4Class(chipClass)`. -/
def detectVC4Class (chipClass : List Char) : ChipClass :=
  (classByName chipClass [(.VC4_2_1, ["2.1"])]).getD .UnknownVideoCore4

/-- `detectV3DClass(chipClass)`. -/
def detectV3DClass (chipClass : List Char) : ChipClass :=
  (classByName chipClass [(.V3D_4_2, ["4.2"])]).getD .UnknownVideoCore3D

end KWin
