import Mathlib.Data.BitVec

/-!
# DRM properties and their enum tables

`DrmProperty` (`drm_property.h`) caches one kernel mode-setting property and
translates between the kernel's integers and KWin's semantic enum values through two
`QMap`s, `m_enumToPropertyMap` and `m_propertyToEnumMap`. A bitmask property is
translated bit by bit, by a loop over the powers of two that stops once the mask
exceeds the value or has been shifted out.

The two translations read their table differently. `enumForValue` is `const`, so its
`operator[]` only reads, and a missing key reads as `0`. `valueForEnum` and
`setEnumLegacy` use the non-const `operator[]`, which inserts a missing key.
-/

namespace KWin

/-- A `QMap<uint64_t, uint64_t>`, by its lookup. -/
structure QMap where
  find? : BitVec 64 → Option (BitVec 64)

namespace QMap

/-- `QMap::contains`. -/
def contains (map : QMap) (key : BitVec 64) : Bool := (map.find? key).isSome

/-- `QMap::value`, which is also the const `operator[]`: a missing key reads as `0`. -/
def value (map : QMap) (key : BitVec 64) : BitVec 64 := (map.find? key).getD 0

/-- `QMap::insert`. -/
def insert (map : QMap) (key item : BitVec 64) : QMap :=
  ⟨fun query => if query = key then some item else map.find? query⟩

/-- The non-const `operator[]`: it reads like `value`, and inserts a missing key with
the default value `0`. -/
def subscript (map : QMap) (key : BitVec 64) : BitVec 64 × QMap :=
  match map.find? key with
  | some item => (item, map)
  | none => (0, map.insert key 0)

theorem value_of_find {map : QMap} {key item : BitVec 64} (found : map.find? key = some item) :
    map.value key = item := by
  simp [value, found]

@[simp] theorem subscript_fst (map : QMap) (key : BitVec 64) :
    (map.subscript key).1 = map.value key := by
  unfold subscript value
  split <;> simp_all

/-- Inserting the default value changes no read of the map. -/
@[simp] theorem value_subscript (map : QMap) (key : BitVec 64) :
    (map.subscript key).2.value = map.value := by
  funext query
  unfold subscript
  split
  · rfl
  · rename_i missing
    by_cases same : query = key
    · simp [value, insert, same, missing]
    · simp [value, insert, same]

theorem contains_subscript (map : QMap) (key query : BitVec 64) :
    (map.subscript key).2.contains query = (map.contains query || query == key) := by
  unfold subscript contains
  split
  · rename_i found
    by_cases same : query = key
    · simp [same, found]
    · simp [same]
  · by_cases same : query = key <;> simp [insert, same]

end QMap

/-- The fields of a `DrmProperty` that the modelled functions read or write. -/
structure DrmProperty where
  propId : Nat
  propName : String
  /-- `m_current`, the last known value from the kernel. -/
  current : BitVec 64
  enumToPropertyMap : QMap
  propertyToEnumMap : QMap
  isBitmask : Bool

/-! ## The bitmask loop -/

/-- `for (uint64_t mask = 1; value >= mask && mask != 0; mask <<= 1) if (value & mask) body`,
for at most `fuel` rounds. `enumForValue` and `valueForEnum` run it from `mask = 1` with
64 rounds; by then the loop's own test has ended it (`bitmaskLoop_exits`). -/
def bitmaskLoop {σ : Type} (value : BitVec 64) (body : σ → BitVec 64 → σ) :
    (fuel : Nat) → (mask : BitVec 64) → σ → σ
  | 0, _, state => state
  | fuel + 1, mask, state =>
    if value ≥ mask ∧ mask ≠ 0 then
      bitmaskLoop value body fuel (mask <<< 1)
        (if value &&& mask ≠ 0 then body state mask else state)
    else state

/-- One bit position of the plain loop over all 64 bits. -/
def setBitStep {σ : Type} (value : BitVec 64) (body : σ → BitVec 64 → σ)
    (state : σ) (bit : Nat) : σ :=
  if value.getLsbD bit then body state (BitVec.twoPow 64 bit) else state

theorem twoPow_ne_zero {bit : Nat} (inRange : bit < 64) : BitVec.twoPow 64 bit ≠ 0 := by
  intro isZero
  have toNatZero := congrArg BitVec.toNat isZero
  rw [BitVec.toNat_twoPow, Nat.mod_eq_of_lt (Nat.pow_lt_pow_of_lt (by omega) inRange)]
    at toNatZero
  exact absurd toNatZero (Nat.pos_pow_of_pos bit (by omega : 0 < 2)).ne'

theorem twoPow_le_iff {value : BitVec 64} {bit : Nat} (inRange : bit < 64) :
    BitVec.twoPow 64 bit ≤ value ↔ 2 ^ bit ≤ value.toNat := by
  rw [BitVec.le_def, BitVec.toNat_twoPow,
    Nat.mod_eq_of_lt (Nat.pow_lt_pow_of_lt (by omega) inRange)]

theorem and_twoPow_ne_zero {value : BitVec 64} {bit : Nat} (inRange : bit < 64) :
    value &&& BitVec.twoPow 64 bit ≠ 0 ↔ value.getLsbD bit := by
  rw [BitVec.and_twoPow]
  cases value.getLsbD bit <;> simp [twoPow_ne_zero inRange, -BitVec.ofNat_eq_ofNat]

theorem twoPow_shiftLeft_one (bit : Nat) :
    BitVec.twoPow 64 bit <<< 1 = BitVec.twoPow 64 (bit + 1) := by
  simp [BitVec.twoPow, BitVec.shiftLeft_add]

/-- Above the highest set bit the plain loop does nothing. -/
theorem foldl_setBitStep_of_lt {σ : Type} (value : BitVec 64) (body : σ → BitVec 64 → σ)
    {bit : Nat} (below : value.toNat < 2 ^ bit) (rounds : Nat) (state : σ) :
    (List.range' bit rounds).foldl (setBitStep value body) state = state := by
  induction rounds generalizing bit with
  | zero => rfl
  | succ rounds ih =>
    have clear : value.getLsbD bit = false := Nat.testBit_lt_two_pow below
    simp only [List.range'_succ, List.foldl_cons, setBitStep, clear]
    exact ih (Nat.lt_of_lt_of_le below (Nat.pow_le_pow_right (by omega) (by omega)))

/-- The short-circuiting loop visits the set bits of `value` in increasing order: it is
the plain loop over the remaining bit positions. -/
theorem bitmaskLoop_eq_foldl {σ : Type} (value : BitVec 64) (body : σ → BitVec 64 → σ)
    (rounds bit : Nat) (total : rounds + bit = 64) (state : σ) :
    bitmaskLoop value body rounds (BitVec.twoPow 64 bit) state =
      (List.range' bit rounds).foldl (setBitStep value body) state := by
  induction rounds generalizing bit state with
  | zero => rfl
  | succ rounds ih =>
    have inRange : bit < 64 := by omega
    simp only [bitmaskLoop, List.range'_succ, List.foldl_cons, ge_iff_le,
      twoPow_le_iff inRange, ne_eq, twoPow_ne_zero inRange, not_false_eq_true, and_true]
    split
    · rw [twoPow_shiftLeft_one, ih (bit + 1) (by omega), setBitStep]
      simp only [and_twoPow_ne_zero inRange]
    · exact (foldl_setBitStep_of_lt value body (by omega) (rounds + 1) state).symm

/-- The loop as `enumForValue` and `valueForEnum` run it. -/
theorem bitmaskLoop_fuel {σ : Type} (value : BitVec 64) (body : σ → BitVec 64 → σ)
    (state : σ) :
    bitmaskLoop value body 64 1 state =
      (List.range 64).foldl (setBitStep value body) state := by
  rw [show (1 : BitVec 64) = BitVec.twoPow 64 0 by decide,
    bitmaskLoop_eq_foldl value body 64 0 rfl, List.range_eq_range']

/-- The `for` loop run until its own test fails, with no fuel:
`BitmaskLoopExits value body mask state rounds result` when the loop entered with `mask` and
`state` makes `rounds` rounds, then finds `value >= mask && mask != 0` false and leaves
`result`. A loop whose test never fails has no such run. -/
inductive BitmaskLoopExits {σ : Type} (value : BitVec 64) (body : σ → BitVec 64 → σ) :
    BitVec 64 → σ → Nat → σ → Prop where
  | stop {mask : BitVec 64} {state : σ} :
      ¬(value ≥ mask ∧ mask ≠ 0) → BitmaskLoopExits value body mask state 0 state
  | round {mask : BitVec 64} {state result : σ} {rounds : Nat} :
      value ≥ mask ∧ mask ≠ 0 →
      BitmaskLoopExits value body (mask <<< 1)
        (if value &&& mask ≠ 0 then body state mask else state) rounds result →
      BitmaskLoopExits value body mask state (rounds + 1) result

/-- The test decides every round, so where the loop starts determines its run. -/
theorem BitmaskLoopExits.deterministic {σ : Type} {value : BitVec 64} {body : σ → BitVec 64 → σ}
    {mask : BitVec 64} {state result result' : σ} {rounds rounds' : Nat}
    (exits : BitmaskLoopExits value body mask state rounds result)
    (exits' : BitmaskLoopExits value body mask state rounds' result') :
    rounds = rounds' ∧ result = result' := by
  induction exits generalizing rounds' result' with
  | stop fails =>
    cases exits' with
    | stop => exact ⟨rfl, rfl⟩
    | round holds => exact absurd holds fails
  | round holds _ ih =>
    cases exits' with
    | stop fails => exact absurd holds fails
    | round _ rest =>
      obtain ⟨rfl, rfl⟩ := ih rest
      exact ⟨rfl, rfl⟩

/-- From the mask of round `bit`, the loop's own test ends it within the `rounds` rounds left
before the mask is shifted out to `0`, with the state the fuelled loop computes. -/
theorem bitmaskLoop_exits {σ : Type} (value : BitVec 64) (body : σ → BitVec 64 → σ)
    (rounds bit : Nat) (total : rounds + bit = 64) (state : σ) :
    ∃ made ≤ rounds, BitmaskLoopExits value body (BitVec.twoPow 64 bit) state made
      (bitmaskLoop value body rounds (BitVec.twoPow 64 bit) state) := by
  induction rounds generalizing bit state with
  | zero =>
    obtain rfl : bit = 64 := by omega
    have shiftedOut : BitVec.twoPow 64 64 = 0 := by decide
    exact ⟨0, le_refl 0, .stop fun ⟨_, nonzero⟩ => nonzero shiftedOut⟩
  | succ rounds ih =>
    simp only [bitmaskLoop]
    split
    · rename_i holds
      obtain ⟨made, bounded, exits⟩ := ih (bit + 1) (by omega)
        (if value &&& BitVec.twoPow 64 bit ≠ 0 then body state (BitVec.twoPow 64 bit) else state)
      rw [← twoPow_shiftLeft_one] at exits
      exact ⟨made + 1, by omega, .round holds exits⟩
    · rename_i fails
      exact ⟨0, Nat.zero_le _, .stop fails⟩

/-- Two loops whose bodies preserve a relation between their states preserve it. -/
theorem bitmaskLoop_rel {σ τ : Type} (value : BitVec 64) {body : σ → BitVec 64 → σ}
    {body' : τ → BitVec 64 → τ} (related : σ → τ → Prop)
    (step : ∀ state state' mask, related state state' →
      related (body state mask) (body' state' mask))
    (rounds : Nat) (mask : BitVec 64) {state : σ} {state' : τ}
    (start : related state state') :
    related (bitmaskLoop value body rounds mask state)
      (bitmaskLoop value body' rounds mask state') := by
  induction rounds generalizing mask state state' with
  | zero => exact start
  | succ rounds ih =>
    simp only [bitmaskLoop]
    split
    · apply ih
      split
      · exact step _ _ _ start
      · exact start
    · exact start

/-- `ret |= map[mask]` over the set bits of `value`: the bitmask branch of
`enumForValue`. -/
def orOfSetBits (value : BitVec 64) (map : QMap) : BitVec 64 :=
  bitmaskLoop value (fun ret mask => ret ||| map.value mask) 64 1 0

theorem getLsbD_foldl_or (value : BitVec 64) (map : QMap) (bits : List Nat)
    (acc : BitVec 64) (position : Nat) :
    ((bits.foldl (setBitStep value (fun ret mask => ret ||| map.value mask)) acc).getLsbD
        position = true ↔
      acc.getLsbD position = true ∨ ∃ bit ∈ bits, value.getLsbD bit = true ∧
        (map.value (BitVec.twoPow 64 bit)).getLsbD position = true) := by
  induction bits generalizing acc with
  | nil => simp
  | cons bit rest ih =>
    rw [List.foldl_cons, ih]
    simp only [List.mem_cons, or_and_right, exists_or, exists_eq_left]
    by_cases set : value.getLsbD bit = true
    · simp only [setBitStep, set, if_true, BitVec.getLsbD_or, Bool.or_eq_true, true_and, or_assoc]
    · simp [setBitStep, set]

/-- Bit `position` of the result is set iff some set bit of `value` is mapped to a
value with that bit set. -/
theorem getLsbD_orOfSetBits (value : BitVec 64) (map : QMap) (position : Nat) :
    (orOfSetBits value map).getLsbD position = true ↔
      ∃ bit < 64, value.getLsbD bit = true ∧
        (map.value (BitVec.twoPow 64 bit)).getLsbD position = true := by
  rw [orOfSetBits, bitmaskLoop_fuel, getLsbD_foldl_or]
  simp

/-- A power of two, `2^bit` with `bit < 64`. -/
def SingleBit (value : BitVec 64) : Prop := ∃ bit < 64, value = BitVec.twoPow 64 bit

theorem getLsbD_twoPow_iff {bit position : Nat} (inRange : bit < 64) :
    (BitVec.twoPow 64 bit).getLsbD position = true ↔ bit = position := by
  simp [BitVec.getLsbD_twoPow, inRange]

/-- Translating the set bits of `value` through one table and back through its inverse
gives `value` back, when the tables hold single bits only. -/
theorem orOfSetBits_orOfSetBits {forward backward : QMap} (value : BitVec 64)
    (inverse : ∀ key item, forward.find? key = some item ↔ backward.find? item = some key)
    (singleBit : ∀ key item, forward.find? key = some item → SingleBit key ∧ SingleBit item)
    (covered : ∀ bit < 64, value.getLsbD bit = true →
      forward.contains (BitVec.twoPow 64 bit)) :
    orOfSetBits (orOfSetBits value forward) backward = value := by
  have entry : ∀ bit < 64, value.getLsbD bit = true → ∃ image < 64,
      forward.find? (BitVec.twoPow 64 bit) = some (BitVec.twoPow 64 image) := by
    intro bit inRange set
    obtain ⟨item, found⟩ := Option.isSome_iff_exists.mp (covered bit inRange set)
    obtain ⟨image, imageRange, rfl⟩ := (singleBit _ _ found).2
    exact ⟨image, imageRange, found⟩
  apply BitVec.eq_of_getLsbD_eq
  intro ⟨position, positionRange⟩
  rw [Bool.eq_iff_iff, getLsbD_orOfSetBits]
  constructor
  · rintro ⟨image, -, inMiddle, inBack⟩
    obtain ⟨bit, bitRange, set, inForward⟩ := (getLsbD_orOfSetBits _ _ _).mp inMiddle
    obtain ⟨image', imageRange', found⟩ := entry bit bitRange set
    rw [QMap.value_of_find found, getLsbD_twoPow_iff imageRange'] at inForward
    subst inForward
    rw [QMap.value_of_find ((inverse _ _).mp found), getLsbD_twoPow_iff bitRange] at inBack
    exact inBack ▸ set
  · intro set
    obtain ⟨image, imageRange, found⟩ := entry position positionRange set
    refine ⟨image, imageRange, (getLsbD_orOfSetBits _ _ _).mpr
      ⟨position, positionRange, set, ?_⟩, ?_⟩
    · rw [QMap.value_of_find found, getLsbD_twoPow_iff imageRange]
    · rw [QMap.value_of_find ((inverse _ _).mp found), getLsbD_twoPow_iff positionRange]

namespace DrmProperty

/-- `hasEnum`: the semantic value is a key of `m_enumToPropertyMap`. -/
def hasEnum (property : DrmProperty) (value : BitVec 64) : Bool :=
  property.enumToPropertyMap.contains value

/-- `enumForValue`, before the final `static_cast<T>` to the enum type. -/
def enumForValue (property : DrmProperty) (value : BitVec 64) : BitVec 64 :=
  if property.isBitmask then
    orOfSetBits value property.propertyToEnumMap
  else
    property.propertyToEnumMap.value value

/-- `valueForEnum`. It is not `const`: every `m_enumToPropertyMap[...]` it evaluates
inserts a missing key. -/
def valueForEnum (property : DrmProperty) (enumValue : BitVec 64) :
    BitVec 64 × DrmProperty :=
  if property.isBitmask then
    let (set, map) := bitmaskLoop enumValue
      (fun (set, map) mask =>
        let (item, map) := map.subscript mask
        (set ||| item, map))
      64 1 (0, property.enumToPropertyMap)
    (set, { property with enumToPropertyMap := map })
  else
    let (item, map) := property.enumToPropertyMap.subscript enumValue
    (item, { property with enumToPropertyMap := map })

/-- Modelled from the spec: `setPropertyLegacy` is defined in `drm_property.cpp`, which
is not under `src/`. It sets the property with one legacy ioctl, whose answer is
`accepted`, and caches the value the kernel accepted. -/
def setPropertyLegacy (accepted : Bool) (property : DrmProperty) (value : BitVec 64) :
    Bool × DrmProperty :=
  if accepted then (true, { property with current := value }) else (false, property)

/-- `setEnumLegacy`: `hasEnum` tests the 64-bit value, but the table is indexed with
`static_cast<uint32_t>(value)`. -/
def setEnumLegacy (accepted : Bool) (property : DrmProperty) (value : BitVec 64) :
    Bool × DrmProperty :=
  if property.hasEnum value then
    let (item, map) := property.enumToPropertyMap.subscript ((value.setWidth 32).setWidth 64)
    setPropertyLegacy accepted { property with enumToPropertyMap := map } item
  else
    (false, property)

@[simp] theorem valueForEnum_propertyToEnumMap (property : DrmProperty)
    (enumValue : BitVec 64) :
    (property.valueForEnum enumValue).2.propertyToEnumMap = property.propertyToEnumMap := by
  unfold valueForEnum
  split <;> rfl

@[simp] theorem valueForEnum_isBitmask (property : DrmProperty) (enumValue : BitVec 64) :
    (property.valueForEnum enumValue).2.isBitmask = property.isBitmask := by
  unfold valueForEnum
  split <;> rfl

/-- The inserted defaults do not change what `valueForEnum` returns: it is the const
translation through `m_enumToPropertyMap`. -/
theorem valueForEnum_fst (property : DrmProperty) (enumValue : BitVec 64) :
    (property.valueForEnum enumValue).1 =
      if property.isBitmask then orOfSetBits enumValue property.enumToPropertyMap
      else property.enumToPropertyMap.value enumValue := by
  unfold valueForEnum
  split
  · exact (bitmaskLoop_rel enumValue
      (fun (state : BitVec 64 × QMap) (ret : BitVec 64) =>
        state.1 = ret ∧ state.2.value = property.enumToPropertyMap.value)
      (fun _ _ _ ⟨same, reads⟩ => by simp [same, reads]) 64 1 ⟨rfl, rfl⟩).1
  · simp

/-- The loop of `enumForValue` and `valueForEnum`, run until its own test fails, ends within
64 rounds, at the latest when the mask has been shifted out to `0`, and has one run only. It ORs
`map[2^k]` for exactly the set bits `k` of the value, as the plain loop over all 64 bit
positions does, bit 63 included. Both functions run it on their table: `valueForEnum`'s
inserted defaults read as `0`, as in `enumForValue`. -/
theorem bitmask_loop_skips_no_set_bit (value : BitVec 64) (map : QMap) :
    (∃ rounds ≤ 64, BitmaskLoopExits value (fun ret mask => ret ||| map.value mask) 1 0 rounds
        (orOfSetBits value map) ∧
      ∀ rounds' result, BitmaskLoopExits value (fun ret mask => ret ||| map.value mask) 1 0
        rounds' result → rounds' = rounds ∧ result = orOfSetBits value map) ∧
    orOfSetBits value map = (List.range 64).foldl (fun ret bit =>
      if value.getLsbD bit then ret ||| map.value (BitVec.twoPow 64 bit) else ret) 0 ∧
    (∀ position, (orOfSetBits value map).getLsbD position = true ↔
      ∃ bit < 64, value.getLsbD bit = true ∧
        (map.value (BitVec.twoPow 64 bit)).getLsbD position = true) ∧
    ∀ property : DrmProperty, property.isBitmask = true →
      property.enumForValue value = orOfSetBits value property.propertyToEnumMap ∧
      (property.valueForEnum value).1 = orOfSetBits value property.enumToPropertyMap := by
  have one : BitVec.twoPow 64 0 = 1 := by decide
  obtain ⟨rounds, bounded, exits⟩ :=
    bitmaskLoop_exits value (fun ret mask => ret ||| map.value mask) 64 0 rfl 0
  rw [one] at exits
  refine ⟨⟨rounds, bounded, exits, fun _ _ other => ?_⟩, by rw [orOfSetBits, bitmaskLoop_fuel]; rfl,
    getLsbD_orOfSetBits value map, fun property bitmask => ?_⟩
  · obtain ⟨same, result⟩ := exits.deterministic other
    exact ⟨same.symm, result.symm⟩
  · rw [enumForValue, valueForEnum_fst, bitmask, if_pos rfl, if_pos rfl]
    exact ⟨rfl, rfl⟩

/-- Bits 0 and 63 through a table that maps each bit to itself. -/
theorem bitmask_loop_skips_no_set_bit_topBit :
    let property : DrmProperty := ⟨0, "rotation", 0, ⟨some⟩, ⟨some⟩, true⟩
    property.isBitmask = true ∧ property.enumForValue 0x8000000000000001 = 0x8000000000000001 :=
  ⟨rfl, ((bitmask_loop_skips_no_set_bit 0x8000000000000001 ⟨some⟩).2.2.2 _ rfl).1.trans
    (by decide)⟩

/-! ## Round trip through the tables -/

/-- The two tables are mutual inverses on their key sets. -/
def TablesInverse (property : DrmProperty) : Prop :=
  ∀ kernel semantic, property.propertyToEnumMap.find? kernel = some semantic ↔
    property.enumToPropertyMap.find? semantic = some kernel

/-- Both tables have only single-bit keys and values. -/
def TablesSingleBit (property : DrmProperty) : Prop :=
  ∀ key item, (property.propertyToEnumMap.find? key = some item ∨
      property.enumToPropertyMap.find? key = some item) → SingleBit key ∧ SingleBit item

/-- Every set bit of `value` (bitmask), or `value` itself, is a key of `map`. -/
def Covered (isBitmask : Bool) (map : QMap) (value : BitVec 64) : Prop :=
  if isBitmask then ∀ bit < 64, value.getLsbD bit = true → map.contains (BitVec.twoPow 64 bit)
  else map.contains value

theorem find_of_contains {map : QMap} {key : BitVec 64} (present : map.contains key = true) :
    ∃ item, map.find? key = some item :=
  Option.isSome_iff_exists.mp present

/-- Kernel value → semantic value → kernel value, and semantic value → kernel value →
semantic value, are identities on the values the tables cover. -/
theorem enum_translation_round_trip (property : DrmProperty) (inverse : property.TablesInverse)
    (singleBit : property.isBitmask = true → property.TablesSingleBit) :
    (∀ value, Covered property.isBitmask property.propertyToEnumMap value →
      (property.valueForEnum (property.enumForValue value)).1 = value) ∧
    (∀ enumValue, Covered property.isBitmask property.enumToPropertyMap enumValue →
      (property.valueForEnum enumValue).2.enumForValue (property.valueForEnum enumValue).1 =
        enumValue) := by
  cases bitmask : property.isBitmask with
  | true =>
    have single := singleBit bitmask
    refine ⟨fun value covered => ?_, fun enumValue covered => ?_⟩
    · simp only [Covered, if_true] at covered
      rw [valueForEnum_fst, enumForValue, bitmask, if_pos rfl, if_pos rfl]
      exact orOfSetBits_orOfSetBits value inverse
        (fun key item found => single key item (.inl found)) covered
    · simp only [Covered, if_true] at covered
      rw [enumForValue, valueForEnum_isBitmask, bitmask, if_pos rfl, valueForEnum_fst,
        bitmask, if_pos rfl, valueForEnum_propertyToEnumMap]
      exact orOfSetBits_orOfSetBits enumValue (fun key item => (inverse item key).symm)
        (fun key item found => single key item (.inr found)) covered
  | false =>
    refine ⟨fun value covered => ?_, fun enumValue covered => ?_⟩
    · simp only [Covered] at covered
      obtain ⟨semantic, found⟩ := find_of_contains covered
      rw [valueForEnum_fst, enumForValue, bitmask, if_neg Bool.false_ne_true,
        if_neg Bool.false_ne_true, QMap.value_of_find found]
      exact QMap.value_of_find ((inverse _ _).mp found)
    · simp only [Covered] at covered
      obtain ⟨kernel, found⟩ := find_of_contains covered
      rw [enumForValue, valueForEnum_isBitmask, bitmask, if_neg Bool.false_ne_true,
        valueForEnum_fst, bitmask, if_neg Bool.false_ne_true, valueForEnum_propertyToEnumMap,
        QMap.value_of_find found]
      exact QMap.value_of_find ((inverse _ _).mpr found)

/-- Kernel bits 0 and 1 standing for the semantic bits 1 and 0. -/
def swappedBits : QMap :=
  ⟨fun key => if key = 1 then some 2 else if key = 2 then some 1 else none⟩

theorem enum_translation_round_trip_swappedBits :
    let property : DrmProperty := ⟨0, "rotation", 1, swappedBits, swappedBits, true⟩
    (property.TablesInverse ∧ (property.isBitmask = true → property.TablesSingleBit)) ∧
      (property.valueForEnum (property.enumForValue 3)).1 = 3 := by
  intro property
  have inverse : property.TablesInverse := by
    intro kernel semantic
    simp only [property, swappedBits]
    by_cases one : kernel = 1 <;> by_cases two : kernel = 2 <;>
      by_cases one' : semantic = 1 <;> by_cases two' : semantic = 2 <;> simp_all [eq_comm]
  have singleBit : property.TablesSingleBit := by
    intro key item found
    simp only [property, swappedBits, or_self] at found
    split at found
    · cases found; subst_vars; exact ⟨⟨0, by omega, by decide⟩, ⟨1, by omega, by decide⟩⟩
    · split at found
      · cases found; subst_vars; exact ⟨⟨1, by omega, by decide⟩, ⟨0, by omega, by decide⟩⟩
      · cases found
  refine ⟨⟨inverse, fun _ => singleBit⟩,
    (enum_translation_round_trip property inverse (fun _ => singleBit)).1 3 ?_⟩
  intro bit _ set
  match bit, set with
  | 0, _ => decide
  | 1, _ => decide
  | bit + 2, set =>
    have above : 3 < 2 ^ (bit + 2) :=
      Nat.lt_of_lt_of_le (by decide : 3 < 2 ^ 2) (Nat.pow_le_pow_right (by decide) (by omega))
    simp [BitVec.getLsbD_ofNat, Nat.testBit_lt_two_pow above] at set

/-- Translating a semantic value the kernel does not support makes it look supported:
`valueForEnum` inserts the missing key, and `setEnumLegacy` of a supported value of
`2^32` or more inserts its low 32 bits. -/
theorem hasEnum_changed_by_translation :
    let unsupported : DrmProperty := ⟨0, "Colorspace", 0, ⟨fun _ => none⟩, ⟨fun _ => none⟩, false⟩
    let wide : DrmProperty := ⟨0, "Colorspace", 0,
      ⟨fun key => if key = 0x100000000 then some 7 else none⟩,
      ⟨fun key => if key = 7 then some 0x100000000 else none⟩, false⟩
    (unsupported.hasEnum 5 = false ∧ (unsupported.valueForEnum 5).2.hasEnum 5 = true) ∧
      (wide.hasEnum 0 = false ∧ (wide.setEnumLegacy true 0x100000000).2.hasEnum 0 = true) := by
  decide

end DrmProperty

end KWin
