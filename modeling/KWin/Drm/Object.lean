import KWin.Drm.Property

/-!
# DRM objects and the property refresh

`DrmObject::updateProperties` (`drm_object.cpp`) re-reads the property list of one
kernel object and matches it, by name, against the object's property definitions. A
definition that finds a property keeps its existing `DrmProperty`, whose current value
is updated, or gets a new one; a definition that finds none loses its slot. The refresh
fails when a property required under the GPU's mode-setting strategy is missing.

The kernel is an argument: the answer of `drmModeObjectGetProperties`, and the answer of
each `drmModeGetProperty` call, any of which may fail.
-/

namespace KWin

/-- `DrmObject::Requirement`. The enum is declared in `drm_object.h`, which is not under
`src/`; `updateProperties` compares against `Required` and `RequiredForLegacy`. -/
inductive Requirement where
  | Required
  | RequiredForLegacy
  | Optional
  deriving DecidableEq, Repr

/-- `DrmObject::PropertyDefinition`. -/
structure PropertyDefinition where
  name : String
  requirement : Requirement
  enumNames : List String

/-- The part of a `drmModePropertyRes` that the model reads. -/
structure PropertyRes where
  propId : Nat
  name : String
  /-- `flags & DRM_MODE_PROP_BITMASK`. -/
  isBitmask : Bool
  /-- The `drm_mode_property_enum` entries: a name and a kernel value. -/
  enums : List (String × BitVec 64)

namespace DrmProperty

/-- Modelled from the spec: `initEnumMap` is in `drm_property.cpp`, not under `src/`. A
kernel enum entry whose name is the `index`-th of `enumNames` pairs the semantic value
`index` with the kernel value; for a bitmask both sides are bit positions. -/
def initEnumMap (isBitmask : Bool) (enumNames : List String) :
    List (String × BitVec 64) → QMap × QMap → QMap × QMap
  | [], maps => maps
  | (name, kernel) :: rest, (toProperty, toEnum) =>
    match enumNames.indexOf? name with
    | none => initEnumMap isBitmask enumNames rest (toProperty, toEnum)
    | some index =>
      let (semantic, kernel) :=
        if isBitmask then (BitVec.twoPow 64 index, BitVec.twoPow 64 kernel.toNat)
        else (BitVec.ofNat 64 index, kernel)
      initEnumMap isBitmask enumNames rest
        (toProperty.insert semantic kernel, toEnum.insert kernel semantic)

/-- Modelled from the spec: the `DrmProperty` constructor is in `drm_property.cpp`, not
under `src/`. It takes the kernel's id, name and classification, caches `value` as the
current value and builds the enum tables. -/
def create (prop : PropertyRes) (value : BitVec 64) (enumNames : List String) :
    DrmProperty :=
  let (toProperty, toEnum) := initEnumMap prop.isBitmask enumNames prop.enums
    (⟨fun _ => none⟩, ⟨fun _ => none⟩)
  { propId := prop.propId, propName := prop.name, current := value,
    enumToPropertyMap := toProperty, propertyToEnumMap := toEnum,
    isBitmask := prop.isBitmask }

/-- Modelled from the spec: `setCurrent` is in `drm_property.cpp`, not under `src/`; it
caches the value last read from the kernel. -/
def setCurrent (property : DrmProperty) (value : BitVec 64) : DrmProperty :=
  { property with current := value }

@[simp] theorem create_current (prop : PropertyRes) (value : BitVec 64)
    (enumNames : List String) : (create prop value enumNames).current = value := rfl

@[simp] theorem setCurrent_current (property : DrmProperty) (value : BitVec 64) :
    (property.setCurrent value).current = value := rfl

end DrmProperty

/-- A `DrmObject`: `m_props` has one slot per definition, as the constructor sizes it. -/
structure DrmObject where
  id : Nat
  objectType : Nat
  propertyDefinitions : List PropertyDefinition
  props : List (Option DrmProperty)
  props_length : props.length = propertyDefinitions.length

namespace DrmObject

/-- `DrmObject::DrmObject`: every slot starts empty. -/
def create (id : Nat) (propertyDefinitions : List PropertyDefinition) (objectType : Nat) :
    DrmObject :=
  ⟨id, objectType, propertyDefinitions, List.replicate propertyDefinitions.length none,
    List.length_replicate _ _⟩

/-- `m_props[index]`, null when absent. -/
def propAt (object : DrmObject) (index : Nat) : Option DrmProperty :=
  object.props[index]?.getD none

/-- The inner loop of `updateProperties` for one definition: the first kernel property,
fetched successfully, whose name is the definition's, with its value. `fetch` answers the
`drmModeGetProperty` call for the kernel property at `drmPropIndex`. -/
def findProperty (name : String) (fetch : Nat → Option PropertyRes) :
    (values : List (BitVec 64)) → (drmPropIndex : Nat) → Option (PropertyRes × BitVec 64)
  | [], _ => none
  | value :: values, drmPropIndex =>
    match fetch drmPropIndex with
    | none => findProperty name fetch values (drmPropIndex + 1)
    | some prop =>
      if name = prop.name then some (prop, value)
      else findProperty name fetch values (drmPropIndex + 1)

/-- One round of the outer loop: the new content of `m_props[propIndex]`. -/
def updateSlot (definition : PropertyDefinition) (fetch : Nat → Option PropertyRes)
    (values : List (BitVec 64)) (slot : Option DrmProperty) : Option DrmProperty :=
  match findProperty definition.name fetch values 0 with
  | some (prop, value) =>
    match slot with
    | some property => some (property.setCurrent value)
    | none => some (DrmProperty.create prop value definition.enumNames)
  | none => none

/-- The outer loop over the definitions and their slots. `fetch propIndex` answers the
`drmModeGetProperty` calls made while matching definition `propIndex`. -/
def updateSlots (fetch : Nat → Nat → Option PropertyRes) (values : List (BitVec 64)) :
    (definitions : List PropertyDefinition) → (props : List (Option DrmProperty)) →
      (propIndex : Nat) → List (Option DrmProperty)
  | definition :: definitions, slot :: props, propIndex =>
    updateSlot definition (fetch propIndex) values slot ::
      updateSlots fetch values definitions props (propIndex + 1)
  | _, _, _ => []

/-- Whether a definition is required under the GPU's mode-setting strategy. -/
def required (atomicModeSetting : Bool) (definition : PropertyDefinition) : Bool :=
  if atomicModeSetting then definition.requirement = .Required
  else definition.requirement = .RequiredForLegacy

/-- The final loop of `updateProperties`: no required definition has an empty slot. -/
def requiredFound (atomicModeSetting : Bool) :
    List PropertyDefinition → List (Option DrmProperty) → Bool
  | definition :: definitions, slot :: props =>
    if slot.isNone ∧ required atomicModeSetting definition then false
    else requiredFound atomicModeSetting definitions props
  | _, _ => true

theorem length_updateSlots (fetch : Nat → Nat → Option PropertyRes) (values : List (BitVec 64))
    (definitions : List PropertyDefinition) (props : List (Option DrmProperty))
    (propIndex : Nat) (sameLength : props.length = definitions.length) :
    (updateSlots fetch values definitions props propIndex).length = definitions.length := by
  induction definitions generalizing props propIndex with
  | nil => cases props <;> rfl
  | cons definition definitions ih =>
    cases props with
    | nil => simp at sameLength
    | cons slot props =>
      simp only [updateSlots, List.length_cons]
      rw [ih props (propIndex + 1) (by simpa using sameLength)]

/-- `DrmObject::updateProperties`. `kernel` is the answer of
`drmModeObjectGetProperties`: the values of the object's properties, in the kernel's
order, or `none` when the call fails. -/
def updateProperties (object : DrmObject) (atomicModeSetting : Bool)
    (kernel : Option (List (BitVec 64))) (fetch : Nat → Nat → Option PropertyRes) :
    Bool × DrmObject :=
  match kernel with
  | none => (false, object)
  | some values =>
    let props := updateSlots fetch values object.propertyDefinitions object.props 0
    (requiredFound atomicModeSetting object.propertyDefinitions props,
      { object with
        props := props
        props_length := length_updateSlots fetch values _ _ 0 object.props_length })

/-- The kernel property at `drmPropIndex` was fetched and carries `name`. -/
def Matches (fetch : Nat → Option PropertyRes) (name : String) (drmPropIndex : Nat) : Prop :=
  ∃ prop, fetch drmPropIndex = some prop ∧ prop.name = name

/-- `prop`, at `drmPropIndex`, is the first kernel property fetched with `name`. -/
def FirstMatch (fetch : Nat → Option PropertyRes) (name : String) (drmPropIndex : Nat)
    (prop : PropertyRes) : Prop :=
  fetch drmPropIndex = some prop ∧ prop.name = name ∧
    ∀ earlier < drmPropIndex, ¬Matches fetch name earlier

theorem findProperty_eq_none (name : String) (fetch : Nat → Option PropertyRes)
    (values : List (BitVec 64)) (start : Nat) :
    findProperty name fetch values start = none ↔
      ∀ drmPropIndex < values.length, ¬Matches fetch name (start + drmPropIndex) := by
  induction values generalizing start with
  | nil => simp [findProperty]
  | cons value values ih =>
    have later : (∀ drmPropIndex < values.length,
          ¬Matches fetch name (start + 1 + drmPropIndex)) ↔
        ∀ drmPropIndex < values.length, ¬Matches fetch name (start + (drmPropIndex + 1)) := by
      simp only [Nat.add_right_comm start 1, Nat.add_assoc]
    rw [List.length_cons, Nat.forall_lt_succ_left, Nat.add_zero, ← later, ← ih]
    rcases fetched : fetch start with _ | prop
    · simp [findProperty, fetched, Matches]
    · by_cases named : name = prop.name
      · simp [findProperty, fetched, Matches, named]
      · simp [findProperty, fetched, Matches, named, Ne.symm named]

theorem findProperty_of_firstMatch (name : String) (fetch : Nat → Option PropertyRes)
    (values : List (BitVec 64)) (start drmPropIndex : Nat) (prop : PropertyRes)
    (inValues : drmPropIndex < values.length)
    (first : FirstMatch fetch name (start + drmPropIndex) prop) :
    findProperty name fetch values start = some (prop, values[drmPropIndex]) := by
  obtain ⟨fetched, named, none_before⟩ := first
  induction values generalizing start drmPropIndex with
  | nil => simp at inValues
  | cons value values ih =>
    cases drmPropIndex with
    | zero =>
      rw [Nat.add_zero] at fetched
      simp [findProperty, fetched, named.symm]
    | succ drmPropIndex =>
      have skipped : ¬Matches fetch name start := none_before start (by omega)
      have later := ih (start + 1) drmPropIndex (by simpa using inValues)
        (by rw [Nat.add_right_comm]; exact fetched)
        (fun earlier before => none_before earlier (by omega))
      rcases found : fetch start with _ | other
      · simp only [findProperty, found, later, List.getElem_cons_succ]
      · have differs : name ≠ other.name := fun same => skipped ⟨other, found, same.symm⟩
        simp only [findProperty, found, differs, if_false, later, List.getElem_cons_succ]

theorem getElem?_updateSlots (fetch : Nat → Nat → Option PropertyRes) (values : List (BitVec 64))
    (definitions : List PropertyDefinition) (props : List (Option DrmProperty))
    (start propIndex : Nat) (sameLength : props.length = definitions.length)
    (inRange : propIndex < definitions.length) :
    (updateSlots fetch values definitions props start)[propIndex]? =
      some (updateSlot definitions[propIndex] (fetch (start + propIndex)) values
        props[propIndex]) := by
  induction definitions generalizing props start propIndex with
  | nil => simp at inRange
  | cons definition definitions ih =>
    cases props with
    | nil => simp at sameLength
    | cons slot props =>
      cases propIndex with
      | zero => simp [updateSlots]
      | succ propIndex =>
        simp only [updateSlots, List.getElem?_cons_succ, List.getElem_cons_succ]
        rw [ih props (start + 1) propIndex (by simpa using sameLength)
          (by simpa using inRange), Nat.add_right_comm, Nat.add_assoc]

theorem requiredFound_iff (atomicModeSetting : Bool) (definitions : List PropertyDefinition)
    (props : List (Option DrmProperty)) (sameLength : props.length = definitions.length) :
    requiredFound atomicModeSetting definitions props = true ↔
      ∀ propIndex (inRange : propIndex < definitions.length),
        required atomicModeSetting definitions[propIndex] = true →
          (props[propIndex]?.getD none).isSome := by
  induction definitions generalizing props with
  | nil => simp [requiredFound]
  | cons definition definitions ih =>
    cases props with
    | nil => simp at sameLength
    | cons slot props =>
      simp only [requiredFound, List.length_cons, Nat.forall_lt_succ_left', List.getElem_cons_zero,
        List.getElem?_cons_zero, Option.getD_some, List.getElem_cons_succ,
        List.getElem?_cons_succ]
      rw [← ih props (by simpa using sameLength)]
      cases slot <;> by_cases needed : required atomicModeSetting definition = true <;>
        simp [needed]

/-- A slot is filled exactly when some kernel property was fetched under its definition's
name. -/
theorem updateSlot_isSome_iff (definition : PropertyDefinition) (fetch : Nat → Option PropertyRes)
    (values : List (BitVec 64)) (slot : Option DrmProperty) :
    (updateSlot definition fetch values slot).isSome ↔
      ∃ drmPropIndex < values.length, Matches fetch definition.name drmPropIndex := by
  have noneIff := findProperty_eq_none definition.name fetch values 0
  simp only [Nat.zero_add] at noneIff
  unfold updateSlot
  rcases found : findProperty definition.name fetch values 0 with _ | ⟨prop, value⟩
  · simpa using noneIff.mp found
  · have matched : ∃ drmPropIndex < values.length, Matches fetch definition.name drmPropIndex := by
      by_contra noneMatches
      push_neg at noneMatches
      rw [noneIff.mpr noneMatches] at found
      cases found
    cases slot <;> simpa using matched

/-- A filled slot holds the value of the first kernel property with its definition's name,
in the slot's existing `DrmProperty` if there was one. -/
theorem updateSlot_of_firstMatch (definition : PropertyDefinition)
    (fetch : Nat → Option PropertyRes) (values : List (BitVec 64)) (slot : Option DrmProperty)
    (drmPropIndex : Nat) (inValues : drmPropIndex < values.length) (prop : PropertyRes)
    (first : FirstMatch fetch definition.name drmPropIndex prop) :
    updateSlot definition fetch values slot = some (match slot with
      | some property => property.setCurrent values[drmPropIndex]
      | none => DrmProperty.create prop values[drmPropIndex] definition.enumNames) := by
  rw [updateSlot, findProperty_of_firstMatch _ _ values 0 drmPropIndex prop inValues
    (by rwa [Nat.zero_add])]
  cases slot <;> rfl

/-- After a refresh, slot `propIndex` is what `updateSlot` makes of it. -/
theorem propAt_updateProperties (object : DrmObject) (atomicModeSetting : Bool)
    (values : List (BitVec 64)) (fetch : Nat → Nat → Option PropertyRes) (propIndex : Nat)
    (inRange : propIndex < object.propertyDefinitions.length) :
    (object.updateProperties atomicModeSetting (some values) fetch).2.propAt propIndex =
      updateSlot object.propertyDefinitions[propIndex] (fetch propIndex) values
        (object.propAt propIndex) := by
  simp only [updateProperties, propAt]
  rw [getElem?_updateSlots fetch values _ _ 0 propIndex object.props_length inRange,
    Nat.zero_add, Option.getD_some,
    List.getElem?_eq_getElem (object.props_length ▸ inRange), Option.getD_some]

/-- The property refresh. When `drmModeObjectGetProperties` fails nothing changes and the
result is `false`. Otherwise slot `propIndex` is non-null iff some kernel property was
fetched under its definition's name; it then holds the value paired with the first such
property, in the slot's existing `DrmProperty` if there was one. The result is `true` iff
no definition required under the GPU's strategy has an empty slot. -/
theorem updateProperties_refresh (object : DrmObject) (atomicModeSetting : Bool)
    (kernel : Option (List (BitVec 64))) (fetch : Nat → Nat → Option PropertyRes) :
    let updated := object.updateProperties atomicModeSetting kernel fetch
    match kernel with
    | none => updated = (false, object)
    | some values =>
      (∀ propIndex (inRange : propIndex < object.propertyDefinitions.length),
        let definition := object.propertyDefinitions[propIndex]
        ((updated.2.propAt propIndex).isSome ↔
          ∃ drmPropIndex < values.length, Matches (fetch propIndex) definition.name drmPropIndex) ∧
        ∀ drmPropIndex (inValues : drmPropIndex < values.length) prop,
          FirstMatch (fetch propIndex) definition.name drmPropIndex prop →
            updated.2.propAt propIndex = some (match object.propAt propIndex with
              | some property => property.setCurrent values[drmPropIndex]
              | none => DrmProperty.create prop values[drmPropIndex] definition.enumNames)) ∧
      (updated.1 = true ↔ ∀ propIndex (inRange : propIndex < object.propertyDefinitions.length),
        required atomicModeSetting object.propertyDefinitions[propIndex] = true →
          (updated.2.propAt propIndex).isSome) := by
  intro updated
  cases kernel with
  | none => rfl
  | some values =>
    refine ⟨fun propIndex inRange => ⟨?_, fun drmPropIndex inValues prop first => ?_⟩, ?_⟩
    · rw [propAt_updateProperties object atomicModeSetting values fetch propIndex inRange]
      exact updateSlot_isSome_iff _ _ _ _
    · rw [propAt_updateProperties object atomicModeSetting values fetch propIndex inRange]
      exact updateSlot_of_firstMatch _ _ _ _ drmPropIndex inValues prop first
    · simp only [updated, updateProperties]
      rw [requiredFound_iff _ _ _ (length_updateSlots fetch values _ _ 0 object.props_length)]
      rfl

end DrmObject

end KWin
