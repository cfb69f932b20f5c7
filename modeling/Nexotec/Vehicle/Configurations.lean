/-
A configuration and its specification block
(`app/vehicle/services/configuration.py`, `configuration_host.py`; `app/vehicle/models/spec_block.py`,
`configuration.py`).

A provider configuration copies the block of a catalogue variant once.  From then on an advisor edits
it, a resolved mapping gap fills what is empty, and a re-sync copies the fields that are chosen.
Which empty field is to stay empty is remembered as a name in `overridden_fields`.

* `SpecField`, `ColumnType` — the fields of the block, and what a column keeps of a value;
* `updateConfiguration`, `fillNullSpecFieldsFromVariants`, `previewResync`, `applyResync`;
* `updateConfiguration_spec`, `fillConfiguration_spec`, `applyResync_spec` — what each does to the
  block and to the list of names.

Audit rows, events, the options and the copy are left out.
-/
import Nexotec.Core.Columns
import Nexotec.Vehicle.VehicleMerge

namespace Nexotec.Configurations

open Rounding
open VehicleMerge (isValidVin)

/-! ### Columns -/

inductive Value where
  | text (value : String)
  | number (value : ℤ)
  | decimal (value : Decimal)
  | flag (value : Bool)
  | day (value : ℤ)
  deriving DecidableEq

inductive ColumnType where
  | string (length : ℕ)
  | longText
  | integer
  | decimal (precision scale : ℕ)
  | boolean
  | date

/-- What PostgreSQL keeps of a value, if it takes it: blanks too many are cut off, a decimal is
rounded to the scale. -/
def ColumnType.hold : ColumnType → Value → Option Value
  | .string length, .text value =>
      if value.length ≤ length then some (.text value)
      else if (value.toList.drop length).all (· = ' ') then
        some (.text (String.ofList (value.toList.take length)))
      else none
  | .longText, .text value => some (.text value)
  | .integer, .number value => if -2 ^ 31 ≤ value ∧ value < 2 ^ 31 then some (.number value) else none
  | .decimal precision scale, .decimal value =>
      let kept := quantize (10 ^ scale) value
      if |kept| < 10 ^ (precision - scale) then some (.decimal kept) else none
  | .boolean, .flag value => some (.flag value)
  | .date, .day value => some (.day value)
  | _, _ => none

/-- A column as an `UPDATE` leaves it: it is written where its value changed. -/
def ColumnType.store (column : ColumnType) (before after : Option Value) : Option (Option Value) :=
  if before = after then some after
  else match after with
    | none => some none
    | some value => (column.hold value).map some

/-! ### The specification block -/

/-- `_ALL_SPEC_FIELDS`. -/
inductive SpecField where
  | modelTypeName | trimName
  | engineCycle | displacementCcm | cylinders | gears | ps | kw | totalPs | totalKw | systemKw
  | vehicleClass | valuationClassification | emissionStandard
  | doors | seats | weightEmptyKg | weightTotalKg | payloadKg | towingCapacityKg | wheelbaseMm
  | consumptionMixed | consumptionUrban | consumptionExtraUrban | consumptionNorm | co2Gkm
  | energyConsumptionKwh | batteryCapacityKwh | rangeKm | tankCapacityL
  | werkscode | importcode
  | modelYear | productionFrom | productionTo | basePrice | basePriceYear | priceIsNet
  | vehicleKind | fuelType | bodyStyle | drivetrain | transmission
  deriving DecidableEq

def SpecField.declaration : SpecField → String × ColumnType
  | .modelTypeName => ("model_type_name", .string 100)
  | .trimName => ("trim_name", .string 30)
  | .engineCycle => ("engine_cycle", .string 64)
  | .displacementCcm => ("displacement_ccm", .integer)
  | .cylinders => ("cylinders", .integer)
  | .gears => ("gears", .integer)
  | .ps => ("ps", .integer)
  | .kw => ("kw", .integer)
  | .totalPs => ("total_ps", .integer)
  | .totalKw => ("total_kw", .integer)
  | .systemKw => ("system_kw", .integer)
  | .vehicleClass => ("vehicle_class", .string 64)
  | .valuationClassification => ("valuation_classification", .string 64)
  | .emissionStandard => ("emission_standard", .string 64)
  | .doors => ("doors", .integer)
  | .seats => ("seats", .integer)
  | .weightEmptyKg => ("weight_empty_kg", .integer)
  | .weightTotalKg => ("weight_total_kg", .integer)
  | .payloadKg => ("payload_kg", .integer)
  | .towingCapacityKg => ("towing_capacity_kg", .integer)
  | .wheelbaseMm => ("wheelbase_mm", .integer)
  | .consumptionMixed => ("consumption_mixed", .decimal 4 1)
  | .consumptionUrban => ("consumption_urban", .decimal 4 1)
  | .consumptionExtraUrban => ("consumption_extra_urban", .decimal 4 1)
  | .consumptionNorm => ("consumption_norm", .string 64)
  | .co2Gkm => ("co2_gkm", .integer)
  | .energyConsumptionKwh => ("energy_consumption_kwh", .decimal 5 1)
  | .batteryCapacityKwh => ("battery_capacity_kwh", .decimal 6 2)
  | .rangeKm => ("range_km", .integer)
  | .tankCapacityL => ("tank_capacity_l", .integer)
  | .werkscode => ("werkscode", .string 64)
  | .importcode => ("importcode", .string 64)
  | .modelYear => ("model_year", .integer)
  | .productionFrom => ("production_from", .integer)
  | .productionTo => ("production_to", .integer)
  | .basePrice => ("base_price", .decimal 12 2)
  | .basePriceYear => ("base_price_year", .integer)
  | .priceIsNet => ("price_is_net", .boolean)
  | .vehicleKind => ("vehicle_kind", .string 64)
  | .fuelType => ("fuel_type", .string 64)
  | .bodyStyle => ("body_style", .string 64)
  | .drivetrain => ("drivetrain", .string 64)
  | .transmission => ("transmission", .string 64)

def SpecField.name (f : SpecField) : String := f.declaration.1

def SpecField.column (f : SpecField) : ColumnType := f.declaration.2

def specBlockFields : List SpecField :=
  [.modelTypeName, .trimName,
    .engineCycle, .displacementCcm, .cylinders, .gears, .ps, .kw, .totalPs, .totalKw, .systemKw,
    .vehicleClass, .valuationClassification, .emissionStandard,
    .doors, .seats, .weightEmptyKg, .weightTotalKg, .payloadKg, .towingCapacityKg, .wheelbaseMm,
    .consumptionMixed, .consumptionUrban, .consumptionExtraUrban, .consumptionNorm, .co2Gkm,
    .energyConsumptionKwh, .batteryCapacityKwh, .rangeKm, .tankCapacityL,
    .werkscode, .importcode,
    .modelYear, .productionFrom, .productionTo, .basePrice, .basePriceYear, .priceIsNet]

def codedSpecFields : List SpecField :=
  [.vehicleKind, .fuelType, .bodyStyle, .drivetrain, .transmission]

def specReferenceFields : List SpecField :=
  [.engineCycle, .vehicleClass, .valuationClassification, .emissionStandard, .consumptionNorm]

def SpecField.all : List SpecField := specBlockFields ++ codedSpecFields

theorem SpecField.mem_all (f : SpecField) : f ∈ SpecField.all := by
  cases f <;> decide

abbrev SpecBlock := SpecField → Option Value

/-- `_PATCHABLE_NULLABLE_FIELDS` -/
inductive ObservedField where
  | vin | stammnummer | typeApprovalNumber | firstRegistrationDate | licencePlate | mileageKm
  | exteriorColour | interiorColour | exteriorColourSurcharge | interiorColourSurcharge
  | wheels | wheelsSurcharge | notes | brandDisplayName | modelGroupName | variantName

def ObservedField.all : List ObservedField :=
  [.vin, .stammnummer, .typeApprovalNumber, .firstRegistrationDate, .licencePlate, .mileageKm,
    .exteriorColour, .interiorColour, .exteriorColourSurcharge, .interiorColourSurcharge,
    .wheels, .wheelsSurcharge, .notes, .brandDisplayName, .modelGroupName, .variantName]

def ObservedField.column : ObservedField → ColumnType
  | .vin => .string 17
  | .stammnummer => .string 9
  | .typeApprovalNumber => .string 6
  | .firstRegistrationDate => .date
  | .licencePlate => .string 16
  | .mileageKm => .integer
  | .exteriorColour | .interiorColour | .wheels => .string 120
  | .exteriorColourSurcharge | .interiorColourSurcharge | .wheelsSurcharge => .decimal 12 2
  | .notes => .longText
  | .brandDisplayName | .modelGroupName => .string 120
  | .variantName => .string 160

/-! ### Rows -/

/-- `ModelVariant`, with the block as its columns hold it. -/
structure ModelVariant where
  brandDisplayName : Option String := none
  modelGroupName : Option String := none
  name : String
  spec : SpecBlock
  held : ∀ f value, spec f = some value → f.column.hold value = some value

inductive ConfigurationSource where
  | provider | manual
  deriving DecidableEq

inductive ConfigurationMode where
  | build | record
  deriving DecidableEq

inductive ConfigurationMatchStatus where
  | matched | unverified | bestMatchConfirmed

inductive ConfigurationMatchMethod where
  | vin | kontrollschild | typenschein | stammnummer | werkscode | catalogueBrowse | manual

structure VehicleConfiguration where
  tenantId : Uuid
  source : ConfigurationSource
  mode : ConfigurationMode
  catalogueMatchStatus : ConfigurationMatchStatus
  matchMethod : ConfigurationMatchMethod
  catalogueVariantId : Option Uuid
  catalogueVariantLabel : Option String := none
  catalogueVariantLabelRefreshedAt : Option Time := none
  spec : SpecBlock
  observed : ObservedField → Option Value := fun _ => none
  vehicleId : Option Uuid := none
  vehicleLabel : Option String := none
  vehicleLabelRefreshedAt : Option Time := none
  overriddenFields : List SpecField := []
  updatedBy : Option Uuid := none
  version : ℕ := 1

/-- What is read besides the configuration. -/
structure Surroundings where
  variants : Table Uuid ModelVariant := ∅
  activeCodes : String → Option (List String) := fun _ => none
  vehicleByVin : String → Option (Uuid × String) := fun _ => none
  /-- `str.isprintable` of one character. -/
  isPrintable : Char → Bool := fun c => 32 ≤ c.toNat ∧ c.toNat < 127

/-- The `UPDATE` of a row; a value that a column does not take raises. -/
def flush (before after : VehicleConfiguration) : Result VehicleConfiguration :=
  if (SpecField.all.all fun f => (f.column.store (before.spec f) (after.spec f)).isSome) ∧
      ObservedField.all.all fun f => (f.column.store (before.observed f) (after.observed f)).isSome then
    .ok { after with
      spec := fun f => (f.column.store (before.spec f) (after.spec f)).getD none
      observed := fun f => (f.column.store (before.observed f) (after.observed f)).getD none }
  else .error (internalError "DataError")

/-! ### The checks of a PATCH -/

/-- `ConfigurationUpdate`.  A field that is not set is left alone; `spec` and `coded` are read for
the fields of the block and for the coded fields. -/
structure ConfigurationUpdate where
  mode : Option ConfigurationMode := none
  catalogueMatchStatus : Option ConfigurationMatchStatus := none
  matchMethod : Option ConfigurationMatchMethod := none
  catalogueVariantId : Option Uuid := none
  spec : SpecField → Option (Option Value) := fun _ => none
  coded : SpecField → Option (Option Value) := fun _ => none
  observed : ObservedField → Option (Option Value) := fun _ => none

/-- `to_camel` of a field name. -/
def toCamel (name : String) : String :=
  match name.splitOn "_" with
  | [] => ""
  | first :: rest => first ++ String.join (rest.map String.capitalize)

def camelNames (fields : List SpecField) : String :=
  ", ".intercalate (fields.map fun f => toCamel f.name)

/-- `date(1981, 1, 1)`, in days. -/
def preIsoVinCutoff : ℤ := 723181

def isChassisNumber : Option Value → Bool
  | some (.text vin) => vin ≠ "" && !isValidVin vin
  | _ => false

def requireVinOrPre1981ChassisNumber (vin firstRegistration : Option Value) : Result Unit :=
  if isChassisNumber vin then
    match firstRegistration with
    | some (.day day) => if day < preIsoVinCutoff then .ok () else refused
    | _ => refused
  else .ok ()
where
  refused := .error (unprocessableEntityError
    ("Not a valid VIN. A chassis number that is not a 17-character VIN is accepted only for a car " ++
      "first registered before 1981 - enter that first registration.")
    [("field", "vin"), ("reason", "chassis_number_requires_pre_1981_registration")])

/-- `repr` of a text: double quotes where it has single ones and no double ones. -/
def reprText (isPrintable : Char → Bool) (s : String) : String :=
  let quote := Char.ofNat (if Char.ofNat 39 ∈ s.toList ∧ Char.ofNat 34 ∉ s.toList then 34 else 39)
  let hex (digits : ℕ) (c : Char) := String.ofList ((Nat.toDigits 16 c.toNat).leftpad digits '0')
  let escape (c : Char) :=
    if c = quote ∨ c.toNat = 92 then "\\".push c
    else if c.toNat = 10 then "\\n"
    else if c.toNat = 13 then "\\r"
    else if c.toNat = 9 then "\\t"
    else if isPrintable c then c.toString
    else if c.toNat < 0x100 then "\\x" ++ hex 2 c
    else if c.toNat < 0x10000 then "\\u" ++ hex 4 c
    else "\\U" ++ hex 8 c
  (String.join (quote.toString :: s.toList.map escape)).push quote

/-- `validate_reference_codes`, of the values a client sent. -/
def validateReferenceCodes (isPrintable : Char → Bool) (activeCodes : String → Option (List String))
    (values : SpecField → Option Value) (fields : List SpecField) : Result Unit := do
  let invalid ← fields.filterMapM fun f =>
    match values f with
    | none => .ok none
    | some value =>
      match activeCodes f.name with
      | none => .error (internalError ("The '" ++ f.name ++ "' reference list is not seeded. Run " ++
          "`alembic upgrade heads` on this deployment — " ++ toCamel f.name ++
          " cannot be validated without it."))
      | some valid =>
        match value with
        | .text code => if code ∈ valid then .ok none else .ok (some (f, code))
        | _ => .ok none
  if invalid = [] then pure ()
  else
    let rendered := ", ".intercalate (invalid.map fun (f, code) =>
      toCamel f.name ++ "=" ++ reprText isPrintable code ++ " (reference list '" ++ f.name ++ "')")
    throw (unprocessableEntityError
      ("Not an active value of the matching reference list: " ++ rendered ++ ".")
      (invalid.map fun (f, code) => (toCamel f.name, code)))

def validateCodedSpecFields (around : Surroundings) (data : ConfigurationUpdate) : Result Unit :=
  validateReferenceCodes around.isPrintable around.activeCodes
    (fun f => if f ∈ codedSpecFields then (data.coded f).join else (data.spec f).join)
    (codedSpecFields ++ specReferenceFields)

/-- `_check_coded_field_patch`: the coded fields that change. -/
def checkCodedFieldPatch (configuration : VehicleConfiguration) (data : ConfigurationUpdate) :
    Result (List SpecField) :=
  let sent := codedSpecFields.filter fun f => (data.coded f).isSome
  let changed := sent.filter fun f => data.coded f ≠ some (configuration.spec f)
  if configuration.source = .provider then
    if changed ≠ [] then
      .error (unprocessableEntityError
        ("A provider configuration's coded fields come from the catalogue and cannot be changed: " ++
          camelNames changed ++ ".")
        [("reason", "coded_field_locked"), ("fields", camelNames changed)])
    else .ok []
  else
    let cleared := sent.filter fun f => data.coded f = some none
    if cleared ≠ [] then
      .error (unprocessableEntityError
        ("A manual configuration's coded fields cannot be cleared: " ++ camelNames cleared ++ ".")
        [("reason", "coded_field_required"), ("fields", camelNames cleared)])
    else .ok changed

/-! ### A PATCH -/

def patchSpecField (data : ConfigurationUpdate) (configuration : VehicleConfiguration) (f : SpecField) :
    VehicleConfiguration :=
  match data.spec f with
  | none => configuration
  | some new =>
    if configuration.spec f = new then configuration
    else { configuration with
      spec := Function.update configuration.spec f new
      overriddenFields :=
        if configuration.catalogueVariantId ≠ none ∧ f ∉ configuration.overriddenFields then
          configuration.overriddenFields ++ [f]
        else configuration.overriddenFields }

def patchCodedField (data : ConfigurationUpdate) (configuration : VehicleConfiguration) (f : SpecField) :
    VehicleConfiguration :=
  { configuration with spec := Function.update configuration.spec f (data.coded f).join }

def variantLabel (variant : ModelVariant) : String :=
  let parts := [variant.brandDisplayName.getD "", variant.modelGroupName.getD "", variant.name]
  String.ofList (((" ".intercalate (parts.filter fun part => part ≠ "")).toList).take 200)

/-- The part of a PATCH that is about the match status and the variant. -/
def patchVariant (around : Surroundings) (now : Time) (data : ConfigurationUpdate)
    (configuration : VehicleConfiguration) : Result VehicleConfiguration :=
  let configuration := { configuration with
    catalogueMatchStatus := data.catalogueMatchStatus.getD configuration.catalogueMatchStatus }
  match data.catalogueVariantId with
  | none => .ok configuration
  | some variantId =>
    if configuration.catalogueVariantId = some variantId then .ok configuration
    else do
      let variant ← orNotFound (around.variants.lookup variantId)
        s!"Catalogue variant {variantId} was not found."
      pure { configuration with
        catalogueVariantId := some variantId
        catalogueVariantLabel := some (variantLabel variant)
        catalogueVariantLabelRefreshedAt := some now }

def linkVehicleIfVinResolves (around : Surroundings) (now : Time)
    (configuration : VehicleConfiguration) : VehicleConfiguration :=
  let vehicle := match configuration.observed .vin with
    | some (.text vin) =>
      if vin ≠ "" ∧ !isChassisNumber (some (.text vin)) then around.vehicleByVin vin else none
    | _ => none
  { configuration with
    vehicleId := vehicle.map Prod.fst
    vehicleLabel := vehicle.map Prod.snd
    vehicleLabelRefreshedAt := vehicle.map fun _ => now }

/-- The part of a PATCH that is about the observed fields. -/
def patchObserved (around : Surroundings) (now : Time) (data : ConfigurationUpdate)
    (configuration : VehicleConfiguration) : VehicleConfiguration :=
  let configuration := { configuration with
    mode := data.mode.getD configuration.mode
    matchMethod := data.matchMethod.getD configuration.matchMethod
    observed := fun f => (data.observed f).getD (configuration.observed f) }
  if (data.observed .vin).isSome then linkVehicleIfVinResolves around now configuration
  else configuration

def updateConfiguration (around : Surroundings) (now : Time) (actorId : Uuid)
    (data : ConfigurationUpdate) (configuration : VehicleConfiguration) :
    Result VehicleConfiguration :=
  if data.mode.getD configuration.mode ≠ configuration.mode then
    .error (unprocessableEntityError
      "A saved configuration's mode cannot be changed; copy it into a new configuration instead."
      [("reason", "configuration_mode_fixed")])
  else do
    requireVinOrPre1981ChassisNumber ((data.observed .vin).getD (configuration.observed .vin))
      ((data.observed .firstRegistrationDate).getD (configuration.observed .firstRegistrationDate))
    validateCodedSpecFields around data
    let codedChanges ← checkCodedFieldPatch configuration data
    let coded := codedChanges.foldl (patchCodedField data) configuration
    let block := specBlockFields.foldl (patchSpecField data) coded
    let matched ← patchVariant around now data block
    let patched := patchObserved around now data matched
    flush configuration { patched with
      updatedBy := some actorId
      version := configuration.version + 1 }

/-! ### The fill -/

def fillable (variant : ModelVariant) (configuration : VehicleConfiguration) : List SpecField :=
  SpecField.all.filter fun f =>
    !(f ∈ configuration.overriddenFields || variant.spec f = none || configuration.spec f ≠ none)

def fillConfiguration (variants : Table Uuid ModelVariant) (configuration : VehicleConfiguration) :
    Result (Option VehicleConfiguration) :=
  match configuration.catalogueVariantId.bind variants.lookup with
  | none => .error (internalError "KeyError")
  | some variant =>
    let after := fillable variant configuration
    if after = [] then .ok none
    else (flush configuration { configuration with
      spec := fun f => if f ∈ after then variant.spec f else configuration.spec f
      updatedBy := none
      version := configuration.version + 1 }).map some

def isFilled (variantIds : List Uuid) (configuration : VehicleConfiguration) : Bool :=
  configuration.source = .provider &&
    match configuration.catalogueVariantId with
    | none => false
    | some variantId => variantIds.contains variantId

def fillRow (variants : Table Uuid ModelVariant) (filled : Table Uuid VehicleConfiguration × ℕ)
    (id : Uuid) : Result (Table Uuid VehicleConfiguration × ℕ) :=
  match filled.1.lookup id with
  | none => .ok filled
  | some configuration =>
    match fillConfiguration variants configuration with
    | .error e => .error e
    | .ok none => .ok filled
    | .ok (some new) => .ok (filled.1.insert id new, filled.2 + 1)

/-- `fill_null_spec_fields_from_variants`, and how many configurations changed. -/
def fillNullSpecFieldsFromVariants (variants : Table Uuid ModelVariant) (variantIds : List Uuid)
    (configurations : Table Uuid VehicleConfiguration) :
    Result (Table Uuid VehicleConfiguration × ℕ) :=
  ((configurations.selectKeys fun _ row => isFilled variantIds row).mergeSort).foldlM
    (fillRow variants) (configurations, 0)

/-! ### The re-sync -/

structure ResyncField where
  field : SpecField
  current : Option Value
  catalogue : Option Value
  overridden : Bool

/-- `_catalogue_variant_or_409` -/
def catalogueVariantOr409 (around : Surroundings) (configuration : VehicleConfiguration) :
    Result ModelVariant :=
  match configuration.catalogueVariantId with
  | none => .error (conflictError "A configuration with no catalogue variant cannot be re-synced."
      [("reason", "no_catalogue_variant")])
  | some variantId =>
    match around.variants.lookup variantId with
    | none => .error (conflictError "The configuration's catalogue variant no longer exists."
        [("reason", "catalogue_variant_missing")])
    | some variant => .ok variant

def previewResync (around : Surroundings) (configuration : VehicleConfiguration) :
    Result (List ResyncField) := do
  let variant ← catalogueVariantOr409 around configuration
  pure ((SpecField.all.filter fun f => configuration.spec f ≠ variant.spec f).map fun f =>
    ⟨f, configuration.spec f, variant.spec f, f ∈ configuration.overriddenFields⟩)

def applyResync (around : Surroundings) (actorId : Uuid) (fields : List String)
    (configuration : VehicleConfiguration) : Result VehicleConfiguration :=
  let unknown := (fields.filter fun name => name ∉ SpecField.all.map (·.name)).dedup.mergeSort
  if fields = [] then
    .error (unprocessableEntityError "Choose at least one field to re-sync." [("reason", "no_fields")])
  else if unknown ≠ [] then
    .error (unprocessableEntityError "Unknown specification fields."
      [("reason", "unknown_fields"), ("fields", ", ".intercalate unknown)])
  else do
    let variant ← catalogueVariantOr409 around configuration
    flush configuration { configuration with
      spec := fun f => if f.name ∈ fields then variant.spec f else configuration.spec f
      overriddenFields := configuration.overriddenFields.filter fun f => f.name ∉ fields
      updatedBy := some actorId
      version := configuration.version + 1 }

/-! ### What a flush keeps -/

section
variable {before after row : VehicleConfiguration} {f : SpecField}

theorem store_self (column : ColumnType) (value : Option Value) :
    column.store value value = some value := if_pos rfl

variable {old new kept : Option Value}

theorem store_of_ne {column : ColumnType} (hne : old ≠ new) (h : column.store old new = some kept) :
    kept = new.bind column.hold := by
  unfold ColumnType.store at h
  rw [if_neg hne] at h
  cases new with
  | none => exact (Option.some.inj h).symm
  | some value =>
    obtain ⟨held, hheld, rfl⟩ := Option.map_eq_some_iff.mp h
    exact hheld.symm

theorem store_of_held {column : ColumnType}
    (hheld : ∀ value, new = some value → column.hold value = some value)
    (h : column.store old new = some kept) : kept = new := by
  by_cases hne : old = new
  · rw [hne, store_self] at h
    exact (Option.some.inj h).symm
  · rw [store_of_ne hne h]
    cases new with
    | none => rfl
    | some value => exact hheld value rfl

theorem flush_spec (h : flush before after = .ok row) :
    (∀ f : SpecField, f.column.store (before.spec f) (after.spec f) = some (row.spec f)) ∧
      row.overriddenFields = after.overriddenFields := by
  unfold flush at h
  split at h
  · next hfits =>
    cases h
    refine ⟨fun f => ?_, rfl⟩
    obtain ⟨kept, hkept⟩ := Option.isSome_iff_exists.mp
      (List.all_eq_true.mp hfits.1 f (SpecField.mem_all f))
    dsimp only
    rw [hkept]
    rfl
  · cases h

theorem flush_variant (h : flush before after = .ok row) :
    row.catalogueVariantId = after.catalogueVariantId := by
  unfold flush at h
  split at h
  · cases h
    rfl
  · cases h

theorem flush_same (h : flush before after = .ok row) (hf : after.spec f = before.spec f) :
    row.spec f = before.spec f := by
  have hstore := (flush_spec h).1 f
  rw [hf, store_self] at hstore
  exact (Option.some.inj hstore).symm

theorem flush_changed (h : flush before after = .ok row) (hf : after.spec f = new)
    (hne : before.spec f ≠ new) : row.spec f = new.bind f.column.hold := by
  have hstore := (flush_spec h).1 f
  rw [hf] at hstore
  exact store_of_ne hne hstore

theorem flush_held {variant : ModelVariant} (h : flush before after = .ok row)
    (hf : after.spec f = variant.spec f) : row.spec f = variant.spec f := by
  have hstore := (flush_spec h).1 f
  rw [hf] at hstore
  exact store_of_held (variant.held f) hstore

end

/-! ### What a PATCH does to the block -/

section
variable {data : ConfigurationUpdate} {configuration row : VehicleConfiguration} {f : SpecField}
  {around : Surroundings} {now : Time} {actorId : Uuid}

theorem patchSpecField_spec (g : SpecField) : (patchSpecField data configuration g).spec f =
    if f = g then (data.spec f).getD (configuration.spec f) else configuration.spec f := by
  unfold patchSpecField
  by_cases hfg : f = g
  · rw [if_pos hfg, ← hfg]
    cases data.spec f with
    | none => rfl
    | some new =>
      dsimp only
      split
      · next heq => exact heq
      · exact Function.update_self ..
  · rw [if_neg hfg]
    cases data.spec g with
    | none => rfl
    | some new =>
      dsimp only
      split
      · rfl
      · exact Function.update_of_ne hfg ..

theorem patchSpecField_variant (g : SpecField) :
    (patchSpecField data configuration g).catalogueVariantId = configuration.catalogueVariantId := by
  unfold patchSpecField
  cases data.spec g with
  | none => rfl
  | some new =>
    dsimp only
    split <;> rfl

theorem patchSpecField_overridden (g : SpecField) (hf : f ∈ configuration.overriddenFields) :
    f ∈ (patchSpecField data configuration g).overriddenFields := by
  unfold patchSpecField
  cases data.spec g with
  | none => exact hf
  | some new =>
    dsimp only
    split
    · exact hf
    · dsimp only
      split
      · exact List.mem_append_left [g] hf
      · exact hf

variable {new : Option Value}

theorem patchSpecField_changed (hvariant : configuration.catalogueVariantId ≠ none)
    (hsent : data.spec f = some new) (hne : configuration.spec f ≠ new) :
    f ∈ (patchSpecField data configuration f).overriddenFields := by
  unfold patchSpecField
  rw [hsent]
  dsimp only
  rw [if_neg hne]
  dsimp only
  split
  · exact List.mem_append_right _ (List.mem_singleton_self f)
  · next hlisted => exact not_not.mp fun hf => hlisted ⟨hvariant, hf⟩

theorem patchSpecFields_overridden (fields : List SpecField)
    (hf : f ∈ configuration.overriddenFields) :
    f ∈ (fields.foldl (patchSpecField data) configuration).overriddenFields := by
  induction fields generalizing configuration with
  | nil => exact hf
  | cons g fields ih => exact ih (patchSpecField_overridden g hf)

theorem patchSpecFields_unsent (fields : List SpecField) (hf : data.spec f = none) :
    (fields.foldl (patchSpecField data) configuration).spec f = configuration.spec f := by
  induction fields generalizing configuration with
  | nil => rfl
  | cons g fields ih =>
    rw [List.foldl_cons, ih, patchSpecField_spec, hf]
    exact ite_self _

variable {fields : List SpecField}

theorem patchSpecFields_sent (hmem : f ∈ fields) (hsent : data.spec f = some new)
    (configuration : VehicleConfiguration) :
    (fields.foldl (patchSpecField data) configuration).spec f = new ∧
      (configuration.catalogueVariantId ≠ none → configuration.spec f ≠ new →
        f ∈ (fields.foldl (patchSpecField data) configuration).overriddenFields) := by
  induction fields generalizing configuration with
  | nil => cases hmem
  | cons g fields ih =>
    rw [List.foldl_cons]
    by_cases hrest : f ∈ fields
    · obtain ⟨hspec, hlisted⟩ := ih hrest (patchSpecField data configuration g)
      refine ⟨hspec, fun hvariant hne => ?_⟩
      by_cases hfg : f = g
      · subst hfg
        exact patchSpecFields_overridden fields (patchSpecField_changed hvariant hsent hne)
      · refine hlisted (by rwa [patchSpecField_variant]) ?_
        rwa [patchSpecField_spec, if_neg hfg]
    · obtain rfl : f = g := (List.mem_cons.mp hmem).resolve_right hrest
      -- no later turn of the loop is about the field
      have hlater : ∀ (rest : List SpecField) (c : VehicleConfiguration), f ∉ rest →
          (rest.foldl (patchSpecField data) c).spec f = c.spec f := by
        intro rest
        induction rest with
        | nil => exact fun _ _ => rfl
        | cons h rest ihrest =>
          intro c hnot
          rw [List.foldl_cons, ihrest _ fun hf => hnot (List.mem_cons_of_mem h hf),
            patchSpecField_spec, if_neg fun heq => hnot (List.mem_cons.mpr (Or.inl heq))]
      rw [hlater fields _ hrest, patchSpecField_spec, if_pos rfl, hsent]
      exact ⟨rfl, fun hvariant hne =>
        patchSpecFields_overridden fields (patchSpecField_changed hvariant hsent hne)⟩

theorem patchCodedFields_spec (hf : f ∉ fields) :
    (fields.foldl (patchCodedField data) configuration).spec f = configuration.spec f := by
  induction fields generalizing configuration with
  | nil => rfl
  | cons g fields ih =>
    rw [List.foldl_cons, ih fun hmem => hf (List.mem_cons_of_mem g hmem)]
    exact Function.update_of_ne (fun heq => hf (List.mem_cons.mpr (Or.inl heq))) ..

theorem patchCodedFields_rest (data : ConfigurationUpdate) (fields : List SpecField)
    (configuration : VehicleConfiguration) :
    (fields.foldl (patchCodedField data) configuration).overriddenFields =
        configuration.overriddenFields ∧
      (fields.foldl (patchCodedField data) configuration).catalogueVariantId =
        configuration.catalogueVariantId := by
  induction fields generalizing configuration with
  | nil => exact ⟨rfl, rfl⟩
  | cons g fields ih => exact ih _

theorem patchVariant_spec (h : patchVariant around now data configuration = .ok row) :
    row.spec = configuration.spec ∧ row.overriddenFields = configuration.overriddenFields := by
  unfold patchVariant at h
  dsimp only at h
  split at h
  · cases h
    exact ⟨rfl, rfl⟩
  · split at h
    · cases h
      exact ⟨rfl, rfl⟩
    · obtain ⟨variant, -, h⟩ := Result.of_bind h
      cases h
      exact ⟨rfl, rfl⟩

theorem patchObserved_spec (around : Surroundings) (now : Time) (data : ConfigurationUpdate)
    (configuration : VehicleConfiguration) :
    (patchObserved around now data configuration).spec = configuration.spec ∧
      (patchObserved around now data configuration).overriddenFields =
        configuration.overriddenFields := by
  unfold patchObserved
  dsimp only
  split <;> exact ⟨rfl, rfl⟩

theorem checkCodedFieldPatch_subset {changed : List SpecField}
    (h : checkCodedFieldPatch configuration data = .ok changed) : ∀ g ∈ changed, g ∈ codedSpecFields := by
  unfold checkCodedFieldPatch at h
  dsimp only at h
  split at h
  · split at h
    · cases h
    · cases h
      exact fun g hg => absurd hg List.not_mem_nil
  · split at h
    · cases h
    · cases h
      exact fun g hg => (List.mem_filter.mp (List.mem_filter.mp hg).1).1

theorem block_not_coded (hf : f ∈ specBlockFields) : f ∉ codedSpecFields := by
  have : ∀ g ∈ specBlockFields, g ∉ codedSpecFields := by decide
  exact this f hf

/-- **What an accepted PATCH does to the block.**  A field that is not sent stays; one that changes
takes the value its column keeps, and is on the list where a variant was set. -/
structure Patched (data : ConfigurationUpdate) (configuration row : VehicleConfiguration) : Prop where
  unsent : ∀ f ∈ specBlockFields, data.spec f = none → row.spec f = configuration.spec f
  sent : ∀ f ∈ specBlockFields, ∀ new, data.spec f = some new → configuration.spec f ≠ new →
    row.spec f = new.bind f.column.hold
  listed : ∀ f ∈ specBlockFields, ∀ new, data.spec f = some new → configuration.spec f ≠ new →
    configuration.catalogueVariantId ≠ none → f ∈ row.overriddenFields
  grows : ∀ f ∈ configuration.overriddenFields, f ∈ row.overriddenFields

theorem updateConfiguration_spec
    (h : updateConfiguration around now actorId data configuration = .ok row) :
    Patched data configuration row := by
  unfold updateConfiguration at h
  split at h
  · cases h
  obtain ⟨-, -, h⟩ := Result.of_bind h
  obtain ⟨-, -, h⟩ := Result.of_bind h
  obtain ⟨changed, hchanged, h⟩ := Result.of_bind h
  obtain ⟨matched, hmatched, h⟩ := Result.of_bind h
  dsimp only at h
  obtain ⟨hspec, hlist⟩ := patchVariant_spec hmatched
  obtain ⟨hspec', hlist'⟩ := patchObserved_spec around now data matched
  obtain ⟨hcodedList, hcodedVariant⟩ := patchCodedFields_rest data changed configuration
  have hcoded : ∀ f ∈ specBlockFields,
      (changed.foldl (patchCodedField data) configuration).spec f = configuration.spec f :=
    fun f hf => patchCodedFields_spec fun hmem =>
      block_not_coded hf (checkCodedFieldPatch_subset hchanged f hmem)
  have hafter : ∀ f, (patchObserved around now data matched).spec f =
      (specBlockFields.foldl (patchSpecField data)
        (changed.foldl (patchCodedField data) configuration)).spec f := fun f => by
    rw [hspec', hspec]
  have hnames : row.overriddenFields = (specBlockFields.foldl (patchSpecField data)
      (changed.foldl (patchCodedField data) configuration)).overriddenFields := by
    rw [(flush_spec h).2, ← hlist, ← hlist']
  constructor
  · intro f hf hsent
    refine flush_same h ?_
    dsimp only
    rw [hafter, patchSpecFields_unsent specBlockFields hsent, hcoded f hf]
  · intro f hf new hsent hne
    have hnew := (patchSpecFields_sent hf hsent
      (changed.foldl (patchCodedField data) configuration)).1
    exact flush_changed h (by rw [← hnew, ← hafter]) hne
  · intro f hf new hsent hne hvariant
    rw [hnames]
    refine (patchSpecFields_sent hf hsent _).2 (by rwa [hcodedVariant]) ?_
    rwa [hcoded f hf]
  · intro f hf
    rw [hnames]
    exact patchSpecFields_overridden specBlockFields (by rwa [hcodedList])

end

/-! ### What a fill and a re-sync do -/

section
variable {variants : Table Uuid ModelVariant} {configuration row : VehicleConfiguration} {f : SpecField}
  {around : Surroundings} {actorId : Uuid} {fields : List String}

theorem fillConfiguration_spec (h : fillConfiguration variants configuration = .ok (some row)) :
    row.overriddenFields = configuration.overriddenFields ∧
      ∀ f, f ∈ configuration.overriddenFields ∨ configuration.spec f ≠ none →
        row.spec f = configuration.spec f := by
  unfold fillConfiguration at h
  split at h
  · cases h
  · next variant _ =>
    dsimp only at h
    split at h
    · cases h
    · obtain ⟨flushed, hflush, heq⟩ := Result.map_eq_ok.mp h
      cases heq
      refine ⟨(flush_spec hflush).2, fun f hf => flush_same hflush (if_neg fun hmem => ?_)⟩
      have hopen := (List.mem_filter.mp hmem).2
      rcases hf with hf | hf
      · simp [hf] at hopen
      · simp [hf] at hopen

theorem applyResync_spec (h : applyResync around actorId fields configuration = .ok row) :
    (∃ variantId variant, configuration.catalogueVariantId = some variantId ∧
      around.variants.lookup variantId = some variant ∧ row.catalogueVariantId = some variantId ∧
      ∀ f : SpecField, f.name ∈ fields → row.spec f = variant.spec f) ∧
    (∀ f : SpecField, f.name ∉ fields → row.spec f = configuration.spec f) ∧
    row.overriddenFields = configuration.overriddenFields.filter fun f => f.name ∉ fields := by
  unfold applyResync at h
  dsimp only at h
  split at h
  · cases h
  split at h
  · cases h
  obtain ⟨variant, hvariant, h⟩ := Result.of_bind h
  refine ⟨?_, fun f hf => flush_same h (if_neg hf), (flush_spec h).2⟩
  unfold catalogueVariantOr409 at hvariant
  split at hvariant
  · cases hvariant
  · next variantId hid =>
    split at hvariant
    · cases hvariant
    · next found hfound =>
      cases hvariant
      refine ⟨variantId, variant, hid, hfound, ?_, fun f hf => flush_held h (if_pos hf)⟩
      rw [flush_variant h]
      exact hid

theorem applyResync_names (h : applyResync around actorId fields configuration = .ok row) :
    ∀ name ∈ fields, ∃ f : SpecField, f.name = name := by
  intro name hname
  unfold applyResync at h
  dsimp only at h
  split at h
  · cases h
  split at h
  · cases h
  · next hknown =>
    have hempty := not_not.mp hknown
    by_contra hnone
    have hmem : name ∈ (fields.filter fun name => name ∉ SpecField.all.map (·.name)).dedup.mergeSort := by
      rw [List.mem_mergeSort, List.mem_dedup, List.mem_filter]
      refine ⟨hname, decide_eq_true fun hmem => ?_⟩
      obtain ⟨f, -, hf⟩ := List.mem_map.mp hmem
      exact hnone ⟨f, hf⟩
    rw [hempty] at hmem
    cases hmem

end

end Nexotec.Configurations
