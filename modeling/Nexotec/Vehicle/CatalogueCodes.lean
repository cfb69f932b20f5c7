/-
The coded fields of the catalogue mirror (`app/vehicle/services/provider.py`,
`catalogue_sync.py`, `catalogue_admin.py`).

A provider describes a variant in its own codes.  A code that `ProviderCodeMap`
maps becomes the value of a field or a feature of an option, one that it does not
map is recorded as a gap that an admin resolves later.  Beside the values the mirror
keeps the raw codes the provider sent last.
-/
import Mathlib.Data.Finset.Basic
import Mathlib.Data.List.Dedup
import Nexotec.Core.Base
import Nexotec.Lib.RowWrites

namespace Nexotec.CatalogueSync

open RowWrites

/-! ### Codes, mappings and gaps -/

/-- The keys of `_CODED_FIELDS`. -/
inductive CodedField where
  | vehicleKind
  | fuelType
  | bodyStyle
  | drivetrain
  | transmission
  deriving DecidableEq

def CodedField.all : List CodedField := [.vehicleKind, .fuelType, .bodyStyle, .drivetrain, .transmission]

@[simp] theorem CodedField.mem_all (f : CodedField) : f ∈ CodedField.all := by
  cases f <;> decide

/-- A semantic code group, which is also the code of its reference list. -/
inductive CodeGroup where
  | field (f : CodedField)
  | equipmentFeature
  | other (name : String)
  deriving DecidableEq

def CodeGroup.name : CodeGroup → String
  | .field .vehicleKind => "vehicle_kind"
  | .field .fuelType => "fuel_type"
  | .field .bodyStyle => "body_style"
  | .field .drivetrain => "drivetrain"
  | .field .transmission => "transmission"
  | .equipmentFeature => "equipment_feature"
  | .other name => name

/-- The natural key of `ProviderCodeMap` and `MappingGap`. -/
structure CodeKey where
  provider : String
  vehicleKind : String
  codeGroup : CodeGroup
  providerCode : String
  deriving DecidableEq

structure CanonicalValue where
  listCode : CodeGroup
  valueCode : String
  deriving DecidableEq

structure MappingGap where
  resolved : Bool := false
  resolvedValueCode : Option String := none

/-- `resolve_mapping_gap` from the locked gap, the active values of its list and the
existing row of `ProviderCodeMap`: whether there is anything to write. -/
def resolveMappingGap (key : CodeKey) (gap : MappingGap) (active : Option (List String))
    (existing : Option CanonicalValue) (target : CanonicalValue) : Result Bool :=
  let group := key.codeGroup.name
  let list := target.listCode.name
  let value := target.valueCode
  if gap.resolved ∧ target.listCode = key.codeGroup ∧ gap.resolvedValueCode = some value then .ok false
  else if target.listCode ≠ key.codeGroup then
    .error (unprocessableEntityError
      s!"A '{group}' code can only be mapped to a value of the '{group}' reference list, not '{list}'."
      [("codeGroup", group), ("canonicalListCode", list)])
  else
    match active with
    | none =>
      .error (conflictError
        s!"The code group '{group}' has no reference list, so this gap cannot be resolved until one exists."
        [("codeGroup", group)])
    | some values =>
      if value ∉ values then
        .error (unprocessableEntityError
          s!"'{value}' is not an active value of the '{group}' reference list."
          [("canonicalListCode", list), ("canonicalValueCode", value)])
      else
        match existing with
        | none => .ok true
        | some mapped =>
          if mapped = target then .ok true
          else
            let code := key.providerCode
            let mappedList := mapped.listCode.name
            let mappedValue := mapped.valueCode
            .error (conflictError
              s!"Provider code '{code}' is already mapped to {mappedList}/{mappedValue}."
              [("canonicalListCode", mappedList), ("canonicalValueCode", mappedValue)])

theorem resolveMappingGap_ok {key : CodeKey} {gap : MappingGap} {active : Option (List String)}
    {existing : Option CanonicalValue} {target : CanonicalValue}
    (h : resolveMappingGap key gap active existing target = .ok true) :
    target.listCode = key.codeGroup ∧ (existing = none ∨ existing = some target) := by
  simp only [resolveMappingGap] at h
  split at h
  · cases h
  · split at h
    · cases h
    · next hlist =>
      refine ⟨not_not.mp hlist, ?_⟩
      split at h
      · cases h
      · split at h
        · cases h
        · split at h
          · exact .inl rfl
          · split at h
            · next heq => exact .inr (congrArg some heq)
            · cases h

/-! ### Variants -/

/-- `_FILLABLE_MASTER_FIELDS`. -/
inductive MasterField where
  | modelYearTo
  | basePrice
  | werkscode

def MasterField.all : List MasterField := [.modelYearTo, .basePrice, .werkscode]

abbrev MasterField.Value : MasterField → Type
  | .modelYearTo => ℤ
  | .basePrice => Decimal
  | .werkscode => String

/-- `VariantProviderCode`: the code the provider sent last for a field. -/
structure RawCode where
  vehicleKind : String
  providerCode : String
  deriving DecidableEq

def RawCode.key (provider : String) (f : CodedField) (raw : RawCode) : CodeKey :=
  ⟨provider, raw.vehicleKind, .field f, raw.providerCode⟩

/-- The columns an `UPDATE` of the row sets. -/
def RawCode.columns (base new stored : RawCode) : RawCode :=
  ⟨writeColumn base.vehicleKind new.vehicleKind stored.vehicleKind,
    writeColumn base.providerCode new.providerCode stored.providerCode⟩

theorem RawCode.columns_base (base new : RawCode) : RawCode.columns base new base = new := by
  simp only [RawCode.columns, writeColumn_base]

/-- `ModelVariant` with its `ProviderEntityRef` and its `VariantProviderCode` rows. -/
structure ModelVariant where
  provider : String
  fzKey : String
  codes : CodedField → Option String
  master : ∀ m : MasterField, Option m.Value
  version : ℕ := 1
  rawCodes : CodedField → Option RawCode

/-- `UPDATE … SET c = coalesce(c, …), version = version + 1 WHERE … c IS NULL …`. -/
def ModelVariant.fill (codes : CodedField → Option String) (master : ∀ m : MasterField, Option m.Value)
    (variant : ModelVariant) : ModelVariant :=
  if (∃ f ∈ CodedField.all, (codes f).isSome ∧ (variant.codes f).isNone) ∨
      ∃ m ∈ MasterField.all, (master m).isSome ∧ (variant.master m).isNone then
    { variant with
      codes := fun f => (variant.codes f).or (codes f)
      master := fun m => (variant.master m).or (master m)
      version := variant.version + 1 }
  else variant

def noMaster : ∀ m : MasterField, Option m.Value := fun _ => none

/-- The one column of `fill_variants_for_resolved_code`. -/
def onlyCode (f : CodedField) (valueCode : String) : CodedField → Option String :=
  Function.update (fun _ => none) f (some valueCode)

section

variable {codes : CodedField → Option String} {master : ∀ m : MasterField, Option m.Value}
  {variant : ModelVariant}

@[simp] theorem provider_fill : (variant.fill codes master).provider = variant.provider := by
  unfold ModelVariant.fill
  split <;> rfl

@[simp] theorem fzKey_fill : (variant.fill codes master).fzKey = variant.fzKey := by
  unfold ModelVariant.fill
  split <;> rfl

@[simp] theorem rawCodes_fill : (variant.fill codes master).rawCodes = variant.rawCodes := by
  unfold ModelVariant.fill
  split <;> rfl

theorem codes_fill (f : CodedField) :
    (variant.fill codes master).codes f = (variant.codes f).or (codes f) := by
  unfold ModelVariant.fill
  split
  · rfl
  · next hnothing =>
    cases hf : variant.codes f with
    | some v => rfl
    | none =>
      cases hsent : codes f with
      | none => rfl
      | some v =>
        exact absurd (.inl ⟨f, CodedField.mem_all f, by rw [hsent]; rfl, by rw [hf]; rfl⟩) hnothing

/-- One commit of a variant: nothing, or a filled field and one version more. -/
inductive Filled (before after : ModelVariant) : Prop where
  | unchanged (hcodes : after.codes = before.codes) (hmaster : after.master = before.master)
      (hversion : after.version = before.version)
  | filled (hchanged : after.codes ≠ before.codes ∨ after.master ≠ before.master)
      (hversion : after.version = before.version + 1)

theorem filled_fill : Filled variant (variant.fill codes master) := by
  unfold ModelVariant.fill
  split
  · next hsome =>
    refine .filled ?_ rfl
    rcases hsome with ⟨f, -, hsent, hnull⟩ | ⟨m, -, hsent, hnull⟩
    · refine .inl fun heq => ?_
      have hf : (variant.codes f).or (codes f) = variant.codes f := congrFun heq f
      rw [Option.isNone_iff_eq_none.mp hnull, Option.none_or] at hf
      rw [hf] at hsent
      cases hsent
    · refine .inr fun heq => ?_
      have hm : (variant.master m).or (master m) = variant.master m := congrFun heq m
      rw [Option.isNone_iff_eq_none.mp hnull, Option.none_or] at hm
      rw [hm] at hsent
      cases hsent
  · exact .unchanged rfl rfl rfl

end

/-! ### What a provider sends -/

/-- `VariantOptionData`; the adapters strip empty codes. -/
structure VariantOptionData where
  optionCode : String
  equipmentFeatureCodes : List String
  stripped : ∀ code ∈ equipmentFeatureCodes, code ≠ ""

/-- `VariantMasterData`. -/
structure VariantMasterData where
  fzKey : String
  modelYearTo : Option ℤ
  vehicleKindCode : String
  fuelTypeCode : Option String
  bodyStyleCode : Option String
  drivetrainCode : Option String
  transmissionCode : Option String
  basePrice : Option Decimal
  werkscode : Option String

def VariantMasterData.rawCodes (sent : VariantMasterData) : CodedField → Option String
  | .vehicleKind => some sent.vehicleKindCode
  | .fuelType => sent.fuelTypeCode
  | .bodyStyle => sent.bodyStyleCode
  | .drivetrain => sent.drivetrainCode
  | .transmission => sent.transmissionCode

def VariantMasterData.master (sent : VariantMasterData) : ∀ m : MasterField, Option m.Value
  | .modelYearTo => sent.modelYearTo
  | .basePrice => sent.basePrice
  | .werkscode => sent.werkscode

/-- The rows `_record_raw_codes` wants. -/
def VariantMasterData.rawRows (sent : VariantMasterData) (f : CodedField) : Option RawCode :=
  (sent.rawCodes f).map fun code => ⟨sent.vehicleKindCode, code⟩

/-- What `_resolve_code` is asked for a field. -/
def VariantMasterData.key (sent : VariantMasterData) (provider : String) (f : CodedField)
    (code : String) : CodeKey :=
  ⟨provider, sent.vehicleKindCode, .field f, code⟩

def featureKey (provider vehicleKind code : String) : CodeKey :=
  ⟨provider, vehicleKind, .equipmentFeature, code⟩

/-! ### Options -/

structure OptionKey where
  tenantId : Uuid
  variantId : Uuid
  optionCode : String
  deriving DecidableEq

/-- `VariantOption` with its `VariantOptionProviderCode` rows, which are of its
variant's provider, and its `VariantOptionEquipmentFeature` rows. -/
structure VariantOption where
  provider : String
  /-- The vehicle kind of each raw code. -/
  rawCodes : String → Option String := fun _ => none
  features : Finset String := ∅

/-- The rows a visit wants for an option, beside those it has read. -/
structure OptionDraft where
  isNew : Bool
  base : VariantOption
  vehicleKind : String
  /-- `dict.fromkeys(code for code in feature_codes if code)`. -/
  wanted : List String
  features : Finset String

def OptionDraft.rawCodes (draft : OptionDraft) (code : String) : Option String :=
  if code ∈ draft.wanted then some draft.vehicleKind else none

/-- The flushes of a visit on the stored option; `none` is a unique key that is taken
or a row that is gone. -/
def OptionDraft.write (draft : OptionDraft) (stored : Option VariantOption) : Option VariantOption :=
  if draft.isNew ∧ stored.isSome then none
  else
    let option := stored.getD draft.base
    match writeRows writeColumn draft.wanted draft.base.rawCodes draft.rawCodes option.rawCodes with
    | none => none
    | some rawCodes =>
      let added := draft.features \ draft.base.features
      if Disjoint added option.features then
        some ⟨option.provider, rawCodes,
          (option.features \ (draft.base.features \ draft.features)) ∪ added⟩
      else none

theorem OptionDraft.write_base {draft : OptionDraft} {stored : Option VariantOption} {option : VariantOption}
    (h : draft.write stored = some option) (hbase : stored.getD draft.base = draft.base) :
    option = ⟨draft.base.provider, draft.rawCodes, draft.features⟩ := by
  unfold OptionDraft.write at h
  split at h
  · cases h
  · rw [hbase] at h
    dsimp only at h
    rw [writeRows_base writeColumn writeColumn_base] at h
    dsimp only at h
    split at h
    · cases h
      congr 1
      ext code
      simp only [Finset.mem_union, Finset.mem_sdiff]
      tauto
    · cases h

abbrev Options := Table OptionKey VariantOption

/-- `VariantOptionProviderCode` has this row for the option. -/
def VariantOption.records (key : CodeKey) (option : VariantOption) : Bool :=
  option.provider = key.provider ∧ option.rawCodes key.providerCode = some key.vehicleKind

/-- The `SELECT` of `apply_resolved_code_to_options`. -/
def blockedOptions (key : CodeKey) (valueCode : String) (options : Options) : List OptionKey :=
  if key.codeGroup = .equipmentFeature then
    options.selectKeys fun _ option => option.records key ∧ valueCode ∉ option.features
  else []

/-- The `INSERT`s of `apply_resolved_code_to_options`; a feature that is there already
violates its unique key. -/
def addFeature (valueCode : String) (blocked : List OptionKey) (options : Options) : Option Options :=
  if ∃ k ∈ blocked, (options.lookup k).any fun option => valueCode ∈ option.features then none
  else some (options.updateAll fun k option =>
    if k ∈ blocked then { option with features := insert valueCode option.features } else option)

abbrev Variants := Table Uuid ModelVariant

/-- The `IN (SELECT …)` of `fill_variants_for_resolved_code`. -/
def blockedVariants (key : CodeKey) (variants : Variants) : List Uuid :=
  match key.codeGroup with
  | .field f => variants.selectKeys fun _ variant =>
      variant.provider = key.provider ∧
        variant.rawCodes f = some ⟨key.vehicleKind, key.providerCode⟩ ∧ (variant.codes f).isNone
  | .equipmentFeature | .other _ => []

/-- The `UPDATE` of `fill_variants_for_resolved_code`. -/
def fillVariants (key : CodeKey) (valueCode : String) (blocked : List Uuid) (variants : Variants) :
    Variants :=
  match key.codeGroup with
  | .field f => variants.updateAll fun id variant =>
      if id ∈ blocked then variant.fill (onlyCode f valueCode) noMaster else variant
  | .equipmentFeature | .other _ => variants

end Nexotec.CatalogueSync
