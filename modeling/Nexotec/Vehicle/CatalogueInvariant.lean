/-
What holds of the catalogue mirror whatever runs beside what.

A step of one session leaves the others what they rely on: mappings stay, an unmapped
code stays unmapped while its gap is locked, and a variant only gains values, one
version for each commit that changes it.  So a visit that comes to its commit still
knows of every code it has resolved that it is mapped as it was then, or unmapped and
locked.

* `Evolves`, `variants_evolve` — what a step makes of a variant;
* `Settled`, `Knows` — what a session knows;
* `knows_moves`, `kept_moves` — what a move keeps of both.
-/
import Nexotec.Vehicle.CatalogueVisits

namespace Nexotec.CatalogueSync

open RowWrites Locks Interleaving

variable {ι : Type} {i j : ι} {ch : Choice} {sh sh' : Shared ι} {lo lo' : Session}

/-! ### Variants -/

/-- Set fields stay, and the version counts the changes. -/
structure Evolves (before after : ModelVariant) : Prop where
  provider : after.provider = before.provider
  fzKey : after.fzKey = before.fzKey
  kept : ∀ f value, before.codes f = some value → after.codes f = some value
  filled : Filled before after

theorem Evolves.refl (variant : ModelVariant) : Evolves variant variant :=
  ⟨rfl, rfl, fun _ _ h => h, .unchanged rfl rfl rfl⟩

theorem evolves_fill (variant : ModelVariant) (codes : CodedField → Option String)
    (master : ∀ m : MasterField, Option m.Value) (rows : CodedField → Option RawCode) :
    Evolves variant { variant.fill codes master with rawCodes := rows } where
  provider := provider_fill
  fzKey := fzKey_fill
  kept f value h := by
    change (variant.fill codes master).codes f = some value
    rw [codes_fill, h, Option.some_or]
  filled := by
    cases (filled_fill : Filled variant (variant.fill codes master)) with
    | unchanged hcodes hmaster hversion => exact .unchanged hcodes hmaster hversion
    | filled hchanged hversion => exact .filled hchanged hversion

variable {v : Visit} {variants variants' : Variants}

theorem writeVariant_eq_some (h : v.writeVariant variants = some variants') :
    (v.found = none ∧ variants.lookup v.variantId = none ∧
      variants' = variants.insert v.variantId
        { provider := v.provider, fzKey := v.sent.fzKey, codes := v.codes, master := v.sent.master,
          rawCodes := v.sent.rawRows }) ∨
    ∃ found stored rows, v.found = some found ∧ variants.lookup v.variantId = some stored ∧
      writeRows RawCode.columns CodedField.all v.baseRows v.sent.rawRows stored.rawCodes = some rows ∧
      variants' = variants.insert v.variantId { stored.fill v.codes v.master with rawCodes := rows } := by
  unfold Visit.writeVariant at h
  split at h
  · next hfound hstored =>
    cases h
    exact .inl ⟨hfound, hstored, rfl⟩
  · next found stored hfound hstored =>
    obtain ⟨rows, hrows, rfl⟩ := Option.map_eq_some_iff.mp h
    exact .inr ⟨found, stored, rows, hfound, hstored, hrows, rfl⟩
  · cases h
  · cases h

variable {id : Uuid}

theorem lookup_writeVariant_ne (h : v.writeVariant variants = some variants')
    (hne : id ≠ v.variantId) : variants'.lookup id = variants.lookup id := by
  rcases writeVariant_eq_some h with ⟨_, _, rfl⟩ | ⟨_, _, _, _, _, _, rfl⟩
  · exact AList.lookup_insert_ne hne
  · exact AList.lookup_insert_ne hne

variable {variant : ModelVariant}

theorem writeVariant_evolves (h : v.writeVariant variants = some variants')
    (hid : variants.lookup id = some variant) :
    ∃ variant', variants'.lookup id = some variant' ∧ Evolves variant variant' := by
  by_cases heq : id = v.variantId
  · subst heq
    rcases writeVariant_eq_some h with ⟨-, hnone, -⟩ | ⟨-, stored, rows, -, hstored, -, rfl⟩
    · rw [hnone] at hid
      cases hid
    · obtain rfl := Option.mem_unique hstored hid
      exact ⟨_, AList.lookup_insert _, evolves_fill ..⟩
  · exact ⟨variant, (lookup_writeVariant_ne h heq).trans hid, .refl variant⟩

variable {key : CodeKey} {value : String} {ids : List Uuid}

theorem lookup_fillVariants (hid : variants.lookup id = some variant) :
    (fillVariants key value ids variants).lookup id = some
      (match key.codeGroup with
        | .field f => if id ∈ ids then variant.fill (onlyCode f value) noMaster else variant
        | .equipmentFeature | .other _ => variant) := by
  unfold fillVariants
  cases key.codeGroup with
  | field f =>
    change (Table.updateAll _ variants).lookup id = _
    rw [Table.lookup_updateAll, hid]
    rfl
  | equipmentFeature => exact hid
  | other name => exact hid

theorem fillVariants_evolves (hid : variants.lookup id = some variant) :
    ∃ variant', (fillVariants key value ids variants).lookup id = some variant' ∧
      Evolves variant variant' := by
  refine ⟨_, lookup_fillVariants hid, ?_⟩
  split
  · split
    · next f _ _ =>
      have hrows : (variant.fill (onlyCode f value) noMaster).rawCodes = variant.rawCodes := rawCodes_fill
      have hevolves := evolves_fill variant (onlyCode f value) noMaster variant.rawCodes
      rwa [← hrows] at hevolves
    · exact .refl variant
  · exact .refl variant
  · exact .refl variant

/-! ### Options -/

variable {options options' : Options} {k : OptionKey} {option : VariantOption}

theorem writeDrafts_cases {drafts : Table OptionKey OptionDraft}
    (h : writeDrafts drafts options = some options') (hk : options'.lookup k = some option) :
    options.lookup k = some option ∨
      ∃ draft, drafts.lookup k = some draft ∧ draft.write (options.lookup k) = some option := by
  unfold writeDrafts at h
  split at h
  · cases h
    rcases Table.lookup_insertAll_cases hk with hmem | ⟨-, hold⟩
    · obtain ⟨⟨k', draft⟩, he, hwrite⟩ := List.mem_filterMap.mp hmem
      obtain ⟨option', hoption, heq⟩ := Option.map_eq_some_iff.mp hwrite
      cases heq
      exact .inr ⟨draft, Table.lookup_eq_some_iff_mem.mpr he, hoption⟩
    · exact .inl hold
  · cases h

theorem provider_write {draft : OptionDraft} {stored : Option VariantOption}
    (h : draft.write stored = some option) :
    option.provider = (stored.getD draft.base).provider := by
  unfold OptionDraft.write at h
  split at h
  · cases h
  · dsimp only at h
    split at h
    · cases h
    · split at h
      · cases h
        rfl
      · cases h

theorem addFeature_cases {blocked : List OptionKey}
    (h : addFeature value blocked options = some options') {option' : VariantOption}
    (hk : options'.lookup k = some option') : ∃ option, options.lookup k = some option ∧
      option' = if k ∈ blocked then { option with features := insert value option.features } else option := by
  unfold addFeature at h
  split at h
  · cases h
  · cases h
    rw [Table.lookup_updateAll] at hk
    obtain ⟨option, hoption, rfl⟩ := Option.map_eq_some_iff.mp hk
    exact ⟨option, hoption, rfl⟩

/-! ### Gap rows -/

/-- The session holds the gap's row to the end of its transaction. -/
def Locked (locks : List (Grant ι CodeKey)) (i : ι) (key : CodeKey) : Prop :=
  ∃ mode, (mode = .noKeyUpdate ∨ mode = .update) ∧ Held locks i key mode

theorem Locked.unique {locks : List (Grant ι CodeKey)} (hcompatible : Compatible locks)
    (hi : Locked locks i key) (hj : Locked locks j key) : i = j := by
  obtain ⟨mode, hmode, hheld⟩ := hi
  obtain ⟨mode', hmode', hheld'⟩ := hj
  refine hcompatible i j key mode mode' hheld hheld' ?_
  rcases hmode with rfl | rfl <;> rcases hmode' with rfl | rfl <;> rfl

section Knows

/-- What a visit knows of a code it has resolved to `value`. -/
def Settled (i : ι) (sh : Shared ι) (key : CodeKey) (value : Option String) : Prop :=
  (∃ m, sh.mappings.lookup key = some m ∧ value = some m.valueCode) ∨
    (sh.mappings.lookup key = none ∧ value = none ∧ Locked sh.locks i key)

/-- The same of a code of an option, whose features are collected in a set. -/
def Collected (i : ι) (sh : Shared ι) (key : CodeKey) (features : Finset String) : Prop :=
  (∃ m, sh.mappings.lookup key = some m ∧ m.valueCode ∈ features) ∨
    (sh.mappings.lookup key = none ∧ Locked sh.locks i key)

/-- A draft of a visit of `variantId`, whose codes in `rest` are still to be resolved. -/
structure DraftKnown (i : ι) (sh : Shared ι) (provider vehicleKind : String) (variantId : Uuid)
    (k : OptionKey) (draft : OptionDraft) (rest : List String) : Prop where
  home : k.variantId = variantId
  sameProvider : draft.base.provider = provider
  sameKind : draft.vehicleKind = vehicleKind
  wanted : ∀ code ∈ rest, code ∈ draft.wanted
  codes : ∀ code ∈ draft.wanted, code ∈ rest ∨
    Collected i sh (featureKey provider vehicleKind code) draft.features
  features : ∀ value ∈ draft.features, ∃ code ∈ draft.wanted, ∃ m,
    sh.mappings.lookup (featureKey provider vehicleKind code) = some m ∧ m.valueCode = value

/-- A visit whose fields in `rest` are still to be resolved. -/
structure VisitKnown (i : ι) (sh : Shared ι) (v : Visit) (rest : List CodedField) : Prop where
  found : ∀ variant, v.found = some variant → ∃ stored, sh.variants.lookup v.variantId = some stored ∧
    stored.provider = v.provider ∧ ∀ f value, variant.codes f = some value → stored.codes f = some value
  fields : ∀ f, f ∉ rest → ∀ key, v.fieldKey f = some key → Settled i sh key (v.codes f)
  drafts : ∀ k draft, v.drafts.lookup k = some draft →
    DraftKnown i sh v.provider v.sent.vehicleKindCode v.variantId k draft []

def StageKnown (i : ι) (sh : Shared ι) (v : Visit) : Stage → Prop
  | .recording => VisitKnown i sh v CodedField.all
  | .fields rest => VisitKnown i sh v rest
  | .listing => VisitKnown i sh v []
  | .features k draft rest =>
    VisitKnown i sh v [] ∧ DraftKnown i sh v.provider v.sent.vehicleKindCode v.variantId k draft rest

/-- A resolution holds the gap, and its code has no other mapping than its target. -/
def Resolves (i : ι) (sh : Shared ι) (key : CodeKey) (target : CanonicalValue) : Prop :=
  Locked sh.locks i key ∧ (sh.mappings.lookup key = none ∨ sh.mappings.lookup key = some target)

def Knows (i : ι) (sh : Shared ι) : Session → Prop
  | .idle => True
  | .visiting v stage => StageKnown i sh v stage
  | .asking v stage key at_ =>
    StageKnown i sh v stage ∧ v.question stage = some key ∧ (at_ = .again → Locked sh.locks i key)
  | .locked key _ => Locked sh.locks i key
  | .mapped key target | .filled key target _ | .featured key target _ _ => Resolves i sh key target

/-! ### What it knows stays true -/

variable {key : CodeKey} {value : Option String} {features : Finset String} {v : Visit}

/-- What a step leaves session `j`. -/
structure Kept (j : ι) (sh sh' : Shared ι) : Prop where
  locks : ∀ key, Locked sh.locks j key → Locked sh'.locks j key
  mapped : ∀ key m, sh.mappings.lookup key = some m → sh'.mappings.lookup key = some m
  unmapped : ∀ key, Locked sh.locks j key → sh.mappings.lookup key = none →
    sh'.mappings.lookup key = none
  variants : ∀ id variant, sh.variants.lookup id = some variant →
    ∃ variant', sh'.variants.lookup id = some variant' ∧ Evolves variant variant'

theorem kept_refl : Kept j sh sh :=
  ⟨fun _ h => h, fun _ _ h => h, fun _ _ h => h, fun _ variant h => ⟨variant, h, .refl variant⟩⟩

theorem locked_acquire {locks : List (Grant ι CodeKey)} {key' : CodeKey} {mode' : Mode}
    (h : Locked locks j key) : Locked (acquire i key' mode' locks) j key := by
  obtain ⟨mode, hmode, hheld⟩ := h
  exact ⟨mode, hmode, held_acquire.mpr (.inr hheld)⟩

theorem kept_acquire (key : CodeKey) (mode : Mode) :
    Kept j sh { sh with locks := acquire i key mode sh.locks } :=
  { kept_refl with locks := fun _ => locked_acquire }

theorem Settled.kept (h : Settled j sh key value) (hkept : Kept j sh sh') : Settled j sh' key value := by
  rcases h with ⟨m, hm, hvalue⟩ | ⟨hnone, hvalue, hlocked⟩
  · exact .inl ⟨m, hkept.mapped key m hm, hvalue⟩
  · exact .inr ⟨hkept.unmapped key hlocked hnone, hvalue, hkept.locks key hlocked⟩

theorem Collected.kept (h : Collected j sh key features) (hkept : Kept j sh sh') :
    Collected j sh' key features := by
  rcases h with ⟨m, hm, hvalue⟩ | ⟨hnone, hlocked⟩
  · exact .inl ⟨m, hkept.mapped key m hm, hvalue⟩
  · exact .inr ⟨hkept.unmapped key hlocked hnone, hkept.locks key hlocked⟩

theorem DraftKnown.kept {provider vehicleKind : String} {variantId : Uuid} {draft : OptionDraft}
    {rest : List String} (h : DraftKnown j sh provider vehicleKind variantId k draft rest)
    (hkept : Kept j sh sh') : DraftKnown j sh' provider vehicleKind variantId k draft rest where
  home := h.home
  sameProvider := h.sameProvider
  sameKind := h.sameKind
  wanted := h.wanted
  codes code hcode := (h.codes code hcode).imp id fun hcollected => hcollected.kept hkept
  features value hvalue := by
    obtain ⟨code, hcode, m, hm, heq⟩ := h.features value hvalue
    exact ⟨code, hcode, m, hkept.mapped _ m hm, heq⟩

theorem VisitKnown.kept {rest : List CodedField} (h : VisitKnown j sh v rest) (hkept : Kept j sh sh') :
    VisitKnown j sh' v rest where
  found variant hfound := by
    obtain ⟨stored, hstored, hprovider, hcodes⟩ := h.found variant hfound
    obtain ⟨stored', hstored', hevolves⟩ := hkept.variants _ stored hstored
    exact ⟨stored', hstored', hevolves.provider.trans hprovider,
      fun f value hvalue => hevolves.kept f value (hcodes f value hvalue)⟩
  fields f hf key hkey := (h.fields f hf key hkey).kept hkept
  drafts k draft hdraft := (h.drafts k draft hdraft).kept hkept

theorem StageKnown.kept {stage : Stage} (h : StageKnown j sh v stage) (hkept : Kept j sh sh') :
    StageKnown j sh' v stage := by
  cases stage with
  | recording | fields | listing => exact VisitKnown.kept h hkept
  | features k draft rest => exact ⟨h.1.kept hkept, h.2.kept hkept⟩

theorem Resolves.kept {target : CanonicalValue} (h : Resolves j sh key target) (hkept : Kept j sh sh') :
    Resolves j sh' key target :=
  ⟨hkept.locks key h.1, h.2.imp (hkept.unmapped key h.1) (hkept.mapped key target)⟩

theorem Knows.kept (h : Knows j sh lo) (hkept : Kept j sh sh') : Knows j sh' lo := by
  cases lo with
  | idle => trivial
  | visiting v stage => exact StageKnown.kept h hkept
  | asking v stage key at_ =>
    exact ⟨h.1.kept hkept, h.2.1, fun hat => hkept.locks key (h.2.2 hat)⟩
  | locked key target => exact hkept.locks key h
  | mapped key target | filled key target ids | featured key target ids options =>
    exact Resolves.kept h hkept

end Knows

section Commits

variable [DecidableEq ι]

theorem commitVisit_eq_some (h : commitVisit i v sh = some sh') :
    ∃ variants options gaps, v.writeVariant sh.variants = some variants ∧
      writeDrafts v.drafts sh.options = some options ∧
      sh' = { sh with
        variants := variants
        options := options
        gaps := gaps
        locks := Locks.release i sh.locks
        reported := v.reports ++ sh.reported } := by
  unfold commitVisit at h
  split at h
  · next variants options hvariants hoptions =>
    cases h
    exact ⟨variants, options, _, hvariants, hoptions, rfl⟩
  · cases h

variable {key : CodeKey} {target : CanonicalValue} {ids : List Uuid} {optionKeys : List OptionKey}

theorem commitResolution_eq_some (h : commitResolution i key target ids optionKeys sh = some sh') :
    ∃ options, addFeature target.valueCode optionKeys sh.options = some options ∧
      sh' = { sh with
        mappings := if (sh.mappings.lookup key).isSome then sh.mappings else sh.mappings.insert key target
        gaps := sh.gaps.modify key fun _ => ⟨true, some target.valueCode⟩
        variants := fillVariants key target.valueCode ids sh.variants
        options := options
        locks := Locks.release i sh.locks } := by
  obtain ⟨options, hoptions, rfl⟩ := Option.map_eq_some_iff.mp h
  exact ⟨options, hoptions, rfl⟩

variable {k : CodeKey} {mappings : Table CodeKey CanonicalValue}

theorem lookup_mappings (hkey : mappings.lookup key = none ∨ mappings.lookup key = some target) :
    (if (mappings.lookup key).isSome then mappings else mappings.insert key target).lookup k =
      if k = key then some target else mappings.lookup k := by
  rcases hkey with hnone | hsome
  · rw [hnone, if_neg (by simp), Table.lookup_insert_iff]
  · rw [hsome, if_pos Option.isSome_some]
    split
    · next heq => rw [heq, hsome]
    · rfl

theorem mappings_grow {m : CanonicalValue}
    (hkey : mappings.lookup key = none ∨ mappings.lookup key = some target)
    (hm : mappings.lookup k = some m) :
    (if (mappings.lookup key).isSome then mappings else mappings.insert key target).lookup k = some m := by
  rw [lookup_mappings hkey]
  split
  · next heq =>
    subst heq
    rcases hkey with hnone | hsome
    · rw [hnone] at hm
      cases hm
    · exact hsome.symm.trans hm
  · exact hm

theorem locked_release {locks : List (Grant ι CodeKey)} (hne : j ≠ i) (h : Locked locks j key) :
    Locked (Locks.release i locks) j key := by
  obtain ⟨mode, hmode, hheld⟩ := h
  exact ⟨mode, hmode, held_release.mpr ⟨hheld, hne⟩⟩

theorem kept_release (hne : j ≠ i) : Kept j sh { sh with locks := Locks.release i sh.locks } :=
  { kept_refl with locks := fun _ => locked_release hne }

theorem kept_visit (hne : j ≠ i) (h : commitVisit i v sh = some sh') : Kept j sh sh' := by
  obtain ⟨variants, options, gaps, hvariants, -, rfl⟩ := commitVisit_eq_some h
  exact ⟨fun _ => locked_release hne, fun _ _ hm => hm, fun _ _ hm => hm,
    fun _ _ hid => writeVariant_evolves hvariants hid⟩

theorem kept_resolution (hne : j ≠ i) (hcompatible : Compatible sh.locks)
    (hresolves : Resolves i sh key target)
    (h : commitResolution i key target ids optionKeys sh = some sh') : Kept j sh sh' := by
  obtain ⟨options, -, rfl⟩ := commitResolution_eq_some h
  refine ⟨fun _ => locked_release hne, fun k m hm => ?_, fun k hlocked hnone => ?_,
    fun _ _ hid => fillVariants_evolves hid⟩
  · exact mappings_grow hresolves.2 hm
  · refine (lookup_mappings hresolves.2).trans ?_
    rw [if_neg fun heq => hne ((heq ▸ hlocked).unique hcompatible hresolves.1)]
    exact hnone

end Commits

section Moving

structure Consistent (sh : Shared ι) : Prop where
  compatible : Compatible sh.locks
  homes : ∀ k option, sh.options.lookup k = some option →
    ∃ variant, sh.variants.lookup k.variantId = some variant ∧ variant.provider = option.provider

variable {v : Visit}

theorem StageKnown.newGaps {stage : Stage} (h : StageKnown i sh v stage) (newGaps : List CodeKey) :
    StageKnown i sh { v with newGaps := newGaps } stage := by
  cases stage with
  | recording | fields | listing => exact ⟨h.found, h.fields, h.drafts⟩
  | features k draft rest => exact ⟨⟨h.1.found, h.1.fields, h.1.drafts⟩, h.2⟩

theorem VisitKnown.openOption (h : VisitKnown i sh v []) (hsh : Consistent sh)
    (option : VariantOptionData) :
    StageKnown i sh (v.openOption sh.options option).1 (v.openOption sh.options option).2 := by
  have hwanted : ∀ code ∈ option.equipmentFeatureCodes,
      code ∈ (option.equipmentFeatureCodes.filter (· ≠ "")).dedup := by
    intro code hcode
    exact List.mem_dedup.mpr (List.mem_filter.mpr ⟨hcode, by simpa using option.stripped code hcode⟩)
  have hcodes : ∀ code ∈ (option.equipmentFeatureCodes.filter (· ≠ "")).dedup,
      code ∈ option.equipmentFeatureCodes := by
    intro code hcode
    exact (List.mem_filter.mp (List.mem_dedup.mp hcode)).1
  refine ⟨⟨h.found, h.fields, h.drafts⟩, ?_⟩
  cases hdraft : v.drafts.lookup ⟨v.tenantId, v.variantId, option.optionCode⟩ with
  | some earlier =>
    have hearlier := h.drafts _ earlier hdraft
    exact ⟨rfl, hearlier.sameProvider, hearlier.sameKind, hwanted, fun code hcode => .inl (hcodes code hcode),
      fun value hvalue => absurd hvalue (Finset.notMem_empty value)⟩
  | none =>
    cases hstored : v.found.bind fun _ => sh.options.lookup ⟨v.tenantId, v.variantId, option.optionCode⟩ with
    | none =>
      exact ⟨rfl, rfl, rfl, hwanted, fun code hcode => .inl (hcodes code hcode),
        fun value hvalue => absurd hvalue (Finset.notMem_empty value)⟩
    | some stored =>
      refine ⟨rfl, ?_, rfl, hwanted, fun code hcode => .inl (hcodes code hcode),
        fun value hvalue => absurd hvalue (Finset.notMem_empty value)⟩
      -- the option's provider is its variant's, which the visit has found
      obtain ⟨variant, hfound, hoption⟩ := Option.bind_eq_some_iff.mp hstored
      obtain ⟨home, hhome, hprovider⟩ := hsh.homes _ stored hoption
      obtain ⟨variant', hvariant', hsame, -⟩ := h.found variant hfound
      obtain rfl := Option.mem_unique hhome hvariant'
      exact hprovider.symm.trans hsame

variable {k : OptionKey} {draft : OptionDraft}

theorem VisitKnown.closeOption (h : VisitKnown i sh v [])
    (hdraft : DraftKnown i sh v.provider v.sent.vehicleKindCode v.variantId k draft []) :
    VisitKnown i sh (v.closeOption sh.options k draft) [] where
  found := h.found
  fields := h.fields
  drafts k' draft' hk' := by
    rcases Table.lookup_insert_cases hk' with ⟨rfl, rfl⟩ | ⟨-, hold⟩
    · refine ⟨hdraft.home, ?_, hdraft.sameKind, hdraft.wanted, hdraft.codes, hdraft.features⟩
      dsimp only
      split
      · exact hdraft.sameProvider
      · exact hdraft.sameProvider
    · exact h.drafts k' draft' hold

variable {value : Option String}

theorem VisitKnown.answer {f : CodedField} {rest : List CodedField}
    (h : VisitKnown i sh v (f :: rest)) (hkey : v.fieldKey f = some key)
    (hvalue : Settled i sh key value) :
    VisitKnown i sh { v with codes := Function.update v.codes f value } rest where
  found := h.found
  fields f' hf' key' hkey' := by
    change Settled i sh key' (Function.update v.codes f value f')
    by_cases heq : f' = f
    · subst heq
      obtain rfl := Option.mem_unique hkey hkey'
      rw [Function.update_self]
      exact hvalue
    · rw [Function.update_of_ne heq]
      exact h.fields f' (List.not_mem_cons_of_ne_of_not_mem heq hf') key' hkey'
  drafts := h.drafts

theorem DraftKnown.answer {provider vehicleKind code : String} {variantId : Uuid}
    {rest : List String} (h : DraftKnown i sh provider vehicleKind variantId k draft (code :: rest))
    (hvalue : Settled i sh (featureKey provider vehicleKind code) value) :
    DraftKnown i sh provider vehicleKind variantId k
      { draft with features := value.elim draft.features (insert · draft.features) } rest where
  home := h.home
  sameProvider := h.sameProvider
  sameKind := h.sameKind
  wanted code' hcode' := h.wanted code' (List.mem_cons_of_mem code hcode')
  codes code' hcode' := by
    have hgrow : draft.features ⊆ value.elim draft.features (insert · draft.features) := by
      cases value with
      | none => exact Finset.Subset.refl _
      | some feature => exact Finset.subset_insert ..
    rcases h.codes code' hcode' with hmem | hcollected
    · rcases List.mem_cons.mp hmem with rfl | hrest
      · -- the code that has just been resolved
        rcases hvalue with ⟨m, hm, rfl⟩ | ⟨hnone, rfl, hlocked⟩
        · exact .inr (.inl ⟨m, hm, Finset.mem_insert_self ..⟩)
        · exact .inr (.inr ⟨hnone, hlocked⟩)
      · exact .inl hrest
    · exact .inr (hcollected.imp (fun ⟨m, hm, hfeature⟩ => ⟨m, hm, hgrow hfeature⟩) id)
  features feature hfeature := by
    rcases hvalue with ⟨m, hm, rfl⟩ | ⟨-, rfl, -⟩
    · rcases Finset.mem_insert.mp hfeature with rfl | hold
      · exact ⟨code, h.wanted code List.mem_cons_self, m, hm, rfl⟩
      · exact h.features feature hold
    · exact h.features feature hfeature

theorem StageKnown.answer {stage : Stage} (h : StageKnown i sh v stage)
    (hkey : v.question stage = some key) (hvalue : Settled i sh key value) :
    StageKnown i sh (v.answer value stage).1 (v.answer value stage).2 := by
  match stage, hkey with
  | .fields (f :: rest), hkey => exact VisitKnown.answer h hkey hvalue
  | .features k draft (code :: rest), hkey =>
    cases hkey
    exact ⟨h.1, h.2.answer hvalue⟩

theorem knows_reads (hsh : Consistent sh) (h : Knows i sh lo) (hreads : Reads sh lo lo') :
    Knows i sh lo' := by
  cases hreads with
  | started v hdrafts hcodes hfound hnew =>
    refine ⟨fun variant hvariant => ?_, fun f hf => absurd (CodedField.mem_all f) hf, fun k draft hk => ?_⟩
    · obtain ⟨hstored, hprovider⟩ := hfound variant hvariant
      exact ⟨variant, hstored, hprovider, fun _ _ hvalue => hvalue⟩
    · rw [hdrafts] at hk
      cases hk
  | recorded v rows => exact ⟨h.found, h.fields, h.drafts⟩
  | skipped v f rest hskip =>
    refine ⟨h.found, fun f' hf' key hkey => ?_, h.drafts⟩
    by_cases heq : f' = f
    · subst heq
      rw [hskip] at hkey
      cases hkey
    · exact h.fields f' (List.not_mem_cons_of_ne_of_not_mem heq hf') key hkey
  | fieldsDone v => exact h
  | opened v option => exact VisitKnown.openOption h hsh option
  | closed v key draft => exact h.1.closeOption h.2
  | asked v stage key hkey => exact ⟨h, hkey, (nomatch ·)⟩
  | missed v stage key at_ at_' hat => exact ⟨h.1, h.2.1, fun heq => absurd heq hat⟩
  | answered v stage key at_ value hvalue hat =>
    refine h.1.answer h.2.1 ?_
    cases hm : sh.mappings.lookup key with
    | some m => exact .inl ⟨m, hm, by rw [hvalue, hm]; rfl⟩
    | none =>
      have hnone : value = none := by rw [hvalue, hm]; rfl
      exact .inr ⟨hm, hnone, h.2.2 (hat hnone)⟩
  | validated key target hmapping => exact ⟨h, hmapping⟩
  | filled key target => exact h
  | featured key target ids => exact h

section

variable [DecidableEq ι]

theorem Consistent.visit (hsh : Consistent sh) (h : VisitKnown i sh v [])
    (hcommit : commitVisit i v sh = some sh') : Consistent sh' := by
  obtain ⟨variants, options, gaps, hvariants, hoptions, rfl⟩ := commitVisit_eq_some hcommit
  refine ⟨hsh.compatible.release, fun k option hk => ?_⟩
  have hstored : ∀ option, sh.options.lookup k = some option →
      ∃ variant, variants.lookup k.variantId = some variant ∧ variant.provider = option.provider := by
    intro option hold
    obtain ⟨variant, hvariant, hprovider⟩ := hsh.homes k option hold
    obtain ⟨variant', hvariant', hevolves⟩ := writeVariant_evolves hvariants hvariant
    exact ⟨variant', hvariant', hevolves.provider.trans hprovider⟩
  rcases writeDrafts_cases hoptions hk with hold | ⟨draft, hdraft, hwrite⟩
  · exact hstored option hold
  · have hknown := h.drafts k draft hdraft
    rw [provider_write hwrite]
    cases hold : sh.options.lookup k with
    | some stored => exact hstored stored hold
    | none =>
      -- a new option, written with its variant
      rw [Option.getD_none, hknown.sameProvider, hknown.home]
      rcases writeVariant_eq_some hvariants with ⟨-, -, rfl⟩ | ⟨found, stored, rows, hfound, hvariant, -, rfl⟩
      · exact ⟨_, AList.lookup_insert _, rfl⟩
      · obtain ⟨variant, hlookup, hsame, -⟩ := h.found found hfound
        obtain rfl := Option.mem_unique hvariant hlookup
        exact ⟨_, AList.lookup_insert _, provider_fill.trans hsame⟩

theorem Consistent.resolution {target : CanonicalValue} {optionKeys : List OptionKey}
    (hsh : Consistent sh) (hcommit : commitResolution i key target ids optionKeys sh = some sh') :
    Consistent sh' := by
  obtain ⟨options, hoptions, rfl⟩ := commitResolution_eq_some hcommit
  refine ⟨hsh.compatible.release, fun k option' hk => ?_⟩
  obtain ⟨option, hold, heq⟩ := addFeature_cases hoptions hk
  obtain ⟨variant, hvariant, hprovider⟩ := hsh.homes k option hold
  obtain ⟨variant', hvariant', hevolves⟩ := fillVariants_evolves hvariant
  refine ⟨variant', hvariant', hevolves.provider.trans (hprovider.trans ?_)⟩
  rw [heq]
  split <;> rfl

theorem knows_moves (hsh : Consistent sh) (h : Knows i sh lo) (hmoves : Moves i ch sh lo sh' lo') :
    Consistent sh' ∧ Knows i sh' lo' := by
  cases hmoves with
  | reads lo lo' hreads => exact ⟨hsh, knows_reads hsh h hreads⟩
  | touched v stage key at_ newGaps mode hmode hfree =>
    refine ⟨⟨hsh.compatible.acquire hfree, hsh.homes⟩, ?_, h.2.1, fun _ => ?_⟩
    · exact (h.1.newGaps newGaps).kept (kept_acquire key mode)
    · exact ⟨mode, hmode, held_acquire.mpr (.inl ⟨rfl, rfl, rfl⟩)⟩
  | locked key target hfree =>
    exact ⟨⟨hsh.compatible.acquire hfree, hsh.homes⟩,
      .update, .inr rfl, held_acquire.mpr (.inl ⟨rfl, rfl, rfl⟩)⟩
  | visited v sh' hch hcommit => exact ⟨hsh.visit h hcommit, trivial⟩
  | resolved key target ids options sh' hch hcommit => exact ⟨hsh.resolution hcommit, trivial⟩
  | rolledBack lo => exact ⟨⟨hsh.compatible.release, hsh.homes⟩, trivial⟩

theorem kept_moves (hsh : Consistent sh) (hne : j ≠ i) (h : Knows i sh lo)
    (hmoves : Moves i ch sh lo sh' lo') : Kept j sh sh' := by
  cases hmoves with
  | reads => exact kept_refl
  | touched v stage key at_ newGaps mode => exact kept_acquire key mode
  | locked key target => exact kept_acquire key .update
  | visited v sh' hch hcommit => exact kept_visit hne hcommit
  | resolved key target ids options sh' hch hcommit => exact kept_resolution hne hsh.compatible h hcommit
  | rolledBack lo => exact kept_release hne

end

end Moving

end Nexotec.CatalogueSync
