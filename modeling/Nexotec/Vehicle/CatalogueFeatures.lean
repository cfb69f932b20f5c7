/-
The features of the options converge.

The argument is the one for the fields, with one thing less: a visit does not lock the
gap of a code it drops, so a resolution of that code may add its feature after the
visit has read the option's features.
-/
import Nexotec.Vehicle.CatalogueFields

namespace Nexotec.CatalogueSync

open RowWrites Locks Interleaving

variable {ι : Type} {i j : ι} {ch : Choice} {sh sh' : Shared ι} {lo lo' : Session}

def Maps (mappings : Table CodeKey CanonicalValue) (option : VariantOption) (value : String) : Prop :=
  ∃ code kind m, option.rawCodes code = some kind ∧
    mappings.lookup (featureKey option.provider kind code) = some m ∧ m.valueCode = value

/-- An option's features are what its raw codes map to. -/
def OptionsMatch (sh : Shared ι) : Prop :=
  ∀ k option, sh.options.lookup k = some option → ∀ value,
    value ∈ option.features ↔ Maps sh.mappings option value

/-- The options a resolution adds its feature to. -/
structure CoversOptions (sh : Shared ι) (key : CodeKey) (target : CanonicalValue)
    (optionKeys : List OptionKey) : Prop where
  blocked : key.codeGroup = .equipmentFeature → ∀ k option, sh.options.lookup k = some option →
    option.records key = true → target.valueCode ∈ option.features ∨ k ∈ optionKeys
  others : key.codeGroup ≠ .equipmentFeature → optionKeys = []

def KnowsOptions (sh : Shared ι) : Session → Prop
  | .featured key target _ optionKeys => CoversOptions sh key target optionKeys
  | .idle | .visiting .. | .asking .. | .locked .. | .mapped .. | .filled .. => True

/-- At its commit a visit finds its options as it has read them, and a resolution finds
its code on the options it adds its feature to. -/
def FindsOptions (sh : Shared ι) : Session → Prop
  | .visiting v .listing => ∀ k draft, v.drafts.lookup k = some draft →
      (sh.options.lookup k).getD draft.base = draft.base
  | .featured key _ _ optionKeys => ∀ k ∈ optionKeys, ∀ option, sh.options.lookup k = some option →
      option.records key = true
  | _ => True

theorem records_eq_true {key : CodeKey} {option : VariantOption} : option.records key = true ↔
      option.provider = key.provider ∧ option.rawCodes key.providerCode = some key.vehicleKind := by
  exact decide_eq_true_iff

theorem featureKey_eq {key : CodeKey} (h : key.codeGroup = .equipmentFeature) :
    featureKey key.provider key.vehicleKind key.providerCode = key := by
  obtain ⟨provider, vehicleKind, codeGroup, providerCode⟩ := key
  exact congrArg (CodeKey.mk provider vehicleKind · providerCode) h.symm

section Visits

variable {v : Visit}

theorem rawCodes_draft {draft : OptionDraft} {code kind : String} (h : draft.rawCodes code = some kind) :
    code ∈ draft.wanted ∧ draft.vehicleKind = kind := by
  unfold OptionDraft.rawCodes at h
  split at h
  · next hmem => exact ⟨hmem, Option.some.inj h⟩
  · cases h

theorem written_option {options : Options} (h : VisitKnown i sh v [])
    (hfinds : FindsOptions sh (.visiting v .listing))
    (hoptions : writeDrafts v.drafts sh.options = some options)
    {k : OptionKey} {option : VariantOption} (hk : options.lookup k = some option) :
    sh.options.lookup k = some option ∨ ∃ draft,
      DraftKnown i sh v.provider v.sent.vehicleKindCode v.variantId k draft [] ∧
      option = ⟨v.provider, draft.rawCodes, draft.features⟩ := by
  refine (writeDrafts_cases hoptions hk).imp id ?_
  rintro ⟨draft, hdraft, hwrite⟩
  have hknown := h.drafts k draft hdraft
  refine ⟨draft, hknown, ?_⟩
  rw [← hknown.sameProvider]
  exact OptionDraft.write_base hwrite (hfinds k draft hdraft)

theorem DraftKnown.maps {k : OptionKey} {draft : OptionDraft} {provider vehicleKind : String}
    {variantId : Uuid} (h : DraftKnown i sh provider vehicleKind variantId k draft []) (value : String) :
    value ∈ draft.features ↔ Maps sh.mappings ⟨provider, draft.rawCodes, draft.features⟩ value := by
  constructor
  · intro hvalue
    obtain ⟨code, hcode, m, hm, heq⟩ := h.features value hvalue
    exact ⟨code, draft.vehicleKind, m, if_pos hcode, h.sameKind ▸ hm, heq⟩
  · rintro ⟨code, kind, m, hraw, hm, rfl⟩
    obtain ⟨hwanted, rfl⟩ := rawCodes_draft hraw
    rcases (h.codes code hwanted).resolve_left List.not_mem_nil with ⟨m', hm', hmem⟩ | ⟨hnone, -⟩
    · rw [← h.sameKind] at hm'
      obtain rfl := Option.mem_unique hm' hm
      exact hmem
    · rw [← h.sameKind] at hnone
      cases hnone.symm.trans hm

variable [DecidableEq ι]

theorem OptionsMatch.visit (hmatch : OptionsMatch sh) (h : VisitKnown i sh v [])
    (hfinds : FindsOptions sh (.visiting v .listing)) (hcommit : commitVisit i v sh = some sh') :
    OptionsMatch sh' := by
  obtain ⟨variants, options, gaps, -, hoptions, rfl⟩ := commitVisit_eq_some hcommit
  intro k option hk
  rcases written_option h hfinds hoptions hk with hold | ⟨draft, hknown, rfl⟩
  · exact hmatch k option hold
  · exact hknown.maps

theorem CoversOptions.visit {key : CodeKey} {target : CanonicalValue} {optionKeys : List OptionKey}
    (hcovers : CoversOptions sh key target optionKeys) (hne : j ≠ i) (hcompatible : Compatible sh.locks)
    (hresolves : Resolves j sh key target) (h : VisitKnown i sh v [])
    (hfinds : FindsOptions sh (.visiting v .listing)) (hcommit : commitVisit i v sh = some sh') :
    CoversOptions sh' key target optionKeys := by
  obtain ⟨variants, options, gaps, -, hoptions, rfl⟩ := commitVisit_eq_some hcommit
  refine ⟨fun hgroup k option hk hrecords => ?_, hcovers.others⟩
  rcases written_option h hfinds hoptions hk with hold | ⟨draft, hknown, rfl⟩
  · exact hcovers.blocked hgroup k option hold hrecords
  · obtain ⟨hprovider, hraw⟩ := records_eq_true.mp hrecords
    obtain ⟨hwanted, hkind⟩ := rawCodes_draft hraw
    have hkey : featureKey v.provider v.sent.vehicleKindCode key.providerCode = key := by
      rw [← hknown.sameKind, hkind, show v.provider = key.provider from hprovider, featureKey_eq hgroup]
    have hcollected := (hknown.codes _ hwanted).resolve_left List.not_mem_nil
    rw [hkey] at hcollected
    rcases hcollected with ⟨m, hm, hmem⟩ | ⟨-, hlocked⟩
    · -- the visit has found the mapping, which is the resolution's
      rcases hresolves.2 with hnone | hsome
      · cases hnone.symm.trans hm
      · obtain rfl := Option.mem_unique hsome hm
        exact .inl hmem
    · exact absurd (hresolves.1.unique hcompatible hlocked) hne

end Visits

section Resolutions

variable {key : CodeKey} {target : CanonicalValue} {ids : List Uuid} {optionKeys : List OptionKey}

theorem records_addFeature {option : VariantOption} {value : String} (p : Prop) [Decidable p] (key : CodeKey) :
    (if p then { option with features := insert value option.features } else option).records key =
      option.records key := by
  split <;> rfl

theorem covers_blockedOptions :
    CoversOptions sh key target (blockedOptions key target.valueCode sh.options) := by
  refine ⟨fun hgroup k option hk hrecords => ?_, fun hgroup => if_neg hgroup⟩
  by_cases hmem : target.valueCode ∈ option.features
  · exact .inl hmem
  · rw [blockedOptions, if_pos hgroup]
    exact .inr (Table.mem_selectKeys.mpr ⟨option, hk, decide_eq_true ⟨hrecords, hmem⟩⟩)

variable [DecidableEq ι]

theorem OptionsMatch.resolution (hmatch : OptionsMatch sh) (hresolves : Resolves i sh key target)
    (hcovers : CoversOptions sh key target optionKeys)
    (hfinds : FindsOptions sh (.featured key target ids optionKeys))
    (hcommit : commitResolution i key target ids optionKeys sh = some sh') : OptionsMatch sh' := by
  obtain ⟨options, hoptions, rfl⟩ := commitResolution_eq_some hcommit
  intro k option' hk value
  obtain ⟨option, hold, heq⟩ := addFeature_cases hoptions hk
  have hprovider : option'.provider = option.provider := by rw [heq]; split <;> rfl
  have hraws : option'.rawCodes = option.rawCodes := by rw [heq]; split <;> rfl
  have hfeatures : value ∈ option'.features ↔
      (k ∈ optionKeys ∧ value = target.valueCode) ∨ value ∈ option.features := by
    rw [heq]
    split
    · next hmem => simp [hmem]
    · next hmem => simp [hmem]
  rw [hfeatures]
  constructor
  · rintro (⟨hmem, rfl⟩ | hvalue)
    · -- the resolution adds its feature to an option that has the code
      have hgroup : key.codeGroup = .equipmentFeature := by
        by_contra hother
        rw [hcovers.others hother] at hmem
        cases hmem
      obtain ⟨hsame, hraw⟩ := records_eq_true.mp (hfinds k hmem option hold)
      refine ⟨key.providerCode, key.vehicleKind, target, hraws ▸ hraw, ?_, rfl⟩
      rw [hprovider, hsame, featureKey_eq hgroup]
      exact (lookup_mappings hresolves.2).trans (if_pos rfl)
    · obtain ⟨code, kind, m, hraw, hm, rfl⟩ := (hmatch k option hold value).mp hvalue
      exact ⟨code, kind, m, hraws ▸ hraw, hprovider ▸ mappings_grow hresolves.2 hm, rfl⟩
  · rintro ⟨code, kind, m, hraw, hm, rfl⟩
    rw [hprovider] at hm
    rw [hraws] at hraw
    have hlookup := (lookup_mappings hresolves.2).symm.trans hm
    split at hlookup
    · next hkey =>
      -- the code that has been resolved
      cases hlookup
      subst hkey
      rcases hcovers.blocked rfl k option hold (records_eq_true.mpr ⟨rfl, hraw⟩) with hmem | hmem
      · exact .inr hmem
      · exact .inl ⟨hmem, rfl⟩
    · exact .inr ((hmatch k option hold m.valueCode).mpr ⟨code, kind, m, hraw, hlookup, rfl⟩)

theorem CoversOptions.resolution {key' : CodeKey} {target' : CanonicalValue} {optionKeys' : List OptionKey}
    (h : CoversOptions sh key' target' optionKeys')
    (hcommit : commitResolution i key target ids optionKeys sh = some sh') :
    CoversOptions sh' key' target' optionKeys' := by
  obtain ⟨options, hoptions, rfl⟩ := commitResolution_eq_some hcommit
  refine ⟨fun hgroup k option' hk hrecords => ?_, h.others⟩
  obtain ⟨option, hold, rfl⟩ := addFeature_cases hoptions hk
  rw [records_addFeature] at hrecords
  refine (h.blocked hgroup k option hold hrecords).imp (fun hmem => ?_) id
  split
  · exact Finset.mem_insert_of_mem hmem
  · exact hmem

end Resolutions

section Runs

theorem knowsOptions_reads (h : KnowsOptions sh lo) (hreads : Reads sh lo lo') : KnowsOptions sh lo' := by
  cases hreads with
  | featured key target ids => exact covers_blockedOptions
  | answered v stage key at_ value => trivial
  | started | recorded | skipped | fieldsDone | opened | closed | asked | missed | validated | filled =>
    trivial

variable [DecidableEq ι]

theorem knowsOptions_moves (hknows : Knows i sh lo) (hmatch : OptionsMatch sh) (h : KnowsOptions sh lo)
    (hfinds : ch = .commit → FindsOptions sh lo) (hmoves : Moves i ch sh lo sh' lo') :
    OptionsMatch sh' ∧ KnowsOptions sh' lo' := by
  cases hmoves with
  | reads lo lo' hreads => exact ⟨hmatch, knowsOptions_reads h hreads⟩
  | touched | locked | rolledBack => exact ⟨hmatch, trivial⟩
  | visited v sh' hch hcommit => exact ⟨hmatch.visit hknows (hfinds hch) hcommit, trivial⟩
  | resolved key target ids options sh' hch hcommit =>
    exact ⟨hmatch.resolution hknows h (hfinds hch) hcommit, trivial⟩

theorem knowsOptions_respects {lo₀ : Session} (hsh : Consistent sh) (hne : j ≠ i) (hknows₀ : Knows j sh lo₀)
    (h : KnowsOptions sh lo₀) (hknows : Knows i sh lo) (hfinds : ch = .commit → FindsOptions sh lo)
    (hmoves : Moves i ch sh lo sh' lo') : KnowsOptions sh' lo₀ := by
  cases lo₀ with
  | idle | visiting | asking | locked | mapped | filled => trivial
  | featured key target ids optionKeys =>
    cases hmoves with
    | reads => exact h
    | touched | locked | rolledBack => exact ⟨h.blocked, h.others⟩
    | visited v sh' hch hcommit =>
      exact CoversOptions.visit h hne hsh.compatible hknows₀ hknows (hfinds hch) hcommit
    | resolved key target ids options sh' hch hcommit => exact CoversOptions.resolution h hcommit

/-- Every committed state of a run in which commits find their options as expected
has the features its raw codes map to. -/
theorem options_match {mappings : Table CodeKey CanonicalValue} {gaps : Table CodeKey MappingGap}
    {actions : List (ι × Choice)}
    (hfinds : Run.Along (move step) (fun c a => a.2 = .commit → FindsOptions c.shared (c.locals a.1))
      (opening mappings gaps) actions) :
    OptionsMatch (actions.foldl (move step) (opening mappings gaps)).shared :=
  mirrored_run knowsOptions_moves knowsOptions_respects (nofun) trivial hfinds

end Runs

end Nexotec.CatalogueSync
