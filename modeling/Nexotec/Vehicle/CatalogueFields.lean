/-
The coded fields converge.

A visit that leaves a field NULL has found its code unmapped and holds its gap, so a
resolution of that code starts after the visit's commit and sees the raw code it has
recorded; a visit that starts after the resolution finds the mapping.
-/
import Nexotec.Vehicle.CatalogueInvariant

namespace Nexotec.CatalogueSync

open RowWrites Locks Interleaving

variable {ι : Type} {i j : ι} {ch : Choice} {sh sh' : Shared ι} {lo lo' : Session}

/-- One field of a variant, its raw code, and what has been reported for it. -/
structure FieldSound (sh : Shared ι) (id : Uuid) (variant : ModelVariant) (f : CodedField) : Prop where
  filled : variant.codes f = none → ∀ raw, variant.rawCodes f = some raw →
    sh.mappings.lookup (raw.key variant.provider f) = none
  recorded : ∀ raw, variant.rawCodes f = some raw →
    (id, f, some (raw.key variant.provider f)) ∈ sh.reported
  traced : ∀ value, variant.codes f = some value → ∃ key m, (id, f, some key) ∈ sh.reported ∧
    sh.mappings.lookup key = some m ∧ value = m.valueCode
  constant : ∀ key, (∀ r, (id, f, r) ∈ sh.reported → r = some key) →
    ∃ raw, variant.rawCodes f = some raw ∧ raw.key variant.provider f = key

def FieldsSound (sh : Shared ι) : Prop :=
  ∀ id variant, sh.variants.lookup id = some variant → ∀ f, FieldSound sh id variant f

theorem FieldsSound.relock (h : FieldsSound sh) (locks : List (Grant ι CodeKey)) :
    FieldsSound { sh with locks := locks } := by
  intro id variant hid f
  have hf := h id variant hid f
  exact ⟨hf.filled, hf.recorded, hf.traced, hf.constant⟩

/-- The variants a resolution fills. -/
structure Covers (sh : Shared ι) (key : CodeKey) (ids : List Uuid) (f : CodedField) : Prop where
  blocked : ∀ id variant, sh.variants.lookup id = some variant → variant.codes f = none →
    ∀ raw, variant.rawCodes f = some raw → raw.key variant.provider f = key → id ∈ ids
  reported : ∀ id ∈ ids, (id, f, some key) ∈ sh.reported

def FillsOpen (v : Visit) : Prop := ∀ f value, v.codes f = some value → ∃ key, v.fieldKey f = some key

def KnowsFields (sh : Shared ι) : Session → Prop
  | .visiting v _ | .asking v _ _ _ => FillsOpen v
  | .filled key _ ids | .featured key _ ids _ => ∀ f, key.codeGroup = .field f → Covers sh key ids f
  | .idle | .locked .. | .mapped .. => True

/-- What a visit's commit leaves of the raw codes it changes are the ones it sent. -/
def Finds (sh : Shared ι) : Session → Prop
  | .visiting v .listing => ∀ stored, sh.variants.lookup v.variantId = some stored →
      ∀ f, v.baseRows f ≠ v.sent.rawRows f → (writeRow RawCode.columns (v.baseRows f) (v.sent.rawRows f)
        (stored.rawCodes f)).getD (stored.rawCodes f) = v.sent.rawRows f
  | _ => True

section Visits

variable {v : Visit} {f : CodedField}

theorem rawRows_eq_some {sent : VariantMasterData} {raw : RawCode} (h : sent.rawRows f = some raw)
    (provider : String) : (sent.rawCodes f).map (sent.key provider f) = some (raw.key provider f) := by
  obtain ⟨code, hcode, rfl⟩ := Option.map_eq_some_iff.mp h
  rw [hcode]
  rfl

theorem mem_reports (v : Visit) (f : CodedField) :
    (v.variantId, f, (v.sent.rawCodes f).map (v.sent.key v.provider f)) ∈ v.reports :=
  List.mem_map_of_mem (CodedField.mem_all f)

theorem fieldKey_eq_some {key : CodeKey} (h : v.fieldKey f = some key) :
    (v.sent.rawCodes f).map (v.sent.key v.provider f) = some key := by
  unfold Visit.fieldKey at h
  split at h
  · exact h
  · cases h

theorem VisitKnown.unmapped (h : VisitKnown i sh v [])
    (hopen : v.isOpen f = true) (hnull : v.codes f = none) {raw : RawCode}
    (hraw : v.sent.rawRows f = some raw) :
    sh.mappings.lookup (raw.key v.provider f) = none ∧ Locked sh.locks i (raw.key v.provider f) := by
  have hkey : v.fieldKey f = some (raw.key v.provider f) := by
    rw [Visit.fieldKey, if_pos hopen, rawRows_eq_some hraw]
  rcases h.fields f List.not_mem_nil _ hkey with ⟨m, -, hvalue⟩ | ⟨hnone, -, hlocked⟩
  · rw [hnull] at hvalue
    cases hvalue
  · exact ⟨hnone, hlocked⟩

/-- What a visit's commit makes of one field of its variant. -/
structure WrittenField (sh : Shared ι) (v : Visit) (f : CodedField) (after : ModelVariant) : Prop where
  provider : after.provider = v.provider
  raw : after.rawCodes f = v.sent.rawRows f ∨ ∃ stored, sh.variants.lookup v.variantId = some stored ∧
    stored.provider = after.provider ∧ after.rawCodes f = stored.rawCodes f
  null : after.codes f = none → v.codes f = none ∧ v.isOpen f = true ∧
    ∀ stored, sh.variants.lookup v.variantId = some stored → stored.codes f = none
  value : ∀ value, after.codes f = some value → v.codes f = some value ∨
    ∃ stored, sh.variants.lookup v.variantId = some stored ∧ stored.codes f = some value

theorem written_field (h : VisitKnown i sh v []) (hfinds : Finds sh (.visiting v .listing))
    {variants : Variants} (hvariants : v.writeVariant sh.variants = some variants) {after : ModelVariant}
    (hafter : variants.lookup v.variantId = some after) (f : CodedField) : WrittenField sh v f after := by
  rcases writeVariant_eq_some hvariants with
    ⟨hfound, hnone, rfl⟩ | ⟨found, stored, rows, hfound, hstored, hrows, rfl⟩
  · -- a new variant
    rw [AList.lookup_insert] at hafter
    cases hafter
    refine ⟨rfl, .inl rfl, fun hnull => ⟨hnull, ?_, fun stored hstored => ?_⟩, fun value hvalue => .inl hvalue⟩
    · rw [Visit.isOpen, hfound, Option.all_none]
    · rw [hnone] at hstored
      cases hstored
  · rw [AList.lookup_insert] at hafter
    cases hafter
    obtain ⟨stored', hstored', hsame, hkept⟩ := h.found found hfound
    obtain rfl := Option.mem_unique hstored hstored'
    have hcodes : (stored.fill v.codes v.master).codes f = (stored.codes f).or (v.codes f) := codes_fill f
    refine ⟨provider_fill.trans hsame, ?_, fun hnull => ?_, fun value hvalue => ?_⟩
    · by_cases hchange : v.baseRows f = v.sent.rawRows f
      · exact .inr ⟨stored, hstored, provider_fill.symm, writeRows_of_same hrows hchange⟩
      · exact .inl ((writeRows_apply hrows f).trans (hfinds stored hstored f hchange))
    · obtain ⟨hstoredNull, hsentNull⟩ := Option.or_eq_none_iff.mp (hcodes.symm.trans hnull)
      refine ⟨hsentNull, ?_, fun stored' hstored' => ?_⟩
      · -- the field was NULL when the variant was read, for it is NULL now
        rw [Visit.isOpen, hfound, Option.all_some]
        cases hread : found.codes f with
        | none => rfl
        | some value =>
          rw [hkept f value hread] at hstoredNull
          cases hstoredNull
      · obtain rfl := Option.mem_unique hstored hstored'
        exact hstoredNull
    · rcases Option.or_eq_some_iff.mp (hcodes.symm.trans hvalue) with hold | ⟨-, hsent⟩
      · exact .inr ⟨stored, hstored, hold⟩
      · exact .inl hsent

theorem fieldSound_written (hsound : FieldsSound sh) (h : VisitKnown i sh v []) (hfills : FillsOpen v)
    {after : ModelVariant} (hwritten : WrittenField sh v f after) (hsh' : sh'.mappings = sh.mappings)
    (hreported : sh'.reported = v.reports ++ sh.reported) : FieldSound sh' v.variantId after f where
  filled hnull raw hraw := by
    obtain ⟨hsentNull, hopen, hstoredNull⟩ := hwritten.null hnull
    rw [hsh', hwritten.provider]
    rcases hwritten.raw with hrows | ⟨stored, hstored, hprovider, hrows⟩
    · exact (h.unmapped hopen hsentNull (hrows.symm.trans hraw)).1
    · rw [← hwritten.provider, ← hprovider]
      exact (hsound _ stored hstored f).filled (hstoredNull stored hstored) raw (hrows.symm.trans hraw)
  recorded raw hraw := by
    rw [hreported]
    rcases hwritten.raw with hrows | ⟨stored, hstored, hprovider, hrows⟩
    · have hmem := mem_reports v f
      rw [rawRows_eq_some (hrows.symm.trans hraw), ← hwritten.provider] at hmem
      exact List.mem_append_left _ hmem
    · rw [← hprovider]
      exact List.mem_append_right _ ((hsound _ stored hstored f).recorded raw (hrows.symm.trans hraw))
  traced value hvalue := by
    rw [hsh', hreported]
    rcases hwritten.value value hvalue with hsent | ⟨stored, hstored, hold⟩
    · obtain ⟨key, hkey⟩ := hfills f value hsent
      rcases h.fields f List.not_mem_nil key hkey with ⟨m, hm, heq⟩ | ⟨-, hnull, -⟩
      · refine ⟨key, m, List.mem_append_left _ ?_, hm, Option.mem_unique hsent heq⟩
        have hmem := mem_reports v f
        rwa [fieldKey_eq_some hkey] at hmem
      · rw [hsent] at hnull
        cases hnull
    · obtain ⟨key, m, hmem, hm, heq⟩ := (hsound _ stored hstored f).traced value hold
      exact ⟨key, m, List.mem_append_right _ hmem, hm, heq⟩
  constant key hall := by
    rw [hreported] at hall
    rcases hwritten.raw with hrows | ⟨stored, hstored, hprovider, hrows⟩
    · have hown := hall _ (List.mem_append_left _ (mem_reports v f))
      cases hraw : v.sent.rawRows f with
      | some raw =>
        rw [rawRows_eq_some hraw, ← hwritten.provider] at hown
        exact ⟨raw, hrows.trans hraw, Option.some.inj hown⟩
      | none =>
        rw [Option.map_eq_none_iff.mp hraw] at hown
        cases hown
    · obtain ⟨raw, hraw, hkey⟩ := (hsound _ stored hstored f).constant key fun r hr =>
        hall r (List.mem_append_right _ hr)
      exact ⟨raw, hrows.trans hraw, hprovider ▸ hkey⟩

theorem FieldsSound.visit [DecidableEq ι] (hsound : FieldsSound sh) (h : VisitKnown i sh v [])
    (hfills : FillsOpen v) (hfinds : Finds sh (.visiting v .listing))
    (hcommit : commitVisit i v sh = some sh') : FieldsSound sh' := by
  obtain ⟨variants, options, gaps, hvariants, -, rfl⟩ := commitVisit_eq_some hcommit
  intro id variant hid f
  by_cases heq : id = v.variantId
  · subst heq
    exact fieldSound_written hsound h hfills (written_field h hfinds hvariants hid f) rfl rfl
  · -- another variant, of which the visit reports nothing
    have hf := hsound id variant ((lookup_writeVariant_ne hvariants heq).symm.trans hid) f
    refine ⟨hf.filled, fun raw hraw => List.mem_append_right _ (hf.recorded raw hraw),
      fun value hvalue => ?_, fun key hall => hf.constant key fun r hr => ?_⟩
    · obtain ⟨key, m, hmem, hm⟩ := hf.traced value hvalue
      exact ⟨key, m, List.mem_append_right _ hmem, hm⟩
    · exact hall r (List.mem_append_right _ hr)

end Visits

section Resolutions

variable {key : CodeKey} {target : CanonicalValue} {ids : List Uuid} {optionKeys : List OptionKey}
  {f : CodedField}

theorem field_fillVariants {value : String} {variants : Variants} {id : Uuid} {after : ModelVariant}
    (h : (fillVariants key value ids variants).lookup id = some after) (f : CodedField) :
    ∃ before, variants.lookup id = some before ∧ after.provider = before.provider ∧
      after.rawCodes f = before.rawCodes f ∧ after.codes f = (before.codes f).or
        (if key.codeGroup = .field f ∧ id ∈ ids then some value else none) := by
  cases hid : variants.lookup id with
  | none =>
    unfold fillVariants at h
    split at h
    · rw [Table.lookup_updateAll, hid] at h
      cases h
    · rw [hid] at h
      cases h
    · rw [hid] at h
      cases h
  | some before =>
    refine ⟨before, rfl, ?_⟩
    obtain rfl := Option.mem_unique h (lookup_fillVariants hid)
    cases hgroup : key.codeGroup with
    | field g =>
      by_cases hmem : id ∈ ids
      · simp only [if_pos hmem, provider_fill, rawCodes_fill, codes_fill, true_and]
        by_cases hg : g = f
        · subst hg
          simp [onlyCode, hmem]
        · have hne : CodeGroup.field g ≠ CodeGroup.field f := fun heq => hg (CodeGroup.field.inj heq)
          simp [onlyCode, hne, Function.update_of_ne (Ne.symm hg)]
      · simp [hmem]
    | equipmentFeature => simp
    | other name => simp

variable [DecidableEq ι]

theorem FieldsSound.resolution (hsound : FieldsSound sh) (hresolves : Resolves i sh key target)
    (hcovers : ∀ f, key.codeGroup = .field f → Covers sh key ids f)
    (hcommit : commitResolution i key target ids optionKeys sh = some sh') : FieldsSound sh' := by
  obtain ⟨options, -, rfl⟩ := commitResolution_eq_some hcommit
  intro id after hid f
  obtain ⟨before, hbefore, hprovider, hraws, hcodes⟩ := field_fillVariants hid f
  have hf := hsound id before hbefore f
  refine ⟨fun hnull raw hraw => ?_, fun raw hraw => ?_, fun value hvalue => ?_, fun k hall => ?_⟩
  · obtain ⟨hbeforeNull, hnone⟩ := Option.or_eq_none_iff.mp (hcodes.symm.trans hnull)
    rw [hraws] at hraw
    have hunmapped := hf.filled hbeforeNull raw hraw
    rw [hprovider]
    refine (lookup_mappings hresolves.2).trans ?_
    rw [if_neg ?_]
    · exact hunmapped
    · -- the raw code is not the resolved one, for the variant would have been filled
      intro heq
      have hgroup : key.codeGroup = .field f := congrArg CodeKey.codeGroup heq.symm
      have hmem := (hcovers f hgroup).blocked id before hbefore hbeforeNull raw hraw heq
      rw [if_pos ⟨hgroup, hmem⟩] at hnone
      cases hnone
  · rw [hprovider]
    exact hf.recorded raw (hraws.symm.trans hraw)
  · rcases Option.or_eq_some_iff.mp (hcodes.symm.trans hvalue) with hold | ⟨-, hnew⟩
    · obtain ⟨k, m, hmem, hm, heq⟩ := hf.traced value hold
      exact ⟨k, m, hmem, mappings_grow hresolves.2 hm, heq⟩
    · split at hnew
      · next hfilled =>
        refine ⟨key, target, (hcovers f hfilled.1).reported id hfilled.2, ?_, (Option.some.inj hnew).symm⟩
        exact (lookup_mappings hresolves.2).trans (if_pos rfl)
      · cases hnew
  · rw [hraws, hprovider]
    exact hf.constant k hall

omit [DecidableEq ι] in
/-- The `SELECT` of a resolution finds every variant its code blocks. -/
theorem covers_blockedVariants (hsound : FieldsSound sh) (hgroup : key.codeGroup = .field f) :
    Covers sh key (blockedVariants key sh.variants) f := by
  have hmem : ∀ id, id ∈ blockedVariants key sh.variants ↔ ∃ variant,
      sh.variants.lookup id = some variant ∧ decide (variant.provider = key.provider ∧
        variant.rawCodes f = some ⟨key.vehicleKind, key.providerCode⟩ ∧ (variant.codes f).isNone) = true := by
    intro id
    rw [blockedVariants, hgroup]
    exact Table.mem_selectKeys
  have hkey : ∀ provider raw, provider = key.provider → raw = ⟨key.vehicleKind, key.providerCode⟩ →
      RawCode.key provider f raw = key := by
    rintro provider raw rfl rfl
    obtain ⟨provider, vehicleKind, codeGroup, providerCode⟩ := key
    exact congrArg (CodeKey.mk provider vehicleKind · providerCode) hgroup.symm
  refine ⟨fun id variant hid hnull raw hraw heq => ?_, fun id hid => ?_⟩
  · rw [hmem]
    subst heq
    exact ⟨variant, hid, decide_eq_true ⟨rfl, hraw, by rw [hnull]; rfl⟩⟩
  · obtain ⟨variant, hlookup, hguard⟩ := (hmem id).mp hid
    obtain ⟨hprovider, hraw, -⟩ := of_decide_eq_true hguard
    have hrecorded := (hsound id variant hlookup f).recorded _ hraw
    rwa [hkey _ _ hprovider rfl] at hrecorded

theorem Covers.resolution {key' : CodeKey} {ids' : List Uuid} (h : Covers sh key' ids' f)
    (hcommit : commitResolution i key target ids optionKeys sh = some sh') : Covers sh' key' ids' f := by
  obtain ⟨options, -, rfl⟩ := commitResolution_eq_some hcommit
  refine ⟨fun id after hid hnull raw hraw heq => ?_, h.reported⟩
  obtain ⟨before, hbefore, hprovider, hraws, hcodes⟩ := field_fillVariants hid f
  exact h.blocked id before hbefore (Option.or_eq_none_iff.mp (hcodes.symm.trans hnull)).1 raw
    (hraws.symm.trans hraw) (hprovider ▸ heq)

theorem Covers.visit {v : Visit} (h : Covers sh key ids f) (hne : j ≠ i)
    (hcompatible : Compatible sh.locks) (hlocked : Locked sh.locks j key) (hknown : VisitKnown i sh v [])
    (hfinds : Finds sh (.visiting v .listing)) (hcommit : commitVisit i v sh = some sh') :
    Covers sh' key ids f := by
  obtain ⟨variants, options, gaps, hvariants, -, rfl⟩ := commitVisit_eq_some hcommit
  refine ⟨fun id after hid hnull raw hraw heq => ?_, fun id hid => List.mem_append_right _ (h.reported id hid)⟩
  by_cases hvisited : id = v.variantId
  · subst hvisited
    have hwritten := written_field hknown hfinds hvariants hid f
    obtain ⟨hsentNull, hopen, hstoredNull⟩ := hwritten.null hnull
    rcases hwritten.raw with hrows | ⟨stored, hstored, hprovider, hrows⟩
    · -- the visit has locked the gap of the code it writes
      have hvisitor := (hknown.unmapped hopen hsentNull (hrows.symm.trans hraw)).2
      rw [← hwritten.provider, heq] at hvisitor
      exact absurd (hlocked.unique hcompatible hvisitor) hne
    · exact h.blocked _ stored hstored (hstoredNull stored hstored) raw (hrows.symm.trans hraw)
        (hprovider ▸ heq)
  · exact h.blocked id after ((lookup_writeVariant_ne hvariants hvisited).symm.trans hid) hnull raw hraw heq

end Resolutions

section Runs

theorem knowsFields_reads (hsound : FieldsSound sh) (hknows : Knows i sh lo) (h : KnowsFields sh lo)
    (hreads : Reads sh lo lo') : KnowsFields sh lo' := by
  cases hreads with
  | started v hdrafts hcodes hfound hnew =>
    intro f value hvalue
    rw [hcodes] at hvalue
    cases hvalue
  | recorded | skipped | fieldsDone | opened | closed | asked | missed => exact h
  | answered v stage key at_ value hvalue hat =>
    match stage, hknows.2.1 with
    | .fields (f :: rest), hkey =>
      intro f' value' hvalue'
      by_cases heq : f' = f
      · exact ⟨key, heq ▸ hkey⟩
      · exact h f' value' ((Function.update_of_ne heq ..).symm.trans hvalue')
    | .features k draft (code :: rest), _ => exact h
  | validated => trivial
  | filled key target => exact fun f hgroup => covers_blockedVariants hsound hgroup
  | featured key target ids => exact h

variable [DecidableEq ι]

theorem knowsFields_moves (hknows : Knows i sh lo) (hsound : FieldsSound sh)
    (h : KnowsFields sh lo) (hfinds : ch = .commit → Finds sh lo) (hmoves : Moves i ch sh lo sh' lo') :
    FieldsSound sh' ∧ KnowsFields sh' lo' := by
  cases hmoves with
  | reads lo lo' hreads => exact ⟨hsound, knowsFields_reads hsound hknows h hreads⟩
  | touched v stage key at_ newGaps mode hmode hfree => exact ⟨hsound.relock _, h⟩
  | locked key target hfree => exact ⟨hsound.relock _, trivial⟩
  | visited v sh' hch hcommit => exact ⟨hsound.visit hknows h (hfinds hch) hcommit, trivial⟩
  | resolved key target ids options sh' hch hcommit =>
    exact ⟨hsound.resolution hknows h hcommit, trivial⟩
  | rolledBack lo => exact ⟨hsound.relock _, trivial⟩

theorem covers_moves {key : CodeKey} {ids : List Uuid} {f : CodedField} (hsh : Consistent sh)
    (hne : j ≠ i) (hlocked : Locked sh.locks j key) (h : Covers sh key ids f) (hknows : Knows i sh lo)
    (hfinds : ch = .commit → Finds sh lo) (hmoves : Moves i ch sh lo sh' lo') : Covers sh' key ids f := by
  cases hmoves with
  | reads | touched | locked | rolledBack => exact ⟨h.blocked, h.reported⟩
  | visited v sh' hch hcommit =>
    exact h.visit hne hsh.compatible hlocked hknows (hfinds hch) hcommit
  | resolved key target ids options sh' hch hcommit => exact h.resolution hcommit

theorem knowsFields_respects {lo₀ : Session} (hsh : Consistent sh) (hne : j ≠ i) (hknows₀ : Knows j sh lo₀)
    (h : KnowsFields sh lo₀) (hknows : Knows i sh lo) (hfinds : ch = .commit → Finds sh lo)
    (hmoves : Moves i ch sh lo sh' lo') : KnowsFields sh' lo₀ := by
  cases lo₀ with
  | idle | locked | mapped => trivial
  | visiting | asking => exact h
  | filled key target ids | featured key target ids options =>
    exact fun f hgroup => covers_moves hsh hne hknows₀.1 (h f hgroup) hknows hfinds hmoves

def opening (mappings : Table CodeKey CanonicalValue) (gaps : Table CodeKey MappingGap) :
    Config ι (Shared ι) Session := ⟨{ mappings := mappings, gaps := gaps }, fun _ => .idle⟩

omit [DecidableEq ι] in
theorem opening_consistent (mappings : Table CodeKey CanonicalValue) (gaps : Table CodeKey MappingGap) :
    Consistent (opening mappings gaps : Config ι (Shared ι) Session).shared :=
  ⟨Compatible.nil, nofun⟩

abbrev Mirrored (G : Shared ι → Prop) (L : Shared ι → Session → Prop) :
    Config ι (Shared ι) Session → Prop :=
  Holds (fun sh => Consistent sh ∧ G sh) fun i sh lo => Knows i sh lo ∧ L sh lo

/-- What the tables satisfy, and each session knows, next to the invariant: it holds along
every run whose commits find what they expect, where each move keeps it. -/
theorem mirrored_run {G : Shared ι → Prop} {L finds : Shared ι → Session → Prop}
    (hown : ∀ {i ch sh lo sh' lo'}, Knows i sh lo → G sh → L sh lo → (ch = .commit → finds sh lo) →
      Moves i ch sh lo sh' lo' → G sh' ∧ L sh' lo')
    (hothers : ∀ {i j ch sh lo sh' lo' lo₀}, Consistent sh → j ≠ i → Knows j sh lo₀ → L sh lo₀ →
      Knows i sh lo → (ch = .commit → finds sh lo) → Moves i ch sh lo sh' lo' → L sh' lo₀)
    {mappings : Table CodeKey CanonicalValue} {gaps : Table CodeKey MappingGap}
    (hG : G (opening mappings gaps).shared) (hL : L (opening mappings gaps).shared .idle)
    {actions : List (ι × Choice)}
    (hfinds : Run.Along (move step) (fun c a => a.2 = .commit → finds c.shared (c.locals a.1))
      (opening mappings gaps) actions) :
    G (actions.foldl (move step) (opening mappings gaps)).shared := by
  have hstep : ∀ c (a : ι × Choice), Mirrored G L c → (a.2 = .commit → finds c.shared (c.locals a.1)) →
      Mirrored G L (move step c a) := by
    intro c a hc ha
    refine noninterference (fun _ ch sh lo => ch = .commit → finds sh lo)
      (fun i ch sh lo sh' lo' hsh hlo hok h => ?_)
      (fun i j ch sh lo lo₀ sh' lo' hij hsh hlo hlo₀ hok h => ?_) hc ha
    · obtain ⟨hconsistent, hknows⟩ := knows_moves hsh.1 hlo.1 (moves_of_step h)
      obtain ⟨hG, hL⟩ := hown hlo.1 hsh.2 hlo.2 hok (moves_of_step h)
      exact ⟨⟨hconsistent, hG⟩, hknows, hL⟩
    · exact ⟨hlo₀.1.kept (kept_moves hsh.1 hij.symm hlo.1 (moves_of_step h)),
        hothers hsh.1 hij.symm hlo₀.1 hlo₀.2 hlo.1 hok (moves_of_step h)⟩
  have hopening : Mirrored G L (opening mappings gaps) :=
    ⟨⟨opening_consistent mappings gaps, hG⟩, fun _ => ⟨trivial, hL⟩⟩
  exact (Run.invariant_along hstep hopening hfinds).1.2

/-- Every committed state of a run in which visits find what they change as they
have read it has sound fields. -/
theorem fields_sound {mappings : Table CodeKey CanonicalValue} {gaps : Table CodeKey MappingGap}
    {actions : List (ι × Choice)}
    (hfinds : Run.Along (move step) (fun c a => a.2 = .commit → Finds c.shared (c.locals a.1))
      (opening mappings gaps) actions) :
    FieldsSound (actions.foldl (move step) (opening mappings gaps)).shared :=
  mirrored_run knowsFields_moves knowsFields_respects (nofun) trivial hfinds

end Runs

end Nexotec.CatalogueSync
