/-
Catalogue codes converge.

* `catalogue_codes_converge` — in every run a set field stays and the version counts the
  changes; when the raw codes that visits change are then the ones they sent, a NULL
  field has no mapped raw code, and a field whose reported code has never changed is the
  image of that code, whenever it was mapped; when commits find their options as
  expected, an option's features are the image of its raw codes.
-/
import Nexotec.Vehicle.CatalogueFeatures

namespace Nexotec.CatalogueSync

open RowWrites Locks Interleaving

variable {ι : Type} {i j : ι} {ch : Choice} {sh sh' : Shared ι} {lo lo' : Session}

section

variable [DecidableEq ι]

def final (mappings : Table CodeKey CanonicalValue) (gaps : Table CodeKey MappingGap)
    (actions : List (ι × Choice)) : Config ι (Shared ι) Session :=
  actions.foldl (move step) (opening mappings gaps)

abbrev Commits (ok : Shared ι → Session → Prop) (mappings : Table CodeKey CanonicalValue)
    (gaps : Table CodeKey MappingGap) (actions : List (ι × Choice)) : Prop :=
  Run.Along (move step) (fun c a => a.2 = .commit → ok c.shared (c.locals a.1))
    (opening mappings gaps) actions

variable {id : Uuid} {variant : ModelVariant}

theorem variants_evolve (hmoves : Moves i ch sh lo sh' lo')
    (hid : sh.variants.lookup id = some variant) :
    ∃ variant', sh'.variants.lookup id = some variant' ∧ Evolves variant variant' := by
  cases hmoves with
  | reads | touched | locked | rolledBack => exact ⟨variant, hid, .refl variant⟩
  | visited v sh' hch hcommit =>
    obtain ⟨variants, options, gaps, hvariants, -, rfl⟩ := commitVisit_eq_some hcommit
    exact writeVariant_evolves hvariants hid
  | resolved key target ids options sh' hch hcommit =>
    obtain ⟨options, -, rfl⟩ := commitResolution_eq_some hcommit
    exact fillVariants_evolves hid

theorem move_evolves (c : Config ι (Shared ι) Session) (a : ι × Choice)
    (hid : c.shared.variants.lookup id = some variant) :
    ∃ variant', (move step c a).shared.variants.lookup id = some variant' ∧ Evolves variant variant' := by
  cases h : step a.1 a.2 c.shared (c.locals a.1) with
  | none =>
    rw [move_none h]
    exact ⟨variant, hid, .refl variant⟩
  | some p =>
    rw [move_some h]
    exact variants_evolve (moves_of_step h) hid

omit [DecidableEq ι] in
/-- A field all of whose reports are of one code is the image of that code. -/
theorem FieldSound.image {f : CodedField} (h : FieldSound sh id variant f) {key : CodeKey}
    (hconstant : ∀ r, (id, f, r) ∈ sh.reported → r = some key) :
    variant.codes f = (sh.mappings.lookup key).map (·.valueCode) := by
  cases hvalue : variant.codes f with
  | some value =>
    obtain ⟨key', m, hmem, hm, rfl⟩ := h.traced value hvalue
    obtain rfl := Option.some.inj (hconstant _ hmem)
    rw [hm, Option.map_some]
  | none =>
    obtain ⟨raw, hraw, rfl⟩ := h.constant key hconstant
    rw [h.filled hvalue raw hraw, Option.map_none]

/-- What is promised of the run `actions`. -/
structure Converges (mappings : Table CodeKey CanonicalValue) (gaps : Table CodeKey MappingGap)
    (actions : List (ι × Choice)) : Prop where
  /-- One more step keeps every set field, and changes a variant with one version more
  or not at all. -/
  evolves : ∀ a id variant, (final mappings gaps actions).shared.variants.lookup id = some variant →
    ∃ variant', (final mappings gaps (actions ++ [a])).shared.variants.lookup id = some variant' ∧
      Evolves variant variant'
  /-- A NULL field's raw code has no mapping. -/
  filled : Commits Finds mappings gaps actions → ∀ id variant,
    (final mappings gaps actions).shared.variants.lookup id = some variant → ∀ f raw,
    variant.rawCodes f = some raw → variant.codes f = none →
    (final mappings gaps actions).shared.mappings.lookup (raw.key variant.provider f) = none
  /-- A field whose reported code has never changed does not depend on when the code was
  mapped. -/
  image : Commits Finds mappings gaps actions → ∀ id variant,
    (final mappings gaps actions).shared.variants.lookup id = some variant → ∀ f key,
    (∀ r, (id, f, r) ∈ (final mappings gaps actions).shared.reported → r = some key) →
    variant.codes f =
      ((final mappings gaps actions).shared.mappings.lookup key).map (·.valueCode)
  /-- An option's features are what its raw codes map to. -/
  features : Commits FindsOptions mappings gaps actions → ∀ k option,
    (final mappings gaps actions).shared.options.lookup k = some option → ∀ value,
    value ∈ option.features ↔ Maps (final mappings gaps actions).shared.mappings option value

/-- **Catalogue codes converge.**  Whatever visits and resolutions run, in any order of
their statements and with any of them failing. -/
theorem catalogue_codes_converge (mappings : Table CodeKey CanonicalValue)
    (gaps : Table CodeKey MappingGap) (actions : List (ι × Choice)) :
    Converges mappings gaps actions where
  evolves a id variant hid := by
    have hlast : final mappings gaps (actions ++ [a]) = move step (final mappings gaps actions) a := by
      rw [final, List.foldl_append]
      rfl
    rw [hlast]
    exact move_evolves _ a hid
  filled hfinds id variant hid f raw hraw hnull := (fields_sound hfinds id variant hid f).filled hnull raw hraw
  image hfinds id variant hid f _ hconstant := (fields_sound hfinds id variant hid f).image hconstant
  features hfinds := options_match hfinds

end

/-- Nobody else is at work. -/
def Serial (c : Config ι (Shared ι) Session) (a : ι × Choice) : Prop := ∀ j, a.1 ≠ j → c.locals j = .idle

/-- The draft's row is the one that is stored. -/
def DraftAsRead (sh : Shared ι) (v : Visit) (k : OptionKey) (draft : OptionDraft) : Prop :=
  k.variantId = v.variantId ∧ (sh.options.lookup k).getD draft.base = draft.base

def RowsAsRead (sh : Shared ι) (v : Visit) : Prop :=
  ∀ stored, sh.variants.lookup v.variantId = some stored → ∀ f, stored.rawCodes f = v.baseRows f

def StageAsRead (sh : Shared ι) (v : Visit) : Stage → Prop
  | .recording => True
  | .fields _ | .listing => RowsAsRead sh v
  | .features k draft _ => RowsAsRead sh v ∧ DraftAsRead sh v k draft

/-- What a session has read is what is stored. -/
def AsRead (sh : Shared ι) : Session → Prop
  | .visiting v stage | .asking v stage _ _ =>
    (v.found = none → sh.variants.lookup v.variantId = none) ∧
      (∀ k draft, v.drafts.lookup k = some draft → DraftAsRead sh v k draft) ∧ StageAsRead sh v stage
  | .featured key _ _ optionKeys => ∀ k ∈ optionKeys, ∀ option, sh.options.lookup k = some option →
      option.records key = true
  | .idle | .locked .. | .mapped .. | .filled .. => True

theorem asRead_openOption {v : Visit} (hsh : Consistent sh)
    (h : AsRead sh (.visiting v .listing)) (option : VariantOptionData) :
    AsRead sh (.visiting (v.openOption sh.options option).1 (v.openOption sh.options option).2) := by
  obtain ⟨hnew, hdrafts, hrows⟩ := h
  refine ⟨hnew, hdrafts, hrows, rfl, ?_⟩
  cases hdraft : v.drafts.lookup ⟨v.tenantId, v.variantId, option.optionCode⟩ with
  | some earlier => exact (hdrafts _ earlier hdraft).2
  | none =>
    cases hstored : sh.options.lookup ⟨v.tenantId, v.variantId, option.optionCode⟩ with
    | none => cases v.found <;> rfl
    | some stored =>
      cases hfound : v.found with
      | none =>
        -- a stored option is of a stored variant
        obtain ⟨variant, hvariant, -⟩ := hsh.homes _ stored hstored
        cases (hnew hfound).symm.trans hvariant
      | some variant => rfl

theorem asRead_closeOption {v : Visit} {k : OptionKey} {draft : OptionDraft} {rest : List String}
    (h : AsRead sh (.visiting v (.features k draft rest))) :
    AsRead sh (.visiting (v.closeOption sh.options k draft) .listing) := by
  obtain ⟨hnew, hdrafts, hrows, hhome, hbase⟩ := h
  refine ⟨hnew, fun k' draft' hdraft => ?_, hrows⟩
  rcases Table.lookup_insert_cases hdraft with ⟨rfl, rfl⟩ | ⟨-, hold⟩
  · refine ⟨hhome, ?_⟩
    dsimp only
    split
    · exact hbase
    · -- the features are read again, from the same row
      cases hstored : sh.options.lookup k' with
      | none => rfl
      | some stored =>
        rw [hstored, Option.getD_some] at hbase
        rw [← hbase]
        rfl
  · exact hdrafts k' draft' hold

theorem asRead_answer {v : Visit} {stage : Stage} {key : CodeKey} {at_ : Lookup} (value : Option String)
    (h : AsRead sh (.asking v stage key at_)) : AsRead sh (answered v stage value) := by
  obtain ⟨hnew, hdrafts, hstage⟩ := h
  cases stage with
  | recording | listing => exact ⟨hnew, hdrafts, hstage⟩
  | fields rest => cases rest <;> exact ⟨hnew, hdrafts, hstage⟩
  | features k draft rest => cases rest <;> exact ⟨hnew, hdrafts, hstage⟩

theorem asRead_reads (hsh : Consistent sh) (h : AsRead sh lo) (hreads : Reads sh lo lo') : AsRead sh lo' := by
  cases hreads with
  | started v hdrafts hcodes hfound hnew =>
    refine ⟨hnew, fun k draft hdraft => ?_, trivial⟩
    rw [hdrafts] at hdraft
    cases hdraft
  | recorded v rows hrows =>
    obtain ⟨hnew, hdrafts, -⟩ := h
    refine ⟨hnew, hdrafts, fun stored hstored f => ?_⟩
    cases hfound : v.found with
    | none => cases (hnew hfound).symm.trans hstored
    | some variant =>
      show stored.rawCodes f = rows f
      rw [hrows variant hfound f, show sh.variants.lookup v.variantId = some stored from hstored]
      rfl
  | skipped | fieldsDone | asked | missed => exact h
  | opened v option => exact asRead_openOption hsh h option
  | closed => exact asRead_closeOption h
  | answered v stage key at_ value => exact asRead_answer value h
  | validated | filled => trivial
  | featured key target ids =>
    intro k hk option hoption
    unfold blockedOptions at hk
    split at hk
    · obtain ⟨option', hoption', hblocked⟩ := Table.mem_selectKeys.mp hk
      obtain rfl := Option.mem_unique hoption hoption'
      exact (of_decide_eq_true hblocked).1
    · cases hk

/-- A session that comes to its commit with what is stored meets both conditions. -/
theorem finds_of_asRead (h : AsRead sh lo) : Finds sh lo ∧ FindsOptions sh lo := by
  cases lo with
  | idle | asking | locked | mapped | filled => exact ⟨trivial, trivial⟩
  | featured => exact ⟨trivial, h⟩
  | visiting v stage =>
    cases stage with
    | recording | fields | features => exact ⟨trivial, trivial⟩
    | listing =>
      obtain ⟨-, hdrafts, hrows⟩ := h
      refine ⟨fun stored hstored f _ => ?_, fun k draft hdraft => (hdrafts k draft hdraft).2⟩
      rw [hrows stored hstored f, writeRow_base _ RawCode.columns_base, Option.getD_some]

section

variable [DecidableEq ι]

theorem asRead_moves (hsh : Consistent sh) (h : AsRead sh lo) (hmoves : Moves i ch sh lo sh' lo') :
    AsRead sh' lo' := by
  cases hmoves with
  | reads lo lo' hreads => exact asRead_reads hsh h hreads
  | touched v stage key at_ newGaps =>
    obtain ⟨hnew, hdrafts, hstage⟩ := h
    cases stage <;> exact ⟨hnew, hdrafts, hstage⟩
  | locked | visited | resolved | rolledBack => trivial

/-- Runs without overlaps meet both conditions. -/
theorem finds_of_serial {mappings : Table CodeKey CanonicalValue} {gaps : Table CodeKey MappingGap}
    {actions : List (ι × Choice)} (hserial : Run.Along (move step) Serial (opening mappings gaps) actions) :
    Commits Finds mappings gaps actions ∧ Commits FindsOptions mappings gaps actions := by
  have hopening : Holds Consistent (fun i sh lo => Knows i sh lo ∧ AsRead sh lo)
      (opening mappings gaps : Config ι (Shared ι) Session) :=
    ⟨opening_consistent mappings gaps, fun _ => ⟨trivial, trivial⟩⟩
  have hstep : ∀ (c : Config ι (Shared ι) Session) a,
      Holds Consistent (fun i sh lo => Knows i sh lo ∧ AsRead sh lo) c → Serial c a →
      Holds Consistent (fun i sh lo => Knows i sh lo ∧ AsRead sh lo) (move step c a) := by
    intro c a hc ha
    refine noninterference_config Serial (fun sh' lo' hsh h _ hmove => ?_)
      (fun j sh' lo' hij _ _ _ hserial _ => ?_) hc ha
    · have hmoves := moves_of_step hmove
      obtain ⟨hsh', hknows⟩ := knows_moves hsh h.1 hmoves
      exact ⟨hsh', hknows, asRead_moves hsh h.2 hmoves⟩
    · rw [hserial j hij]
      exact ⟨trivial, trivial⟩
  have hboth := Run.Along.imp_of_invariant (fun c a hc ha _ => hstep c a hc ha)
    (fun _ a hc _ => finds_of_asRead (hc.2 a.1).2) hopening hserial
  exact ⟨hboth.mono fun _ _ h _ => h.1, hboth.mono fun _ _ h _ => h.2⟩

end

section Example

instance decidableCommit : ∀ ch : Choice, Decidable (ch = .commit)
  | .commit => isTrue rfl
  | .visit .. => isFalse nofun
  | .resolve .. => isFalse nofun
  | .go => isFalse nofun
  | .validate _ => isFalse nofun
  | .abort => isFalse nofun

instance decidableFinds (sh : Shared ι) : ∀ lo : Session, Decidable (Finds sh lo)
  | .visiting v .listing =>
    match h : sh.variants.lookup v.variantId with
    | none => isTrue fun _ hstored => by cases h.symm.trans hstored
    | some row => decidable_of_iff
        (∀ f ∈ CodedField.all, v.baseRows f ≠ v.sent.rawRows f → (writeRow RawCode.columns
          (v.baseRows f) (v.sent.rawRows f) (row.rawCodes f)).getD (row.rawCodes f) = v.sent.rawRows f)
        ⟨fun hall _ hstored f => Option.mem_unique h hstored ▸ hall f (CodedField.mem_all f),
          fun hall f _ => hall row h f⟩
  | .visiting _ .recording | .visiting _ (.fields _) | .visiting _ (.features ..) => isTrue trivial
  | .idle | .asking .. | .locked .. | .mapped .. | .filled .. | .featured .. => isTrue trivial

def kindKey : CodeKey := ⟨"auto_i_dat", "01", .field .vehicleKind, "01"⟩

def fuelKey (code : String) : CodeKey := ⟨"auto_i_dat", "01", .field .fuelType, code⟩

/-- One vehicle kind is mapped, and a fuel of each of two kinds. -/
def seeded : Table CodeKey CanonicalValue :=
  ((AList.insert kindKey ⟨.field .vehicleKind, "car"⟩ ∅).insert
    (fuelKey "D") ⟨.field .fuelType, "diesel"⟩).insert
    ⟨"auto_i_dat", "02", .field .fuelType, "C"⟩ ⟨.field .fuelType, "gas"⟩

def oneGap : Table CodeKey MappingGap := AList.insert (fuelKey "B") {} ∅

def goTimes (i n : ℕ) : List (ℕ × Choice) := List.replicate n (i, .go)

/-- The first `n` statements of a visit of one car, with one option. -/
def visitOf (i : ℕ) (kind fuel : String) (features : List String)
    (hstripped : ∀ code ∈ features, code ≠ "") (n : ℕ) : List (ℕ × Choice) :=
  (i, .visit "auto_i_dat" 1 ⟨"100", none, kind, some fuel, none, none, none, none, none⟩
    [⟨"P1", features, hstripped⟩] 10) :: goTimes i n

def resolutionOf (i : ℕ) (key : CodeKey) (value : String) : List (ℕ × Choice) :=
  [(i, .resolve key ⟨key.codeGroup, value⟩), (i, .validate (some [value])), (i, .go), (i, .go), (i, .commit)]

/-- The fuel of the car, its version, and the features of its option. -/
def outcome (actions : List (ℕ × Choice)) : Option (Option String × ℕ × Finset String) :=
  let sh := (final seeded oneGap actions).shared
  (sh.variants.lookup 10).map fun car =>
    (car.codes .fuelType, car.version, ((sh.options.lookup ⟨1, 10, "P1"⟩).map (·.features)).getD ∅)

/-- The resolution waits for the first visit, and the second visit for it. -/
def lateMapping : List (ℕ × Choice) :=
  visitOf 1 "01" "B" ["LED"] (by decide) 7 ++
    [(0, .resolve (fuelKey "B") ⟨.field .fuelType, "petrol"⟩)] ++ goTimes 1 14 ++ [(1, .commit)] ++
    [(0, .resolve (fuelKey "B") ⟨.field .fuelType, "petrol"⟩), (0, .validate (some ["petrol"])), (0, .go)] ++
    visitOf 2 "01" "B" ["LED"] (by decide) 7 ++ [(0, .go), (0, .commit)] ++ goTimes 2 14 ++ [(2, .commit)] ++
    resolutionOf 0 (featureKey "auto_i_dat" "01" "LED") "led"

theorem catalogue_codes_converge_lateMapping :
    outcome lateMapping = some (some "petrol", 2, {"led"}) ∧ Commits Finds seeded oneGap lateMapping ∧
      Converges seeded oneGap lateMapping :=
  ⟨by decide +kernel, by decide +kernel, catalogue_codes_converge seeded oneGap lateMapping⟩

instance decidableIdle : ∀ lo : Session, Decidable (lo = .idle)
  | .idle => isTrue rfl
  | .visiting .. | .asking .. | .locked .. | .mapped .. | .filled .. | .featured .. => isFalse nofun

instance (c : Config (Fin 3) (Shared (Fin 3)) Session) (a : Fin 3 × Choice) : Decidable (Serial c a) :=
  inferInstanceAs (Decidable (∀ j, a.1 ≠ j → c.locals j = .idle))

/-- A visit, the resolution of a code of its option, and another visit. -/
def oneByOne : List (Fin 3 × Choice) :=
  let actions : List (ℕ × Choice) := visitOf 1 "01" "B" ["LED"] (by decide) 20 ++ [(1, .commit)] ++
    resolutionOf 0 (featureKey "auto_i_dat" "01" "LED") "led" ++
    visitOf 2 "01" "D" ["LED"] (by decide) 20 ++ [(2, .commit)]
  actions.map fun action => (⟨action.1 % 3, Nat.mod_lt _ (Nat.succ_pos 2)⟩, action.2)

theorem finds_of_serial_oneByOne :
    ((final seeded oneGap oneByOne).shared.options.lookup ⟨1, 10, "P1"⟩).map (·.features) = some {"led"} ∧
      Commits Finds seeded oneGap oneByOne ∧ Commits FindsOptions seeded oneGap oneByOne :=
  ⟨by decide +kernel, finds_of_serial (by decide +kernel)⟩

/-- Two visits that report another fuel each, and a resolution before or after them. -/
def twoFuels : List (ℕ × Choice) :=
  visitOf 1 "01" "B" [] (by decide) 14 ++ [(1, .commit)] ++ visitOf 2 "01" "D" [] (by decide) 11 ++
    [(2, .commit)]

def mappedEarly : List (ℕ × Choice) := resolutionOf 0 (fuelKey "B") "petrol" ++ twoFuels

def mappedLate : List (ℕ × Choice) := twoFuels ++ resolutionOf 0 (fuelKey "B") "petrol"

def stateEarly : Shared ℕ := (final seeded oneGap mappedEarly).shared

def stateLate : Shared ℕ := (final seeded oneGap mappedLate).shared

theorem reported_early_late : stateEarly.reported = stateLate.reported := by
  have hequal : decide (stateEarly.reported = stateLate.reported) = true := by decide +kernel
  exact of_decide_eq_true hequal

theorem mappings_early_late : stateEarly.mappings = stateLate.mappings := by
  have hequal : decide (stateEarly.mappings.entries = stateLate.mappings.entries) = true := by
    decide +kernel
  exact AList.ext (of_decide_eq_true hequal)

/-- The same reports and the same mappings, and a petrol or a diesel car: a field that
is set is not overwritten, and a code that is no longer recorded fills nothing. -/
theorem mapped_late_differs :
    ¬ ∀ (mappings : Table CodeKey CanonicalValue) (gaps : Table CodeKey MappingGap)
      (early late : List (ℕ × Choice)),
      (final mappings gaps early).shared.reported = (final mappings gaps late).shared.reported →
      (final mappings gaps early).shared.mappings = (final mappings gaps late).shared.mappings →
      ∀ id f, ((final mappings gaps early).shared.variants.lookup id).map (·.codes f) =
        ((final mappings gaps late).shared.variants.lookup id).map (·.codes f) := by
  intro h
  have hsame := h seeded oneGap mappedEarly mappedLate reported_early_late mappings_early_late 10 .fuelType
  have hearly : (stateEarly.variants.lookup 10).map (·.codes .fuelType) = some (some "petrol") := by
    decide +kernel
  have hlate : (stateLate.variants.lookup 10).map (·.codes .fuelType) = some (some "diesel") := by
    decide +kernel
  have hvalues : some (some "petrol") = some (some "diesel") := hearly.symm.trans (hsame.trans hlate)
  revert hvalues
  decide

/-- Outside the condition on options: a code dropped while it is being resolved. -/
example : outcome (visitOf 1 "01" "D" ["LED"] (by decide) 20 ++ [(1, .commit)] ++
      (resolutionOf 0 (featureKey "auto_i_dat" "01" "LED") "led").take 4 ++
      visitOf 2 "01" "D" [] (by decide) 20 ++ [(2, .commit), (0, .commit)]) =
    some (some "diesel", 1, {"led"}) := by decide +kernel

/-- Two visits that read the same raw code and change another column of it each. -/
def twoColumns : List (ℕ × Choice) :=
  visitOf 1 "01" "B" [] (by decide) 20 ++ [(1, .commit)] ++ visitOf 1 "01" "C" [] (by decide) 20 ++
    visitOf 2 "02" "B" [] (by decide) 20 ++ [(1, .commit), (2, .commit)]

/-- Outside the condition on raw codes: the field is NULL, and the row has the kind of
one visit and the code of the other, which is mapped. -/
example : outcome twoColumns = some (none, 1, ∅) ∧
    ((final seeded oneGap twoColumns).shared.variants.lookup 10).bind (·.rawCodes .fuelType) =
      some ⟨"02", "C"⟩ := by decide +kernel

end Example

end Nexotec.CatalogueSync
