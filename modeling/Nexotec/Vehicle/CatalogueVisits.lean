/-
Visits of the catalogue sync and resolutions of mapping gaps, side by side
(`upsert_model_variant`, `_sync_option_equipment_features`, `resolve_provider_code`,
`resolve_gap`).

Every visit and every resolution is a transaction of its own that reads what others
have committed, statement by statement, and writes at its commit.  The row of a gap is
a lock to the end of the transaction: a resolution takes it first, a visit takes it for
every code it finds unmapped, and then looks the code up again.

* `commitVisit`, `commitResolution` — what a commit makes of the stored rows;
* `Moves`, `moves_of_step` — everything a step can do.
-/
import Nexotec.Lib.Interleaving
import Nexotec.Lib.Locks
import Nexotec.Vehicle.CatalogueCodes

namespace Nexotec.CatalogueSync

open RowWrites Locks

variable {ι : Type}

/-- What is committed, and the gap rows that are locked.  `reported` is history: the
code each committed visit reported for each field. -/
structure Shared (ι : Type) where
  mappings : Table CodeKey CanonicalValue := ∅
  gaps : Table CodeKey MappingGap := ∅
  variants : Variants := ∅
  options : Options := ∅
  locks : List (Grant ι CodeKey) := []
  reported : List (Uuid × CodedField × Option CodeKey) := []

/-! ### A visit -/

/-- What a visit has read and what it is going to write. -/
structure Visit where
  provider : String
  tenantId : Uuid
  sent : VariantMasterData
  /-- The options the provider answers with and the visit has not come to. -/
  options : List VariantOptionData
  variantId : Uuid
  /-- The variant as it was found; `none` is a new one. -/
  found : Option ModelVariant
  /-- The `VariantProviderCode` rows as they were read. -/
  baseRows : CodedField → Option RawCode := fun _ => none
  /-- The values to fill in. -/
  codes : CodedField → Option String := fun _ => none
  newGaps : List CodeKey := []
  drafts : Table OptionKey OptionDraft := ∅

/-- `find_variant_by_fz_key`: one of the variants with this key. -/
def findVariantByFzKey (provider fzKey : String) (variants : Variants) : List Uuid :=
  variants.selectKeys fun _ variant => variant.provider = provider ∧ variant.fzKey = fzKey

/-- `target` is the variant that is found, or the fresh id of the new one. -/
def startVisit (provider : String) (tenantId : Uuid) (sent : VariantMasterData)
    (options : List VariantOptionData) (target : Uuid) (variants : Variants) : Option Visit :=
  let ids := findVariantByFzKey provider sent.fzKey variants
  if (ids = [] ∧ (variants.lookup target).isNone) ∨ target ∈ ids then
    some ⟨provider, tenantId, sent, options, target,
      if ids = [] then none else variants.lookup target, fun _ => none, fun _ => none, [], ∅⟩
  else none

def Visit.isOpen (v : Visit) (f : CodedField) : Bool :=
  v.found.all fun variant => (variant.codes f).isNone

/-- The key `_resolve_code` is called with, for a field that is to be resolved. -/
def Visit.fieldKey (v : Visit) (f : CodedField) : Option CodeKey :=
  if v.isOpen f then (v.sent.rawCodes f).map (v.sent.key v.provider f) else none

def Visit.master (v : Visit) (m : MasterField) : Option m.Value :=
  if v.found.all fun variant => (variant.master m).isNone then v.sent.master m else none

/-- Where a visit is. -/
inductive Stage where
  | recording
  | fields (rest : List CodedField)
  | listing
  /-- In `_sync_option_equipment_features`; `draft.features` is `resolved_codes`. -/
  | features (key : OptionKey) (draft : OptionDraft) (rest : List String)

def Visit.question (v : Visit) : Stage → Option CodeKey
  | .fields (f :: _) => v.fieldKey f
  | .features _ _ (code :: _) => some (featureKey v.provider v.sent.vehicleKindCode code)
  | .recording | .fields [] | .listing | .features _ _ [] => none

/-- The end of `resolve_provider_code`. -/
def Visit.answer (v : Visit) (value : Option String) : Stage → Visit × Stage
  | .fields (f :: rest) => ({ v with codes := Function.update v.codes f value }, .fields rest)
  | .features key draft (_ :: rest) =>
    (v, .features key { draft with features := value.elim draft.features (insert · draft.features) } rest)
  | stage => (v, stage)

/-- The option's row and its raw codes, read or inserted, and its wanted codes. -/
def Visit.openOption (v : Visit) (options : Options) (option : VariantOptionData) : Visit × Stage :=
  let key : OptionKey := ⟨v.tenantId, v.variantId, option.optionCode⟩
  let wanted := (option.equipmentFeatureCodes.filter (· ≠ "")).dedup
  let draft : OptionDraft :=
    match v.drafts.lookup key with
    | some earlier => { earlier with wanted := wanted, features := ∅ }
    | none =>
      -- a new variant has no options yet
      match v.found.bind fun _ => options.lookup key with
      | some stored => ⟨false, stored, v.sent.vehicleKindCode, wanted, ∅⟩
      | none => ⟨true, { provider := v.provider }, v.sent.vehicleKindCode, wanted, ∅⟩
  ({ v with options := v.options.tail }, .features key draft option.equipmentFeatureCodes)

/-- The option's features, read after its codes are resolved. -/
def Visit.closeOption (v : Visit) (options : Options) (key : OptionKey) (draft : OptionDraft) : Visit :=
  let read := if (v.drafts.lookup key).isSome then draft.base
    else { draft.base with features := ((options.lookup key).map (·.features)).getD ∅ }
  { v with drafts := v.drafts.insert key { draft with base := read } }

def writeDrafts (drafts : Table OptionKey OptionDraft) (options : Options) : Option Options :=
  if ∀ e ∈ drafts.entries, e.2.write (options.lookup e.1) ≠ none then
    some (options.insertAll (drafts.entries.filterMap fun e =>
      (e.2.write (options.lookup e.1)).map fun option => (e.1, option)))
  else none

def Visit.writeVariant (v : Visit) (variants : Variants) : Option Variants :=
  match v.found, variants.lookup v.variantId with
  | none, none => some (variants.insert v.variantId
      { provider := v.provider, fzKey := v.sent.fzKey, codes := v.codes, master := v.sent.master,
        rawCodes := v.sent.rawRows })
  | some _, some stored =>
    (writeRows RawCode.columns CodedField.all v.baseRows v.sent.rawRows stored.rawCodes).map fun rows =>
      variants.insert v.variantId { stored.fill v.codes v.master with rawCodes := rows }
  | none, some _ | some _, none => none

def Visit.reports (v : Visit) : List (Uuid × CodedField × Option CodeKey) :=
  CodedField.all.map fun f => (v.variantId, f, (v.sent.rawCodes f).map (v.sent.key v.provider f))

variable [DecidableEq ι]

def commitVisit (i : ι) (v : Visit) (sh : Shared ι) : Option (Shared ι) :=
  match v.writeVariant sh.variants, writeDrafts v.drafts sh.options with
  | some variants, some options =>
    some { sh with
      variants := variants
      options := options
      gaps := sh.gaps.insertAll
        ((v.newGaps.filter fun k => (sh.gaps.lookup k).isNone).map fun k => (k, {}))
      locks := Locks.release i sh.locks
      reported := v.reports ++ sh.reported }
  | _, _ => none

def commitResolution (i : ι) (key : CodeKey) (target : CanonicalValue) (variantIds : List Uuid)
    (optionKeys : List OptionKey) (sh : Shared ι) : Option (Shared ι) :=
  (addFeature target.valueCode optionKeys sh.options).map fun options =>
    { sh with
      mappings := if (sh.mappings.lookup key).isSome then sh.mappings else sh.mappings.insert key target
      gaps := sh.gaps.modify key fun _ => ⟨true, some target.valueCode⟩
      variants := fillVariants key target.valueCode variantIds sh.variants
      options := options
      locks := Locks.release i sh.locks }

/-! ### Sessions -/

/-- Where `resolve_provider_code` is: the first lookup, the gap's row read, its
`INSERT` or `UPDATE`, the second lookup. -/
inductive Lookup where
  | first
  | gap
  | touch (known : Bool)
  | again

inductive Session where
  | idle
  | visiting (v : Visit) (stage : Stage)
  | asking (v : Visit) (stage : Stage) (key : CodeKey) (at_ : Lookup)
  /-- The gap is locked. -/
  | locked (key : CodeKey) (target : CanonicalValue)
  /-- The mapping is written. -/
  | mapped (key : CodeKey) (target : CanonicalValue)
  /-- The variants are filled. -/
  | filled (key : CodeKey) (target : CanonicalValue) (variantIds : List Uuid)
  /-- The options have the feature. -/
  | featured (key : CodeKey) (target : CanonicalValue) (variantIds : List Uuid)
      (optionKeys : List OptionKey)

inductive Choice where
  | visit (provider : String) (tenantId : Uuid) (sent : VariantMasterData)
      (options : List VariantOptionData) (target : Uuid)
  | resolve (key : CodeKey) (target : CanonicalValue)
  | go
  /-- The active values of the gap's reference list, when they are read. -/
  | validate (active : Option (List String))
  | commit
  /-- A statement that fails, a refused call, a crash. -/
  | abort

def rollback (i : ι) (sh : Shared ι) : Shared ι × Session :=
  ({ sh with locks := Locks.release i sh.locks }, .idle)

def goVisit (v : Visit) (sh : Shared ι) : Stage → Option Session
  | .recording =>
    let rows := fun f => (sh.variants.lookup v.variantId).bind fun stored => stored.rawCodes f
    some (.visiting { v with baseRows := if v.found.isSome then rows else fun _ => none }
      (.fields CodedField.all))
  | .fields [] => some (.visiting v .listing)
  | .fields (f :: rest) =>
    match v.fieldKey f with
    | some key => some (.asking v (.fields (f :: rest)) key .first)
    | none => some (.visiting v (.fields rest))
  | .listing =>
    match v.options with
    | [] => none
    | option :: _ =>
      let opened := v.openOption sh.options option
      some (.visiting opened.1 opened.2)
  | .features key draft [] => some (.visiting (v.closeOption sh.options key draft) .listing)
  | .features key draft (code :: rest) =>
    some (.asking v (.features key draft (code :: rest))
      (featureKey v.provider v.sent.vehicleKindCode code) .first)

/-- The transaction goes on with what the code resolves to. -/
def answered (v : Visit) (stage : Stage) (value : Option String) : Session :=
  .visiting (v.answer value stage).1 (v.answer value stage).2

def goLookup (i : ι) (v : Visit) (stage : Stage) (key : CodeKey) (sh : Shared ι) :
    Lookup → Option (Shared ι × Session)
  | .first =>
    match sh.mappings.lookup key with
    | some mapping => some (sh, answered v stage (some mapping.valueCode))
    | none => some (sh, .asking v stage key .gap)
  | .gap =>
    let known : Bool := (sh.gaps.lookup key).isSome ∨ key ∈ v.newGaps
    some (sh, .asking v stage key (.touch known))
  | .touch known =>
    let mode := if known then Mode.noKeyUpdate else .update
    -- the row, or the key of a row not yet committed, is another session's
    if ¬ Free sh.locks i key mode then none
    else if known then
      some ({ sh with locks := acquire i key mode sh.locks }, .asking v stage key .again)
    else if (sh.gaps.lookup key).isSome then some (rollback i sh)
    else
      some ({ sh with locks := acquire i key mode sh.locks },
        .asking { v with newGaps := key :: v.newGaps } stage key .again)
  | .again => some (sh, answered v stage ((sh.mappings.lookup key).map (·.valueCode)))

def go (i : ι) (sh : Shared ι) : Session → Option (Shared ι × Session)
  | .visiting v stage => (goVisit v sh stage).map fun lo => (sh, lo)
  | .asking v stage key at_ => goLookup i v stage key sh at_
  | .mapped key target => some (sh, .filled key target (blockedVariants key sh.variants))
  | .filled key target ids =>
    some (sh, .featured key target ids (blockedOptions key target.valueCode sh.options))
  | .idle | .locked .. | .featured .. => none

def commit (i : ι) (sh : Shared ι) : Session → Option (Shared ι × Session)
  | .visiting v .listing =>
    if v.options = [] then (commitVisit i v sh).map fun sh' => (sh', .idle) else none
  | .featured key target ids options =>
    (commitResolution i key target ids options sh).map fun sh' => (sh', .idle)
  | .idle | .visiting _ _ | .asking .. | .locked .. | .mapped .. | .filled .. => none

/-- One statement of one session. -/
def step (i : ι) : Choice → Shared ι → Session → Option (Shared ι × Session)
  | .visit provider tenantId sent options target, sh, .idle =>
    (startVisit provider tenantId sent options target sh.variants).map fun v =>
      (sh, .visiting v .recording)
  | .visit .., _, _ => none
  | .resolve key target, sh, .idle =>
    -- `get_mapping_gap_or_404`, then `FOR UPDATE`
    if (sh.gaps.lookup key).isSome ∧ Free sh.locks i key .update then
      some ({ sh with locks := acquire i key .update sh.locks }, .locked key target)
    else none
  | .resolve .., _, _ => none
  | .go, sh, lo => go i sh lo
  | .validate active, sh, .locked key target =>
    match resolveMappingGap key ((sh.gaps.lookup key).getD {}) active (sh.mappings.lookup key) target with
    | .ok true => some (sh, .mapped key target)
    | .ok false | .error _ => some (rollback i sh)
  | .validate _, _, _ => none
  | .commit, sh, lo => commit i sh lo
  | .abort, sh, _ => some (rollback i sh)

/-! ### What a step can do -/

/-- A step that writes nothing and takes no lock. -/
inductive Reads (sh : Shared ι) : Session → Session → Prop
  | started (v : Visit) (hdrafts : v.drafts = ∅) (hcodes : v.codes = fun _ => none)
      (hfound : ∀ variant, v.found = some variant →
        sh.variants.lookup v.variantId = some variant ∧ variant.provider = v.provider)
      (hnew : v.found = none → sh.variants.lookup v.variantId = none) :
      Reads sh .idle (.visiting v .recording)
  | recorded (v : Visit) (rows : CodedField → Option RawCode)
      (hrows : ∀ variant, v.found = some variant → ∀ f,
        rows f = (sh.variants.lookup v.variantId).bind fun stored => stored.rawCodes f) :
      Reads sh (.visiting v .recording) (.visiting { v with baseRows := rows } (.fields CodedField.all))
  | skipped (v : Visit) (f : CodedField) (rest : List CodedField) (hskip : v.fieldKey f = none) :
      Reads sh (.visiting v (.fields (f :: rest))) (.visiting v (.fields rest))
  | fieldsDone (v : Visit) : Reads sh (.visiting v (.fields [])) (.visiting v .listing)
  | opened (v : Visit) (option : VariantOptionData) (hoption : option ∈ v.options) :
      Reads sh (.visiting v .listing)
        (.visiting (v.openOption sh.options option).1 (v.openOption sh.options option).2)
  | closed (v : Visit) (key : OptionKey) (draft : OptionDraft) :
      Reads sh (.visiting v (.features key draft []))
        (.visiting (v.closeOption sh.options key draft) .listing)
  | asked (v : Visit) (stage : Stage) (key : CodeKey) (hkey : v.question stage = some key) :
      Reads sh (.visiting v stage) (.asking v stage key .first)
  | missed (v : Visit) (stage : Stage) (key : CodeKey) (at_ at_' : Lookup) (hat : at_' ≠ .again) :
      Reads sh (.asking v stage key at_) (.asking v stage key at_')
  /-- Mapped, or unmapped after the gap has been touched. -/
  | answered (v : Visit) (stage : Stage) (key : CodeKey) (at_ : Lookup) (value : Option String)
      (hvalue : value = (sh.mappings.lookup key).map (·.valueCode)) (hat : value = none → at_ = .again) :
      Reads sh (.asking v stage key at_) (answered v stage value)
  | validated (key : CodeKey) (target : CanonicalValue)
      (hmapping : sh.mappings.lookup key = none ∨ sh.mappings.lookup key = some target) :
      Reads sh (.locked key target) (.mapped key target)
  | filled (key : CodeKey) (target : CanonicalValue) :
      Reads sh (.mapped key target) (.filled key target (blockedVariants key sh.variants))
  | featured (key : CodeKey) (target : CanonicalValue) (ids : List Uuid) :
      Reads sh (.filled key target ids)
        (.featured key target ids (blockedOptions key target.valueCode sh.options))

inductive Moves (i : ι) (ch : Choice) (sh : Shared ι) : Session → Shared ι → Session → Prop
  | reads (lo lo' : Session) (h : Reads sh lo lo') : Moves i ch sh lo sh lo'
  /-- A visit has locked the gap of a code it found unmapped. -/
  | touched (v : Visit) (stage : Stage) (key : CodeKey) (at_ : Lookup) (newGaps : List CodeKey) (mode : Mode)
      (hmode : mode = .noKeyUpdate ∨ mode = .update) (hfree : Free sh.locks i key mode) :
      Moves i ch sh (.asking v stage key at_) { sh with locks := acquire i key mode sh.locks }
        (.asking { v with newGaps := newGaps } stage key .again)
  | locked (key : CodeKey) (target : CanonicalValue) (hfree : Free sh.locks i key .update) :
      Moves i ch sh .idle { sh with locks := acquire i key .update sh.locks } (.locked key target)
  | visited (v : Visit) (sh' : Shared ι) (hch : ch = .commit)
      (hcommit : commitVisit i v sh = some sh') :
      Moves i ch sh (.visiting v .listing) sh' .idle
  | resolved (key : CodeKey) (target : CanonicalValue) (ids : List Uuid) (options : List OptionKey)
      (sh' : Shared ι) (hch : ch = .commit)
      (hcommit : commitResolution i key target ids options sh = some sh') :
      Moves i ch sh (.featured key target ids options) sh' .idle
  | rolledBack (lo : Session) : Moves i ch sh lo { sh with locks := Locks.release i sh.locks } .idle

section

variable {i : ι} {ch : Choice} {sh sh' : Shared ι} {lo lo' : Session}

omit [DecidableEq ι] in
theorem reads_of_startVisit {provider : String} {tenantId target : Uuid} {sent : VariantMasterData}
    {options : List VariantOptionData} {v : Visit}
    (h : startVisit provider tenantId sent options target sh.variants = some v) :
    Reads sh .idle (.visiting v .recording) := by
  simp only [startVisit] at h
  split at h
  · next hids =>
    cases h
    refine .started _ rfl rfl (fun variant hfound => ?_) fun hnone => ?_
    · dsimp only at hfound
      split at hfound
      · cases hfound
      · next hsome =>
        -- the variant is one of those with the provider's key
        have hmem := hids.resolve_left fun hempty => hsome hempty.1
        obtain ⟨stored, hstored, hkey⟩ := Table.mem_selectKeys.mp hmem
        obtain rfl := Option.mem_unique hstored hfound
        exact ⟨hstored, (of_decide_eq_true hkey).1⟩
    · dsimp only at hnone
      split at hnone
      · next hempty =>
        rcases hids with ⟨-, hfresh⟩ | hmem
        · exact Option.isNone_iff_eq_none.mp hfresh
        · rw [hempty] at hmem
          cases hmem
      · exact hnone
  · cases h

omit [DecidableEq ι] in
theorem reads_of_goVisit {v : Visit} {stage : Stage} (h : goVisit v sh stage = some lo') :
    Reads sh (.visiting v stage) lo' := by
  cases stage with
  | recording =>
    cases h
    refine .recorded v _ fun variant hfound f => ?_
    rw [hfound, if_pos Option.isSome_some]
  | fields rest =>
    cases rest with
    | nil =>
      cases h
      exact .fieldsDone v
    | cons f rest =>
      simp only [goVisit] at h
      split at h
      · next key hkey =>
        cases h
        exact .asked v _ key hkey
      · next hskip =>
        cases h
        exact .skipped v f rest hskip
  | listing =>
    simp only [goVisit] at h
    split at h
    · cases h
    · next option rest hoptions =>
      cases h
      exact .opened v option (hoptions ▸ List.mem_cons_self)
  | features key draft rest =>
    cases rest with
    | nil =>
      cases h
      exact .closed v key draft
    | cons code rest =>
      cases h
      exact .asked v _ _ rfl

theorem moves_of_goLookup {v : Visit} {stage : Stage} {key : CodeKey} {at_ : Lookup}
    (h : goLookup i v stage key sh at_ = some (sh', lo')) :
      Moves i ch sh (.asking v stage key at_) sh' lo' := by
  cases at_ with
  | first =>
    simp only [goLookup] at h
    split at h
    · next mapping hmapping =>
      cases h
      exact .reads _ _ (.answered v stage key .first _ (by rw [hmapping]; rfl) (nomatch ·))
    · cases h
      exact .reads _ _ (.missed v stage key _ _ (nomatch ·))
  | gap =>
    cases h
    exact .reads _ _ (.missed v stage key _ _ (nomatch ·))
  | touch known =>
    cases known with
    | true =>
      simp only [goLookup, if_true] at h
      split at h
      · cases h
      · next hfree =>
        cases h
        exact .touched v stage key _ v.newGaps _ (.inl rfl) (not_not.mp hfree)
    | false =>
      simp only [goLookup, Bool.false_eq_true, if_false] at h
      split at h
      · cases h
      · next hfree =>
        split at h
        · cases h
          exact .rolledBack _
        · cases h
          exact .touched v stage key _ _ _ (.inr rfl) (not_not.mp hfree)
  | again =>
    cases h
    exact .reads _ _ (.answered v stage key .again _ rfl fun _ => rfl)

theorem moves_of_go (h : go i sh lo = some (sh', lo')) : Moves i ch sh lo sh' lo' := by
  cases lo with
  | idle | locked | featured => cases h
  | visiting v stage =>
    obtain ⟨lo₁, hgo, heq⟩ := Option.map_eq_some_iff.mp h
    cases heq
    exact .reads _ _ (reads_of_goVisit hgo)
  | asking v stage key at_ => exact moves_of_goLookup h
  | mapped key target =>
    cases h
    exact .reads _ _ (.filled key target)
  | filled key target ids =>
    cases h
    exact .reads _ _ (.featured key target ids)

theorem moves_of_commit (h : commit i sh lo = some (sh', lo')) : Moves i .commit sh lo sh' lo' := by
  cases lo with
  | idle | asking | locked | mapped | filled => cases h
  | visiting v stage =>
    cases stage with
    | recording | fields | features => cases h
    | listing =>
      simp only [commit] at h
      split at h
      · obtain ⟨sh₁, hcommit, heq⟩ := Option.map_eq_some_iff.mp h
        cases heq
        exact .visited v _ rfl hcommit
      · cases h
  | featured key target ids options =>
    obtain ⟨sh₁, hcommit, heq⟩ := Option.map_eq_some_iff.mp h
    cases heq
    exact .resolved key target ids options _ rfl hcommit

theorem moves_of_step (h : step i ch sh lo = some (sh', lo')) : Moves i ch sh lo sh' lo' := by
  cases ch with
  | visit provider tenantId sent options target =>
    cases lo with
    | idle =>
      obtain ⟨v, hstart, heq⟩ := Option.map_eq_some_iff.mp h
      cases heq
      exact .reads _ _ (reads_of_startVisit hstart)
    | visiting | asking | locked | mapped | filled | featured => cases h
  | resolve key target =>
    cases lo with
    | idle =>
      simp only [step] at h
      split at h
      · next hguard =>
        cases h
        exact .locked key target hguard.2
      · cases h
    | visiting | asking | locked | mapped | filled | featured => cases h
  | go => exact moves_of_go h
  | validate active =>
    cases lo with
    | locked key target =>
      simp only [step] at h
      split at h
      · next hok =>
        cases h
        exact .reads _ _ (.validated key target (resolveMappingGap_ok hok).2)
      · cases h
        exact .rolledBack _
      · cases h
        exact .rolledBack _
    | idle | visiting | asking | mapped | filled | featured => cases h
  | commit => exact moves_of_commit h
  | abort =>
    cases h
    exact .rolledBack lo

end

end Nexotec.CatalogueSync
