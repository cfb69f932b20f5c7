/-
`PATCH /customers/{id}` against customer merges
(`app/customer/services/customer.py`, `update_customer`).

The PATCH reads the row without a lock, checks its version and its status and
validates the body on that read, and then writes the columns that differ from
it; the `UPDATE` waits for the row lock of a merge and does not check the row
again.  A merge that commits in between is overwritten.
-/
import Nexotec.Customer.MergeInvariant
import Nexotec.Lib.Interleaving

namespace Nexotec.MergedTerminal

open Customers Locks Interleaving

/-! ### `update_customer` -/

def columnName : Column → String
  | .language => "language"
  | .salutation => "salutation"
  | .firstName => "first_name"
  | .lastName => "last_name"
  | .birthDate => "birth_date"
  | .nationality => "nationality"
  | .companyName => "company_name"
  | .legalForm => "legal_form"
  | .taxId => "tax_id"
  | .preferredChannel => "preferred_channel"
  | .source => "source"
  | .sourceRef => "source_ref"
  | .marketingConsent => "marketing_consent"
  | .title => "title"
  | .gender => "gender"
  | .website => "website"
  | .newsletter => "newsletter"
  | .paymentTerms => "payment_terms"
  | .creditLimit => "credit_limit"
  | .iban => "iban"
  | .vatRegistered => "vat_registered"
  | .vatStatusConfirmed => "vat_status_confirmed"
  | .advisorId => "advisor_id"
  | .advisorLabel => "advisor_label"
  | .customerSince => "customer_since"
  | .nextFollowUp => "next_follow_up"
  | .notes => "notes"

def individualOnlyFields : List Column :=
  [.firstName, .lastName, .birthDate, .nationality, .title, .gender]

def businessOnlyFields : List Column := [.companyName, .legalForm, .taxId]

/-- The columns `CustomerUpdate` does not let a body clear. -/
def notNullColumns : List Column :=
  [.language, .marketingConsent, .gender, .newsletter, .vatRegistered, .vatStatusConfirmed]

/-- `CustomerUpdate`: the columns the body sends, a null being `Value.null`.  The
schema refuses the status MERGED and a null in a required column, and the label
of the advisor is not a field of it. -/
structure CustomerUpdate where
  columns : Column → Option Value := fun _ => none
  lifecycleStatus : Option CustomerLifecycleStatus := none
  unmerged : lifecycleStatus ≠ some .merged
  unlabelled : columns .advisorLabel = none
  uncleared : ∀ col ∈ notNullColumns, columns col ≠ some .null

/-- What a PATCH reads outside the customer context: the active country codes,
and the label of a user who may advise in the acting dealership. -/
structure PatchReads where
  countries : List String := []
  advisorLabel : Uuid → Option String := fun _ => none

/-- What the `UPDATE` of a PATCH sets: the columns that differ from those read. -/
structure CustomerWrite where
  columns : Column → Option Value
  lifecycleStatus : Option CustomerLifecycleStatus
  updatedBy : Option (Option Uuid)
  version : ℕ
  unmerged : lifecycleStatus ≠ some .merged

def CustomerWrite.apply (w : CustomerWrite) (c : CustomerRow) : CustomerRow :=
  { c with
    columns := fun col => (w.columns col).getD (c.columns col)
    lifecycleStatus := w.lifecycleStatus.getD c.lifecycleStatus
    updatedBy := w.updatedBy.getD c.updatedBy
    version := w.version }

/-- `_validate_customer_type_fields_on_update`. -/
def validateTypeFields (c : CustomerRow) (data : CustomerUpdate) : Result Unit :=
  let sent := fun col => (data.columns col).any (· ≠ .null)
  match c.customerType with
  | .individual =>
    match businessOnlyFields.find? sent with
    | some col => .error (badRequestError
        s!"'{columnName col}' is a business-only field and cannot be set on a individual customer.")
    | none => .ok ()
  | .business =>
    match individualOnlyFields.find? sent with
    | some col => .error (badRequestError
        s!"'{columnName col}' is a individual-only field and cannot be set on a business customer.")
    | none => .ok ()

/-- `_validate_country_codes` of the nationality. -/
def validateNationality (reads : PatchReads) (data : CustomerUpdate) : Result Unit :=
  match data.columns .nationality with
  | some (.text code) =>
    if code ∈ reads.countries then .ok ()
    else .error (unprocessableEntityError
      s!"Not a valid country code: nationality='{code}'. Expected an ISO 3166-1 alpha-2 code that is present and active in the 'country' reference list (for example 'CH', 'DE', 'FR')."
      [("invalid", s!"nationality={code}")])
  | _ => .ok ()

/-- A column the body sends with another value than the one read. -/
def changed (c : CustomerRow) (data : CustomerUpdate) (col : Column) : Option Value :=
  (data.columns col).filter (· ≠ c.columns col)

def advisorLabel (reads : PatchReads) (c : CustomerRow) (data : CustomerUpdate) :
    Result (Option Value) :=
  match changed c data .advisorId with
  | some (.ref userId) =>
    match reads.advisorLabel userId with
    | some label => .ok (some (.text label))
    | none => .error (unprocessableEntityError "advisorId is not an active user of your dealership."
        [("advisorId", toString userId)])
  | some _ => .ok (some .null)
  | none => .ok none

/-- The row as read, the body, and what is to be written. -/
def updateCustomer (reads : PatchReads) (actorId : Uuid) (c : CustomerRow) (data : CustomerUpdate) :
    Result CustomerWrite := do
  if c.lifecycleStatus = .merged then
    .error (conflictError
      "Customer lifecycle_status 'merged' is terminal and cannot be changed via PATCH."
      [("currentLifecycleStatus", "merged")])
  else
    validateTypeFields c data
    validateNationality reads data
    let label ← advisorLabel reads c data
    pure {
      columns := fun col =>
        if col = .advisorLabel then label.filter (· ≠ c.columns .advisorLabel)
        else changed c data col
      lifecycleStatus := data.lifecycleStatus.filter (· ≠ c.lifecycleStatus)
      updatedBy := if c.updatedBy = some actorId then none else some (some actorId)
      version := c.version + 1
      unmerged := fun h => data.unmerged (Option.filter_eq_some_iff.mp h).1 }

/-! ### The system -/

inductive Session where
  | idle
  | merging (call : MergeCall) (lo : MergeLocal)
  | patching (customerId : Uuid) (w : CustomerWrite)

inductive Choice where
  | merge (groupId duplicateId targetId : Uuid) (actorId : Option Uuid) (ifMatch : ℕ)
  | patch (reads : PatchReads) (groupId customerId actorId : Uuid) (ifMatch : ℕ)
      (data : CustomerUpdate)
  | go
  | fail
  | tick (now : Time)

section

variable {ι : Type} [DecidableEq ι]

def startPatch (sh : Shared ι) (reads : PatchReads) (groupId customerId actorId : Uuid)
    (ifMatch : ℕ) (data : CustomerUpdate) : Result CustomerWrite := do
  let c ← getCustomerOr404 sh.db.customers groupId customerId
  checkVersion c.version ifMatch "Customer"
  updateCustomer reads actorId c data

/-- The `UPDATE`, by key, and the commit. -/
def writePatch (i : ι) (customerId : Uuid) (w : CustomerWrite) (sh : Shared ι) : Shared ι :=
  rollback i { sh with db := { sh.db with
    customers := sh.db.customers.modify customerId w.apply } }

def step (i : ι) : Choice → Shared ι → Session → Option (Shared ι × Session)
  | .merge groupId duplicateId targetId actorId ifMatch, sh, .idle =>
    match startMerge sh groupId duplicateId targetId actorId ifMatch with
    | .ok call => some (sh, .merging call (.reading [] false))
    | .error _ => none
  | .patch reads groupId customerId actorId ifMatch data, sh, .idle =>
    match startPatch sh reads groupId customerId actorId ifMatch data with
    | .ok w => some (sh, .patching customerId w)
    | .error _ => none
  | .go, sh, .merging call lo => (mergeStep i call sh lo).map fun out =>
    (out.1, match out.2 with
      | some lo => .merging call lo
      | none => .idle)
  | .go, sh, .patching customerId w =>
    if Free sh.grants i (.customer customerId) .noKeyUpdate then
      some (writePatch i customerId w sh, .idle)
    else none
  | .fail, sh, _ => some (rollback i sh, .idle)
  | .tick now, sh, lo => some (tick now sh, lo)
  | .merge .., _, .merging .. | .merge .., _, .patching .. | .patch .., _, .merging ..
  | .patch .., _, .patching .. | .go, _, .idle => none

def opening (db : CustomerDb) : Config ι (Shared ι) Session := ⟨{ db := db }, fun _ => .idle⟩

end

/-! ### The property and the condition -/

def Followed (merges : List (Uuid × Uuid)) (t t' : Uuid) : Prop :=
  Relation.TransGen (fun a b => (a, b) ∈ merges) t t'

/-- What may become of a merged row: nothing, or a pointer that follows later
merges, with the version and the actor of the re-pointing. -/
structure StaysMerged (merges : List (Uuid × Uuid)) (c c' : CustomerRow) : Prop where
  merged : c'.lifecycleStatus = .merged
  columns : c'.columns = c.columns
  fixed : c'.groupId = c.groupId ∧ c'.customerType = c.customerType
  pointer : c' = c ∨ ∃ t t', c.duplicateOfCustomerId = some t ∧
    c'.duplicateOfCustomerId = some t' ∧ Followed merges t t'

/-- **MERGED is terminal** between two states. -/
def Terminal {ι : Type} (sh sh' : Shared ι) : Prop :=
  ∀ id c, sh.db.customers.lookup id = some c → c.lifecycleStatus = .merged →
    ∃ c', sh'.db.customers.lookup id = some c' ∧ StaysMerged sh'.merges c c'

/-- **The condition on a step**: a PATCH writes a row that is not merged. -/
def WritesUnmerged {ι : Type} (ch : Choice) (sh : Shared ι) : Session → Prop
  | .patching customerId _ => match ch with
    | .go => Unmerged sh.db.customers customerId
    | _ => True
  | .idle | .merging .. => True

/-- Before the first merge. -/
structure Fresh (db : CustomerDb) : Prop where
  unnamed : ∀ id c, db.customers.lookup id = some c → c.duplicateOfCustomerId = none
  unmarked : ∀ id p, db.parties.lookup id = some p → p.mergedIntoCustomerId = none

section Step

variable {ι : Type} {i j : ι} {sh sh' : Shared ι} {lo lo' : Session} {ch : Choice}

abbrev anyRow : VehicleParty → Prop := fun _ => True

def Knows (i : ι) (sh : Shared ι) : Session → Prop
  | .idle => ∀ r m, ¬ Held sh.grants i r m
  | .merging call lo => MergeKnows anyRow i call sh lo
  | .patching .. => True

theorem knows_rely (h : Knows i sh lo) (hrely : Rely i sh sh') : Knows i sh' lo := by
  cases lo with
  | idle => exact fun r m hheld => h r m ((hrely.grants r m).mp hheld)
  | merging call lo => exact mergeKnows_rely h hrely
  | patching => trivial

theorem Terminal.of_customers (hcustomers : sh'.db.customers = sh.db.customers) : Terminal sh sh' := by
  intro id c hc hmerged
  exact ⟨c, by rw [hcustomers]; exact hc, hmerged, rfl, ⟨rfl, rfl⟩, .inl rfl⟩

/-- A PATCH that finds the row as it has read it meets the condition: `update_customer` refuses a merged
one. -/
theorem writesUnmerged_of_unchanged {reads : PatchReads} {groupId actorId customerId : Uuid}
    {ifMatch : ℕ} {data : CustomerUpdate} {w : CustomerWrite}
    (h : startPatch sh reads groupId customerId actorId ifMatch data = .ok w)
    (hrow : sh'.db.customers.lookup customerId = sh.db.customers.lookup customerId) :
    WritesUnmerged .go sh' (.patching customerId w) := by
  obtain ⟨c, hc, h⟩ := Result.of_bind h
  obtain ⟨-, -, h⟩ := Result.of_bind h
  unfold updateCustomer at h
  split at h
  · cases h
  · next hlive =>
    obtain ⟨hread, -⟩ := getCustomerOr404_eq_ok hc
    intro c' hc'
    rw [hrow, hread] at hc'
    exact Option.some.inj hc' ▸ hlive

variable [DecidableEq ι]

/-- What a step can do. -/
inductive Moves (i : ι) (sh : Shared ι) : Choice → Session → Shared ι → Session → Prop
  | startMerge (ch : Choice) (call : MergeCall) : Called call sh →
      Moves i sh ch .idle sh (.merging call (.reading [] false))
  | startPatch (ch : Choice) (customerId : Uuid) (w : CustomerWrite) :
      Moves i sh ch .idle sh (.patching customerId w)
  | merge (call : MergeCall) (lo : MergeLocal) (sh' : Shared ι) (lo' : Option MergeLocal) :
      MergeMoves i call sh lo sh' lo' →
      Moves i sh .go (.merging call lo) sh' (match lo' with
        | some lo => .merging call lo
        | none => .idle)
  | write (customerId : Uuid) (w : CustomerWrite) :
      Free sh.grants i (.customer customerId) .noKeyUpdate →
      Moves i sh .go (.patching customerId w) (writePatch i customerId w sh) .idle
  | rollback (ch : Choice) (lo : Session) : Moves i sh ch lo (rollback i sh) .idle
  | tick (now : Time) (lo : Session) : Moves i sh (.tick now) lo (tick now sh) lo

theorem moves_of_step (h : step i ch sh lo = some (sh', lo')) : Moves i sh ch lo sh' lo' := by
  unfold step at h
  split at h
  · split at h
    · next call hcall =>
      cases h
      exact .startMerge _ call (startMerge_called hcall)
    · cases h
  · split at h
    · cases h
      exact .startPatch _ _ _
    · cases h
  · next call lo =>
    obtain ⟨⟨sh₁, lo₁⟩, hstep, h⟩ := Option.map_eq_some_iff.mp h
    cases h
    exact .merge call lo sh₁ lo₁ (mergeMoves_of_step hstep)
  · next customerId w =>
    split at h
    · next hfree =>
      cases h
      exact .write customerId w hfree
    · cases h
  · cases h
    exact .rollback _ _
  · cases h
    exact .tick _ _
  · cases h
  · cases h
  · cases h
  · cases h
  · cases h

theorem lookup_writePatch (customerId : Uuid) (w : CustomerWrite) (id : Uuid) :
    (writePatch i customerId w sh).db.customers.lookup id =
      if id = customerId then (sh.db.customers.lookup id).map w.apply
      else sh.db.customers.lookup id :=
  Table.lookup_modify _ _ _ _

theorem writePatch_row {customerId : Uuid} {w : CustomerWrite} {id : Uuid} {c : CustomerRow}
    (hc : sh.db.customers.lookup id = some c) :
    ∃ c', (writePatch i customerId w sh).db.customers.lookup id = some c' ∧
      c'.groupId = c.groupId ∧ c'.duplicateOfCustomerId = c.duplicateOfCustomerId := by
  rw [lookup_writePatch]
  by_cases hid : id = customerId
  · rw [if_pos hid, hc]
    exact ⟨_, rfl, rfl, rfl⟩
  · rw [if_neg hid]
    exact ⟨c, hc, rfl, rfl⟩

variable {customerId : Uuid} {w : CustomerWrite} {c' : CustomerRow}

theorem writePatch_row_old {id : Uuid}
    (hc' : (writePatch i customerId w sh).db.customers.lookup id = some c') :
    ∃ c, sh.db.customers.lookup id = some c ∧ c'.groupId = c.groupId ∧
      c'.duplicateOfCustomerId = c.duplicateOfCustomerId ∧ (c' = c ∨ id = customerId) := by
  rw [lookup_writePatch] at hc'
  by_cases hid : id = customerId
  · rw [if_pos hid] at hc'
    obtain ⟨c, hc, rfl⟩ := Option.map_eq_some_iff.mp hc'
    exact ⟨c, hc, rfl, rfl, .inr hid⟩
  · rw [if_neg hid] at hc'
    exact ⟨c', hc', rfl, rfl, .inl rfl⟩

theorem rely_of_patch (hij : j ≠ i) (hfree : Free sh.grants i (.customer customerId) .noKeyUpdate) :
    Rely j sh (writePatch i customerId w sh) where
  time := le_rfl
  grants := fun r m => held_release.trans ⟨And.left, fun h => ⟨h, hij⟩⟩
  customers := by
    intro id m hheld hm
    have hne : id ≠ customerId := by
      rintro rfl
      rw [Mode.conflicts_comm] at hm
      exact hij (hfree _ hheld rfl hm)
    rw [lookup_writePatch, if_neg hne]
  rows := fun _ _ => rfl
  groups := by
    intro id c hc
    obtain ⟨c', hc', hg, -⟩ := @writePatch_row ι i sh _ customerId w id c hc
    exact ⟨c', hc', hg⟩
  named := by
    intro d _ id
    constructor
    · rintro ⟨c', hc', hname⟩
      obtain ⟨c, hc, -, hsame, -⟩ := writePatch_row_old hc'
      exact ⟨c, hc, hsame.symm.trans hname⟩
    · rintro ⟨c, hc, hname⟩
      obtain ⟨c', hc', -, hsame⟩ := @writePatch_row ι i sh _ customerId w id c hc
      exact ⟨c', hc', hsame.trans hname⟩
  marked := fun _ _ _ h => h
  owned := fun _ _ _ h => h
  pairs := fun _ _ _ p hp hof => ⟨p, hp, hof, fun _ _ => ⟨rfl, rfl⟩⟩
  keyed := by
    intro pair g _ id p hp hopens
    obtain ⟨c', hc', hg⟩ := hopens.group
    obtain ⟨c, hc, hsame, -⟩ := writePatch_row_old hc'
    exact ⟨p, hp, rfl, hopens.vehicle, hopens.role, ⟨c, hc, hsame.symm.trans hg⟩, hopens.isOpen⟩
  kept := by
    intro id p c hp hc
    obtain ⟨c', hc', hg, -⟩ := @writePatch_row ι i sh _ customerId w _ c hc
    exact ⟨p, c', hp, hc', rfl, hg⟩

theorem mergeBase_of_patch (hbase : MergeBase anyRow sh)
    (hlive : Unmerged sh.db.customers customerId) :
    MergeBase anyRow (writePatch i customerId w sh) where
  compatible := hbase.compatible.release
  openRows := fun _ _ _ _ => trivial
  dupMerged := by
    intro id c' t hc' hname
    obtain ⟨c, hc, -, hsame, hcase⟩ := writePatch_row_old hc'
    have hmerged := hbase.dupMerged id c t hc (hsame.symm.trans hname)
    rcases hcase with rfl | rfl
    · exact hmerged
    · exact (hlive c hc hmerged).elim
  dupGroup := by
    intro id c' t hc' hname
    obtain ⟨c, hc, hg, hsame, -⟩ := writePatch_row_old hc'
    obtain ⟨t', ht', hgroup⟩ := hbase.dupGroup id c t hc (hsame.symm.trans hname)
    obtain ⟨t'', ht'', hg', -⟩ := @writePatch_row ι i sh _ customerId w _ t' ht'
    exact ⟨t'', ht'', hg'.trans (hgroup.trans hg.symm)⟩
  markGroup := by
    intro id p t hp hmark
    obtain ⟨c, t', hc, ht', hgroup⟩ := hbase.markGroup id p t hp hmark
    obtain ⟨c', hc', hg, -⟩ := @writePatch_row ι i sh _ customerId w _ c hc
    obtain ⟨t'', ht'', hg', -⟩ := @writePatch_row ι i sh _ customerId w _ t' ht'
    exact ⟨c', t'', hc', ht'', hg.trans (hgroup.trans hg'.symm)⟩

theorem step_own (hG : MergeBase anyRow sh) (hL : Knows i sh lo) (hok : WritesUnmerged ch sh lo)
    (h : step i ch sh lo = some (sh', lo')) : MergeBase anyRow sh' ∧ Knows i sh' lo' := by
  cases moves_of_step h with
  | startMerge ch call hcalled =>
    refine ⟨hG, hcalled, ?_, nofun⟩
    exact ⟨fun id m hheld => hL _ m hheld, fun id m hheld => hL _ m hheld,
      fun pair g m hheld => (hL _ m hheld).elim⟩
  | startPatch => exact ⟨hG, trivial⟩
  | merge call lo sh' lo₁ hmove =>
    refine ⟨mergeBase_move hG hL hmove fun _ _ _ _ => trivial, ?_⟩
    cases lo₁ with
    | none => exact merge_ended hmove
    | some lo₁ => exact mergeKnows_move hG hL hmove
  | write customerId w hfree => exact ⟨mergeBase_of_patch hG hok, not_held_rollback⟩
  | rollback => exact ⟨hG.of_db rfl rfl hG.compatible.release, not_held_rollback⟩
  | tick now lo =>
    exact ⟨⟨hG.compatible, fun _ _ _ _ => trivial, hG.dupMerged, hG.dupGroup, hG.markGroup⟩,
      knows_rely hL (rely_tick i now sh)⟩

theorem step_rely (hij : j ≠ i) (hG : MergeBase anyRow sh) (hL : Knows i sh lo)
    (h : step i ch sh lo = some (sh', lo')) : Rely j sh sh' := by
  cases moves_of_step h with
  | startMerge | startPatch => exact rely_of_locks rfl rfl fun _ _ => Iff.rfl
  | merge call lo sh' lo₁ hmove => exact rely_of_merge hG hL hij hmove
  | write customerId w hfree => exact rely_of_patch hij hfree
  | rollback =>
    exact rely_of_locks rfl rfl fun r m => held_release.trans ⟨And.left, fun h => ⟨h, hij⟩⟩
  | tick now lo => exact rely_tick j now sh

/-! ### Merged rows -/

theorem terminal_merge {call : MergeCall} {lo : MergeLocal} {lo' : Option MergeLocal}
    (h : MergeKnows anyRow i call sh lo) (hmove : MergeMoves i call sh lo sh' lo') :
    Terminal sh sh' ∧ ∀ m ∈ sh.merges, m ∈ sh'.merges := by
  cases hmove with
  | commit writes earlier copies =>
    obtain ⟨-, ⟨-, hlive, -, hearlier, -⟩, -⟩ := h
    refine ⟨fun id c hc hmerged => ?_, fun m hm => List.mem_append_left _ hm⟩
    have hid : id ≠ call.duplicateId := by
      rintro rfl
      exact hlive.1 c hc hmerged
    show ∃ c', (mergedCustomers call earlier sh.db.customers).lookup id = some c' ∧ _
    rw [lookup_mergedCustomers, hc, Option.map_some, if_neg hid]
    by_cases hmem : id ∈ earlier
    · rw [if_pos hmem]
      obtain ⟨c₀, hc₀, hname⟩ := hearlier.names id (.inr hmem)
      obtain rfl := Option.mem_unique hc hc₀
      refine ⟨_, rfl, hmerged, rfl, ⟨rfl, rfl⟩, .inr ⟨_, _, hname, rfl, .single ?_⟩⟩
      exact List.mem_append_right sh.merges List.mem_cons_self
    · rw [if_neg hmem]
      exact ⟨c, rfl, hmerged, rfl, ⟨rfl, rfl⟩, .inl rfl⟩
  | copies writes earlier copies hcopies hfree =>
    refine ⟨.of_customers (by rw [takeAll_db.1]), fun m hm => ?_⟩
    rwa [takeAll_merges]
  | pair | first | second | row | earlierRow | rollback => exact ⟨.of_customers rfl, fun _ hm => hm⟩
  | pairsHeld | pairsMissing | pairsRead | checked | keys | rows | planned | earlier | earlierHeld =>
    exact ⟨.of_customers rfl, fun _ hm => hm⟩

theorem terminal_step (hL : Knows i sh lo) (hok : WritesUnmerged ch sh lo)
    (h : step i ch sh lo = some (sh', lo')) :
    Terminal sh sh' ∧ ∀ m ∈ sh.merges, m ∈ sh'.merges := by
  cases moves_of_step h with
  | merge call lo sh' lo₁ hmove => exact terminal_merge hL hmove
  | write customerId w hfree =>
    refine ⟨fun id c hc hmerged => ?_, fun _ hm => hm⟩
    have hid : id ≠ customerId := by
      rintro rfl
      exact hok c hc hmerged
    rw [lookup_writePatch, if_neg hid]
    exact ⟨c, hc, hmerged, rfl, ⟨rfl, rfl⟩, .inl rfl⟩
  | startMerge | startPatch | rollback | tick => exact ⟨.of_customers rfl, fun _ hm => hm⟩

variable {merges merges' : List (Uuid × Uuid)}

theorem Followed.mono {t t' : Uuid} (h : Followed merges t t') (hsub : ∀ m ∈ merges, m ∈ merges') :
    Followed merges' t t' :=
  Relation.TransGen.mono (fun a b hm => hsub (a, b) hm) _ _ h

theorem StaysMerged.trans {c c'' : CustomerRow} (h : StaysMerged merges c c')
    (h' : StaysMerged merges' c' c'') (hsub : ∀ m ∈ merges, m ∈ merges') :
    StaysMerged merges' c c'' where
  merged := h'.merged
  columns := h'.columns.trans h.columns
  fixed := ⟨h'.fixed.1.trans h.fixed.1, h'.fixed.2.trans h.fixed.2⟩
  pointer := by
    rcases h.pointer with rfl | ⟨t, t', ht, ht', hfollowed⟩
    · exact h'.pointer
    · right
      rcases h'.pointer with rfl | ⟨u, u', hu, hu', hfollowed'⟩
      · exact ⟨t, t', ht, ht', hfollowed.mono hsub⟩
      · obtain rfl := Option.mem_unique ht' hu
        exact ⟨t, u', ht, hu', (hfollowed.mono hsub).trans hfollowed'⟩

end Step

/-! ### Runs -/

theorem opening_holds {ι : Type} {db : CustomerDb} (hdb : Fresh db) :
    Holds (MergeBase anyRow) Knows (opening db : Config ι (Shared ι) Session) := by
  refine ⟨⟨Compatible.nil, fun _ _ _ _ => trivial, ?_, ?_, ?_⟩, fun i r m h => ?_⟩
  · intro id c t hc hname
    rw [hdb.unnamed id c hc] at hname
    cases hname
  · intro id c t hc hname
    rw [hdb.unnamed id c hc] at hname
    cases hname
  · intro id p t hp hmark
    rw [hdb.unmarked id p hp] at hmark
    cases hmark
  · cases h

abbrev Ok {ι : Type} (c : Config ι (Shared ι) Session) (a : ι × Choice) : Prop :=
  WritesUnmerged a.2 c.shared (c.locals a.1)

theorem move_holds {ι : Type} [DecidableEq ι] {c : Config ι (Shared ι) Session} {a : ι × Choice}
    (hc : Holds (MergeBase anyRow) Knows c) (ha : Ok c a) :
    Holds (MergeBase anyRow) Knows (move step c a) := by
  refine noninterference (G := MergeBase anyRow) (L := Knows) (fun _ ch sh lo => WritesUnmerged ch sh lo)
    (fun i ch sh lo sh' lo' hG hL hok h => step_own hG hL hok h) ?_ hc ha
  intro i j ch sh lo lo' sh' lo'' hij hG hLi hLj _ h
  exact knows_rely hLj (step_rely hij.symm hG hLi h)

/-- **MERGED is terminal.**  In every run whose PATCHes write customers that are
not merged by then, a customer merged in one state is merged in every later
one, with the same columns and with the same pointer or one that followed
later merges. -/
theorem merged_is_terminal {ι : Type} [DecidableEq ι] {db : CustomerDb} (hdb : Fresh db)
    (earlier later : List (ι × Choice))
    (hok : Run.Along (move step) Ok (opening db) (earlier ++ later)) :
    Terminal (earlier.foldl (move step) (opening db)).shared
      ((earlier ++ later).foldl (move step) (opening db)).shared := by
  obtain ⟨hearlier, hlater⟩ := Run.Along.append.mp hok
  have hholds := Run.invariant_along (fun c a hc ha => move_holds hc ha) (opening_holds hdb) hearlier
  rw [List.foldl_append]
  generalize earlier.foldl (move step) (opening db) = s at hholds hlater ⊢
  -- each later step keeps the rows merged in `s`
  have hstep : ∀ (c : Config ι (Shared ι) Session) (a : ι × Choice),
      (Holds (MergeBase anyRow) Knows c ∧ Terminal s.shared c.shared) → Ok c a →
      Holds (MergeBase anyRow) Knows (move step c a) ∧ Terminal s.shared (move step c a).shared := by
    rintro c a ⟨hc, hterminal⟩ ha
    refine ⟨move_holds hc ha, move_shared hterminal fun sh' lo' h => ?_⟩
    obtain ⟨hnext, hsub⟩ := terminal_step (hc.2 a.1) ha h
    intro id c₀ hc₀ hmerged
    obtain ⟨c₁, hc₁, hstays⟩ := hterminal id c₀ hc₀ hmerged
    obtain ⟨c₂, hc₂, hstays'⟩ := hnext id c₁ hc₁ hstays.merged
    exact ⟨c₂, hc₂, hstays.trans hstays' hsub⟩
  exact (Run.invariant_along hstep ⟨hholds, .of_customers rfl⟩ hlater).2

instance {ι : Type} (sh : Shared ι) : ∀ ch lo, Decidable (WritesUnmerged ch sh lo)
  | .go, .patching customerId _ =>
    inferInstanceAs (Decidable (∀ c ∈ sh.db.customers.lookup customerId, c.lifecycleStatus ≠ .merged))
  | .merge .., .patching .. | .patch .., .patching .. | .fail, .patching .. | .tick _, .patching ..
  | _, .idle | _, .merging .. => inferInstanceAs (Decidable True)

def threeCustomers : CustomerDb where
  customers := (((∅ : Table Uuid CustomerRow).insert 1 { groupId := 7 }).insert 2
    { groupId := 7 }).insert 3 { groupId := 7 }

theorem fresh_threeCustomers : Fresh threeCustomers := by
  have hname : ∀ e ∈ threeCustomers.customers.entries, e.2.duplicateOfCustomerId = none := by decide
  exact ⟨Table.forall_lookup.mpr hname, fun id p => nofun⟩

def deactivate (ifMatch : ℕ) : Choice :=
  .patch {} 7 1 99 ifMatch
    { lifecycleStatus := some .inactive, unmerged := by decide, unlabelled := rfl
      uncleared := by simp }

def go (i n : ℕ) : List (ℕ × Choice) := List.replicate n (i, .go)

def inactiveMerged : List (ℕ × Choice) :=
  (0, deactivate 1) :: go 0 1 ++ (0, .merge 7 1 2 none 2) :: go 0 12

def survivorMerged : List (ℕ × Choice) :=
  (1, deactivate 3) :: (0, .merge 7 2 3 none 1) :: go 0 13

theorem merged_is_terminal_survivorMerged :
    (((inactiveMerged.foldl (move step) (opening threeCustomers)).shared.db.customers.lookup 1).map
      fun c => (c.lifecycleStatus, c.duplicateOfCustomerId)) = some (.merged, some 2) ∧
    ((((inactiveMerged ++ survivorMerged).foldl (move step)
      (opening threeCustomers)).shared.db.customers.lookup 1).map
      fun c => (c.lifecycleStatus, c.duplicateOfCustomerId)) = some (.merged, some 3) ∧
    Terminal (inactiveMerged.foldl (move step) (opening threeCustomers)).shared
      ((inactiveMerged ++ survivorMerged).foldl (move step) (opening threeCustomers)).shared := by
  have hok : Run.Along (move step) Ok (opening threeCustomers) (inactiveMerged ++ survivorMerged) := by
    decide +kernel
  exact ⟨by decide +kernel, by decide +kernel,
    merged_is_terminal fresh_threeCustomers inactiveMerged survivorMerged hok⟩

/-- A PATCH has read customer 1 when its merge into 2 commits. -/
def mergedMeanwhile : List (ℕ × Choice) :=
  (1, deactivate 1) :: (0, .merge 7 1 2 none 1) :: go 0 12

/-- A PATCH that waits for the merge sets the status back. -/
theorem latePatch_unmerges : ¬ ∀ (db : CustomerDb) (earlier later : List (ℕ × Choice)), Fresh db →
      Terminal (earlier.foldl (move step) (opening db)).shared
        ((earlier ++ later).foldl (move step) (opening db)).shared := by
  intro h
  have hterminal := h threeCustomers mergedMeanwhile (go 1 1) fresh_threeCustomers
  have hmerged : ((mergedMeanwhile.foldl (move step)
      (opening threeCustomers)).shared.db.customers.lookup 1).map (·.lifecycleStatus) =
        some .merged := by
    decide +kernel
  have hinactive : (((mergedMeanwhile ++ go 1 1).foldl (move step)
      (opening threeCustomers)).shared.db.customers.lookup 1).map (·.lifecycleStatus) =
        some .inactive := by
    decide +kernel
  obtain ⟨c, hc, hstatus⟩ := Option.map_eq_some_iff.mp hmerged
  obtain ⟨c', hc', hstays⟩ := hterminal 1 c hc hstatus
  rw [hc', Option.map_some, hstays.merged] at hinactive
  cases Option.some.inj hinactive

end Nexotec.MergedTerminal
