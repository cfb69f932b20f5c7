/-
Sales behind customer merges (`app/sales/services/customer_merge.py`,
`apply_customer_change` of `app/sales/services/offer.py`).

`merge_customer` commits the merge first and repoints the Sales rows in a
transaction of its own after it, so the repointings of several merges land in
any order.  A buyer change reads the customer without a lock; it refuses a
do-not-contact customer and takes a merged one.

The system here is one list of committed merges whose repointing is to come,
one list of buyer changes that have read their customer, and the two contexts'
tables.
-/
import Nexotec.Customer.MergeParties
import Nexotec.Sales.GridRuns

namespace Nexotec.CustomerFollow

open Customers

/-- A PATCH of an offer or of a contract, with what `If-Match` sends. -/
inductive BuyerChange where
  | offer (tenantId offerId : Uuid) (ifMatch : ℕ) (data : OfferUpdate)
  | contract (tenantId contractId : Uuid) (ifMatch : ℕ) (data : ContractUpdate)

def BuyerChange.request : BuyerChange → Request
  | .offer tenantId offerId ifMatch data => .updateOffer tenantId offerId ifMatch data
  | .contract tenantId contractId ifMatch data => .updateContract tenantId contractId ifMatch data

def BuyerChange.customerId : BuyerChange → Option Uuid
  | .offer _ _ _ data => data.customerId.join
  | .contract _ _ _ data => data.1.customerId.join

/-- Both contexts, and what is under way between them. -/
structure State where
  crm : CustomerDb := {}
  grid : Grid := {}
  /-- The duplicate and the survivor of each committed merge that has not
  repointed Sales yet. -/
  pending : List (Uuid × Uuid) := []
  /-- The buyer changes that have read the customer and not committed. -/
  changes : List (Reads × BuyerChange) := []

/-- The customer as a buyer change reads it at this moment: the group and the
status are the row's, the rest is taken from the request's reads. -/
def readCustomer (customers : Table Uuid CustomerRow) (reads : Reads) : Reads :=
  { reads with customer := fun groupId customerId =>
      ((customers.lookup customerId).filter (·.groupId = groupId)).map fun row =>
        { (reads.customer groupId customerId).getD {} with lifecycleStatus := row.lifecycleStatus } }

inductive Action where
  | merge (now : Time) (actorId : Option Uuid) (groupId duplicateId targetId : Uuid) (ifMatch : ℕ)
  | repoint (k : ℕ)
  | read (reads : Reads) (change : BuyerChange)
  | commit (k : ℕ)

/-- The Sales write of a buyer change on the grid as it is at its commit. -/
def accepted (g : Grid) (change : Reads × BuyerChange) : Result Grid :=
  GridRuns.write change.1 g (.request change.2.request)

def next (s : State) : Action → State
  | .merge now actorId groupId duplicateId targetId ifMatch =>
    match mergeCustomer now actorId s.crm groupId duplicateId targetId ifMatch with
    | .ok crm => { s with crm := crm, pending := s.pending ++ [(duplicateId, targetId)] }
    | .error _ => s
  | .repoint k =>
    match s.pending[k]? with
    | some (duplicateId, targetId) => { s with
        grid := GridRuns.repointCustomerSalesRecords s.grid duplicateId targetId
        pending := s.pending.eraseIdx k }
    | none => s
  | .read reads change =>
    { s with changes := s.changes ++ [(readCustomer s.crm.customers reads, change)] }
  | .commit k =>
    match s.changes[k]? with
    | some change => { s with
        grid := match accepted s.grid change with
          | .ok grid => grid
          | .error _ => s.grid
        changes := s.changes.eraseIdx k }
    | none => s

def start (crm : CustomerDb) (grid : Grid) : State := { crm := crm, grid := grid }

/-! ### Names -/

def Names (g : Grid) (customerId : Uuid) : Prop :=
  (∃ id offer, g.sales.offers.lookup id = some offer ∧ offer.customerId = some customerId) ∨
  (∃ id contract, g.sales.contracts.lookup id = some contract ∧
    contract.customerId = some customerId) ∨
  ∃ id row, g.deals.lookup id = some row ∧ row.customerId = some customerId

instance (g : Grid) (customerId : Uuid) : Decidable (Names g customerId) :=
  decidable_of_iff
    ((∃ e ∈ g.sales.offers.entries, e.2.customerId = some customerId) ∨
      (∃ e ∈ g.sales.contracts.entries, e.2.customerId = some customerId) ∨
      ∃ e ∈ g.deals.entries, e.2.customerId = some customerId)
    (or_congr (Table.exists_lookup (p := fun _ (o : SalesOffer) => o.customerId = _)).symm
      (or_congr (Table.exists_lookup (p := fun _ (c : SalesContract) => c.customerId = _)).symm
        (Table.exists_lookup (p := fun _ (row : SalesDeal) => row.customerId = _)).symm))

def isMerged (customers : Table Uuid CustomerRow) (customerId : Uuid) : Bool :=
  (customers.lookup customerId).any (·.lifecycleStatus = .merged)

/-- No offer, contract or grid row names a merged customer. -/
def NoneMerged (s : State) : Prop :=
  ∀ customerId, Names s.grid customerId → isMerged s.crm.customers customerId = false

/-- The customer is not merged, or Sales is still to be repointed away from it. -/
def Followed (s : State) (customerId : Uuid) : Prop :=
  isMerged s.crm.customers customerId = false ∨ customerId ∈ s.pending.map Prod.fst

instance (s : State) (customerId : Uuid) : Decidable (Followed s customerId) :=
  inferInstanceAs (Decidable (_ ∨ _))

/-- The condition on a step: what it writes into Sales rows is followed. -/
def WritesFollowed (s : State) : Action → Prop
  | .merge .. | .read .. => True
  | .repoint k => ∀ merge ∈ s.pending[k]?, Names s.grid merge.1 → Followed s merge.2
  | .commit k => ∀ change ∈ s.changes[k]?, (accepted s.grid change).isOk = true →
      ∀ customerId ∈ change.2.customerId, Followed s customerId

instance (s : State) : ∀ a, Decidable (WritesFollowed s a)
  | .merge .. | .read .. => inferInstanceAs (Decidable True)
  | .repoint k => inferInstanceAs
      (Decidable (∀ merge ∈ s.pending[k]?, Names s.grid merge.1 → Followed s merge.2))
  | .commit k => inferInstanceAs
      (Decidable (∀ change ∈ s.changes[k]?, (accepted s.grid change).isOk = true →
        ∀ customerId ∈ change.2.customerId, Followed s customerId))

section Names

variable {reads : Reads} {deal deal' : Deal} {host : String}

theorem applyCustomerChange_customerId {customerId : Option Uuid}
    (h : applyCustomerChange reads deal customerId host = .ok deal') :
    deal'.customerId = customerId := by
  cases customerId with
  | none => rw [← Except.ok.inj h]
  | some customerId =>
    obtain ⟨customer, -, h⟩ := Result.of_bind h
    obtain ⟨-, -, h⟩ := Result.of_bind h
    rw [← Except.ok.inj h]

theorem changeParties_customerId {customerId ownerUserId : Option (Option Uuid)}
    (h : changeParties reads deal customerId ownerUserId host = .ok deal') :
    deal'.customerId = customerId.getD deal.customerId := by
  obtain ⟨d, hd, h⟩ := Result.of_bind h
  have howner : deal'.customerId = d.customerId := by
    cases ownerUserId with
    | none => rw [← Except.ok.inj h]
    | some ownerUserId =>
      obtain ⟨owner, -, h⟩ := Result.of_bind h
      rw [← Except.ok.inj h]
  rw [howner]
  cases customerId with
  | none => rw [← Except.ok.inj hd, Option.getD_none]
  | some customerId => exact applyCustomerChange_customerId hd

theorem updateOffer_customerId {contracts : Table Uuid SalesContract} {offerId : Uuid}
    {offer offer' : SalesOffer} {data : OfferUpdate}
    (h : updateOffer reads contracts offerId offer data = .ok offer') :
    offer'.customerId = data.customerId.getD offer.customerId := by
  obtain ⟨-, -, h⟩ := Result.of_bind h
  obtain ⟨parties, hparties, h⟩ := Result.of_bind h
  obtain ⟨deal, hdeal, h⟩ := Result.of_bind h
  cases h
  have hbuyer : deal.toBuyer = parties.toBuyer := (applyVehicleAndPricingChanges_frame hdeal).2.1
  exact (congrArg Buyer.customerId hbuyer).trans (changeParties_customerId hparties)

theorem updateContract_customerId {contract contract' : SalesContract} {data : ContractUpdate}
    (h : updateContract reads contract data = .ok contract') :
    contract'.customerId = data.1.customerId.getD contract.customerId := by
  unfold updateContract at h
  split at h
  · next honly =>
    obtain ⟨-, -, h⟩ := Result.of_bind h
    obtain ⟨deal, hdeal, h⟩ := Result.of_bind h
    cases h
    -- the body names a buyer
    have hsome : data.1.customerId.join.isSome = true := by
      simp only [givesABuyerOnly, Bool.and_eq_true] at honly
      exact honly.1.1.2
    have hbuyer : deal.customerId = data.1.customerId.join := applyCustomerChange_customerId hdeal
    rcases hid : data.1.customerId with _ | customerId
    · rw [hid] at hsome
      cases hsome
    · rw [hid] at hbuyer
      exact hbuyer
  · obtain ⟨-, -, h⟩ := Result.of_bind h
    obtain ⟨parties, hparties, h⟩ := Result.of_bind h
    obtain ⟨deal, hdeal, h⟩ := Result.of_bind h
    cases h
    have hbuyer : deal.toBuyer = parties.toBuyer := (applyVehicleAndPricingChanges_frame hdeal).2.1
    exact (congrArg Buyer.customerId hbuyer).trans (changeParties_customerId hparties)

end Names

section

variable {g : Grid} {customerId contractId : Uuid} {contract : SalesContract}

theorem names_projectContract (hcontract : g.sales.contracts.lookup contractId = some contract)
    (h : Names (projectContract g contractId contract) customerId) : Names g customerId := by
  rcases h with hoffer | hcontracts | ⟨id, row, hrow, hname⟩
  · exact .inl hoffer
  · exact .inr (.inl hcontracts)
  · rcases Table.lookup_insert_cases hrow with ⟨-, rfl⟩ | ⟨-, hold⟩
    · exact .inr (.inl ⟨contractId, contract, hcontract, hname⟩)
    · exact .inr (.inr ⟨id, row, hold, hname⟩)

theorem names_upsertOffer {offerId : Uuid} {offer : SalesOffer}
    (hoffer : g.sales.offers.lookup offerId = some offer)
    (h : Names (upsertOffer g offerId offer) customerId) : Names g customerId := by
  unfold upsertOffer at h
  split at h
  · next contractId live hlive => exact names_projectContract (Table.search_eq_some hlive).1 h
  · rcases h with hoffers | hcontract | ⟨id, row, hrow, hname⟩
    · exact .inl hoffers
    · exact .inr (.inl hcontract)
    · rcases Table.lookup_insert_cases hrow with ⟨-, rfl⟩ | ⟨-, hold⟩
      · exact .inl ⟨offerId, offer, hoffer, hname⟩
      · exact .inr (.inr ⟨id, row, hold, hname⟩)

theorem names_upsertContract (hcontract : g.sales.contracts.lookup contractId = some contract)
    (h : Names (upsertContract g contractId contract) customerId) : Names g customerId := by
  unfold upsertContract at h
  split at h
  · split at h
    · next hfreed => exact names_upsertOffer hfreed h
    · exact names_projectContract hcontract h
  · exact names_projectContract hcontract h

end

variable {g : Grid} {customerId : Uuid}

theorem names_accepted {g' : Grid} {change : Reads × BuyerChange} (h : accepted g change = .ok g')
    (hname : Names g' customerId) : Names g customerId ∨ change.2.customerId = some customerId := by
  obtain ⟨reads, change⟩ := change
  obtain ⟨sales, hsales, h⟩ := Result.of_bind h
  cases h
  cases change with
  | offer tenantId offerId ifMatch data =>
    cases handled_of_ok hsales with
    | updateOffer _ _ _ _ offer offer' hoffer hupdate =>
      have hnew : (g.sales.offers.insert offerId offer').lookup offerId = some offer' :=
        AList.lookup_insert _
      simp only [BuyerChange.request, GridRuns.project, GridRuns.upsertOfferAt, hnew] at hname
      rcases names_upsertOffer hnew hname with ⟨id, row, hrow, hrowName⟩ | hrest
      · rcases Table.lookup_insert_cases hrow with ⟨-, rfl⟩ | ⟨-, hold⟩
        · rw [updateOffer_customerId hupdate] at hrowName
          rcases hdata : data.customerId with _ | requested
          · rw [hdata] at hrowName
            exact .inl (.inl ⟨offerId, offer, hoffer, hrowName⟩)
          · rw [hdata] at hrowName
            refine .inr ?_
            rw [BuyerChange.customerId, hdata]
            exact hrowName
        · exact .inl (.inl ⟨id, row, hold, hrowName⟩)
      · exact .inl (.inr hrest)
  | contract tenantId contractId ifMatch data =>
    cases handled_of_ok hsales with
    | updateContract _ _ _ _ contract contract' hcontract hupdate =>
      have hnew : (g.sales.contracts.insert contractId contract').lookup contractId =
          some contract' := AList.lookup_insert _
      simp only [BuyerChange.request, GridRuns.project, GridRuns.upsertContractAt, hnew] at hname
      rcases names_upsertContract hnew hname with hoffers | ⟨id, row, hrow, hrowName⟩ | hdeals
      · exact .inl (.inl hoffers)
      · rcases Table.lookup_insert_cases hrow with ⟨-, rfl⟩ | ⟨-, hold⟩
        · rw [updateContract_customerId hupdate] at hrowName
          rcases hdata : data.1.customerId with _ | requested
          · rw [hdata] at hrowName
            exact .inl (.inr (.inl ⟨contractId, contract, hcontract, hrowName⟩))
          · rw [hdata] at hrowName
            refine .inr ?_
            rw [BuyerChange.customerId, hdata]
            exact hrowName
        · exact .inl (.inr (.inl ⟨id, row, hold, hrowName⟩))
      · exact .inl (.inr (.inr hdeals))

/-! ### Merges and repointings -/

variable {now : Time} {actorId : Option Uuid} {groupId duplicateId targetId : Uuid} {ifMatch : ℕ}

theorem isMerged_mergeCustomer {crm crm' : CustomerDb}
    (h : mergeCustomer now actorId crm groupId duplicateId targetId ifMatch = .ok crm') :
    duplicateId ≠ targetId ∧ ∀ customerId, customerId ≠ duplicateId →
      isMerged crm'.customers customerId = isMerged crm.customers customerId := by
  obtain ⟨duplicate, -, h⟩ := Result.of_bind h
  obtain ⟨-, -, h⟩ := Result.of_bind h
  split at h
  · cases h
  · next hne =>
    obtain ⟨target, -, h⟩ := Result.of_bind h
    obtain ⟨-, -, h⟩ := Result.of_bind h
    cases h
    refine ⟨fun heq => hne heq.symm, fun customerId hother => ?_⟩
    rw [isMerged, isMerged, AList.lookup_insert_ne hother, repointEarlierMerges,
      Table.lookup_updateAll]
    rcases crm.customers.lookup customerId with _ | c
    · rfl
    · rw [Option.map_some, Option.any_some, Option.any_some]
      split <;> rfl

theorem names_repoint
    (h : Names (GridRuns.repointCustomerSalesRecords g duplicateId targetId) customerId) :
    (customerId = targetId ∧ Names g duplicateId) ∨
      (customerId ≠ duplicateId ∧ Names g customerId) := by
  have hcases : ∀ {named : Option Uuid},
      GridRuns.repointed duplicateId targetId named = some customerId →
      (customerId = targetId ∧ named = some duplicateId) ∨
        (customerId ≠ duplicateId ∧ named = some customerId) := by
    intro named hnamed
    unfold GridRuns.repointed at hnamed
    split at hnamed
    · next heq => exact .inl ⟨(Option.some.inj hnamed).symm, heq⟩
    · next hne =>
      refine .inr ⟨?_, hnamed⟩
      rintro rfl
      exact hne hnamed
  rcases h with ⟨id, offer', hoffer', hname⟩ | ⟨id, contract', hcontract', hname⟩ |
    ⟨id, row', hrow', hname⟩
  · obtain ⟨offer, hoffer, rfl⟩ := GridRuns.lookup_repointed_offer hoffer'
    rcases hcases hname with ⟨htarget, hold⟩ | ⟨hne, hold⟩
    · exact .inl ⟨htarget, .inl ⟨id, offer, hoffer, hold⟩⟩
    · exact .inr ⟨hne, .inl ⟨id, offer, hoffer, hold⟩⟩
  · obtain ⟨contract, hcontract, rfl⟩ := GridRuns.lookup_repointed_contract hcontract'
    rcases hcases hname with ⟨htarget, hold⟩ | ⟨hne, hold⟩
    · exact .inl ⟨htarget, .inr (.inl ⟨id, contract, hcontract, hold⟩)⟩
    · exact .inr ⟨hne, .inr (.inl ⟨id, contract, hcontract, hold⟩)⟩
  · obtain ⟨row, hrow, rfl⟩ :=
      Option.map_eq_some_iff.mp ((Table.lookup_updateAll _ _ _).symm.trans hrow')
    rcases hcases hname with ⟨htarget, hold⟩ | ⟨hne, hold⟩
    · exact .inl ⟨htarget, .inr (.inr ⟨id, row, hrow, hold⟩)⟩
    · exact .inr ⟨hne, .inr (.inr ⟨id, row, hrow, hold⟩)⟩

variable {k : ℕ}

theorem mem_fst_eraseIdx {pending : List (Uuid × Uuid)} {merge : Uuid × Uuid}
    (hk : pending[k]? = some merge) (hne : customerId ≠ merge.1)
    (hmem : customerId ∈ pending.map Prod.fst) :
    customerId ∈ (pending.eraseIdx k).map Prod.fst := by
  obtain ⟨other, hother, rfl⟩ := List.mem_map.mp hmem
  refine List.mem_map_of_mem (List.mem_eraseIdx_iff_getElem?.mpr ?_)
  obtain ⟨j, hj⟩ := List.getElem?_of_mem hother
  refine ⟨j, ?_, hj⟩
  rintro rfl
  rw [hj] at hk
  exact hne (congrArg Prod.fst (Option.some.inj hk))

/-! ### Runs -/

/-- Whoever a row names is followed, and no merge under way is of a customer
into itself. -/
structure Follows (s : State) : Prop where
  named : ∀ customerId, Names s.grid customerId → Followed s customerId
  apart : ∀ merge ∈ s.pending, merge.1 ≠ merge.2

variable {s : State}

theorem follows_merge (hs : Follows s) :
    Follows (next s (.merge now actorId groupId duplicateId targetId ifMatch)) := by
  simp only [next]
  split
  · next crm hcrm =>
    refine ⟨fun customerId hname => ?_, fun merge hmem => ?_⟩
    · by_cases hdup : customerId = duplicateId
      · exact .inr (by simp [hdup])
      · obtain ⟨-, hsame⟩ := isMerged_mergeCustomer hcrm
        rcases hs.named customerId hname with hfree | hpending
        · exact .inl ((hsame customerId hdup).trans hfree)
        · refine .inr ?_
          rw [List.map_append]
          exact List.mem_append_left _ hpending
    · rcases List.mem_append.mp hmem with hold | hnew
      · exact hs.apart merge hold
      · rw [List.mem_singleton.mp hnew]
        exact (isMerged_mergeCustomer hcrm).1
  · exact hs

theorem follows_repoint (hs : Follows s) (hok : WritesFollowed s (.repoint k)) :
    Follows (next s (.repoint k)) := by
  simp only [next]
  split
  · next duplicateId targetId hk =>
    have hapart := hs.apart (duplicateId, targetId) (List.mem_of_getElem? hk)
    -- a followed customer other than the duplicate stays so
    have hkeep : ∀ customerId, customerId ≠ duplicateId → Followed s customerId →
        isMerged s.crm.customers customerId = false ∨
          customerId ∈ (s.pending.eraseIdx k).map Prod.fst := by
      rintro customerId hne (hfree | hpending)
      · exact .inl hfree
      · exact .inr (mem_fst_eraseIdx hk hne hpending)
    refine ⟨fun customerId hname => ?_, fun merge hmem => ?_⟩
    · rcases names_repoint hname with ⟨rfl, hdup⟩ | ⟨hne, hold⟩
      · exact hkeep customerId hapart.symm (hok _ hk hdup)
      · exact hkeep customerId hne (hs.named customerId hold)
    · exact hs.apart merge (List.mem_of_mem_eraseIdx hmem)
  · exact hs

theorem follows_commit (hs : Follows s) (hok : WritesFollowed s (.commit k)) :
    Follows (next s (.commit k)) := by
  simp only [next]
  split
  · next change hk =>
    refine ⟨fun customerId hname => ?_, hs.apart⟩
    rcases hwrite : accepted s.grid change with e | grid
    · rw [hwrite] at hname
      exact hs.named customerId hname
    · rw [hwrite] at hname
      rcases names_accepted hwrite hname with hold | hrequested
      · exact hs.named customerId hold
      · exact hok change hk (by rw [hwrite]; rfl) customerId hrequested
  · exact hs

theorem follows_next {a : Action} (hs : Follows s) (hok : WritesFollowed s a) :
    Follows (next s a) := by
  cases a with
  | merge now actorId groupId duplicateId targetId ifMatch => exact follows_merge hs
  | repoint k => exact follows_repoint hs hok
  | read reads change => exact ⟨hs.named, hs.apart⟩
  | commit k => exact follows_commit hs hok

/-- **Sales follows merges to the end.**  In every run whose steps write only
followed customers, once every merge has repointed no Sales row names a merged
customer. -/
theorem sales_follow_merges (crm : CustomerDb) (grid : Grid) (actions : List Action)
    (hstart : NoneMerged (start crm grid))
    (hok : Run.Along next WritesFollowed (start crm grid) actions)
    (hdone : (actions.foldl next (start crm grid)).pending = []) :
    NoneMerged (actions.foldl next (start crm grid)) := by
  have hfollows : Follows (start crm grid) :=
    ⟨fun customerId hname => .inl (hstart customerId hname), fun merge hmem => (by cases hmem)⟩
  have hend := Run.invariant_along (fun s a hs ha => follows_next hs ha) hfollows hok
  intro customerId hname
  rcases hend.named customerId hname with hfree | hpending
  · exact hfree
  · rw [hdone] at hpending
    cases hpending

def threeBuyers : CustomerDb where
  customers := (((∅ : Table Uuid CustomerRow).insert 1 { groupId := 7 }).insert 2
    { groupId := 7 }).insert 3 { groupId := 7 }

def twoDrafts : Grid :=
  let draft : SalesOffer := { tenantId := 4, offerNumber := "O-1", customerId := some 1 }
  GridRuns.putOffer (GridRuns.putOffer {} 50 draft) 51 { draft with offerNumber := "O-2" }

def merge (duplicateId targetId : Uuid) : Action := .merge 100 none 7 duplicateId targetId 1

/-- The first draft gets customer 2 as buyer while 1 is merged into 2; then 2
is merged into 3, and both merges repoint in their order. -/
def chainInOrder : List Action :=
  [.read { groupId := 7 } (.offer 4 50 1 { customerId := some (some 2) }), merge 1 2, .commit 0,
    merge 2 3, .repoint 0, .repoint 0]

theorem noneMerged_twoDrafts : NoneMerged (start threeBuyers twoDrafts) := by
  have hnone : ∀ e ∈ threeBuyers.customers.entries, e.2.lifecycleStatus ≠ .merged := by decide
  have hrows : ∀ id (c : CustomerRow), threeBuyers.customers.lookup id = some c →
      c.lifecycleStatus ≠ .merged := Table.forall_lookup.mpr hnone
  intro customerId _
  rw [isMerged, Option.any_eq_false]
  intro c hc
  simpa using hrows customerId c hc

theorem sales_follow_merges_chainInOrder :
    ((chainInOrder.foldl next (start threeBuyers twoDrafts)).grid.sales.offers.entries.map
      fun e => e.2.customerId) = [some 3, some 3] ∧
    NoneMerged (chainInOrder.foldl next (start threeBuyers twoDrafts)) := by
  have hok : Run.Along next WritesFollowed (start threeBuyers twoDrafts) chainInOrder := by
    decide +kernel
  exact ⟨by decide +kernel,
    sales_follow_merges threeBuyers twoDrafts chainInOrder noneMerged_twoDrafts hok
      (by decide +kernel)⟩

/-- Both merges commit before the first of them repoints, and it repoints last. -/
def chainTurned : List Action := [merge 1 2, merge 2 3, .repoint 1, .repoint 0]

/-- In a chain of two merges the first repointing may land last, and then writes a customer that was
merged in between. -/
theorem lateRepoint_names_merged :
    ¬ ∀ (crm : CustomerDb) (grid : Grid) (actions : List Action), NoneMerged (start crm grid) →
      (actions.foldl next (start crm grid)).pending = [] →
      NoneMerged (actions.foldl next (start crm grid)) := by
  intro h
  have hend := h threeBuyers twoDrafts chainTurned noneMerged_twoDrafts (by decide +kernel)
  have hname : Names (chainTurned.foldl next (start threeBuyers twoDrafts)).grid 2 := by
    decide +kernel
  have hmerged : isMerged (chainTurned.foldl next (start threeBuyers twoDrafts)).crm.customers 2 =
      true := by
    decide +kernel
  rw [hend 2 hname] at hmerged
  cases hmerged

end Nexotec.CustomerFollow
