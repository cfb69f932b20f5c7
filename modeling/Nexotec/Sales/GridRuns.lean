/-
The deal grid over every sequence of writes.

The writers of the grid: the requests on offers and contracts, finalising,
signing and cancelling them, their documents, the hand-over of a leaver's
open deals (`app/sales/services/ownership.py`) and the repointing that follows
a customer merge (`app/sales/services/customer_merge.py`).  Most of them end
in `upsert_deal_projection`; the repointing rewrites offers, contracts and
grid rows in bulk.

A written row goes through `putOffer` or `putContract`, and each has one
lemma; the hand-over is a fold of them.  Main result:

* `deal_grid_mirrors` — in every state the writes lead to, each offer and each
  contract without an offer has exactly one row, and the row is the projection
  of its live entity.
-/
import Mathlib.Data.Nat.Pairing
import Nexotec.Sales.DealProjection
import Nexotec.Sales.DealRuns

namespace Nexotec.GridRuns

/-! ### Writes -/

def putOffer (g : Grid) (offerId : Uuid) (offer : SalesOffer) : Grid :=
  upsertOffer { g with sales := { g.sales with offers := g.sales.offers.insert offerId offer } }
    offerId offer

def putContract (g : Grid) (contractId : Uuid) (contract : SalesContract) : Grid :=
  upsertContract
    { g with sales := { g.sales with contracts := g.sales.contracts.insert contractId contract } }
    contractId contract

def upsertOfferAt (g : Grid) (offerId : Uuid) : Grid :=
  match g.sales.offers.lookup offerId with
  | some offer => upsertOffer g offerId offer
  | none => g

def upsertContractAt (g : Grid) (contractId : Uuid) : Grid :=
  match g.sales.contracts.lookup contractId with
  | some contract => upsertContract g contractId contract
  | none => g

/-- The projection a request ends in; the valuation context has none. -/
def project (reads : Reads) (g : Grid) : Request → Grid
  | .createOffer _ | .copyOffer .. => upsertOfferAt g (reads.uuid 0)
  | .updateOffer _ offerId .. | .editOffer _ offerId .. => upsertOfferAt g offerId
  | .createContract .. => upsertContractAt g (reads.uuid 0)
  | .updateContract _ contractId .. | .editContract _ contractId .. =>
    upsertContractAt g contractId
  | .createValuation _ | .consumeValuation .. | .revertValuationUse _ => g

def nextVersion (documents : List SalesDocument) (tenantId : Uuid) (ownerType : DealEntity)
    (ownerId : Uuid) : ℕ :=
  (((documents.filter (SalesDocument.isOf tenantId ownerType ownerId)).map (·.version)).max?).getD 0
    + 1

def addDocument (g : Grid) (tenantId : Uuid) (ownerType : DealEntity) (ownerId : Uuid) : Grid :=
  { g with documents := g.documents ++
      [⟨tenantId, ownerType, ownerId, nextVersion g.documents tenantId ownerType ownerId⟩] }

def generateOfferDocument (g : Grid) (offerId : Uuid) (offer : SalesOffer) : Grid :=
  upsertOffer (addDocument g offer.tenantId .offer offerId) offerId offer

def generateContractDocument (g : Grid) (contractId : Uuid) (contract : SalesContract) :
    Result Grid := do
  requireComplete contract "printed"
  pure (upsertContract (addDocument g contract.tenantId .contract contractId) contractId contract)

/-! ### Hand-over (`ownership.py`) -/

inductive OwnershipGroup where
  | offers
  | contracts

def OwnershipGroup.value : OwnershipGroup → String
  | .offers => "offers"
  | .contracts => "contracts"

/-- `OwnershipTransfer`; `allowed` is `list_user_dealership_ids` of the colleague. -/
structure OwnershipTransfer where
  fromUserId : Uuid
  group : OwnershipGroup
  toUserId : Option Uuid := none
  toLabel : Option String := none
  allowed : List Uuid := []

def offerIsOpen (contracts : Table Uuid SalesContract) (offerId : Uuid) (offer : SalesOffer) :
    Bool :=
  (offer.status = .draft ∨ offer.status = .open) ∧
    (contracts.search fun _ contract =>
      contract.offerId = some offerId ∧ contract.status ≠ .cancelled).isNone

/-- `_open_rows`: the user's open offers or pending contracts, in id order,
with the tenant of each. -/
def openRows (db : SalesDb) (transfer : OwnershipTransfer) : List (Uuid × Uuid) :=
  let rows : List (Uuid × Uuid) := match transfer.group with
    | .offers => (db.offers.entries.filter fun e =>
        e.2.ownerUserId = some transfer.fromUserId ∧ offerIsOpen db.contracts e.1 e.2).map
          fun e => (e.1, e.2.tenantId)
    | .contracts => (db.contracts.entries.filter fun e =>
        e.2.ownerUserId = some transfer.fromUserId ∧ e.2.status = .pending).map
          fun e => (e.1, e.2.tenantId)
  rows.mergeSort fun a b => a.1 ≤ b.1

def assertColleagueActsEverywhere (transfer : OwnershipTransfer) (rows : List (Uuid × Uuid)) :
    Result Unit :=
  match transfer.toUserId with
  | none => .ok ()
  | some toUserId =>
    let elsewhere := rows.countP fun row => row.2 ∉ transfer.allowed
    if elsewhere = 0 then .ok ()
    else .error (unprocessableEntityError
      s!"sales/{transfer.group.value}: {elsewhere} of these records belong to another business the colleague cannot act in — leave the group unassigned (null), and that business hands them over from its own queue, or choose a colleague who is a member there."
      [("module", "sales"), ("group", transfer.group.value), ("toUserId", toString toUserId),
        ("reason", "colleague_cannot_act_there"), ("count", toString elsewhere)])

def transferredOwner (reads : Reads) (transfer : OwnershipTransfer) : Owner :=
  match transfer.toUserId with
  | some toUserId => ⟨some toUserId, transfer.toLabel, some reads.now⟩
  | none => {}

/-- One row of the hand-over: the seller, the version, the projection. -/
def transferRow (reads : Reads) (transfer : OwnershipTransfer) (g : Grid) (row : Uuid × Uuid) :
    Grid :=
  match transfer.group with
  | .offers =>
    match g.sales.offers.lookup row.1 with
    | some offer => putOffer g row.1 { offer with
        toOwner := transferredOwner reads transfer
        updatedBy := reads.actorId
        version := offer.version + 1 }
    | none => g
  | .contracts =>
    match g.sales.contracts.lookup row.1 with
    | some contract => putContract g row.1 { contract with
        toOwner := transferredOwner reads transfer
        updatedBy := reads.actorId
        version := contract.version + 1 }
    | none => g

def transferGroup (reads : Reads) (g : Grid) (transfer : OwnershipTransfer) : Result Grid := do
  let rows := openRows g.sales transfer
  assertColleagueActsEverywhere transfer rows
  pure (rows.foldl (transferRow reads transfer) g)

/-! ### Customer merge (`customer_merge.py`) -/

/-- The survivor for the duplicate, and everybody else for themselves. -/
def repointed (duplicateId targetId : Uuid) (customerId : Option Uuid) : Option Uuid :=
  if customerId = some duplicateId then some targetId else customerId

def repointOffer (duplicateId targetId : Uuid) (offer : SalesOffer) : SalesOffer :=
  { offer with customerId := repointed duplicateId targetId offer.customerId }

def repointContract (duplicateId targetId : Uuid) (contract : SalesContract) : SalesContract :=
  { contract with customerId := repointed duplicateId targetId contract.customerId }

def repointDeal (duplicateId targetId : Uuid) (deal : SalesDeal) : SalesDeal :=
  { deal with customerId := repointed duplicateId targetId deal.customerId }

def repointCustomerSalesRecords (g : Grid) (duplicateId targetId : Uuid) : Grid :=
  { g with
    sales := { g.sales with
      offers := g.sales.offers.updateAll fun _ => repointOffer duplicateId targetId
      contracts := g.sales.contracts.updateAll fun _ => repointContract duplicateId targetId }
    deals := g.deals.updateAll fun _ => repointDeal duplicateId targetId }

/-! ### Runs -/

/-- The writes of the grid.  `reservation` is what Stock answers a signature
that asks for a car, `released` what it answers a cancellation. -/
inductive Write where
  | request (request : Request)
  | finalizeOffer (tenantId offerId : Uuid) (ifMatch : ℕ)
  | cancelOffer (tenantId offerId : Uuid) (ifMatch : ℕ) (reason : String)
  | confirmContract (tenantId contractId : Uuid) (ifMatch : ℕ) (reservation : Result Uuid)
  | cancelContract (tenantId contractId : Uuid) (ifMatch : ℕ) (reason : String)
      (released : Result Unit)
  | generateOfferDocument (tenantId offerId : Uuid)
  | generateContractDocument (tenantId contractId : Uuid)
  | transferOwnership (transfer : OwnershipTransfer)
  | repointCustomer (duplicateId targetId : Uuid)

def findOffer (db : SalesDb) (tenantId offerId : Uuid) (ifMatch : ℕ) : Result SalesOffer := do
  let offer ← getOfferOr404 db.offers tenantId offerId
  checkVersion offer.version ifMatch "SalesOffer"
  pure offer

def findContract (db : SalesDb) (tenantId contractId : Uuid) (ifMatch : ℕ) :
    Result SalesContract := do
  let contract ← getContractOr404 db.contracts tenantId contractId
  checkVersion contract.version ifMatch "SalesContract"
  pure contract

/-- The reservation of a signature: only a car from stock asks for one. -/
def reserve (contract : SalesContract) (reservation : Result Uuid) : Result (Option Uuid) :=
  if (stockItemToReserve contract.toDeal).isSome then some <$> reservation else pure none

/-- The release of a cancellation: only a signed contract holds a reservation,
and one that is already gone does not stop it (KAN-114). -/
def releaseHeld (contract : SalesContract) (released : Result Unit) : Result Unit :=
  if contract.status = .confirmed ∧ contract.reservationId.isSome then
    match released with
    | .ok () => .ok ()
    | .error e => if e.code = .notFound then .ok () else .error e
  else .ok ()

def write (reads : Reads) (g : Grid) : Write → Result Grid
  | .request request => do
    let sales ← handle reads g.sales request
    pure (project reads { g with sales := sales } request)
  | .finalizeOffer tenantId offerId ifMatch => do
    let offer ← findOffer g.sales tenantId offerId ifMatch
    let offer ← finalizeOffer reads g.sales.contracts offerId offer
    pure (putOffer g offerId offer)
  | .cancelOffer tenantId offerId ifMatch reason => do
    let offer ← findOffer g.sales tenantId offerId ifMatch
    let offer ← cancelOffer reads g.sales.contracts offerId offer reason
    pure (putOffer g offerId offer)
  | .confirmContract tenantId contractId ifMatch reservation => do
    let contract ← findContract g.sales tenantId contractId ifMatch
    requireConfirmable reads contract
    let reservationId ← reserve contract reservation
    pure (putContract g contractId (confirmedRow reads reservationId contract))
  | .cancelContract tenantId contractId ifMatch reason released => do
    let contract ← findContract g.sales tenantId contractId ifMatch
    requireCancellable contract
    releaseHeld contract released
    pure (putContract g contractId (cancelledRow reads reason contract))
  | .generateOfferDocument tenantId offerId => do
    let offer ← getOfferOr404 g.sales.offers tenantId offerId
    pure (generateOfferDocument g offerId offer)
  | .generateContractDocument tenantId contractId => do
    let contract ← getContractOr404 g.sales.contracts tenantId contractId
    generateContractDocument g contractId contract
  | .transferOwnership transfer => transferGroup reads g transfer
  | .repointCustomer duplicateId targetId =>
    pure (repointCustomerSalesRecords g duplicateId targetId)

/-- The grid, and how many requests have drawn ids.  `uuid7()` never gives an
id twice: a request draws its ids from a row of its own. -/
structure Office where
  grid : Grid := {}
  drawn : ℕ := 0

/-- A write with what it reads; one that raises is rolled back. -/
def next (s : Office) (a : Reads × Write) : Office :=
  { grid := match write { a.1 with uuid := Nat.pair s.drawn } s.grid a.2 with
      | .ok grid => grid
      | .error _ => s.grid
    drawn := s.drawn + 1 }

def start (valuations : Table Uuid Valuation) : Office :=
  { grid := { sales := noDeals valuations } }

/-! ### What the grid shows -/

/-- The grid mirrors the tables. -/
structure Mirrors (g : Grid) : Prop where
  linked : Linked g.sales
  right : ∀ id, RowRight g id

section Put

variable {g : Grid} {offerId : Uuid} {offer : SalesOffer}

variable {contractId : Uuid} {contract : SalesContract}

variable {db : SalesDb}

end Put

section Documents

variable {g : Grid} {tenantId : Uuid}

variable {id offerId : Uuid}

variable {contractId : Uuid} {contract : SalesContract}

end Documents

section Repoint

variable {g : Grid} {duplicateId targetId : Uuid}

theorem lookup_repointed_contract {contractId : Uuid} {contract' : SalesContract}
    (h : (repointCustomerSalesRecords g duplicateId targetId).sales.contracts.lookup contractId
      = some contract') : ∃ contract, g.sales.contracts.lookup contractId = some contract ∧
      contract' = repointContract duplicateId targetId contract := by
  obtain ⟨contract, hcontract, heq⟩ :=
    Option.map_eq_some_iff.mp ((Table.lookup_updateAll _ _ _).symm.trans h)
  exact ⟨contract, hcontract, heq.symm⟩

theorem lookup_repointed_offer {offerId : Uuid} {offer' : SalesOffer}
    (h : (repointCustomerSalesRecords g duplicateId targetId).sales.offers.lookup offerId
      = some offer') : ∃ offer, g.sales.offers.lookup offerId = some offer ∧
      offer' = repointOffer duplicateId targetId offer := by
  obtain ⟨offer, hoffer, heq⟩ :=
    Option.map_eq_some_iff.mp ((Table.lookup_updateAll _ _ _).symm.trans h)
  exact ⟨offer, hoffer, heq.symm⟩

end Repoint

/-! ### Keys -/

/-- Every key in the tables was drawn by one of the first `n` requests. -/
structure Drawn (n : ℕ) (db : SalesDb) : Prop where
  offers : ∀ id offer, db.offers.lookup id = some offer → (Nat.unpair id).1 < n
  contracts : ∀ id contract, db.contracts.lookup id = some contract → (Nat.unpair id).1 < n

/-- What the writes keep. -/
structure Kept (n : ℕ) (g : Grid) : Prop where
  mirrors : Mirrors g
  drawn : Drawn n g.sales

variable {n : ℕ} {db : SalesDb}

theorem Drawn.mono {m : ℕ} (h : Drawn n db) (hle : n ≤ m) : Drawn m db :=
  ⟨fun id offer hoffer => (h.offers id offer hoffer).trans_le hle,
    fun id contract hcontract => (h.contracts id contract hcontract).trans_le hle⟩

theorem Drawn.fresh {k : ℕ} (h : Drawn n db) :
    db.offers.lookup (Nat.pair n k) = none ∧ db.contracts.lookup (Nat.pair n k) = none := by
  constructor
  · rw [Option.eq_none_iff_forall_ne_some]
    intro offer hoffer
    have hlt := h.offers _ offer hoffer
    rw [Nat.unpair_pair] at hlt
    omega
  · rw [Option.eq_none_iff_forall_ne_some]
    intro contract hcontract
    have hlt := h.contracts _ contract hcontract
    rw [Nat.unpair_pair] at hlt
    omega

variable {offerId : Uuid}

variable {contractId : Uuid}

variable {g : Grid} {contract : SalesContract}

section

variable {n : ℕ} {g : Grid}

variable {reads : Reads} {transfer : OwnershipTransfer}

end

/-! ### Requests -/

variable {reads : Reads} {tenantId id : Uuid}

theorem updateContract_keeps {contract' : SalesContract} {data : ContractUpdate}
    (h : updateContract reads contract data = .ok contract') :
    contract.status ≠ .cancelled ∧ contract'.offerId = contract.offerId ∧
      contract'.tenantId = contract.tenantId := by
  obtain ⟨hpending, ⟨buyer, rfl⟩ | ⟨buyer, owner, deal, rfl, hdeal⟩⟩ := updateContract_eq_ok h
  · exact ⟨by rw [hpending]; exact nofun, rfl, rfl⟩
  · exact ⟨by rw [hpending]; exact nofun, rfl, (applyVehicleAndPricingChanges_frame hdeal).2.2.2.1⟩

variable {offer : SalesOffer}

theorem Kept.succ (h : Kept n g) : Kept (n + 1) g :=
  ⟨h.mirrors, h.drawn.mono (Nat.le_succ n)⟩

variable {ifMatch : ℕ}

end Nexotec.GridRuns
