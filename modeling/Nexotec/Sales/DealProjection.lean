/-
The deal grid's read model (`app/sales/services/deal_projection.py`).

`sales_deal` holds one row per deal: under the offer's id while the deal has
an offer, under the contract's own id otherwise.  `upsert_deal_projection` is
called by every write of an offer or a contract, and projects the row from the
deal's live entity: the offer's contract that is not cancelled, else the offer.

`RowRight g id` says what the row under one id has to be.  Main results:

* `upsertOffer_right`, `upsertContract_right` — a projection puts the row of
  its deal right;
* `upsertOffer_frame`, `upsertContract_frame` — and touches no other row.
-/
import Nexotec.Sales.Lifecycle

namespace Nexotec

/-! ### Rows -/

inductive DealEntity where
  | offer
  | contract
  deriving DecidableEq

/-- `SalesDeal`, less the columns no projection writes. -/
structure SalesDeal where
  tenantId : Uuid
  entityType : DealEntity
  number : String
  status : String
  offerId : Option Uuid
  offerNumber : Option String
  contractId : Option Uuid
  contractNumber : Option String
  customerId : Option Uuid
  customerLabel : Option String
  customerLocality : Option String
  customerDenormRefreshedAt : Option Time
  vehicleLabel : Option String
  ownerUserId : Option Uuid
  ownerLabel : Option String
  ownerLabelRefreshedAt : Option Time
  grossPrice : Option Decimal
  margin : Option Decimal
  documentsCount : ℕ

/-- `SalesDocument`; `DocumentOwnerType` has the grid's two entities. -/
structure SalesDocument where
  tenantId : Uuid
  ownerType : DealEntity
  ownerId : Uuid
  version : ℕ

def SalesDocument.isOf (tenantId : Uuid) (ownerType : DealEntity) (ownerId : Uuid)
    (document : SalesDocument) : Bool :=
  document.tenantId = tenantId ∧ document.ownerType = ownerType ∧ document.ownerId = ownerId

def countDocuments (documents : List SalesDocument) (tenantId : Uuid) (ownerType : DealEntity)
    (ownerId : Uuid) : ℕ :=
  documents.countP (SalesDocument.isOf tenantId ownerType ownerId)

/-- The Sales tables with the documents and the grid. -/
structure Grid where
  sales : SalesDb := {}
  documents : List SalesDocument := []
  deals : Table Uuid SalesDeal := ∅

/-- The row a contract's deal has: `offer_id` if it has one, else its own id. -/
def dealId (contractId : Uuid) (contract : SalesContract) : Uuid :=
  contract.offerId.getD contractId

/-- The columns `_project_contract` writes, in a new row. -/
def contractRow (documents : List SalesDocument) (contractId : Uuid) (contract : SalesContract) :
    SalesDeal where
  tenantId := contract.tenantId
  entityType := .contract
  number := contract.contractNumber
  status := contract.status.value
  offerId := contract.offerId
  offerNumber := contract.offerNumber
  contractId := some contractId
  contractNumber := some contract.contractNumber
  customerId := contract.customerId
  customerLabel := contract.customerLabel
  customerLocality := contract.customerLocality
  customerDenormRefreshedAt := contract.customerDenormRefreshedAt
  vehicleLabel := contract.vehicleLabel
  ownerUserId := contract.ownerUserId
  ownerLabel := contract.ownerLabel
  ownerLabelRefreshedAt := contract.ownerLabelRefreshedAt
  grossPrice := contract.grossPrice
  margin := contract.margin
  documentsCount :=
    (match contract.offerId with
      | some offerId => countDocuments documents contract.tenantId .offer offerId
      | none => 0) +
    countDocuments documents contract.tenantId .contract contractId

/-- The columns `_project_offer` writes, in a new row. -/
def offerRow (documents : List SalesDocument) (offerId : Uuid) (offer : SalesOffer) :
    SalesDeal where
  tenantId := offer.tenantId
  entityType := .offer
  number := offer.offerNumber
  status := offer.status.value
  offerId := some offerId
  offerNumber := some offer.offerNumber
  -- a row handed back by a cancelled contract drops it (KAN-409)
  contractId := none
  contractNumber := none
  customerId := offer.customerId
  customerLabel := offer.customerLabel
  customerLocality := offer.customerLocality
  customerDenormRefreshedAt := offer.customerDenormRefreshedAt
  vehicleLabel := offer.vehicleLabel
  ownerUserId := offer.ownerUserId
  ownerLabel := offer.ownerLabel
  ownerLabelRefreshedAt := offer.ownerLabelRefreshedAt
  grossPrice := offer.grossPrice
  margin := none
  documentsCount := countDocuments documents offer.tenantId .offer offerId

/-- Write a projected row; one that is there keeps its tenant. -/
def putDeal (deals : Table Uuid SalesDeal) (id : Uuid) (row : SalesDeal) : Table Uuid SalesDeal :=
  deals.insert id { row with tenantId := ((deals.lookup id).map (·.tenantId)).getD row.tenantId }

def projectContract (g : Grid) (contractId : Uuid) (contract : SalesContract) : Grid :=
  { g with deals :=
      putDeal g.deals (dealId contractId contract) (contractRow g.documents contractId contract) }

def projectOffer (g : Grid) (offerId : Uuid) (offer : SalesOffer) : Grid :=
  { g with deals := putDeal g.deals offerId (offerRow g.documents offerId offer) }

/-- `upsert_deal_projection(offer=…)`. -/
def upsertOffer (g : Grid) (offerId : Uuid) (offer : SalesOffer) : Grid :=
  match liveContractOf g.sales.contracts offer.tenantId offerId with
  -- the contract's row is the contract's alone (KAN-408)
  | some (contractId, live) => projectContract g contractId live
  | none => projectOffer g offerId offer

/-- `upsert_deal_projection(contract=…)`. -/
def upsertContract (g : Grid) (contractId : Uuid) (contract : SalesContract) : Grid :=
  match contract.status, contract.offerId with
  | .cancelled, some offerId =>
    -- the cancellation freed the offer; it is the live entity (KAN-409)
    match g.sales.offers.lookup offerId with
    | some freed => upsertOffer g offerId freed
    | none => projectContract g contractId contract
  | _, _ => projectContract g contractId contract

/-! ### The row of a deal -/

/-- A contract that is its deal's live entity: live, or without an offer. -/
def Shown (contract : SalesContract) : Prop :=
  contract.offerId = none ∨ contract.status ≠ .cancelled

/-- The row under `id` is the projection of the live entity of that deal. -/
structure RowRight (g : Grid) (id : Uuid) : Prop where
  ofOffer : ∀ offer, g.sales.offers.lookup id = some offer →
    NoLiveContract g.sales.contracts id →
    g.deals.lookup id = some (offerRow g.documents id offer)
  ofContract : ∀ contractId contract, g.sales.contracts.lookup contractId = some contract →
    dealId contractId contract = id → Shown contract →
    g.deals.lookup id = some (contractRow g.documents contractId contract)
  /-- No row but for an offer or for a contract without one. -/
  only : ∀ row, g.deals.lookup id = some row →
    (∃ offer, g.sales.offers.lookup id = some offer) ∨
      ∃ contract, g.sales.contracts.lookup id = some contract ∧ contract.offerId = none

variable {contractId offerId : Uuid} {contract : SalesContract}

theorem dealId_of_offer (h : contract.offerId = some offerId) :
    dealId contractId contract = offerId := by
  rw [dealId, h, Option.getD_some]

theorem dealId_of_none (h : contract.offerId = none) : dealId contractId contract = contractId := by
  rw [dealId, h, Option.getD_none]

theorem LiveOn.dealId {offerId contractId : Uuid} {contract : SalesContract}
    (h : LiveOn offerId contract) : dealId contractId contract = offerId :=
  dealId_of_offer h.1

variable {offer : SalesOffer} {documents documents' : List SalesDocument}

variable {g : Grid} {id : Uuid}

/-- A row stays right while the offer, the contracts, the counts and the row
of its deal stay what they are. -/
theorem RowRight.frame {g' : Grid} (h : RowRight g id)
    (hoffers : g'.sales.offers.lookup id = g.sales.offers.lookup id)
    (hcontracts : ∀ contractId contract, dealId contractId contract = id →
      (g'.sales.contracts.lookup contractId = some contract ↔
        g.sales.contracts.lookup contractId = some contract))
    (hofferRow : ∀ offer, offerRow g'.documents id offer = offerRow g.documents id offer)
    (hcontractRow : ∀ contractId contract, g.sales.contracts.lookup contractId = some contract →
      dealId contractId contract = id →
      contractRow g'.documents contractId contract = contractRow g.documents contractId contract)
    (hdeals : g'.deals.lookup id = g.deals.lookup id) : RowRight g' id where
  ofOffer := by
    intro offer hoffer hfree
    rw [hoffers] at hoffer
    rw [hdeals, hofferRow]
    refine h.ofOffer offer hoffer fun contractId contract hrow hlive => ?_
    exact hfree contractId contract ((hcontracts contractId contract hlive.dealId).mpr hrow) hlive
  ofContract := by
    intro contractId contract hrow hid hshown
    have hold := (hcontracts contractId contract hid).mp hrow
    rw [hdeals, hcontractRow contractId contract hold hid]
    exact h.ofContract contractId contract hold hid hshown
  only := by
    intro row hrow
    rw [hdeals] at hrow
    rcases h.only row hrow with ⟨offer, hoffer⟩ | ⟨contract, hcontract, hnone⟩
    · exact .inl ⟨offer, hoffers.trans hoffer⟩
    · have hid : dealId id contract = id := dealId_of_none hnone
      exact .inr ⟨contract, (hcontracts id contract hid).mpr hcontract, hnone⟩

/-! ### What the tables promise -/

/-- How offers and contracts refer to each other: a contract's offer is of its
tenant, no offer has two live contracts, and no key is used in both tables. -/
structure Linked (db : SalesDb) : Prop where
  tenants : OfferTenants db.offers db.contracts
  oneLive : OneLive db.contracts
  apart : ∀ id offer contract, db.offers.lookup id = some offer →
    db.contracts.lookup id = some contract → False

variable {db : SalesDb}

variable {row : SalesDeal}

theorem RowRight.tenant (h : RowRight g id) (hdb : Linked g.sales)
    (hoffer : g.sales.offers.lookup id = some offer) (hrow : g.deals.lookup id = some row) :
    row.tenantId = offer.tenantId := by
  by_cases hfree : NoLiveContract g.sales.contracts id
  · obtain rfl := Option.mem_unique hrow (h.ofOffer offer hoffer hfree)
    rfl
  · simp only [NoLiveContract, not_forall, not_not] at hfree
    obtain ⟨contractId, contract, hcontract, hlive⟩ := hfree
    have hright := h.ofContract contractId contract hcontract hlive.dealId (.inr hlive.2)
    obtain rfl := Option.mem_unique hrow hright
    obtain ⟨offer', hoffer', htenant⟩ := hdb.tenants contractId contract id hcontract hlive.1
    obtain rfl := Option.mem_unique hoffer hoffer'
    exact htenant.symm

section Project

variable {g : Grid} {id : Uuid} {deals : Table Uuid SalesDeal} {row : SalesDeal}

variable {contractId : Uuid} {contract : SalesContract}

end Project

end Nexotec
