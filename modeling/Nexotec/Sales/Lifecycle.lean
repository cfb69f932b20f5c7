/-
How an offer leaves its draft (`app/sales/services/offer.py`): it is finalised
once its required containers are complete, or cancelled; both are refused
while a live contract stands on it (KAN-408).
-/
import Nexotec.Sales.Confirm

namespace Nexotec

/-! ### Containers (`priced_deal.py`, `contract_completeness.py`) -/

/-- A real base price to build from; a build-up over nothing is not one. -/
def hasBasePrice (deal : Deal) : Bool :=
  (deal.vehicleSource = some .manual ∧ deal.manualBasePrice.isSome) ∨
    (deal.vehicleSource = some .stock ∧ (deal.vehicleSnapshot.bind (·.basePrice)).isSome)

inductive Requirement where
  | required
  | optional
  deriving DecidableEq

inductive ContainerStatus where
  | notStarted
  | inProgress
  | complete
  | placeholder
  deriving DecidableEq

/-- `OfferContainerState`. -/
structure OfferContainerState where
  id : String
  requirement : Requirement
  status : ContainerStatus

def completeWhen (done : Bool) : ContainerStatus := if done then .complete else .notStarted

/-- `compute_containers` of an offer. -/
def computeContainers (offer : Deal) : List OfferContainerState :=
  let vehicle := hasVehicle offer
  let pricing : ContainerStatus :=
    if hasBasePrice offer then .complete else if vehicle then .inProgress else .notStarted
  [⟨"customer", .required, completeWhen offer.customerId.isSome⟩,
    ⟨"vehicle", .required, completeWhen vehicle⟩,
    ⟨"pricing", .required, pricing⟩,
    ⟨"trade_in", .optional, completeWhen offer.tradeInVehicleId.isSome⟩,
    ⟨"leasing", .optional, .placeholder⟩]

def missingContainers (offer : Deal) : List String :=
  ((computeContainers offer).filter fun c =>
    c.requirement = .required ∧ c.status ≠ .complete).map (·.id)

/-! ### Finalise and cancel -/

def finalizeOffer (reads : Reads) (contracts : Table Uuid SalesContract) (offerId : Uuid)
    (offer : SalesOffer) : Result SalesOffer :=
  if offer.status = .draft then do
    requireNoLiveContract contracts offerId offer
    if missingContainers offer.toDeal = [] then
      pure { offer with status := .open, updatedBy := reads.actorId, version := offer.version + 1 }
    else
      let missing := ", ".intercalate (missingContainers offer.toDeal)
      .error (conflictError
        s!"Offer {offer.offerNumber} is missing required containers: {missing}."
        [("missingContainers", missing)])
  else .error (conflictError
    s!"Offer {offer.offerNumber} is not a draft (status '{offer.status.value}').")

def cancelOffer (reads : Reads) (contracts : Table Uuid SalesContract) (offerId : Uuid)
    (offer : SalesOffer) (reason : String) : Result SalesOffer :=
  if offer.status = .cancelled then
    .error (conflictError s!"Offer {offer.offerNumber} is already cancelled.")
  else do
    requireNoLiveContract contracts offerId offer
    pure { offer with
      status := .cancelled
      cancelledReason := some reason
      updatedBy := reads.actorId
      version := offer.version + 1 }

/-! ### What the guards say -/

/-- The contract stands on the offer and is not cancelled. -/
def LiveOn (offerId : Uuid) (contract : SalesContract) : Prop :=
  contract.offerId = some offerId ∧ contract.status ≠ .cancelled

def NoLiveContract (contracts : Table Uuid SalesContract) (offerId : Uuid) : Prop :=
  ∀ id contract, contracts.lookup id = some contract → ¬ LiveOn offerId contract

def OneLive (contracts : Table Uuid SalesContract) : Prop :=
  ∀ offerId id id' contract contract', contracts.lookup id = some contract →
    contracts.lookup id' = some contract' → LiveOn offerId contract → LiveOn offerId contract' →
    id = id'

/-- A contract made from an offer is of the offer's tenant. -/
def OfferTenants (offers : Table Uuid SalesOffer) (contracts : Table Uuid SalesContract) : Prop :=
  ∀ id contract offerId, contracts.lookup id = some contract → contract.offerId = some offerId →
    ∃ offer, offers.lookup offerId = some offer ∧ offer.tenantId = contract.tenantId

variable {offers : Table Uuid SalesOffer} {offerId : Uuid} {offer : SalesOffer}

theorem getOfferOr404_tenant {tenantId : Uuid}
    (h : getOfferOr404 offers tenantId offerId = .ok offer) :
    offers.lookup offerId = some offer ∧ offer.tenantId = tenantId := by
  rw [getOfferOr404, orNotFound_eq_ok, Option.filter_eq_some_iff] at h
  exact ⟨h.1, by simpa using h.2⟩

variable {contracts : Table Uuid SalesContract}

theorem liveContractOf_eq_none (hten : OfferTenants offers contracts)
    (hoffer : offers.lookup offerId = some offer)
    (h : liveContractOf contracts offer.tenantId offerId = none) :
    NoLiveContract contracts offerId := by
  rintro id contract hrow ⟨hof, hlive⟩
  obtain ⟨offer', hoffer', htenant⟩ := hten id contract offerId hrow hof
  obtain rfl := Option.mem_unique hoffer hoffer'
  have hfalse := Table.search_eq_none h hrow
  simp [htenant.symm, hof, hlive] at hfalse

theorem requireNoLiveContract_eq_ok {u : Unit} (hten : OfferTenants offers contracts)
    (hoffer : offers.lookup offerId = some offer)
    (h : requireNoLiveContract contracts offerId offer = .ok u) :
    NoLiveContract contracts offerId := by
  unfold requireNoLiveContract at h
  split at h
  · next hnone => exact liveContractOf_eq_none hten hoffer hnone
  · cases h

theorem requireUncontracted_eq_ok {tenantId : Uuid} {u : Unit}
    (hten : OfferTenants offers contracts) (hoffer : offers.lookup offerId = some offer)
    (htenant : offer.tenantId = tenantId)
    (h : requireUncontracted contracts tenantId offerId offer = .ok u) :
    NoLiveContract contracts offerId := by
  unfold requireUncontracted at h
  split at h
  · next hnone =>
    rw [← htenant] at hnone
    exact liveContractOf_eq_none hten hoffer hnone
  · cases h

section

variable {reads : Reads} {offers : Table Uuid SalesOffer} {contracts : Table Uuid SalesContract}
  {offerId : Uuid} {offer offer' : SalesOffer}

theorem finalizeOffer_eq_ok (hten : OfferTenants offers contracts)
    (hoffer : offers.lookup offerId = some offer)
    (h : finalizeOffer reads contracts offerId offer = .ok offer') :
    NoLiveContract contracts offerId ∧ offer' = { offer with
      status := .open, updatedBy := reads.actorId, version := offer.version + 1 } := by
  unfold finalizeOffer at h
  split at h
  · obtain ⟨u, hu, h⟩ := Result.of_bind h
    split at h
    · exact ⟨requireNoLiveContract_eq_ok hten hoffer hu, (Except.ok.inj h).symm⟩
    · cases h
  · cases h

theorem cancelOffer_eq_ok {reason : String} (hten : OfferTenants offers contracts)
    (hoffer : offers.lookup offerId = some offer)
    (h : cancelOffer reads contracts offerId offer reason = .ok offer') :
    NoLiveContract contracts offerId ∧ offer' = { offer with
      status := .cancelled, cancelledReason := some reason, updatedBy := reads.actorId,
      version := offer.version + 1 } := by
  unfold cancelOffer at h
  split at h
  · cases h
  · obtain ⟨u, hu, h⟩ := Result.of_bind h
    exact ⟨requireNoLiveContract_eq_ok hten hoffer hu, (Except.ok.inj h).symm⟩

theorem updateOffer_noLive {data : OfferUpdate} (hten : OfferTenants offers contracts)
    (hoffer : offers.lookup offerId = some offer)
    (h : updateOffer reads contracts offerId offer data = .ok offer') :
    NoLiveContract contracts offerId ∧ offer'.tenantId = offer.tenantId ∧
      offer'.status = offer.status := by
  obtain ⟨u, hu, hrest⟩ := Result.of_bind h
  have hlive : NoLiveContract contracts offerId := by
    unfold requireEditableOffer at hu
    split at hu
    · exact requireNoLiveContract_eq_ok hten hoffer hu
    · cases hu
  obtain ⟨parties, -, hrest⟩ := Result.of_bind hrest
  obtain ⟨deal, -, hrest⟩ := Result.of_bind hrest
  cases hrest
  obtain ⟨buyer, owner, hdeal⟩ := updateOffer_eq_ok h
  exact ⟨hlive, (applyVehicleAndPricingChanges_frame hdeal).2.2.2.1, rfl⟩

end

end Nexotec
