/-
Offers and contracts as records: how they are created, copied and edited
(`app/sales/services/offer.py`, `contract.py`, `priced_deal.py`,
`contract_completeness.py`, `ownership.py`).

An offer may be edited while it is a draft without a live contract, a
contract while it is pending.  Both run the same edit code; what differs is
`require_editable`, the columns a new row starts from, and the one PATCH a
contract priced without inputs still takes (`givesABuyerOnly`).

Every operation comes with the lemma that says what a successful call wrote:
`createContract_eq_ok`, `updateOffer_eq_ok`, `updateContract_eq_ok` and
`copyOffer_eq_ok`.
-/
import Nexotec.Sales.TradeIn

namespace Nexotec

/-! ### Completeness (`contract_completeness.py`) -/

def hasVehicle (deal : Deal) : Bool :=
  deal.vehicleSource.isSome && (deal.stockItemId.isSome || deal.vehicleLabel.isSome)

/-- A contract that carries figures but none of the inputs they were built from. -/
def isPricedWithoutInputs (contract : Deal) : Bool :=
  contract.vehicleSnapshot.isNone && contract.grossPrice.isSome

def hasPrice (contract : Deal) : Bool := contract.grossPrice.isSome

/-- `require_complete`; the vehicle is named before the price. -/
def requireComplete (contract : SalesContract) (action : String) : Result Unit :=
  if hasVehicle contract.toDeal = false then
    .error (conflictError
      s!"Contract {contract.contractNumber} has no vehicle — cannot be {action}."
      [("reason", "missing_vehicle")])
  else if hasPrice contract.toDeal = false then
    .error (conflictError s!"Contract {contract.contractNumber} has no price — cannot be {action}."
      [("reason", "missing_price")])
  else .ok ()

/-! ### Who may edit (`priced_deal.py`) -/

/-- The tables Sales reads and writes in one transaction. -/
structure SalesDb where
  offers : Table Uuid SalesOffer := ∅
  contracts : Table Uuid SalesContract := ∅
  valuations : Table Uuid Valuation := ∅

def requirePending (contract : SalesContract) : Result Unit :=
  if contract.status = .pending then .ok ()
  else .error (conflictError
    s!"Contract {contract.contractNumber} can no longer be edited (status '{contract.status.value}')."
    [("reason", "contract_not_pending"), ("status", contract.status.value)])

/-- `require_editable` of a contract. -/
def requireEditableContract (contract : SalesContract) : Result Unit := do
  requirePending contract
  if isPricedWithoutInputs contract.toDeal then
    .error (conflictError
      s!"Contract {contract.contractNumber} was priced before contracts kept their pricing inputs and cannot be edited. Confirm it as it stands, or cancel it and create a new one."
      [("reason", "contract_priced_without_inputs")])
  else .ok ()

/-- `live_contract_of`: the offer's contract that is not cancelled. -/
def liveContractOf (contracts : Table Uuid SalesContract) (tenantId offerId : Uuid) :
    Option (Uuid × SalesContract) :=
  contracts.search fun _ contract =>
    contract.tenantId = tenantId ∧ contract.offerId = some offerId ∧ contract.status ≠ .cancelled

def requireNoLiveContract (contracts : Table Uuid SalesContract) (offerId : Uuid)
    (offer : SalesOffer) : Result Unit :=
  match liveContractOf contracts offer.tenantId offerId with
  | none => .ok ()
  | some (contractId, live) => .error (conflictError
      s!"Offer {offer.offerNumber} has contract {live.contractNumber} — edit the contract."
      [("reason", "offer_has_contract"), ("contractId", toString contractId),
        ("contractNumber", live.contractNumber)])

/-- `require_editable` of an offer. -/
def requireEditableOffer (contracts : Table Uuid SalesContract) (offerId : Uuid)
    (offer : SalesOffer) : Result Unit :=
  if offer.status = .draft then requireNoLiveContract contracts offerId offer
  else .error (conflictError
    s!"Offer {offer.offerNumber} can no longer be edited (status '{offer.status.value}').")

/-! ### Buyer and seller -/

def resolveCustomerLabel (customer : Customer) : String :=
  if orText customer.companyName "" ≠ "" then orText customer.companyName ""
  else
    let parts := [orText customer.firstName "", orText customer.lastName ""].filter (· ≠ "")
    let name := " ".intercalate parts
    if name ≠ "" then name else customer.customerNumber

/-- The do-not-contact refusal of `apply_customer_change` and `create_contract`. -/
def requireContactable (customer : Customer) (host : String) : Result Unit :=
  if customer.lifecycleStatus = .doNotContact then
    .error (conflictError
      s!"Customer {customer.customerNumber} is do-not-contact — cannot be attached to {host}.")
  else .ok ()

/-- `apply_customer_change`; the locality stays what it was. -/
def applyCustomerChange (reads : Reads) (deal : Deal) (customerId : Option Uuid)
    (host : String) : Result Deal :=
  match customerId with
  | none => pure { deal with
      customerId := none
      customerLabel := none
      customerLanguage := none
      customerDenormRefreshedAt := none }
  | some customerId => do
    let customer ← getCustomerOr404 reads customerId
    requireContactable customer host
    pure { deal with
      customerId := some customerId
      customerLabel := some (resolveCustomerLabel customer)
      customerLanguage := some customer.language
      customerDenormRefreshedAt := some reads.now }

/-- `default_owner`: the creator, when they act in the dealership. -/
def defaultOwner (reads : Reads) (tenantId : Uuid) : Owner :=
  match reads.actorId.bind (reads.sellerLabel tenantId) with
  | none => {}
  | some label =>
    { ownerUserId := reads.actorId, ownerLabel := some label, ownerLabelRefreshedAt := some reads.now }

def inheritedOwner (reads : Reads) (tenantId : Uuid) (offer : Deal) : Owner :=
  if (offer.ownerUserId.bind (reads.sellerLabel tenantId)).isSome then offer.toOwner
  else defaultOwner reads tenantId

def resolveOwnerChange (reads : Reads) (tenantId : Uuid) (ownerUserId : Option Uuid) :
    Result Owner :=
  match ownerUserId with
  | none => pure {}
  | some userId =>
    match reads.sellerLabel tenantId userId with
    | some label => pure
        { ownerUserId := some userId, ownerLabel := some label, ownerLabelRefreshedAt := some reads.now }
    | none => .error (unprocessableEntityError
        "ownerUserId is not an active user of your dealership."
        [("ownerUserId", toString userId)])

/-- `if "customer_id" in changes`. -/
def changeBuyer (reads : Reads) (deal : Deal) (customerId : Option (Option Uuid))
    (host : String) : Result Deal :=
  match customerId with
  | some customerId => applyCustomerChange reads deal customerId host
  | none => pure deal

/-- `if "owner_user_id" in changes`. -/
def changeOwner (reads : Reads) (deal : Deal) (ownerUserId : Option (Option Uuid)) : Result Deal :=
  match ownerUserId with
  | some ownerUserId => do
    let owner ← resolveOwnerChange reads deal.tenantId ownerUserId
    pure { deal with toOwner := owner }
  | none => pure deal

/-- The head of `update_offer` and `update_contract`: the buyer and the
seller, when the request names them. -/
def changeParties (reads : Reads) (deal : Deal) (customerId ownerUserId : Option (Option Uuid))
    (host : String) : Result Deal := do
  let deal ← changeBuyer reads deal customerId host
  changeOwner reads deal ownerUserId

/-! ### Offers (`offer.py`) -/

def getOfferOr404 (offers : Table Uuid SalesOffer) (tenantId offerId : Uuid) : Result SalesOffer :=
  orNotFound ((offers.lookup offerId).filter (·.tenantId = tenantId))
    s!"Offer {offerId} was not found."

def createOffer (reads : Reads) (tenantId : Uuid) : SalesOffer where
  tenantId := tenantId
  toOwner := defaultOwner reads tenantId
  offerNumber := reads.number
  createdBy := reads.actorId
  updatedBy := reads.actorId

def updateOffer (reads : Reads) (contracts : Table Uuid SalesContract) (offerId : Uuid)
    (offer : SalesOffer) (data : OfferUpdate) : Result SalesOffer := do
  requireEditableOffer contracts offerId offer
  let deal ← changeParties reads offer.toDeal data.customerId data.ownerUserId "an offer"
  let deal ← applyVehicleAndPricingChanges reads deal data.toDealChanges "offer workspace"
  pure { offer with
    toDeal := deal
    leasingDownPayment := data.leasingDownPayment.getD offer.leasingDownPayment
    leasingTermMonths := data.leasingTermMonths.getD offer.leasingTermMonths
    leasingKmPerYear := data.leasingKmPerYear.getD offer.leasingKmPerYear }

/-- The columns `copy_offer` takes over: no lines, no snapshot, no figures. -/
def copiedDeal (reads : Reads) (source : Deal) : Deal where
  toBuyer := source.toBuyer
  toOwner := defaultOwner reads source.tenantId
  -- the copy freezes its own snapshot, at today's prices
  toVehicle := { source.toVehicle with vehicleSnapshot := none, vehicleSnapshotFrozenAt := none }
  manualBasePrice := source.manualBasePrice
  discountType := source.discountType
  discountValue := source.discountValue
  toTradeIn := source.toTradeIn
  tenantId := source.tenantId
  updatedBy := reads.actorId

def copyOffer (reads : Reads) (sourceId : Uuid) (source : SalesOffer) : Result SalesOffer := do
  let deal ← repriceDeal reads (copiedDeal reads source.toDeal)
  pure {
    toDeal := deal
    offerNumber := reads.number
    leasingDownPayment := source.leasingDownPayment
    leasingTermMonths := source.leasingTermMonths
    leasingKmPerYear := source.leasingKmPerYear
    copiedFromOfferId := some sourceId
    createdBy := reads.actorId }

/-! ### Contracts (`contract.py`) -/

def getContractOr404 (contracts : Table Uuid SalesContract) (tenantId contractId : Uuid) :
    Result SalesContract :=
  orNotFound ((contracts.lookup contractId).filter (·.tenantId = tenantId))
    s!"Contract {contractId} was not found."

/-- `_copy_line_items`: the offer's lines as new rows of the contract. -/
def copyLineItems (reads : Reads) (lines : List LineItem) : List LineItem :=
  lines.zipIdx.map fun (li, k) => { li with id := reads.uuid k }

/-- The row `create_contract` builds from an offer. -/
def contractFromOffer (reads : Reads) (tenantId offerId : Uuid) (offer : SalesOffer) :
    SalesContract where
  toBuyer := offer.toBuyer
  toOwner := inheritedOwner reads tenantId offer.toDeal
  toVehicle := offer.toVehicle
  manualBasePrice := offer.manualBasePrice
  discountType := offer.discountType
  discountValue := offer.discountValue
  lines := copyLineItems reads offer.lines
  -- the offer's figures and the inputs they were built from, without a new build-up
  toFigures := offer.toFigures
  toTradeIn := offer.toTradeIn
  tenantId := tenantId
  updatedBy := reads.actorId
  contractNumber := reads.number
  offerId := some offerId
  offerNumber := some offer.offerNumber
  financing := some (if offer.leasingTermMonths.isSome then .leasing else .cash)
  createdBy := reads.actorId

/-- The row `create_contract` builds for a buyer, or for nobody yet. -/
def directContract (reads : Reads) (tenantId : Uuid) (buyer : Buyer) : SalesContract where
  toBuyer := buyer
  toOwner := defaultOwner reads tenantId
  tenantId := tenantId
  updatedBy := reads.actorId
  contractNumber := reads.number
  financing := some .cash
  createdBy := reads.actorId

/-- The refusal of a second live contract of one offer (KAN-147). -/
def requireUncontracted (contracts : Table Uuid SalesContract) (tenantId offerId : Uuid)
    (offer : SalesOffer) : Result Unit :=
  match liveContractOf contracts tenantId offerId with
  | none => .ok ()
  | some (_, live) => .error (conflictError
      s!"Offer {offer.offerNumber} already has contract {live.contractNumber}; only a cancelled contract frees an offer."
      [("reason", "offer_already_contracted"), ("contractNumber", live.contractNumber)])

/-- `POST /sales/contracts`: the route reads the offer, then `create_contract`. -/
def createContract (reads : Reads) (db : SalesDb) (tenantId : Uuid) (data : ContractCreate) :
    Result SalesContract :=
  match data with
  | .offer offerId => do
    let offer ← getOfferOr404 db.offers tenantId offerId
    requireUncontracted db.contracts tenantId offerId offer
    pure (contractFromOffer reads tenantId offerId offer)
  | .customer customerId => do
    let customer ← getCustomerOr404 reads customerId
    requireContactable customer "a contract"
    pure (directContract reads tenantId
      { customerId := some customerId
        customerLabel := some (resolveCustomerLabel customer)
        customerDenormRefreshedAt := some reads.now
        customerLanguage := some customer.language })
  | .stockItem stockItemId vehicleLabel => do
    let contract := directContract reads tenantId {}
    let deal ← applyVehicleAndPricingChanges reads contract.toDeal
      { vehicleSource := some (some .stock)
        stockItemId := some (some stockItemId)
        vehicleLabel := some vehicleLabel } "contract"
    pure { contract with toDeal := deal }

/-- The vehicle and pricing keys are all absent from the request. -/
def DealChanges.isEmpty (changes : DealChanges) : Bool :=
  changes.vehicleSource.isNone && changes.stockItemId.isNone && changes.vehicleLabel.isNone &&
  changes.manualVehicleCondition.isNone && changes.manualBasePrice.isNone &&
  changes.configurationId.isNone && changes.discountType.isNone && changes.discountValue.isNone

def givesABuyerOnly (contract : SalesContract) (data : ContractUpdateBody) : Bool :=
  isPricedWithoutInputs contract.toDeal && contract.customerId.isNone &&
  data.customerId.join.isSome && data.ownerUserId.isNone && data.toDealChanges.isEmpty

def updateContract (reads : Reads) (contract : SalesContract) (data : ContractUpdate) :
    Result SalesContract :=
  if givesABuyerOnly contract data.1 then do
    requirePending contract
    let deal ← applyCustomerChange reads contract.toDeal data.1.customerId.join "a contract"
    pure { contract with
      toDeal := { deal with updatedBy := reads.actorId, version := deal.version + 1 } }
  else do
    requireEditableContract contract
    let deal ← changeParties reads contract.toDeal data.1.customerId data.1.ownerUserId "a contract"
    let deal ← applyVehicleAndPricingChanges reads deal data.1.toDealChanges "contract"
    pure { contract with toDeal := deal }

/-! ### What the operations write -/

variable {contract : SalesContract}

theorem requireEditableContract_eq_ok {u : Unit} (h : requireEditableContract contract = .ok u) :
    contract.status = .pending := by
  obtain ⟨v, hv, -⟩ := Result.of_bind h
  unfold requirePending at hv
  split at hv
  · assumption
  · cases hv

variable {reads : Reads}

theorem applyCustomerChange_eq_ok {deal deal' : Deal} {customerId : Option Uuid} {host : String}
    (h : applyCustomerChange reads deal customerId host = .ok deal') :
    ∃ buyer, deal' = { deal with toBuyer := buyer } := by
  cases customerId with
  | none =>
    cases h
    exact ⟨_, rfl⟩
  | some customerId =>
    obtain ⟨customer, -, h⟩ := Result.of_bind h
    obtain ⟨-, -, h⟩ := Result.of_bind h
    cases h
    exact ⟨_, rfl⟩

theorem changeParties_eq_ok {deal deal' : Deal} {customerId ownerUserId : Option (Option Uuid)}
    {host : String} (h : changeParties reads deal customerId ownerUserId host = .ok deal') :
    ∃ buyer owner, deal' = { deal with toBuyer := buyer, toOwner := owner } := by
  obtain ⟨d, hd, h⟩ := Result.of_bind h
  have hbuyer : ∃ buyer, d = { deal with toBuyer := buyer } := by
    cases customerId with
    | none => exact ⟨deal.toBuyer, by cases hd; rfl⟩
    | some customerId => exact applyCustomerChange_eq_ok hd
  obtain ⟨buyer, rfl⟩ := hbuyer
  cases ownerUserId with
  | none =>
    cases h
    exact ⟨buyer, deal.toOwner, rfl⟩
  | some ownerUserId =>
    obtain ⟨owner, -, h⟩ := Result.of_bind h
    cases h
    exact ⟨buyer, owner, rfl⟩

variable {offer : SalesOffer}

theorem updateOffer_eq_ok {contracts : Table Uuid SalesContract} {offerId : Uuid}
    {offer' : SalesOffer} {data : OfferUpdate}
    (h : updateOffer reads contracts offerId offer data = .ok offer') :
    ∃ buyer owner, applyVehicleAndPricingChanges reads
        { offer.toDeal with toBuyer := buyer, toOwner := owner } data.toDealChanges
        "offer workspace" = .ok offer'.toDeal := by
  obtain ⟨-, -, h⟩ := Result.of_bind h
  obtain ⟨parties, hparties, h⟩ := Result.of_bind h
  obtain ⟨deal, hdeal, h⟩ := Result.of_bind h
  cases h
  obtain ⟨buyer, owner, rfl⟩ := changeParties_eq_ok hparties
  exact ⟨buyer, owner, hdeal⟩

/-- An accepted PATCH of a contract either sets its buyer alone or runs the
edit code on an editable contract. -/
theorem updateContract_eq_ok {contract' : SalesContract} {data : ContractUpdate}
    (h : updateContract reads contract data = .ok contract') :
    contract.status = .pending ∧
    ((∃ buyer, contract' = { contract with toDeal := { contract.toDeal with
        toBuyer := buyer, updatedBy := reads.actorId, version := contract.version + 1 } }) ∨
      ∃ buyer owner deal, contract' = { contract with toDeal := deal } ∧
        applyVehicleAndPricingChanges reads
          { contract.toDeal with toBuyer := buyer, toOwner := owner } data.1.toDealChanges
          "contract" = .ok deal) := by
  have hpending : ∀ u, requirePending contract = .ok u → contract.status = .pending := by
    intro u hu
    unfold requirePending at hu
    split at hu
    · assumption
    · cases hu
  unfold updateContract at h
  split at h
  · obtain ⟨u, hu, h⟩ := Result.of_bind h
    obtain ⟨deal, hdeal, h⟩ := Result.of_bind h
    obtain ⟨buyer, rfl⟩ := applyCustomerChange_eq_ok hdeal
    cases h
    exact ⟨hpending u hu, .inl ⟨buyer, rfl⟩⟩
  · obtain ⟨u, hu, h⟩ := Result.of_bind h
    obtain ⟨v, hv, -⟩ := Result.of_bind hu
    obtain ⟨parties, hparties, h⟩ := Result.of_bind h
    obtain ⟨deal, hdeal, h⟩ := Result.of_bind h
    cases h
    obtain ⟨buyer, owner, rfl⟩ := changeParties_eq_ok hparties
    exact ⟨hpending v hv, .inr ⟨buyer, owner, deal, rfl, hdeal⟩⟩

theorem copyOffer_eq_ok {sourceId : Uuid} {source : SalesOffer}
    (h : copyOffer reads sourceId source = .ok offer) :
    repriceDeal reads (copiedDeal reads source.toDeal) = .ok offer.toDeal := by
  obtain ⟨deal, hdeal, h⟩ := Result.of_bind h
  cases h
  exact hdeal

/-- A new contract is a copy of an offer, an empty row, or a row for one
stock car that went through the edit code. -/
theorem createContract_eq_ok {db : SalesDb} {tenantId : Uuid} {data : ContractCreate}
    (h : createContract reads db tenantId data = .ok contract) :
    (∃ offerId offer, data = .offer offerId ∧ db.offers.lookup offerId = some offer ∧
      contract = contractFromOffer reads tenantId offerId offer) ∨
    (∃ buyer, contract = directContract reads tenantId buyer) ∨
    (∃ deal stockItemId vehicleLabel,
      contract = { directContract reads tenantId {} with toDeal := deal } ∧
      applyVehicleAndPricingChanges reads (directContract reads tenantId {}).toDeal
        { vehicleSource := some (some .stock)
          stockItemId := some (some stockItemId)
          vehicleLabel := some vehicleLabel } "contract" = .ok deal) := by
  cases data with
  | offer offerId =>
    obtain ⟨offer, hoffer, h⟩ := Result.of_bind h
    obtain ⟨-, -, h⟩ := Result.of_bind h
    cases h
    rw [getOfferOr404, orNotFound_eq_ok, Option.filter_eq_some_iff] at hoffer
    exact .inl ⟨offerId, offer, rfl, hoffer.1, rfl⟩
  | customer customerId =>
    obtain ⟨customer, -, h⟩ := Result.of_bind h
    obtain ⟨-, -, h⟩ := Result.of_bind h
    cases h
    exact .inr (.inl ⟨_, rfl⟩)
  | stockItem stockItemId vehicleLabel =>
    obtain ⟨deal, hdeal, h⟩ := Result.of_bind h
    cases h
    exact .inr (.inr ⟨deal, stockItemId, vehicleLabel, rfl, hdeal⟩)

theorem lineTotal_copyLineItems (reads : Reads) (lines : List LineItem) (kind : LineItemKind) :
    lineTotal (copyLineItems reads lines) kind = lineTotal lines kind := by
  have hfilter : ∀ (rows : List (LineItem × ℕ)),
      ((rows.map fun r => { r.1 with id := reads.uuid r.2 : LineItem }).filter fun li =>
        li.kind = kind ∧ li.included = true).map (fun li =>
          li.unitPrice * (li.quantity : Decimal) - li.discountResolvedAmount.getD 0) =
      ((rows.map Prod.fst).filter fun li => li.kind = kind ∧ li.included = true).map fun li =>
          li.unitPrice * (li.quantity : Decimal) - li.discountResolvedAmount.getD 0 := by
    intro rows
    induction rows with
    | nil => rfl
    | cons r rows ih =>
      simp only [List.map_cons, List.filter_cons]
      split
      · rw [List.map_cons, List.map_cons, ih]
      · exact ih
  have hfst : lines.zipIdx.map Prod.fst = lines := by simp
  unfold lineTotal copyLineItems
  rw [hfilter, hfst]

theorem contractFromOffer_coherent {tenantId offerId : Uuid} (h : PriceCoherent offer.toDeal) :
    PriceCoherent (contractFromOffer reads tenantId offerId offer).toDeal := by
  have hb : buildUp (contractFromOffer reads tenantId offerId offer).toDeal
      = buildUp offer.toDeal := by
    simp only [buildUp, contractFromOffer, lineTotal_copyLineItems]
    rfl
  intro grossPrice hg
  rw [hb]
  exact h grossPrice hg

end Nexotec
