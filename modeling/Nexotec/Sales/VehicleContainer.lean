/-
The vehicle container of a deal: a stock car, a configured car, or a typed one.

`_attach_configuration` empties the stock item of a deal it gives a
configuration to, and `vehicle_source = "stock"` empties the configuration.
Any other mix of `vehicle_source`, `stock_item_id` and `configuration_id` in a
PATCH is set column by column.  After the signature Stock orders a manual car
as a pipeline item, and `link_manual_configuration_to_pipeline_item`
(`app/sales/services/pipeline_link.py`) records that item on the contract.
Sales' purchase replica decides by it whether the contract may be invoiced.
-/
import Nexotec.Inventory.Pipeline
import Nexotec.Sales.DealRuns

namespace Nexotec.VehicleContainer

/-! ### The pipeline link -/

/-- `link_manual_configuration_to_pipeline_item`, on the row with the
contract's id; the row of another tenant is not found. -/
def linkedRow (tenantId stockItemId : Uuid) (stockItemLabel : Option String) (refreshedAt : Time)
    (contract : SalesContract) : SalesContract :=
  if contract.tenantId ≠ tenantId ∨ contract.vehicleSource ≠ some .manual then contract
  else if contract.stockItemId ≠ none ∧ contract.stockItemId ≠ some stockItemId then contract
  else if contract.stockItemId = some stockItemId ∧ contract.stockItemLabel = stockItemLabel then
    contract
  else
    { contract with
      stockItemId := some stockItemId
      stockItemLabel := stockItemLabel
      stockItemDenormRefreshedAt := some refreshedAt
      version := contract.version + 1 }

def linkManualConfigurationToPipelineItem (contracts : Table Uuid SalesContract)
    (tenantId contractId stockItemId : Uuid) (stockItemLabel : Option String)
    (refreshedAt : Time) : Table Uuid SalesContract :=
  contracts.modify contractId (linkedRow tenantId stockItemId stockItemLabel refreshedAt)

/-- `SalesContract.is_invoiceable`: the replica has the purchase of the
contract's stock item. -/
def isInvoiceable (purchases : List (Uuid × Uuid)) (contract : Deal) : Bool :=
  contract.stockItemId.any fun stockItemId => (contract.tenantId, stockItemId) ∈ purchases

/-! ### Runs -/

/-- Sales with its purchase replica, Stock, and the confirmed events Sales
has published, each with its tenant. -/
structure State where
  sales : SalesDb := {}
  purchases : List (Uuid × Uuid) := []
  stock : StockDb := {}
  confirmed : List (Uuid × ConfirmedPayload) := []

/-- A request to Sales, a confirmation, a delivery to Stock or to Sales, or
what Stock does on its own. -/
inductive Action where
  | request (reads : Reads) (request : Request)
  /-- `confirm_contract`, with the reservation Stock has made for it. -/
  | confirm (reads : Reads) (tenantId contractId : Uuid) (ifMatch : ℕ)
      (reservationId : Option Uuid)
  /-- A worker delivers the `n`-th confirmed event to Stock. -/
  | deliverConfirmed (reads : ConsumerReads) (n : ℕ)
  /-- A worker delivers `inventory.stock_item.added` of an item to Sales. -/
  | deliverAdded (stockItemId : Uuid) (refreshedAt : Time)
  /-- A car is added to Stock directly. -/
  | addStockItem (stockItemId : Uuid) (item : StockItem)
  /-- `inventory.stock_item.purchased` reaches Sales. -/
  | purchased (tenantId stockItemId : Uuid)

def confirmContract (reads : Reads) (s : State) (tenantId contractId : Uuid) (ifMatch : ℕ)
    (reservationId : Option Uuid) : Result State := do
  let contract ← getContractOr404 s.sales.contracts tenantId contractId
  checkVersion contract.version ifMatch "SalesContract"
  requireConfirmable reads contract
  let confirmed := confirmedRow reads reservationId contract
  pure { s with
    sales := { s.sales with contracts := s.sales.contracts.insert contractId confirmed }
    confirmed := s.confirmed ++ [(tenantId, confirmedEventPayload contractId confirmed.toDeal)] }

/-- `handle_stock_item_added_message`: an item ordered for a manual
configuration names its contract, every other item is ignored. -/
def stockItemAdded (s : State) (stockItemId : Uuid) (refreshedAt : Time) : State :=
  match s.stock.items.lookup stockItemId with
  | none => s
  | some item =>
    match item.pipelineRef with
    | some ⟨contractId, .manual⟩ =>
      { s with
        sales := { s.sales with
          contracts := linkManualConfigurationToPipelineItem s.sales.contracts item.tenantId
            contractId stockItemId (some item.stockNumber) refreshedAt } }
    | _ => s

def act (s : State) : Action → Result State
  | .request reads request => do
    let sales ← handle reads s.sales request
    pure { s with sales := sales }
  | .confirm reads tenantId contractId ifMatch reservationId =>
    confirmContract reads s tenantId contractId ifMatch reservationId
  | .deliverConfirmed reads n =>
    match s.confirmed[n]? with
    | none => pure s
    | some (tenantId, payload) => do
      let stock ← handleSalesContractConfirmed reads s.stock tenantId payload
      pure { s with stock := stock }
  | .deliverAdded stockItemId refreshedAt => pure (stockItemAdded s stockItemId refreshedAt)
  | .addStockItem stockItemId item => do
    let items ← insertRow s.stock.items stockItemId { item with pipelineRef := none }
    pure { s with stock := { s.stock with items := items } }
  | .purchased tenantId stockItemId =>
    pure { s with purchases := (tenantId, stockItemId) :: s.purchases }

def advance (s : State) (a : Action) : State :=
  match act s a with
  | .ok s' => s'
  | .error _ => s

def opening (valuations : Table Uuid Valuation) : State := { sales := noDeals valuations }

/-! ### Coherence -/

/-- Stock ordered the item for the manual configuration of this contract. -/
def OrderedItem (stock : StockDb) (contractId stockItemId : Uuid) : Prop :=
  ∃ item, stock.items.lookup stockItemId = some item ∧
    item.pipelineRef = some ⟨contractId, .manual⟩

/-- An offer with a configuration is manual and names no stock item. -/
def OfferCoherent (deal : Deal) : Prop :=
  deal.configurationId ≠ none → deal.vehicleSource = some .manual ∧ deal.stockItemId = none

/-- A contract with a configuration is manual; a manual one names no stock
item, or the one ordered for it, and only that one's purchase makes it
invoiceable. -/
def ContractCoherent (s : State) (contractId : Uuid) (contract : Deal) : Prop :=
  (contract.configurationId ≠ none → contract.vehicleSource = some .manual ∧
    (contract.stockItemId = none ∨
      ∃ i, contract.stockItemId = some i ∧ OrderedItem s.stock contractId i)) ∧
  (contract.vehicleSource = some .manual →
    (contract.stockItemId = none ∨
      ∃ i, contract.stockItemId = some i ∧ OrderedItem s.stock contractId i) ∧
    (isInvoiceable s.purchases contract = true →
      ∃ i, contract.stockItemId = some i ∧ OrderedItem s.stock contractId i ∧
        (contract.tenantId, i) ∈ s.purchases))

/-- Every offer and every pending or confirmed contract is coherent; a pending
one has no item yet. -/
def ContainersCoherent (s : State) : Prop :=
  (∀ id offer, s.sales.offers.lookup id = some offer → OfferCoherent offer.toDeal) ∧
  ∀ id contract, s.sales.contracts.lookup id = some contract →
    contract.status = .pending ∨ contract.status = .confirmed →
    ContractCoherent s id contract.toDeal ∧
      (contract.status = .pending → contract.vehicleSource = some .manual →
        contract.stockItemId = none)

/-! ### What a PATCH leaves in the container -/

/-- `vehicle_source` as the PATCH leaves it, when it attaches no configuration. -/
def sourceAfter (deal : Deal) (changes : DealChanges) : Option VehicleSource :=
  changes.vehicleSource.getD deal.vehicleSource

/-- `stock_item_id` as the PATCH leaves it, when it attaches no configuration. -/
def itemAfter (deal : Deal) (changes : DealChanges) : Option Uuid :=
  changes.stockItemId.getD deal.stockItemId

/-- The PATCH leaves a configured deal manual and without a stock item, or
takes its configuration away. -/
def ConfigurationFits (deal : Deal) (changes : DealChanges) : Prop :=
  deal.configurationId = none ∨ changes.configurationId = some none ∨
    changes.vehicleSource = some (some .stock) ∨
    (sourceAfter deal changes = some .manual ∧ itemAfter deal changes = none)

/-- A PATCH that leaves the deal manual leaves no stock item. -/
def ItemFits (deal : Deal) (changes : DealChanges) : Prop :=
  sourceAfter deal changes = some .manual → itemAfter deal changes = none

def OfferPatchFits (deal : Deal) (changes : DealChanges) : Prop :=
  changes.configurationId.join ≠ none ∨ ConfigurationFits deal changes

def ContractPatchFits (deal : Deal) (changes : DealChanges) : Prop :=
  changes.configurationId.join ≠ none ∨
    (ConfigurationFits deal changes ∧ ItemFits deal changes)

/-- Every PATCH fits the row it is made on, and no contract is made from a
manual offer that still names a stock item. -/
def KeepsContainers (s : State) : Action → Prop
  | .request _ (.updateOffer _ offerId _ data) =>
    ∀ offer ∈ s.sales.offers.lookup offerId, OfferPatchFits offer.toDeal data.toDealChanges
  | .request _ (.updateContract _ contractId _ data) =>
    ∀ contract ∈ s.sales.contracts.lookup contractId,
      ContractPatchFits contract.toDeal data.1.toDealChanges
  | .request _ (.createContract _ (.offer offerId)) =>
    ∀ offer ∈ s.sales.offers.lookup offerId,
      offer.vehicleSource = some .manual → offer.stockItemId = none
  | _ => True

variable {reads : Reads} {deal deal' : Deal}

theorem repriceDeal_container (h : repriceDeal reads deal = .ok deal') :
    deal'.vehicleSource = deal.vehicleSource ∧ deal'.stockItemId = deal.stockItemId ∧
      deal'.configurationId = deal.configurationId := by
  obtain ⟨frozen, flag, hf, rfl⟩ := repriceDeal_eq_ok h
  rcases freezeVehicleSnapshot_cases hf with ⟨rfl, -⟩ | ⟨lines, snapshot, rfl⟩
  · split
    · exact ⟨rfl, rfl, rfl⟩
    · exact ⟨rfl, rfl, rfl⟩
  · split
    · exact ⟨rfl, rfl, rfl⟩
    · exact ⟨rfl, rfl, rfl⟩

/-- The edit attaches a configuration and empties the stock item, or leaves
the requested columns; the configuration then goes with a `null` or a stock
car and stays otherwise. -/
theorem edit_container {changes : DealChanges} {host : String}
    (h : applyVehicleAndPricingChanges reads deal changes host = .ok deal') :
    (changes.configurationId.join ≠ none ∧ deal'.vehicleSource = some .manual ∧
      deal'.stockItemId = none) ∨
    (changes.configurationId.join = none ∧ deal'.vehicleSource = sourceAfter deal changes ∧
      deal'.stockItemId = itemAfter deal changes ∧
      (deal'.configurationId ≠ none → deal.configurationId ≠ none ∧
        changes.configurationId ≠ some none ∧ changes.vehicleSource ≠ some (some .stock))) := by
  obtain ⟨patched, hp, hr⟩ := applyVehicleAndPricingChanges_eq_ok h
  obtain ⟨r1, r2, r3⟩ := repriceDeal_container hr
  rw [r1, r2, r3]
  obtain ⟨⟨d, ch⟩, hd, hp⟩ := Result.of_bind hp
  cases hp
  rw [changeConfiguration] at hd
  rcases hcfg : changes.configurationId with _ | _ | configurationId
  · -- the request does not name a configuration
    simp only [hcfg] at hd
    refine .inr ⟨rfl, ?_⟩
    by_cases hstock : changes.vehicleSource = some (some .stock)
    · rw [if_pos hstock] at hd
      obtain ⟨rfl, rfl⟩ := Prod.mk.inj (Except.ok.inj hd)
      exact ⟨rfl, rfl, fun hne => absurd rfl hne⟩
    · rw [if_neg hstock] at hd
      obtain ⟨rfl, rfl⟩ := Prod.mk.inj (Except.ok.inj hd)
      exact ⟨rfl, rfl, fun hne => ⟨hne, (by intro h; cases h), hstock⟩⟩
  · -- `configuration_id: null`
    simp only [hcfg] at hd
    obtain ⟨rfl, rfl⟩ := Prod.mk.inj (Except.ok.inj hd)
    exact .inr ⟨rfl, rfl, rfl, fun hne => absurd rfl hne⟩
  · simp only [hcfg] at hd
    obtain ⟨configuration, -, hd⟩ := Result.of_bind hd
    obtain ⟨-, -, hd⟩ := Result.of_bind hd
    obtain ⟨rfl, rfl⟩ := Prod.mk.inj (Except.ok.inj hd)
    exact .inl ⟨(by intro h; cases h), rfl, rfl⟩

theorem editRun_vehicle {valuations : Table Uuid Valuation} {edit : Edit}
    (h : edit.run reads valuations deal = .ok deal') : deal'.toVehicle = deal.toVehicle := by
  cases edit with
  | replaceLineItems data => exact (replaceLineItems_frame h).1
  | setTradeIn data =>
    obtain ⟨vehicle, -, rfl⟩ := setTradeIn_eq_ok h
    exact (writeTradeIn_frame reads valuations deal vehicle _).1
  | attachTradeInValuation valuationId => exact (attachTradeInValuation_frame h).1

/-! ### The invariant -/

/-- What a contract's container keeps whatever its status. -/
def ContractKept (stock : StockDb) (contractId : Uuid) (contract : Deal) : Prop :=
  (contract.configurationId ≠ none → contract.vehicleSource = some .manual) ∧
    (contract.vehicleSource = some .manual → ∀ i, contract.stockItemId = some i →
      OrderedItem stock contractId i)

def Signed (contracts : Table Uuid SalesContract) (contractId : Uuid) : Prop :=
  ∃ contract, contracts.lookup contractId = some contract ∧ contract.status ≠ .pending

structure Kept (s : State) : Prop where
  offers : ∀ id offer, s.sales.offers.lookup id = some offer → OfferCoherent offer.toDeal
  contracts : ∀ id contract, s.sales.contracts.lookup id = some contract →
    ContractKept s.stock id contract.toDeal
  /-- Stock orders only for signed contracts. -/
  ordered : ∀ contractId i, OrderedItem s.stock contractId i → Signed s.sales.contracts contractId
  events : ∀ e ∈ s.confirmed, Signed s.sales.contracts e.2.contractId

variable {s : State} {id : Uuid} {contract : SalesContract}

theorem Kept.pending (h : Kept s) (hrow : s.sales.contracts.lookup id = some contract)
    (hpending : contract.status = .pending) (hmanual : contract.vehicleSource = some .manual) :
    contract.stockItemId = none := by
  rcases hitem : contract.stockItemId with _ | i
  · rfl
  · obtain ⟨signed, hsigned, hne⟩ := h.ordered id i ((h.contracts id contract hrow).2 hmanual i hitem)
    rw [hrow] at hsigned
    cases hsigned
    exact absurd hpending hne

theorem Kept.coherent (h : Kept s) : ContainersCoherent s := by
  refine ⟨h.offers, fun id contract hrow _ => ?_⟩
  obtain ⟨hsource, hitem⟩ := h.contracts id contract hrow
  have hordered : contract.vehicleSource = some .manual → contract.stockItemId = none ∨
      ∃ i, contract.stockItemId = some i ∧ OrderedItem s.stock id i := by
    intro hmanual
    rcases hid : contract.stockItemId with _ | i
    · exact .inl rfl
    · exact .inr ⟨i, rfl, hitem hmanual i hid⟩
  refine ⟨⟨?_, ?_⟩, fun hpending hmanual => h.pending hrow hpending hmanual⟩
  · intro hcfg
    exact ⟨hsource hcfg, hordered (hsource hcfg)⟩
  · intro hmanual
    refine ⟨hordered hmanual, fun hinv => ?_⟩
    obtain ⟨i, hid, hbought⟩ := (Option.any_eq_true _ _).mp hinv
    exact ⟨i, hid, hitem hmanual i hid, by simpa using hbought⟩

variable {stock : StockDb} {contractId : Uuid}

theorem ContractKept.of_eq (h : ContractKept stock contractId deal)
    (h1 : deal'.vehicleSource = deal.vehicleSource) (h2 : deal'.stockItemId = deal.stockItemId)
    (h3 : deal'.configurationId = deal.configurationId) : ContractKept stock contractId deal' := by
  unfold ContractKept
  rw [h1, h2, h3]
  exact h

theorem OfferCoherent.of_eq (h : OfferCoherent deal) (h1 : deal'.vehicleSource = deal.vehicleSource)
    (h2 : deal'.stockItemId = deal.stockItemId) (h3 : deal'.configurationId = deal.configurationId) :
    OfferCoherent deal' := by
  unfold OfferCoherent
  rw [h1, h2, h3]
  exact h

theorem ContractKept.of_manual (h1 : deal.vehicleSource = some .manual)
    (h2 : deal.stockItemId = none) : ContractKept stock contractId deal := by
  refine ⟨fun _ => h1, fun _ i hi => ?_⟩
  rw [h2] at hi
  cases hi

section Requests

variable {reads : Reads} {deal deal' : Deal} {changes : DealChanges} {host : String}

theorem edit_offerCoherent (hfits : OfferPatchFits deal changes)
    (h : applyVehicleAndPricingChanges reads deal changes host = .ok deal') :
    OfferCoherent deal' := by
  rcases edit_container h with ⟨-, hsource, hitem⟩ | ⟨hsent, hsource, hitem, hcfg⟩
  · exact fun _ => ⟨hsource, hitem⟩
  · intro hne
    obtain ⟨hold, hnull, hstock⟩ := hcfg hne
    rcases hfits with hattach | hnone | hdetach | hreplace | ⟨hmanual, hempty⟩
    · exact absurd hsent hattach
    · exact absurd hnone hold
    · exact absurd hdetach hnull
    · exact absurd hreplace hstock
    · exact ⟨hsource.trans hmanual, hitem.trans hempty⟩

theorem edit_contractKept (hfits : ContractPatchFits deal changes)
    (h : applyVehicleAndPricingChanges reads deal changes host = .ok deal') :
    ContractKept stock contractId deal' := by
  rcases edit_container h with ⟨-, hsource, hitem⟩ | ⟨hsent, hsource, hitem, hcfg⟩
  · exact ContractKept.of_manual hsource hitem
  · rcases hfits with hattach | ⟨hconf, hitems⟩
    · exact absurd hsent hattach
    refine ⟨fun hne => ?_, fun hmanual i hi => ?_⟩
    · obtain ⟨hold, hnull, hstock⟩ := hcfg hne
      rcases hconf with hnone | hdetach | hreplace | ⟨hmanual, -⟩
      · exact absurd hnone hold
      · exact absurd hdetach hnull
      · exact absurd hreplace hstock
      · exact hsource.trans hmanual
    · rw [hitem, hitems (hsource.symm.trans hmanual)] at hi
      cases hi

end Requests

variable {request : Request} {db db' : SalesDb}

theorem request_offer
    (hdb : ∀ id offer, db.offers.lookup id = some offer → OfferCoherent offer.toDeal)
    (hok : ∀ tenantId id ifMatch data, request = .updateOffer tenantId id ifMatch data →
      ∀ offer ∈ db.offers.lookup id, OfferPatchFits offer.toDeal data.toDealChanges)
    (h : handle reads db request = .ok db') {offer' : SalesOffer}
    (hrow : db'.offers.lookup id = some offer') : OfferCoherent offer'.toDeal := by
  rcases offer_cases h hrow with hold | ⟨tenantId, rfl⟩ | ⟨sourceId, source, hsource, hcopy⟩ |
    ⟨tenantId, ifMatch, data, offer, rfl, hoffer, hupdate⟩ |
    ⟨tenantId, ifMatch, edit, offer, deal, rfl, hoffer, hedit, rfl⟩
  · exact hdb id offer' hold
  · intro hne
    exact absurd rfl hne
  · obtain ⟨h1, h2, h3⟩ := repriceDeal_container (copyOffer_eq_ok hcopy)
    exact (hdb sourceId source hsource).of_eq h1 h2 h3
  · obtain ⟨buyer, owner, hdeal⟩ := updateOffer_eq_ok hupdate
    have hfits : OfferPatchFits { offer.toDeal with toBuyer := buyer, toOwner := owner }
        data.toDealChanges := hok tenantId id ifMatch data rfl offer hoffer
    exact edit_offerCoherent hfits hdeal
  · have hv := editRun_vehicle hedit
    exact (hdb id offer hoffer).of_eq (congrArg Vehicle.vehicleSource hv)
      (congrArg Vehicle.stockItemId hv) (congrArg Vehicle.configurationId hv)

variable {sales' : SalesDb}

theorem request_contract (hs : Kept s) (hok : KeepsContainers s (.request reads request))
    (h : handle reads s.sales request = .ok sales') {contract' : SalesContract}
    (hrow : sales'.contracts.lookup id = some contract') :
    ContractKept s.stock id contract'.toDeal := by
  rcases contract_cases h hrow with hold | ⟨tenantId, data, rfl, hcreate⟩ |
    ⟨tenantId, ifMatch, data, contract, rfl, hcontract, hupdate⟩ |
    ⟨tenantId, ifMatch, edit, contract, deal, rfl, hcontract, hpending, hedit, rfl⟩
  · exact hs.contracts id contract' hold
  · cases data with
    | offer offerId =>
      obtain ⟨offer, hoffer, hcreate⟩ := Result.of_bind hcreate
      obtain ⟨-, -, hcreate⟩ := Result.of_bind hcreate
      cases hcreate
      have hoffer' := getOfferOr404_eq_ok hoffer
      refine ⟨fun hne => (hs.offers offerId offer hoffer' hne).1, fun hmanual i hi => ?_⟩
      have hnone : offer.stockItemId = none := hok offer hoffer' hmanual
      have hsome : offer.stockItemId = some i := hi
      rw [hnone] at hsome
      cases hsome
    | customer customerId =>
      obtain ⟨customer, -, hcreate⟩ := Result.of_bind hcreate
      obtain ⟨-, -, hcreate⟩ := Result.of_bind hcreate
      cases hcreate
      exact ⟨fun hne => absurd rfl hne, (by intro _ _ hm; cases hm)⟩
    | stockItem stockItemId vehicleLabel =>
      obtain ⟨deal, hdeal, hcreate⟩ := Result.of_bind hcreate
      cases hcreate
      -- a new row for a stock car: no configuration, and not manual
      refine edit_contractKept (.inr ⟨.inl rfl, ?_⟩) hdeal
      intro hmanual
      cases hmanual
  · obtain ⟨-, ⟨buyer, rfl⟩ | ⟨buyer, owner, deal, rfl, hdeal⟩⟩ := updateContract_eq_ok hupdate
    · exact hs.contracts id contract hcontract
    · have hfits : ContractPatchFits { contract.toDeal with toBuyer := buyer, toOwner := owner }
          data.1.toDealChanges := hok contract hcontract
      exact edit_contractKept hfits hdeal
  · have hv := editRun_vehicle hedit
    exact (hs.contracts id contract hcontract).of_eq (congrArg Vehicle.vehicleSource hv)
      (congrArg Vehicle.stockItemId hv) (congrArg Vehicle.configurationId hv)

theorem request_signed (h : handle reads db request = .ok db') (hsigned : Signed db.contracts id) :
    Signed db'.contracts id := by
  obtain ⟨contract, hrow, hne⟩ := hsigned
  refine ⟨contract, ?_, hne⟩
  rcases handle_contracts h with hsame | ⟨tenantId, data, key, new, rfl, -, hfresh, hins⟩ |
    ⟨tenantId, ifMatch, data, key, old, updated, rfl, hold, hupdate, hins⟩ |
    ⟨tenantId, ifMatch, edit, key, old, deal, rfl, hold, hpending, hedit, hins⟩
  · rw [hsame]
    exact hrow
  · have hkey : id ≠ key := by
      rintro rfl
      rw [hfresh] at hrow
      cases hrow
    rw [hins, Table.lookup_insert_iff, if_neg hkey]
    exact hrow
  · have hkey : id ≠ key := by
      rintro rfl
      rw [hrow] at hold
      cases hold
      exact hne (updateContract_eq_ok hupdate).1
    rw [hins, Table.lookup_insert_iff, if_neg hkey]
    exact hrow
  · have hkey : id ≠ key := by
      rintro rfl
      rw [hrow] at hold
      cases hold
      exact hne hpending
    rw [hins, Table.lookup_insert_iff, if_neg hkey]
    exact hrow

/-! ### The other actions keep the invariant -/

theorem request_kept (hs : Kept s) (hok : KeepsContainers s (.request reads request))
    (h : handle reads s.sales request = .ok sales') : Kept { s with sales := sales' } := by
  refine ⟨fun id offer hrow => ?_, fun id contract hrow => request_contract hs hok h hrow,
    fun contractId i hi => request_signed h (hs.ordered contractId i hi),
    fun e he => request_signed h (hs.events e he)⟩
  refine request_offer hs.offers (fun tenantId id ifMatch data heq => ?_) h hrow
  subst heq
  exact hok

theorem Signed.insert {contracts : Table Uuid SalesContract} {key : Uuid}
    (hne : contract.status ≠ .pending) (h : Signed contracts id ∨ id = key) :
    Signed (contracts.insert key contract) id := by
  by_cases heq : id = key
  · exact ⟨contract, by rw [Table.lookup_insert_iff, if_pos heq], hne⟩
  · obtain ⟨old, hold, hstatus⟩ := h.resolve_right heq
    exact ⟨old, by rw [Table.lookup_insert_iff, if_neg heq]; exact hold, hstatus⟩

variable {s' : State}

theorem confirm_kept {tenantId : Uuid} {ifMatch : ℕ} {reservationId : Option Uuid} (hs : Kept s)
    (h : confirmContract reads s tenantId contractId ifMatch reservationId = .ok s') : Kept s' := by
  obtain ⟨contract, hcontract, h⟩ := Result.of_bind h
  obtain ⟨-, -, h⟩ := Result.of_bind h
  obtain ⟨-, -, h⟩ := Result.of_bind h
  cases h
  have hrow := getContractOr404_eq_ok hcontract
  have hsigned : (confirmedRow reads reservationId contract).status ≠ .pending := (by intro hm; cases hm)
  refine ⟨hs.offers, fun id other hother => ?_, fun c i hi => ?_, fun e he => ?_⟩
  · rcases Table.lookup_insert_cases hother with ⟨rfl, rfl⟩ | ⟨-, hold⟩
    · exact (hs.contracts id contract hrow).of_eq rfl rfl rfl
    · exact hs.contracts id other hold
  · exact Signed.insert hsigned (.inl (hs.ordered c i hi))
  · rcases List.mem_append.mp he with hold | hnew
    · exact Signed.insert hsigned (.inl (hs.events e hold))
    · rw [List.mem_singleton] at hnew
      subst hnew
      exact Signed.insert hsigned (.inr rfl)

variable {stock' : StockDb}

theorem ContractKept.mono
    (hmono : ∀ i, OrderedItem stock contractId i → OrderedItem stock' contractId i)
    (h : ContractKept stock contractId deal) : ContractKept stock' contractId deal :=
  ⟨h.1, fun hmanual i hi => hmono i (h.2 hmanual i hi)⟩

theorem deliverConfirmed_kept {reads : ConsumerReads} {e : Uuid × ConfirmedPayload} (hs : Kept s)
    (he : e ∈ s.confirmed) (h : handleSalesContractConfirmed reads s.stock e.1 e.2 = .ok stock') :
    Kept { s with stock := stock' } := by
  have hmono : ∀ c i, OrderedItem s.stock c i → OrderedItem stock' c i := by
    rintro c i ⟨item, hitem, href⟩
    obtain ⟨item', hitem', -, href', -⟩ := handleSalesContractConfirmed_keeps h hitem
    exact ⟨item', hitem', href'.trans href⟩
  refine ⟨hs.offers, fun id contract hrow => (hs.contracts id contract hrow).mono (hmono id), ?_,
    hs.events⟩
  rintro c i ⟨item', hitem', href'⟩
  rcases handleSalesContractConfirmed_orderedFor h hitem' with ⟨item, hitem, href, -⟩ |
    ⟨role, href, -⟩
  · exact hs.ordered c i ⟨item, hitem, href.symm.trans href'⟩
  · -- ordered just now, for the contract of the event
    rw [href'] at href
    have hc : c = e.2.contractId := congrArg PipelineRef.contractId (Option.some.inj href)
    rw [hc]
    exact hs.events e he

section

variable (tenantId stockItemId : Uuid) (stockItemLabel : Option String) (refreshedAt : Time)
  (contract : SalesContract)

theorem linkedRow_cases :
    linkedRow tenantId stockItemId stockItemLabel refreshedAt contract = contract ∨
    (contract.vehicleSource = some .manual ∧
      linkedRow tenantId stockItemId stockItemLabel refreshedAt contract = { contract with
        stockItemId := some stockItemId
        stockItemLabel := stockItemLabel
        stockItemDenormRefreshedAt := some refreshedAt
        version := contract.version + 1 }) := by
  unfold linkedRow
  split
  · exact .inl rfl
  · next hmanual =>
    split
    · exact .inl rfl
    · split
      · exact .inl rfl
      · exact .inr ⟨not_not.mp (not_or.mp hmanual).2, rfl⟩

theorem linkedRow_status :
    (linkedRow tenantId stockItemId stockItemLabel refreshedAt contract).status
      = contract.status := by
  rcases linkedRow_cases tenantId stockItemId stockItemLabel refreshedAt contract with
    heq | ⟨-, heq⟩
  · rw [heq]
  · rw [heq]

theorem linkedRow_kept (hordered : OrderedItem stock contractId stockItemId)
    (h : ContractKept stock contractId contract.toDeal) : ContractKept stock contractId
      (linkedRow tenantId stockItemId stockItemLabel refreshedAt contract).toDeal := by
  rcases linkedRow_cases tenantId stockItemId stockItemLabel refreshedAt contract with
    hsame | ⟨hmanual, hlinked⟩
  · rw [hsame]
    exact h
  · rw [hlinked]
    refine ⟨fun _ => hmanual, fun _ i hi => ?_⟩
    cases hi
    exact hordered

end

theorem stockItemAdded_kept (hs : Kept s) (stockItemId : Uuid) (refreshedAt : Time) :
    Kept (stockItemAdded s stockItemId refreshedAt) := by
  unfold stockItemAdded
  split
  · exact hs
  · next item hitem =>
    split
    · next contractId href =>
      have hsigned : ∀ id, Signed s.sales.contracts id →
          Signed (linkManualConfigurationToPipelineItem s.sales.contracts item.tenantId
            contractId stockItemId (some item.stockNumber) refreshedAt) id := by
        rintro id ⟨contract, hrow, hne⟩
        unfold Signed linkManualConfigurationToPipelineItem
        rw [Table.lookup_modify, hrow]
        split
        · exact ⟨_, rfl, (linkedRow_status _ _ _ _ contract).trans_ne hne⟩
        · exact ⟨contract, rfl, hne⟩
      refine ⟨hs.offers, fun id contract' hrow => ?_,
        fun c i hi => hsigned c (hs.ordered c i hi), fun e he => hsigned _ (hs.events e he)⟩
      simp only [linkManualConfigurationToPipelineItem, Table.lookup_modify] at hrow
      split at hrow
      · next heq =>
        subst heq
        obtain ⟨contract, hcontract, rfl⟩ := Option.map_eq_some_iff.mp hrow
        exact linkedRow_kept _ _ _ _ contract ⟨item, hitem, href⟩ (hs.contracts _ contract hcontract)
      · exact hs.contracts id contract' hrow
    · exact hs

theorem addStockItem_kept {items' : Table Uuid StockItem} {stockItemId : Uuid} {item : StockItem}
    (hs : Kept s)
    (h : insertRow s.stock.items stockItemId { item with pipelineRef := none } = .ok items') :
    Kept { s with stock := { s.stock with items := items' } } := by
  obtain ⟨hfresh, rfl⟩ := insertRow_eq_ok h
  have hmono : ∀ c i, OrderedItem s.stock c i → OrderedItem { s.stock with
      items := s.stock.items.insert stockItemId { item with pipelineRef := none } } c i := by
    rintro c i ⟨old, hold, href⟩
    have hne : i ≠ stockItemId := by
      rintro rfl
      rw [hfresh] at hold
      cases hold
    exact ⟨old, by rw [Table.lookup_insert_iff, if_neg hne]; exact hold, href⟩
  refine ⟨hs.offers, fun id contract hrow => (hs.contracts id contract hrow).mono (hmono id), ?_,
    hs.events⟩
  rintro c i ⟨row, hrow, href⟩
  rcases Table.lookup_insert_cases hrow with ⟨-, rfl⟩ | ⟨-, hold⟩
  · cases href
  · exact hs.ordered c i ⟨row, hold, href⟩

/-! ### Runs -/

theorem act_kept {a : Action} (hs : Kept s) (hok : KeepsContainers s a) (h : act s a = .ok s') :
    Kept s' := by
  cases a with
  | request reads request =>
    obtain ⟨sales', hsales, h⟩ := Result.of_bind h
    cases h
    exact request_kept hs hok hsales
  | confirm reads tenantId contractId ifMatch reservationId => exact confirm_kept hs h
  | deliverConfirmed reads n =>
    rw [act] at h
    rcases hevent : s.confirmed[n]? with _ | e
    · rw [hevent] at h
      cases h
      exact hs
    · rw [hevent] at h
      obtain ⟨stock', hstock, h⟩ := Result.of_bind h
      cases h
      exact deliverConfirmed_kept hs (List.mem_of_getElem? hevent) hstock
  | deliverAdded stockItemId refreshedAt =>
    cases h
    exact stockItemAdded_kept hs stockItemId refreshedAt
  | addStockItem stockItemId item =>
    obtain ⟨items', hitems, h⟩ := Result.of_bind h
    cases h
    exact addStockItem_kept hs hitems
  | purchased tenantId stockItemId =>
    cases h
    exact ⟨hs.offers, hs.contracts, hs.ordered, hs.events⟩

theorem opening_kept (valuations : Table Uuid Valuation) : Kept (opening valuations) := by
  refine ⟨fun id offer hrow => ?_, fun id contract hrow => ?_, fun c i hi => ?_, fun e he => ?_⟩
  · cases hrow
  · cases hrow
  · obtain ⟨item, hitem, -⟩ := hi
    cases hitem
  · cases he

/-- **Vehicle container coherence.**  In every run whose PATCHes fit the rows
they are made on, and which makes no contract from a manual offer with a
stock item, every container is coherent in every state reached. -/
theorem containers_coherent (valuations : Table Uuid Valuation) (actions : List Action)
    (hok : Run.Along advance KeepsContainers (opening valuations) actions) :
    ContainersCoherent (actions.foldl advance (opening valuations)) := by
  have hstep : ∀ s a, Kept s → KeepsContainers s a → Kept (advance s a) := by
    intro s a hs ha
    unfold advance
    cases h : act s a with
    | error e => exact hs
    | ok s' => exact act_kept hs ha h
  exact (Run.invariant_along hstep (opening_kept valuations) hok).coherent

instance (deal : Deal) (changes : DealChanges) : Decidable (ConfigurationFits deal changes) :=
  inferInstanceAs (Decidable (_ ∨ _ ∨ _ ∨ _))

instance (deal : Deal) (changes : DealChanges) : Decidable (ItemFits deal changes) :=
  inferInstanceAs (Decidable (_ → _))

instance (deal : Deal) (changes : DealChanges) : Decidable (OfferPatchFits deal changes) :=
  inferInstanceAs (Decidable (_ ∨ _))

instance (deal : Deal) (changes : DealChanges) : Decidable (ContractPatchFits deal changes) :=
  inferInstanceAs (Decidable (_ ∨ _))

instance (s : State) : ∀ a, Decidable (KeepsContainers s a)
  | .request _ (.updateOffer _ offerId _ data) => inferInstanceAs (Decidable
      (∀ offer ∈ s.sales.offers.lookup offerId, OfferPatchFits offer.toDeal data.toDealChanges))
  | .request _ (.updateContract _ contractId _ data) => inferInstanceAs (Decidable
      (∀ contract ∈ s.sales.contracts.lookup contractId,
        ContractPatchFits contract.toDeal data.1.toDealChanges))
  | .request _ (.createContract _ (.offer offerId)) => inferInstanceAs (Decidable
      (∀ offer ∈ s.sales.offers.lookup offerId,
        offer.vehicleSource = some .manual → offer.stockItemId = none))
  | .request _ (.createContract _ (.customer _)) | .request _ (.createContract _ (.stockItem ..))
  | .request _ (.createOffer _) | .request _ (.copyOffer ..) | .request _ (.editOffer ..)
  | .request _ (.editContract ..) | .request _ (.createValuation _)
  | .request _ (.consumeValuation ..) | .request _ (.revertValuationUse _) | .confirm ..
  | .deliverConfirmed .. | .deliverAdded .. | .addStockItem .. | .purchased .. =>
    inferInstanceAs (Decidable True)

/-- A customer, a configuration and a stock car can be read. -/
def showroom : Reads where
  customer _ _ := some {}
  configuration _ id := some { id := id, label := "Golf", basePrice := some 30000 }
  stockItems := AList.insert 7 { tenantId := 1 } ∅

/-- A configured car is offered, contracted and signed; Stock orders it, Sales
learns the item, and its purchase is booked. -/
def configuredRun : List Action :=
  [.request showroom (.createOffer 1),
    .request showroom (.updateOffer 1 0 1
      { configurationId := some (some 40), customerId := some (some 9) }),
    .request showroom (.createContract 1 (.offer 0)),
    .confirm showroom 1 0 1 none,
    .deliverConfirmed { uuid := fun k => 100 + k } 0,
    .deliverAdded 100 5,
    .purchased 1 100]

theorem containers_coherent_configuredRun :
    Run.Along advance KeepsContainers (opening ∅) configuredRun ∧
      ((configuredRun.foldl advance (opening ∅)).sales.contracts.lookup 0).map
        (fun contract => (contract.status, contract.configurationId, contract.stockItemId))
        = some (.confirmed, some 40, some 100) ∧
      ContainersCoherent (configuredRun.foldl advance (opening ∅)) := by
  have hok : Run.Along advance KeepsContainers (opening ∅) configuredRun := by decide +kernel
  exact ⟨hok, by decide +kernel, containers_coherent ∅ configuredRun hok⟩

/-- A contract for a stock car becomes a manual one; the car it no longer
sells is then bought. -/
def manualOverStock : List Action :=
  [.addStockItem 7 { tenantId := 1 },
    .request showroom (.createContract 1 (.stockItem 7 none)),
    .request showroom (.updateContract 1 0 2
      ⟨{ vehicleSource := some (some .manual), vehicleLabel := some (some "Polo") }, by decide⟩),
    .purchased 1 7]

/-- The manual contract keeps the stock car and is invoiceable by it. -/
theorem manualOverStock_invoiceable :
    ¬ ∀ (valuations : Table Uuid Valuation) (actions : List Action),
      ContainersCoherent (actions.foldl advance (opening valuations)) := by
  intro h
  have hrow : ((manualOverStock.foldl advance (opening ∅)).sales.contracts.lookup 0).map
      (fun contract => (contract.status, contract.vehicleSource, contract.stockItemId,
        isInvoiceable (manualOverStock.foldl advance (opening ∅)).purchases contract.toDeal)) =
        some (.pending, some .manual, some 7, true) := by
    decide +kernel
  obtain ⟨contract, hcontract, hcols⟩ := Option.map_eq_some_iff.mp hrow
  obtain ⟨hstatus, hsource, hitem, hinvoiceable⟩ := by simpa using hcols
  obtain ⟨⟨-, hmanual⟩, -⟩ := (h ∅ manualOverStock).2 0 contract hcontract (.inl hstatus)
  obtain ⟨i, hi, ⟨item, hlookup, href⟩, -⟩ := (hmanual hsource).2 hinvoiceable
  obtain rfl := Option.mem_unique hitem hi
  have hnone : ((manualOverStock.foldl advance (opening ∅)).stock.items.lookup 7).map
      (·.pipelineRef) = some none := by
    decide +kernel
  rw [hlookup, Option.map_some, href] at hnone
  cases Option.some.inj hnone

end Nexotec.VehicleContainer
