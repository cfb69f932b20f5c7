/-
Runs of requests on offers and contracts.

The Sales tables start without a deal and are changed by requests, one after
the other; a refused request leaves them as they are.  Each request comes
with its own reads of the other contexts, so nothing is assumed about what
stock, configurations or customers look like from one request to the next.

`Handled` is what an accepted request has done, read off `handle` once;
`offer_cases` and `contract_cases` say from it where a row of the new tables
comes from.  Each result about runs states what the requests must meet, and
comes with the run that shows what happens without it.
-/
import Nexotec.Lib.Run
import Nexotec.Sales.Deals

namespace Nexotec

/-! ### Requests -/

/-- The edits an offer and a contract share under one route each. -/
inductive Edit where
  | replaceLineItems (data : LineItemsReplaceRequest)
  | setTradeIn (data : TradeInRequest)
  | attachTradeInValuation (valuationId : Uuid)

def Edit.run (reads : Reads) (valuations : Table Uuid Valuation) (deal : Deal) :
    Edit → Result Deal
  | .replaceLineItems data => Nexotec.replaceLineItems reads deal data
  | .setTradeIn data => Nexotec.setTradeIn reads valuations deal data
  | .attachTradeInValuation valuationId =>
    Nexotec.attachTradeInValuation reads valuations deal valuationId

/-- The requests, with the tenant of the caller and the version of `If-Match`.
The last three are what the valuation context does meanwhile. -/
inductive Request where
  | createOffer (tenantId : Uuid)
  | copyOffer (tenantId offerId : Uuid)
  | updateOffer (tenantId offerId : Uuid) (ifMatch : ℕ) (data : OfferUpdate)
  | editOffer (tenantId offerId : Uuid) (ifMatch : ℕ) (edit : Edit)
  | createContract (tenantId : Uuid) (data : ContractCreate)
  | updateContract (tenantId contractId : Uuid) (ifMatch : ℕ) (data : ContractUpdate)
  | editContract (tenantId contractId : Uuid) (ifMatch : ℕ) (edit : Edit)
  | createValuation (valuation : Valuation)
  | consumeValuation (tenantId valuationId : Uuid)
  | revertValuationUse (valuationId : Uuid)

def handle (reads : Reads) (db : SalesDb) : Request → Result SalesDb
  | .createOffer tenantId => do
    let offers ← insertRow db.offers (reads.uuid 0) (createOffer reads tenantId)
    pure { db with offers := offers }
  | .copyOffer tenantId offerId => do
    let source ← getOfferOr404 db.offers tenantId offerId
    let offer ← copyOffer reads offerId source
    let offers ← insertRow db.offers (reads.uuid 0) offer
    pure { db with offers := offers }
  | .updateOffer tenantId offerId ifMatch data => do
    let offer ← getOfferOr404 db.offers tenantId offerId
    checkVersion offer.version ifMatch "SalesOffer"
    let offer ← updateOffer reads db.contracts offerId offer data
    pure { db with offers := db.offers.insert offerId offer }
  | .editOffer tenantId offerId ifMatch edit => do
    let offer ← getOfferOr404 db.offers tenantId offerId
    checkVersion offer.version ifMatch "SalesOffer"
    requireEditableOffer db.contracts offerId offer
    let deal ← edit.run reads db.valuations offer.toDeal
    pure { db with offers := db.offers.insert offerId { offer with toDeal := deal } }
  | .createContract tenantId data => do
    let contract ← createContract reads db tenantId data
    let contracts ← insertRow db.contracts (reads.uuid 0) contract
    pure { db with contracts := contracts }
  | .updateContract tenantId contractId ifMatch data => do
    let contract ← getContractOr404 db.contracts tenantId contractId
    checkVersion contract.version ifMatch "SalesContract"
    let contract ← updateContract reads contract data
    pure { db with contracts := db.contracts.insert contractId contract }
  | .editContract tenantId contractId ifMatch edit => do
    let contract ← getContractOr404 db.contracts tenantId contractId
    checkVersion contract.version ifMatch "SalesContract"
    requireEditableContract contract
    let deal ← edit.run reads db.valuations contract.toDeal
    pure { db with contracts := db.contracts.insert contractId { contract with toDeal := deal } }
  | .createValuation valuation => do
    let valuations ← insertRow db.valuations (reads.uuid 0) valuation
    pure { db with valuations := valuations }
  | .consumeValuation tenantId valuationId => do
    let (valuations, _) ← consumeForContract db.valuations tenantId valuationId reads.now
    pure { db with valuations := valuations }
  | .revertValuationUse valuationId =>
    pure { db with valuations := revertUse db.valuations valuationId }

/-- A request with what it reads; one that raises is rolled back. -/
def next (db : SalesDb) (a : Reads × Request) : SalesDb :=
  match handle a.1 db a.2 with
  | .ok db' => db'
  | .error _ => db

def noDeals (valuations : Table Uuid Valuation) : SalesDb := { valuations := valuations }

/-! ### Where a row comes from -/

variable {tenantId : Uuid} {offer : SalesOffer}

theorem getOfferOr404_eq_ok {offers : Table Uuid SalesOffer} {offerId : Uuid}
    (h : getOfferOr404 offers tenantId offerId = .ok offer) :
    offers.lookup offerId = some offer := by
  rw [getOfferOr404, orNotFound_eq_ok, Option.filter_eq_some_iff] at h
  exact h.1

variable {contract : SalesContract}

theorem getContractOr404_eq_ok {contracts : Table Uuid SalesContract} {contractId : Uuid}
    (h : getContractOr404 contracts tenantId contractId = .ok contract) :
    contracts.lookup contractId = some contract := by
  rw [getContractOr404, orNotFound_eq_ok, Option.filter_eq_some_iff] at h
  exact h.1

section

variable {reads : Reads} {db db' : SalesDb} {request : Request}

/-- An accepted request, with the rows it worked on. -/
inductive Handled (reads : Reads) (db : SalesDb) : Request → SalesDb → Prop
  | createOffer (tenantId : Uuid) :
      Handled reads db (.createOffer tenantId)
        { db with offers := db.offers.insert (reads.uuid 0) (createOffer reads tenantId) }
  | copyOffer (tenantId offerId : Uuid) (source offer : SalesOffer) :
      db.offers.lookup offerId = some source → copyOffer reads offerId source = .ok offer →
      Handled reads db (.copyOffer tenantId offerId)
        { db with offers := db.offers.insert (reads.uuid 0) offer }
  | updateOffer (tenantId offerId : Uuid) (ifMatch : ℕ) (data : OfferUpdate)
      (offer offer' : SalesOffer) :
      db.offers.lookup offerId = some offer →
      updateOffer reads db.contracts offerId offer data = .ok offer' →
      Handled reads db (.updateOffer tenantId offerId ifMatch data)
        { db with offers := db.offers.insert offerId offer' }
  | editOffer (tenantId offerId : Uuid) (ifMatch : ℕ) (edit : Edit) (offer : SalesOffer)
      (deal : Deal) :
      db.offers.lookup offerId = some offer →
      edit.run reads db.valuations offer.toDeal = .ok deal →
      Handled reads db (.editOffer tenantId offerId ifMatch edit)
        { db with offers := db.offers.insert offerId { offer with toDeal := deal } }
  | createContract (tenantId : Uuid) (data : ContractCreate) (contract : SalesContract) :
      createContract reads db tenantId data = .ok contract →
      db.contracts.lookup (reads.uuid 0) = none →
      Handled reads db (.createContract tenantId data)
        { db with contracts := db.contracts.insert (reads.uuid 0) contract }
  | updateContract (tenantId contractId : Uuid) (ifMatch : ℕ) (data : ContractUpdate)
      (contract contract' : SalesContract) :
      db.contracts.lookup contractId = some contract →
      updateContract reads contract data = .ok contract' →
      Handled reads db (.updateContract tenantId contractId ifMatch data)
        { db with contracts := db.contracts.insert contractId contract' }
  | editContract (tenantId contractId : Uuid) (ifMatch : ℕ) (edit : Edit)
      (contract : SalesContract) (deal : Deal) :
      db.contracts.lookup contractId = some contract → contract.status = .pending →
      edit.run reads db.valuations contract.toDeal = .ok deal →
      Handled reads db (.editContract tenantId contractId ifMatch edit)
        { db with contracts := db.contracts.insert contractId { contract with toDeal := deal } }
  | createValuation (valuation : Valuation) :
      db.valuations.lookup (reads.uuid 0) = none →
      Handled reads db (.createValuation valuation)
        { db with valuations := db.valuations.insert (reads.uuid 0) valuation }
  | consumeValuation (tenantId valuationId : Uuid) (valuations : Table Uuid Valuation)
      (newlyUsed : Bool) :
      consumeForContract db.valuations tenantId valuationId reads.now
        = .ok (valuations, newlyUsed) →
      Handled reads db (.consumeValuation tenantId valuationId) { db with valuations := valuations }
  | revertValuationUse (valuationId : Uuid) :
      Handled reads db (.revertValuationUse valuationId)
        { db with valuations := revertUse db.valuations valuationId }

theorem handled_of_ok (h : handle reads db request = .ok db') : Handled reads db request db' := by
  cases request with
  | createOffer tenantId =>
    obtain ⟨offers, hins, h⟩ := Result.of_bind h
    obtain ⟨-, rfl⟩ := insertRow_eq_ok hins
    cases h
    exact .createOffer tenantId
  | copyOffer tenantId offerId =>
    obtain ⟨source, hsource, h⟩ := Result.of_bind h
    obtain ⟨offer, hoffer, h⟩ := Result.of_bind h
    obtain ⟨offers, hins, h⟩ := Result.of_bind h
    obtain ⟨-, rfl⟩ := insertRow_eq_ok hins
    cases h
    exact .copyOffer tenantId offerId source offer (getOfferOr404_eq_ok hsource) hoffer
  | updateOffer tenantId offerId ifMatch data =>
    obtain ⟨offer, hoffer, h⟩ := Result.of_bind h
    obtain ⟨-, -, h⟩ := Result.of_bind h
    obtain ⟨offer', hoffer', h⟩ := Result.of_bind h
    cases h
    exact .updateOffer tenantId offerId ifMatch data offer offer' (getOfferOr404_eq_ok hoffer)
      hoffer'
  | editOffer tenantId offerId ifMatch edit =>
    obtain ⟨offer, hoffer, h⟩ := Result.of_bind h
    obtain ⟨-, -, h⟩ := Result.of_bind h
    obtain ⟨-, -, h⟩ := Result.of_bind h
    obtain ⟨deal, hdeal, h⟩ := Result.of_bind h
    cases h
    exact .editOffer tenantId offerId ifMatch edit offer deal (getOfferOr404_eq_ok hoffer) hdeal
  | createContract tenantId data =>
    obtain ⟨contract, hcontract, h⟩ := Result.of_bind h
    obtain ⟨contracts, hins, h⟩ := Result.of_bind h
    obtain ⟨hfresh, rfl⟩ := insertRow_eq_ok hins
    cases h
    exact .createContract tenantId data contract hcontract hfresh
  | updateContract tenantId contractId ifMatch data =>
    obtain ⟨contract, hcontract, h⟩ := Result.of_bind h
    obtain ⟨-, -, h⟩ := Result.of_bind h
    obtain ⟨contract', hcontract', h⟩ := Result.of_bind h
    cases h
    exact .updateContract tenantId contractId ifMatch data contract contract'
      (getContractOr404_eq_ok hcontract) hcontract'
  | editContract tenantId contractId ifMatch edit =>
    obtain ⟨contract, hcontract, h⟩ := Result.of_bind h
    obtain ⟨-, -, h⟩ := Result.of_bind h
    obtain ⟨u, hu, h⟩ := Result.of_bind h
    obtain ⟨deal, hdeal, h⟩ := Result.of_bind h
    cases h
    exact .editContract tenantId contractId ifMatch edit contract deal
      (getContractOr404_eq_ok hcontract) (requireEditableContract_eq_ok hu) hdeal
  | createValuation valuation =>
    obtain ⟨valuations, hins, h⟩ := Result.of_bind h
    obtain ⟨hfresh, rfl⟩ := insertRow_eq_ok hins
    cases h
    exact .createValuation valuation hfresh
  | consumeValuation tenantId valuationId =>
    obtain ⟨⟨valuations, newlyUsed⟩, hconsume, h⟩ := Result.of_bind h
    cases h
    exact .consumeValuation tenantId valuationId valuations newlyUsed hconsume
  | revertValuationUse valuationId =>
    cases h
    exact .revertValuationUse valuationId

variable {id : Uuid}

theorem offer_cases (h : handle reads db request = .ok db') {offer' : SalesOffer}
    (hrow : db'.offers.lookup id = some offer') : db.offers.lookup id = some offer' ∨
    (∃ tenantId, offer' = createOffer reads tenantId) ∨
    (∃ sourceId source, db.offers.lookup sourceId = some source ∧
      copyOffer reads sourceId source = .ok offer') ∨
    (∃ tenantId ifMatch data offer, request = .updateOffer tenantId id ifMatch data ∧
      db.offers.lookup id = some offer ∧
      updateOffer reads db.contracts id offer data = .ok offer') ∨
    (∃ tenantId ifMatch edit offer deal, request = .editOffer tenantId id ifMatch edit ∧
      db.offers.lookup id = some offer ∧ edit.run reads db.valuations offer.toDeal = .ok deal ∧
      offer' = { offer with toDeal := deal }) := by
  cases handled_of_ok h with
  | createOffer tenantId =>
    rcases Table.lookup_insert_cases hrow with ⟨-, rfl⟩ | ⟨-, hold⟩
    · exact .inr (.inl ⟨tenantId, rfl⟩)
    · exact .inl hold
  | copyOffer tenantId offerId source offer hsource hoffer =>
    rcases Table.lookup_insert_cases hrow with ⟨-, rfl⟩ | ⟨-, hold⟩
    · exact .inr (.inr (.inl ⟨offerId, source, hsource, hoffer⟩))
    · exact .inl hold
  | updateOffer tenantId offerId ifMatch data offer updated hoffer hupdated =>
    rcases Table.lookup_insert_cases hrow with ⟨rfl, rfl⟩ | ⟨-, hold⟩
    · exact .inr (.inr (.inr (.inl ⟨tenantId, ifMatch, data, offer, rfl, hoffer, hupdated⟩)))
    · exact .inl hold
  | editOffer tenantId offerId ifMatch edit offer deal hoffer hdeal =>
    rcases Table.lookup_insert_cases hrow with ⟨rfl, rfl⟩ | ⟨-, hold⟩
    · exact .inr (.inr (.inr (.inr
        ⟨tenantId, ifMatch, edit, offer, deal, rfl, hoffer, hdeal, rfl⟩)))
    · exact .inl hold
  | createContract | updateContract | editContract | createValuation | consumeValuation
  | revertValuationUse => exact .inl hrow

theorem handle_contracts (h : handle reads db request = .ok db') : db'.contracts = db.contracts ∨
    (∃ tenantId data id contract, request = .createContract tenantId data ∧
      createContract reads db tenantId data = .ok contract ∧ db.contracts.lookup id = none ∧
      db'.contracts = db.contracts.insert id contract) ∨
    (∃ tenantId ifMatch data id contract contract',
      request = .updateContract tenantId id ifMatch data ∧
      db.contracts.lookup id = some contract ∧ updateContract reads contract data = .ok contract' ∧
      db'.contracts = db.contracts.insert id contract') ∨
    (∃ tenantId ifMatch edit id contract deal, request = .editContract tenantId id ifMatch edit ∧
      db.contracts.lookup id = some contract ∧ contract.status = .pending ∧
      edit.run reads db.valuations contract.toDeal = .ok deal ∧
      db'.contracts = db.contracts.insert id { contract with toDeal := deal }) := by
  cases handled_of_ok h with
  | createContract tenantId data contract hcontract hfresh =>
    exact .inr (.inl ⟨tenantId, data, _, contract, rfl, hcontract, hfresh, rfl⟩)
  | updateContract tenantId contractId ifMatch data contract updated hcontract hupdated =>
    exact .inr (.inr (.inl ⟨tenantId, ifMatch, data, contractId, contract, updated, rfl,
      hcontract, hupdated, rfl⟩))
  | editContract tenantId contractId ifMatch edit contract deal hcontract hpending hdeal =>
    exact .inr (.inr (.inr ⟨tenantId, ifMatch, edit, contractId, contract, deal, rfl,
      hcontract, hpending, hdeal, rfl⟩))
  | createOffer | copyOffer | updateOffer | editOffer | createValuation | consumeValuation
  | revertValuationUse => exact .inl rfl

theorem contract_cases (h : handle reads db request = .ok db') {contract' : SalesContract}
    (hrow : db'.contracts.lookup id = some contract') : db.contracts.lookup id = some contract' ∨
    (∃ tenantId data, request = .createContract tenantId data ∧
      createContract reads db tenantId data = .ok contract') ∨
    (∃ tenantId ifMatch data contract, request = .updateContract tenantId id ifMatch data ∧
      db.contracts.lookup id = some contract ∧ updateContract reads contract data = .ok contract') ∨
    (∃ tenantId ifMatch edit contract deal, request = .editContract tenantId id ifMatch edit ∧
      db.contracts.lookup id = some contract ∧ contract.status = .pending ∧
      edit.run reads db.valuations contract.toDeal = .ok deal ∧
      contract' = { contract with toDeal := deal }) := by
  rcases handle_contracts h with hsame | ⟨tenantId, data, key, contract, rfl, hcreate, -, hins⟩ |
    ⟨tenantId, ifMatch, data, key, contract, updated, rfl, hcontract, hupdate, hins⟩ |
    ⟨tenantId, ifMatch, edit, key, contract, deal, rfl, hcontract, hpending, hedit, hins⟩
  · rw [hsame] at hrow
    exact .inl hrow
  · rw [hins] at hrow
    rcases Table.lookup_insert_cases hrow with ⟨-, rfl⟩ | ⟨-, hold⟩
    · exact .inr (.inl ⟨tenantId, data, rfl, hcreate⟩)
    · exact .inl hold
  · rw [hins] at hrow
    rcases Table.lookup_insert_cases hrow with ⟨rfl, rfl⟩ | ⟨-, hold⟩
    · exact .inr (.inr (.inl ⟨tenantId, ifMatch, data, contract, rfl, hcontract, hupdate⟩))
    · exact .inl hold
  · rw [hins] at hrow
    rcases Table.lookup_insert_cases hrow with ⟨rfl, rfl⟩ | ⟨-, hold⟩
    · exact .inr (.inr (.inr
        ⟨tenantId, ifMatch, edit, contract, deal, rfl, hcontract, hpending, hedit, rfl⟩))
    · exact .inl hold

end

variable {db : SalesDb}

theorem run_invariant {ok : SalesDb → Reads × Request → Prop} {Inv : SalesDb → Prop}
    (hstep : ∀ reads db request db', Inv db → ok db (reads, request) →
      handle reads db request = .ok db' → Inv db') {requests : List (Reads × Request)}
    (hdb : Inv db) (hok : Run.Along next ok db requests) : Inv (requests.foldl next db) := by
  refine Run.invariant_along (fun db a hinv ha => ?_) hdb hok
  obtain ⟨reads, request⟩ := a
  unfold next
  cases h : handle reads db request with
  | error e => exact hinv
  | ok db' => exact hstep reads db request db' hinv ha h

/-! ### Price coherence -/

def PricesCoherent (db : SalesDb) : Prop :=
  (∀ id offer, db.offers.lookup id = some offer → PriceCoherent offer.toDeal) ∧
    ∀ id contract, db.contracts.lookup id = some contract → PriceCoherent contract.toDeal

/-- A PATCH of a deal that is priced without a frozen vehicle names a vehicle
or changes no input of the price. -/
def KeepsPrices (db : SalesDb) (a : Reads × Request) : Prop :=
  match a.2 with
  | .updateOffer _ offerId _ data =>
    ∀ offer ∈ db.offers.lookup offerId, PatchFits offer.toDeal data.toDealChanges
  | .updateContract _ contractId _ data =>
    ∀ contract ∈ db.contracts.lookup contractId, PatchFits contract.toDeal data.1.toDealChanges
  | _ => True

variable {reads : Reads} {valuations : Table Uuid Valuation} {deal deal' : Deal} {edit : Edit}

theorem Edit.run_coherent (hc : PriceCoherent deal) (h : edit.run reads valuations deal = .ok deal') :
    PriceCoherent deal' := by
  cases edit with
  | replaceLineItems data => exact replaceLineItems_coherent h
  | setTradeIn data =>
    obtain ⟨vehicle, -, rfl⟩ := setTradeIn_eq_ok h
    exact writeTradeIn_coherent hc _ _
  | attachTradeInValuation valuationId => exact attachTradeInValuation_coherent hc h

theorem Edit.run_tenant (h : edit.run reads valuations deal = .ok deal') :
    deal'.tenantId = deal.tenantId := by
  cases edit with
  | replaceLineItems data => exact (replaceLineItems_frame h).2.2.2.1
  | setTradeIn data =>
    obtain ⟨vehicle, -, rfl⟩ := setTradeIn_eq_ok h
    exact (writeTradeIn_frame _ _ _ _ _).2.2.1
  | attachTradeInValuation valuationId => exact (attachTradeInValuation_frame h).2.2.1

theorem PriceCoherent.withParties (h : PriceCoherent deal) (buyer : Buyer) (owner : Owner) :
    PriceCoherent { deal with toBuyer := buyer, toOwner := owner } :=
  h.of_eq rfl rfl rfl rfl rfl

variable {changes : DealChanges}

theorem PatchFits.withParties (h : PatchFits deal changes) (buyer : Buyer) (owner : Owner) :
    PatchFits { deal with toBuyer := buyer, toOwner := owner } changes := by
  have hreq : requested { deal with toBuyer := buyer, toOwner := owner } changes =
      { requested deal changes with toBuyer := buyer, toOwner := owner } := by
    unfold requested
    split <;> rfl
  unfold PatchFits RequestNamesVehicle KeepsInputs
  rw [hreq]
  exact h

theorem copyOffer_coherent {sourceId : Uuid} {source : SalesOffer}
    (h : copyOffer reads sourceId source = .ok offer) : PriceCoherent offer.toDeal := by
  have hr := copyOffer_eq_ok h
  by_cases hs : offer.vehicleSnapshot = none
  · -- nothing was frozen, so nothing was priced
    obtain ⟨heq, -⟩ := reprice_without_snapshot hr hs
    rw [heq]
    exact PriceCoherent.of_unpriced rfl
  · exact reprice_with_snapshot hr hs

theorem createContract_coherent {data : ContractCreate} (hdb : PricesCoherent db)
    (h : createContract reads db tenantId data = .ok contract) : PriceCoherent contract.toDeal := by
  rcases createContract_eq_ok h with ⟨offerId, offer, -, hoffer, rfl⟩ | ⟨buyer, rfl⟩ |
    ⟨deal, stockItemId, vehicleLabel, rfl, hdeal⟩
  · exact contractFromOffer_coherent (hdb.1 offerId offer hoffer)
  · exact PriceCoherent.of_unpriced rfl
  · refine applyVehicleAndPricingChanges_coherent (PriceCoherent.of_unpriced rfl) ?_ hdeal
    intro hpriced
    exact absurd rfl hpriced

variable {db' : SalesDb} {request : Request}

theorem handle_prices_coherent (hdb : PricesCoherent db) (hok : KeepsPrices db (reads, request))
    (h : handle reads db request = .ok db') : PricesCoherent db' := by
  constructor
  · intro id offer' hrow
    rcases offer_cases h hrow with hold | ⟨tenantId, rfl⟩ | ⟨sourceId, source, -, hcopy⟩ |
      ⟨tenantId, ifMatch, data, offer, rfl, hoffer, hupdate⟩ |
      ⟨tenantId, ifMatch, edit, offer, deal, rfl, hoffer, hedit, rfl⟩
    · exact hdb.1 id offer' hold
    · exact PriceCoherent.of_unpriced rfl
    · exact copyOffer_coherent hcopy
    · obtain ⟨buyer, owner, hdeal⟩ := updateOffer_eq_ok hupdate
      have hc := (hdb.1 id offer hoffer).withParties buyer owner
      exact applyVehicleAndPricingChanges_coherent hc
        (PatchFits.withParties (hok offer hoffer) buyer owner) hdeal
    · exact Edit.run_coherent (hdb.1 id offer hoffer) hedit
  · intro id contract' hrow
    rcases contract_cases h hrow with hold | ⟨tenantId, data, rfl, hcreate⟩ |
      ⟨tenantId, ifMatch, data, contract, rfl, hcontract, hupdate⟩ |
      ⟨tenantId, ifMatch, edit, contract, deal, rfl, hcontract, -, hedit, rfl⟩
    · exact hdb.2 id contract' hold
    · exact createContract_coherent hdb hcreate
    · have hc := hdb.2 id contract hcontract
      obtain ⟨-, ⟨buyer, rfl⟩ | ⟨buyer, owner, deal, rfl, hdeal⟩⟩ := updateContract_eq_ok hupdate
      · exact hc.of_eq rfl rfl rfl rfl rfl
      · exact applyVehicleAndPricingChanges_coherent (hc.withParties buyer owner)
          (PatchFits.withParties (hok contract hcontract) buyer owner) hdeal
    · exact Edit.run_coherent (hdb.2 id contract hcontract) hedit

/-- **Price coherence.**  In every run whose edits of a deal priced without a
frozen vehicle name a vehicle or leave the price inputs alone, every priced
offer and contract stores what `build_up` gives for its current inputs. -/
theorem prices_coherent (valuations : Table Uuid Valuation) (requests : List (Reads × Request))
    (hok : Run.Along next KeepsPrices (noDeals valuations) requests) :
    PricesCoherent (requests.foldl next (noDeals valuations)) := by
  have hempty : PricesCoherent (noDeals valuations) := ⟨Table.forall_empty, Table.forall_empty⟩
  exact run_invariant (fun reads db request db' hinv hreq h => handle_prices_coherent hinv hreq h)
    hempty hok

instance (db : SalesDb) : ∀ a, Decidable (KeepsPrices db a)
  | (_, .updateOffer _ offerId _ data) =>
    inferInstanceAs (Decidable (∀ offer ∈ db.offers.lookup offerId,
      PatchFits offer.toDeal data.toDealChanges))
  | (_, .updateContract _ contractId _ data) =>
    inferInstanceAs (Decidable (∀ contract ∈ db.contracts.lookup contractId,
      PatchFits contract.toDeal data.1.toDealChanges))
  | (_, .createOffer _) | (_, .copyOffer ..) | (_, .editOffer ..) | (_, .createContract ..)
  | (_, .editContract ..) | (_, .createValuation _) | (_, .consumeValuation ..)
  | (_, .revertValuationUse _) => inferInstanceAs (Decidable True)

/-- An offer gets a manual car and a price, then an accessory, a discount, and
a contract that is edited in turn. -/
def pricedRun : List (Reads × Request) :=
  [({}, .createOffer 1),
    ({}, .updateOffer 1 0 1 { vehicleSource := some (some .manual)
                              vehicleLabel := some (some "Golf")
                              manualBasePrice := some (some 20000) }),
    ({}, .editOffer 1 0 2 (.replaceLineItems
      { accessories := [{ code := "T", label := "Towbar", unitPrice := 100 }] })),
    ({}, .updateOffer 1 0 3 { discountType := some (some .amount)
                              discountValue := some (some 10) }),
    ({}, .createContract 1 (.offer 0)),
    ({}, .updateContract 1 0 1 ⟨{ discountValue := some (some 20) }, by decide +kernel⟩)]

theorem prices_coherent_pricedRun : Run.Along next KeepsPrices (noDeals ∅) pricedRun ∧
      ((pricedRun.foldl next (noDeals ∅)).contracts.lookup 0).map (·.grossPrice)
        = some (some 20080) ∧ PricesCoherent (pricedRun.foldl next (noDeals ∅)) := by
  have hok : Run.Along next KeepsPrices (noDeals ∅) pricedRun := by decide +kernel
  exact ⟨hok, by decide +kernel, prices_coherent ∅ pricedRun hok⟩

/-- An accessory is put on an offer without a vehicle, then a discount. -/
def lineRun : List (Reads × Request) :=
  [({}, .createOffer 1),
    ({}, .editOffer 1 0 1 (.replaceLineItems
      { accessories := [{ code := "T", label := "Towbar", unitPrice := 100 }] })),
    ({}, .updateOffer 1 0 2 { discountType := some (some .amount)
                              discountValue := some (some 10) })]

theorem lineRun_incoherent :
    ¬ ∀ (valuations : Table Uuid Valuation) (requests : List (Reads × Request)),
      PricesCoherent (requests.foldl next (noDeals valuations)) := by
  intro h
  have hrow : ((lineRun.foldl next (noDeals ∅)).offers.lookup 0).map
      (fun offer => (offer.grossPrice, (buildUp offer.toDeal).grossPrice)) =
        some (some 100, 90) := by
    decide +kernel
  obtain ⟨offer, hoffer, hfig⟩ := Option.map_eq_some_iff.mp hrow
  obtain ⟨hgross, hbuild⟩ := Prod.mk.inj hfig
  have hcoh := ((h ∅ lineRun).1 0 offer hoffer 100 hgross).1.2.2.2.2.2.2.1
  rw [hbuild] at hcoh
  norm_num at hcoh

/-! ### Contracts stay editable -/

/-- No contract carries figures without a frozen vehicle. -/
def ContractsKeepInputs (db : SalesDb) : Prop :=
  ∀ id contract, db.contracts.lookup id = some contract →
    isPricedWithoutInputs contract.toDeal = false

/-- A contract's line items are saved only once a vehicle is frozen, and a
contract is made only from an offer that is not priced without one. -/
def KeepsInputsOfContracts (db : SalesDb) (a : Reads × Request) : Prop :=
  match a.2 with
  | .editContract _ contractId _ (.replaceLineItems _) =>
    ∀ contract ∈ db.contracts.lookup contractId, contract.vehicleSnapshot ≠ none
  | .createContract _ (.offer offerId) =>
    ∀ offer ∈ db.offers.lookup offerId, isPricedWithoutInputs offer.toDeal = false
  | _ => True

theorem isPricedWithoutInputs_eq_false : isPricedWithoutInputs deal = false ↔
      (deal.vehicleSnapshot = none → deal.grossPrice = none) := by
  unfold isPricedWithoutInputs
  cases deal.vehicleSnapshot with
  | none => simp
  | some snapshot => simp

theorem applyVehicleAndPricingChanges_keepsInputs {host : String}
    (hd : isPricedWithoutInputs deal = false)
    (h : applyVehicleAndPricingChanges reads deal changes host = .ok deal') :
    isPricedWithoutInputs deal' = false := by
  rw [isPricedWithoutInputs_eq_false] at hd ⊢
  intro hs
  obtain ⟨patched, hp, hr⟩ := applyVehicleAndPricingChanges_eq_ok h
  obtain ⟨rfl, -⟩ := reprice_without_snapshot hr hs
  obtain ⟨-, -, -, -, -, hfigures, hsnap, -⟩ := patchDeal_frame hp
  have hgross : deal'.grossPrice = deal.grossPrice := congrArg Figures.grossPrice hfigures
  exact hgross.trans (hd (hsnap.symm.trans hs))

theorem handle_contracts_keepInputs (hdb : ContractsKeepInputs db)
    (hok : KeepsInputsOfContracts db (reads, request)) (h : handle reads db request = .ok db') :
    ContractsKeepInputs db' := by
  intro id contract' hrow
  rcases contract_cases h hrow with hold | ⟨tenantId, data, rfl, hcreate⟩ |
    ⟨tenantId, ifMatch, data, contract, rfl, hcontract, hupdate⟩ |
    ⟨tenantId, ifMatch, edit, contract, deal, rfl, hcontract, -, hedit, rfl⟩
  · exact hdb id contract' hold
  · rcases createContract_eq_ok hcreate with ⟨offerId, offer, rfl, hoffer, rfl⟩ | ⟨buyer, rfl⟩ |
      ⟨deal, stockItemId, vehicleLabel, rfl, hdeal⟩
    · exact hok offer hoffer
    · rfl
    · exact applyVehicleAndPricingChanges_keepsInputs rfl hdeal
  · have hc := hdb id contract hcontract
    obtain ⟨-, ⟨buyer, rfl⟩ | ⟨buyer, owner, deal, rfl, hdeal⟩⟩ := updateContract_eq_ok hupdate
    · exact hc
    · refine applyVehicleAndPricingChanges_keepsInputs ?_ hdeal
      exact hc
  · have hc := hdb id contract hcontract
    cases edit with
    | replaceLineItems data =>
      -- the save prices the contract, whatever is frozen
      obtain ⟨hvehicle, -⟩ := replaceLineItems_frame hedit
      rw [isPricedWithoutInputs_eq_false]
      intro hs
      have hs' : deal.vehicleSnapshot = contract.vehicleSnapshot :=
        congrArg Vehicle.vehicleSnapshot hvehicle
      exact absurd (hs'.symm.trans hs) (hok contract hcontract)
    | setTradeIn data =>
      obtain ⟨vehicle, -, rfl⟩ := setTradeIn_eq_ok hedit
      obtain ⟨hvehicle, -, -, hgross⟩ := writeTradeIn_frame reads db.valuations contract.toDeal
        vehicle data.vehicleLabel
      rw [isPricedWithoutInputs_eq_false] at hc ⊢
      exact fun hs => hgross.trans (hc ((congrArg Vehicle.vehicleSnapshot hvehicle).symm.trans hs))
    | attachTradeInValuation valuationId =>
      obtain ⟨hvehicle, -, -, hgross⟩ := attachTradeInValuation_frame hedit
      rw [isPricedWithoutInputs_eq_false] at hc ⊢
      exact fun hs => hgross.trans (hc ((congrArg Vehicle.vehicleSnapshot hvehicle).symm.trans hs))

/-- **A pending contract stays editable.**  In every run that saves a
contract's line items only once a vehicle is frozen, and makes contracts only
from offers that are not priced without one, no contract is priced without its
inputs and `require_editable` accepts every pending one. -/
theorem contracts_stay_editable (valuations : Table Uuid Valuation)
    (requests : List (Reads × Request))
    (hok : Run.Along next KeepsInputsOfContracts (noDeals valuations) requests) :
    ∀ id contract, (requests.foldl next (noDeals valuations)).contracts.lookup id = some contract →
      contract.status = .pending → isPricedWithoutInputs contract.toDeal = false ∧
          requireEditableContract contract = .ok () := by
  have hempty : ContractsKeepInputs (noDeals valuations) := Table.forall_empty
  have hinv := run_invariant
    (fun reads db request db' hinv hreq h => handle_contracts_keepInputs hinv hreq h) hempty hok
  intro id contract hrow hpending
  have hinputs := hinv id contract hrow
  refine ⟨hinputs, ?_⟩
  simp [requireEditableContract, requirePending, hpending, hinputs, bind, Except.bind]

instance (db : SalesDb) : ∀ a, Decidable (KeepsInputsOfContracts db a)
  | (_, .editContract _ contractId _ (.replaceLineItems _)) =>
    inferInstanceAs (Decidable (∀ contract ∈ db.contracts.lookup contractId,
      ¬ contract.vehicleSnapshot = none))
  | (_, .createContract _ (.offer offerId)) =>
    inferInstanceAs (Decidable (∀ offer ∈ db.offers.lookup offerId,
      isPricedWithoutInputs offer.toDeal = false))
  | (_, .createContract _ (.customer _)) | (_, .createContract _ (.stockItem ..))
  | (_, .editContract _ _ _ (.setTradeIn _)) | (_, .editContract _ _ _ (.attachTradeInValuation _))
  | (_, .updateOffer ..) | (_, .updateContract ..) | (_, .createOffer _) | (_, .copyOffer ..)
  | (_, .editOffer ..) | (_, .createValuation _) | (_, .consumeValuation ..)
  | (_, .revertValuationUse _) => inferInstanceAs (Decidable True)

theorem contracts_stay_editable_pricedRun :
    Run.Along next KeepsInputsOfContracts (noDeals ∅) pricedRun ∧
      ∀ id contract, (pricedRun.foldl next (noDeals ∅)).contracts.lookup id = some contract →
        contract.status = .pending → isPricedWithoutInputs contract.toDeal = false ∧
            requireEditableContract contract = .ok () := by
  have hok : Run.Along next KeepsInputsOfContracts (noDeals ∅) pricedRun := by decide +kernel
  exact ⟨hok, contracts_stay_editable ∅ pricedRun hok⟩

/-- A contract for a customer, and an accessory before the vehicle is chosen. -/
def lockedRun : List (Reads × Request) :=
  [({ customer := fun _ _ => some {} }, .createContract 1 (.customer 7)),
    ({}, .editContract 1 0 1 (.replaceLineItems
      { accessories := [{ code := "T", label := "Towbar", unitPrice := 100 }] }))]

/-- The accessory prices the contract, and it can never be edited again. -/
theorem lockedRun_locks_contract :
    ¬ ∀ (valuations : Table Uuid Valuation) (requests : List (Reads × Request)) id contract,
      (requests.foldl next (noDeals valuations)).contracts.lookup id = some contract →
        contract.status = .pending → isPricedWithoutInputs contract.toDeal = false := by
  intro h
  have hrow : ((lockedRun.foldl next (noDeals ∅)).contracts.lookup 0).map
      (fun contract => (contract.status, isPricedWithoutInputs contract.toDeal)) =
        some (.pending, true) := by
    decide +kernel
  obtain ⟨contract, hcontract, hfig⟩ := Option.map_eq_some_iff.mp hrow
  obtain ⟨hpending, hpriced⟩ := Prod.mk.inj hfig
  have hfree := h ∅ lockedRun 0 contract hcontract hpending
  rw [hpriced] at hfree
  cases hfree

/-! ### The trade-in -/

/-- Every trade-in is described by its recorded valuation. -/
def TradeInsDescribe (db : SalesDb) : Prop :=
  (∀ id offer, db.offers.lookup id = some offer →
    TradeInDescribes db.valuations offer.toTradeIn) ∧
  ∀ id contract, db.contracts.lookup id = some contract →
    TradeInDescribes db.valuations contract.toTradeIn

/-- The edit leaves no column of another car behind: the recorded car's newest
valid valuation brings a configuration if the deal carries one, or the car has
no valid valuation and the recorded one is not of another car; an attached
valuation is of the recorded car and brings a configuration if the deal
carries one. -/
def Edit.Fits (reads : Reads) (valuations : Table Uuid Valuation) (deal : Deal) : Edit → Prop
  | .replaceLineItems _ => True
  | .setTradeIn data => ∀ vehicle ∈ (resolveTradeIn reads deal data).toOption,
      RecordFits valuations reads.now deal vehicle
  | .attachTradeInValuation valuationId =>
    ∀ valuation ∈ valuations.lookup valuationId, AttachFits deal.toTradeIn valuation

def KeepsTradeIns (db : SalesDb) (a : Reads × Request) : Prop :=
  match a.2 with
  | .editOffer _ offerId _ edit =>
    ∀ offer ∈ db.offers.lookup offerId, edit.Fits a.1 db.valuations offer.toDeal
  | .editContract _ contractId _ edit =>
    ∀ contract ∈ db.contracts.lookup contractId, edit.Fits a.1 db.valuations contract.toDeal
  | _ => True

theorem valuation_kept (h : handle reads db request = .ok db') {id : Uuid} {valuation : Valuation}
    (hrow : db.valuations.lookup id = some valuation) :
    ∃ valuation', db'.valuations.lookup id = some valuation' ∧
      valuation'.vehicleId = valuation.vehicleId ∧ valuation'.finalOffer = valuation.finalOffer ∧
      valuation'.configurationId = valuation.configurationId := by
  have hstamp : ∀ (key : Uuid) (stamp : Option Time), ∃ valuation',
      (Table.modify key (fun v => { v with usedAt := stamp }) db.valuations).lookup id
        = some valuation' ∧
      valuation'.vehicleId = valuation.vehicleId ∧ valuation'.finalOffer = valuation.finalOffer ∧
      valuation'.configurationId = valuation.configurationId := by
    intro key stamp
    rw [Table.lookup_modify, hrow]
    split
    · exact ⟨_, rfl, rfl, rfl, rfl⟩
    · exact ⟨_, rfl, rfl, rfl, rfl⟩
  cases handled_of_ok h with
  | createValuation row hfresh =>
    refine ⟨valuation, ?_, rfl, rfl, rfl⟩
    rw [Table.lookup_insert_iff, if_neg, hrow]
    intro heq
    rw [heq, hfresh] at hrow
    cases hrow
  | consumeValuation tenantId valuationId valuations newlyUsed hconsume =>
    -- refused, used before, or stamped now
    obtain ⟨v, -, hconsume⟩ := Result.of_bind hconsume
    split at hconsume
    · cases hconsume
    · split at hconsume
      · cases hconsume
        exact ⟨valuation, hrow, rfl, rfl, rfl⟩
      · cases hconsume
        exact hstamp valuationId _
  | revertValuationUse valuationId => exact hstamp valuationId none
  | createOffer | copyOffer | updateOffer | editOffer | createContract | updateContract
  | editContract => exact ⟨valuation, hrow, rfl, rfl, rfl⟩

theorem TradeInDescribes.mono {valuations' : Table Uuid Valuation} {tradeIn : TradeIn}
    (h : TradeInDescribes valuations tradeIn)
    (hkept : ∀ id valuation, valuations.lookup id = some valuation →
      ∃ valuation', valuations'.lookup id = some valuation' ∧
        valuation'.vehicleId = valuation.vehicleId ∧ valuation'.finalOffer = valuation.finalOffer ∧
        valuation'.configurationId = valuation.configurationId) :
    TradeInDescribes valuations' tradeIn := by
  refine ⟨h.1, fun valuationId hid => ?_⟩
  obtain ⟨valuation, hrow, hcar, hvalue, hcfg⟩ := h.2 valuationId hid
  obtain ⟨valuation', hrow', h1, h2, h3⟩ := hkept valuationId valuation hrow
  exact ⟨valuation', hrow', by rw [h1]; exact hcar, by rw [h2]; exact hvalue,
    by rw [h3]; exact hcfg⟩

theorem Edit.run_describes (hd : TradeInDescribes valuations deal.toTradeIn)
    (hfits : edit.Fits reads valuations deal) (h : edit.run reads valuations deal = .ok deal') :
    TradeInDescribes valuations deal'.toTradeIn := by
  cases edit with
  | replaceLineItems data =>
    obtain ⟨-, htrade, -⟩ := replaceLineItems_frame h
    rw [htrade]
    exact hd
  | setTradeIn data =>
    obtain ⟨vehicle, hvehicle, rfl⟩ := setTradeIn_eq_ok h
    rw [writeTradeIn, (finishTradeIn_frame _ _).1]
    refine (record_describes hd).mpr (hfits vehicle ?_)
    rw [hvehicle]
    rfl
  | attachTradeInValuation valuationId =>
    obtain ⟨valuation, hvaluation, rfl⟩ := attachTradeInValuation_eq_ok h
    rw [(finishTradeIn_frame _ _).1]
    exact (attach_describes hvaluation).mpr (hfits valuation hvaluation)

theorem tradeInDescribes_empty (valuations : Table Uuid Valuation) :
    TradeInDescribes valuations {} :=
  ⟨fun _ => rfl, nofun⟩

theorem handle_tradeIns_describe (hdb : TradeInsDescribe db)
    (hok : KeepsTradeIns db (reads, request)) (h : handle reads db request = .ok db') :
    TradeInsDescribe db' := by
  -- what holds under the old valuations holds under the new ones
  have hmono : ∀ tradeIn, TradeInDescribes db.valuations tradeIn →
      TradeInDescribes db'.valuations tradeIn :=
    fun tradeIn hd => hd.mono fun id valuation hrow => valuation_kept h hrow
  constructor
  · intro id offer' hrow
    refine hmono _ ?_
    rcases offer_cases h hrow with hold | ⟨tenantId, rfl⟩ | ⟨sourceId, source, hsource, hcopy⟩ |
      ⟨tenantId, ifMatch, data, offer, rfl, hoffer, hupdate⟩ |
      ⟨tenantId, ifMatch, edit, offer, deal, rfl, hoffer, hedit, rfl⟩
    · exact hdb.1 id offer' hold
    · exact tradeInDescribes_empty _
    · obtain ⟨htrade, -⟩ := repriceDeal_frame (copyOffer_eq_ok hcopy)
      rw [htrade]
      exact hdb.1 sourceId source hsource
    · obtain ⟨buyer, owner, hdeal⟩ := updateOffer_eq_ok hupdate
      obtain ⟨htrade, -⟩ := applyVehicleAndPricingChanges_frame hdeal
      rw [htrade]
      exact hdb.1 id offer hoffer
    · exact Edit.run_describes (hdb.1 id offer hoffer) (hok offer hoffer) hedit
  · intro id contract' hrow
    refine hmono _ ?_
    rcases contract_cases h hrow with hold | ⟨tenantId, data, rfl, hcreate⟩ |
      ⟨tenantId, ifMatch, data, contract, rfl, hcontract, hupdate⟩ |
      ⟨tenantId, ifMatch, edit, contract, deal, rfl, hcontract, -, hedit, rfl⟩
    · exact hdb.2 id contract' hold
    · rcases createContract_eq_ok hcreate with ⟨offerId, offer, rfl, hoffer, rfl⟩ | ⟨buyer, rfl⟩ |
        ⟨deal, stockItemId, vehicleLabel, rfl, hdeal⟩
      · exact hdb.1 offerId offer hoffer
      · exact tradeInDescribes_empty _
      · obtain ⟨htrade, -⟩ := applyVehicleAndPricingChanges_frame hdeal
        show TradeInDescribes db.valuations deal.toTradeIn
        rw [htrade]
        exact tradeInDescribes_empty _
    · obtain ⟨-, ⟨buyer, rfl⟩ | ⟨buyer, owner, deal, rfl, hdeal⟩⟩ := updateContract_eq_ok hupdate
      · exact hdb.2 id contract hcontract
      · obtain ⟨htrade, -⟩ := applyVehicleAndPricingChanges_frame hdeal
        show TradeInDescribes db.valuations deal.toTradeIn
        rw [htrade]
        exact hdb.2 id contract hcontract
    · exact Edit.run_describes (hdb.2 id contract hcontract) (hok contract hcontract) hedit

/-- **Trade-in coherence.**  In every run whose trade-in edits fit the deal
they are made on, the recorded valuation of every deal is one of the recorded
car, and the recorded value and configuration are that valuation's. -/
theorem tradeIns_describe (valuations : Table Uuid Valuation) (requests : List (Reads × Request))
    (hok : Run.Along next KeepsTradeIns (noDeals valuations) requests) :
    TradeInsDescribe (requests.foldl next (noDeals valuations)) := by
  have hempty : TradeInsDescribe (noDeals valuations) := ⟨Table.forall_empty, Table.forall_empty⟩
  exact run_invariant (fun reads db request db' hinv hreq h => handle_tradeIns_describe hinv hreq h)
    hempty hok

instance (reads : Reads) (valuations : Table Uuid Valuation) (deal : Deal) :
    ∀ edit, Decidable (Edit.Fits reads valuations deal edit)
  | .replaceLineItems _ => inferInstanceAs (Decidable True)
  | .setTradeIn data => inferInstanceAs (Decidable
      (∀ vehicle ∈ (resolveTradeIn reads deal data).toOption,
        RecordFits valuations reads.now deal vehicle))
  | .attachTradeInValuation valuationId => inferInstanceAs (Decidable
      (∀ valuation ∈ valuations.lookup valuationId, AttachFits deal.toTradeIn valuation))

instance (db : SalesDb) : ∀ a, Decidable (KeepsTradeIns db a)
  | (reads, .editOffer _ offerId _ edit) => inferInstanceAs (Decidable
      (∀ offer ∈ db.offers.lookup offerId, edit.Fits reads db.valuations offer.toDeal))
  | (reads, .editContract _ contractId _ edit) => inferInstanceAs (Decidable
      (∀ contract ∈ db.contracts.lookup contractId,
        edit.Fits reads db.valuations contract.toDeal))
  | (_, .updateOffer ..) | (_, .updateContract ..) | (_, .createOffer _) | (_, .copyOffer ..)
  | (_, .createContract ..) | (_, .createValuation _) | (_, .consumeValuation ..)
  | (_, .revertValuationUse _) => inferInstanceAs (Decidable True)

def twoVehicles : Reads where
  resolveVehicle vin := if vin = "A" then .ok ⟨100, "A"⟩ else .ok ⟨200, vin⟩

def oneValuation : Table Uuid Valuation :=
  AList.insert 5 { tenantId := 1, vehicleId := some 100, finalOffer := 9000 } ∅

/-- The car with a valuation is traded in, on an offer and its contract. -/
def valuedRun : List (Reads × Request) :=
  [({}, .createOffer 1),
    (twoVehicles, .editOffer 1 0 1 (.setTradeIn { vin := some "A", vehicleLabel := "Golf" })),
    ({}, .createContract 1 (.offer 0)),
    (twoVehicles, .editContract 1 0 1 (.attachTradeInValuation 5))]

theorem tradeIns_describe_valuedRun :
    Run.Along next KeepsTradeIns (noDeals oneValuation) valuedRun ∧
      ((valuedRun.foldl next (noDeals oneValuation)).contracts.lookup 0).map (·.tradeInValue)
        = some (some 9000) ∧ TradeInsDescribe (valuedRun.foldl next (noDeals oneValuation)) := by
  have hok : Run.Along next KeepsTradeIns (noDeals oneValuation) valuedRun := by decide +kernel
  exact ⟨hok, by decide +kernel, tradeIns_describe oneValuation valuedRun hok⟩

/-- The traded-in car is replaced by one nobody has valued. -/
def replacedRun : List (Reads × Request) :=
  [({}, .createOffer 1),
    (twoVehicles, .editOffer 1 0 1 (.setTradeIn { vin := some "A", vehicleLabel := "Golf" })),
    (twoVehicles, .editOffer 1 0 2 (.setTradeIn { vin := some "B", vehicleLabel := "Polo" }))]

theorem replacedRun_keeps_former_value :
    ¬ ∀ (valuations : Table Uuid Valuation) (requests : List (Reads × Request)),
      TradeInsDescribe (requests.foldl next (noDeals valuations)) := by
  intro h
  have hrow : ((replacedRun.foldl next (noDeals oneValuation)).offers.lookup 0).map
      (fun offer => (offer.tradeInVehicleId, offer.tradeInValuationId)) =
        some (some 200, some 5) := by
    decide +kernel
  have hvaluation : ((replacedRun.foldl next (noDeals oneValuation)).valuations.lookup 5).map
      (·.vehicleId) = some (some 100) := by
    decide +kernel
  obtain ⟨offer, hoffer, hfig⟩ := Option.map_eq_some_iff.mp hrow
  obtain ⟨hcar, hid⟩ := Prod.mk.inj hfig
  obtain ⟨valuation, hval, hvalued⟩ := Option.map_eq_some_iff.mp hvaluation
  obtain ⟨w, hw, hsame, -⟩ := ((h oneValuation replacedRun).1 0 offer hoffer).2 5 hid
  have hwv : w = valuation := Option.mem_unique hw hval
  subst hwv
  exact absurd (hsame 100 hvalued 200 hcar) (by decide)

end Nexotec
