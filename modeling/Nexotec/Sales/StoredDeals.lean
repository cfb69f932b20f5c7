/-
Offers and contracts as the database keeps them (`app/sales/models`).

Every amount of a deal and of its lines is a `DECIMAL(12, 2)` column.  Python
computes with the numbers of the request; a column is rounded on its own when it
is written, a tie going away from zero, and a number with more than ten digits
before the point is refused.  The snapshot is JSON and keeps its texts.
-/
import Nexotec.Core.Columns
import Nexotec.Sales.DealRuns

namespace Nexotec

open Rounding

/-! ### Columns -/

/-- What a schema admits as money has two decimals. -/
theorem cents_of_isMoney {x : Decimal} (h : isMoney x = true) : Cents x := by
  simp only [isMoney, decide_eq_true_eq] at h
  exact ⟨(x * 100).num, ((Rat.den_eq_one_iff _).mp h.2.1).symm⟩

/-- A line with each column rounded. -/
def LineItem.stored (li : LineItem) : LineItem :=
  { li with
    unitPrice := column li.unitPrice
    discountValue := li.discountValue.map column
    discountResolvedAmount := li.discountResolvedAmount.map column }

/-- What a line writes into its money columns. -/
def LineItem.amounts (li : LineItem) : List Decimal :=
  li.unitPrice :: (li.discountValue.toList ++ li.discountResolvedAmount.toList)

/-- The build-up with each column rounded on its own. -/
def Figures.stored (figures : Figures) : Figures where
  basePrice := figures.basePrice.map column
  optionsTotal := figures.optionsTotal.map column
  listPrice := figures.listPrice.map column
  accessoriesTotal := figures.accessoriesTotal.map column
  totalBeforeDiscount := figures.totalBeforeDiscount.map column
  discountAmount := figures.discountAmount.map column
  grossPrice := figures.grossPrice.map column
  costBasis := figures.costBasis.map column
  margin := figures.margin.map column
  payable := figures.payable.map column

def Figures.amounts (figures : Figures) : List Decimal :=
  [figures.basePrice, figures.optionsTotal, figures.listPrice, figures.accessoriesTotal,
    figures.totalBeforeDiscount, figures.discountAmount, figures.grossPrice, figures.costBasis,
    figures.margin, figures.payable].flatMap Option.toList

/-- The two amounts of the trade-in; the rest of it is no money. -/
def TradeIn.stored (tradeIn : TradeIn) : TradeIn :=
  { tradeIn with
    tradeInValue := tradeIn.tradeInValue.map column
    tradeInPurchasePrice := tradeIn.tradeInPurchasePrice.map column }

/-- A deal with each column rounded. -/
def Deal.stored (deal : Deal) : Deal :=
  { deal with
    manualBasePrice := deal.manualBasePrice.map column
    discountValue := deal.discountValue.map column
    lines := deal.lines.map LineItem.stored
    toFigures := deal.toFigures.stored
    toTradeIn := deal.toTradeIn.stored }

/-- Every amount a deal writes. -/
def Deal.amounts (deal : Deal) : List Decimal :=
  [deal.manualBasePrice, deal.discountValue, deal.tradeInValue,
    deal.tradeInPurchasePrice].flatMap Option.toList ++
    (deal.toFigures.amounts ++ deal.lines.flatMap LineItem.amounts)

/-- An offer has one amount beside its deal. -/
def SalesOffer.stored (offer : SalesOffer) : SalesOffer :=
  { offer with
    toDeal := offer.toDeal.stored
    leasingDownPayment := offer.leasingDownPayment.map column }

def SalesContract.stored (contract : SalesContract) : SalesContract :=
  { contract with toDeal := contract.toDeal.stored }

def Valuation.stored (valuation : Valuation) : Valuation :=
  { valuation with finalOffer := column valuation.finalOffer }

/-! ### Requests with their commit -/

/-- Every amount has room in its column. -/
def SalesDb.fits (db : SalesDb) : Bool :=
  (db.offers.entries.all fun e =>
    (e.2.leasingDownPayment.toList ++ e.2.toDeal.amounts).all fitsColumn) &&
  (db.contracts.entries.all fun e => e.2.toDeal.amounts.all fitsColumn) &&
  db.valuations.entries.all fun e => fitsColumn e.2.finalOffer

/-- The flush: every column rounded, or a number that does not fit. -/
def SalesDb.store (db : SalesDb) : Result SalesDb :=
  if db.fits then
    .ok {
      offers := db.offers.mapRows fun _ offer => offer.stored
      contracts := db.contracts.mapRows fun _ contract => contract.stored
      valuations := db.valuations.mapRows fun _ valuation => valuation.stored }
  else .error (internalError "numeric field overflow")

/-- The amounts a freeze reads from a stock item. -/
def StockItem.amounts (item : StockItem) : List Decimal :=
  [item.basePrice, item.listPrice, item.effectivePrice, item.purchasePrice, item.landedCost,
    item.notionalInputTaxAmount].flatMap Option.toList ++ item.options.map (·.price)

def HostConfiguration.amounts (configuration : HostConfiguration) : List Decimal :=
  configuration.basePrice.toList ++ configuration.priceLines.map (·.price)

/-- The amounts read from stock and from a configuration come out of
`DECIMAL(12, 2)` columns as well. -/
def Reads.FromColumns (reads : Reads) : Prop :=
  (∀ tenantId id configuration, reads.configuration tenantId id = some configuration →
    ∀ x ∈ configuration.amounts, Cents x) ∧
  ∀ id item, reads.stockItems.lookup id = some item → ∀ x ∈ item.amounts, Cents x

/-- The reads of a request, with what their columns promise. -/
abbrev ColumnReads := { reads : Reads // reads.FromColumns }

/-- A request with its commit. -/
def handleStored (reads : Reads) (db : SalesDb) (request : Request) : Result SalesDb := do
  let db ← handle reads db request
  db.store

/-- A request that is refused, or does not fit, leaves the tables. -/
def nextStored (db : SalesDb) (a : ColumnReads × Request) : SalesDb :=
  match handleStored a.1 db a.2 with
  | .ok db' => db'
  | .error _ => db

section Rows

variable {reads : Reads} {db db' : SalesDb} {request : Request}

/-- A flush that goes through rounds every row and nothing else. -/
theorem store_eq_ok (h : db.store = .ok db') :
    db'.offers = db.offers.mapRows (fun _ offer => offer.stored) ∧
      db'.contracts = db.contracts.mapRows (fun _ contract => contract.stored) ∧
      db'.valuations = db.valuations.mapRows fun _ valuation => valuation.stored := by
  unfold SalesDb.store at h
  split at h
  · cases h
    exact ⟨rfl, rfl, rfl⟩
  · cases h

theorem handleStored_eq_ok (h : handleStored reads db request = .ok db') :
    ∃ written, handle reads db request = .ok written ∧ written.store = .ok db' :=
  Result.of_bind h

theorem handleStored_of_isOk {reads : ColumnReads} (h : (handleStored reads db request).isOk = true) :
    handleStored reads db request = .ok (nextStored db (reads, request)) := by
  unfold nextStored
  cases hstored : handleStored reads db request with
  | ok db' => rfl
  | error e =>
    rw [hstored] at h
    cases h

/-- A stored offer is a written one, rounded. -/
theorem lookup_storedOffer {id : Uuid} {offer : SalesOffer} (h : db.store = .ok db')
    (hrow : db'.offers.lookup id = some offer) :
    ∃ written, db.offers.lookup id = some written ∧ offer = written.stored := by
  rw [(store_eq_ok h).1, Table.lookup_mapRows] at hrow
  obtain ⟨written, hwritten, rfl⟩ := Option.map_eq_some_iff.mp hrow
  exact ⟨written, hwritten, rfl⟩

theorem lookup_storedContract {id : Uuid} {contract : SalesContract} (h : db.store = .ok db')
    (hrow : db'.contracts.lookup id = some contract) :
    ∃ written, db.contracts.lookup id = some written ∧ contract = written.stored := by
  rw [(store_eq_ok h).2.1, Table.lookup_mapRows] at hrow
  obtain ⟨written, hwritten, rfl⟩ := Option.map_eq_some_iff.mp hrow
  exact ⟨written, hwritten, rfl⟩

theorem lookup_storedValuation {id : Uuid} {valuation : Valuation} (h : db.store = .ok db')
    (hrow : db'.valuations.lookup id = some valuation) :
    ∃ written, db.valuations.lookup id = some written ∧ valuation = written.stored := by
  rw [(store_eq_ok h).2.2, Table.lookup_mapRows] at hrow
  obtain ⟨written, hwritten, rfl⟩ := Option.map_eq_some_iff.mp hrow
  exact ⟨written, hwritten, rfl⟩

/-- The rule of runs: what handler and flush together keep. -/
theorem storedRun_invariant {ok : SalesDb → ColumnReads × Request → Prop} {Inv : SalesDb → Prop}
    (hstep : ∀ (reads : ColumnReads) db request written db', Inv db → ok db (reads, request) →
      handle reads db request = .ok written → written.store = .ok db' → Inv db')
    {requests : List (ColumnReads × Request)} (hdb : Inv db)
    (hok : Run.Along nextStored ok db requests) : Inv (requests.foldl nextStored db) := by
  refine Run.invariant_along (fun db a hinv ha => ?_) hdb hok
  obtain ⟨reads, request⟩ := a
  unfold nextStored
  cases h : handleStored reads db request with
  | error e => exact hinv
  | ok db' =>
    obtain ⟨written, hhandle, hstore⟩ := handleStored_eq_ok h
    exact hstep reads db request written db' hinv ha hhandle hstore

end Rows

end Nexotec
