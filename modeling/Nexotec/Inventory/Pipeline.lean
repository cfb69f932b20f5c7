/-
What Stock does with `sales.contract.confirmed`
(`app/inventory/services/pipeline.py`): one pipeline item for a manual
configuration, created reserved for its contract unless Stock already knows
the contract as cancelled, and one for a trade-in.

Here the handler is one transaction; `Nexotec.Inventory.Delivery` takes it
apart for several workers at once, and `Nexotec.Inventory.DeliveryHandlers`
puts it together again.  `handleSalesContractConfirmed_lookup` says where an
item comes from after the handler ran.
-/
import Nexotec.Inventory.Reservation
import Nexotec.Sales.Confirm

namespace Nexotec

/-- What a delivery draws and reads: the clock, new ids and stock numbers, and
the valuations. -/
structure ConsumerReads where
  now : Time := 0
  uuid : ℕ → Uuid := id
  stockNumber : ℕ → String := fun _ => ""
  valuations : Table Uuid Valuation := ∅

/-- The item under a `pipeline_ref` of the tenant. -/
def findPipelineItem (items : Table Uuid StockItem) (tenantId : Uuid) (ref : PipelineRef) :
    Option (Uuid × StockItem) :=
  items.search fun _ item => item.tenantId = tenantId ∧ item.pipelineRef = some ref

/-- `_build_and_flush_stock_item` for a car without a VIN.  A label that is
`null` fails the validation of `StockItemCreate`. -/
def buildPipelineItem (reads : ConsumerReads) (tenantId : Uuid) (k : ℕ)
    (vehicleLabel : Option String) (condition : StockItemCondition) (ref : PipelineRef)
    (configurationId : Option Uuid) : Result StockItem :=
  match vehicleLabel with
  | none => .error (internalError "vehicle_label: Input should be a valid string")
  | some label => .ok
      { tenantId := tenantId
        stockNumber := reads.stockNumber k
        vehicleLabel := label
        lifecycleStatus := .pipeline
        condition := condition
        pipelineRef := some ref
        configurationId := configurationId
        configurationLabel := if configurationId.isSome then some label else none
        updatedAt := reads.now }

/-- `_create_pipeline_item_idempotent`: the items, the item's id, and whether
this call created it. -/
def createPipelineItemIdempotent (reads : ConsumerReads) (items : Table Uuid StockItem)
    (tenantId : Uuid) (k : ℕ) (vehicleLabel : Option String) (condition : StockItemCondition)
    (ref : PipelineRef) (configurationId : Option Uuid) :
    Result (Table Uuid StockItem × Uuid × Bool) :=
  match findPipelineItem items tenantId ref with
  | some (existing, _) => .ok (items, existing, false)
  | none => do
    let item ← buildPipelineItem reads tenantId k vehicleLabel condition ref configurationId
    let items ← insertRow items (reads.uuid k) item
    pure (items, reads.uuid k, true)

/-- `StockItemCondition(value)`. -/
def stockItemCondition (value : Option String) : Result StockItemCondition :=
  match value.bind StockItemCondition.ofValue with
  | some condition => .ok condition
  | none => .error (internalError "is not a valid StockItemCondition")

def handleManualConfiguration (reads : ConsumerReads) (stock : StockDb) (tenantId contractId : Uuid)
    (manual : ManualConfiguration) : Result StockDb := do
  let condition ← stockItemCondition manual.condition
  let (items, ordered, created) ← createPipelineItemIdempotent reads stock.items tenantId 0
    manual.vehicleLabel condition ⟨contractId, .manual⟩ manual.configurationId
  if created ∧ contractIsCancelled stock tenantId contractId = false then
    pure { stock with
      items := items.modify ordered (reserveAndFlush reads.now contractId (reads.uuid 1)) }
  else pure { stock with items := items }

def applyValuationRef (valuationId : Uuid) (amount : Decimal) (item : StockItem) : StockItem :=
  { item with valuationRefId := some valuationId, valuationRefAmount := some amount }

def handleTradeIn (reads : ConsumerReads) (stock : StockDb) (tenantId contractId : Uuid)
    (tradeIn : TradeInPayload) : Result StockDb := do
  let condition ← stockItemCondition (some tradeIn.condition)
  let (items, id, _) ← createPipelineItemIdempotent reads stock.items tenantId 2
    tradeIn.vehicleLabel condition ⟨contractId, .tradeIn⟩ tradeIn.configurationId
  match tradeIn.valuationId with
  | none => pure { stock with items := items }
  | some valuationId => do
    let valuation ← getValuationOr404 reads.valuations tenantId valuationId
    pure { stock with
      items := items.modify id (applyValuationRef valuationId valuation.finalOffer) }

/-- A part of the payload that may be `null`. -/
def handlePart {α : Type} (part : Option α) (handler : StockDb → α → Result StockDb)
    (stock : StockDb) : Result StockDb :=
  match part with
  | some a => handler stock a
  | none => .ok stock

def handleSalesContractConfirmed (reads : ConsumerReads) (stock : StockDb) (tenantId : Uuid)
    (payload : ConfirmedPayload) : Result StockDb := do
  let stock ← handlePart payload.manualConfiguration
    (handleManualConfiguration reads · tenantId payload.contractId) stock
  handlePart payload.tradeIn (handleTradeIn reads · tenantId payload.contractId) stock

/-! ### What it does -/

/-- The item was there with the same reservation and pipeline reference, or is
a new pipeline item of `contractId`: free, or the manual one reserved for it
under the id drawn for the reservation. -/
def ComesFrom (reads : ConsumerReads) (items : Table Uuid StockItem) (contractId : Uuid) (id : Uuid)
    (item' : StockItem) : Prop :=
  (∃ item, items.lookup id = some item ∧ item'.reservation = item.reservation ∧
    item'.pipelineRef = item.pipelineRef ∧ item'.tenantId = item.tenantId ∧
    item'.leftStockAt = item.leftStockAt) ∨
  (items.lookup id = none ∧ item'.reservation = (.none, none, none)) ∨
  (items.lookup id = none ∧ id = reads.uuid 0 ∧ item'.pipelineRef = some ⟨contractId, .manual⟩ ∧
    item'.reservation = (.reserved, some contractId, some (reads.uuid 1)))

variable {reads : ConsumerReads} {tenantId : Uuid} {k : ℕ} {vehicleLabel : Option String}
  {condition : StockItemCondition} {ref : PipelineRef} {configurationId : Option Uuid}
  {item : StockItem}

theorem buildPipelineItem_eq_ok
    (h : buildPipelineItem reads tenantId k vehicleLabel condition ref configurationId = .ok item) :
    item.reservation = (.none, none, none) ∧ item.pipelineRef = some ref ∧
      item.tenantId = tenantId := by
  cases vehicleLabel with
  | none => cases h
  | some label =>
    cases h
    exact ⟨rfl, rfl, rfl⟩

variable {items items' : Table Uuid StockItem} {id : Uuid} {created : Bool}

theorem createPipelineItemIdempotent_eq_ok
    (h : createPipelineItemIdempotent reads items tenantId k vehicleLabel condition ref
      configurationId = .ok (items', id, created)) : (created = false ∧ items' = items) ∨
    (created = true ∧ id = reads.uuid k ∧ items.lookup id = none ∧
      ∃ item, items' = items.insert id item ∧ item.reservation = (.none, none, none) ∧
        item.pipelineRef = some ref ∧ item.tenantId = tenantId) := by
  unfold createPipelineItemIdempotent at h
  cases hfound : findPipelineItem items tenantId ref with
  | some found =>
    simp only [hfound] at h
    cases h
    exact .inl ⟨rfl, rfl⟩
  | none =>
    simp only [hfound] at h
    obtain ⟨item, hitem, h⟩ := Result.of_bind h
    obtain ⟨inserted, hinserted, h⟩ := Result.of_bind h
    cases h
    obtain ⟨hfresh, rfl⟩ := insertRow_eq_ok hinserted
    exact .inr ⟨rfl, rfl, hfresh, item, rfl, buildPipelineItem_eq_ok hitem⟩

variable {contractId : Uuid}

/-- What is done for one half of the payload: nothing, a write that leaves an item where it comes
from, or a new pipeline item of the contract, reserved for it if it is the manual one. -/
inductive PartHandled (reads : ConsumerReads) (tenantId contractId : Uuid) (stock stock' : StockDb) : Prop
  | same (hstock : stock' = stock)
  | changed (key : Uuid) (f : StockItem → StockItem)
      (hf : ∀ item, (f item).reservation = item.reservation ∧
        (f item).pipelineRef = item.pipelineRef ∧ (f item).tenantId = item.tenantId ∧
        (f item).leftStockAt = item.leftStockAt)
      (hstock : stock' = { stock with items := stock.items.modify key f })
  | created (key : Uuid) (new : StockItem) (role : PipelineRole)
      (hfresh : stock.items.lookup key = none) (href : new.pipelineRef = some ⟨contractId, role⟩)
      (htenant : new.tenantId = tenantId)
      (hreserved : new.reservation = (.none, none, none) ∨ key = reads.uuid 0 ∧ role = .manual ∧
        new.reservation = (.reserved, some contractId, some (reads.uuid 1)))
      (hstock : stock' = { stock with items := stock.items.insert key new })

variable {stock stock' : StockDb} {manual : ManualConfiguration} {item' : StockItem}
  {tradeIn : TradeInPayload}

theorem handleManualConfiguration_handled
    (h : handleManualConfiguration reads stock tenantId contractId manual = .ok stock') :
    PartHandled reads tenantId contractId stock stock' := by
  obtain ⟨condition, -, h⟩ := Result.of_bind h
  obtain ⟨⟨items, ordered, created⟩, hcreate, h⟩ := Result.of_bind h
  rcases createPipelineItemIdempotent_eq_ok hcreate with ⟨rfl, rfl⟩ |
    ⟨rfl, hid, hfresh, new, rfl, hfree, href, htenant⟩
  · -- the item was there: nothing is written
    simp only [Bool.false_eq_true, false_and, if_false] at h
    cases h
    exact .same rfl
  · simp only [true_and] at h
    split at h
    · cases h
      rw [Table.modify_insert_self hfresh]
      exact .created ordered (reserveAndFlush reads.now contractId (reads.uuid 1) new) .manual
        hfresh href htenant (.inr ⟨hid, rfl, rfl⟩) rfl
    · cases h
      exact .created ordered new .manual hfresh href htenant (.inl hfree) rfl

theorem handleTradeIn_handled
    (h : handleTradeIn reads stock tenantId contractId tradeIn = .ok stock') :
    PartHandled reads tenantId contractId stock stock' := by
  obtain ⟨condition, -, h⟩ := Result.of_bind h
  obtain ⟨⟨items, key, created⟩, hcreate, h⟩ := Result.of_bind h
  have hcases := createPipelineItemIdempotent_eq_ok hcreate
  cases hvaluation : tradeIn.valuationId with
  | none =>
    simp only [hvaluation] at h
    cases h
    rcases hcases with ⟨-, rfl⟩ | ⟨-, -, hfresh, new, rfl, hfree, href, htenant⟩
    · exact .same rfl
    · exact .created key new .tradeIn hfresh href htenant (.inl hfree) rfl
  | some valuationId =>
    simp only [hvaluation] at h
    obtain ⟨valuation, -, h⟩ := Result.of_bind h
    cases h
    rcases hcases with ⟨-, rfl⟩ | ⟨-, -, hfresh, new, rfl, hfree, href, htenant⟩
    · exact .changed key (applyValuationRef valuationId valuation.finalOffer)
        (fun _ => ⟨rfl, rfl, rfl, rfl⟩) rfl
    · rw [Table.modify_insert_self hfresh]
      exact .created key (applyValuationRef valuationId valuation.finalOffer new) .tradeIn
        hfresh href htenant (.inl hfree) rfl

variable {payload : ConfirmedPayload}

theorem handleSalesContractConfirmed_handled
    (h : handleSalesContractConfirmed reads stock tenantId payload = .ok stock') :
    ∃ middle, PartHandled reads tenantId payload.contractId stock middle ∧
      PartHandled reads tenantId payload.contractId middle stock' := by
  obtain ⟨middle, hmanual, htrade⟩ := Result.of_bind h
  refine ⟨middle, ?_, ?_⟩
  · unfold handlePart at hmanual
    split at hmanual
    · exact handleManualConfiguration_handled hmanual
    · cases hmanual
      exact .same rfl
  · unfold handlePart at htrade
    split at htrade
    · exact handleTradeIn_handled htrade
    · cases htrade
      exact .same rfl

/-! ### What it leaves -/

/-- An item that is there keeps its reservation and its pipeline reference. -/
def KeepsItem (items : Table Uuid StockItem) (id : Uuid) (item : StockItem) : Prop :=
  ∃ item', items.lookup id = some item' ∧ item'.reservation = item.reservation ∧
    item'.pipelineRef = item.pipelineRef ∧ item'.tenantId = item.tenantId ∧
    item'.leftStockAt = item.leftStockAt

theorem KeepsItem.refl (h : items.lookup id = some item) : KeepsItem items id item :=
  ⟨item, h, rfl, rfl, rfl, rfl⟩

theorem PartHandled.keeps (h : PartHandled reads tenantId contractId stock stock')
    (hrow : stock.items.lookup id = some item) : KeepsItem stock'.items id item := by
  cases h with
  | same hstock => exact hstock ▸ .refl hrow
  | changed key f hf hstock =>
    rw [hstock, KeepsItem, Table.lookup_modify, hrow]
    split
    · exact ⟨f item, rfl, hf item⟩
    · exact ⟨item, rfl, rfl, rfl, rfl, rfl⟩
  | created key new role hfresh _ _ _ hstock =>
    have hne : id ≠ key := by
      rintro rfl
      rw [hfresh] at hrow
      cases hrow
    rw [hstock]
    exact .refl ((Table.lookup_insert_iff ..).trans ((if_neg hne).trans hrow))

theorem handleSalesContractConfirmed_keeps
    (h : handleSalesContractConfirmed reads stock tenantId payload = .ok stock')
    (hrow : stock.items.lookup id = some item) : KeepsItem stock'.items id item := by
  obtain ⟨middle, hmanual, htrade⟩ := handleSalesContractConfirmed_handled h
  obtain ⟨item', hitem', h1, h2, h3, h4⟩ := hmanual.keeps hrow
  obtain ⟨item'', hitem'', k1, k2, k3, k4⟩ := htrade.keeps hitem'
  exact ⟨item'', hitem'', k1.trans h1, k2.trans h2, k3.trans h3, k4.trans h4⟩

theorem PartHandled.records (h : PartHandled reads tenantId contractId stock stock') :
    stock'.records = stock.records := by
  cases h with
  | same hstock | changed _ _ _ hstock | created _ _ _ _ _ _ _ hstock => rw [hstock]

theorem handleSalesContractConfirmed_records
    (h : handleSalesContractConfirmed reads stock tenantId payload = .ok stock') :
    stock'.records = stock.records := by
  obtain ⟨middle, hmanual, htrade⟩ := handleSalesContractConfirmed_handled h
  exact htrade.records.trans hmanual.records

/-! ### Where an item comes from -/

theorem PartHandled.comesFrom (h : PartHandled reads tenantId contractId stock stock')
    (hrow : stock'.items.lookup id = some item') :
    ComesFrom reads stock.items contractId id item' := by
  cases h with
  | same hstock => exact .inl ⟨item', hstock ▸ hrow, rfl, rfl, rfl, rfl⟩
  | changed key f hf hstock =>
    rw [hstock, Table.lookup_modify] at hrow
    split at hrow
    · obtain ⟨item, hitem, rfl⟩ := Option.map_eq_some_iff.mp hrow
      exact .inl ⟨item, hitem, hf item⟩
    · exact .inl ⟨item', hrow, rfl, rfl, rfl, rfl⟩
  | created key new role hfresh href _ hreserved hstock =>
    rw [hstock] at hrow
    rcases Table.lookup_insert_cases hrow with ⟨rfl, rfl⟩ | ⟨-, hold⟩
    · rcases hreserved with hfree | ⟨hid, rfl, hreserved⟩
      · exact .inr (.inl ⟨hfresh, hfree⟩)
      · exact .inr (.inr ⟨hfresh, hid, href, hreserved⟩)
    · exact .inl ⟨item', hold, rfl, rfl, rfl, rfl⟩

/-- After the handler every item is an old one, with its reservation, or a new
pipeline item of the contract: free, or its manual one reserved for it. -/
theorem handleSalesContractConfirmed_lookup
    (h : handleSalesContractConfirmed reads stock tenantId payload = .ok stock')
    (hrow : stock'.items.lookup id = some item') :
    ComesFrom reads stock.items payload.contractId id item' := by
  obtain ⟨middle, hmanual, htrade⟩ := handleSalesContractConfirmed_handled h
  -- what the second half created was not there before the first one either
  have hnone : middle.items.lookup id = none → stock.items.lookup id = none := by
    intro hmiddle
    by_contra hsome
    obtain ⟨item, hitem⟩ := Option.ne_none_iff_exists'.mp hsome
    obtain ⟨item'', hitem'', -⟩ := hmanual.keeps hitem
    rw [hmiddle] at hitem''
    cases hitem''
  rcases htrade.comesFrom hrow with ⟨item, hitem, hres, href, hten, hleft⟩ | ⟨hnew, hfree⟩ |
    ⟨hnew, hreserved⟩
  · rcases hmanual.comesFrom hitem with ⟨old, hold, h1, h2, h3, h4⟩ | ⟨hnew, h1⟩ | ⟨hnew, h0, h1, h2⟩
    · exact .inl ⟨old, hold, hres.trans h1, href.trans h2, hten.trans h3, hleft.trans h4⟩
    · exact .inr (.inl ⟨hnew, hres.trans h1⟩)
    · exact .inr (.inr ⟨hnew, h0, href.trans h1, hres.trans h2⟩)
  · exact .inr (.inl ⟨hnone hnew, hfree⟩)
  · exact .inr (.inr ⟨hnone hnew, hreserved⟩)

/-! ### Whose item it is -/

/-- The item was there under the same pipeline reference, or it is one the
handler created for `contractId` in the tenant. -/
def OrderedFor (items : Table Uuid StockItem) (tenantId contractId : Uuid) (id : Uuid)
    (item' : StockItem) : Prop :=
  (∃ item, items.lookup id = some item ∧ item'.pipelineRef = item.pipelineRef ∧
    item'.tenantId = item.tenantId) ∨
  (∃ role, item'.pipelineRef = some ⟨contractId, role⟩ ∧ item'.tenantId = tenantId)

theorem PartHandled.orderedFor (h : PartHandled reads tenantId contractId stock stock')
    (hrow : stock'.items.lookup id = some item') :
    OrderedFor stock.items tenantId contractId id item' := by
  cases h with
  | same hstock => exact .inl ⟨item', hstock ▸ hrow, rfl, rfl⟩
  | changed key f hf hstock =>
    rw [hstock, Table.lookup_modify] at hrow
    split at hrow
    · obtain ⟨item, hitem, rfl⟩ := Option.map_eq_some_iff.mp hrow
      exact .inl ⟨item, hitem, (hf item).2.1, (hf item).2.2.1⟩
    · exact .inl ⟨item', hrow, rfl, rfl⟩
  | created key new role _ href htenant _ hstock =>
    rw [hstock] at hrow
    rcases Table.lookup_insert_cases hrow with ⟨-, rfl⟩ | ⟨-, hold⟩
    · exact .inr ⟨role, href, htenant⟩
    · exact .inl ⟨item', hold, rfl, rfl⟩

theorem handleSalesContractConfirmed_orderedFor
    (h : handleSalesContractConfirmed reads stock tenantId payload = .ok stock')
    (hrow : stock'.items.lookup id = some item') :
    OrderedFor stock.items tenantId payload.contractId id item' := by
  obtain ⟨middle, hmanual, htrade⟩ := handleSalesContractConfirmed_handled h
  rcases htrade.orderedFor hrow with ⟨item, hitem, href, htenant⟩ | hnew
  · rcases hmanual.orderedFor hitem with ⟨old, hold, h1, h2⟩ | ⟨role, h1, h2⟩
    · exact .inl ⟨old, hold, href.trans h1, htenant.trans h2⟩
    · exact .inr ⟨role, href.trans h1, htenant.trans h2⟩
  · exact .inr hnew

end Nexotec
