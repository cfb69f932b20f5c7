/-
A delivery nobody interferes with is the handler.

`Nexotec.Inventory.Delivery` takes the two consumers apart, statement by
statement; `Nexotec.Inventory.Pipeline` and `Nexotec.Inventory.Reservation`
have each as one function.  A worker that goes through its statements alone
commits what the function returns, and nothing where the function raises:

* `confirmation_alone` — `handle_sales_contract_confirmed`;
* `cancellation_alone` — `record_contract_cancelled`.
-/
import Nexotec.Inventory.DeliveryRuns

namespace Nexotec.Delivery

open Interleaving

variable {ι : Type} {ev : Events}

/-- The statements of both handlers in order; those that are not of the
message at hand do nothing. -/
def handlerChoices (reads : ConsumerReads) : List Choice :=
  [.lock, .look, .insert reads, .tradeIn reads, .select, .commit reads.now]

/-! ### The confirmation's two halves -/

/-- The row the manual half stages, if it has to create one. -/
def manualRow (ev : Events) (reads : ConsumerReads) (id : Uuid) (sh : Shared ι) :
    Result (Option NewItem) :=
  match (orderOf ev id).manualConfiguration with
  | none => .ok none
  | some manual => do
    let _ ← stockItemCondition manual.condition
    match findPipelineItem sh.stock.items (orderOf ev id).tenantId ⟨contractOf ev id, .manual⟩ with
    | some _ => .ok none
    | none => (orderedRow ev reads id sh).map some

variable {reads : ConsumerReads} {id c : Uuid} {sh : Shared ι}

theorem manualRow_fresh {new : NewItem} (hmessage : ev.message id = .confirmed c)
    (h : manualRow ev reads id sh = .ok (some new)) : OrderedOk ev sh c new ∧
      findPipelineItem sh.stock.items (ev.order c).tenantId ⟨c, .manual⟩ = none := by
  simp only [manualRow, orderOf, contractOf_eq hmessage] at h
  split at h
  · cases h
  obtain ⟨condition, -, h⟩ := Result.of_bind h
  split at h
  · cases h
  · next hmissing =>
    obtain ⟨row, hrow, hsome⟩ := Result.map_eq_ok.mp h
    cases hsome
    exact ⟨orderedRow_ok hmessage hrow, hmissing⟩

variable {items : Table Uuid StockItem}

theorem insertRow_reserved {x : Uuid} {item : StockItem} (f : StockItem → StockItem) :
    (insertRow items x item).map (fun items => items.modify x f) = insertRow items x (f item) := by
  unfold insertRow
  split
  · rfl
  · next hnone =>
    have hfresh : items.lookup x = none := by simpa using hnone
    simp only [Except.map, Table.modify_insert_self hfresh]

theorem handleManualConfiguration_staged (hmessage : ev.message id = .confirmed c) :
    handlePart (ev.order c).manualConfiguration
        (handleManualConfiguration reads · (ev.order c).tenantId c) sh.stock =
      (manualRow ev reads id sh >>= insertNew sh.stock.items).map
        fun items => { sh.stock with items := items } := by
  simp only [manualRow, orderOf, contractOf_eq hmessage]
  cases hmanual : (ev.order c).manualConfiguration with
  | none => rfl
  | some manual =>
    simp only [handlePart, handleManualConfiguration, createPipelineItemIdempotent, orderedRow,
      orderOf, contractOf_eq hmessage, hmanual]
    cases hcondition : stockItemCondition manual.condition with
    | error e => rfl
    | ok condition =>
      cases hfound : findPipelineItem sh.stock.items (ev.order c).tenantId ⟨c, .manual⟩ with
      | some found => rfl
      | none =>
        simp only [bind, Except.bind]
        cases hitem : buildPipelineItem reads (ev.order c).tenantId 0 manual.vehicleLabel condition
            ⟨c, .manual⟩ manual.configurationId with
        | error e => rfl
        | ok item =>
          simp only [pure, Except.pure, Except.map, insertNew]
          by_cases hcancelled : contractIsCancelled sh.stock (ev.order c).tenantId c = true
          · simp only [hcancelled, if_true, Bool.true_eq_false]
            cases insertRow sh.stock.items (reads.uuid 0) item with
            | error e => rfl
            | ok items => rfl
          · have hfalse := Bool.eq_false_of_not_eq_true hcancelled
            simp only [hfalse, Bool.false_eq_true, if_false,
              ← insertRow_reserved (reserveAndFlush reads.now c (reads.uuid 1))]
            cases insertRow sh.stock.items (reads.uuid 0) item with
            | error e => rfl
            | ok items => rfl

theorem valuationRef_staged (reads : ConsumerReads) (order : Order) (tradeIn : TradeInPayload)
    (x : Uuid) (items : Table Uuid StockItem) (stock final : StockDb) :
    (match tradeIn.valuationId with
      | none => pure { stock with items := items }
      | some valuationId => do
        let valuation ← getValuationOr404 reads.valuations order.tenantId valuationId
        pure { stock with
          items := items.modify x (applyValuationRef valuationId valuation.finalOffer) } :
        Result StockDb) = .ok final ↔
      ∃ valued, valuationRef reads order tradeIn x = .ok valued ∧
        final = { stock with items := setValuation valued items } := by
  unfold valuationRef
  cases tradeIn.valuationId with
  | none =>
    simp only [pure, Except.pure, Except.ok.injEq]
    constructor
    · rintro rfl
      exact ⟨none, rfl, rfl⟩
    · rintro ⟨valued, rfl, rfl⟩
      rfl
  | some valuationId =>
    simp only [Result.bind_eq_ok]
    constructor
    · rintro ⟨valuation, hvaluation, h⟩
      cases h
      exact ⟨some (x, valuationId, valuation.finalOffer), ⟨valuation, hvaluation, rfl⟩, rfl⟩
    · rintro ⟨valued, ⟨valuation, hvaluation, h⟩, rfl⟩
      cases h
      exact ⟨valuation, hvaluation, rfl⟩

variable {ordered : Option NewItem}

theorem handleTradeIn_staged {final : StockDb} (hmessage : ev.message id = .confirmed c)
    (hfind : findPipelineItem items (ev.order c).tenantId ⟨c, .tradeIn⟩ =
      findPipelineItem sh.stock.items (ev.order c).tenantId ⟨c, .tradeIn⟩) :
    handlePart (ev.order c).tradeIn (handleTradeIn reads · (ev.order c).tenantId c)
        { sh.stock with items := items } = .ok final ↔
      ∃ tradedIn valued items', tradeInHalf ev reads id ordered sh
          = .ok (.finishing id ordered tradedIn valued) ∧
        insertNew items tradedIn = .ok items' ∧
        final = { sh.stock with items := setValuation valued items' } := by
  simp only [tradeInHalf, orderOf, contractOf_eq hmessage]
  cases (ev.order c).tradeIn with
  | none =>
    constructor
    · intro h
      cases h
      exact ⟨none, none, items, rfl, rfl, rfl⟩
    · rintro ⟨tradedIn, valued, items', h, hins, rfl⟩
      obtain ⟨-, -, rfl, rfl⟩ := Local.finishing.inj (Except.ok.inj h)
      cases hins
      rfl
  | some tradeIn =>
    simp only [handlePart, handleTradeIn, createPipelineItemIdempotent, hfind, Result.bind_eq_ok]
    have hvalue := fun x items' =>
      valuationRef_staged reads (ev.order c) tradeIn x items' sh.stock final
    cases hfound : findPipelineItem sh.stock.items (ev.order c).tenantId ⟨c, .tradeIn⟩ with
    | some found =>
      simp only [tradeInFound, orderOf, contractOf_eq hmessage, Result.bind_eq_ok]
      constructor
      · rintro ⟨condition, hcondition, created, hcreated, h⟩
        cases hcreated
        obtain ⟨valued, hvalued, rfl⟩ := (hvalue _ _).mp h
        exact ⟨none, valued, items, ⟨condition, hcondition, valued, hvalued, rfl⟩, rfl, rfl⟩
      · rintro ⟨tradedIn, valued, items', ⟨condition, hcondition, valued', hvalued, h⟩, hins, rfl⟩
        obtain ⟨-, -, rfl, rfl⟩ := Local.finishing.inj (Except.ok.inj h)
        cases hins
        exact ⟨condition, hcondition, _, rfl, (hvalue _ _).mpr ⟨valued', hvalued, rfl⟩⟩
    | none =>
      simp only [Result.bind_eq_ok]
      constructor
      · rintro ⟨condition, hcondition, created, ⟨item, hitem, items', hins, hcreated⟩, h⟩
        cases hcreated
        obtain ⟨valued, hvalued, rfl⟩ := (hvalue _ _).mp h
        exact ⟨some (reads.uuid 2, item), valued, items',
          ⟨condition, hcondition, item, hitem, valued, hvalued, rfl⟩, hins, rfl⟩
      · rintro ⟨tradedIn, valued, items', ⟨condition, hcondition, item, hitem, valued', hvalued, h⟩,
          hins, rfl⟩
        obtain ⟨-, -, rfl, rfl⟩ := Local.finishing.inj (Except.ok.inj h)
        exact ⟨condition, hcondition, _, ⟨item, hitem, items', hins, rfl⟩,
          (hvalue _ _).mpr ⟨valued', hvalued, rfl⟩⟩

theorem findPipelineItem_inserted (hmessage : ev.message id = .confirmed c)
    (hordered : manualRow ev reads id sh = .ok ordered)
    (hins : insertNew sh.stock.items ordered = .ok items) (tenantId : Uuid) :
    findPipelineItem items tenantId ⟨c, .tradeIn⟩ =
      findPipelineItem sh.stock.items tenantId ⟨c, .tradeIn⟩ := by
  cases ordered with
  | none =>
    cases hins
    rfl
  | some new =>
    obtain ⟨hfresh, rfl⟩ := insertRow_eq_ok hins
    refine Table.search_insert hfresh ?_
    rw [(manualRow_fresh hmessage hordered).1.ref]
    simp

/-- The tables with the manual half's row and what the trade-in half stages. -/
def Staged (ev : Events) (reads : ConsumerReads) (id : Uuid) (sh : Shared ι)
    (ordered : Option NewItem) (final : StockDb) : Prop :=
  ∃ middle tradedIn valued items,
    tradeInHalf ev reads id ordered sh = .ok (.finishing id ordered tradedIn valued) ∧
    insertNew sh.stock.items ordered = .ok middle ∧ insertNew middle tradedIn = .ok items ∧
    final = { sh.stock with items := setValuation valued items }

theorem handleSalesContractConfirmed_staged (reads : ConsumerReads) (sh : Shared ι)
    {payload : ConfirmedPayload} (hmessage : ev.message id = .confirmed c)
    (hcontract : payload.contractId = c)
    (hmanual : payload.manualConfiguration = (ev.order c).manualConfiguration)
    (htradeIn : payload.tradeIn = (ev.order c).tradeIn) (final : StockDb) :
    handleSalesContractConfirmed reads sh.stock (ev.order c).tenantId payload = .ok final ↔
      ∃ ordered, manualRow ev reads id sh = .ok ordered ∧ Staged ev reads id sh ordered final := by
  rw [handleSalesContractConfirmed, hcontract, hmanual, htradeIn, Result.bind_eq_ok]
  simp only [handleManualConfiguration_staged hmessage, Result.map_eq_ok, Result.bind_eq_ok]
  constructor
  · rintro ⟨stock, ⟨middle, ⟨ordered, hordered, hmiddle⟩, rfl⟩, h⟩
    have hfind := findPipelineItem_inserted hmessage hordered hmiddle (ev.order c).tenantId
    obtain ⟨tradedIn, valued, items, hhalf, hitems, rfl⟩ :=
      (handleTradeIn_staged hmessage hfind).mp h
    exact ⟨ordered, hordered, middle, tradedIn, valued, items, hhalf, hmiddle, hitems, rfl⟩
  · rintro ⟨ordered, hordered, middle, tradedIn, valued, items, hhalf, hmiddle, hitems, rfl⟩
    have hfind := findPipelineItem_inserted hmessage hordered hmiddle (ev.order c).tenantId
    exact ⟨_, ⟨middle, ⟨ordered, hordered, hmiddle⟩, rfl⟩,
      (handleTradeIn_staged hmessage hfind).mpr ⟨tradedIn, valued, items, hhalf, hitems, rfl⟩⟩

theorem tradeInHalf_eq_ok {lo : Local} (h : tradeInHalf ev reads id ordered sh = .ok lo) :
    ∃ tradedIn valued, lo = .finishing id ordered tradedIn valued ∧
      taken sh.stock.items tradedIn = false := by
  simp only [tradeInHalf] at h
  split at h
  · cases h
    exact ⟨none, none, rfl, rfl⟩
  obtain ⟨condition, -, h⟩ := Result.of_bind h
  split at h
  · obtain ⟨valued, -, h⟩ := Result.of_bind h
    cases h
    exact ⟨none, valued, rfl, rfl⟩
  · next hmissing =>
    obtain ⟨item, hitem, h⟩ := Result.of_bind h
    obtain ⟨valued, -, h⟩ := Result.of_bind h
    cases h
    obtain ⟨-, href, htenant⟩ := buildPipelineItem_eq_ok hitem
    exact ⟨_, valued, rfl, by simp [taken, href, htenant, hmissing]⟩

def SameStock (sh sh' : Shared ι) : Prop :=
  sh'.stock = sh.stock ∧ sh'.processed = sh.processed

theorem staged_congr {sh' : Shared ι} (h : SameStock sh sh') (ordered : Option NewItem)
    (final : StockDb) :
    Staged ev reads id sh' ordered final ↔ Staged ev reads id sh ordered final := by
  simp only [Staged, tradeInHalf, h.1]

/-! ### The cancellation -/

theorem cancelStock_eq {now : Time} {stock : StockDb} (hmessage : ev.message id = .cancelled c) :
    cancelStock ev now id (heldItems stock.items (ev.order c).tenantId c) stock =
      recordContractCancelled now stock (ev.order c).tenantId c := by
  have hcontract : contractOf ev id = c := by rw [contractOf, hmessage]; rfl
  have hitems : releaseItems now (heldItems stock.items (ev.order c).tenantId c) stock.items =
      stock.items.updateAll fun _ item =>
        if heldBy (ev.order c).tenantId c item then releaseAndFlush now item else item := by
    refine Table.updateAll_congr fun x item hitem => ?_
    have hiff : x ∈ heldItems stock.items (ev.order c).tenantId c ↔
        heldBy (ev.order c).tenantId c item = true := by
      rw [mem_heldItems, heldBy_iff]
      constructor
      · rintro ⟨item', hitem', htenant, hstate, hholder⟩
        obtain rfl := Option.mem_unique hitem hitem'
        exact ⟨htenant, hholder, hstate⟩
      · rintro ⟨htenant, hholder, hstate⟩
        exact ⟨item, hitem, htenant, hstate, hholder⟩
    simp only [hiff]
  simp only [cancelStock, recordContractCancelled, orderOf, hcontract, hitems]

section Alone

variable [DecidableEq ι] {i : ι} {id c : Uuid} {sh : Shared ι}

theorem lock_alone (hmessage : ev.message id = .confirmed c) (hlock : sh.contractLock c = none) :
    alone (step ev) i (sh, .begun id) .lock = if (ev.order c).manualConfiguration.isSome then
        ({ sh with contractLock := Function.update sh.contractLock c (some i) }, .ordering id)
      else (sh, .trading id none) := by
  have hstep : step ev i .lock sh (.begun id) = takeLock ev i id sh := rfl
  simp only [alone, hstep, takeLock, hmessage, orderOf, contractOf_eq hmessage, hlock, if_true]
  split
  · rfl
  · rfl

theorem manual_alone (i : ι) (reads : ConsumerReads) (hmessage : ev.message id = .confirmed c)
    (hlock : sh.contractLock c = none) :
    ∃ sh', SameStock sh sh' ∧
      [Choice.lock, .look, .insert reads].foldl (alone (step ev) i) (sh, .begun id) =
        match manualRow ev reads id sh with
        | .ok ordered => (sh', .trading id ordered)
        | .error _ => (sh', .idle) := by
  simp only [List.foldl_cons, List.foldl_nil, lock_alone hmessage hlock]
  cases hmanual : (ev.order c).manualConfiguration with
  | none =>
    have hrow : manualRow ev reads id sh = .ok none := by
      simp only [manualRow, orderOf, contractOf_eq hmessage, hmanual]
    rw [hrow]
    exact ⟨sh, ⟨rfl, rfl⟩, rfl⟩
  | some manual =>
    simp only [Option.isSome_some, if_true]
    -- the lock is taken; nothing of what follows reads it
    generalize hsh : { sh with contractLock := Function.update sh.contractLock c (some i) } = locked
    have hsame : SameStock sh locked := by
      rw [← hsh]
      exact ⟨rfl, rfl⟩
    have hlook : alone (step ev) i (locked, .ordering id) .look =
        orRaise i locked (lookForOrdered ev id locked) := rfl
    rw [hlook]
    simp only [manualRow, lookForOrdered, orderOf, contractOf_eq hmessage, hmanual, ← hsame.1]
    cases hcondition : stockItemCondition manual.condition with
    | error e => exact ⟨unlock i locked, hsame, rfl⟩
    | ok condition =>
      cases hfound : findPipelineItem locked.stock.items (ev.order c).tenantId ⟨c, .manual⟩ with
      | some found => exact ⟨locked, hsame, rfl⟩
      | none =>
        have hrow : orderedRow ev reads id locked = orderedRow ev reads id sh := by
          simp only [orderedRow, hsame.1]
        have hinsert : alone (step ev) i (locked, .inserting id) (.insert reads) =
            orRaise i locked ((orderedRow ev reads id sh).map fun row => .trading id (some row)) := by
          rw [← hrow]
          rfl
        cases hordered : orderedRow ev reads id sh with
        | error e =>
          refine ⟨unlock i locked, hsame, ?_⟩
          rw [hordered] at hinsert
          exact hinsert
        | ok row =>
          refine ⟨locked, hsame, ?_⟩
          rw [hordered] at hinsert
          exact hinsert

theorem finish_alone (ev : Events) (i : ι) (reads : ConsumerReads)
    (hfresh : taken sh.stock.items ordered = false) (hid : id ∉ sh.processed) :
    let after := [Choice.tradeIn reads, .select, .commit reads.now].foldl (alone (step ev) i)
      (sh, .trading id ordered)
    (Staged ev reads id sh ordered after.1.stock ∧ after.1.processed = id :: sh.processed) ∨
    ((∀ final, ¬ Staged ev reads id sh ordered final) ∧ SameStock sh after.1) := by
  have htrade : alone (step ev) i (sh, .trading id ordered) (.tradeIn reads) =
      orRaise i sh (tradeInHalf ev reads id ordered sh) := rfl
  simp only [List.foldl_cons, List.foldl_nil, htrade]
  cases hhalf : tradeInHalf ev reads id ordered sh with
  | error e =>
    refine .inr ⟨?_, rfl, rfl⟩
    rintro final ⟨middle, tradedIn, valued, items, h, -⟩
    rw [hhalf] at h
    cases h
  | ok lo =>
    obtain ⟨tradedIn, valued, rfl, htaken⟩ := tradeInHalf_eq_ok hhalf
    have hcommit : alone (step ev) i (sh, .finishing id ordered tradedIn valued)
        (.commit reads.now) = commitConfirmed i id ordered tradedIn valued sh := rfl
    have hselect : alone (step ev) i (sh, .finishing id ordered tradedIn valued) .select =
        (sh, .finishing id ordered tradedIn valued) := rfl
    simp only [orRaise, hselect, hcommit, commitConfirmed, hfresh, htaken, Bool.false_eq_true,
      if_false, if_neg hid]
    cases hins : (insertNew sh.stock.items ordered >>= fun items => insertNew items tradedIn) with
    | error e =>
      refine .inr ⟨?_, rfl, rfl⟩
      rintro final ⟨middle, tradedIn', valued', items, h, hmiddle, hitems, -⟩
      obtain ⟨-, -, rfl, rfl⟩ := Local.finishing.inj (Except.ok.inj (hhalf.symm.trans h))
      have hok : (insertNew sh.stock.items ordered >>= fun items => insertNew items tradedIn)
          = .ok items := Result.bind_eq_ok.mpr ⟨middle, hmiddle, hitems⟩
      rw [hins] at hok
      cases hok
    | ok items =>
      obtain ⟨middle, hmiddle, hitems⟩ := Result.of_bind hins
      exact .inl ⟨⟨middle, tradedIn, valued, items, hhalf, hmiddle, hitems, rfl⟩, rfl⟩

variable {reads : ConsumerReads} {payload : ConfirmedPayload}

theorem handlerChoices_confirmed (hmessage : ev.message id = .confirmed c)
    (hcontract : payload.contractId = c)
    (hmanual : payload.manualConfiguration = (ev.order c).manualConfiguration)
    (htradeIn : payload.tradeIn = (ev.order c).tradeIn) (hlock : sh.contractLock c = none)
    (hid : id ∉ sh.processed) :
    let after := (handlerChoices reads).foldl (alone (step ev) i) (sh, .begun id)
    match handleSalesContractConfirmed reads sh.stock (ev.order c).tenantId payload with
    | .ok stock => after.1.stock = stock ∧ after.1.processed = id :: sh.processed
    | .error _ => SameStock sh after.1 := by
  intro after
  have hstaged := handleSalesContractConfirmed_staged reads sh hmessage hcontract hmanual htradeIn
  obtain ⟨sh', hsame, hfirst⟩ := manual_alone i reads hmessage hlock
  have hafter : after = [Choice.tradeIn reads, .select, .commit reads.now].foldl
      (alone (step ev) i) ([Choice.lock, .look, .insert reads].foldl (alone (step ev) i)
        (sh, .begun id)) := rfl
  rw [hfirst] at hafter
  cases hrow : manualRow ev reads id sh with
  | error e =>
    -- the manual half raised, here and in the handler
    rw [hrow] at hafter
    cases hhandled : handleSalesContractConfirmed reads sh.stock (ev.order c).tenantId payload with
    | error e =>
      rw [hafter]
      exact hsame
    | ok stock =>
      obtain ⟨ordered, hordered, -⟩ := (hstaged stock).mp hhandled
      rw [hrow] at hordered
      cases hordered
  | ok ordered =>
    rw [hrow] at hafter
    have hfresh : taken sh'.stock.items ordered = false := by
      cases ordered with
      | none => rfl
      | some new =>
        obtain ⟨hok, hmissing⟩ := manualRow_fresh hmessage hrow
        simp [taken, hok.ref, hok.tenant, hsame.1, hmissing]
    have hfinish := finish_alone ev i reads hfresh (hsame.2 ▸ hid)
    simp only at hafter hfinish
    rw [← hafter, staged_congr hsame] at hfinish
    simp only [staged_congr hsame] at hfinish
    rcases hfinish with ⟨hdone, hprocessed⟩ | ⟨hnot, hkept⟩
    · rw [(hstaged after.1.stock).mpr ⟨ordered, hrow, hdone⟩]
      exact ⟨rfl, hprocessed.trans (by rw [hsame.2])⟩
    · cases hhandled : handleSalesContractConfirmed reads sh.stock (ev.order c).tenantId
          payload with
      | error e => exact ⟨hkept.1.trans hsame.1, hkept.2.trans hsame.2⟩
      | ok stock =>
        obtain ⟨ordered', hordered', hdone⟩ := (hstaged stock).mp hhandled
        obtain rfl := Except.ok.inj (hrow.symm.trans hordered')
        exact absurd hdone (hnot stock)

theorem handlerChoices_cancelled (hmessage : ev.message id = .cancelled c)
    (hlock : sh.contractLock c = none) (hfree : ∀ x, sh.itemLock x = none) (hid : id ∉ sh.processed) :
    let after := (handlerChoices reads).foldl (alone (step ev) i) (sh, .begun id)
    after.1.stock = recordContractCancelled reads.now sh.stock (ev.order c).tenantId c ∧
      after.1.processed = id :: sh.processed := by
  have hcontract : contractOf ev id = c := by rw [contractOf, hmessage]; rfl
  intro after
  have hlocked : ∃ sh', SameStock sh sh' ∧ (∀ x, sh'.itemLock x = none) ∧
      alone (step ev) i (sh, .begun id) .lock = (sh', .cancelling id) := by
    have hstep : step ev i .lock sh (.begun id) = takeLock ev i id sh := rfl
    refine ⟨{ sh with contractLock := Function.update sh.contractLock c (some i) }, ⟨rfl, rfl⟩,
      hfree, ?_⟩
    simp [alone, hstep, takeLock, hmessage, hcontract, hlock]
  obtain ⟨sh', hsame, hfree', hfirst⟩ := hlocked
  have hafter : after = [Choice.select, .commit reads.now].foldl (alone (step ev) i)
      (alone (step ev) i (sh, .begun id) .lock) := by
    rw [hfirst]
    simp only [after, handlerChoices, List.foldl_cons, hfirst]
    rfl
  have hselect : ∃ sh'', SameStock sh sh'' ∧
      alone (step ev) i (sh', .cancelling id) .select =
        (sh'', .releasing id (heldItems sh.stock.items (ev.order c).tenantId c)) := by
    have hstep : step ev i .select sh' (.cancelling id) = selectHeld ev i id sh' := rfl
    refine ⟨{ sh' with
      itemLock := fun x =>
        if x ∈ heldItems sh.stock.items (ev.order c).tenantId c then some i
        else sh'.itemLock x }, hsame, ?_⟩
    simp [alone, hstep, selectHeld, orderOf, hcontract, hfree', hsame.1]
  obtain ⟨sh'', hsame', hsecond⟩ := hselect
  have hcommit : alone (step ev) i
      (sh'', .releasing id (heldItems sh.stock.items (ev.order c).tenantId c)) (.commit reads.now) =
        commitCancelled ev i reads.now id (heldItems sh.stock.items (ev.order c).tenantId c) sh'' :=
    rfl
  rw [hafter, hfirst]
  simp only [List.foldl_cons, List.foldl_nil, hsecond, hcommit, commitCancelled, unlock, hsame'.1,
    hsame'.2, if_neg hid, cancelStock_eq hmessage, and_self]

variable {cfg : Config ι (Shared ι) Local}

/-- **A confirmation alone is the handler.**  What the worker commits is what
`handle_sales_contract_confirmed` returns; where that raises nothing is left. -/
theorem confirmation_alone (hlocal : cfg.locals i = .begun id)
    (hmessage : ev.message id = .confirmed c) (hcontract : payload.contractId = c)
    (hmanual : payload.manualConfiguration = (ev.order c).manualConfiguration)
    (htradeIn : payload.tradeIn = (ev.order c).tradeIn) (hlock : cfg.shared.contractLock c = none)
    (hid : id ∉ cfg.shared.processed) :
    let after := (((handlerChoices reads).map fun ch => (i, ch)).foldl (move (step ev)) cfg).shared
    match handleSalesContractConfirmed reads cfg.shared.stock (ev.order c).tenantId payload with
    | .ok stock => after.stock = stock ∧ after.processed = id :: cfg.shared.processed
    | .error _ => SameStock cfg.shared after := by
  rw [foldl_move_alone, hlocal]
  exact handlerChoices_confirmed hmessage hcontract hmanual htradeIn hlock hid

def latePayload : ConfirmedPayload where
  contractId := 1
  vehicleSource := .manual
  manualConfiguration := (lateEvents.order 1).manualConfiguration
  tradeIn := (lateEvents.order 1).tradeIn
  pricingSnapshot := ⟨"CHF", none, none, none, none, none, none, none, none⟩

def alongside : Config Bool (Shared Bool) Local :=
  ⟨{}, fun worker => .begun (bif worker then 20 else 10)⟩

theorem confirmation_alone_late :
    let after := (((handlerChoices {}).map fun ch => (false, ch)).foldl (move (step lateEvents))
      alongside).shared
    ∃ stock, handleSalesContractConfirmed {} {} 1 latePayload = .ok stock ∧ after.stock = stock ∧
      after.processed = [10] := by
  obtain ⟨stock, hstock⟩ : ∃ stock, handleSalesContractConfirmed {} alongside.shared.stock
      (lateEvents.order 1).tenantId latePayload = .ok stock := ⟨_, rfl⟩
  have h := @confirmation_alone Bool lateEvents _ false 10 1 {} latePayload alongside rfl rfl rfl
    rfl rfl rfl List.not_mem_nil
  rw [hstock] at h
  exact ⟨stock, hstock, h⟩

theorem cancellation_alone (hlocal : cfg.locals i = .begun id)
    (hmessage : ev.message id = .cancelled c) (hlock : cfg.shared.contractLock c = none)
    (hfree : ∀ x, cfg.shared.itemLock x = none) (hid : id ∉ cfg.shared.processed) :
    let after := (((handlerChoices reads).map fun ch => (i, ch)).foldl (move (step ev)) cfg).shared
    after.stock = recordContractCancelled reads.now cfg.shared.stock (ev.order c).tenantId c ∧
      after.processed = id :: cfg.shared.processed := by
  rw [foldl_move_alone, hlocal]
  exact handlerChoices_cancelled hmessage hlock hfree hid

/-- The cancellation comes after the confirmation, whose car it frees. -/
theorem cancellation_alone_late :
    let before := ((handlerChoices {}).map fun ch => (false, ch)).foldl (move (step lateEvents))
      alongside
    let after := (((handlerChoices {}).map fun ch => (true, ch)).foldl (move (step lateEvents))
      before).shared
    heldItems before.shared.stock.items 1 1 = [0] ∧ heldItems after.stock.items 1 1 = [] ∧
      after.stock = recordContractCancelled 0 before.shared.stock 1 1 ∧ after.processed = [20, 10] :=
  ⟨by decide, by decide, cancellation_alone rfl rfl rfl (fun _ => rfl) (by decide)⟩

end Alone

end Nexotec.Delivery
