/-
The factory options of a stock item beside its base price and its list price
(`app/inventory/services/pricing.py`, `stock_item.py`).

`set_options` writes the three together.  The general `PATCH` writes the list price or
the condition alone, and the condition has an endpoint of its own.  A price column holds
hundredths; what is sent is not rounded before it is added up.
-/
import Nexotec.Inventory.StockEdits
import Nexotec.Lib.Run

namespace Nexotec.Stock

/-! ### The requests -/

inductive PriceRequest where
  | patch (data : StockItemUpdate)
  | condition (value : StockItemCondition)
  | options (basePrice : Decimal) (list : List StockItemOption)

/-- A request as it comes in.  `lands`: its `If-Match` version is the stored one, and the
columns other than the prices take what it sends. -/
structure PriceCall where
  request : PriceRequest
  now : Time := 0
  actorId : Option Uuid := none
  stockItemId : Uuid := 0
  lands : Bool := true

def PriceCall.perform (call : PriceCall) (item : StockItem) : Result StockItem :=
  match call.request with
  | .patch data => updateStockItem call.now data call.actorId item
  | .condition value => .ok (changeCondition call.now value call.actorId item)
  | .options basePrice list =>
    setOptions call.now basePrice list call.actorId call.stockItemId item

def optionTotal (list : List StockItemOption) : Decimal := (list.map (·.price)).sum

def PriceRequest.amounts : PriceRequest → List Decimal
  | .patch data => data.listPrice.join.toList ++ data.effectivePrice.join.toList
  | .condition _ => []
  | .options basePrice list =>
    basePrice :: (itemisedPrice basePrice list).toList ++ list.map (·.price)

def storePrices (item : StockItem) : StockItem :=
  { item with
    basePrice := item.basePrice.map column
    listPrice := item.listPrice.map column
    effectivePrice := item.effectivePrice.map column
    options := item.options.map fun o => { o with price := column o.price } }

/-- One request, with what the columns hold afterwards. -/
def nextPrices (item : StockItem) (call : PriceCall) : StockItem :=
  if call.lands && call.request.amounts.all fitsColumn then
    match call.perform item with
    | .ok new => storePrices new
    | .error _ => item
  else item

/-! ### The tie -/

/-- **The prices of the options are part of the list price**, and a car that is not
itemised has neither options nor a base price. -/
structure OptionsPriced (item : StockItem) : Prop where
  plain : itemizable item.condition = false → item.options = [] ∧ item.basePrice = none
  priced : item.options ≠ [] → ∃ base, item.basePrice = some base ∧
    item.listPrice = some (base + optionTotal item.options)

/-- What `get_stock_item_pricing` answers about the item: for a car that is not itemised
its asking price, and with options a list price that is the sum of its parts. -/
def ReadRight (item : StockItem) : Prop :=
  ∀ items tenantId stockItemId pricing, items.lookup stockItemId = some item →
    getStockItemPricing items tenantId stockItemId = .ok pricing →
    (itemizable item.condition = false → pricing.options = [] ∧
      pricing.basePrice = item.effectivePrice.orElse fun _ => item.listPrice) ∧
    (pricing.options ≠ [] → ∃ base, pricing.basePrice = some base ∧
      pricing.listPrice = some (base + optionTotal pricing.options))

def Accepted (item : StockItem) (call : PriceCall) : Prop :=
  call.lands = true ∧ call.request.amounts.all fitsColumn = true ∧
    match call.request with
    | .patch data => data.vehicleLabel ≠ some none ∧ data.condition ≠ some none
    | .condition _ => True
    | .options basePrice list => (list = [] ∨ itemizable item.condition = true) ∧
        (itemisedPrice basePrice list).isSome = true

def MayBecome (item : StockItem) (condition : StockItemCondition) : Prop :=
  itemizable condition = true ∨ (item.options = [] ∧ item.basePrice = none)

/-- **The requests that keep the tie.**  A list price is sent only to a car without
options, unless it is the one it has; a car that has options or a base price stays
itemised; an empty list of options goes only to an itemised car; and amounts with more
than two decimals, or too many digits, add up after they have been rounded. -/
def Keeps (item : StockItem) (call : PriceCall) : Prop :=
  Accepted item call →
    match call.request with
    | .patch data =>
      MayBecome item (data.condition.join.getD item.condition) ∧
        (item.options ≠ [] → ∀ price, data.listPrice = some price →
          price.map column = item.listPrice)
    | .condition value => MayBecome item value
    | .options basePrice list =>
      if list = [] then itemizable item.condition = true
      else ∀ price ∈ itemisedPrice basePrice list,
        column price = column basePrice + (list.map fun o => column o.price).sum

section Steps

variable {item new : StockItem} {call : PriceCall}

theorem column_column (x : Decimal) : column (column x) = column x :=
  column_of_cents (cents_column x)

theorem map_column_column (x : Option Decimal) : (x.map column).map column = x.map column := by
  cases x with
  | none => rfl
  | some x => rw [Option.map_some, Option.map_some, column_column]

theorem storePrices_idem (item : StockItem) : storePrices (storePrices item) = storePrices item := by
  have hoptions : ((item.options.map fun o => { o with price := column o.price }).map
      fun o => { o with price := column o.price }) =
      item.options.map fun o => { o with price := column o.price } := by
    rw [List.map_map]
    refine List.map_congr_left fun o _ => ?_
    simp only [Function.comp, column_column]
  simp only [storePrices, map_column_column, hoptions]

/-- The price columns of a stored item. -/
structure Stored (item : StockItem) : Prop where
  basePrice : item.basePrice.map column = item.basePrice
  listPrice : item.listPrice.map column = item.listPrice
  options : (item.options.map fun o => { o with price := column o.price }) = item.options

theorem Stored.of_eq (h : storePrices item = item) : Stored item :=
  ⟨congrArg StockItem.basePrice h, congrArg StockItem.listPrice h, congrArg StockItem.options h⟩

theorem setRequired_eq_ok {α : Type} {column : String} {change : Option (Option α)} {value x : α} :
    setRequired column change value = .ok x ↔ change ≠ some none ∧ x = change.join.getD value := by
  rcases change with _ | _ | y
  · constructor
    · intro h
      cases h
      exact ⟨by simp, rfl⟩
    · rintro ⟨-, rfl⟩
      rfl
  · constructor
    · intro h
      cases h
    · rintro ⟨h, -⟩
      exact absurd rfl h
  · constructor
    · intro h
      cases h
      exact ⟨by simp, rfl⟩
    · rintro ⟨-, rfl⟩
      rfl

theorem perform_isOk (h : Accepted item call) : ∃ new, call.perform item = .ok new := by
  obtain ⟨-, -, hrequest⟩ := h
  unfold PriceCall.perform
  cases hreq : call.request with
  | patch data =>
    rw [hreq] at hrequest
    obtain ⟨hlabel, hcondition⟩ := hrequest
    have h1 : setRequired "vehicle_label" data.vehicleLabel item.vehicleLabel = .ok _ :=
      setRequired_eq_ok.mpr ⟨hlabel, rfl⟩
    have h2 : setRequired "condition" data.condition item.condition = .ok _ :=
      setRequired_eq_ok.mpr ⟨hcondition, rfl⟩
    dsimp only
    unfold updateStockItem
    rw [h1, h2]
    exact ⟨_, rfl⟩
  | condition value => exact ⟨_, rfl⟩
  | options basePrice list =>
    rw [hreq] at hrequest
    obtain ⟨hrequest, hsum⟩ := hrequest
    obtain ⟨listPrice, hsum⟩ := Option.isSome_iff_exists.mp hsum
    dsimp only
    unfold setOptions
    rw [if_neg]
    · rw [hsum]
      exact ⟨_, rfl⟩
    · rintro ⟨hlist, hcondition⟩
      rcases hrequest with hempty | hitemized
      · exact hlist hempty
      · rw [hitemized] at hcondition
        cases hcondition

theorem nextPrices_of_not_accepted (h : ¬ Accepted item call) : nextPrices item call = item := by
  unfold nextPrices
  split
  · next hlands =>
    rw [Bool.and_eq_true] at hlands
    cases hperform : call.perform item with
    | error e => rfl
    | ok new =>
      refine absurd ⟨hlands.1, hlands.2, ?_⟩ h
      unfold PriceCall.perform at hperform
      cases hreq : call.request with
      | patch data =>
        rw [hreq] at hperform
        obtain ⟨label, hlabel, hperform⟩ := Result.of_bind hperform
        obtain ⟨condition, hcondition, -⟩ := Result.of_bind hperform
        exact ⟨(setRequired_eq_ok.mp hlabel).1, (setRequired_eq_ok.mp hcondition).1⟩
      | condition value => trivial
      | options basePrice list =>
        rw [hreq] at hperform
        dsimp only at hperform
        unfold setOptions at hperform
        split at hperform
        · cases hperform
        · next hnot =>
          obtain ⟨listPrice, hsum, -⟩ := Result.of_bind hperform
          refine ⟨?_, by rw [orDecimalException_eq_ok.mp hsum]; rfl⟩
          by_cases hempty : list = []
          · exact .inl hempty
          · refine .inr ?_
            by_contra hcondition
            exact hnot ⟨hempty, Bool.of_not_eq_true hcondition⟩
  · rfl

theorem nextPrices_of_accepted (h : Accepted item call) (hperform : call.perform item = .ok new) :
    nextPrices item call = storePrices new := by
  unfold nextPrices
  rw [if_pos (by rw [Bool.and_eq_true]; exact ⟨h.1, h.2.1⟩), hperform]

/-- A new condition and a new list price keep the tie where the car may have the one and
the other is what it was, or there are no options. -/
theorem optionsPriced_edit (h : OptionsPriced item) {condition : StockItemCondition}
    {listPrice : Option Decimal} {edited : StockItem} (hcondition : edited.condition = condition)
    (hbase : edited.basePrice = item.basePrice) (hlist : edited.listPrice = listPrice)
    (hoptions : edited.options = item.options) : OptionsPriced edited ↔
      MayBecome item condition ∧ (item.options ≠ [] → listPrice = item.listPrice) := by
  constructor
  · rintro ⟨hplain, hpriced⟩
    rw [hcondition, hbase, hoptions] at hplain
    rw [hbase, hlist, hoptions] at hpriced
    refine ⟨?_, fun hne => ?_⟩
    · cases hitemized : itemizable condition with
      | true => exact .inl hitemized
      | false => exact .inr (hplain hitemized)
    · obtain ⟨base, hsome, hprice⟩ := hpriced hne
      obtain ⟨base', hsome', hprice'⟩ := h.priced hne
      rw [hsome] at hsome'
      cases hsome'
      rw [hprice, hprice']
  · rintro ⟨hmay, hkept⟩
    refine ⟨?_, ?_⟩
    · rw [hcondition, hbase, hoptions]
      intro hplain
      rcases hmay with hitemized | hbare
      · rw [hplain] at hitemized
        cases hitemized
      · exact hbare
    · rw [hbase, hlist, hoptions]
      intro hne
      rw [hkept hne]
      exact h.priced hne

theorem optionsPriced_next_iff (h : OptionsPriced item) (hstored : Stored item) :
    OptionsPriced (nextPrices item call) ↔ Keeps item call := by
  by_cases haccepted : Accepted item call
  · obtain ⟨new, hperform⟩ := perform_isOk haccepted
    rw [nextPrices_of_accepted haccepted hperform, Keeps, forall_prop_of_true haccepted]
    have hrequest := haccepted.2.2
    unfold PriceCall.perform at hperform
    cases hreq : call.request with
    | patch data =>
      rw [hreq] at hperform hrequest
      obtain ⟨label, -, hperform⟩ := Result.of_bind hperform
      obtain ⟨condition, hcondition, hperform⟩ := Result.of_bind hperform
      cases hperform
      have hnew : condition = data.condition.join.getD item.condition :=
        (setRequired_eq_ok.mp hcondition).2
      refine (optionsPriced_edit h hnew hstored.basePrice rfl hstored.options).trans ?_
      refine and_congr_right fun _ => forall_congr' fun _ => ?_
      unfold setField
      cases hl : data.listPrice with
      | none =>
        refine iff_of_true hstored.listPrice ?_
        intro price hprice
        cases hprice
      | some price =>
        constructor
        · intro heq price' hprice'
          cases hprice'
          exact heq
        · exact fun hall => hall price rfl
    | condition value =>
      rw [hreq] at hperform
      cases hperform
      refine (optionsPriced_edit h rfl hstored.basePrice hstored.listPrice hstored.options).trans ?_
      exact and_iff_left fun _ => rfl
    | options basePrice list =>
      rw [hreq] at hperform hrequest
      dsimp only at hperform
      unfold setOptions at hperform
      split at hperform
      · cases hperform
      obtain ⟨listPrice, hlistPrice, hperform⟩ := Result.of_bind hperform
      have hread : itemisedPrice basePrice list = some listPrice :=
        orDecimalException_eq_ok.mp hlistPrice
      cases hperform
      dsimp only
      split
      · -- no options: the base price stays behind
        next hempty =>
        subst hempty
        constructor
        · intro hpriced
          by_contra hplain
          have hbare := hpriced.plain (Bool.of_not_eq_true hplain)
          cases hbare.2
        · intro hitemized
          refine ⟨fun hplain => ?_, fun hne => absurd rfl hne⟩
          have hplain' : itemizable item.condition = false := hplain
          rw [hitemized] at hplain'
          cases hplain'
      · next hne =>
        have hitemized : itemizable item.condition = true := hrequest.1.resolve_left hne
        have hsome : (list.map fun o => { o with price := column o.price }) ≠ [] :=
          fun hnil => hne (List.map_eq_nil_iff.mp hnil)
        have htotal : optionTotal (list.map fun o => { o with price := column o.price }) =
            (list.map fun o => column o.price).sum := by
          unfold optionTotal
          rw [List.map_map]
          rfl
        constructor
        · intro hpriced
          -- the stored total is the list price of the reply
          obtain ⟨base, hbase, hlist⟩ := hpriced.priced hsome
          cases hbase
          intro price hprice
          obtain rfl : listPrice = price := Option.some.inj (hread.symm.trans hprice)
          rw [← htotal]
          exact Option.some.inj hlist
        · intro hsum
          refine ⟨fun hplain => ?_, fun _ => ⟨column basePrice, rfl, ?_⟩⟩
          · have hplain' : itemizable item.condition = false := hplain
            rw [hitemized] at hplain'
            cases hplain'
          · exact congrArg some ((hsum listPrice hread).trans (congrArg _ htotal.symm))
  · rw [nextPrices_of_not_accepted haccepted]
    exact iff_of_true h fun haccepted' => absurd haccepted' haccepted

theorem stored_next (h : storePrices item = item) :
    storePrices (nextPrices item call) = nextPrices item call := by
  unfold nextPrices
  split
  · split
    · exact storePrices_idem _
    · exact h
  · exact h

theorem exists_pricing {items : Table Uuid StockItem} {stockItemId : Uuid}
    (h : items.lookup stockItemId = some item) :
    ∃ pricing, getStockItemPricing items item.tenantId stockItemId = .ok pricing ∧
      pricing.basePrice = if item.basePrice.isNone ∧ item.options = [] then
        item.effectivePrice.orElse fun _ => item.listPrice else item.basePrice := by
  unfold getStockItemPricing getStockItemOr404
  rw [h, Option.filter_some, if_pos (decide_eq_true rfl)]
  exact ⟨_, rfl, rfl⟩

theorem OptionsPriced.readRight (h : OptionsPriced item) : ReadRight item := by
  intro items tenantId stockItemId pricing hitem hpricing
  obtain ⟨found, hfound, hpricing⟩ := Result.of_bind hpricing
  cases hpricing
  rw [getStockItemOr404, orNotFound_eq_ok, Option.filter_eq_some_iff, hitem] at hfound
  obtain ⟨hsome, -⟩ := hfound
  cases hsome
  refine ⟨fun hplain => ?_, fun hne => ?_⟩
  · obtain ⟨hoptions, hbase⟩ := h.plain hplain
    refine ⟨hoptions, ?_⟩
    dsimp only
    rw [if_pos ⟨by rw [hbase]; rfl, hoptions⟩]
  · obtain ⟨base, hbase, hlist⟩ := h.priced hne
    refine ⟨base, ?_, hlist⟩
    dsimp only
    rw [if_neg fun hnone => hne hnone.2]
    exact hbase

end Steps

/-! ### Runs -/

/-- **Every state of a run is priced right**, and read right, just when each request of
it is one that keeps the tie. -/
theorem options_priced_iff (item : StockItem) (calls : List PriceCall)
    (hpriced : OptionsPriced item) (hstored : storePrices item = item) :
    (∀ n, OptionsPriced ((calls.take n).foldl nextPrices item) ∧
        ReadRight ((calls.take n).foldl nextPrices item)) ↔
      Run.Along nextPrices Keeps item calls := by
  have hstep : ∀ (s : StockItem) (call : PriceCall), (OptionsPriced s ∧ storePrices s = s) →
      ((OptionsPriced (nextPrices s call) ∧ storePrices (nextPrices s call) = nextPrices s call) ↔
        Keeps s call) := by
    intro s call hs
    rw [← optionsPriced_next_iff hs.1 (.of_eq hs.2)]
    exact and_iff_left (stored_next hs.2)
  rw [← Run.always_iff hstep ⟨hpriced, hstored⟩]
  have hall : ∀ n, storePrices ((calls.take n).foldl nextPrices item) =
      (calls.take n).foldl nextPrices item := by
    intro n
    have hkept : ∀ (s : StockItem) (call : PriceCall), storePrices s = s →
        storePrices (nextPrices s call) = nextPrices s call := fun s call h => stored_next h
    exact Run.invariant hkept hstored _
  constructor
  · exact fun h n => ⟨(h n).1, hall n⟩
  · exact fun h n => ⟨(h n).1, (h n).1.readRight⟩

theorem storePrices_eq {item : StockItem} (hbase : item.basePrice.map column = item.basePrice)
    (hlist : item.listPrice.map column = item.listPrice)
    (heffective : item.effectivePrice.map column = item.effectivePrice)
    (hoptions : (item.options.map fun o => { o with price := column o.price }) = item.options) :
    storePrices item = item := by
  unfold storePrices
  rw [hbase, hlist, heffective, hoptions]

def newCar : StockItem := { tenantId := 0, condition := .new, listPrice := some 31000 }

def wheels : StockItemOption := { code := "W1", label := "Wheels", price := 2401 / 2 }

/-- Its options are listed, it becomes a demonstrator, and its asking price is lowered. -/
def listedRun : List PriceCall :=
  [{ request := .options 30000 [wheels] }, { request := .condition .demo },
    { request := .patch { effectivePrice := some (some 29900) } }]

theorem options_priced_iff_listedRun : OptionsPriced (listedRun.foldl nextPrices newCar) ∧
      ReadRight (listedRun.foldl nextPrices newCar) := by
  have hpriced := (options_priced_iff newCar listedRun ⟨fun h => ?_, fun h => absurd rfl h⟩
    (storePrices_eq rfl (by decide +kernel) rfl rfl)).mpr
      ⟨fun _ => ?_, fun _ => .inl rfl, fun _ => ⟨.inl rfl, fun _ price h => ?_⟩, trivial⟩
  · exact hpriced 3
  · cases h
  · decide +kernel
  · cases h

def usedCar : StockItem := { tenantId := 0, condition := .used, listPrice := some 20000 }

def staleRun : List PriceCall :=
  [{ request := .options 18000 [] }, { request := .patch { listPrice := some (some 15000) } }]

/-- An empty list of options gives a used car a base price, and its asking price is read no more. -/
theorem usedCar_base_price_goes_stale : OptionsPriced usedCar ∧ storePrices usedCar = usedCar ∧
      (staleRun.foldl nextPrices usedCar).basePrice = some 18000 ∧
      (staleRun.foldl nextPrices usedCar).listPrice = some 15000 ∧
      ¬ OptionsPriced (staleRun.foldl nextPrices usedCar) ∧
      ¬ ReadRight (staleRun.foldl nextPrices usedCar) := by
  have hbase : (staleRun.foldl nextPrices usedCar).basePrice = some 18000 := by decide +kernel
  have hplain : itemizable (staleRun.foldl nextPrices usedCar).condition = false := by
    decide +kernel
  have hlist : (staleRun.foldl nextPrices usedCar).listPrice = some 15000 := by decide +kernel
  have heffective : (staleRun.foldl nextPrices usedCar).effectivePrice = none := by decide +kernel
  refine ⟨⟨fun _ => ⟨rfl, rfl⟩, fun h => absurd rfl h⟩,
    storePrices_eq rfl (by decide +kernel) rfl rfl, hbase, hlist, fun h => ?_, fun h => ?_⟩
  · rw [(h.plain hplain).2] at hbase
    cases hbase
  · -- the base price is read, and not the asking price
    have hstored : ((∅ : Table Uuid StockItem).insert 7 (staleRun.foldl nextPrices usedCar)).lookup 7 =
        some (staleRun.foldl nextPrices usedCar) := AList.lookup_insert _
    obtain ⟨pricing, hpricing, hread⟩ := exists_pricing hstored
    have hasking := ((h _ _ _ pricing hstored hpricing).1 hplain).2
    rw [hread, hbase, heffective, hlist, if_neg (by simp)] at hasking
    revert hasking
    decide +kernel

end Nexotec.Stock
