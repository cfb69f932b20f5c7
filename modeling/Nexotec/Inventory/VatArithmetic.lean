/-
The VAT arithmetic (`app/inventory/services/purchase.py`,
`app/sales/services/document.py`).

Both functions divide by `100 + rate`, and no schema bounds the rate: a dealership
may set any that its `DECIMAL(5, 2)` column holds.
-/
import Nexotec.Inventory.StockEdits
import Nexotec.Sales.Document

namespace Nexotec.Stock

open Rounding

section Functions

variable {price rate : Decimal}

theorem computeNotionalInputTax_some :
    computeNotionalInputTax price (some rate) = (vatShare price rate).map some := rfl

theorem vatShare_isOk_iff (hprice : Cents price) (hfits : fitsColumn price = true)
    (hrate : Cents rate) (hfitsRate : fitsRate rate = true) :
    (vatShare price rate).isOk = true ↔ rate ≠ -100 := by
  constructor
  · rintro h rfl
    rw [vatShare_minus_hundred] at h
    cases h
  · intro hne
    have hbase : 100 + rate ≠ 0 := fun h => hne (by linarith)
    rw [vatShare_eq hprice hfits hrate hfitsRate hbase]
    rfl

theorem base_ne_zero_of_rateInRange (hnonneg : 0 ≤ price) (h : RateInRange price rate) :
    100 + rate ≠ 0 := by
  intro hbase
  rcases h with h | h | h
  · linarith
  · have : 0 ≤ price * -rate := mul_nonneg hnonneg (by linarith)
    linarith
  · linarith

theorem vatShare_bounded_iff (hprice : Cents price) (hfits : fitsColumn price = true)
    (hrate : Cents rate) (hfitsRate : fitsRate rate = true) (hnonneg : 0 ≤ price) :
    (∃ share, vatShare price rate = .ok share ∧ 0 ≤ share ∧ share ≤ price ∧
      share = exactShare price rate) ↔ RateInRange price rate := by
  constructor
  · rintro ⟨share, hshare, hzero, hle, rfl⟩
    have hbase : 100 + rate ≠ 0 := by
      intro h
      obtain rfl : rate = -100 := by linarith
      rw [vatShare_minus_hundred] at hshare
      cases hshare
    exact (exactShare_bounds_iff hprice hnonneg hbase).mp ⟨hzero, hle⟩
  · intro h
    have hbase := base_ne_zero_of_rateInRange hnonneg h
    obtain ⟨hzero, hle⟩ := (exactShare_bounds_iff hprice hnonneg hbase).mpr h
    exact ⟨_, vatShare_eq hprice hfits hrate hfitsRate hbase, hzero, hle, rfl⟩

end Functions

/-! ### A history of purchases and overrides -/

def VatRate := { rate : Decimal // Cents rate ∧ fitsRate rate = true }

/-- The two requests that write the tax of an item. -/
inductive TaxRequest where
  | record (data : RecordPurchaseRequest) (vatRate : Option VatRate)
  | override (data : NotionalInputTaxOverrideRequest)

/-- One call of the endpoints. -/
structure TaxCall where
  now : Time := 0
  actorId : Option Uuid := none
  request : TaxRequest

/-- The item, and the last override that was stored. -/
structure TaxHistory where
  item : StockItem
  lastOverride : Option NotionalInputTaxOverrideRequest := none

/-- `record_purchase`, `override_notional_input_tax`. -/
def TaxCall.perform (call : TaxCall) (item : StockItem) : Result StockItem :=
  match call.request with
  | .record data vatRate =>
    (recordPurchase call.now data (vatRate.map (·.1)) call.actorId item).map Prod.fst
  | .override data => overrideNotionalInputTax call.now data call.actorId item

def taxFits (item : StockItem) : Bool :=
  item.purchasePrice.all fitsColumn && item.landedCost.all fitsColumn &&
    item.notionalInputTaxRate.all fitsRate && item.notionalInputTaxAmount.all fitsColumn

def storeTax (item : StockItem) : StockItem :=
  { item with
    purchasePrice := item.purchasePrice.map column
    landedCost := item.landedCost.map column
    notionalInputTaxRate := item.notionalInputTaxRate.map column
    notionalInputTaxAmount := item.notionalInputTaxAmount.map column }

/-- A call that succeeds and whose figures fit is stored; any other leaves the item. -/
def nextTax (s : TaxHistory) (call : TaxCall) : TaxHistory :=
  match call.perform s.item with
  | .ok item =>
    if taxFits item then
      { item := storeTax item
        lastOverride := match call.request with
          | .record _ _ => s.lastOverride
          | .override data => some data }
    else s
  | .error _ => s

/-- No purchase, tax or override yet. -/
structure Unpurchased (item : StockItem) : Prop where
  purchasePrice : item.purchasePrice = none
  notionalInputTaxAmount : item.notionalInputTaxAmount = none
  notionalInputTaxOverridden : item.notionalInputTaxOverridden = false

/-- **A stored tax is that of the stored price and rate, and an overridden item shows
what the last override chose.** -/
structure TaxFacts (s : TaxHistory) : Prop where
  amount : ∀ amount, s.item.notionalInputTaxAmount = some amount →
    ∃ price rate, s.item.purchasePrice = some price ∧ s.item.notionalInputTaxRate = some rate ∧
      computeNotionalInputTax price (some rate) = .ok (some amount)
  overridden : s.item.notionalInputTaxOverridden = true →
    ∃ data, s.lastOverride = some data ∧
      s.item.notionalInputTaxApplicable = some data.applicable ∧
      s.item.notionalInputTaxRate = if data.applicable then data.rate else none

def bookedFlags (data : RecordPurchaseRequest) (vatRate : Option VatRate) :
    Option Bool × Option Decimal :=
  (some !data.supplierIsVatRegistered,
    if data.supplierIsVatRegistered then none else vatRate.map (·.1))

/-- A taxed purchase is priced in cents and writes what an override has left there, and
an override chooses a rate of two decimals. -/
def TaxKept (s : TaxHistory) (call : TaxCall) : Prop :=
  match call.request with
  | .record data vatRate =>
    (data.supplierIsVatRegistered = false → vatRate.isSome = true → Cents data.purchasePrice) ∧
      (s.item.notionalInputTaxOverridden = true → bookedFlags data vatRate =
        (s.item.notionalInputTaxApplicable, s.item.notionalInputTaxRate))
  | .override data => data.applicable = true → ∀ rate ∈ data.rate, Cents rate

instance (s : TaxHistory) (call : TaxCall) : Decidable (TaxKept s call) := by
  unfold TaxKept
  split
  · exact inferInstance
  · exact inferInstance

/-! ### What a call writes -/

variable {now : Time} {actorId : Option Uuid} {item new : StockItem}

theorem recordPurchase_eq_ok {data : RecordPurchaseRequest} {vatRate : Option Decimal}
    {purchased : Bool} (h : recordPurchase now data vatRate actorId item = .ok (new, purchased)) :
    purchaseTax data vatRate = .ok new.notionalInputTaxAmount ∧
      new.purchasePrice = some data.purchasePrice ∧
      new.notionalInputTaxApplicable = some !data.supplierIsVatRegistered ∧
      new.notionalInputTaxRate = (if data.supplierIsVatRegistered then none else vatRate) ∧
      new.notionalInputTaxOverridden = item.notionalInputTaxOverridden := by
  obtain ⟨booked, hbooked, hready⟩ := Result.of_bind h
  obtain ⟨amount, hamount, hbooked⟩ := Result.of_bind hbooked
  have hnew : new = (markPurchasedIfReady booked).1 := (congrArg Prod.fst (Except.ok.inj hready)).symm
  rw [hnew, markPurchasedIfReady_fst]
  cases hbooked
  refine ⟨hamount, rfl, rfl, ?_, rfl⟩
  cases data.supplierIsVatRegistered with
  | false => rfl
  | true => rfl

theorem overrideNotionalInputTax_eq_ok {data : NotionalInputTaxOverrideRequest}
    (h : overrideNotionalInputTax now data actorId item = .ok new) :
    overriddenTax data item = .ok new.notionalInputTaxAmount ∧
      new.purchasePrice = item.purchasePrice ∧
      new.notionalInputTaxApplicable = some data.applicable ∧
      new.notionalInputTaxRate = (if data.applicable then data.rate else none) := by
  obtain ⟨amount, hamount, h⟩ := Result.of_bind h
  cases h
  exact ⟨hamount, rfl, rfl, rfl⟩

theorem computeNotionalInputTax_eq_some {price amount : Decimal} {rate : Option Decimal}
    (h : computeNotionalInputTax price rate = .ok (some amount)) :
    Cents amount ∧ ∃ r, rate = some r := by
  cases rate with
  | none => cases h
  | some r =>
    obtain ⟨share, hshare, heq⟩ := Result.map_eq_ok.mp h
    cases heq
    exact ⟨cents_vatShare hshare, r, rfl⟩

theorem map_column_of_cents {x : Option Decimal} (h : ∀ y ∈ x, Cents y) : x.map column = x := by
  cases x with
  | none => rfl
  | some y => exact congrArg some (column_of_cents (h y rfl))

/-! ### One call -/

/-- `TaxFacts`, with the stored price in cents. -/
structure TaxInv (s : TaxHistory) : Prop where
  facts : TaxFacts s
  purchasePrice : ∀ price ∈ s.item.purchasePrice, Cents price

theorem TaxFacts.amount_storeTax {price : Decimal} {rate : Option Decimal}
    (hprice : item.purchasePrice = some price) (hrate : item.notionalInputTaxRate = rate)
    (hcents : ∀ amount, item.notionalInputTaxAmount = some amount →
      Cents price ∧ (∀ r ∈ rate, Cents r) ∧
        computeNotionalInputTax price rate = .ok (some amount)) :
    ∀ amount, (storeTax item).notionalInputTaxAmount = some amount →
      ∃ price rate, (storeTax item).purchasePrice = some price ∧
        (storeTax item).notionalInputTaxRate = some rate ∧
        computeNotionalInputTax price (some rate) = .ok (some amount) := by
  intro amount hamount
  obtain ⟨computed, hcomputed, rfl⟩ := Option.map_eq_some_iff.mp hamount
  obtain ⟨hpriceCents, hrateCents, htax⟩ := hcents computed hcomputed
  obtain ⟨hcomputedCents, r, rfl⟩ := computeNotionalInputTax_eq_some htax
  have hr := hrateCents r rfl
  refine ⟨price, r, ?_, ?_, ?_⟩
  · rw [storeTax, hprice, Option.map_some, column_of_cents hpriceCents]
  · rw [storeTax, hrate, Option.map_some, column_of_cents hr]
  · rw [column_of_cents hcomputedCents]
    exact htax

variable {s : TaxHistory}

theorem TaxInv.record (hs : TaxInv s) {data : RecordPurchaseRequest} {vatRate : Option VatRate}
    {purchased : Bool}
    (hnew : recordPurchase now data (vatRate.map (·.1)) actorId s.item = .ok (new, purchased))
    (hcents : data.supplierIsVatRegistered = false → vatRate.isSome = true →
      Cents data.purchasePrice)
    (hkeeps : s.item.notionalInputTaxOverridden = true → bookedFlags data vatRate =
      (s.item.notionalInputTaxApplicable, s.item.notionalInputTaxRate)) :
    TaxInv { item := storeTax new, lastOverride := s.lastOverride } := by
  obtain ⟨htax, hprice, happlicable, hrate, hoverridden⟩ := recordPurchase_eq_ok hnew
  have hrateCents : ∀ r ∈ vatRate.map (·.1), Cents r := by
    intro r hr
    obtain ⟨rate, -, rfl⟩ := Option.mem_map.mp hr
    exact rate.2.1
  refine ⟨⟨TaxFacts.amount_storeTax hprice hrate ?_, ?_⟩, ?_⟩
  · intro amount hamount
    rw [hamount, purchaseTax] at htax
    cases hregistered : data.supplierIsVatRegistered with
    | true =>
      rw [if_pos hregistered] at htax
      cases htax
    | false =>
      rw [if_neg (by simp [hregistered])] at htax
      obtain ⟨-, r, hr⟩ := computeNotionalInputTax_eq_some htax
      have hsome : vatRate.isSome = true := by
        rw [← Option.isSome_map (f := (·.1)), hr]
        rfl
      exact ⟨hcents hregistered hsome, hrateCents, htax⟩
  · intro hset
    have hset' : s.item.notionalInputTaxOverridden = true := hoverridden ▸ hset
    obtain ⟨last, hlast, hflag, hlastRate⟩ := hs.facts.overridden hset'
    have hkept := Prod.mk.inj (hkeeps hset')
    refine ⟨last, hlast, ?_, ?_⟩
    · exact happlicable.trans (hkept.1.trans hflag)
    · have hstored : (storeTax new).notionalInputTaxRate = new.notionalInputTaxRate := by
        refine map_column_of_cents fun r hr => ?_
        rw [hrate] at hr
        split at hr
        · cases hr
        · exact hrateCents r hr
      calc (storeTax new).notionalInputTaxRate = new.notionalInputTaxRate := hstored
        _ = s.item.notionalInputTaxRate := hrate.trans hkept.2
        _ = if last.applicable then last.rate else none := hlastRate
  · intro price hmem
    obtain ⟨raw, -, rfl⟩ := Option.mem_map.mp hmem
    exact cents_column raw

theorem TaxInv.override (hs : TaxInv s) {data : NotionalInputTaxOverrideRequest}
    (hnew : overrideNotionalInputTax now data actorId s.item = .ok new)
    (hcents : data.applicable = true → ∀ rate ∈ data.rate, Cents rate) :
    TaxInv { item := storeTax new, lastOverride := some data } := by
  obtain ⟨htax, hprice, happlicable, hrate⟩ := overrideNotionalInputTax_eq_ok hnew
  refine ⟨⟨?_, fun _ => ⟨data, rfl, happlicable, ?_⟩⟩, ?_⟩
  · cases hold : s.item.purchasePrice with
    | none =>
      -- nothing to tax
      intro amount hamount
      obtain ⟨computed, hcomputed, -⟩ := Option.map_eq_some_iff.mp hamount
      rw [hcomputed, overriddenTax, hold] at htax
      cases happ : data.applicable with
      | false =>
        rw [happ] at htax
        cases htax
      | true =>
        rw [happ] at htax
        cases htax
    | some price =>
      refine TaxFacts.amount_storeTax (hprice.trans hold) hrate fun amount hamount => ?_
      rw [hamount, overriddenTax, hold] at htax
      cases happ : data.applicable with
      | false =>
        rw [happ] at htax
        cases htax
      | true =>
        rw [happ] at htax
        exact ⟨hs.purchasePrice price hold, hcents happ, htax⟩
  · have hstored : (storeTax new).notionalInputTaxRate = new.notionalInputTaxRate := by
      refine map_column_of_cents fun r hr => ?_
      rw [hrate] at hr
      split at hr
      · next happ => exact hcents happ r hr
      · cases hr
    rw [hstored, hrate]
  · intro price hmem
    obtain ⟨raw, -, rfl⟩ := Option.mem_map.mp hmem
    exact cents_column raw

theorem TaxInv.next {call : TaxCall} (hs : TaxInv s) (hkept : TaxKept s call) :
    TaxInv (nextTax s call) := by
  unfold nextTax
  cases hnew : call.perform s.item with
  | error e => exact hs
  | ok new =>
    dsimp only
    split
    · cases hrequest : call.request with
      | record data vatRate =>
        rw [TaxKept, hrequest] at hkept
        rw [TaxCall.perform, hrequest] at hnew
        obtain ⟨⟨booked, purchased⟩, hbooked, rfl⟩ := Result.map_eq_ok.mp hnew
        exact hs.record hbooked hkept.1 hkept.2
      | override data =>
        rw [TaxKept, hrequest] at hkept
        rw [TaxCall.perform, hrequest] at hnew
        exact hs.override hnew hkept
    · exact hs

theorem Unpurchased.inv (h : Unpurchased item) : TaxInv { item := item } where
  facts :=
    { amount := fun amount hamount => by
        rw [h.notionalInputTaxAmount] at hamount
        cases hamount
      overridden := fun hset => by
        rw [h.notionalInputTaxOverridden] at hset
        cases hset }
  purchasePrice := fun price hprice => by
    rw [h.purchasePrice] at hprice
    cases hprice

/-- **On prices and rates as the columns hold them the two functions raise only at a
rate of -100, and their result is the share of the tax, within the price, just for the
rates of `RateInRange`; along the runs of `TaxKept` the stored tax is that of the
stored price and rate, and those of an overridden item are the last override's.** -/
theorem vat_share_bounded (price rate : Decimal) (item : StockItem) (calls : List TaxCall) :
    computeNotionalInputTax price none = .ok none ∧
    (Cents price → fitsColumn price = true → Cents rate → fitsRate rate = true →
      ((computeNotionalInputTax price (some rate)).isOk = true ↔ rate ≠ -100) ∧
      ((computeVatAmount price rate).isOk = true ↔ rate ≠ -100) ∧ (0 ≤ price →
        ((∃ amount, computeNotionalInputTax price (some rate) = .ok (some amount) ∧ 0 ≤ amount ∧
          amount ≤ price ∧ amount = exactShare price rate) ↔ RateInRange price rate) ∧
        ((∃ amount, computeVatAmount price rate = .ok amount ∧ 0 ≤ amount ∧
          amount ≤ price ∧ amount = exactShare price rate) ↔ RateInRange price rate))) ∧
    (Unpurchased item → Run.Along nextTax TaxKept { item := item } calls →
      TaxFacts (calls.foldl nextTax { item := item })) := by
  refine ⟨rfl, ?_, ?_⟩
  · intro hprice hfits hrate hfitsRate
    have hisOk := vatShare_isOk_iff hprice hfits hrate hfitsRate
    refine ⟨?_, hisOk, fun hnonneg => ?_⟩
    · rw [computeNotionalInputTax_some, ← hisOk]
      cases vatShare price rate with
      | ok share => rfl
      | error e => rfl
    · have hbounded := vatShare_bounded_iff hprice hfits hrate hfitsRate hnonneg
      refine ⟨?_, hbounded⟩
      rw [computeNotionalInputTax_some, ← hbounded]
      constructor
      · rintro ⟨amount, hamount, hfacts⟩
        obtain ⟨share, hshare, heq⟩ := Result.map_eq_ok.mp hamount
        exact ⟨amount, by rw [hshare, Option.some.inj heq], hfacts⟩
      · rintro ⟨share, hshare, hfacts⟩
        exact ⟨share, by rw [hshare]; rfl, hfacts⟩
  · intro hitem hkept
    exact (Run.invariant_along (fun _ _ => TaxInv.next) hitem.inv hkept).facts

def normalRate : VatRate := ⟨81 / 10, by decide +kernel, by decide +kernel⟩

def privatePurchase : RecordPurchaseRequest where
  supplierName := "Meier"
  supplierIsVatRegistered := false
  purchasePrice := 10810
  purchaseDate := 0

def overrideRun : List TaxCall :=
  [{ request := .record privatePurchase (some normalRate) },
    { request := .override { applicable := true, rate := some (26 / 10), reason := "reduced" } }]

theorem vat_share_bounded_overrideRun : computeVatAmount 10810 (81 / 10) = .ok 810 ∧
      ((overrideRun.foldl nextTax { item := { tenantId := 0 } }).item.notionalInputTaxAmount =
          some (27394 / 100) ∧
        TaxFacts (overrideRun.foldl nextTax { item := { tenantId := 0 } })) := by
  obtain ⟨-, hfunctions, hruns⟩ :=
    vat_share_bounded 10810 (81 / 10) { tenantId := 0 } overrideRun
  refine ⟨?_, by decide +kernel, hruns ⟨rfl, rfl, rfl⟩ (by decide +kernel)⟩
  obtain ⟨-, -, hbounds⟩ := hfunctions (by decide +kernel) (by decide +kernel)
    (by decide +kernel) (by decide +kernel)
  obtain ⟨amount, hamount, -, -, hshare⟩ := (hbounds (by norm_num)).2.mpr (.inl (by norm_num))
  rw [hamount, hshare]
  decide +kernel

def minusHundred : VatRate := ⟨-100, by decide +kernel, by decide +kernel⟩

def minusFifty : VatRate := ⟨-50, by decide +kernel, by decide +kernel⟩

/-- An override takes the tax away, and the purchase is booked again. -/
def rebookedRun : List TaxCall :=
  [{ request := .override { applicable := false, reason := "margin taxation" } },
    { request := .record privatePurchase (some normalRate) }]

/-- A purchase at a rate of -100 % raises, one of 100 at -50 % has a tax of -100, and
booked again a purchase overwrites the override. -/
theorem minus_hundred_raises_and_rebooking_overwrites : (¬ ∀ (price : Decimal) (rate : VatRate),
      (computeNotionalInputTax price (some rate.1)).isOk = true ∧
        (computeVatAmount price rate.1).isOk = true) ∧
    (¬ ∀ (price : Decimal) (rate : VatRate) (amount : Decimal), 0 ≤ price →
      computeNotionalInputTax price (some rate.1) = .ok (some amount) →
      0 ≤ amount ∧ amount ≤ price) ∧
    (¬ ∀ (item : StockItem) (calls : List TaxCall), Unpurchased item →
      TaxFacts (calls.foldl nextTax { item := item })) := by
  refine ⟨fun h => ?_, fun h => ?_, fun h => ?_⟩
  · have hraises := (h 100 minusHundred).2
    rw [computeVatAmount, minusHundred, vatShare_minus_hundred] at hraises
    cases hraises
  · have hamount : computeNotionalInputTax 100 (some minusFifty.1) = .ok (some (-100)) := by
      decide +kernel
    exact absurd (h 100 minusFifty (-100) (by norm_num) hamount).1 (by norm_num)
  · have hfacts := h { tenantId := 0 } rebookedRun ⟨rfl, rfl, rfl⟩
    obtain ⟨data, hlast, hflag, -⟩ := hfacts.overridden (by decide +kernel)
    have happlicable : (rebookedRun.foldl nextTax
        { item := { tenantId := 0 } }).lastOverride.map (·.applicable) = some false := by
      decide +kernel
    have hstored : (rebookedRun.foldl nextTax
        { item := { tenantId := 0 } }).item.notionalInputTaxApplicable = some true := by
      decide +kernel
    rw [hlast] at happlicable
    rw [hflag] at hstored
    exact absurd (happlicable.symm.trans hstored) (by decide)

end Nexotec.Stock
