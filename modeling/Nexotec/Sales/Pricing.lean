/-
The price build-up (`app/sales/services/pricing.py`).

`buildUp` derives the price of a deal from its vehicle source, its frozen
snapshot, its line items and the seller's inputs; `applyBuildUp` writes the
result onto the deal's own columns.  A deal is `PriceCoherent` when the
columns it stores are the ones `buildUp` gives for it now:

* `applyBuildUp_coherent` — writing the build-up makes a deal coherent;
* `PriceCoherent.of_eq` — an edit that leaves the inputs and the stored
  figures alone keeps it coherent;
* `recomputePayable_coherent` — so does the trade-in path, which rewrites
  `payable` alone.
-/
import Nexotec.Sales.Models

namespace Nexotec

def resolveDiscount (discountType : Option DiscountType) (discountValue : Option Decimal)
    (baseAmount : Decimal) : Decimal :=
  match discountType, discountValue with
  | some .percent, some value => quantizeCents (baseAmount * value / 100)
  | some _, some value => value
  | _, _ => 0

/-- `_cost_basis_from_snapshot`; `none` is the empty snapshot. -/
def costBasisFromSnapshot (snapshot : Option Snapshot) : Option Decimal :=
  let credit := (snapshot.bind (·.notionalInputTaxAmount)).getD 0
  match snapshot.bind (·.landedCost) with
  | some landedCost => some (landedCost - credit)
  | none => (snapshot.bind (·.purchasePrice)).map (· - credit)

/-- The dict `build_up` returns. -/
structure BuildUp where
  basePrice : Decimal
  optionsTotal : Decimal
  listPrice : Decimal
  accessoriesTotal : Decimal
  totalBeforeDiscount : Decimal
  discountAmount : Decimal
  grossPrice : Decimal
  costBasis : Option Decimal
  margin : Option Decimal

/-- `_line_total`: the included lines of one kind, each less its own discount. -/
def lineTotal (lines : List LineItem) (kind : LineItemKind) : Decimal :=
  ((lines.filter fun li => li.kind = kind ∧ li.included = true).map fun li =>
    li.unitPrice * (li.quantity : Decimal) - li.discountResolvedAmount.getD 0).sum

def buildUp (deal : Deal) : BuildUp :=
  let (basePrice, costBasis) :=
    if deal.vehicleSource = some .manual then (deal.manualBasePrice.getD 0, none)
    else ((deal.vehicleSnapshot.bind (·.basePrice)).getD 0,
      costBasisFromSnapshot deal.vehicleSnapshot)
  let optionsTotal := lineTotal deal.lines .factoryOption
  let accessoriesTotal := lineTotal deal.lines .accessory
  let listPrice := basePrice + optionsTotal
  let totalBeforeDiscount := listPrice + accessoriesTotal
  let discountAmount := resolveDiscount deal.discountType deal.discountValue totalBeforeDiscount
  let grossPrice := totalBeforeDiscount - discountAmount
  { basePrice, optionsTotal, listPrice, accessoriesTotal, totalBeforeDiscount, discountAmount,
    grossPrice, costBasis, margin := costBasis.map (grossPrice - ·) }

def applyBuildUp (deal : Deal) : Deal :=
  let result := buildUp deal
  { deal with
    basePrice := some result.basePrice
    optionsTotal := some result.optionsTotal
    listPrice := some result.listPrice
    accessoriesTotal := some result.accessoriesTotal
    totalBeforeDiscount := some result.totalBeforeDiscount
    discountAmount := some result.discountAmount
    grossPrice := some result.grossPrice
    costBasis := result.costBasis
    margin := result.margin
    payable := some (result.grossPrice - deal.tradeInValue.getD 0) }

def recomputePayable (deal : Deal) : Deal :=
  match deal.grossPrice with
  | none => { deal with payable := none }
  | some grossPrice => { deal with payable := some (grossPrice - deal.tradeInValue.getD 0) }

/-- A priced deal stores exactly what `buildUp` gives for its current inputs,
and `payable` is the gross price less the trade-in. -/
def PriceCoherent (deal : Deal) : Prop :=
  ∀ grossPrice, deal.grossPrice = some grossPrice →
    (deal.basePrice = some (buildUp deal).basePrice ∧
      deal.optionsTotal = some (buildUp deal).optionsTotal ∧
      deal.listPrice = some (buildUp deal).listPrice ∧
      deal.accessoriesTotal = some (buildUp deal).accessoriesTotal ∧
      deal.totalBeforeDiscount = some (buildUp deal).totalBeforeDiscount ∧
      deal.discountAmount = some (buildUp deal).discountAmount ∧
      grossPrice = (buildUp deal).grossPrice ∧
      deal.costBasis = (buildUp deal).costBasis ∧
      deal.margin = (buildUp deal).margin) ∧
    deal.payable = some (grossPrice - deal.tradeInValue.getD 0)

theorem PriceCoherent.of_unpriced {deal : Deal} (h : deal.grossPrice = none) :
    PriceCoherent deal := by
  intro grossPrice hg
  rw [h] at hg
  cases hg

theorem buildUp_congr {d e : Deal} (hsource : d.vehicleSource = e.vehicleSource)
    (hsnap : d.vehicleSnapshot = e.vehicleSnapshot)
    (hinputs : d.toPricingInputs = e.toPricingInputs) : buildUp d = buildUp e := by
  have h1 : d.manualBasePrice = e.manualBasePrice := congrArg PricingInputs.manualBasePrice hinputs
  have h2 : d.discountType = e.discountType := congrArg PricingInputs.discountType hinputs
  have h3 : d.discountValue = e.discountValue := congrArg PricingInputs.discountValue hinputs
  have h4 : d.lines = e.lines := congrArg PricingInputs.lines hinputs
  simp only [buildUp, hsource, hsnap, h1, h2, h3, h4]

theorem PriceCoherent.of_eq {d e : Deal} (h : PriceCoherent d)
    (hsource : d.vehicleSource = e.vehicleSource) (hsnap : d.vehicleSnapshot = e.vehicleSnapshot)
    (hinputs : d.toPricingInputs = e.toPricingInputs) (hfigures : d.toFigures = e.toFigures)
    (hvalue : d.tradeInValue = e.tradeInValue) : PriceCoherent e := by
  have hb : buildUp d = buildUp e := buildUp_congr hsource hsnap hinputs
  unfold PriceCoherent at h ⊢
  rw [hb, hvalue] at h
  have hf : ∀ {α : Type} (p : Figures → α), p d.toFigures = p e.toFigures :=
    fun p => congrArg p hfigures
  rw [hf Figures.grossPrice, hf Figures.basePrice, hf Figures.optionsTotal, hf Figures.listPrice,
    hf Figures.accessoriesTotal, hf Figures.totalBeforeDiscount, hf Figures.discountAmount,
    hf Figures.costBasis, hf Figures.margin, hf Figures.payable] at h
  exact h

@[simp] theorem buildUp_applyBuildUp (deal : Deal) : buildUp (applyBuildUp deal) = buildUp deal :=
  rfl

theorem applyBuildUp_coherent (deal : Deal) : PriceCoherent (applyBuildUp deal) := by
  intro grossPrice hg
  have hgross : (buildUp deal).grossPrice = grossPrice := Option.some.inj hg
  rw [buildUp_applyBuildUp]
  refine ⟨⟨rfl, rfl, rfl, rfl, rfl, rfl, hgross.symm, rfl, rfl⟩, ?_⟩
  rw [← hgross]
  rfl

theorem recomputePayable_coherent {d e : Deal} (h : PriceCoherent d)
    (hsource : d.vehicleSource = e.vehicleSource) (hsnap : d.vehicleSnapshot = e.vehicleSnapshot)
    (hinputs : d.toPricingInputs = e.toPricingInputs) (hfigures : d.toFigures = e.toFigures) :
    PriceCoherent (recomputePayable e) := by
  have hg : d.grossPrice = e.grossPrice := congrArg Figures.grossPrice hfigures
  unfold recomputePayable
  split
  · next hnone => exact PriceCoherent.of_unpriced hnone
  · next g hsome =>
    -- only `payable` is stored anew; the nine figures are those of `d`
    have hd := (h g (hg.trans hsome)).1
    have hb : buildUp d = buildUp e := buildUp_congr hsource hsnap hinputs
    have hf : ∀ {α : Type} (p : Figures → α), p d.toFigures = p e.toFigures :=
      fun p => congrArg p hfigures
    rw [hb, hf Figures.basePrice, hf Figures.optionsTotal, hf Figures.listPrice,
      hf Figures.accessoriesTotal, hf Figures.totalBeforeDiscount, hf Figures.discountAmount,
      hf Figures.costBasis, hf Figures.margin] at hd
    intro g' hg'
    have hgg : g = g' := Option.mem_unique hsome hg'
    subst hgg
    exact ⟨hd, rfl⟩

end Nexotec
