/-
The price on a printed offer and contract (`app/sales/services/document.py`).

`_price_build_up_lines` prints the totals of a deal whatever their sign, and the
option, accessory and discount lines between them only when they are positive.
An offer from the configurator has its option lines itemised, a contract never.
-/
import Nexotec.Sales.AddsUp

namespace Nexotec

/-! ### Lines -/

/-- `SwissLanguage`. -/
inductive SwissLanguage where
  | de
  | fr
  | it
  | en
  deriving DecidableEq

/-- `SwissLanguage(value)`; `none` is the `ValueError`. -/
def SwissLanguage.ofValue : String → Option SwissLanguage
  | "de" => some .de
  | "fr" => some .fr
  | "it" => some .it
  | "en" => some .en
  | _ => none

/-- `LineStyle`. -/
inductive LineStyle where
  | normal
  | sub
  | total
  | grand

/-- The keys `priceBuildUp.…` of `app/sales/i18n.py` that label an amount of the deal. -/
inductive PriceKey where
  | basePrice
  | optionsTotal
  | listPrice
  | accessoriesTotal
  | discountAmount
  | grossPrice
  | tradeInValue
  | payable
  deriving DecidableEq

/-- A label: `t(language, key)`, the VAT line with its rate, or the provider's own text. -/
inductive LineLabel where
  | translated (language : SwissLanguage) (key : PriceKey)
  | includedVat (language : SwissLanguage) (rate : Decimal)
  | provider (text : String)

/-- `DocumentLine`. -/
structure DocumentLine where
  label : LineLabel
  amount : Decimal
  style : LineStyle := .normal

/-- The keyword arguments of `_price_build_up_lines` beside the language. -/
structure PrintedFigures where
  basePrice : Option Decimal
  optionLines : List (String × Decimal) := []
  optionsTotal : Option Decimal
  listPrice : Option Decimal
  accessoriesTotal : Option Decimal
  discountAmount : Option Decimal
  grossPrice : Option Decimal
  tradeInValue : Option Decimal
  payable : Option Decimal
  vatRate : Option Decimal

def computeVatAmount (grossPrice vatRate : Decimal) : Result Decimal := vatShare grossPrice vatRate

def figureLine (language : SwissLanguage) (key : PriceKey) (style : LineStyle)
    (amount : Option Decimal) : List DocumentLine :=
  amount.toList.map fun a => ⟨.translated language key, a, style⟩

/-- `amount is not None and amount > 0`. -/
def positive (amount : Option Decimal) : Option Decimal := amount.filter (0 < ·)

/-- The itemised option lines, in the provider's own words. -/
def optionDocumentLines (optionLines : List (String × Decimal)) : List DocumentLine :=
  optionLines.map fun (label, amount) => { label := .provider label, amount := amount }

def figureLines (args : PrintedFigures) (language : SwissLanguage) : List DocumentLine :=
  figureLine language .basePrice .normal args.basePrice ++
  optionDocumentLines args.optionLines ++
  figureLine language .optionsTotal .sub (positive args.optionsTotal) ++
  figureLine language .listPrice .total args.listPrice ++
  figureLine language .accessoriesTotal .sub (positive args.accessoriesTotal) ++
  figureLine language .discountAmount .normal ((positive args.discountAmount).map (- ·)) ++
  figureLine language .grossPrice .grand args.grossPrice ++
  figureLine language .tradeInValue .normal (args.tradeInValue.map (- ·)) ++
  figureLine language .payable .grand args.payable

/-- The lines, in order. -/
def priceBuildUpLines (args : PrintedFigures) (language : SwissLanguage) :
    Result (List DocumentLine) :=
  match args.grossPrice, args.vatRate with
  | some grossPrice, some vatRate => do
    let vatAmount ← computeVatAmount grossPrice vatRate
    pure (figureLines args language ++ [⟨.includedVat language vatRate, vatAmount, .sub⟩])
  | _, _ => pure (figureLines args language)

def lineNet (li : LineItem) : Decimal :=
  li.unitPrice * (li.quantity : Decimal) - li.discountResolvedAmount.getD 0

/-- `ORDER BY position, id`. -/
def printsBefore (a b : LineItem) : Bool :=
  a.position < b.position ∨ (a.position = b.position ∧ a.id ≤ b.id)

/-- `_included_option_lines`: only for an offer built in the configurator. -/
def includedOptionLines (offer : Deal) : List (String × Decimal) :=
  if offer.configurationId = none then []
  else
    ((offer.lines.filter fun li => li.kind = .factoryOption ∧ li.included = true).mergeSort
      printsBefore).map fun li => (li.label, lineNet li)

/-- The arguments `build_offer_content` and `build_contract_content` pass on. -/
def printedFigures (deal : Deal) (optionLines : List (String × Decimal))
    (vatRate : Option Decimal) : PrintedFigures where
  basePrice := deal.basePrice
  optionLines := optionLines
  optionsTotal := deal.optionsTotal
  listPrice := deal.listPrice
  accessoriesTotal := deal.accessoriesTotal
  discountAmount := deal.discountAmount
  grossPrice := deal.grossPrice
  tradeInValue := deal.tradeInValue
  payable := deal.payable
  vatRate := vatRate

/-- `SwissLanguage(customer_language) if customer_language else DE`. -/
def documentLanguage (customerLanguage : Option String) : Result SwissLanguage :=
  match customerLanguage.filter (· ≠ "") with
  | none => .ok .de
  | some value =>
    match SwissLanguage.ofValue value with
    | some language => .ok language
    | none => .error (internalError s!"'{value}' is not a valid SwissLanguage")

/-- The price block of `generate_offer_document`; `vatRate` is the dealership's. -/
def offerDocumentLines (offer : SalesOffer) (vatRate : Option Decimal) :
    Result (List DocumentLine) := do
  let language ← documentLanguage offer.customerLanguage
  priceBuildUpLines (printedFigures offer.toDeal (includedOptionLines offer.toDeal) vatRate) language

/-- The price block of `generate_contract_document`. -/
def contractDocumentLines (contract : SalesContract) (vatRate : Option Decimal) :
    Result (List DocumentLine) := do
  requireComplete contract "printed"
  let language ← documentLanguage contract.customerLanguage
  priceBuildUpLines (printedFigures contract.toDeal [] vatRate) language

/-! ### The column as printed -/

def LineLabel.priceKey : LineLabel → Option PriceKey
  | .translated _ key => some key
  | .includedVat .. | .provider _ => none

def LineLabel.isProvider : LineLabel → Bool
  | .provider _ => true
  | .translated .. | .includedVat .. => false

def amountOf (lines : List DocumentLine) (key : PriceKey) : Decimal :=
  ((lines.filter fun line => line.label.priceKey = some key).map (·.amount)).sum

def itemised (lines : List DocumentLine) : List DocumentLine :=
  lines.filter fun line => line.label.isProvider

/-- The printed column is a correct sum, an absent line counting as zero. -/
structure ColumnAddsUp (lines : List DocumentLine) : Prop where
  listPrice : amountOf lines .basePrice +
      (if itemised lines = [] then amountOf lines .optionsTotal
        else ((itemised lines).map (·.amount)).sum) = amountOf lines .listPrice
  grossPrice : amountOf lines .listPrice + amountOf lines .accessoriesTotal +
      amountOf lines .discountAmount = amountOf lines .grossPrice
  payable : amountOf lines .grossPrice + amountOf lines .tradeInValue = amountOf lines .payable

section

variable {language : SwissLanguage} {key : PriceKey} {style : LineStyle}

theorem amountOf_append (lines lines' : List DocumentLine) :
    amountOf (lines ++ lines') key = amountOf lines key + amountOf lines' key := by
  simp [amountOf]

theorem amountOf_figureLine (key' : PriceKey) (amount : Option Decimal) :
    amountOf (figureLine language key style amount) key' =
      if key = key' then amount.getD 0 else 0 := by
  cases amount with
  | none => simp [figureLine, amountOf]
  | some a => by_cases h : key = key' <;> simp [figureLine, amountOf, LineLabel.priceKey, h]

theorem amountOf_optionDocumentLines (optionLines : List (String × Decimal)) :
    amountOf (optionDocumentLines optionLines) key = 0 := by
  induction optionLines with
  | nil => rfl
  | cons l ls ih => exact ih

theorem itemised_append (lines lines' : List DocumentLine) :
    itemised (lines ++ lines') = itemised lines ++ itemised lines' := by
  simp [itemised]

theorem itemised_figureLine (amount : Option Decimal) :
    itemised (figureLine language key style amount) = [] := by
  cases amount <;> rfl

theorem itemised_optionDocumentLines (optionLines : List (String × Decimal)) :
    itemised (optionDocumentLines optionLines) = optionDocumentLines optionLines := by
  induction optionLines with
  | nil => rfl
  | cons l ls ih => exact congrArg (_ :: ·) ih

theorem figureLines_amounts (args : PrintedFigures) (language : SwissLanguage) :
    (∀ key, amountOf (figureLines args language) key = match key with
      | .basePrice => args.basePrice.getD 0
      | .optionsTotal => (positive args.optionsTotal).getD 0
      | .listPrice => args.listPrice.getD 0
      | .accessoriesTotal => (positive args.accessoriesTotal).getD 0
      | .discountAmount => ((positive args.discountAmount).map (- ·)).getD 0
      | .grossPrice => args.grossPrice.getD 0
      | .tradeInValue => (args.tradeInValue.map (- ·)).getD 0
      | .payable => args.payable.getD 0) ∧
      itemised (figureLines args language) = optionDocumentLines args.optionLines := by
  constructor
  · intro key
    simp only [figureLines, amountOf_append, amountOf_figureLine, amountOf_optionDocumentLines]
    cases key <;> simp
  · simp only [figureLines, itemised_append, itemised_figureLine, itemised_optionDocumentLines,
      List.nil_append, List.append_nil]

theorem priceBuildUpLines_amounts {args : PrintedFigures} {lines : List DocumentLine}
    (h : priceBuildUpLines args language = .ok lines) :
    (∀ key, amountOf lines key = amountOf (figureLines args language) key) ∧
      itemised lines = itemised (figureLines args language) := by
  unfold priceBuildUpLines at h
  split at h
  · obtain ⟨vatAmount, -, h⟩ := Result.of_bind h
    cases h
    constructor
    · intro key
      rw [amountOf_append]
      exact add_zero _
    · rw [itemised_append]
      exact List.append_nil _
  · cases h
    exact ⟨fun _ => rfl, rfl⟩

end

/-! ### When the column adds up -/

/-- The stored figures are those of a build-up, or the deal is not priced. -/
structure BuildUpHolds (deal : Deal) : Prop where
  figures : deal.toFigures = {} ∨
    (deal.grossPrice ≠ none ∧ AddsUp deal.toFigures deal.tradeInValue)
  options : deal.optionsTotal.getD 0 = lineTotal deal.lines .factoryOption

/-- **The condition on the figures**: what a negative sign leaves out cancels.  A
priced deal itemises its options or their total is not negative, and its
accessories and its discount are short of zero by the same amount; one without a
price has no trade-in value. -/
def PrintsTruly (deal : Deal) (optionLines : List (String × Decimal)) : Prop :=
  if deal.grossPrice = none then deal.tradeInValue.getD 0 = 0
  else (optionLines ≠ [] ∨ 0 ≤ deal.optionsTotal.getD 0) ∧
    min (deal.accessoriesTotal.getD 0) 0 = min (deal.discountAmount.getD 0) 0

theorem positive_getD (x : Decimal) : (positive (some x)).getD 0 = max x 0 := by
  unfold positive
  by_cases h : 0 < x
  · simp [Option.filter_some, h, h.le]
  · simp [Option.filter_some, h, not_lt.mp h]

theorem positive_neg_getD (x : Decimal) : ((positive (some x)).map (- ·)).getD 0 = - max x 0 := by
  unfold positive
  by_cases h : 0 < x
  · simp [Option.filter_some, h, h.le]
  · simp [Option.filter_some, h, not_lt.mp h]

theorem neg_getD (x : Option Decimal) : (x.map (- ·)).getD 0 = -x.getD 0 := by
  cases x <;> simp

theorem sum_includedOptionLines (deal : Deal) (h : includedOptionLines deal ≠ []) :
    ((includedOptionLines deal).map (·.2)).sum = lineTotal deal.lines .factoryOption := by
  unfold includedOptionLines at h ⊢
  split
  · next hnone => exact absurd (if_pos hnone) h
  · rw [List.map_map]
    exact ((List.mergeSort_perm _ _).map _).sum_eq

/-- When the printed column is a correct sum, for figures that add up. -/
theorem columnAddsUp_iff {deal : Deal} {optionLines : List (String × Decimal)}
    {vatRate : Option Decimal} {language : SwissLanguage} {lines : List DocumentLine}
    (hdeal : BuildUpHolds deal) (hitems : optionLines ≠ [] →
      (optionLines.map (·.2)).sum = lineTotal deal.lines .factoryOption)
    (h : priceBuildUpLines (printedFigures deal optionLines vatRate) language = .ok lines) :
    ColumnAddsUp lines ↔ PrintsTruly deal optionLines := by
  obtain ⟨hamounts, hlines⟩ := priceBuildUpLines_amounts h
  obtain ⟨hkeys, hitemised⟩ := figureLines_amounts (printedFigures deal optionLines vatRate) language
  rw [hitemised] at hlines
  have hsum : ((itemised lines).map (·.amount)).sum = (optionLines.map (·.2)).sum := by
    rw [hlines]
    simp only [optionDocumentLines, printedFigures, List.map_map]
    rfl
  have hempty : itemised lines = [] ↔ optionLines = [] := by
    rw [hlines]
    exact List.map_eq_nil_iff
  have hread := fun key => (hamounts key).trans (hkeys key)
  -- the three sums, in the figures of the deal
  have hcolumn : ColumnAddsUp lines ↔
      (deal.basePrice.getD 0 + (if optionLines = [] then (positive deal.optionsTotal).getD 0
          else (optionLines.map (·.2)).sum) = deal.listPrice.getD 0) ∧
      (deal.listPrice.getD 0 + (positive deal.accessoriesTotal).getD 0 +
          ((positive deal.discountAmount).map (- ·)).getD 0 = deal.grossPrice.getD 0) ∧
      deal.grossPrice.getD 0 + (deal.tradeInValue.map (- ·)).getD 0 = deal.payable.getD 0 := by
    constructor
    · rintro ⟨h1, h2, h3⟩
      simp only [hread, hempty, hsum, printedFigures] at h1 h2 h3
      exact ⟨h1, h2, h3⟩
    · rintro ⟨h1, h2, h3⟩
      constructor <;> simp only [hread, hempty, hsum, printedFigures]
      · exact h1
      · exact h2
      · exact h3
  rw [hcolumn]
  unfold PrintsTruly
  rcases hdeal.figures with hunpriced | ⟨hpriced, haddsUp⟩
  · -- nothing is printed but the trade-in
    have hbase : deal.basePrice = none := congrArg Figures.basePrice hunpriced
    have hoptions : deal.optionsTotal = none := congrArg Figures.optionsTotal hunpriced
    have hlist : deal.listPrice = none := congrArg Figures.listPrice hunpriced
    have haccessories : deal.accessoriesTotal = none :=
      congrArg Figures.accessoriesTotal hunpriced
    have hdiscount : deal.discountAmount = none := congrArg Figures.discountAmount hunpriced
    have hgross : deal.grossPrice = none := congrArg Figures.grossPrice hunpriced
    have hpayable : deal.payable = none := congrArg Figures.payable hunpriced
    have hlines : (if optionLines = [] then (positive none).getD 0
        else (optionLines.map (·.2)).sum) = 0 := by
      split
      · rfl
      · next hne =>
        rw [hitems hne, ← hdeal.options, hoptions]
        rfl
    have hnone : positive none = none := rfl
    rw [hbase, hoptions, hlist, haccessories, hdiscount, hgross, hpayable, hlines, hnone,
      neg_getD deal.tradeInValue]
    simp
  · obtain ⟨grossPrice, hgross⟩ := Option.ne_none_iff_exists'.mp hpriced
    obtain ⟨base, options, list, accessories, total, discount, h1, h2, h3, h4, h5, h6, e1, e2, e3, -,
      h7⟩ := haddsUp grossPrice hgross
    have hoptions : options = lineTotal deal.lines .factoryOption := by
      rw [← hdeal.options, h2]
      rfl
    rw [h1, h2, h3, h4, h6, h7, hgross, positive_getD, positive_getD, positive_neg_getD, neg_getD,
      if_neg (Option.some_ne_none grossPrice)]
    simp only [Option.getD_some]
    -- the third sum always holds; the first two are those of the condition
    have hlist : base + (if optionLines = [] then max options 0 else (optionLines.map (·.2)).sum)
        = list ↔ optionLines ≠ [] ∨ 0 ≤ options := by
      by_cases hnil : optionLines = []
      · rw [if_pos hnil, e1, add_right_inj, max_eq_left_iff]
        simp [hnil]
      · rw [if_neg hnil, hitems hnil, ← hoptions, e1]
        simp [hnil]
    have hmiddle : list + max accessories 0 + -max discount 0 = grossPrice ↔
        min accessories 0 = min discount 0 := by
      have ha := max_add_min accessories 0
      have hd := max_add_min discount 0
      rw [e3, e2]
      constructor
      · intro heq
        linarith
      · intro heq
        linarith
    rw [hlist, hmiddle]
    constructor
    · rintro ⟨hfirst, hsecond, -⟩
      exact ⟨hfirst, hsecond⟩
    · rintro ⟨hfirst, hsecond⟩
      exact ⟨hfirst, hsecond, by ring⟩

/-- **Printed prices.**  The column printed for an offer or a contract whose
stored figures add up is a correct sum exactly when the signs of the figures let
it. -/
theorem printed_column_adds_up (vatRate : Option Decimal) (lines : List DocumentLine) :
    (∀ offer : SalesOffer, BuildUpHolds offer.toDeal →
      offerDocumentLines offer vatRate = .ok lines →
      (ColumnAddsUp lines ↔ PrintsTruly offer.toDeal (includedOptionLines offer.toDeal))) ∧
    ∀ contract : SalesContract, BuildUpHolds contract.toDeal →
      contractDocumentLines contract vatRate = .ok lines →
      (ColumnAddsUp lines ↔ PrintsTruly contract.toDeal []) := by
  constructor
  · intro offer hoffer h
    obtain ⟨language, -, h⟩ := Result.of_bind h
    exact columnAddsUp_iff hoffer (sum_includedOptionLines offer.toDeal) h
  · intro contract hcontract h
    obtain ⟨-, -, h⟩ := Result.of_bind h
    obtain ⟨language, -, h⟩ := Result.of_bind h
    exact columnAddsUp_iff hcontract (fun hne => absurd rfl hne) h

instance (deal : Deal) (optionLines : List (String × Decimal)) :
    Decidable (PrintsTruly deal optionLines) := by
  unfold PrintsTruly
  infer_instance

theorem buildUpHolds_of_row {deal : Deal} (hrow : StoredRow deal)
    (hpriced : deal.grossPrice.isSome = true)
    (hoptions : deal.optionsTotal.getD 0 = lineTotal deal.lines .factoryOption) :
    BuildUpHolds deal :=
  ⟨.inr ⟨Option.isSome_iff_ne_none.mp hpriced, hrow.sums.addsUp⟩, hoptions⟩

theorem printed_column_adds_up_centRun :
    ∃ contract lines, (centRun.foldl nextStored (noDeals ∅)).contracts.lookup 0 = some contract ∧
      contractDocumentLines contract (some (81 / 10)) = .ok lines ∧ lines.length = 7 ∧
      ColumnAddsUp lines := by
  have hok : Run.Along nextStored AmountsInCents (noDeals ∅) centRun := by decide +kernel
  have hrows := storedRows_run hok
  have hfacts : ((centRun.foldl nextStored (noDeals ∅)).contracts.lookup 0).map (fun contract =>
      ((contractDocumentLines contract (some (81 / 10))).toOption.map (·.length),
        contract.grossPrice.isSome,
        decide (contract.optionsTotal.getD 0 = lineTotal contract.lines .factoryOption),
        decide (PrintsTruly contract.toDeal []))) = some (some 7, true, true, true) := by
    decide +kernel
  obtain ⟨contract, hrow, hfacts⟩ := Option.map_eq_some_iff.mp hfacts
  simp only [Prod.mk.injEq, decide_eq_true_eq] at hfacts
  obtain ⟨hlength, hpriced, hoptions, htruly⟩ := hfacts
  cases hlines : contractDocumentLines contract (some (81 / 10)) with
  | error e =>
    rw [hlines] at hlength
    cases hlength
  | ok lines =>
    rw [hlines] at hlength
    have hholds := buildUpHolds_of_row (hrows.contracts 0 contract hrow) hpriced hoptions
    exact ⟨contract, lines, hrow, hlines, Option.some.inj hlength,
      ((printed_column_adds_up _ lines).2 contract hholds hlines).mpr htruly⟩

/-- A car at 20000 and a rebate entered as an accessory at -100. -/
def rebateRun : List (ColumnReads × Request) :=
  [(noReads, .createOffer 1),
    (noReads, .updateOffer 1 0 1
      { vehicleSource := some (some .manual), vehicleLabel := some (some "Golf"),
        manualVehicleCondition := some (some "new"), manualBasePrice := some (some 20000) }),
    (noReads, .editOffer 1 0 2 (.replaceLineItems
      { accessories := [{ code := "R", label := "Rebate", unitPrice := -100 }] }))]

/-- The list price is printed at 20000 and the sale price at 19900, with no line
between them. -/
theorem rebateRun_misprints :
    ¬ ∀ (requests : List (ColumnReads × Request)) (id : Uuid) (offer : SalesOffer)
      (vatRate : Option Decimal) (lines : List DocumentLine),
      (requests.foldl nextStored (noDeals ∅)).offers.lookup id = some offer →
      BuildUpHolds offer.toDeal → offerDocumentLines offer vatRate = .ok lines →
      ColumnAddsUp lines := by
  intro h
  have hok : Run.Along nextStored AmountsInCents (noDeals ∅) rebateRun := by decide +kernel
  have hrows := storedRows_run hok
  have hfacts : ((rebateRun.foldl nextStored (noDeals ∅)).offers.lookup 0).map (fun offer =>
      ((offerDocumentLines offer none).toOption.map fun lines =>
          (amountOf lines .listPrice, amountOf lines .accessoriesTotal,
            amountOf lines .discountAmount, amountOf lines .grossPrice),
        offer.grossPrice.isSome,
        decide (offer.optionsTotal.getD 0 = lineTotal offer.lines .factoryOption))) =
      some (some (20000, 0, 0, 19900), true, true) := by
    decide +kernel
  obtain ⟨offer, hrow, hfacts⟩ := Option.map_eq_some_iff.mp hfacts
  simp only [Prod.mk.injEq, decide_eq_true_eq] at hfacts
  obtain ⟨hprinted, hpriced, hoptions⟩ := hfacts
  cases hlines : offerDocumentLines offer none with
  | error e =>
    rw [hlines] at hprinted
    cases hprinted
  | ok lines =>
    rw [hlines] at hprinted
    obtain ⟨hlist, haccessories, hdiscount, hgross⟩ : amountOf lines .listPrice = 20000 ∧
        amountOf lines .accessoriesTotal = 0 ∧ amountOf lines .discountAmount = 0 ∧
        amountOf lines .grossPrice = 19900 := by
      simpa [Except.toOption] using hprinted
    have hholds := buildUpHolds_of_row (hrows.offers 0 offer hrow) hpriced hoptions
    have hcolumn := (h rebateRun 0 offer none lines hrow hholds hlines).grossPrice
    rw [hlist, haccessories, hdiscount, hgross] at hcolumn
    exact absurd hcolumn (by norm_num)

end Nexotec
