/-
The stored price build-up (`app/sales/services/pricing.py`).

The sums are formed in Python and each column is rounded on its own.  When every
operand has at most two decimals every sum has, and rounding changes nothing.
`ContractUpdate` admits two decimals only; `OfferUpdate` and the line items
admit any number.
-/
import Nexotec.Sales.StoredDeals

namespace Nexotec

open Rounding

/-- The figures of a priced deal satisfy the equations of the build-up. -/
def AddsUp (figures : Figures) (tradeInValue : Option Decimal) : Prop :=
  ∀ grossPrice, figures.grossPrice = some grossPrice →
    ∃ basePrice optionsTotal listPrice accessoriesTotal totalBeforeDiscount discountAmount,
      figures.basePrice = some basePrice ∧ figures.optionsTotal = some optionsTotal ∧
      figures.listPrice = some listPrice ∧ figures.accessoriesTotal = some accessoriesTotal ∧
      figures.totalBeforeDiscount = some totalBeforeDiscount ∧
      figures.discountAmount = some discountAmount ∧
      listPrice = basePrice + optionsTotal ∧
      totalBeforeDiscount = listPrice + accessoriesTotal ∧
      grossPrice = totalBeforeDiscount - discountAmount ∧
      figures.margin = figures.costBasis.map (grossPrice - ·) ∧
      figures.payable = some (grossPrice - tradeInValue.getD 0)

def FiguresAddUp (db : SalesDb) : Prop :=
  (∀ id offer, db.offers.lookup id = some offer → AddsUp offer.toFigures offer.tradeInValue) ∧
    ∀ id contract, db.contracts.lookup id = some contract →
      AddsUp contract.toFigures contract.tradeInValue

/-- A discount that is an amount has at most two decimals. -/
def DiscountInCents (discountType : Option DiscountType) (discountValue : Option Decimal) : Prop :=
  ∀ t ∈ discountType, t ≠ .percent → ∀ x ∈ discountValue, Cents x

/-- A base price that is sent counts for a manual vehicle, a discount value
that is sent counts as an amount unless it is a percentage. -/
def DealChanges.InCents (deal : Deal) (changes : DealChanges) : Prop :=
  (changes.configurationId.join ≠ none ∨ (requested deal changes).vehicleSource = some .manual →
    ∀ x ∈ changes.manualBasePrice.join, Cents x) ∧
  DiscountInCents (requested deal changes).discountType changes.discountValue.join

def LineItemsReplaceRequest.InCents (data : LineItemsReplaceRequest) : Prop :=
  (∀ a ∈ data.accessories,
    Cents (a.unitPrice * a.quantity) ∧ DiscountInCents a.discountType a.discountValue) ∧
  ∀ p ∈ data.factoryOptions, DiscountInCents p.discountType p.discountValue

def Edit.InCents : Edit → Prop
  | .replaceLineItems data => data.InCents
  | .setTradeIn _ | .attachTradeInValuation _ => True

/-- **The condition on a request**: each amount it hands to the build-up has at
most two decimals.  The schema of a contract's PATCH sees to that itself. -/
def AmountsInCents (db : SalesDb) (a : ColumnReads × Request) : Prop :=
  match a.2 with
  | .updateOffer _ offerId _ data =>
    ∀ offer ∈ db.offers.lookup offerId, data.toDealChanges.InCents offer.toDeal
  | .editOffer _ _ _ edit | .editContract _ _ _ edit => edit.InCents
  | .createOffer _ | .copyOffer .. | .createContract .. | .updateContract ..
  | .createValuation _ | .consumeValuation .. | .revertValuationUse _ => True

/-! ### Operands -/

def Snapshot.amounts (snapshot : Snapshot) : List Decimal :=
  [snapshot.basePrice, snapshot.purchasePrice, snapshot.landedCost,
    snapshot.notionalInputTaxAmount].flatMap Option.toList

structure LineInCents (li : LineItem) : Prop where
  total : Cents (li.unitPrice * li.quantity)
  resolved : ∀ x ∈ li.discountResolvedAmount, Cents x

/-- A line whose columns hold what the build-up read of it. -/
structure ExactLine (li : LineItem) : Prop where
  unitPrice : Cents li.unitPrice
  resolved : ∀ x ∈ li.discountResolvedAmount, Cents x

theorem ExactLine.inCents {li : LineItem} (h : ExactLine li) : LineInCents li :=
  ⟨h.unitPrice.mul_intCast li.quantity, h.resolved⟩

/-- What the build-up reads of a deal has at most two decimals. -/
structure OperandsInCents (deal : Deal) : Prop where
  base : deal.vehicleSource = some .manual → ∀ x ∈ deal.manualBasePrice, Cents x
  snapshot : ∀ s ∈ deal.vehicleSnapshot, ∀ x ∈ s.amounts, Cents x
  lines : ∀ li ∈ deal.lines, LineInCents li
  discount : DiscountInCents deal.discountType deal.discountValue

/-- The figures of a deal add up and have at most two decimals. -/
structure Sums (deal : Deal) : Prop where
  addsUp : AddsUp deal.toFigures deal.tradeInValue
  figures : ∀ x ∈ deal.toFigures.amounts, Cents x
  snapshot : ∀ s ∈ deal.vehicleSnapshot, ∀ x ∈ s.amounts, Cents x

/-- The deal as columns hold it. -/
structure InColumns (deal : Deal) : Prop where
  base : ∀ x ∈ deal.manualBasePrice, Cents x
  discount : ∀ x ∈ deal.discountValue, Cents x
  tradeIn : ∀ x ∈ deal.tradeInValue, Cents x
  lines : ∀ li ∈ deal.lines, ∀ x ∈ li.amounts, Cents x

section

variable {deal : Deal}

theorem getD_cents {x : Option Decimal} (h : ∀ y ∈ x, Cents y) : Cents (x.getD 0) := by
  cases x with
  | none => exact onGrid_zero
  | some y => exact h y rfl

theorem cents_resolveDiscount {discountType : Option DiscountType} {discountValue : Option Decimal}
    (h : DiscountInCents discountType discountValue) (baseAmount : Decimal) :
    Cents (resolveDiscount discountType discountValue baseAmount) := by
  cases discountType with
  | none =>
    unfold resolveDiscount
    exact onGrid_zero
  | some t =>
    cases discountValue with
    | none =>
      unfold resolveDiscount
      cases t <;> exact onGrid_zero
    | some value =>
      cases t with
      | percent => exact cents_quantizeCents _
      | amount => exact h .amount rfl (by decide) value rfl
      | other text => exact h (.other text) rfl (by simp) value rfl

theorem cents_lineTotal {lines : List LineItem} (h : ∀ li ∈ lines, LineInCents li)
    (kind : LineItemKind) : Cents (lineTotal lines kind) := by
  refine onGrid_sum fun x hx => ?_
  obtain ⟨li, hli, rfl⟩ := List.mem_map.mp hx
  have hline := h li (List.mem_of_mem_filter hli)
  exact hline.total.sub (getD_cents hline.resolved)

theorem cents_costBasis {snapshot : Option Snapshot}
    (h : ∀ s ∈ snapshot, ∀ x ∈ s.amounts, Cents x) :
    ∀ x ∈ costBasisFromSnapshot snapshot, Cents x := by
  cases snapshot with
  | none => exact fun x hx => by cases hx
  | some s =>
    have hs := h s rfl
    simp only [Snapshot.amounts, List.flatMap_cons, List.flatMap_nil, List.mem_append,
      Option.mem_toList, List.append_nil] at hs
    have hcredit : Cents (s.notionalInputTaxAmount.getD 0) :=
      getD_cents fun x hx => hs x (.inr (.inr (.inr hx)))
    intro x hx
    simp only [costBasisFromSnapshot, Option.bind_some, Option.mem_def] at hx
    split at hx
    · next landedCost hlanded =>
      cases hx
      exact (hs landedCost (.inr (.inr (.inl hlanded)))).sub hcredit
    · obtain ⟨price, hprice, rfl⟩ := Option.map_eq_some_iff.mp hx
      exact (hs price (.inr (.inl hprice))).sub hcredit

/-- A build-up from operands in cents has sums in cents. -/
theorem sums_applyBuildUp (h : OperandsInCents deal) (htrade : ∀ x ∈ deal.tradeInValue, Cents x) :
    Sums (applyBuildUp deal) := by
  have hoptions := cents_lineTotal h.lines .factoryOption
  have haccessories := cents_lineTotal h.lines .accessory
  have hbase : Cents (buildUp deal).basePrice := by
    unfold buildUp
    split
    · next hmanual =>
      split at hmanual
      · next hsource =>
        cases hmanual
        exact getD_cents (h.base hsource)
      · cases hmanual
        refine getD_cents fun x hx => ?_
        obtain ⟨s, hs, hbase⟩ := Option.bind_eq_some_iff.mp hx
        exact h.snapshot s hs x (by simp [Snapshot.amounts, hbase])
  have hcost : ∀ x ∈ (buildUp deal).costBasis, Cents x := by
    unfold buildUp
    split
    · next hmanual =>
      split at hmanual
      · cases hmanual
        exact fun x hx => by cases hx
      · cases hmanual
        exact cents_costBasis h.snapshot
  have hlist : Cents (buildUp deal).listPrice := hbase.add hoptions
  have htotal : Cents (buildUp deal).totalBeforeDiscount := hlist.add haccessories
  have hdiscount : Cents (buildUp deal).discountAmount := cents_resolveDiscount h.discount _
  have hgross : Cents (buildUp deal).grossPrice := htotal.sub hdiscount
  refine ⟨fun grossPrice hg => ?_, fun x hx => ?_, h.snapshot⟩
  · cases hg
    exact ⟨_, _, _, _, _, _, rfl, rfl, rfl, rfl, rfl, rfl, rfl, rfl, rfl, rfl, rfl⟩
  · simp only [Figures.amounts, applyBuildUp, List.flatMap_cons, List.flatMap_nil, List.mem_append,
      Option.mem_toList, Option.some.injEq, List.append_nil] at hx
    rcases hx with rfl | rfl | rfl | rfl | rfl | rfl | rfl | hx | hx | rfl
    · exact hbase
    · exact hoptions
    · exact hlist
    · exact haccessories
    · exact htotal
    · exact hdiscount
    · exact hgross
    · exact hcost x hx
    · obtain ⟨cost, hcostBasis, rfl⟩ := Option.map_eq_some_iff.mp hx
      exact hgross.sub (hcost cost hcostBasis)
    · exact hgross.sub (getD_cents htrade)

end

/-! ### Storing -/

/-- What a request leaves for the flush. -/
structure Written (deal : Deal) : Prop where
  sums : Sums deal
  tradeIn : ∀ x ∈ deal.tradeInValue, Cents x

/-- A stored row: its columns hold cents, and its figures add up. -/
structure StoredRow (deal : Deal) : Prop where
  columns : InColumns deal
  sums : Sums deal

section

variable {deal : Deal}

theorem map_column {x : Option Decimal} (h : ∀ y ∈ x, Cents y) : x.map column = x := by
  cases x with
  | none => rfl
  | some y => exact congrArg some (column_of_cents (h y rfl))

theorem cents_map_column (x : Option Decimal) : ∀ y ∈ x.map column, Cents y := by
  intro y hy
  obtain ⟨z, -, rfl⟩ := Option.map_eq_some_iff.mp hy
  exact cents_column z

theorem stored_figures {figures : Figures} (h : ∀ x ∈ figures.amounts, Cents x) :
    figures.stored = figures := by
  have hfield : ∀ o ∈ [figures.basePrice, figures.optionsTotal, figures.listPrice,
      figures.accessoriesTotal, figures.totalBeforeDiscount, figures.discountAmount,
      figures.grossPrice, figures.costBasis, figures.margin, figures.payable],
      o.map column = o := fun o ho =>
    map_column fun x hx => h x (List.mem_flatMap.mpr ⟨o, ho, Option.mem_toList.mpr hx⟩)
  simp only [List.forall_mem_cons] at hfield
  obtain ⟨h1, h2, h3, h4, h5, h6, h7, h8, h9, h10, -⟩ := hfield
  cases figures
  simp only [Figures.stored, Figures.mk.injEq]
  exact ⟨h1, h2, h3, h4, h5, h6, h7, h8, h9, h10⟩

theorem inColumns_stored (deal : Deal) : InColumns deal.stored := by
  refine ⟨cents_map_column _, cents_map_column _, cents_map_column _, fun li hli x hx => ?_⟩
  obtain ⟨written, -, rfl⟩ := List.mem_map.mp hli
  simp only [LineItem.amounts, LineItem.stored, List.mem_cons, List.mem_append,
    Option.mem_toList] at hx
  rcases hx with rfl | hx | hx
  · exact cents_column _
  · exact cents_map_column _ x hx
  · exact cents_map_column _ x hx

theorem Written.stored (h : Written deal) : StoredRow deal.stored := by
  have hfigures : deal.stored.toFigures = deal.toFigures := stored_figures h.sums.figures
  have hvalue : deal.stored.tradeInValue = deal.tradeInValue := map_column h.tradeIn
  refine ⟨inColumns_stored deal, ?_, ?_, h.sums.snapshot⟩
  · rw [hfigures, hvalue]
    exact h.sums.addsUp
  · rw [hfigures]
    exact h.sums.figures

theorem StoredRow.written (h : StoredRow deal) : Written deal := ⟨h.sums, h.columns.tradeIn⟩

theorem exactLine_of_columns {li : LineItem} (h : ∀ x ∈ li.amounts, Cents x) : ExactLine li where
  unitPrice := h li.unitPrice List.mem_cons_self
  resolved := fun x hx =>
    h x (List.mem_cons_of_mem _ (List.mem_append_right _ (Option.mem_toList.mpr hx)))

end

section Freezing

variable {reads : Reads} {deal deal' : Deal}

theorem exactLine_applyTo {edit : SellerEdit} {row : LineItem} (hrow : ExactLine row)
    (hvalue : ∀ x ∈ edit.discountValue, Cents x) : ExactLine (edit.applyTo row) := by
  unfold SellerEdit.applyTo
  split
  · next discountType value hd hv =>
    refine ⟨hrow.unitPrice, fun x hx => ?_⟩
    cases hx
    exact cents_resolveDiscount (fun t _ _ y hy => hvalue y (hv.trans hy)) _
  · exact ⟨hrow.unitPrice, hrow.resolved⟩

theorem cents_keptEdits {configuration : HostConfiguration} {code label : String}
    {edit : SellerEdit} (hlines : ∀ li ∈ deal.lines, ∀ x ∈ li.amounts, Cents x)
    (h : keptEdits reads deal configuration code label = some edit) :
    ∀ x ∈ edit.discountValue, Cents x := by
  obtain ⟨li, hli, rfl⟩ := keptEdits_eq_some h
  exact fun x hx => hlines li hli x
    (List.mem_cons_of_mem _ (List.mem_append_left _ (Option.mem_toList.mpr hx)))

theorem exactLine_frozenLine {configuration : HostConfiguration} {line : ConfigurationPriceLine}
    {row : LineItem} (hlines : ∀ li ∈ deal.lines, ∀ x ∈ li.amounts, Cents x)
    (hprice : Cents line.price) (hunit : row.unitPrice = line.price)
    (hresolved : row.discountResolvedAmount = none) {code label : String} :
    ExactLine (match keptEdits reads deal configuration code label with
      | some edit => edit.applyTo row
      | none => row) := by
  have hrow : ExactLine row :=
    ⟨hunit ▸ hprice, fun x hx => by rw [hresolved] at hx; cases hx⟩
  split
  · next edit hedit => exact exactLine_applyTo hrow (cents_keptEdits hlines hedit)
  · exact hrow

theorem freezeContent_inCents {configuration : Option HostConfiguration} {identity : String}
    {snapshot : Snapshot} {options : List LineItem} (hreads : reads.FromColumns)
    (hconfiguration : ∀ c ∈ configuration, ∀ x ∈ c.amounts, Cents x)
    (hlines : ∀ li ∈ deal.lines, ∀ x ∈ li.amounts, Cents x)
    (h : freezeContent reads deal configuration identity = .ok (snapshot, options)) :
    (∀ x ∈ snapshot.amounts, Cents x) ∧ ∀ li ∈ options, ExactLine li := by
  unfold freezeContent at h
  split at h
  · next stockItemId _ _ _ =>
    obtain ⟨pricing, hpricing, h⟩ := Result.of_bind h
    cases h
    obtain ⟨item, hitem, hpricing⟩ := Result.of_bind hpricing
    cases hpricing
    rw [getStockItemOr404, orNotFound_eq_ok, Option.filter_eq_some_iff] at hitem
    -- what the stock reads are amounts of columns
    have hamounts := hreads.2 _ item hitem.1
    simp only [StockItem.amounts, List.flatMap_cons, List.flatMap_nil, List.forall_mem_append,
      Option.mem_toList] at hamounts
    obtain ⟨⟨hbase, hlist, heffective, hpurchase, hlanded, hcredit, -⟩, hoptions⟩ := hamounts
    constructor
    · intro x hx
      simp only [Snapshot.amounts, List.flatMap_cons, List.flatMap_nil, List.mem_append,
        Option.mem_toList, List.append_nil] at hx
      rcases hx with hx | hx | hx | hx
      · split at hx
        · cases hprice : item.effectivePrice with
          | some price => exact heffective x (hprice.trans (by simpa [hprice] using hx))
          | none => exact hlist x (by simpa [hprice] using hx)
        · exact hbase x hx
      · exact hpurchase x hx
      · exact hlanded x hx
      · exact hcredit x hx
    · intro li hli
      obtain ⟨⟨option, position⟩, hoption, rfl⟩ := List.mem_map.mp hli
      have hmem : option ∈ item.options := List.fst_mem_of_mem_zipIdx hoption
      exact ⟨hoptions option.price (List.mem_map_of_mem hmem), fun x hx => by cases hx⟩
  · next c _ =>
    cases h
    constructor
    · intro x hx
      simp [Snapshot.amounts] at hx
    · intro li hli
      obtain ⟨⟨line, position⟩, hline, rfl⟩ := List.mem_map.mp hli
      have hmem : line ∈ c.priceLines := List.fst_mem_of_mem_zipIdx hline
      have hprice : Cents line.price := by
        refine hconfiguration c rfl _ ?_
        exact List.mem_append_right _ (List.mem_map_of_mem hmem)
      exact exactLine_frozenLine hlines hprice rfl rfl
  · cases h
    constructor
    · intro x hx
      simp [Snapshot.amounts, freezeManual] at hx
    · intro li hli
      cases hli

theorem cents_frozenConfiguration {configuration : Option HostConfiguration}
    (hreads : reads.FromColumns) (h : frozenConfiguration reads deal = .ok configuration) :
    ∀ c ∈ configuration, ∀ x ∈ c.amounts, Cents x := by
  unfold frozenConfiguration at h
  split at h
  · obtain ⟨c, hc, hsome⟩ := Result.map_eq_ok.mp h
    subst hsome
    rintro c' hc'
    cases hc'
    rw [getConfigurationForHost, orNotFound_eq_ok] at hc
    exact hreads.1 _ _ c hc
  · cases h
    exact fun c hc => by cases hc

theorem operandsInCents_freeze {froze : Bool} (hreads : reads.FromColumns)
    (hlines : ∀ li ∈ deal.lines, ∀ x ∈ li.amounts, Cents x) (h : OperandsInCents deal)
    (hfreeze : freezeVehicleSnapshot reads deal = .ok (deal', froze)) : OperandsInCents deal' := by
  rcases freezeVehicleSnapshot_content hfreeze with ⟨rfl, -⟩ |
    ⟨configuration, identity, snapshot, options, hc, -, -, hcontent, -, rfl⟩
  · exact h
  · obtain ⟨hsnapshot, hoptions⟩ :=
      freezeContent_inCents hreads (cents_frozenConfiguration hreads hc) hlines hcontent
    refine ⟨h.base, fun s hs => ?_, fun li hli => ?_, h.discount⟩
    · cases hs
      exact hsnapshot
    · rcases List.mem_append.mp hli with hold | hnew
      · exact h.lines li (List.mem_of_mem_filter hold)
      · exact (hoptions li hnew).inCents

theorem sums_repriceDeal (hreads : reads.FromColumns)
    (hlines : ∀ li ∈ deal.lines, ∀ x ∈ li.amounts, Cents x)
    (htrade : ∀ x ∈ deal.tradeInValue, Cents x) (h : OperandsInCents deal)
    (hsums : AddsUp deal.toFigures deal.tradeInValue ∧ ∀ x ∈ deal.toFigures.amounts, Cents x)
    (hreprice : repriceDeal reads deal = .ok deal') : Sums deal' := by
  obtain ⟨frozen, froze, hfreeze, rfl⟩ := repriceDeal_eq_ok hreprice
  have hfrozen := operandsInCents_freeze hreads hlines h hfreeze
  have hframe : frozen.toTradeIn = deal.toTradeIn ∧ frozen.toFigures = deal.toFigures := by
    rcases freezeVehicleSnapshot_cases hfreeze with ⟨rfl, -⟩ | ⟨lines, snapshot, rfl⟩ <;>
      exact ⟨rfl, rfl⟩
  have hvalue : frozen.tradeInValue = deal.tradeInValue := congrArg TradeIn.tradeInValue hframe.1
  split
  · exact sums_applyBuildUp hfrozen (hvalue ▸ htrade)
  · refine ⟨?_, ?_, hfrozen.snapshot⟩
    · rw [hframe.2, hvalue]
      exact hsums.1
    · rw [hframe.2]
      exact hsums.2

end Freezing

section Edits

variable {reads : Reads} {deal deal' : Deal}

theorem requested_inputs (deal : Deal) (changes : DealChanges) :
    (requested deal changes).discountType = changes.discountType.getD deal.discountType ∧
      (requested deal changes).manualBasePrice = changes.manualBasePrice.getD deal.manualBasePrice ∧
      (requested deal changes).discountValue = changes.discountValue.getD deal.discountValue := by
  unfold requested
  split <;> exact ⟨rfl, rfl, rfl⟩

theorem cents_getD {sent : Option (Option Decimal)} {old : Option Decimal}
    (hsent : ∀ x ∈ sent.join, Cents x) (hold : ∀ x ∈ old, Cents x) :
    ∀ x ∈ sent.getD old, Cents x := by
  cases sent with
  | none => exact hold
  | some x => exact hsent

variable {changes : DealChanges} {host : String}

theorem cents_base_patchDeal (hreads : reads.FromColumns) (hcolumns : InColumns deal)
    (hsent : changes.configurationId.join ≠ none ∨
      (requested deal changes).vehicleSource = some .manual →
      ∀ x ∈ changes.manualBasePrice.join, Cents x)
    (h : patchDeal reads deal changes host = .ok deal') :
    deal'.vehicleSource = some .manual → ∀ x ∈ deal'.manualBasePrice, Cents x := by
  rcases patchDeal_cases h with ⟨id, configuration, hid, hconfiguration, -, rfl⟩ | ⟨-, rfl⟩
  · refine fun _ => cents_getD (hsent (.inl (by simp [hid]))) fun x hx => ?_
    split at hx
    · exact hreads.1 _ _ configuration hconfiguration x
        (List.mem_append_left _ (Option.mem_toList.mpr hx))
    · exact hcolumns.base x hx
  · intro hmanual
    rw [(requested_inputs deal changes).2.1]
    exact cents_getD (hsent (.inr hmanual)) hcolumns.base

theorem cents_discount_patchDeal {P : Option DiscountType → Prop} (hcolumns : InColumns deal)
    (hsent : P (requested deal changes).discountType → ∀ x ∈ changes.discountValue.join, Cents x)
    (h : patchDeal reads deal changes host = .ok deal') :
    P deal'.discountType → ∀ x ∈ deal'.discountValue, Cents x := by
  obtain ⟨htype, -, hvalue⟩ := requested_inputs deal changes
  rw [htype] at hsent
  rcases patchDeal_cases h with ⟨id, configuration, -, -, -, rfl⟩ | ⟨-, rfl⟩
  · exact fun hp => cents_getD (hsent hp) hcolumns.discount
  · rw [htype, hvalue]
    exact fun hp => cents_getD (hsent hp) hcolumns.discount

theorem operandsInCents_patchDeal (hreads : reads.FromColumns) (hrow : StoredRow deal)
    (hchanges : changes.InCents deal) (h : patchDeal reads deal changes host = .ok deal') :
    OperandsInCents deal' := by
  obtain ⟨-, -, -, -, -, -, hsnapshot, hlines⟩ := patchDeal_frame h
  have hdiscount := cents_discount_patchDeal (P := fun type => ∃ t ∈ type, t ≠ .percent)
    hrow.columns (fun ⟨t, ht, hpercent⟩ => hchanges.2 t ht hpercent) h
  refine ⟨cents_base_patchDeal hreads hrow.columns hchanges.1 h, ?_, ?_,
    fun t ht hpercent => hdiscount ⟨t, ht, hpercent⟩⟩
  · rw [hsnapshot]
    exact hrow.sums.snapshot
  · rw [hlines]
    exact fun li hli => (exactLine_of_columns (hrow.columns.lines li hli)).inCents

theorem sums_applyVehicleAndPricingChanges (hreads : reads.FromColumns) (hrow : StoredRow deal)
    (hchanges : changes.InCents deal)
    (h : applyVehicleAndPricingChanges reads deal changes host = .ok deal') : Sums deal' := by
  obtain ⟨patched, hpatch, hreprice⟩ := applyVehicleAndPricingChanges_eq_ok h
  have hoperands := operandsInCents_patchDeal hreads hrow hchanges hpatch
  obtain ⟨htrade, -, -, -, -, hfigures, -, hlines⟩ := patchDeal_frame hpatch
  have hvalue : patched.tradeInValue = deal.tradeInValue := congrArg TradeIn.tradeInValue htrade
  refine sums_repriceDeal hreads (hlines ▸ hrow.columns.lines) (hvalue ▸ hrow.columns.tradeIn)
    hoperands ?_ hreprice
  rw [hfigures, hvalue]
  exact ⟨hrow.sums.addsUp, hrow.sums.figures⟩

theorem lineInCents_applyDiscount {row row' : LineItem} {storedId : Option Uuid}
    {discountType : Option DiscountType} {discountValue : Option Decimal} {reason : Option String}
    {used : Bool} (htotal : Cents (row.unitPrice * row.quantity))
    (hdiscount : DiscountInCents discountType discountValue)
    (h : applyDiscount row storedId discountType discountValue reason used = .ok row') :
    LineInCents row' := by
  unfold applyDiscount at h
  dsimp only at h
  split at h
  · cases h
  · split at h
    · cases h
      refine ⟨htotal, fun x hx => ?_⟩
      cases hx
      exact cents_resolveDiscount hdiscount _
    · cases h
      exact ⟨htotal, fun x hx => by cases hx⟩

theorem lines_replaceLines {data : LineItemsReplaceRequest} {lines : List LineItem}
    (hdata : data.InCents) (hlines : ∀ li ∈ deal.lines, LineInCents li)
    (h : replaceLines reads deal data = .ok lines) : ∀ li ∈ lines, LineInCents li := by
  refine forall_replaceLines hlines ?_ ?_ h
  · intro a ha row row' storedId hprice hquantity hrow
    obtain ⟨htotal, hdiscount⟩ := hdata.1 a ha
    exact lineInCents_applyDiscount (by rw [hprice, hquantity]; exact htotal) hdiscount hrow
  · intro p hp row row' storedId hold hrow
    refine lineInCents_applyDiscount ?_ (hdata.2 p hp) hrow
    exact hold.total

theorem sums_replaceLineItems {data : LineItemsReplaceRequest} (hrow : StoredRow deal)
    (hdata : data.InCents) (h : replaceLineItems reads deal data = .ok deal') : Sums deal' := by
  obtain ⟨lines, hlines, h⟩ := Result.of_bind h
  cases h
  have holds := lines_replaceLines hdata
    (fun li hli => (exactLine_of_columns (hrow.columns.lines li hli)).inCents) hlines
  have hoperands : OperandsInCents { deal with lines := lines } :=
    ⟨fun _ => hrow.columns.base, hrow.sums.snapshot, holds, fun _ _ _ => hrow.columns.discount⟩
  have hsums := sums_applyBuildUp hoperands hrow.columns.tradeIn
  exact ⟨hsums.addsUp, hsums.figures, hsums.snapshot⟩

theorem written_unpriced (hfigures : deal.toFigures = {}) (hsnapshot : deal.vehicleSnapshot = none)
    (htrade : ∀ x ∈ deal.tradeInValue, Cents x) : Written deal := by
  refine ⟨⟨?_, ?_, ?_⟩, htrade⟩
  · rw [hfigures]
    exact fun grossPrice hgross => by cases hgross
  · rw [hfigures]
    intro x hx
    simp [Figures.amounts] at hx
  · rw [hsnapshot]
    exact fun s hs => by cases hs

theorem written_finishTradeIn (hrow : StoredRow deal) {tradeIn : TradeIn}
    (htrade : ∀ x ∈ tradeIn.tradeInValue, Cents x) :
    Written (finishTradeIn reads { deal with toTradeIn := tradeIn }) := by
  obtain ⟨haddsUp, hfigures, hsnapshot⟩ := hrow.sums
  simp only [Figures.amounts, List.flatMap_cons, List.flatMap_nil, List.append_nil,
    List.forall_mem_append, Option.mem_toList] at hfigures
  obtain ⟨h1, h2, h3, h4, h5, h6, hgross, h8, h9, -⟩ := hfigures
  unfold finishTradeIn recomputePayable
  split
  · next hnone =>
    have hunpriced : deal.grossPrice = none := hnone
    refine ⟨⟨fun grossPrice hpriced => ?_, ?_, hsnapshot⟩, htrade⟩
    · exact absurd (hunpriced.symm.trans hpriced) (by simp)
    · simp only [Figures.amounts, List.flatMap_cons, List.flatMap_nil, List.append_nil,
        List.forall_mem_append, Option.mem_toList]
      exact ⟨h1, h2, h3, h4, h5, h6, hgross, h8, h9, fun x hx => by cases hx⟩
  · next grossPrice hsome =>
    refine ⟨⟨fun g hg => ?_, ?_, hsnapshot⟩, htrade⟩
    · obtain ⟨b, o, l, a, t, d, hb, ho, hl, ha, ht, hd, e1, e2, e3, e4, -⟩ := haddsUp g hg
      obtain rfl : grossPrice = g := Option.mem_unique hsome hg
      exact ⟨b, o, l, a, t, d, hb, ho, hl, ha, ht, hd, e1, e2, e3, e4, rfl⟩
    · simp only [Figures.amounts, List.flatMap_cons, List.flatMap_nil, List.append_nil,
        List.forall_mem_append, Option.mem_toList]
      refine ⟨h1, h2, h3, h4, h5, h6, hgross, h8, h9, fun x hx => ?_⟩
      cases hx
      exact (hgross grossPrice hsome).sub (getD_cents htrade)

theorem cents_attach {valuationId : Uuid} {valuation : Valuation}
    (hoffer : Cents valuation.finalOffer) :
    ∀ x ∈ (attach reads deal valuationId valuation).tradeInValue, Cents x := by
  intro x hx
  cases hx
  exact hoffer

theorem written_edit {valuations : Table Uuid Valuation} {edit : Edit} (hrow : StoredRow deal)
    (hvaluations : ∀ id v, valuations.lookup id = some v → Cents v.finalOffer)
    (hedit : edit.InCents) (h : edit.run reads valuations deal = .ok deal') : Written deal' := by
  cases edit with
  | replaceLineItems data =>
    obtain ⟨-, htrade, -⟩ := replaceLineItems_frame h
    refine ⟨sums_replaceLineItems hrow hedit h, ?_⟩
    rw [htrade]
    exact hrow.columns.tradeIn
  | setTradeIn data =>
    obtain ⟨vehicle, -, rfl⟩ := setTradeIn_eq_ok h
    rw [writeTradeIn, recordAndAttach_frame]
    refine written_finishTradeIn hrow ?_
    unfold recordAndAttach
    dsimp only
    split
    · next valuationId valuation rest hlist =>
      have hmem := mem_listValidValuationsForVehicle
        (show (valuationId, valuation) ∈ _ by rw [hlist]; exact List.mem_cons_self)
      exact cents_attach (hvaluations valuationId valuation hmem.1)
    · exact hrow.columns.tradeIn
  | attachTradeInValuation valuationId =>
    obtain ⟨valuation, hvaluation, rfl⟩ := attachTradeInValuation_eq_ok h
    rw [attach_frame]
    exact written_finishTradeIn hrow (cents_attach (hvaluations valuationId valuation hvaluation))

theorem written_patch (hreads : reads.FromColumns) (hrow : StoredRow deal)
    (hchanges : changes.InCents deal)
    (h : applyVehicleAndPricingChanges reads deal changes host = .ok deal') : Written deal' := by
  obtain ⟨htrade, -⟩ := applyVehicleAndPricingChanges_frame h
  refine ⟨sums_applyVehicleAndPricingChanges hreads hrow hchanges h, ?_⟩
  rw [htrade]
  exact hrow.columns.tradeIn

theorem StoredRow.withParties (h : StoredRow deal) (buyer : Buyer) (owner : Owner) :
    StoredRow { deal with toBuyer := buyer, toOwner := owner } :=
  ⟨⟨h.columns.base, h.columns.discount, h.columns.tradeIn, h.columns.lines⟩,
    h.sums.addsUp, h.sums.figures, h.sums.snapshot⟩

theorem DealChanges.InCents.withParties (h : changes.InCents deal) (buyer : Buyer) (owner : Owner) :
    changes.InCents { deal with toBuyer := buyer, toOwner := owner } := by
  have hreq : requested { deal with toBuyer := buyer, toOwner := owner } changes =
      { requested deal changes with toBuyer := buyer, toOwner := owner } := by
    unfold requested
    split <;> rfl
  unfold DealChanges.InCents
  rw [hreq]
  exact h

theorem inCents_contractUpdate (data : ContractUpdate) (deal : Deal) :
    data.1.toDealChanges.InCents deal := by
  obtain ⟨body, haccepts⟩ := data
  simp only [ContractUpdateBody.accepts, Bool.and_eq_true] at haccepts
  obtain ⟨⟨⟨-, hbase⟩, -⟩, hdiscount⟩ := haccepts
  have hcents : ∀ {field : Option (Option Decimal)}, whenSent isMoney field = true →
      ∀ x ∈ field.join, Cents x := by
    intro field hfield x hx
    unfold whenSent at hfield
    rw [hx] at hfield
    exact cents_of_isMoney hfield
  exact ⟨fun _ => hcents hbase, fun _ _ _ => hcents hdiscount⟩

end Edits

section

variable {reads : Reads}

theorem written_copyOffer {sourceId : Uuid} {source offer : SalesOffer}
    (hreads : reads.FromColumns) (hsource : StoredRow source.toDeal)
    (h : copyOffer reads sourceId source = .ok offer) : Written offer.toDeal := by
  have hreprice := copyOffer_eq_ok h
  obtain ⟨htrade, -⟩ := repriceDeal_frame hreprice
  have hvalue : ∀ x ∈ (copiedDeal reads source.toDeal).tradeInValue, Cents x :=
    hsource.columns.tradeIn
  have hcopied : Written (copiedDeal reads source.toDeal) := written_unpriced rfl rfl hvalue
  have hlines : (copiedDeal reads source.toDeal).lines = [] := rfl
  have hoperands : OperandsInCents (copiedDeal reads source.toDeal) :=
    ⟨fun _ => hsource.columns.base, hcopied.sums.snapshot, by simp [hlines],
      fun _ _ _ => hsource.columns.discount⟩
  refine ⟨sums_repriceDeal hreads (by simp [hlines]) hvalue hoperands
    ⟨hcopied.sums.addsUp, hcopied.sums.figures⟩ hreprice, ?_⟩
  rw [htrade]
  exact hvalue

end

/-! ### Runs -/

/-- Every row of the tables is a stored one that adds up. -/
structure StoredRows (db : SalesDb) : Prop where
  offers : ∀ id offer, db.offers.lookup id = some offer → StoredRow offer.toDeal
  contracts : ∀ id contract, db.contracts.lookup id = some contract → StoredRow contract.toDeal
  valuations : ∀ id v, db.valuations.lookup id = some v → Cents v.finalOffer

section

variable {reads : Reads} {db written : SalesDb} {request : Request}

theorem written_offer {id : Uuid} {offer : SalesOffer} (hreads : reads.FromColumns)
    (hdb : StoredRows db)
    (hcents : ∀ tenantId ifMatch data offer, request = .updateOffer tenantId id ifMatch data →
      db.offers.lookup id = some offer → data.toDealChanges.InCents offer.toDeal)
    (hedits : ∀ tenantId ifMatch edit, request = .editOffer tenantId id ifMatch edit → edit.InCents)
    (h : handle reads db request = .ok written) (hrow : written.offers.lookup id = some offer) :
    Written offer.toDeal := by
  rcases offer_cases h hrow with hold | ⟨tenantId, rfl⟩ | ⟨sourceId, source, hsource, hcopy⟩ |
    ⟨tenantId, ifMatch, data, old, hrequest, hold, hupdate⟩ |
    ⟨tenantId, ifMatch, edit, old, deal, hrequest, hold, hedit, rfl⟩
  · exact (hdb.offers id offer hold).written
  · exact written_unpriced rfl rfl fun x hx => by cases hx
  · exact written_copyOffer hreads (hdb.offers sourceId source hsource) hcopy
  · obtain ⟨buyer, owner, hdeal⟩ := updateOffer_eq_ok hupdate
    exact written_patch hreads ((hdb.offers id old hold).withParties buyer owner)
      ((hcents tenantId ifMatch data old hrequest hold).withParties buyer owner) hdeal
  · exact written_edit (hdb.offers id old hold) hdb.valuations
      (hedits tenantId ifMatch edit hrequest) hedit

theorem written_contract {id : Uuid} {contract : SalesContract} (hreads : reads.FromColumns)
    (hdb : StoredRows db)
    (hedits : ∀ tenantId ifMatch edit, request = .editContract tenantId id ifMatch edit →
      edit.InCents) (h : handle reads db request = .ok written)
    (hrow : written.contracts.lookup id = some contract) : Written contract.toDeal := by
  rcases contract_cases h hrow with hold | ⟨tenantId, data, -, hcreate⟩ |
    ⟨tenantId, ifMatch, data, old, -, hold, hupdate⟩ |
    ⟨tenantId, ifMatch, edit, old, deal, hrequest, hold, -, hedit, rfl⟩
  · exact (hdb.contracts id contract hold).written
  · rcases createContract_eq_ok hcreate with ⟨offerId, offer, -, hoffer, rfl⟩ | ⟨buyer, rfl⟩ |
      ⟨deal, stockItemId, vehicleLabel, rfl, hdeal⟩
    · obtain ⟨⟨haddsUp, hfigures, hsnapshot⟩, htrade⟩ := (hdb.offers offerId offer hoffer).written
      exact ⟨⟨haddsUp, hfigures, hsnapshot⟩, htrade⟩
    · exact written_unpriced rfl rfl fun x hx => by cases hx
    · have hempty : Written (directContract reads tenantId {}).toDeal :=
        written_unpriced rfl rfl (by simp [directContract])
      have hnew : StoredRow (directContract reads tenantId {}).toDeal :=
        ⟨⟨by simp [directContract], by simp [directContract], by simp [directContract],
          by simp [directContract]⟩, hempty.sums⟩
      exact written_patch hreads hnew ⟨by simp, by simp [DiscountInCents]⟩ hdeal
  · have holdRow := hdb.contracts id old hold
    obtain ⟨-, ⟨buyer, rfl⟩ | ⟨buyer, owner, deal, rfl, hdeal⟩⟩ := updateContract_eq_ok hupdate
    · exact ⟨⟨holdRow.sums.addsUp, holdRow.sums.figures, holdRow.sums.snapshot⟩,
        holdRow.columns.tradeIn⟩
    · exact written_patch hreads (holdRow.withParties buyer owner)
        (inCents_contractUpdate data _) hdeal
  · exact written_edit (hdb.contracts id old hold) hdb.valuations
      (hedits tenantId ifMatch edit hrequest) hedit

theorem storedRows_handle {db' : SalesDb} (hreads : reads.FromColumns) (hdb : StoredRows db)
    (hcents : ∀ tenantId offerId ifMatch data offer,
      request = .updateOffer tenantId offerId ifMatch data →
      db.offers.lookup offerId = some offer → data.toDealChanges.InCents offer.toDeal)
    (hoffers : ∀ tenantId offerId ifMatch edit,
      request = .editOffer tenantId offerId ifMatch edit → edit.InCents)
    (hcontracts : ∀ tenantId contractId ifMatch edit,
      request = .editContract tenantId contractId ifMatch edit → edit.InCents)
    (h : handle reads db request = .ok written) (hstore : written.store = .ok db') :
    StoredRows db' := by
  refine ⟨fun id offer hrow => ?_, fun id contract hrow => ?_, fun id v hrow => ?_⟩
  · obtain ⟨row, hwritten, rfl⟩ := lookup_storedOffer hstore hrow
    exact (written_offer hreads hdb (fun tenantId => hcents tenantId id)
      (fun tenantId => hoffers tenantId id) h hwritten).stored
  · obtain ⟨row, hwritten, rfl⟩ := lookup_storedContract hstore hrow
    exact (written_contract hreads hdb (fun tenantId => hcontracts tenantId id) h hwritten).stored
  · obtain ⟨row, -, rfl⟩ := lookup_storedValuation hstore hrow
    exact cents_column _

theorem storedRows_run {requests : List (ColumnReads × Request)}
    (hok : Run.Along nextStored AmountsInCents (noDeals ∅) requests) :
    StoredRows (requests.foldl nextStored (noDeals ∅)) := by
  have hempty : StoredRows (noDeals ∅) :=
    ⟨Table.forall_empty, Table.forall_empty, Table.forall_empty⟩
  refine storedRun_invariant (fun reads db request written db' hdb hreq hhandle hstore => ?_)
    hempty hok
  refine storedRows_handle reads.2 hdb ?_ ?_ ?_ hhandle hstore
  · rintro tenantId offerId ifMatch data offer rfl hrow
    exact hreq offer hrow
  · rintro tenantId offerId ifMatch edit rfl
    exact hreq
  · rintro tenantId contractId ifMatch edit rfl
    exact hreq

/-- **The stored build-up adds up.**  In every run whose requests hand the
build-up amounts with at most two decimals, the stored figures of every deal
satisfy the equations of the build-up. -/
theorem stored_figures_add_up (requests : List (ColumnReads × Request))
    (hok : Run.Along nextStored AmountsInCents (noDeals ∅) requests) :
    FiguresAddUp (requests.foldl nextStored (noDeals ∅)) := by
  have hrows := storedRows_run hok
  exact ⟨fun id offer hrow => (hrows.offers id offer hrow).sums.addsUp,
    fun id contract hrow => (hrows.contracts id contract hrow).sums.addsUp⟩

end

instance (deal : Deal) (changes : DealChanges) : Decidable (changes.InCents deal) := by
  unfold DealChanges.InCents DiscountInCents
  infer_instance

instance (data : LineItemsReplaceRequest) : Decidable data.InCents := by
  unfold LineItemsReplaceRequest.InCents DiscountInCents
  infer_instance

instance : ∀ edit, Decidable (Edit.InCents edit)
  | .replaceLineItems data => inferInstanceAs (Decidable data.InCents)
  | .setTradeIn _ | .attachTradeInValuation _ => inferInstanceAs (Decidable True)

instance (db : SalesDb) : ∀ a, Decidable (AmountsInCents db a)
  | (_, .updateOffer _ offerId _ data) => inferInstanceAs (Decidable
      (∀ offer ∈ db.offers.lookup offerId, data.toDealChanges.InCents offer.toDeal))
  | (_, .editOffer _ _ _ edit) | (_, .editContract _ _ _ edit) =>
    inferInstanceAs (Decidable edit.InCents)
  | (_, .createOffer _) | (_, .copyOffer ..) | (_, .createContract ..) | (_, .updateContract ..)
  | (_, .createValuation _) | (_, .consumeValuation ..) | (_, .revertValuationUse _) =>
    inferInstanceAs (Decidable True)

def noReads : ColumnReads :=
  ⟨{}, fun _ _ _ h => by simp at h, fun id _ h => by cases h⟩

/-- A manual car with a percentage off, an accessory with an amount off, and
the contract. -/
def centRun : List (ColumnReads × Request) :=
  [(noReads, .createOffer 1),
    (noReads, .updateOffer 1 0 1
      { vehicleSource := some (some .manual), vehicleLabel := some (some "Golf"),
        manualVehicleCondition := some (some "new"), manualBasePrice := some (some (2000050 / 100)),
        discountType := some (some .percent), discountValue := some (some (333 / 100)) }),
    (noReads, .editOffer 1 0 2 (.replaceLineItems
      { accessories := [{ code := "T", label := "Towbar", unitPrice := 9995 / 100, quantity := 2,
                          discountType := some .amount, discountValue := some 10 }] })),
    (noReads, .createContract 1 (.offer 0))]

theorem stored_figures_add_up_centRun : Run.Along nextStored AmountsInCents (noDeals ∅) centRun ∧
      ((centRun.foldl nextStored (noDeals ∅)).contracts.lookup 0).map (·.grossPrice)
        = some (some (1951806 / 100)) ∧ FiguresAddUp (centRun.foldl nextStored (noDeals ∅)) := by
  have hok : Run.Along nextStored AmountsInCents (noDeals ∅) centRun := by decide +kernel
  exact ⟨hok, by decide +kernel, stored_figures_add_up centRun hok⟩

/-- A base price of 10.005, and a discount of a tenth of a cent. -/
def subCentRun : List (ColumnReads × Request) :=
  [(noReads, .createOffer 1),
    (noReads, .updateOffer 1 0 1
      { vehicleSource := some (some .manual), vehicleLabel := some (some "Golf"),
        manualVehicleCondition := some (some "new"),
        manualBasePrice := some (some (10005 / 1000)),
        discountType := some (some .amount), discountValue := some (some (1 / 1000)) })]

/-- The total rounds up, the discount down, and the gross price is the exact
difference, rounded down. -/
theorem subCentRun_off_by_a_cent : ¬ ∀ requests : List (ColumnReads × Request),
      FiguresAddUp (requests.foldl nextStored (noDeals ∅)) := by
  intro h
  have hrow : ((subCentRun.foldl nextStored (noDeals ∅)).offers.lookup 0).map
      (fun offer => (offer.totalBeforeDiscount, offer.discountAmount, offer.grossPrice)) =
        some (some (1001 / 100), some 0, some 10) := by
    decide +kernel
  obtain ⟨offer, hoffer, hfigures⟩ := Option.map_eq_some_iff.mp hrow
  obtain ⟨htotal, hrest⟩ := Prod.mk.inj hfigures
  obtain ⟨hdiscount, hgross⟩ := Prod.mk.inj hrest
  obtain ⟨b, o, l, a, t, d, -, -, -, -, ht, hd, -, -, hsum, -, -⟩ :=
    (h subCentRun).1 0 offer hoffer 10 hgross
  obtain rfl := Option.mem_unique htotal ht
  obtain rfl := Option.mem_unique hdiscount hd
  exact absurd hsum (by decide +kernel)

end Nexotec
