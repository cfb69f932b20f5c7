/-
Line discounts on a used car (`app/sales/services/line_items.py`, `snapshot.py`).

On a used vehicle a line may carry a discount only with a reason.  The rule is checked
where a line is written, against the condition of that moment; a PATCH may make the car
a used one later, and looks at no line.

* `vehicleCondition_freeze`, `usedExcused_reprice_iff` — the condition and the discounts
  that the freeze of a patched deal leaves.
-/
import Nexotec.Sales.ContractCopy

namespace Nexotec

def ReasonGiven (discountType : Option DiscountType) (discountValue : Option Decimal)
    (discountSuppressedReason : Option String) : Prop :=
  discountType.isSome = true → discountValue.isSome = true →
    orText discountSuppressedReason "" ≠ ""

instance (discountType : Option DiscountType) (discountValue : Option Decimal)
    (discountSuppressedReason : Option String) :
    Decidable (ReasonGiven discountType discountValue discountSuppressedReason) :=
  inferInstanceAs (Decidable (_ → _ → _))

abbrev LineItem.Excused (li : LineItem) : Prop :=
  ReasonGiven li.discountType li.discountValue li.discountSuppressedReason

abbrev SellerEdit.Excused (edit : SellerEdit) : Prop :=
  ReasonGiven edit.discountType edit.discountValue edit.discountSuppressedReason

def UsedExcused (deal : Deal) : Prop :=
  isUsedVehicle deal = true → ∀ li ∈ deal.lines, li.Excused

def DiscountsExcused (db : SalesDb) : Prop :=
  (∀ id offer, db.offers.lookup id = some offer → UsedExcused offer.toDeal) ∧
    ∀ id contract, db.contracts.lookup id = some contract → UsedExcused contract.toDeal

variable {deal deal' : Deal}

theorem UsedExcused.of_eq (h : UsedExcused deal) (hvehicle : deal'.toVehicle = deal.toVehicle)
    (hlines : deal'.lines = deal.lines) : UsedExcused deal' := by
  have hused : isUsedVehicle deal' = isUsedVehicle deal := by
    unfold isUsedVehicle vehicleCondition
    rw [hvehicle]
  intro hset
  rw [hlines]
  exact h (hused ▸ hset)

theorem usedExcused_of_no_lines (h : deal.lines = []) : UsedExcused deal := by
  intro _ li hli
  rw [h] at hli
  cases hli

theorem excused_applyDiscount {row row' : LineItem} {storedId : Option Uuid}
    {discountType : Option DiscountType} {discountValue : Option Decimal} {reason : Option String}
    (h : applyDiscount row storedId discountType discountValue reason true = .ok row') :
    row'.Excused := by
  unfold applyDiscount at h
  dsimp only at h
  split at h
  · cases h
  · next hnot =>
    split at h
    · next hwants =>
      cases h
      intro _ _ hempty
      exact hnot ⟨hwants, rfl, hempty⟩
    · cases h
      intro hset
      cases hset

theorem UsedExcused.replaceLineItems {reads : Reads} {data : LineItemsReplaceRequest}
    (hdeal : UsedExcused deal) (h : replaceLineItems reads deal data = .ok deal') :
    UsedExcused deal' := by
  obtain ⟨lines, hlines, h⟩ := Result.of_bind h
  cases h
  intro (hused : isUsedVehicle deal = true)
  refine forall_replaceLines (hdeal hused) ?_ ?_ hlines
  · intro accessory _ row row' storedId _ _ hrow
    rw [hused] at hrow
    exact excused_applyDiscount hrow
  · intro patch _ row row' storedId _ hrow
    rw [hused] at hrow
    exact excused_applyDiscount hrow

/-! ### The freeze -/

/-- A freeze of the deal finds a vehicle that is not the frozen one. -/
def refreezes (deal : Deal) (configuration : Option HostConfiguration) : Bool :=
  match vehicleIdentity deal configuration with
  | none => false
  | some identity => !(deal.vehicleSnapshotFrozenAt.isSome &&
      decide (deal.vehicleSnapshot.map (·.identity) = some identity))

/-- The condition of the car after the freeze: that of the column, that of the stock
item, or that of the snapshot there is. -/
def conditionAfter (reads : Reads) (deal : Deal) (configuration : Option HostConfiguration) :
    Option String :=
  if deal.vehicleSource = some .manual then deal.manualVehicleCondition
  else if refreezes deal configuration then
    deal.stockItemId.bind fun stockItemId =>
      (getStockItemPricing reads.stockItems deal.tenantId stockItemId).toOption.map (·.condition)
  else deal.vehicleSnapshot.bind (·.condition)

/-- The lines that stay, and the edits that the freeze copies onto new ones, have their
reasons. -/
def KeepsReasons (reads : Reads) (deal : Deal) (configuration : Option HostConfiguration) : Prop :=
  (∀ li ∈ deal.lines, li.kind ≠ .factoryOption ∨ refreezes deal configuration = false →
    li.Excused) ∧
  (refreezes deal configuration = true → ∀ c ∈ configuration, ∀ line ∈ c.priceLines,
    ∀ edit ∈ keptEdits reads deal c (orText line.code line.kind) (line.label.take 200).toString,
      edit.Excused)

/-- A freeze that leaves a used car leaves no discount without a reason. -/
def FreezeKeepsRule (reads : Reads) (deal : Deal) : Prop :=
  ∀ configuration ∈ (frozenConfiguration reads deal).toOption,
    conditionAfter reads deal configuration = some "used" → KeepsReasons reads deal configuration

section

variable {reads : Reads} {deal deal' : Deal} {configuration : Option HostConfiguration}
  {froze : Bool}

theorem freezeVehicleSnapshot_refreezes (hc : frozenConfiguration reads deal = .ok configuration)
    (h : freezeVehicleSnapshot reads deal = .ok (deal', froze)) :
    (refreezes deal configuration = false ∧ deal' = deal) ∨
      (refreezes deal configuration = true ∧
        ∃ identity snapshot options,
          vehicleIdentity deal configuration = some identity ∧
          freezeContent reads deal configuration identity = .ok (snapshot, options) ∧
          deal' = { deal with
            lines := deal.lines.filter (fun li => li.kind ≠ .factoryOption) ++ options
            vehicleSnapshot := some snapshot
            vehicleSnapshotFrozenAt := some reads.now }) := by
  unfold freezeVehicleSnapshot at h
  rw [hc] at h
  change (match vehicleIdentity deal configuration with | none => _ | some identity => _) = _ at h
  unfold refreezes
  cases hid : vehicleIdentity deal configuration with
  | none =>
    rw [hid] at h
    cases h
    exact .inl ⟨rfl, rfl⟩
  | some identity =>
    rw [hid] at h
    dsimp only at h ⊢
    split at h
    · next hsame =>
      cases h
      exact .inl ⟨by simp [hsame], rfl⟩
    · next hnew =>
      obtain ⟨⟨snapshot, options⟩, hcontent, h⟩ := Result.of_bind h
      cases h
      refine .inr ⟨?_, identity, snapshot, options, rfl, hcontent, rfl⟩
      rw [Bool.not_eq_true', Bool.and_eq_false_iff, decide_eq_false_iff_not]
      rw [not_and_or, Bool.not_eq_true] at hnew
      exact hnew

variable {identity : String}

theorem stock_of_identity (hc : frozenConfiguration reads deal = .ok configuration)
    (hmanual : deal.vehicleSource ≠ some .manual)
    (hid : vehicleIdentity deal configuration = some identity) :
    deal.vehicleSource = some .stock ∧ ∃ stockItemId, deal.stockItemId = some stockItemId := by
  rcases frozenConfiguration_eq_ok hc with ⟨-, rfl⟩ | ⟨id, c, hset, -⟩
  · unfold vehicleIdentity at hid
    split at hid
    · next hsource hitem => exact ⟨hsource, _, hitem⟩
    · next hnone _ => cases hnone
    · next hset _ _ => exact absurd hset hmanual
    · cases hid
  · exact absurd hset hmanual

theorem vehicleCondition_freeze (hc : frozenConfiguration reads deal = .ok configuration)
    (h : freezeVehicleSnapshot reads deal = .ok (deal', froze)) :
    vehicleCondition deal' = conditionAfter reads deal configuration := by
  unfold vehicleCondition conditionAfter
  rcases freezeVehicleSnapshot_refreezes hc h with ⟨hsame, rfl⟩ |
    ⟨hnew, identity, snapshot, options, hid, hcontent, rfl⟩
  · rw [hsame]
    rfl
  · by_cases hmanual : deal.vehicleSource = some .manual
    · rw [if_pos hmanual, if_pos hmanual]
    · obtain ⟨hstock, stockItemId, hitem⟩ := stock_of_identity hc hmanual hid
      unfold freezeContent at hcontent
      rw [hstock, hitem] at hcontent
      obtain ⟨pricing, hpricing, hcontent⟩ := Result.of_bind hcontent
      cases hcontent
      rw [if_neg hmanual, if_neg hmanual, if_pos hnew, hitem, Option.bind_some, Option.bind_some,
        hpricing]
      rfl

theorem excused_applyTo_iff {edit : SellerEdit} {row : LineItem} (hrow : row.discountType = none) :
    (edit.applyTo row).Excused ↔ edit.Excused := by
  obtain ⟨included, discountType, discountValue, reason⟩ := edit
  cases discountType with
  | none =>
    refine ⟨nofun, fun _ hset => ?_⟩
    change row.discountType.isSome = true at hset
    rw [hrow] at hset
    cases hset
  | some discountType =>
    cases discountValue with
    | none =>
      refine ⟨nofun, fun _ hset => ?_⟩
      change row.discountType.isSome = true at hset
      rw [hrow] at hset
      cases hset
    | some discountValue => exact Iff.rfl

theorem excused_freezeContent_iff {snapshot : Snapshot} {options : List LineItem}
    (hc : frozenConfiguration reads deal = .ok configuration)
    (h : freezeContent reads deal configuration identity = .ok (snapshot, options)) :
    (∀ li ∈ options, li.Excused) ↔ ∀ c ∈ configuration, ∀ line ∈ c.priceLines,
      ∀ edit ∈ keptEdits reads deal c (orText line.code line.kind) (line.label.take 200).toString,
        edit.Excused := by
  unfold freezeContent at h
  rcases frozenConfiguration_eq_ok hc with ⟨-, rfl⟩ | ⟨id, c, hmanual, -, -, rfl⟩
  · -- the options of a stock car come without a discount, a hand-typed car has none
    constructor
    · intro _ c hmem
      cases hmem
    intro _ li hli hset
    split at h
    · obtain ⟨pricing, -, h⟩ := Result.of_bind h
      cases h
      obtain ⟨option, -, rfl⟩ := List.mem_map.mp hli
      cases hset
    · next hnone _ => cases hnone
    · cases h
      cases hli
  · -- one line for each price line, with its edit
    rw [hmanual] at h
    cases h
    constructor
    · intro hlines c' hmem line hline edit hedit
      obtain rfl := Option.mem_some_iff.mp hmem
      obtain ⟨position, hposition, rfl⟩ := List.mem_iff_getElem.mp hline
      have hpair : (c.priceLines[position], position) ∈ c.priceLines.zipIdx :=
        List.mem_zipIdx_iff_getElem?.mpr (List.getElem?_eq_getElem hposition)
      have hli := hlines _ (List.mem_map_of_mem hpair)
      dsimp only at hli
      rw [Option.mem_def.mp hedit] at hli
      exact (excused_applyTo_iff rfl).mp hli
    · intro hedits li hli
      obtain ⟨⟨line, position⟩, hline, rfl⟩ := List.mem_map.mp hli
      dsimp only
      split
      · next edit hedit =>
        exact (excused_applyTo_iff rfl).mpr
          (hedits c rfl line (List.fst_mem_of_mem_zipIdx hline) edit hedit)
      · intro hset
        cases hset

theorem repriceDeal_vehicle_lines (h : repriceDeal reads deal = .ok deal') :
    ∃ frozen froze, freezeVehicleSnapshot reads deal = .ok (frozen, froze) ∧
      deal'.toVehicle = frozen.toVehicle ∧ deal'.lines = frozen.lines := by
  obtain ⟨frozen, froze, hfreeze, rfl⟩ := repriceDeal_eq_ok h
  refine ⟨frozen, froze, hfreeze, ?_⟩
  split
  · exact ⟨rfl, rfl⟩
  · exact ⟨rfl, rfl⟩

theorem usedExcused_reprice_iff (h : repriceDeal reads deal = .ok deal') :
    UsedExcused deal' ↔ FreezeKeepsRule reads deal := by
  obtain ⟨frozen, froze, hfreeze, hvehicle, hlines⟩ := repriceDeal_vehicle_lines h
  obtain ⟨configuration, hc, -⟩ := Result.of_bind hfreeze
  have hcondition := vehicleCondition_freeze hc hfreeze
  have hused : isUsedVehicle deal' = decide (conditionAfter reads deal configuration = some "used") := by
    rw [← hcondition, isUsedVehicle, vehicleCondition, hvehicle]
    rfl
  have hkept : (∀ li ∈ frozen.lines, li.Excused) ↔ KeepsReasons reads deal configuration := by
    unfold KeepsReasons
    rcases freezeVehicleSnapshot_refreezes hc hfreeze with ⟨hsame, rfl⟩ |
      ⟨hnew, identity, snapshot, options, -, hcontent, rfl⟩
    · rw [hsame]
      exact ⟨fun hli => ⟨fun li hmem _ => hli li hmem, nofun⟩,
        fun hli li hmem => hli.1 li hmem (.inr rfl)⟩
    · rw [hnew, ← excused_freezeContent_iff hc hcontent]
      constructor
      · intro hli
        refine ⟨fun li hmem hkind => hli li ?_, fun _ li hmem => hli li ?_⟩
        · refine List.mem_append_left _ (List.mem_filter.mpr ⟨hmem, ?_⟩)
          rcases hkind with hkind | hfalse
          · exact decide_eq_true hkind
          · cases hfalse
        · exact List.mem_append_right _ hmem
      · rintro ⟨hold, hnewLines⟩ li hmem
        rcases List.mem_append.mp hmem with hmem | hmem
        · obtain ⟨hmem, hkind⟩ := List.mem_filter.mp hmem
          exact hold li hmem (.inl (of_decide_eq_true hkind))
        · exact hnewLines rfl li hmem
  unfold UsedExcused FreezeKeepsRule
  rw [hused, hlines, decide_eq_true_eq, hkept, hc]
  constructor
  · intro hrule configuration' hmem
    cases hmem
    exact hrule
  · intro hrule
    exact hrule configuration rfl

theorem freezeKeepsRule_of_no_lines (h : deal.lines = []) : FreezeKeepsRule reads deal := by
  intro configuration _ _
  constructor
  · intro li hli
    rw [h] at hli
    cases hli
  · intro _ c _ line _ edit hedit
    obtain ⟨li, hli, -⟩ := keptEdits_eq_some hedit
    rw [h] at hli
    cases hli

end

/-! ### Requests -/

/-- A PATCH after which the car is a used one leaves no discount without a reason; the
one that only gives a contract its buyer freezes nothing. -/
def KeepsDiscountRule (db : SalesDb) (a : Reads × Request) : Prop :=
  match a.2 with
  | .updateOffer _ offerId _ data =>
    ∀ offer ∈ db.offers.lookup offerId, ∀ patched ∈
      (patchDeal a.1 offer.toDeal data.toDealChanges "offer workspace").toOption,
      FreezeKeepsRule a.1 patched
  | .updateContract _ contractId _ data =>
    ∀ contract ∈ db.contracts.lookup contractId, givesABuyerOnly contract data.1 = false →
      ∀ patched ∈ (patchDeal a.1 contract.toDeal data.1.toDealChanges "contract").toOption,
        FreezeKeepsRule a.1 patched
  | _ => True

section

variable {reads : Reads} {db db' : SalesDb} {request : Request} {deal deal' : Deal}

theorem UsedExcused.edit {valuations : Table Uuid Valuation} {edit : Edit}
    (hdeal : UsedExcused deal) (h : edit.run reads valuations deal = .ok deal') :
    UsedExcused deal' := by
  cases edit with
  | replaceLineItems data => exact hdeal.replaceLineItems h
  | setTradeIn data =>
    obtain ⟨vehicle, -, rfl⟩ := setTradeIn_eq_ok h
    rw [writeTradeIn, recordAndAttach_frame, finishTradeIn_eq]
    exact hdeal.of_eq rfl rfl
  | attachTradeInValuation valuationId =>
    obtain ⟨valuation, -, rfl⟩ := attachTradeInValuation_eq_ok h
    rw [attach_frame, finishTradeIn_eq]
    exact hdeal.of_eq rfl rfl

theorem usedExcused_patch {changes : DealChanges} {host : String} {buyer : Buyer} {owner : Owner}
    (hkeeps : ∀ patched ∈ (patchDeal reads deal changes host).toOption,
      FreezeKeepsRule reads patched)
    (h : applyVehicleAndPricingChanges reads { deal with toBuyer := buyer, toOwner := owner }
      changes host = .ok deal') : UsedExcused deal' := by
  obtain ⟨patched, hpatch, hreprice⟩ := applyVehicleAndPricingChanges_eq_ok h
  rw [patchDeal_withParties] at hpatch
  obtain ⟨row, hrow, rfl⟩ := Result.map_eq_ok.mp hpatch
  exact (usedExcused_reprice_iff hreprice).mpr (hkeeps row (by rw [hrow]; rfl))

theorem usedExcused_createContract {tenantId : Uuid} {data : ContractCreate}
    {contract : SalesContract} (hdb : DiscountsExcused db)
    (h : createContract reads db tenantId data = .ok contract) : UsedExcused contract.toDeal := by
  rcases createContract_eq_ok h with ⟨offerId, offer, -, hoffer, rfl⟩ | ⟨buyer, rfl⟩ |
    ⟨deal, stockItemId, vehicleLabel, rfl, hdeal⟩
  · -- the copies carry the offer's discounts and reasons
    intro hused li hli
    obtain ⟨⟨source, position⟩, hsource, rfl⟩ := List.mem_map.mp hli
    exact hdb.1 offerId offer hoffer hused source (List.fst_mem_of_mem_zipIdx hsource)
  · exact usedExcused_of_no_lines rfl
  · obtain ⟨patched, hpatch, hreprice⟩ := applyVehicleAndPricingChanges_eq_ok hdeal
    obtain ⟨-, -, -, -, -, -, -, hlines⟩ := patchDeal_frame hpatch
    exact (usedExcused_reprice_iff hreprice).mpr (freezeKeepsRule_of_no_lines hlines)

theorem discountsExcused_handle (hdb : DiscountsExcused db)
    (hok : KeepsDiscountRule db (reads, request)) (h : handle reads db request = .ok db') :
    DiscountsExcused db' := by
  constructor
  · intro id offer' hrow
    rcases offer_cases h hrow with hold | ⟨tenantId, rfl⟩ | ⟨sourceId, source, -, hcopy⟩ |
      ⟨tenantId, ifMatch, data, offer, rfl, hoffer, hupdate⟩ |
      ⟨tenantId, ifMatch, edit, offer, deal, rfl, hoffer, hedit, rfl⟩
    · exact hdb.1 id offer' hold
    · exact usedExcused_of_no_lines rfl
    · exact (usedExcused_reprice_iff (copyOffer_eq_ok hcopy)).mpr (freezeKeepsRule_of_no_lines rfl)
    · obtain ⟨buyer, owner, hdeal⟩ := updateOffer_eq_ok hupdate
      exact usedExcused_patch (hok offer hoffer) hdeal
    · exact (hdb.1 id offer hoffer).edit hedit
  · intro id contract' hrow
    rcases contract_cases h hrow with hold | ⟨tenantId, data, rfl, hcreate⟩ |
      ⟨tenantId, ifMatch, data, contract, rfl, hcontract, hupdate⟩ |
      ⟨tenantId, ifMatch, edit, contract, deal, rfl, hcontract, -, hedit, rfl⟩
    · exact hdb.2 id contract' hold
    · exact usedExcused_createContract hdb hcreate
    · have hkeeps := hok contract hcontract
      unfold updateContract at hupdate
      split at hupdate
      · -- the buyer alone
        obtain ⟨-, -, hupdate⟩ := Result.of_bind hupdate
        obtain ⟨deal, hdeal, hupdate⟩ := Result.of_bind hupdate
        obtain ⟨buyer, rfl⟩ := applyCustomerChange_eq_ok hdeal
        cases hupdate
        exact (hdb.2 id contract hcontract).of_eq rfl rfl
      · next hfull =>
        obtain ⟨-, -, hupdate⟩ := Result.of_bind hupdate
        obtain ⟨parties, hparties, hupdate⟩ := Result.of_bind hupdate
        obtain ⟨deal, hdeal, hupdate⟩ := Result.of_bind hupdate
        cases hupdate
        obtain ⟨buyer, owner, rfl⟩ := changeParties_eq_ok hparties
        exact usedExcused_patch (hkeeps (Bool.not_eq_true _ ▸ hfull)) hdeal
    · exact (hdb.2 id contract hcontract).edit hedit

end

/-- **The used-vehicle discount rule.**  In every run whose vehicle changes keep no
unexplained discount on a car they make a used one, every discounted line of a used car
has its reason, on every offer and every contract. -/
theorem used_discounts_have_reasons (valuations : Table Uuid Valuation)
    (requests : List (Reads × Request))
    (hok : Run.Along next KeepsDiscountRule (noDeals valuations) requests) :
    DiscountsExcused (requests.foldl next (noDeals valuations)) := by
  have hempty : DiscountsExcused (noDeals valuations) := ⟨Table.forall_empty, Table.forall_empty⟩
  exact run_invariant (fun reads db request db' hinv hreq h => discountsExcused_handle hinv hreq h)
    hempty hok

instance (reads : Reads) (deal : Deal) (configuration : Option HostConfiguration) :
    Decidable (KeepsReasons reads deal configuration) :=
  inferInstanceAs (Decidable (_ ∧ _))

instance (reads : Reads) (deal : Deal) : Decidable (FreezeKeepsRule reads deal) :=
  inferInstanceAs (Decidable (∀ configuration ∈ (frozenConfiguration reads deal).toOption,
    conditionAfter reads deal configuration = some "used" → KeepsReasons reads deal configuration))

instance (db : SalesDb) : ∀ a, Decidable (KeepsDiscountRule db a)
  | (reads, .updateOffer _ offerId _ data) => inferInstanceAs (Decidable
      (∀ offer ∈ db.offers.lookup offerId, ∀ patched ∈
        (patchDeal reads offer.toDeal data.toDealChanges "offer workspace").toOption,
        FreezeKeepsRule reads patched))
  | (reads, .updateContract _ contractId _ data) => inferInstanceAs (Decidable
      (∀ contract ∈ db.contracts.lookup contractId, givesABuyerOnly contract data.1 = false →
        ∀ patched ∈ (patchDeal reads contract.toDeal data.1.toDealChanges "contract").toOption,
          FreezeKeepsRule reads patched))
  | (_, .createOffer _) | (_, .copyOffer ..) | (_, .editOffer ..) | (_, .createContract ..)
  | (_, .editContract ..) | (_, .createValuation _) | (_, .consumeValuation ..)
  | (_, .revertValuationUse _) => inferInstanceAs (Decidable True)

/-- A new car at 20000 with a towbar at 10 % off for `reason`, which is then declared used. -/
def usedLater (reason : Option String) : List (Reads × Request) :=
  [({}, .createOffer 1),
    ({}, .updateOffer 1 0 1
      { vehicleSource := some (some .manual), vehicleLabel := some (some "Golf"),
        manualVehicleCondition := some (some "new"), manualBasePrice := some (some 20000) }),
    ({}, .editOffer 1 0 2 (.replaceLineItems
      { accessories := [{ code := "T", label := "Towbar", unitPrice := 100,
                          discountType := some .percent, discountValue := some 10,
                          discountSuppressedReason := reason }] })),
    ({}, .updateOffer 1 0 3 { manualVehicleCondition := some (some "used") })]

theorem used_discounts_have_reasons_usedLater :
    (((usedLater (some "goodwill")).foldl next (noDeals ∅)).offers.lookup 0).map (fun offer =>
        (isUsedVehicle offer.toDeal, offer.lines.any (·.discountType.isSome))) = some (true, true) ∧
    DiscountsExcused ((usedLater (some "goodwill")).foldl next (noDeals ∅)) := by
  have hok : Run.Along next KeepsDiscountRule (noDeals ∅) (usedLater (some "goodwill")) := by
    decide +kernel
  exact ⟨by decide +kernel, used_discounts_have_reasons ∅ _ hok⟩

/-- A discount entered on a new car stays without one when the car is declared used. -/
theorem usedLater_has_no_reason :
    ¬ ∀ (valuations : Table Uuid Valuation) (requests : List (Reads × Request)),
      DiscountsExcused (requests.foldl next (noDeals valuations)) := by
  intro h
  have hrow : (((usedLater none).foldl next (noDeals ∅)).offers.lookup 0).map (fun offer =>
      (isUsedVehicle offer.toDeal, offer.lines.any fun li => ¬ li.Excused)) =
        some (true, true) := by
    decide +kernel
  obtain ⟨offer, hoffer, hfacts⟩ := Option.map_eq_some_iff.mp hrow
  obtain ⟨hused, hany⟩ := Prod.mk.inj hfacts
  obtain ⟨li, hli, hbad⟩ := List.any_eq_true.mp hany
  exact of_decide_eq_true hbad ((h ∅ (usedLater none)).1 0 offer hoffer hused li hli)

end Nexotec
