/-
Line items (`app/sales/services/line_items.py`): one request replaces the
accessories of a deal and patches its factory options, then the price is
built anew.

`replaceLines` is the line-item half, `replaceLineItems` the whole write.
The build-up runs whether or not the deal has a vehicle
(`replaceLineItems_eq_ok`), so the result is always coherent and always
priced.
-/
import Nexotec.Sales.DealEditing

namespace Nexotec

/-- `vehicle_condition` (`priced_deal.py`). -/
def vehicleCondition (deal : Deal) : Option String :=
  if deal.vehicleSource = some .manual then deal.manualVehicleCondition
  else deal.vehicleSnapshot.bind (·.condition)

def isUsedVehicle (deal : Deal) : Bool := vehicleCondition deal = some "used"

/-- `_apply_discount`.  `storedId` is the row's id as the error prints it: a new
row has none before the flush. -/
def applyDiscount (row : LineItem) (storedId : Option Uuid) (discountType : Option DiscountType)
    (discountValue : Option Decimal) (discountSuppressedReason : Option String)
    (usedVehicle : Bool) : Result LineItem :=
  let wantsDiscount := discountType.isSome ∧ discountValue.isSome
  if wantsDiscount ∧ usedVehicle = true ∧ orText discountSuppressedReason "" = "" then
    .error (conflictError
      s!"A per-line discount on '{row.label}' is suppressed by default on a used vehicle — supply discountSuppressedReason to override."
      [("lineItemId", pyText (storedId.map toString)), ("code", row.code)])
  else if wantsDiscount then
    .ok { row with
      discountType := discountType
      discountValue := discountValue
      discountSuppressedReason := discountSuppressedReason
      discountResolvedAmount :=
        some (resolveDiscount discountType discountValue
          (row.unitPrice * (row.quantity : Decimal))) }
  else
    .ok { row with
      discountType := none
      discountValue := none
      discountSuppressedReason := none
      discountResolvedAmount := none }

theorem applyDiscount_unitPrice {row row' : LineItem} {storedId : Option Uuid}
    {discountType : Option DiscountType} {discountValue : Option Decimal} {reason : Option String}
    {used : Bool} (h : applyDiscount row storedId discountType discountValue reason used = .ok row') :
    row'.unitPrice = row.unitPrice := by
  unfold applyDiscount at h
  dsimp only at h
  split at h
  · cases h
  · split at h
    · cases h
      rfl
    · cases h
      rfl

/-- The row of a line that is already there, if it is of the expected kind. -/
def findLine (existing : List LineItem) (id : Uuid) (kind : LineItemKind) (what : String) :
    Result LineItem :=
  orNotFound (existing.find? fun li => li.id = id ∧ li.kind = kind)
    s!"{what} line item {id} was not found."

/-- One accessory of the request: an existing row updated in place, or a new
row at the end. -/
def upsertAccessory (reads : Reads) (existing : List LineItem) (usedVehicle : Bool)
    (lines : List LineItem) (input : LineItemAccessoryInput × ℕ) : Result (List LineItem) := do
  let (accessory, position) := input
  match accessory.id with
  | some id => do
    let found ← findLine existing id .accessory "Accessory"
    let row ← applyDiscount { found with
        code := accessory.code
        label := accessory.label
        unitPrice := accessory.unitPrice
        quantity := accessory.quantity
        position := position }
      (some id) accessory.discountType accessory.discountValue accessory.discountSuppressedReason
      usedVehicle
    pure (lines.map fun li => if li.id = id then row else li)
  | none => do
    let row ← applyDiscount
      { id := reads.uuid position
        kind := .accessory
        code := accessory.code
        label := accessory.label
        unitPrice := accessory.unitPrice
        quantity := accessory.quantity
        position := position }
      none accessory.discountType accessory.discountValue accessory.discountSuppressedReason
      usedVehicle
    pure (lines ++ [row])

def patchFactoryOption (existing : List LineItem) (usedVehicle : Bool) (lines : List LineItem)
    (patch : LineItemFactoryOptionPatch) : Result (List LineItem) := do
  let optionRow ← findLine existing patch.id .factoryOption "Factory option"
  -- the row as the request has left it so far, not as it was loaded
  let current := (lines.find? (·.id = patch.id)).getD optionRow
  let row ← applyDiscount { current with included := patch.included }
    (some patch.id) patch.discountType patch.discountValue patch.discountSuppressedReason usedVehicle
  pure (lines.map fun li => if li.id = patch.id then row else li)

def replaceLines (reads : Reads) (deal : Deal) (data : LineItemsReplaceRequest) :
    Result (List LineItem) := do
  let usedVehicle := isUsedVehicle deal
  let incomingAccessoryIds := data.accessories.filterMap (·.id)
  let kept := deal.lines.filter fun li =>
    ¬ (li.kind = .accessory ∧ li.id ∉ incomingAccessoryIds)
  let lines ← data.accessories.zipIdx.foldlM (upsertAccessory reads deal.lines usedVehicle) kept
  data.factoryOptions.foldlM (patchFactoryOption deal.lines usedVehicle) lines

/-- `replace_line_items` after its lock and its checks. -/
def replaceLineItems (reads : Reads) (deal : Deal) (data : LineItemsReplaceRequest) :
    Result Deal := do
  let lines ← replaceLines reads deal data
  let deal := applyBuildUp { deal with lines := lines }
  pure { deal with updatedBy := reads.actorId, version := deal.version + 1 }

theorem foldlM_keeps {α β : Type} {f : β → α → Result β} {P : β → Prop} {l : List α}
    (hstep : ∀ b a b', a ∈ l → P b → f b a = .ok b' → P b') {b b' : β} (hb : P b)
    (h : l.foldlM f b = .ok b') : P b' := by
  induction l generalizing b with
  | nil =>
    cases h
    exact hb
  | cons a l ih =>
    rw [List.foldlM_cons] at h
    obtain ⟨c, hc, h⟩ := Result.of_bind h
    exact ih (fun b a b' ha => hstep b a b' (List.mem_cons_of_mem _ ha))
      (hstep b a c List.mem_cons_self hb hc) h

section

variable {reads : Reads} {existing lines lines' : List LineItem} {used : Bool} {P : LineItem → Prop}

theorem forall_upsertAccessory {input : LineItemAccessoryInput × ℕ} (hlines : ∀ li ∈ lines, P li)
    (hwrite : ∀ row row' storedId, row.unitPrice = input.1.unitPrice →
      row.quantity = input.1.quantity →
      applyDiscount row storedId input.1.discountType input.1.discountValue
        input.1.discountSuppressedReason used = .ok row' → P row')
    (h : upsertAccessory reads existing used lines input = .ok lines') : ∀ li ∈ lines', P li := by
  obtain ⟨accessory, position⟩ := input
  unfold upsertAccessory at h
  dsimp only at h
  split at h
  · obtain ⟨found, -, h⟩ := Result.of_bind h
    obtain ⟨row, hrow, h⟩ := Result.of_bind h
    cases h
    intro li hli
    obtain ⟨old, hold, rfl⟩ := List.mem_map.mp hli
    split
    · exact hwrite _ row _ rfl rfl hrow
    · exact hlines old hold
  · obtain ⟨row, hrow, h⟩ := Result.of_bind h
    cases h
    intro li hli
    rcases List.mem_append.mp hli with hold | hnew
    · exact hlines li hold
    · obtain rfl := List.mem_singleton.mp hnew
      exact hwrite _ li _ rfl rfl hrow

theorem forall_patchFactoryOption {patch : LineItemFactoryOptionPatch}
    (hexisting : ∀ li ∈ existing, P li) (hlines : ∀ li ∈ lines, P li)
    (hwrite : ∀ row row' storedId, P row →
      applyDiscount { row with included := patch.included } storedId patch.discountType
        patch.discountValue patch.discountSuppressedReason used = .ok row' → P row')
    (h : patchFactoryOption existing used lines patch = .ok lines') : ∀ li ∈ lines', P li := by
  obtain ⟨optionRow, hfound, h⟩ := Result.of_bind h
  obtain ⟨row, hrow, h⟩ := Result.of_bind h
  cases h
  have hcurrent : P ((lines.find? (·.id = patch.id)).getD optionRow) := by
    cases hfind : lines.find? (·.id = patch.id) with
    | none => exact hexisting _ (List.mem_of_find?_eq_some (orNotFound_eq_ok.mp hfound))
    | some current => exact hlines current (List.mem_of_find?_eq_some hfind)
  intro li hli
  obtain ⟨old, hold, rfl⟩ := List.mem_map.mp hli
  split
  · exact hwrite _ row _ hcurrent hrow
  · exact hlines old hold

/-- What holds of the lines of the deal and of every line the request writes
holds of the lines after it.  An accessory is written with the price and the
quantity of its entry, an option as the request has left it so far. -/
theorem forall_replaceLines {deal : Deal} {data : LineItemsReplaceRequest}
    (hdeal : ∀ li ∈ deal.lines, P li)
    (haccessory : ∀ a ∈ data.accessories, ∀ row row' storedId, row.unitPrice = a.unitPrice →
      row.quantity = a.quantity →
      applyDiscount row storedId a.discountType a.discountValue a.discountSuppressedReason
        (isUsedVehicle deal) = .ok row' → P row')
    (hfactory : ∀ p ∈ data.factoryOptions, ∀ row row' storedId, P row →
      applyDiscount { row with included := p.included } storedId p.discountType p.discountValue
        p.discountSuppressedReason (isUsedVehicle deal) = .ok row' → P row')
    (h : replaceLines reads deal data = .ok lines) : ∀ li ∈ lines, P li := by
  obtain ⟨written, hwritten, h⟩ := Result.of_bind h
  have hkept : ∀ li ∈ deal.lines.filter (fun li =>
      ¬ (li.kind = .accessory ∧ li.id ∉ data.accessories.filterMap (·.id))), P li :=
    fun li hli => hdeal li (List.mem_of_mem_filter hli)
  have haccessories := foldlM_keeps (P := fun lines => ∀ li ∈ lines, P li)
    (fun lines input lines' hinput hold hstep =>
      forall_upsertAccessory hold
        (haccessory input.1 (List.fst_mem_of_mem_zipIdx hinput)) hstep) hkept hwritten
  exact foldlM_keeps (P := fun lines => ∀ li ∈ lines, P li)
    (fun lines patch lines' hpatch hold hstep =>
      forall_patchFactoryOption hdeal hold (hfactory patch hpatch) hstep) haccessories h

end

variable {reads : Reads} {deal deal' : Deal} {data : LineItemsReplaceRequest}

theorem replaceLineItems_eq_ok (h : replaceLineItems reads deal data = .ok deal') :
    ∃ lines, deal' = { applyBuildUp { deal with lines := lines } with
      updatedBy := reads.actorId, version := deal.version + 1 } := by
  obtain ⟨lines, -, h⟩ := Result.of_bind h
  cases h
  exact ⟨lines, rfl⟩

theorem replaceLineItems_coherent (h : replaceLineItems reads deal data = .ok deal') :
    PriceCoherent deal' := by
  obtain ⟨lines, rfl⟩ := replaceLineItems_eq_ok h
  exact PriceCoherent.of_eq (applyBuildUp_coherent { deal with lines := lines })
    rfl rfl rfl rfl rfl

theorem replaceLineItems_frame (h : replaceLineItems reads deal data = .ok deal') :
    deal'.toVehicle = deal.toVehicle ∧ deal'.toTradeIn = deal.toTradeIn ∧
      deal'.toBuyer = deal.toBuyer ∧ deal'.tenantId = deal.tenantId ∧
      deal'.version = deal.version + 1 := by
  obtain ⟨lines, rfl⟩ := replaceLineItems_eq_ok h
  exact ⟨rfl, rfl, rfl, rfl, rfl⟩

end Nexotec
