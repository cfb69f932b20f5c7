/-
One request replaces the accessories of a deal and patches its factory options
(`replace_line_items`).

The tables keep a primary key on the lines of all deals, and every amount in a
`DECIMAL(12, 2)` column: `handleKeyed`.
-/
import Nexotec.Lib.KeyedRows
import Nexotec.Sales.ContractCopy

namespace Nexotec

open KeyedRows Rounding
open scoped List

/-! ### The primary key of the lines -/

/-- The ids of `sales_line_item`. -/
def SalesDb.lineIds (db : SalesDb) : List Uuid :=
  (db.offers.entries.flatMap fun e => e.2.lines.map (·.id)) ++
    db.contracts.entries.flatMap fun e => e.2.lines.map (·.id)

/-- A request with its commit, under the primary key of the lines. -/
def handleKeyed (reads : Reads) (db : SalesDb) (request : Request) : Result SalesDb := do
  let written ← handleStored reads db request
  if written.lineIds.Nodup then pure written
  else .error (internalError "duplicate key value violates the primary key of sales_line_item")

def nextKeyed (db : SalesDb) (a : ColumnReads × Request) : SalesDb :=
  match handleKeyed a.1 db a.2 with
  | .ok db' => db'
  | .error _ => db

/-! ### What a request asks for -/

/-- The discount of an entry: without a type or a value there is none. -/
def wantedDiscount (discountType : Option DiscountType) (discountValue : Option Decimal)
    (reason : Option String) : Option DiscountType × Option Decimal × Option String :=
  if discountType.isSome ∧ discountValue.isSome then (discountType, discountValue, reason)
  else (none, none, none)

/-- The row holds what the entry at this position of the request asks for. -/
structure Fulfils (entry : LineItemAccessoryInput × ℕ) (li : LineItem) : Prop where
  id : ∀ id ∈ entry.1.id, li.id = id
  position : li.position = entry.2
  code : li.code = entry.1.code
  label : li.label = entry.1.label
  unitPrice : li.unitPrice = entry.1.unitPrice
  quantity : li.quantity = entry.1.quantity
  discount : (li.discountType, li.discountValue, li.discountSuppressedReason) =
    wantedDiscount entry.1.discountType entry.1.discountValue entry.1.discountSuppressedReason

def isAccessory (li : LineItem) : Bool := li.kind = .accessory

def isFactoryOption (li : LineItem) : Bool := li.kind = .factoryOption

/-- `list_line_items`: the accessories, by position. -/
def accessoryRows (deal : Deal) : List LineItem :=
  (deal.lines.filter isAccessory).mergeSort fun a b => decide (a.position ≤ b.position)

def factoryRows (deal : Deal) : List LineItem := deal.lines.filter isFactoryOption

/-- The accessories are the requested list: one row per entry, in its order. -/
def AccessoriesReplaced (data : LineItemsReplaceRequest) (deal : Deal) : Prop :=
  List.Forall₂ Fulfils data.accessories.zipIdx (accessoryRows deal)

/-- The row `li'` is the option `li`, with another selection or discount if it is named. -/
structure SameOption (named : List Uuid) (li li' : LineItem) : Prop where
  id : li'.id = li.id
  code : li'.code = li.code
  label : li'.label = li.label
  unitPrice : li'.unitPrice = li.unitPrice
  quantity : li'.quantity = li.quantity
  position : li'.position = li.position
  unnamed : li.id ∉ named → li' = li

/-- The same options, and only the named ones changed. -/
structure FactoryRowsKept (data : LineItemsReplaceRequest) (deal deal' : Deal) : Prop where
  ids : (factoryRows deal').map (·.id) = (factoryRows deal).map (·.id)
  rows : ∀ li' ∈ factoryRows deal', ∃ li ∈ factoryRows deal,
    SameOption (data.factoryOptions.map (·.id)) li li'

def namedAccessories (entries : List (LineItemAccessoryInput × ℕ)) : List Uuid :=
  entries.filterMap (·.1.id)

/-- No accessory is named twice, and the amounts have two decimals. -/
def SentRowByRow (data : LineItemsReplaceRequest) : Prop :=
  (data.accessories.filterMap (·.id)).Nodup ∧
    ∀ a ∈ data.accessories, Cents a.unitPrice ∧
      (a.discountType.isSome = true → ∀ x ∈ a.discountValue, Cents x)

section Entries

variable {reads : Reads} {existing lines lines' : List LineItem} {used : Bool}

theorem applyDiscount_eq_ok {row row' : LineItem} {storedId : Option Uuid}
    {discountType : Option DiscountType} {discountValue : Option Decimal} {reason : Option String}
    (h : applyDiscount row storedId discountType discountValue reason used = .ok row') :
    ∃ resolved, row' = { row with
      discountType := (wantedDiscount discountType discountValue reason).1
      discountValue := (wantedDiscount discountType discountValue reason).2.1
      discountSuppressedReason := (wantedDiscount discountType discountValue reason).2.2
      discountResolvedAmount := resolved } := by
  unfold applyDiscount at h
  dsimp only at h
  unfold wantedDiscount
  split at h
  · cases h
  · split at h
    · next hwants =>
      cases h
      rw [if_pos hwants]
      exact ⟨_, rfl⟩
    · next hwants =>
      cases h
      rw [if_neg hwants]
      exact ⟨_, rfl⟩

theorem findLine_eq_ok {id : Uuid} {kind : LineItemKind} {what : String} {found : LineItem}
    (h : findLine existing id kind what = .ok found) :
    found ∈ existing ∧ found.id = id ∧ found.kind = kind := by
  have hfind := orNotFound_eq_ok.mp h
  have hprop := List.find?_some hfind
  simp only [decide_eq_true_eq] at hprop
  exact ⟨List.mem_of_find?_eq_some hfind, hprop.1, hprop.2⟩

variable {entry : LineItemAccessoryInput × ℕ}

theorem upsertAccessory_eq_ok (h : upsertAccessory reads existing used lines entry = .ok lines') :
    ∃ row, Fulfils entry row ∧ row.kind = .accessory ∧
      ((∃ found ∈ existing, found.kind = .accessory ∧ entry.1.id = some found.id ∧
          row.id = found.id ∧ lines' = replaceRow (·.id) row lines) ∨
        (entry.1.id = none ∧ row.id = reads.uuid entry.2 ∧ lines' = lines ++ [row])) := by
  obtain ⟨accessory, position⟩ := entry
  unfold upsertAccessory at h
  dsimp only at h
  split at h
  · next id hid =>
    obtain ⟨found, hfound, h⟩ := Result.of_bind h
    obtain ⟨row, hrow, h⟩ := Result.of_bind h
    cases h
    obtain ⟨hmem, rfl, hkind⟩ := findLine_eq_ok hfound
    obtain ⟨resolved, hrow⟩ := applyDiscount_eq_ok hrow
    have hrowId : row.id = found.id := by rw [hrow]
    refine ⟨row, ⟨fun id' hid' => ?_, ?_, ?_, ?_, ?_, ?_, ?_⟩, ?_,
      .inl ⟨found, hmem, hkind, hid, hrowId, ?_⟩⟩
    · rw [hid] at hid'
      exact hrowId.trans (Option.some.inj hid')
    · rw [hrow]
    · rw [hrow]
    · rw [hrow]
    · rw [hrow]
    · rw [hrow]
    · rw [hrow]
    · rw [hrow]
      exact hkind
    · rw [replaceRow, hrowId]
  · next hid =>
    obtain ⟨row, hrow, h⟩ := Result.of_bind h
    cases h
    obtain ⟨resolved, rfl⟩ := applyDiscount_eq_ok hrow
    refine ⟨_, ⟨fun id' hid' => ?_, rfl, rfl, rfl, rfl, rfl, rfl⟩, rfl, .inr ⟨hid, rfl, rfl⟩⟩
    rw [hid] at hid'
    cases hid'

theorem patchFactoryOption_eq_ok {patch : LineItemFactoryOptionPatch}
    (h : patchFactoryOption existing used lines patch = .ok lines') :
    ∃ optionRow ∈ existing, optionRow.kind = .factoryOption ∧ optionRow.id = patch.id ∧
      ∃ discountType discountValue reason resolved,
        lines' = lines.map fun li => if li.id = patch.id then
          { (lines.find? (·.id = patch.id)).getD optionRow with
            included := patch.included
            discountType := discountType
            discountValue := discountValue
            discountSuppressedReason := reason
            discountResolvedAmount := resolved }
          else li := by
  obtain ⟨optionRow, hfound, h⟩ := Result.of_bind h
  obtain ⟨row, hrow, h⟩ := Result.of_bind h
  cases h
  obtain ⟨hmem, hid, hkind⟩ := findLine_eq_ok hfound
  obtain ⟨resolved, rfl⟩ := applyDiscount_eq_ok hrow
  exact ⟨optionRow, hmem, hkind, hid, _, _, _, resolved, rfl⟩

/-! ### All entries -/

theorem ids_upsertAccessory (h : upsertAccessory reads existing used lines entry = .ok lines') :
    lines.map (·.id) <+: lines'.map (·.id) := by
  obtain ⟨row, -, -, ⟨found, -, -, -, -, rfl⟩ | ⟨-, -, rfl⟩⟩ := upsertAccessory_eq_ok h
  · rewrite [map_key_replaceRow]
    exact List.prefix_rfl
  · rw [List.map_append]
    exact List.prefix_append _ _

variable {entries : List (LineItemAccessoryInput × ℕ)}

theorem ids_fold (h : entries.foldlM (upsertAccessory reads existing used) lines = .ok lines') :
    lines.map (·.id) <+: lines'.map (·.id) := by
  refine foldlM_keeps (P := fun written => lines.map (·.id) <+: written.map (·.id)) ?_
    List.prefix_rfl h
  intro before entry after _ hbefore hstep
  exact hbefore.trans (ids_upsertAccessory hstep)

def waiting (existing : List LineItem) (entries : List (LineItemAccessoryInput × ℕ)) :
    List LineItem :=
  existing.filter fun li => isAccessory li && decide (li.id ∈ namedAccessories entries)

theorem waiting_cons {found : LineItem} (hids : (existing.map (·.id)).Nodup)
    (hmem : found ∈ existing) (hkind : found.kind = .accessory) (hid : entry.1.id = some found.id)
    (hfresh : found.id ∉ namedAccessories entries) :
    waiting existing (entry :: entries) ~ found :: waiting existing entries := by
  have hnodup : existing.Nodup := hids.of_map _
  refine (List.perm_ext_iff_of_nodup (hnodup.filter _) ?_).mpr fun li => ?_
  · refine List.nodup_cons.mpr ⟨fun h => ?_, hnodup.filter _⟩
    have hnamed := (List.mem_filter.mp h).2
    rw [Bool.and_eq_true, decide_eq_true_eq] at hnamed
    exact hfresh hnamed.2
  · have hnames : namedAccessories (entry :: entries) = found.id :: namedAccessories entries :=
      List.filterMap_cons_some hid
    unfold waiting
    rw [List.mem_filter, List.mem_cons, List.mem_filter, hnames, Bool.and_eq_true, Bool.and_eq_true,
      decide_eq_true_eq, decide_eq_true_eq, List.mem_cons]
    constructor
    · rintro ⟨hli, hacc, heq | hlater⟩
      · exact .inl (eq_of_key_eq hids hli hmem heq)
      · exact .inr ⟨hli, hacc, hlater⟩
    · rintro (rfl | ⟨hli, hacc, hlater⟩)
      · exact ⟨hmem, decide_eq_true hkind, .inl rfl⟩
      · exact ⟨hli, hacc, .inr hlater⟩

/-- **Entries that name no accessory twice leave one row each**, in place of the rows they
name or beside them. -/
theorem accessories_fold {done : List LineItem} (hids : (existing.map (·.id)).Nodup)
    (hnamed : (namedAccessories entries).Nodup)
    (hlines : lines.filter isAccessory ~ waiting existing entries ++ done)
    (hfinal : (lines'.map (·.id)).Nodup)
    (h : entries.foldlM (upsertAccessory reads existing used) lines = .ok lines') :
    ∃ rows, List.Forall₂ Fulfils entries rows ∧ lines'.filter isAccessory ~ done ++ rows := by
  induction entries generalizing lines done with
  | nil =>
    cases h
    have hnone : waiting existing [] = [] := by
      refine List.filter_eq_nil_iff.mpr fun li _ => ?_
      simp [namedAccessories]
    rw [hnone, List.nil_append] at hlines
    exact ⟨[], .nil, by rwa [List.append_nil]⟩
  | cons entry entries ih =>
    rw [List.foldlM_cons] at h
    obtain ⟨written, hwritten, h⟩ := Result.of_bind h
    have hnodup : (written.map (·.id)).Nodup := hfinal.sublist (ids_fold h).sublist
    obtain ⟨row, hfulfils, hkind, hwrote⟩ := upsertAccessory_eq_ok hwritten
    have hrowKind : isAccessory row = true := decide_eq_true hkind
    rcases hwrote with ⟨found, hmem, hacc, hid, hrow, rfl⟩ | ⟨hnone, -, rfl⟩
    · -- the row that is named
      have hnames : namedAccessories (entry :: entries) = found.id :: namedAccessories entries :=
        List.filterMap_cons_some hid
      rw [hnames, List.nodup_cons] at hnamed
      rw [map_key_replaceRow] at hnodup
      have hwaiting := waiting_cons hids hmem hacc hid hnamed.1
      have hperm : lines.filter isAccessory ~ found :: (waiting existing entries ++ done) :=
        hlines.trans (hwaiting.append_right done)
      have hfound : found ∈ lines :=
        List.mem_of_mem_filter (hperm.mem_iff.mpr List.mem_cons_self)
      have hothers : row.id ∉ (waiting existing entries ++ done).map (·.id) := by
        have hdistinct : ((found :: (waiting existing entries ++ done)).map (·.id)).Nodup :=
          (hperm.map _).nodup (hnodup.sublist (List.filter_sublist.map _))
        rw [List.map_cons, List.nodup_cons] at hdistinct
        rw [hrow]
        exact hdistinct.1
      have hafter : (replaceRow (·.id) row lines).filter isAccessory ~
          waiting existing entries ++ (done ++ [row]) := by
        rw [filter_replaceRow hrowKind fun li hli heq => ?_]
        · calc replaceRow (·.id) row (lines.filter isAccessory)
              ~ replaceRow (·.id) row (found :: (waiting existing entries ++ done)) := hperm.map _
            _ = row :: (waiting existing entries ++ done) := replaceRow_cons_self hrow.symm hothers
            _ ~ waiting existing entries ++ done ++ [row] := (List.perm_append_singleton row _).symm
            _ = waiting existing entries ++ (done ++ [row]) := List.append_assoc _ _ _
        · have hsame : li = found := eq_of_key_eq hnodup hli hfound (heq.trans hrow)
          exact decide_eq_true (hsame ▸ hacc)
      obtain ⟨rows, hrows, hfinished⟩ := ih hnamed.2 hafter h
      exact ⟨row :: rows, .cons hfulfils hrows, by simpa using hfinished⟩
    · -- a new row
      have hnames : namedAccessories (entry :: entries) = namedAccessories entries :=
        List.filterMap_cons_none hnone
      have hwaiting : waiting existing (entry :: entries) = waiting existing entries := by
        unfold waiting
        rw [hnames]
      rw [hnames] at hnamed
      rw [hwaiting] at hlines
      have hafter : (lines ++ [row]).filter isAccessory ~
          waiting existing entries ++ (done ++ [row]) := by
        rw [List.filter_append, List.filter_cons_of_pos hrowKind, List.filter_nil,
          ← List.append_assoc]
        exact hlines.append_right [row]
      obtain ⟨rows, hrows, hfinished⟩ := ih hnamed hafter h
      exact ⟨row :: rows, .cons hfulfils hrows, by simpa using hfinished⟩

theorem factoryOptions_fold (hids : (existing.map (·.id)).Nodup)
    (hlines : lines.filter isFactoryOption = existing.filter isFactoryOption)
    (h : entries.foldlM (upsertAccessory reads existing used) lines = .ok lines') :
    lines'.filter isFactoryOption = existing.filter isFactoryOption := by
  refine foldlM_keeps (P := fun written =>
    written.filter isFactoryOption = existing.filter isFactoryOption) ?_ hlines h
  intro before entry after _ hbefore hstep
  obtain ⟨row, -, hkind, ⟨found, hmem, hacc, -, hrow, rfl⟩ | ⟨-, -, rfl⟩⟩ :=
    upsertAccessory_eq_ok hstep
  · rw [filter_replaceRow_of_not, hbefore]
    · rw [isFactoryOption, hkind]
      rfl
    · intro li hli heq
      cases hoption : isFactoryOption li with
      | false => rfl
      | true =>
        -- it would be the row that is named
        have hexisting : li ∈ existing :=
          List.mem_of_mem_filter (hbefore ▸ List.mem_filter.mpr ⟨hli, hoption⟩)
        have hsame : li = found := eq_of_key_eq hids hexisting hmem (heq.trans hrow)
        rw [isFactoryOption, hsame, hacc] at hoption
        cases hoption
  · rw [List.filter_append, hbefore, List.filter_cons_of_neg, List.filter_nil, List.append_nil]
    rw [isFactoryOption, hkind]
    decide

theorem length_fold (h : entries.foldlM (upsertAccessory reads existing used) lines = .ok lines') :
    lines'.length + (namedAccessories entries).length = lines.length + entries.length := by
  induction entries generalizing lines with
  | nil =>
    cases h
    rfl
  | cons entry entries ih =>
    rw [List.foldlM_cons] at h
    obtain ⟨written, hwritten, h⟩ := Result.of_bind h
    have hrest := ih h
    obtain ⟨row, -, -, ⟨found, -, -, hid, -, rfl⟩ | ⟨hnone, -, rfl⟩⟩ := upsertAccessory_eq_ok hwritten
    · have hnames : namedAccessories (entry :: entries) = found.id :: namedAccessories entries :=
        List.filterMap_cons_some hid
      rw [replaceRow, List.length_map] at hrest
      rw [hnames, List.length_cons, List.length_cons]
      omega
    · have hnames : namedAccessories (entry :: entries) = namedAccessories entries :=
        List.filterMap_cons_none hnone
      rw [List.length_append, List.length_singleton] at hrest
      rw [hnames, List.length_cons]
      omega

theorem ids_patchFactoryOption {patch : LineItemFactoryOptionPatch}
    (h : patchFactoryOption existing used lines patch = .ok lines') :
    lines'.map (·.id) = lines.map (·.id) := by
  obtain ⟨optionRow, -, -, hid, discountType, discountValue, reason, resolved, rfl⟩ :=
    patchFactoryOption_eq_ok h
  have hcurrent : ((lines.find? (·.id = patch.id)).getD optionRow).id = patch.id := by
    cases hfind : lines.find? (·.id = patch.id) with
    | none => exact hid
    | some current =>
      have hprop := List.find?_some hfind
      simp only [decide_eq_true_eq] at hprop
      exact hprop
  rw [List.map_map]
  refine List.map_congr_left fun li _ => ?_
  rw [Function.comp_apply]
  split
  · next heq => exact hcurrent.trans heq.symm
  · rfl

theorem ids_patches {patches : List LineItemFactoryOptionPatch}
    (h : patches.foldlM (patchFactoryOption existing used) lines = .ok lines') :
    lines'.map (·.id) = lines.map (·.id) := by
  refine foldlM_keeps (P := fun written => written.map (·.id) = lines.map (·.id)) ?_ rfl h
  intro before patch after _ hbefore hstep
  exact (ids_patchFactoryOption hstep).trans hbefore

/-- What patches leave of the lines: the same ids and accessories, and the options
there were, with the named ones changed. -/
structure Patched (named : List Uuid) (existing lines written : List LineItem) : Prop where
  ids : written.map (·.id) = lines.map (·.id)
  accessories : written.filter isAccessory = lines.filter isAccessory
  optionIds : (written.filter isFactoryOption).map (·.id) =
    (existing.filter isFactoryOption).map (·.id)
  options : ∀ li' ∈ written.filter isFactoryOption, ∃ li ∈ existing.filter isFactoryOption,
    SameOption named li li'

theorem Patched.patch {named : List Uuid} {written written' : List LineItem}
    {patch : LineItemFactoryOptionPatch} (hids : (lines.map (·.id)).Nodup)
    (hnamed : patch.id ∈ named) (hwritten : Patched named existing lines written)
    (h : patchFactoryOption existing used written patch = .ok written') :
    Patched named existing lines written' := by
  obtain ⟨optionRow, hmem, hkind, hid, discountType, discountValue, reason, resolved, rfl⟩ :=
    patchFactoryOption_eq_ok h
  have hdistinct : (written.map (·.id)).Nodup := hwritten.ids ▸ hids
  -- the option is among the lines, once
  have hoptionId : patch.id ∈ (written.filter isFactoryOption).map (·.id) := by
    rw [hwritten.optionIds]
    exact List.mem_map.mpr ⟨optionRow, List.mem_filter.mpr ⟨hmem, decide_eq_true hkind⟩, hid⟩
  obtain ⟨current, hcurrent, hcurrentId⟩ := List.mem_map.mp hoptionId
  obtain ⟨hcurrentMem, hcurrentKind⟩ := List.mem_filter.mp hcurrent
  have hfind : written.find? (·.id = patch.id) = some current := by
    cases hfind : written.find? (·.id = patch.id) with
    | none =>
      have hnone := List.find?_eq_none.mp hfind current hcurrentMem
      exact absurd (decide_eq_true hcurrentId) hnone
    | some other =>
      have hother := List.find?_some hfind
      simp only [decide_eq_true_eq] at hother
      rw [eq_of_key_eq hdistinct (List.mem_of_find?_eq_some hfind) hcurrentMem
        (hother.trans hcurrentId.symm)]
  rw [hfind, Option.getD_some]
  set row : LineItem := { current with
    included := patch.included
    discountType := discountType
    discountValue := discountValue
    discountSuppressedReason := reason
    discountResolvedAmount := resolved } with hrow
  have hrowId : row.id = patch.id := hcurrentId
  have hreplace : (written.map fun li => if li.id = patch.id then row else li) =
      replaceRow (·.id) row written := by
    rw [replaceRow, hrowId]
  have hrowKind : isFactoryOption row = true := hcurrentKind
  have hsame : ∀ li ∈ written, li.id = row.id → li = current := fun li hli heq =>
    eq_of_key_eq hdistinct hli hcurrentMem heq
  have hoptions : (replaceRow (·.id) row written).filter isFactoryOption =
      replaceRow (·.id) row (written.filter isFactoryOption) :=
    filter_replaceRow hrowKind fun li hli heq => hsame li hli heq ▸ hcurrentKind
  rw [hreplace]
  refine ⟨(map_key_replaceRow _ _ _).trans hwritten.ids, ?_, ?_, ?_⟩
  · have hnotAccessory : isAccessory current = false := by
      rw [isAccessory, of_decide_eq_true hcurrentKind]
      rfl
    have hrowNot : isAccessory row = false := hnotAccessory
    rw [filter_replaceRow_of_not hrowNot fun li hli heq => hsame li hli heq ▸ hnotAccessory]
    exact hwritten.accessories
  · rw [hoptions, map_key_replaceRow]
    exact hwritten.optionIds
  · intro li' hli'
    rw [hoptions] at hli'
    obtain ⟨old, hold, rfl⟩ := List.mem_map.mp hli'
    split
    · obtain ⟨li, hli, hkept⟩ := hwritten.options current hcurrent
      refine ⟨li, hli, hkept.id, hkept.code, hkept.label, hkept.unitPrice, hkept.quantity,
        hkept.position, fun hunnamed => absurd hnamed ?_⟩
      rw [← hcurrentId, hkept.id]
      exact hunnamed
    · exact hwritten.options old hold

/-- Patches change the options they name, and nothing else. -/
theorem factoryRows_fold {patches : List LineItemFactoryOptionPatch}
    (hids : (lines.map (·.id)).Nodup)
    (hlines : lines.filter isFactoryOption = existing.filter isFactoryOption)
    (h : patches.foldlM (patchFactoryOption existing used) lines = .ok lines') :
    Patched (patches.map (·.id)) existing lines lines' := by
  have hstart : Patched (patches.map (·.id)) existing lines lines :=
    ⟨rfl, rfl, by rw [hlines], fun li hli =>
      ⟨li, hlines ▸ hli, rfl, rfl, rfl, rfl, rfl, rfl, fun _ => rfl⟩⟩
  exact foldlM_keeps (P := Patched (patches.map (·.id)) existing lines)
    (fun _ _ _ hpatch hbefore hstep =>
      hbefore.patch hids (List.mem_map_of_mem hpatch) hstep) hstart h

end Entries

/-! ### One request -/

theorem namedAccessories_zipIdx (accessories : List LineItemAccessoryInput) :
    namedAccessories accessories.zipIdx = accessories.filterMap (·.id) := by
  calc namedAccessories accessories.zipIdx
      = (accessories.zipIdx.map Prod.fst).filterMap (·.id) := (List.filterMap_map ..).symm
    _ = accessories.filterMap (·.id) := by rw [List.zipIdx_map_fst]

theorem filter_map_stored {p : LineItem → Bool} (hp : ∀ li, p li.stored = p li)
    (lines : List LineItem) :
    (lines.map LineItem.stored).filter p = (lines.filter p).map LineItem.stored := by
  rw [List.filter_map]
  refine congrArg (List.map LineItem.stored) (List.filter_congr fun li _ => ?_)
  exact hp li

theorem Fulfils.stored {entry : LineItemAccessoryInput × ℕ} {li : LineItem} (h : Fulfils entry li)
    (hprice : Cents entry.1.unitPrice)
    (hvalue : entry.1.discountType.isSome = true → ∀ x ∈ entry.1.discountValue, Cents x) :
    Fulfils entry li.stored where
  id := h.id
  position := h.position
  code := h.code
  label := h.label
  unitPrice := by
    rw [LineItem.stored, h.unitPrice]
    exact column_of_cents hprice
  quantity := h.quantity
  discount := by
    have hcolumn : li.discountValue.map column = li.discountValue := by
      refine map_column fun x hx => ?_
      have hwanted := congrArg (·.2.1) h.discount
      unfold wantedDiscount at hwanted
      split at hwanted
      · next hset =>
        have hsent : li.discountValue = entry.1.discountValue := hwanted
        exact hvalue hset.1 x (hsent ▸ hx)
      · have hnone : li.discountValue = none := hwanted
        rw [hnone] at hx
        cases hx
    calc (li.discountType, li.discountValue.map column, li.discountSuppressedReason)
        = (li.discountType, li.discountValue, li.discountSuppressedReason) := by rw [hcolumn]
      _ = _ := h.discount

theorem Fulfils.cents {entry : LineItemAccessoryInput × ℕ} {li : LineItem} (h : Fulfils entry li)
    (hstored : ∀ x ∈ li.amounts, Cents x) : Cents entry.1.unitPrice ∧
      (entry.1.discountType.isSome = true → ∀ x ∈ entry.1.discountValue, Cents x) := by
  have hexact := exactLine_of_columns hstored
  refine ⟨h.unitPrice ▸ hexact.unitPrice, fun htype x hx => ?_⟩
  have hwanted := congrArg (·.2.1) h.discount
  unfold wantedDiscount at hwanted
  rw [if_pos ⟨htype, by rw [Option.mem_def.mp hx]; rfl⟩] at hwanted
  have hsent : li.discountValue = entry.1.discountValue := hwanted
  refine hstored x ?_
  rw [LineItem.amounts, hsent, Option.mem_def.mp hx]
  simp

section

variable {reads : Reads} {deal deal' : Deal} {data : LineItemsReplaceRequest}

/-- What the request keeps before it writes its first entry. -/
def keptLines (deal : Deal) (data : LineItemsReplaceRequest) : List LineItem :=
  deal.lines.filter fun li => ¬ (li.kind = .accessory ∧ li.id ∉ data.accessories.filterMap (·.id))

theorem filter_accessory_keptLines :
    (keptLines deal data).filter isAccessory = waiting deal.lines data.accessories.zipIdx := by
  unfold keptLines waiting
  rw [List.filter_filter, namedAccessories_zipIdx]
  refine List.filter_congr fun li _ => ?_
  by_cases hkind : li.kind = .accessory
  · simp [isAccessory, hkind]
  · simp [isAccessory, hkind]

theorem filter_factoryOption_keptLines :
    (keptLines deal data).filter isFactoryOption = deal.lines.filter isFactoryOption := by
  unfold keptLines
  rw [List.filter_filter]
  refine List.filter_congr fun li _ => ?_
  by_cases hkind : li.kind = .factoryOption
  · simp [isFactoryOption, hkind]
  · simp [isFactoryOption, hkind]

theorem replaceLineItems_loops (h : replaceLineItems reads deal data = .ok deal') : ∃ written,
      data.accessories.zipIdx.foldlM (upsertAccessory reads deal.lines (isUsedVehicle deal))
        (keptLines deal data) = .ok written ∧
      data.factoryOptions.foldlM (patchFactoryOption deal.lines (isUsedVehicle deal)) written =
        .ok deal'.lines := by
  obtain ⟨lines, hlines, h⟩ := Result.of_bind h
  cases h
  exact Result.of_bind hlines

theorem stored_of_mem (hdeal : deal.stored = deal) {li : LineItem} (hli : li ∈ deal.lines) :
    li.stored = li := by
  have hlines : deal.lines.map LineItem.stored = deal.lines.map id :=
    (congrArg (fun d : Deal => d.lines) hdeal).trans (List.map_id _).symm
  exact List.map_inj_left.mp hlines li hli

variable {written : List LineItem}

theorem factoryRowsKept_stored (hdeal : deal.stored = deal)
    (hpatched : Patched (data.factoryOptions.map (·.id)) deal.lines written deal'.lines) :
    FactoryRowsKept data deal deal'.stored := by
  have hrows : factoryRows deal'.stored = (factoryRows deal').map LineItem.stored :=
    filter_map_stored (fun _ => rfl) _
  constructor
  · rw [hrows, List.map_map]
    exact hpatched.optionIds
  · intro li' hli'
    rw [hrows] at hli'
    obtain ⟨patched, hmem, rfl⟩ := List.mem_map.mp hli'
    obtain ⟨li, hli, hsame⟩ := hpatched.options patched hmem
    have hstored := stored_of_mem hdeal (List.mem_of_mem_filter hli)
    refine ⟨li, hli, hsame.id, hsame.code, hsame.label, ?_, hsame.quantity, hsame.position,
      fun hunnamed => ?_⟩
    · have hcolumn : column li.unitPrice = li.unitPrice := congrArg LineItem.unitPrice hstored
      change column patched.unitPrice = li.unitPrice
      rw [hsame.unitPrice, hcolumn]
    · rw [hsame.unnamed hunnamed, hstored]

theorem positions_of_fulfils {entries : List (LineItemAccessoryInput × ℕ)} {rows : List LineItem}
    (h : List.Forall₂ Fulfils entries rows) : rows.map (·.position) = entries.map (·.2) := by
  induction h with
  | nil => rfl
  | cons hrow _ ih => rw [List.map_cons, List.map_cons, hrow.position, ih]

theorem accessoryRows_stored {rows : List LineItem}
    (hrows : List.Forall₂ Fulfils data.accessories.zipIdx rows)
    (hperm : deal'.lines.filter isAccessory ~ rows) :
    accessoryRows deal'.stored = rows.map LineItem.stored := by
  refine mergeSort_eq_of_perm LineItem.position ?_ ?_
  · change (deal'.lines.map LineItem.stored).filter isAccessory ~ _
    rw [filter_map_stored fun _ => rfl]
    exact hperm.map _
  · rw [List.pairwise_map]
    have hpositions : (rows.map (·.position)).Pairwise (· < ·) := by
      rw [positions_of_fulfils hrows, List.zipIdx_map_snd]
      exact List.pairwise_lt_range'
    exact List.pairwise_map.mp hpositions

theorem accessoriesReplaced_of_sent (hids : (deal.lines.map (·.id)).Nodup)
    (hsent : SentRowByRow data) (hwritten : (written.map (·.id)).Nodup)
    (hfold : data.accessories.zipIdx.foldlM (upsertAccessory reads deal.lines (isUsedVehicle deal))
      (keptLines deal data) = .ok written)
    (hpatched : Patched (data.factoryOptions.map (·.id)) deal.lines written deal'.lines) :
    AccessoriesReplaced data deal'.stored := by
  have hkept : (keptLines deal data).filter isAccessory ~
      waiting deal.lines data.accessories.zipIdx ++ [] := by
    rw [filter_accessory_keptLines, List.append_nil]
  obtain ⟨rows, hrows, hperm⟩ := accessories_fold hids
    (by rw [namedAccessories_zipIdx]; exact hsent.1) hkept hwritten hfold
  rw [List.nil_append, ← hpatched.accessories] at hperm
  have hamounts : ∀ entry ∈ data.accessories.zipIdx, Cents entry.1.unitPrice ∧
      (entry.1.discountType.isSome = true → ∀ x ∈ entry.1.discountValue, Cents x) :=
    fun entry hentry => hsent.2 entry.1 (List.fst_mem_of_mem_zipIdx hentry)
  unfold AccessoriesReplaced
  rw [accessoryRows_stored hrows hperm, List.forall₂_map_right_iff]
  exact ((List.forall₂_and_left _ _).mpr ⟨hamounts, hrows⟩).imp
    fun entry li h => h.2.stored h.1.1 h.1.2

theorem length_accessoryRows (deal : Deal) :
    (accessoryRows deal).length = (deal.lines.filter isAccessory).length :=
  List.length_mergeSort _

theorem length_filters (lines : List LineItem) :
    lines.length = (lines.filter isAccessory).length + (lines.filter isFactoryOption).length := by
  induction lines with
  | nil => rfl
  | cons li lines ih =>
    cases hkind : li.kind with
    | accessory =>
      have hacc : isAccessory li = true := decide_eq_true hkind
      have hoption : isFactoryOption li = false := by rw [isFactoryOption, hkind]; rfl
      rw [List.filter_cons_of_pos hacc, List.filter_cons_of_neg (by simp [hoption]),
        List.length_cons, List.length_cons, ih]
      omega
    | factoryOption =>
      have hacc : isAccessory li = false := by rw [isAccessory, hkind]; rfl
      have hoption : isFactoryOption li = true := decide_eq_true hkind
      rw [List.filter_cons_of_neg (by simp [hacc]), List.filter_cons_of_pos hoption,
        List.length_cons, List.length_cons, ih]
      omega

theorem named_nodup_of_replaced (hids : (deal.lines.map (·.id)).Nodup)
    (hfold : data.accessories.zipIdx.foldlM (upsertAccessory reads deal.lines (isUsedVehicle deal))
      (keptLines deal data) = .ok written)
    (hpatched : Patched (data.factoryOptions.map (·.id)) deal.lines written deal'.lines)
    (h : AccessoriesReplaced data deal'.stored) : (data.accessories.filterMap (·.id)).Nodup := by
  -- the rows there are: those kept, and one for each entry without an id
  have hcount : (written.filter isAccessory).length = data.accessories.length := by
    have hlength := h.length_eq
    rw [length_accessoryRows, List.length_zipIdx] at hlength
    change _ = ((deal'.lines.map LineItem.stored).filter isAccessory).length at hlength
    rw [filter_map_stored fun _ => rfl, List.length_map, hpatched.accessories] at hlength
    exact hlength.symm
  have hwaiting : (data.accessories.filterMap (·.id)).length ≤
      ((waiting deal.lines data.accessories.zipIdx).map (·.id)).length := by
    have hlength := length_fold hfold
    have hbefore := length_filters (keptLines deal data)
    have hafter := length_filters written
    rw [filter_accessory_keptLines, filter_factoryOption_keptLines] at hbefore
    rw [factoryOptions_fold hids filter_factoryOption_keptLines hfold, hcount] at hafter
    rw [namedAccessories_zipIdx, List.length_zipIdx] at hlength
    rw [List.length_map]
    omega
  refine nodup_of_length_le (hids.sublist (List.filter_sublist.map _)) (fun id hid => ?_) hwaiting
  obtain ⟨li, hli, rfl⟩ := List.mem_map.mp hid
  have hnamed := (List.mem_filter.mp hli).2
  rw [namedAccessories_zipIdx, Bool.and_eq_true, decide_eq_true_eq] at hnamed
  exact hnamed.2

theorem replaceLineItems_exact (hids : (deal.lines.map (·.id)).Nodup) (hdeal : deal.stored = deal)
    (hids' : (deal'.lines.map (·.id)).Nodup) (h : replaceLineItems reads deal data = .ok deal') :
    FactoryRowsKept data deal deal'.stored ∧
      (AccessoriesReplaced data deal'.stored ↔ SentRowByRow data) := by
  obtain ⟨written, hfold, hpatches⟩ := replaceLineItems_loops h
  have hwritten : (written.map (·.id)).Nodup := ids_patches hpatches ▸ hids'
  have hpatched := factoryRows_fold hwritten
    (factoryOptions_fold hids filter_factoryOption_keptLines hfold) hpatches
  refine ⟨factoryRowsKept_stored hdeal hpatched, fun hreplaced => ⟨?_, ?_⟩, fun hsent =>
    accessoriesReplaced_of_sent hids hsent hwritten hfold hpatched⟩
  · exact named_nodup_of_replaced hids hfold hpatched hreplaced
  · -- the rows of the answer come out of columns
    have hcolumns : ∀ li ∈ accessoryRows deal'.stored, ∀ x ∈ li.amounts, Cents x := by
      intro li hli
      have hmem := List.mem_of_mem_filter ((List.mergeSort_perm _ _).mem_iff.mp hli)
      obtain ⟨row, -, rfl⟩ := List.mem_map.mp hmem
      intro x hx
      rw [LineItem.amounts, List.mem_cons, List.mem_append] at hx
      rcases hx with rfl | hx | hx
      · exact cents_column _
      · exact cents_map_column _ x (Option.mem_toList.mp hx)
      · exact cents_map_column _ x (Option.mem_toList.mp hx)
    have hboth := ((List.forall₂_and_left _ _).mpr ⟨hcolumns, hreplaced.flip⟩).flip.imp
      (S := fun entry _ => (Cents entry.1.unitPrice ∧
        (entry.1.discountType.isSome = true → ∀ x ∈ entry.1.discountValue, Cents x)) ∧ True)
      fun entry li hli => ⟨hli.2.cents hli.1, trivial⟩
    have hentries := ((List.forall₂_and_left _ _).mp hboth).1
    intro a ha
    obtain ⟨position, hposition, rfl⟩ := List.mem_iff_getElem.mp ha
    exact hentries (data.accessories[position], position)
      (List.mem_zipIdx_iff_getElem?.mpr (List.getElem?_eq_getElem hposition))

end

/-! ### The tables -/

/-- The ids of lines are distinct, and every row is as its columns hold it. -/
structure KeyedTables (db : SalesDb) : Prop where
  lineIds : db.lineIds.Nodup
  offers : ∀ id offer, db.offers.lookup id = some offer → offer.stored = offer
  contracts : ∀ id contract, db.contracts.lookup id = some contract → contract.stored = contract

section

variable {reads : Reads} {db db' : SalesDb} {request : Request}

theorem handleKeyed_eq_ok (h : handleKeyed reads db request = .ok db') :
    ∃ written, handle reads db request = .ok written ∧ written.store = .ok db' ∧
      db'.lineIds.Nodup := by
  obtain ⟨stored, hstored, h⟩ := Result.of_bind h
  obtain ⟨written, hwritten, hstore⟩ := handleStored_eq_ok hstored
  split at h
  · next hnodup =>
    cases h
    exact ⟨written, hwritten, hstore, hnodup⟩
  · cases h

theorem SalesOffer.stored_stored (offer : SalesOffer) : offer.stored.stored = offer.stored := by
  simp only [SalesOffer.stored, Deal.stored_stored, map_column_map_column]

theorem SalesContract.stored_stored (contract : SalesContract) :
    contract.stored.stored = contract.stored := by
  simp only [SalesContract.stored, Deal.stored_stored]

theorem keyedTables_of_ok (h : handleKeyed reads db request = .ok db') : KeyedTables db' := by
  obtain ⟨written, -, hstore, hnodup⟩ := handleKeyed_eq_ok h
  refine ⟨hnodup, fun id offer hrow => ?_, fun id contract hrow => ?_⟩
  · obtain ⟨row, -, rfl⟩ := lookup_storedOffer hstore hrow
    exact row.stored_stored
  · obtain ⟨row, -, rfl⟩ := lookup_storedContract hstore hrow
    exact row.stored_stored

theorem keyedTables_run (valuations : Table Uuid Valuation)
    (requests : List (ColumnReads × Request)) :
    KeyedTables (requests.foldl nextKeyed (noDeals valuations)) := by
  refine Run.invariant (fun db a hdb => ?_) ⟨List.nodup_nil, Table.forall_empty, Table.forall_empty⟩
    requests
  unfold nextKeyed
  cases h : handleKeyed a.1 db a.2 with
  | error e => exact hdb
  | ok db' => exact keyedTables_of_ok h

variable {id : Uuid}

theorem KeyedTables.offer_ids (h : KeyedTables db) {offer : SalesOffer}
    (hrow : db.offers.lookup id = some offer) : (offer.lines.map (·.id)).Nodup :=
  (List.nodup_flatMap.mp (List.nodup_append.mp h.lineIds).1).1 ⟨id, offer⟩
    (Table.lookup_eq_some_iff_mem.mp hrow)

theorem KeyedTables.contract_ids (h : KeyedTables db) {contract : SalesContract}
    (hrow : db.contracts.lookup id = some contract) : (contract.lines.map (·.id)).Nodup :=
  (List.nodup_flatMap.mp (List.nodup_append.mp h.lineIds).2.1).1 ⟨id, contract⟩
    (Table.lookup_eq_some_iff_mem.mp hrow)

theorem map_id_stored (lines : List LineItem) :
    (lines.map LineItem.stored).map (·.id) = lines.map (·.id) :=
  List.map_map

theorem replaceLines_offer (hdb : KeyedTables db) {tenantId : Uuid} {ifMatch : ℕ}
    {data : LineItemsReplaceRequest}
    (h : handleKeyed reads db (.editOffer tenantId id ifMatch (.replaceLineItems data)) = .ok db') :
    ∃ offer offer', db.offers.lookup id = some offer ∧ db'.offers.lookup id = some offer' ∧
      FactoryRowsKept data offer.toDeal offer'.toDeal ∧
      (AccessoriesReplaced data offer'.toDeal ↔ SentRowByRow data) ∧
      (∀ other, other ≠ id → db'.offers.lookup other = db.offers.lookup other) ∧
      ∀ other, db'.contracts.lookup other = db.contracts.lookup other := by
  have hdb' := keyedTables_of_ok h
  obtain ⟨written, hwritten, hstore, -⟩ := handleKeyed_eq_ok h
  obtain ⟨hoffers, hcontracts, -⟩ := store_eq_ok hstore
  cases handled_of_ok hwritten with
  | editOffer _ _ _ _ offer deal hoffer hdeal =>
    have hrow : db'.offers.lookup id = some ({ offer with toDeal := deal } : SalesOffer).stored := by
      rw [hoffers, Table.lookup_mapRows, Table.lookup_insert_iff, if_pos rfl]
      rfl
    have hids' := hdb'.offer_ids hrow
    have hids : (deal.lines.map (·.id)).Nodup := (map_id_stored deal.lines) ▸ hids'
    obtain ⟨hfactory, haccessories⟩ := replaceLineItems_exact (hdb.offer_ids hoffer)
      (congrArg SalesOffer.toDeal (hdb.offers id offer hoffer)) hids hdeal
    refine ⟨offer, _, hoffer, hrow, hfactory, haccessories, fun other hne => ?_, fun other => ?_⟩
    · rw [hoffers, Table.lookup_mapRows, Table.lookup_insert_iff, if_neg hne]
      exact (Table.lookup_mapRows ..).symm.trans (Table.lookup_mapRows_of_fixed hdb.offers other)
    · rw [hcontracts]
      exact Table.lookup_mapRows_of_fixed hdb.contracts other

theorem replaceLines_contract (hdb : KeyedTables db) {tenantId : Uuid} {ifMatch : ℕ}
    {data : LineItemsReplaceRequest}
    (h : handleKeyed reads db (.editContract tenantId id ifMatch (.replaceLineItems data)) =
      .ok db') : ∃ contract contract', db.contracts.lookup id = some contract ∧
      db'.contracts.lookup id = some contract' ∧
      FactoryRowsKept data contract.toDeal contract'.toDeal ∧
      (AccessoriesReplaced data contract'.toDeal ↔ SentRowByRow data) ∧
      (∀ other, other ≠ id → db'.contracts.lookup other = db.contracts.lookup other) ∧
      ∀ other, db'.offers.lookup other = db.offers.lookup other := by
  have hdb' := keyedTables_of_ok h
  obtain ⟨written, hwritten, hstore, -⟩ := handleKeyed_eq_ok h
  obtain ⟨hoffers, hcontracts, -⟩ := store_eq_ok hstore
  cases handled_of_ok hwritten with
  | editContract _ _ _ _ contract deal hcontract _ hdeal =>
    have hrow : db'.contracts.lookup id =
        some ({ contract with toDeal := deal } : SalesContract).stored := by
      rw [hcontracts, Table.lookup_mapRows, Table.lookup_insert_iff, if_pos rfl]
      rfl
    have hids' := hdb'.contract_ids hrow
    have hids : (deal.lines.map (·.id)).Nodup := (map_id_stored deal.lines) ▸ hids'
    obtain ⟨hfactory, haccessories⟩ := replaceLineItems_exact (hdb.contract_ids hcontract)
      (congrArg SalesContract.toDeal (hdb.contracts id contract hcontract)) hids hdeal
    refine ⟨contract, _, hcontract, hrow, hfactory, haccessories, fun other hne => ?_,
      fun other => ?_⟩
    · rw [hcontracts, Table.lookup_mapRows, Table.lookup_insert_iff, if_neg hne]
      exact (Table.lookup_mapRows ..).symm.trans (Table.lookup_mapRows_of_fixed hdb.contracts other)
    · rw [hoffers]
      exact Table.lookup_mapRows_of_fixed hdb.offers other

end

/-- **Line-item replacement.**  In every state that requests reach, a request that is
refused leaves the tables; one that is accepted keeps the factory options but for what it
asks of the named ones, leaves every other deal, and leaves the accessories it lists, row by
row and in order, just when it names no accessory twice and its amounts have two decimals. -/
theorem line_replacement_exact (valuations : Table Uuid Valuation)
    (before : List (ColumnReads × Request)) (reads : ColumnReads) (tenantId id : Uuid)
    (ifMatch : ℕ) (data : LineItemsReplaceRequest) (db : SalesDb)
    (hdb : db = before.foldl nextKeyed (noDeals valuations)) :
    (∀ request e, handleKeyed reads db request = .error e → nextKeyed db (reads, request) = db) ∧
    (∀ db', handleKeyed reads db (.editOffer tenantId id ifMatch (.replaceLineItems data)) =
        .ok db' →
      ∃ offer offer', db.offers.lookup id = some offer ∧ db'.offers.lookup id = some offer' ∧
        FactoryRowsKept data offer.toDeal offer'.toDeal ∧
        (AccessoriesReplaced data offer'.toDeal ↔ SentRowByRow data) ∧
        (∀ other, other ≠ id → db'.offers.lookup other = db.offers.lookup other) ∧
        ∀ other, db'.contracts.lookup other = db.contracts.lookup other) ∧
    ∀ db', handleKeyed reads db (.editContract tenantId id ifMatch (.replaceLineItems data)) =
        .ok db' → ∃ contract contract', db.contracts.lookup id = some contract ∧
        db'.contracts.lookup id = some contract' ∧
        FactoryRowsKept data contract.toDeal contract'.toDeal ∧
        (AccessoriesReplaced data contract'.toDeal ↔ SentRowByRow data) ∧
        (∀ other, other ≠ id → db'.contracts.lookup other = db.contracts.lookup other) ∧
        ∀ other, db'.offers.lookup other = db.offers.lookup other := by
  have hkeyed : KeyedTables db := hdb ▸ keyedTables_run valuations before
  refine ⟨fun request e h => ?_, fun db' h => replaceLines_offer hkeyed h,
    fun db' h => replaceLines_contract hkeyed h⟩
  unfold nextKeyed
  rw [h]

instance (data : LineItemsReplaceRequest) : Decidable (SentRowByRow data) :=
  inferInstanceAs (Decidable (_ ∧ _))

def towbarRun : List (ColumnReads × Request) :=
  [(noReads, .createOffer 1),
    (noReads, .editOffer 1 0 1 (.replaceLineItems
      { accessories := [{ code := "T", label := "Towbar", unitPrice := 100 }] }))]

def towbarAndMats : LineItemsReplaceRequest where
  accessories := [{ id := some 0, code := "T", label := "Towbar", unitPrice := 90 },
    { code := "M", label := "Mats", unitPrice := 50 }]

theorem line_replacement_exact_towbarRun :
    ∃ db' offer', handleKeyed noReads (towbarRun.foldl nextKeyed (noDeals ∅))
        (.editOffer 1 0 2 (.replaceLineItems towbarAndMats)) = .ok db' ∧
      db'.offers.lookup 0 = some offer' ∧ AccessoriesReplaced towbarAndMats offer'.toDeal := by
  have hok : (handleKeyed noReads (towbarRun.foldl nextKeyed (noDeals ∅))
      (.editOffer 1 0 2 (.replaceLineItems towbarAndMats))).isOk = true := by decide +kernel
  cases hdb' : handleKeyed noReads (towbarRun.foldl nextKeyed (noDeals ∅))
      (.editOffer 1 0 2 (.replaceLineItems towbarAndMats)) with
  | error e =>
    rw [hdb'] at hok
    cases hok
  | ok db' =>
    obtain ⟨-, hoffer, -⟩ := line_replacement_exact ∅ towbarRun noReads 1 0 2 towbarAndMats _ rfl
    obtain ⟨offer, offer', -, hrow, -, hiff, -⟩ := hoffer db' hdb'
    exact ⟨db', offer', rfl, hrow, hiff.mpr (by decide +kernel)⟩

def towbarTwice : LineItemsReplaceRequest where
  accessories := [{ id := some 0, code := "T", label := "Towbar", unitPrice := 90 },
    { id := some 0, code := "M", label := "Mats", unitPrice := 50 }]

/-- Two entries with one id end as one row. -/
theorem repeatedRun_loses_an_entry :
    ¬ ∀ (valuations : Table Uuid Valuation) (before : List (ColumnReads × Request))
      (reads : ColumnReads) (tenantId id : Uuid) (ifMatch : ℕ) (data : LineItemsReplaceRequest)
      (db' : SalesDb) (offer' : SalesOffer),
      handleKeyed reads (before.foldl nextKeyed (noDeals valuations))
        (.editOffer tenantId id ifMatch (.replaceLineItems data)) = .ok db' →
      db'.offers.lookup id = some offer' → AccessoriesReplaced data offer'.toDeal := by
  intro h
  have hrow : ((handleKeyed noReads (towbarRun.foldl nextKeyed (noDeals ∅))
      (.editOffer 1 0 2 (.replaceLineItems towbarTwice))).toOption.bind fun db' =>
        (db'.offers.lookup 0).map fun offer' => (accessoryRows offer'.toDeal).length) = some 1 := by
    decide +kernel
  obtain ⟨db', hdb', hrow⟩ := Option.bind_eq_some_iff.mp hrow
  obtain ⟨offer', hoffer', hlength⟩ := Option.map_eq_some_iff.mp hrow
  cases hresult : handleKeyed noReads (towbarRun.foldl nextKeyed (noDeals ∅))
      (.editOffer 1 0 2 (.replaceLineItems towbarTwice)) with
  | error e =>
    rw [hresult] at hdb'
    cases hdb'
  | ok result =>
    rw [hresult] at hdb'
    cases hdb'
    have hreplaced := h ∅ towbarRun noReads 1 0 2 towbarTwice _ offer' hresult hoffer'
    have htwo := hreplaced.length_eq
    rw [hlength] at htwo
    exact absurd htwo (by decide)

end Nexotec
