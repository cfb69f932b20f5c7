/-
A stock item gets its VIN once.

`promote_to_vehicle_mdm` asks whether the item is still in the pipeline on the copy it
was handed, and nothing asks the stored row again: the index on `(tenant_id, vin)`
knows other items only.
-/
import Nexotec.Inventory.StockEffects

namespace Nexotec.Stock

open Interleaving RowWrites

variable {ι : Type} {spelling : Spelling} {i j : ι} {sh sh' : Shared ι} {lo lo' : Local}

/-! ### The claim -/

/-- What an event says of a VIN: the item, the VIN and the vehicle. -/
def StockEvent.assignment : StockEvent → Option (Uuid × String × Uuid)
  | .vinAssigned stockItemId vin vehicleId => some (stockItemId, vin, vehicleId)
  | .purchased _ => none

def vinEvents (published : List StockEvent) : List (Uuid × String × Uuid) :=
  published.filterMap StockEvent.assignment

/-- An item that has not been storno'd is in the pipeline as long as it has no VIN. -/
def PipelineUntilVin (item : StockItem) : Prop :=
  item.lifecycleStatus ≠ .stornoPending → (item.lifecycleStatus = .pipeline ↔ item.vin = none)

/-- A vehicle comes with the VIN, and the status with both. -/
structure VinRow (item : StockItem) : Prop where
  vehicle : item.vehicleId = none ↔ item.vin = none
  status : PipelineUntilVin item

def KeepsVin (items items' : Table Uuid StockItem) : Prop :=
  ∀ x item, items.lookup x = some item → item.vin ≠ none → ∃ item', items'.lookup x = some item' ∧
    item'.vin = item.vin ∧ item'.vehicleId = item.vehicleId

/-- Each VIN is published once and is the one the item has. -/
structure VinGivenOnce (sh : Shared ι) : Prop where
  rows : ∀ x item, sh.items.lookup x = some item → VinRow item
  once : ((vinEvents sh.published).map (·.1)).Nodup
  names : ∀ x vin vehicleId, (x, vin, vehicleId) ∈ vinEvents sh.published →
    ∃ item, sh.items.lookup x = some item ∧ item.vin = some vin ∧ item.vehicleId = some vehicleId

/-- The session is within `promote_to_vehicle_mdm`. -/
def Local.promotes : Local → Bool
  | .promoting .. | .resolving .. | .assigning .. => true
  | _ => false

/-- The session is within `create_stock_item`. -/
def Local.creates : Local → Bool
  | .creating .. | .locating .. | .inserting .. => true
  | _ => false

/-- A promotion that publishes no VIN, and a creation that adds no row, leave every
stock item as it was. -/
structure RefusalLeaves (sh sh' : Shared ι) (lo : Local) : Prop where
  promotion : lo.promotes = true → vinEvents sh'.published = vinEvents sh.published →
    sh'.items = sh.items
  creation : lo.creates = true →
    (∀ x, sh.items.lookup x = none → sh'.items.lookup x = none) → sh'.items = sh.items

def Local.promoted : Local → Option Uuid
  | .assigning x _ _ _ => some x
  | _ => none

/-- The promotion meets a row that is still in the pipeline. -/
def PipelineStill (sh : Shared ι) (lo : Local) : Prop :=
  ∀ x ∈ lo.promoted, ∀ stored ∈ sh.items.lookup x, stored.lifecycleStatus = .pipeline

instance (sh : Shared ι) (lo : Local) : Decidable (PipelineStill sh lo) :=
  inferInstanceAs (Decidable (∀ x ∈ lo.promoted, ∀ stored ∈ sh.items.lookup x, _))

def PromotesPipeline (cfg : Config ι (Shared ι) Local) (a : ι × Choice) : Prop :=
  a.2.isCommit = true → PipelineStill cfg.shared (cfg.locals a.1)

instance (cfg : Config ι (Shared ι) Local) (a : ι × Choice) : Decidable (PromotesPipeline cfg a) :=
  inferInstanceAs (Decidable (_ → _))

/-! ### Writes that leave the VIN alone -/

def SameVin (item item' : StockItem) : Prop :=
  item'.vin = item.vin ∧ item'.vehicleId = item.vehicleId ∧
    item'.lifecycleStatus = item.lifecycleStatus

theorem SameVin.refl (item : StockItem) : SameVin item item := ⟨rfl, rfl, rfl⟩

variable {item : StockItem}

theorem SameVin.row {item' : StockItem} (h : SameVin item item') (hrow : VinRow item) :
    VinRow item' := by
  obtain ⟨hvin, hvehicle, hstatus⟩ := h
  refine ⟨by rw [hvehicle, hvin]; exact hrow.vehicle, ?_⟩
  unfold PipelineUntilVin
  rw [hvin, hstatus]
  exact hrow.status

variable {base new : StockItem}

theorem writeItem_sameVin (h : SameVin base new) (stored : StockItem) :
    SameVin stored (writeItem base new stored) :=
  ⟨if_pos h.1, if_pos h.2.1, if_pos h.2.2⟩

theorem writeEdit_sameVin {now : Time} {call : Edit} {purchased : Bool}
    (h : call.request.perform now call.actorId call.stockItemId base = .ok (new, purchased))
    (read : List StockItemOption) (stored : StockItem) :
    SameVin stored (writeEdit call base new read stored) := by
  have hframed := perform_framed h
  have hsame := writeItem_sameVin ⟨hframed.vin, hframed.vehicleId, hframed.lifecycleStatus⟩ stored
  unfold writeEdit
  split
  · exact hsame
  · exact hsame

theorem builtItem_vinRow (now : Time) (stockNumber : String) (data : StockItemCreate)
    (vehicle : Option (Uuid × String)) : VinRow (builtItem now stockNumber data vehicle) := by
  unfold builtItem
  cases vehicle with
  | none => exact ⟨by simp, by simp [PipelineUntilVin]⟩
  | some v => exact ⟨by simp, by simp [PipelineUntilVin]⟩

theorem writeAssigned_vin (now : Time) (vehicleId : Uuid) (vin : String)
    (hstatus : base.lifecycleStatus = .pipeline) (hvin : base.vin = none)
    (hvehicle : base.vehicleId = none) (stored : StockItem) :
    (writeItem base (assignVin now vehicleId vin base).1 stored).vin = some vin ∧
      (writeItem base (assignVin now vehicleId vin base).1 stored).vehicleId = some vehicleId ∧
      (writeItem base (assignVin now vehicleId vin base).1 stored).lifecycleStatus = .inStock := by
  rw [assignVin, markPurchasedIfReady_fst]
  simp [writeItem, writeColumn, hstatus, hvin, hvehicle]

/-! ### What a step does to the VINs -/

/-- A promotion has found the item and taken a copy in the pipeline, without a VIN. -/
def PipelineCopy (sh : Shared ι) : Local → Prop
  | .promoting x _ base | .resolving x _ base | .assigning x _ base _ =>
    sh.items.lookup x ≠ none ∧ base.lifecycleStatus = .pipeline ∧ base.vin = none ∧
      base.vehicleId = none
  | _ => True

/-- A step leaves the VINs as they are, or gives one to a row that had none. -/
inductive VinStep (sh sh' : Shared ι) : Prop
  | kept (rows : ∀ x item', sh'.items.lookup x = some item' → VinRow item' ∨
        ∃ item, sh.items.lookup x = some item ∧ SameVin item item')
      (stays : ∀ x item, sh.items.lookup x = some item →
        ∃ item', sh'.items.lookup x = some item' ∧ SameVin item item')
      (events : vinEvents sh'.published = vinEvents sh.published)
  | given (x : Uuid) (vin : String) (vehicleId : Uuid) (stored item : StockItem)
      (row : sh.items.lookup x = some stored) (pipeline : stored.lifecycleStatus = .pipeline)
      (after : item.vin = some vin ∧ item.vehicleId = some vehicleId ∧
        item.lifecycleStatus = .inStock)
      (rows : ∀ y, sh'.items.lookup y = if y = x then some item else sh.items.lookup y)
      (events : vinEvents sh'.published = (x, vin, vehicleId) :: vinEvents sh.published)

theorem VinStep.of_items (hitems : sh'.items = sh.items)
    (hevents : vinEvents sh'.published = vinEvents sh.published) : VinStep sh sh' := by
  refine .kept ?_ ?_ hevents
  · intro x item' hitem'
    rw [hitems] at hitem'
    exact .inr ⟨item', hitem', .refl item'⟩
  · intro x item hitem
    exact ⟨item, by rw [hitems]; exact hitem, .refl item⟩

variable {x : Uuid}

theorem vinStep_modify {f : StockItem → StockItem} (hitems : sh'.items = sh.items.modify x f)
    (hf : ∀ item, SameVin item (f item))
    (hevents : vinEvents sh'.published = vinEvents sh.published) : VinStep sh sh' := by
  refine .kept ?_ ?_ hevents
  · intro y item' hitem'
    rw [hitems, Table.lookup_modify] at hitem'
    split at hitem'
    · next hy =>
      subst hy
      obtain ⟨item, hitem, rfl⟩ := Option.map_eq_some_iff.mp hitem'
      exact .inr ⟨item, hitem, hf item⟩
    · exact .inr ⟨item', hitem', .refl item'⟩
  · intro y item hitem
    rw [hitems, Table.lookup_modify]
    split
    · next hy =>
      subst hy
      exact ⟨f item, by rw [hitem, Option.map_some], hf item⟩
    · exact ⟨item, hitem, .refl item⟩

@[simp] theorem vinEvents_purchased (x : Uuid) (published : List StockEvent) :
    vinEvents (.purchased x :: published) = vinEvents published := rfl

@[simp] theorem vinEvents_assigned (x vehicleId : Uuid) (vin : String)
    (published : List StockEvent) :
    vinEvents (.vinAssigned x vin vehicleId :: published) = (x, vin, vehicleId) ::
      vinEvents published := rfl

theorem publishPurchased_vinEvents (x : Uuid) (purchased : Bool) (sh : Shared ι) :
    vinEvents (sh.publishPurchased x purchased).published = vinEvents sh.published := by
  unfold Shared.publishPurchased
  split
  · exact vinEvents_purchased x sh.published
  · rfl

section

variable [DecidableEq ι]

theorem Effect.vinStep (h : Effect i sh sh' lo) (hcopy : PipelineCopy sh lo)
    (hstill : PipelineStill sh lo) : VinStep sh sh' := by
  cases h with
  | quiet stock published history answers =>
    exact .of_items (congrArg StockDb.items stock) (by rw [published])
  | edited now call base new read purchased hlo hperform hfree result =>
    refine vinStep_modify (x := call.stockItemId) (f := writeEdit call base new read) ?_
      (fun item => writeEdit_sameVin hperform read item) ?_
    · rw [result]
      exact congrArg StockDb.items (publishPurchased_same _ _ _).1
    · rw [result, publishPurchased_vinEvents]
      rfl
  | assigned now x vin base vehicleId hlo hfree index items history published answers =>
    subst hlo
    obtain ⟨hthere, hstatus, hvin, hvehicle⟩ := hcopy
    obtain ⟨stored, hrow⟩ := Option.ne_none_iff_exists'.mp hthere
    have hevents : vinEvents sh'.published = (x, vin, vehicleId) :: vinEvents sh.published := by
      rw [published]
      split
      · rfl
      · rfl
    refine .given x vin vehicleId stored _ hrow (hstill x rfl stored hrow)
      (writeAssigned_vin now vehicleId vin hstatus hvin hvehicle stored) (fun y => ?_) hevents
    rw [items, Table.lookup_modify]
    split
    · next hy => rw [hy, hrow, Option.map_some]
    · rfl
  | created now x stockNumber data vehicle hlo index fresh result =>
    subst result
    refine .kept ?_ ?_ rfl
    · intro y item' hitem'
      rcases Table.lookup_insert_cases hitem' with ⟨rfl, rfl⟩ | ⟨-, hold⟩
      · exact .inl (builtItem_vinRow now stockNumber data vehicle)
      · exact .inr ⟨item', hold, .refl item'⟩
    · intro y item hitem
      have hne : y ≠ x := by
        intro heq
        rw [heq, fresh] at hitem
        cases hitem
      refine ⟨item, ?_, .refl item⟩
      change (sh.items.insert x _).lookup y = some item
      rw [Table.lookup_insert_iff, if_neg hne]
      exact hitem
  | sold now x base hlo hfree result =>
    subst result
    exact vinStep_modify rfl (fun item => writeItem_sameVin ⟨rfl, rfl, rfl⟩ item) rfl
  | reserved now newId call item cached records hlo stays unreserved result =>
    subst result
    exact vinStep_modify rfl (fun item => ⟨rfl, rfl, rfl⟩) rfl
  | released now call x back records hlo result =>
    subst result
    exact vinStep_modify rfl (fun item => ⟨rfl, rfl, rfl⟩) rfl

end

theorem VinStep.row (h : VinStep sh sh') {stored : StockItem}
    (hrow : sh.items.lookup x = some stored) : ∃ stored', sh'.items.lookup x = some stored' ∧
      (SameVin stored stored' ∨ stored.lifecycleStatus = .pipeline) := by
  cases h with
  | kept rows stays events =>
    obtain ⟨stored', hrow', hsame⟩ := stays x stored hrow
    exact ⟨stored', hrow', .inl hsame⟩
  | given y vin vehicleId old item hold pipeline after rows events =>
    by_cases hx : x = y
    · subst hx
      rw [hrow] at hold
      cases hold
      exact ⟨item, by rw [rows, if_pos rfl], .inr pipeline⟩
    · exact ⟨stored, by rw [rows, if_neg hx]; exact hrow, .inl (.refl stored)⟩

theorem VinStep.copy (h : VinStep sh sh') (hcopy : PipelineCopy sh lo) : PipelineCopy sh' lo := by
  have hthere : ∀ x, sh.items.lookup x ≠ none → sh'.items.lookup x ≠ none := by
    intro x hx
    obtain ⟨stored, hrow⟩ := Option.ne_none_iff_exists'.mp hx
    obtain ⟨stored', hrow', -⟩ := h.row hrow
    rw [hrow']
    exact Option.some_ne_none _
  cases lo with
  | promoting x vin base => exact ⟨hthere x hcopy.1, hcopy.2⟩
  | resolving x vin base => exact ⟨hthere x hcopy.1, hcopy.2⟩
  | assigning x vin base vehicleId => exact ⟨hthere x hcopy.1, hcopy.2⟩
  | _ => trivial

theorem VinRow.of_pipeline (h : VinRow item) (hpipeline : item.lifecycleStatus = .pipeline) :
    item.vin = none ∧ item.vehicleId = none := by
  have hvin := (h.status (by rw [hpipeline]; decide)).mp hpipeline
  exact ⟨hvin, h.vehicle.mpr hvin⟩

theorem VinStep.keepsVin (h : VinStep sh sh') (hgood : VinGivenOnce sh) :
    KeepsVin sh.items sh'.items := by
  intro x item hitem hvin
  obtain ⟨item', hitem', hsame | hpipeline⟩ := h.row hitem
  · exact ⟨item', hitem', hsame.1, hsame.2.1⟩
  · exact absurd ((hgood.rows x item hitem).of_pipeline hpipeline).1 hvin

theorem VinStep.vinGivenOnce (h : VinStep sh sh') (hgood : VinGivenOnce sh) : VinGivenOnce sh' := by
  have hkeeps := h.keepsVin hgood
  have hnames : ∀ x vin vehicleId, (x, vin, vehicleId) ∈ vinEvents sh.published →
      ∃ item, sh'.items.lookup x = some item ∧ item.vin = some vin ∧
        item.vehicleId = some vehicleId := by
    intro x vin vehicleId hevent
    obtain ⟨item, hitem, hvin, hvehicle⟩ := hgood.names x vin vehicleId hevent
    obtain ⟨item', hitem', hvin', hvehicle'⟩ :=
      hkeeps x item hitem (by rw [hvin]; exact Option.some_ne_none _)
    exact ⟨item', hitem', hvin'.trans hvin, hvehicle'.trans hvehicle⟩
  cases h with
  | kept rows stays events =>
    refine ⟨fun x item' hitem' => ?_, by rw [events]; exact hgood.once, ?_⟩
    · rcases rows x item' hitem' with hrow | ⟨item, hitem, hsame⟩
      · exact hrow
      · exact hsame.row (hgood.rows x item hitem)
    · rw [events]
      exact hnames
  | given x vin vehicleId stored item hrow pipeline after rows events =>
    obtain ⟨hvin, hvehicle, hstatus⟩ := after
    have hnone := ((hgood.rows x stored hrow).of_pipeline pipeline).1
    refine ⟨fun y item' hitem' => ?_, ?_, ?_⟩
    · rw [rows] at hitem'
      split at hitem'
      · cases hitem'
        exact ⟨by simp [hvin, hvehicle], fun _ => by simp [hvin, hstatus]⟩
      · exact hgood.rows y item' hitem'
    · rw [events, List.map_cons, List.nodup_cons]
      refine ⟨fun hmem => ?_, hgood.once⟩
      -- a VIN that was published before is in the row, which has none
      obtain ⟨⟨y, vin', vehicleId'⟩, hevent, rfl⟩ := List.mem_map.mp hmem
      obtain ⟨old, hold, hvin', -⟩ := hgood.names y vin' vehicleId' hevent
      rw [hrow] at hold
      cases hold
      rw [hnone] at hvin'
      cases hvin'
    · rw [events]
      intro y vin' vehicleId' hevent
      rcases List.mem_cons.mp hevent with heq | hevent
      · cases heq
        exact ⟨item, by rw [rows, if_pos rfl], hvin, hvehicle⟩
      · exact hnames y vin' vehicleId' hevent

section

variable [DecidableEq ι]

theorem Effect.refusalLeaves (h : Effect i sh sh' lo) : RefusalLeaves sh sh' lo := by
  cases h with
  | quiet stock published history answers =>
    exact ⟨fun _ _ => congrArg StockDb.items stock, fun _ _ => congrArg StockDb.items stock⟩
  | assigned now x vin base vehicleId hlo hfree index items history published answers =>
    subst hlo
    refine ⟨fun _ hsame => ?_, nofun⟩
    have hlength := congrArg List.length hsame
    rw [published] at hlength
    split at hlength
    · simp at hlength
    · simp at hlength
  | created now x stockNumber data vehicle hlo index fresh result =>
    subst hlo result
    refine ⟨nofun, fun _ hnone => ?_⟩
    -- the new row is there now
    have hnew := hnone x fresh
    change (sh.items.insert x _).lookup x = none at hnew
    rw [Table.lookup_insert_iff, if_pos rfl] at hnew
    cases hnew
  | edited now call base new read purchased hlo hperform hfree result =>
    subst hlo
    exact ⟨nofun, nofun⟩
  | sold now x base hlo hfree result =>
    subst hlo
    exact ⟨nofun, nofun⟩
  | reserved now newId call item cached records hlo stays unreserved result =>
    subst hlo
    exact ⟨nofun, nofun⟩
  | released now call x back records hlo result =>
    subst hlo
    exact ⟨nofun, nofun⟩

variable {choice : Choice}

theorem step_pipelineCopy (hrows : ∀ x item, sh.items.lookup x = some item → VinRow item)
    (hcopy : PipelineCopy sh lo) (h : step spelling i choice sh lo = some (sh', lo')) :
    PipelineCopy sh' lo' := by
  cases step_turn h with
  | rest lo' rests =>
    cases lo' with
    | promoting x vin base => cases rests
    | resolving x vin base => cases rests
    | assigning x vin base vehicleId => cases rests
    | _ => trivial
  | promoting x vin item row pipeline same =>
    subst same
    exact ⟨by rw [row]; exact Option.some_ne_none _, pipeline,
      (hrows x item row).of_pipeline pipeline⟩
  | resolving x vin base hlo same => subst hlo same; exact hcopy
  | assigning x vin base vehicleId hlo stock =>
    subst hlo
    refine ⟨?_, hcopy.2⟩
    rw [show sh'.items = sh.items from congrArg StockDb.items stock]
    exact hcopy.1
  | _ => trivial

theorem step_vin (h : step spelling i choice sh lo = some (sh', lo')) (hcopy : PipelineCopy sh lo)
    (hok : choice.isCommit = true → PipelineStill sh lo) : VinStep sh sh' := by
  by_cases hlo : lo.copy = none
  · refine (step_effect h).vinStep hcopy fun x hx => ?_
    cases lo with
    | assigning y vin base vehicleId => cases hlo
    | _ => cases hx
  rcases commit_or_quiet h hlo with hcommit | ⟨hstock, hpublished, -, -⟩
  · exact (step_effect h).vinStep hcopy (hok hcommit)
  · exact .of_items (congrArg StockDb.items hstock) (by rw [hpublished])

end

section Runs

variable [DecidableEq ι]

omit [DecidableEq ι] in
theorem vinGivenOnce_start {items : Table Uuid StockItem}
    (hitems : ∀ x item, items.lookup x = some item → VinRow item) :
    Holds VinGivenOnce (fun _ => PipelineCopy) (start items : Config ι (Shared ι) Local) :=
  ⟨⟨hitems, .nil, nofun⟩, fun _ => trivial⟩

variable {cfg : Config ι (Shared ι) Local}

theorem vinGivenOnce_move {a : ι × Choice} (hgood : Holds VinGivenOnce (fun _ => PipelineCopy) cfg)
    (hok : PromotesPipeline cfg a) :
    Holds VinGivenOnce (fun _ => PipelineCopy) (move (step spelling) cfg a) := by
  refine noninterference
    (fun (_ : ι) (choice : Choice) sh lo => choice.isCommit = true → PipelineStill sh lo)
    ?_ ?_ hgood hok
  · intro i choice sh lo sh' lo' hgood hcopy hok h
    exact ⟨(step_vin h hcopy hok).vinGivenOnce hgood, step_pipelineCopy hgood.rows hcopy h⟩
  · intro i j choice sh lo other sh' lo' _ hgood hcopy hother hok h
    exact (step_vin h hcopy hok).copy hother

/-- A run whose commits meet the rows as they were read meets the condition: a promotion goes on only
with a copy that is in the pipeline. -/
theorem promotesPipeline_of_meetsRead {items : Table Uuid StockItem} {run : List (ι × Choice)}
    (hitems : ∀ x item, items.lookup x = some item → VinRow item)
    (hrun : Run.Along (move (step spelling)) MeetsRead (start items) run) :
    Run.Along (move (step spelling)) PromotesPipeline (start items) run := by
  refine Run.Along.imp_of_invariant (fun _ _ hgood _ hok => vinGivenOnce_move hgood hok)
    (fun cfg a hgood hread hcommit x hx stored hstored => ?_) (vinGivenOnce_start hitems) hrun
  have hcopy := hgood.2 a.1
  have hmeets := hread hcommit
  cases hlo : cfg.locals a.1 with
  | assigning y vin base vehicleId =>
    rw [hlo] at hx hcopy hmeets
    cases hx
    rw [hmeets (x, base) rfl] at hstored
    exact Option.some.inj hstored ▸ hcopy.2.1
  | _ =>
    rw [hlo] at hx
    cases hx

theorem keepsVin_run {run : List (ι × Choice)}
    (hgood : Holds VinGivenOnce (fun _ => PipelineCopy) cfg)
    (hrun : Run.Along (move (step spelling)) PromotesPipeline cfg run) :
    KeepsVin cfg.shared.items (run.foldl (move (step spelling)) cfg).shared.items := by
  induction run generalizing cfg with
  | nil => exact fun x item hitem _ => ⟨item, hitem, rfl, rfl⟩
  | cons a run ih =>
    have hfirst : KeepsVin cfg.shared.items (move (step spelling) cfg a).shared.items := by
      cases h : step spelling a.1 a.2 cfg.shared (cfg.locals a.1) with
      | none =>
        rw [move_none h]
        exact fun x item hitem _ => ⟨item, hitem, rfl, rfl⟩
      | some p =>
        rw [move_some h]
        exact (step_vin h (hgood.2 a.1) hrun.1).keepsVin hgood.1
    have hrest := ih (vinGivenOnce_move hgood hrun.1) hrun.2
    intro x item hitem hvin
    obtain ⟨middle, hmiddle, hvin₁, hvehicle₁⟩ := hfirst x item hitem hvin
    obtain ⟨item', hitem', hvin₂, hvehicle₂⟩ := hrest x middle hmiddle (by rw [hvin₁]; exact hvin)
    exact ⟨item', hitem', hvin₂.trans hvin₁, hvehicle₂.trans hvehicle₁⟩

/-- **A stock item gets its VIN once**, in a run whose promotions meet rows that are
still in the pipeline. -/
theorem vin_given_once (spelling : Spelling) (items : Table Uuid StockItem)
    (run more : List (ι × Choice))
    (hitems : ∀ x item, items.lookup x = some item → VinRow item)
    (hrun : Run.Along (move (step spelling)) PromotesPipeline (start items) (run ++ more)) :
    let before := run.foldl (move (step spelling)) (start items)
    let after := more.foldl (move (step spelling)) before
    VinGivenOnce after.shared ∧ KeepsVin before.shared.items after.shared.items ∧
      ∀ a, RefusalLeaves after.shared (move (step spelling) after a).shared
        (after.locals a.1) := by
  intro before after
  obtain ⟨hbefore, hmore⟩ := Run.Along.append.mp hrun
  have hmove : ∀ (cfg : Config ι (Shared ι) Local) (a : ι × Choice),
      Holds VinGivenOnce (fun _ => PipelineCopy) cfg → PromotesPipeline cfg a →
        Holds VinGivenOnce (fun _ => PipelineCopy) (move (step spelling) cfg a) :=
    fun _ _ hgood hok => vinGivenOnce_move hgood hok
  have hgood : Holds VinGivenOnce (fun _ => PipelineCopy) before :=
    Run.invariant_along hmove (vinGivenOnce_start hitems) hbefore
  refine ⟨(Run.invariant_along hmove hgood hmore).1, keepsVin_run hgood hmore, fun a => ?_⟩
  cases h : step spelling a.1 a.2 after.shared (after.locals a.1) with
  | none =>
    rw [move_none h]
    exact ⟨fun _ _ => rfl, fun _ _ => rfl⟩
  | some p =>
    rw [move_some h]
    exact (step_effect h).refusalLeaves

end Runs

/-! ### Two promotions of one item -/

def ordered : Table Uuid StockItem := (∅ : Table Uuid StockItem).insert 5 { tenantId := 1 }

theorem ordered_vinRow : ∀ x item, ordered.lookup x = some item → VinRow item := by
  intro x item hitem
  rcases Table.lookup_insert_cases hitem with ⟨rfl, rfl⟩ | ⟨-, hold⟩
  · exact ⟨by simp, fun _ => by simp⟩
  · cases hold

def vinText : Spelling := ⟨fun value => value, fun _ => false⟩

def promotion (session : Bool) (vin : String) (vehicleId : Uuid) : List (Bool × Choice) :=
  [(session, .promote 1 5 vin), (session, .look), (session, .resolve vehicleId)]

/-- The second promotion opens after the first one's commit. -/
def promotedTwice : List (Bool × Choice) :=
  promotion false "WVWZZZ1KZAW000001" 70 ++ [(false, .commit 2 0 "")] ++
    promotion true "WVWZZZ1KZAW000002" 71

theorem vin_given_once_promotedTwice :
    let after := promotedTwice.foldl (move (step vinText)) (start ordered)
    VinGivenOnce after.shared ∧
      (after.shared.items.lookup 5).map (fun item => (item.vin, item.vehicleId)) =
        some (some "WVWZZZ1KZAW000001", some 70) := by
  intro after
  have hgood := vin_given_once vinText ordered promotedTwice [] ordered_vinRow (by decide +kernel)
  exact ⟨hgood.1, by decide +kernel⟩

/-- Both have taken their copy when the first one commits. -/
def promotedAtOnce : List (Bool × Choice) :=
  promotion false "WVWZZZ1KZAW000001" 70 ++ promotion true "WVWZZZ1KZAW000002" 71 ++
    [(false, .commit 2 0 ""), (true, .commit 3 0 "")]

/-- Two promotions of one item, with two VINs. -/
theorem vin_given_once_refuted :
    ¬ VinGivenOnce (promotedAtOnce.foldl (move (step vinText)) (start ordered)).shared := by
  intro hgood
  have hevents : (vinEvents (promotedAtOnce.foldl (move (step vinText)) (start ordered)).shared.published).map
      (·.1) = [5, 5] := by decide +kernel
  have honce := hgood.once
  rw [hevents] at honce
  exact absurd honce (by decide)

end Nexotec.Stock
