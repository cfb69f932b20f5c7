/-
VIN and purchase, and the flag that the second of them raises.

`mark_purchased_if_ready` raises `is_invoiceable` when both facts are on the session's
copy. Sales learns of it by `inventory.stock_item.purchased`, and of the contract the
item was ordered for by `inventory.stock_item.added`.
-/
import Nexotec.Inventory.StockEffects
import Nexotec.Sales.PipelineLink

namespace Nexotec.InvoicingGate

open Interleaving RowWrites Stock PipelineLink

variable {ι : Type} {spelling : Spelling} {i j : ι} {sh sh' : Stock.Shared ι}
  {lo lo' : Stock.Local} {x : Uuid}

/-! ### The claim -/

/-- What an item needs to be invoiced. -/
inductive Fact where
  | vin
  | purchase

/-- With this fact the item has both, for the first time. -/
def completes : Fact → StockItem → Bool
  | .vin, item => !item.isInvoiceable && item.purchasePrice.isSome
  | .purchase, item => !item.isInvoiceable && decide (item.lifecycleStatus = .inStock)

def isPurchase : Stock.Request → Bool
  | .purchase .. => true
  | _ => false

/-- The item a session is about to add a fact to, as it has read it. -/
def judged : Stock.Local → Option (Uuid × StockItem × Fact)
  | .editing call base _ =>
    if isPurchase call.request then some (call.stockItemId, base, .purchase) else none
  | .assigning x _ base _ => some (x, base, .vin)
  | _ => none

/-- The copy of item `x` says what the row says. -/
def JudgesAsStored (x : Uuid) (sh : Stock.Shared ι) (lo : Stock.Local) : Prop :=
  ∀ c ∈ judged lo, c.1 = x → ∀ stored ∈ sh.items.lookup x,
    completes c.2.2 c.2.1 = completes c.2.2 stored

instance (sh : Stock.Shared ι) (lo : Stock.Local) : Decidable (JudgesAsStored x sh lo) :=
  inferInstanceAs (Decidable (∀ c ∈ judged lo, c.1 = x → ∀ stored ∈ sh.items.lookup x, _))

def WellJudged (x : Uuid) (cfg : Config ι (Stock.Shared ι) Stock.Local) (a : ι × Stock.Choice) :
    Prop :=
  a.2.isCommit = true → JudgesAsStored x cfg.shared (cfg.locals a.1)

instance (cfg : Config ι (Stock.Shared ι) Stock.Local) (a : ι × Stock.Choice) :
    Decidable (WellJudged x cfg a) :=
  inferInstanceAs (Decidable (_ → _))

theorem copy_of_judged {lo : Stock.Local} {c : Uuid × StockItem × Fact} (h : c ∈ judged lo) :
    (c.1, c.2.1) ∈ lo.copy := by
  unfold judged at h
  split at h
  · split at h <;> cases h
    rfl
  · cases h
    rfl
  · cases h

/-- A commit that meets the row as its session has read it meets the condition. -/
theorem wellJudged_of_meetsRead {cfg : Config ι (Stock.Shared ι) Stock.Local} {a : ι × Stock.Choice}
    (h : Stock.MeetsRead cfg a) : WellJudged x cfg a := by
  rintro hcommit c hc rfl stored hstored
  have hmeets := h hcommit _ (copy_of_judged hc)
  obtain rfl := Option.mem_unique hmeets hstored
  rfl

def Promoted (x : Uuid) (sh : Stock.Shared ι) : Prop :=
  ∃ now vehicleId vin, (x, Change.assignVin now vehicleId vin) ∈ sh.history

def Purchased (x : Uuid) (sh : Stock.Shared ι) : Prop :=
  ∃ now call, (x, Change.edit now call) ∈ sh.history ∧ isPurchase call.request = true

def BothFacts (item : StockItem) : Prop :=
  item.lifecycleStatus = .inStock ∧ item.purchasePrice ≠ none

/-- What both commits have led to. -/
structure Converged (x : Uuid) (sh : Stock.Shared ι) : Prop where
  flag : Promoted x sh → Purchased x sh →
    ∃ item, sh.items.lookup x = some item ∧ item.isInvoiceable = true
  once : Promoted x sh → Purchased x sh → sh.published.count (.purchased x) = 1
  never_before : .purchased x ∈ sh.published →
    ∃ item, sh.items.lookup x = some item ∧ BothFacts item

/-- A pipeline item as it is created. -/
structure FreshPipeline (items : Table Uuid StockItem) (x : Uuid) (first : StockItem) : Prop where
  row : items.lookup x = some first
  pipeline : first.lifecycleStatus = .pipeline
  unpurchased : first.purchasePrice = none
  unraised : first.isInvoiceable = false

/-! ### The flag's invariant -/

/-- The row, the flag and the event agree, and the facts that were committed are there. -/
structure Gate (x : Uuid) (sh : Stock.Shared ι) (item : StockItem) : Prop where
  row : sh.items.lookup x = some item
  flag : item.isInvoiceable = true ↔ BothFacts item
  event : sh.published.count (.purchased x) = if item.isInvoiceable then 1 else 0
  promoted : Promoted x sh → item.lifecycleStatus = .inStock
  purchased : Purchased x sh → item.purchasePrice ≠ none

variable {item : StockItem}

theorem Gate.converged (h : Gate x sh item) : Converged x sh := by
  have hflag : Promoted x sh → Purchased x sh → item.isInvoiceable = true :=
    fun hpromoted hpurchased => h.flag.mpr ⟨h.promoted hpromoted, h.purchased hpurchased⟩
  refine ⟨fun hp hb => ⟨item, h.row, hflag hp hb⟩, fun hp hb => ?_, fun hmem => ?_⟩
  · rw [h.event, if_pos (hflag hp hb)]
  · have hcount := List.count_pos_iff.mpr hmem
    rw [h.event] at hcount
    split at hcount
    · next hraised => exact ⟨item, h.row, h.flag.mp hraised⟩
    · omega

def SameFacts (item item' : StockItem) : Prop :=
  item'.isInvoiceable = item.isInvoiceable ∧ item'.lifecycleStatus = item.lifecycleStatus ∧
    item'.purchasePrice = item.purchasePrice

variable {item' : StockItem}

theorem Gate.same (h : Gate x sh item) (hrow : sh'.items.lookup x = some item')
    (hsame : SameFacts item item')
    (hevents : sh'.published.count (.purchased x) = sh.published.count (.purchased x))
    (hpromoted : Promoted x sh' → Promoted x sh) (hpurchased : Purchased x sh' → Purchased x sh) :
    Gate x sh' item' := by
  obtain ⟨hflag, hstatus, hprice⟩ := hsame
  refine ⟨hrow, ?_, ?_, fun hp => ?_, fun hp => ?_⟩
  · unfold BothFacts
    rw [hflag, hstatus, hprice]
    exact h.flag
  · rw [hevents, hflag]
    exact h.event
  · rw [hstatus]
    exact h.promoted (hpromoted hp)
  · rw [hprice]
    exact h.purchased (hpurchased hp)

variable {raised : Bool}

theorem Gate.raise (h : Gate x sh item) (hrow : sh'.items.lookup x = some item')
    (hflag : item'.isInvoiceable = (item.isInvoiceable || raised))
    (hboth : BothFacts item' ↔ item.isInvoiceable = true ∨ raised = true)
    (hfresh : raised = true → item.isInvoiceable = false)
    (hevents : sh'.published.count (.purchased x) =
      sh.published.count (.purchased x) + if raised then 1 else 0)
    (hpromoted : Promoted x sh' → item'.lifecycleStatus = .inStock)
    (hpurchased : Purchased x sh' → item'.purchasePrice ≠ none) : Gate x sh' item' := by
  refine ⟨hrow, ?_, ?_, hpromoted, hpurchased⟩
  · rw [hflag, hboth, Bool.or_eq_true]
  · rw [hevents, hflag, h.event]
    cases raised with
    | false => simp
    | true => simp [hfresh rfl]

/-! ### What the flushes write -/

variable {now : Time} {base new : StockItem}

theorem perform_facts {actorId : Option Uuid} {request : Stock.Request}
    (h : request.perform now actorId x base = .ok (new, raised)) :
    (isPurchase request = true ∧ raised = completes .purchase base ∧
      new.isInvoiceable = (base.isInvoiceable || raised) ∧ new.purchasePrice ≠ none) ∨
    (isPurchase request = false ∧ raised = false ∧ new.isInvoiceable = base.isInvoiceable ∧
      new.purchasePrice = base.purchasePrice) := by
  cases request with
  | patch data =>
    obtain ⟨row, hrow, heq⟩ := Result.map_eq_ok.mp h
    cases heq
    obtain ⟨vehicleLabel, -, hrow⟩ := Result.of_bind hrow
    obtain ⟨condition, -, hrow⟩ := Result.of_bind hrow
    cases hrow
    exact .inr ⟨rfl, rfl, rfl, rfl⟩
  | condition value =>
    cases h
    exact .inr ⟨rfl, rfl, rfl, rfl⟩
  | purchase data vatRate =>
    obtain ⟨booked, hbooked, heq⟩ := Result.of_bind h
    obtain ⟨hframed, hprice, hflag⟩ := bookPurchase_eq_ok hbooked
    have hnew : (markPurchasedIfReady booked).1 = new := congrArg Prod.fst (Except.ok.inj heq)
    have hraised : (markPurchasedIfReady booked).2 = raised := congrArg Prod.snd (Except.ok.inj heq)
    rw [markPurchasedIfReady_fst, hraised] at hnew
    refine .inl ⟨rfl, ?_, ?_, ?_⟩
    · rw [← hraised, Bool.eq_iff_iff, markPurchasedIfReady_snd, hflag, hframed.lifecycleStatus,
        hprice]
      simp [completes]
    · rw [← hnew, ← hflag]
    · rw [← hnew]
      change booked.purchasePrice ≠ none
      rw [hprice]
      exact Option.some_ne_none _
  | notionalInputTax data =>
    obtain ⟨row, hrow, heq⟩ := Result.map_eq_ok.mp h
    cases heq
    obtain ⟨amount, -, hrow⟩ := Result.of_bind hrow
    cases hrow
    exact .inr ⟨rfl, rfl, rfl, rfl⟩
  | options basePrice list =>
    obtain ⟨row, hrow, heq⟩ := Result.map_eq_ok.mp h
    cases heq
    unfold setOptions at hrow
    split at hrow
    · cases hrow
    · obtain ⟨listPrice, -, hrow⟩ := Result.of_bind hrow
      cases hrow
      exact .inr ⟨rfl, rfl, rfl, rfl⟩

theorem writeEdit_facts (call : Stock.Edit) (base new : StockItem) (read : List StockItemOption)
    (stored : StockItem) : SameFacts (writeItem base new stored) (writeEdit call base new read stored) := by
  unfold writeEdit
  split
  · exact ⟨rfl, rfl, rfl⟩
  · exact ⟨rfl, rfl, rfl⟩

theorem writeItem_flag (stored : StockItem)
    (hnew : new.isInvoiceable = (base.isInvoiceable || raised))
    (hraised : raised = true → base.isInvoiceable = false) :
    (writeItem base new stored).isInvoiceable = (stored.isInvoiceable || raised) := by
  change writeColumn base.isInvoiceable new.isInvoiceable stored.isInvoiceable = _
  rw [hnew]
  cases raised with
  | false =>
    rw [Bool.or_false, Bool.or_false]
    exact if_pos rfl
  | true =>
    rw [hraised rfl]
    simp [writeColumn]

theorem completes_fresh {fact : Fact} (h : completes fact item = true) :
    item.isInvoiceable = false := by
  cases fact with
  | vin => simp only [completes, Bool.and_eq_true, Bool.not_eq_true'] at h; exact h.1
  | purchase => simp only [completes, Bool.and_eq_true, Bool.not_eq_true'] at h; exact h.1

theorem assignVin_facts (now : Time) (vehicleId : Uuid) (vin : String) (base : StockItem) :
    (assignVin now vehicleId vin base).2 = completes .vin base ∧
      (assignVin now vehicleId vin base).1.isInvoiceable =
        (base.isInvoiceable || completes .vin base) ∧
      (assignVin now vehicleId vin base).1.lifecycleStatus = .inStock ∧
      (assignVin now vehicleId vin base).1.purchasePrice = base.purchasePrice := by
  have hraised : (assignVin now vehicleId vin base).2 = completes .vin base := by
    rw [Bool.eq_iff_iff]
    unfold assignVin
    rw [markPurchasedIfReady_snd]
    simp [completes]
  refine ⟨hraised, ?_, ?_, ?_⟩
  · rw [← hraised]
    unfold assignVin
    rw [markPurchasedIfReady_fst]
  · rw [assignVin, markPurchasedIfReady_fst]
  · rw [assignVin, markPurchasedIfReady_fst]

/-! ### One step -/

variable {y : Uuid} {change : Change}

theorem promoted_cons (hhistory : sh'.history = (y, change) :: sh.history)
    (hnot : y ≠ x ∨ ∀ now vehicleId vin, change ≠ .assignVin now vehicleId vin) (h : Promoted x sh') :
    Promoted x sh := by
  obtain ⟨now, vehicleId, vin, hmem⟩ := h
  rw [hhistory] at hmem
  rcases List.mem_cons.mp hmem with heq | hmem
  · obtain ⟨hx, hchange⟩ := Prod.mk.inj heq
    rcases hnot with hne | hne
    · exact absurd hx.symm hne
    · exact absurd hchange.symm (hne now vehicleId vin)
  · exact ⟨now, vehicleId, vin, hmem⟩

theorem purchased_cons (hhistory : sh'.history = (y, change) :: sh.history)
    (hnot : y ≠ x ∨ ∀ now call, change = .edit now call → isPurchase call.request = false)
    (h : Purchased x sh') : Purchased x sh := by
  obtain ⟨now, call, hmem, hpurchase⟩ := h
  rw [hhistory] at hmem
  rcases List.mem_cons.mp hmem with heq | hmem
  · obtain ⟨hx, hchange⟩ := Prod.mk.inj heq
    rcases hnot with hne | hne
    · exact absurd hx.symm hne
    · rw [hne now call hchange.symm] at hpurchase
      cases hpurchase
  · exact ⟨now, call, hmem, hpurchase⟩

theorem Gate.other (h : Gate x sh item) (hy : y ≠ x) (hrow : sh'.items.lookup x = sh.items.lookup x)
    (hevents : sh'.published.count (.purchased x) = sh.published.count (.purchased x))
    (hhistory : sh'.history = (y, change) :: sh.history) : Gate x sh' item :=
  h.same (hrow.trans h.row) ⟨rfl, rfl, rfl⟩ hevents (promoted_cons hhistory (.inl hy))
    (purchased_cons hhistory (.inl hy))

variable {f : StockItem → StockItem}

theorem Gate.aside (h : Gate x sh item) (hitems : sh'.items = sh.items.modify x f)
    (hf : SameFacts item (f item)) (hpublished : sh'.published = sh.published)
    (hhistory : sh'.history = (x, change) :: sh.history)
    (hnot : ∀ now vehicleId vin, change ≠ .assignVin now vehicleId vin)
    (hnot' : ∀ now call, change ≠ .edit now call) : Gate x sh' (f item) := by
  refine h.same ?_ hf (by rw [hpublished]) (promoted_cons hhistory (.inr hnot))
    (purchased_cons hhistory (.inr fun now call heq => absurd heq (hnot' now call)))
  rw [hitems, Table.lookup_modify, if_pos rfl, h.row, Option.map_some]

theorem count_publishPurchased (y : Uuid) (raised : Bool) (sh : Stock.Shared ι) :
    (sh.publishPurchased y raised).published.count (.purchased x) =
      sh.published.count (.purchased x) + if y = x ∧ raised = true then 1 else 0 := by
  unfold Stock.Shared.publishPurchased
  split
  · next hraised =>
    rw [List.count_cons]
    by_cases hy : y = x
    · simp [hy, hraised]
    · simp [hy]
  · next hraised => simp [hraised]

theorem Gate.assigned {vehicleId : Uuid} {vin : String} (h : Gate x sh item)
    (hpipeline : base.lifecycleStatus = .pipeline)
    (hjudged : completes .vin base = completes .vin item)
    (hitems : sh'.items = sh.items.modify x (writeItem base (assignVin now vehicleId vin base).1))
    (hhistory : sh'.history = (x, .assignVin now vehicleId vin) :: sh.history)
    (hpublished : sh'.published = (if (assignVin now vehicleId vin base).2 then [.purchased x] else [])
      ++ .vinAssigned x vin vehicleId :: sh.published) :
    Gate x sh' (writeItem base (assignVin now vehicleId vin base).1 item) ∧
      (writeItem base (assignVin now vehicleId vin base).1 item).purchasePrice =
        item.purchasePrice := by
  obtain ⟨hraised, hnew, hstatus, hprice⟩ := assignVin_facts now vehicleId vin base
  have hflag := writeItem_flag item hnew completes_fresh
  have hinStock : (writeItem base (assignVin now vehicleId vin base).1 item).lifecycleStatus =
      .inStock := by
    change writeColumn base.lifecycleStatus _ item.lifecycleStatus = .inStock
    rw [hstatus, hpipeline]
    rfl
  have hkept : (writeItem base (assignVin now vehicleId vin base).1 item).purchasePrice =
      item.purchasePrice := if_pos hprice
  refine ⟨h.raise ?_ hflag ?_ ?_ ?_ (fun _ => hinStock) (fun hp => ?_), hkept⟩
  · rw [hitems, Table.lookup_modify, if_pos rfl, h.row, Option.map_some]
  · -- the VIN is there now, so the price decides
    rw [BothFacts, hinStock, hkept, hjudged]
    constructor
    · rintro ⟨-, hpriced⟩
      cases hitem : item.isInvoiceable with
      | true => exact .inl rfl
      | false => exact .inr (by simp [completes, hitem, Option.isSome_iff_ne_none, hpriced])
    · rintro (hraised | hcompletes)
      · exact ⟨rfl, (h.flag.mp hraised).2⟩
      · simp only [completes, Bool.and_eq_true, Option.isSome_iff_ne_none] at hcompletes
        exact ⟨rfl, hcompletes.2⟩
  · intro hcompletes
    rw [hjudged] at hcompletes
    exact completes_fresh hcompletes
  · rw [hpublished, hraised]
    cases completes .vin base with
    | true => simp
    | false => simp
  · rw [hkept]
    exact h.purchased (purchased_cons hhistory (.inr fun _ _ heq => by cases heq) hp)

/-- What a session has read of the item: a price that the row has too, or the status
that lets it be promoted. -/
def Remembers (x : Uuid) (sh : Stock.Shared ι) : Stock.Local → Prop
  | .editing call base _ => call.stockItemId = x → base.purchasePrice ≠ none →
      ∀ stored ∈ sh.items.lookup x, stored.purchasePrice ≠ none
  | .promoting y _ base | .resolving y _ base | .assigning y _ base _ =>
      y = x → base.lifecycleStatus = .pipeline
  | _ => True

theorem Gate.edited {call : Stock.Edit} {read : List StockItemOption} (h : Gate x sh item)
    (hperform : call.request.perform now call.actorId call.stockItemId base = .ok (new, raised))
    (hremembers : base.purchasePrice ≠ none → item.purchasePrice ≠ none)
    (hjudged : isPurchase call.request = true → completes .purchase base = completes .purchase item)
    (hitems : sh'.items = sh.items.modify x (writeEdit call base new read))
    (hhistory : sh'.history = (x, .edit now call) :: sh.history)
    (hevents : sh'.published.count (.purchased x) =
      sh.published.count (.purchased x) + if raised then 1 else 0) :
    Gate x sh' (writeEdit call base new read item) ∧ (item.purchasePrice ≠ none →
      (writeEdit call base new read item).purchasePrice ≠ none) := by
  have hframed := perform_framed hperform
  obtain ⟨hsameFlag, hsameStatus, hsamePrice⟩ := writeEdit_facts call base new read item
  have hrow : sh'.items.lookup x = some (writeEdit call base new read item) := by
    rw [hitems, Table.lookup_modify, if_pos rfl, h.row, Option.map_some]
  have hstatus : (writeEdit call base new read item).lifecycleStatus = item.lifecycleStatus := by
    rw [hsameStatus]
    exact if_pos hframed.lifecycleStatus
  have hpromoted : Promoted x sh' → Promoted x sh :=
    promoted_cons hhistory (.inr nofun)
  rcases perform_facts hperform with ⟨hpurchase, hraised, hnew, hpriced⟩ |
    ⟨hpurchase, hraised, hnew, hprice⟩
  · have hprice : (writeEdit call base new read item).purchasePrice ≠ none := by
      rw [hsamePrice]
      change writeColumn base.purchasePrice new.purchasePrice item.purchasePrice ≠ none
      unfold writeColumn
      split
      · next heq => exact hremembers (by rw [← heq]; exact hpriced)
      · exact hpriced
    have hfresh : raised = true → base.isInvoiceable = false := by
      rw [hraised]
      exact completes_fresh
    have hdecides : raised = completes .purchase item := hraised.trans (hjudged hpurchase)
    refine ⟨h.raise hrow (hsameFlag.trans (writeItem_flag item hnew hfresh)) ?_ ?_ hevents
      (fun hp => hstatus.trans (h.promoted (hpromoted hp))) (fun _ => hprice), fun _ => hprice⟩
    · -- the price is there now, so the status decides
      rw [BothFacts, hstatus, hdecides]
      constructor
      · rintro ⟨hinStock, -⟩
        cases hitem : item.isInvoiceable with
        | true => exact .inl rfl
        | false => exact .inr (by simp [completes, hitem, hinStock])
      · rintro (hflag | hcompletes)
        · exact ⟨(h.flag.mp hflag).1, hprice⟩
        · simp only [completes, Bool.and_eq_true, decide_eq_true_eq] at hcompletes
          exact ⟨hcompletes.2, hprice⟩
    · intro htrue
      rw [hdecides] at htrue
      exact completes_fresh htrue
  · have hkept : (writeEdit call base new read item).purchasePrice = item.purchasePrice :=
      hsamePrice.trans (if_pos hprice)
    have hflag : (writeEdit call base new read item).isInvoiceable = item.isInvoiceable :=
      hsameFlag.trans (if_pos hnew)
    refine ⟨h.same hrow ⟨hflag, hstatus, hkept⟩ ?_ hpromoted (purchased_cons hhistory (.inr ?_)),
      fun hpriced => by rw [hkept]; exact hpriced⟩
    · rw [hevents, hraised]
      rfl
    · rintro now' call' heq
      cases heq
      exact hpurchase

section

variable [DecidableEq ι]

theorem effect_gate (h : Stock.Effect i sh sh' lo) (hgate : Gate x sh item)
    (hremembers : Remembers x sh lo) (hjudges : JudgesAsStored x sh lo) :
    ∃ item', Gate x sh' item' ∧ (item.purchasePrice ≠ none → item'.purchasePrice ≠ none) := by
  -- a write on another item leaves the row of `x`
  have hother : ∀ {y : Uuid} {f : StockItem → StockItem}, y ≠ x →
      sh'.items = sh.items.modify y f → sh'.items.lookup x = sh.items.lookup x := by
    intro y f hy hitems
    rw [hitems, Table.lookup_modify_ne (Ne.symm hy)]
  cases h with
  | quiet stock published history answers =>
    refine ⟨item, hgate.same ?_ ⟨rfl, rfl, rfl⟩ (by rw [published]) (fun h => ?_) (fun h => ?_), id⟩
    · rw [show sh'.items = sh.items from congrArg StockDb.items stock]
      exact hgate.row
    · unfold Promoted at h ⊢
      rw [← history]
      exact h
    · unfold Purchased at h ⊢
      rw [← history]
      exact h
  | edited now call base new read raised hlo hperform hfree result =>
    subst hlo
    generalize hafter : ((sh.withItems (sh.items.modify call.stockItemId
      (writeEdit call base new read))).record
      call.stockItemId (.edit now call)).answer call .committed = after at result
    obtain ⟨hstock, hhistory, -, -⟩ := publishPurchased_same call.stockItemId raised after
    have hevents := count_publishPurchased (x := x) call.stockItemId raised after
    subst hafter
    rw [← result] at hstock hhistory hevents
    have hevents : sh'.published.count (.purchased x) = sh.published.count (.purchased x) +
      if call.stockItemId = x ∧ raised = true then 1 else 0 := hevents
    have hitems : sh'.items = sh.items.modify call.stockItemId (writeEdit call base new read) :=
      congrArg StockDb.items hstock
    by_cases hx : call.stockItemId = x
    · -- the copy judged is the row: the flag goes up once
      obtain ⟨hgate', hprice⟩ := hgate.edited hperform
        (fun hpriced => hremembers hx hpriced item hgate.row)
        (fun hpurchase => hjudges (call.stockItemId, base, .purchase)
          (by rw [judged, if_pos hpurchase]; rfl) hx item hgate.row)
        (hx ▸ hitems) (hx ▸ hhistory) (by simpa [hx] using hevents)
      exact ⟨_, hgate', hprice⟩
    · refine ⟨item, hgate.other hx (hother hx hitems) ?_ hhistory, id⟩
      rw [hevents, if_neg fun h => hx h.1]
      rfl
  | assigned now y vin base vehicleId hlo hfree index hitems hhistory hpublished answers =>
    subst hlo
    by_cases hx : y = x
    · subst hx
      obtain ⟨hgate', hprice⟩ := hgate.assigned (hremembers rfl)
        (hjudges (y, base, .vin) rfl rfl item hgate.row) hitems hhistory hpublished
      exact ⟨_, hgate', fun hpriced => by rw [hprice]; exact hpriced⟩
    · refine ⟨item, hgate.other hx (hother hx hitems) ?_ hhistory, id⟩
      rw [hpublished]
      split
      · simp [hx]
      · simp
  | created now y stockNumber data vehicle hlo index fresh result =>
    subst result
    have hne : x ≠ y := by
      intro heq
      rw [heq] at hgate
      rw [hgate.row] at fresh
      cases fresh
    refine ⟨item, hgate.same ?_ ⟨rfl, rfl, rfl⟩ rfl id id, id⟩
    change (sh.items.insert y _).lookup x = some item
    rw [Table.lookup_insert_iff, if_neg hne]
    exact hgate.row
  | sold now y base hlo hfree result =>
    subst result
    by_cases hx : y = x
    · subst hx
      refine ⟨_, hgate.aside rfl ?_ rfl rfl (fun _ _ _ => nofun) (fun _ _ => nofun), ?_⟩
      · exact ⟨if_pos rfl, if_pos rfl, if_pos rfl⟩
      · intro hpriced
        rw [show (writeItem base (sellItem now base) item).purchasePrice = item.purchasePrice from
          if_pos rfl]
        exact hpriced
    · exact ⟨item, hgate.other hx (hother hx rfl) rfl rfl, id⟩
  | reserved now newId call row cached records hlo stays unreserved result =>
    subst result
    by_cases hx : call.stockItemId = x
    · subst hx
      exact ⟨_, hgate.aside rfl ⟨rfl, rfl, rfl⟩ rfl rfl (fun _ _ _ => nofun) (fun _ _ => nofun), id⟩
    · exact ⟨item, hgate.other hx (hother hx rfl) rfl rfl, id⟩
  | released now call y back records hlo result =>
    subst result
    by_cases hx : y = x
    · subst hx
      exact ⟨_, hgate.aside rfl ⟨rfl, rfl, rfl⟩ rfl rfl (fun _ _ _ => nofun) (fun _ _ => nofun), id⟩
    · exact ⟨item, hgate.other hx (hother hx rfl) rfl rfl, id⟩

end

theorem Remembers.step (h : Remembers x sh lo) (hrow : sh.items.lookup x = some item)
    (hrow' : sh'.items.lookup x = some item')
    (hprice : item.purchasePrice ≠ none → item'.purchasePrice ≠ none) : Remembers x sh' lo := by
  cases lo with
  | editing call base read =>
    intro hx hpriced stored hstored
    rw [hrow'] at hstored
    cases hstored
    exact hprice (h hx hpriced item hrow)
  | promoting y vin base => exact h
  | resolving y vin base => exact h
  | assigning y vin base vehicleId => exact h
  | _ => trivial

section

variable [DecidableEq ι] {choice : Stock.Choice}

theorem step_remembers (hremembers : Remembers x sh lo)
    (h : Stock.step spelling i choice sh lo = some (sh', lo')) : Remembers x sh' lo' := by
  cases step_turn h with
  | rest lo' rests =>
    cases lo' with
    | editing call base read => cases rests
    | promoting y vin base => cases rests
    | resolving y vin base => cases rests
    | assigning y vin base vehicleId => cases rests
    | _ => trivial
  | editing call item row matched same =>
    subst same
    rintro rfl hpriced stored hstored
    rw [row] at hstored
    cases hstored
    exact hpriced
  | rereading call base read hlo same => subst hlo same; exact hremembers
  | promoting y vin item row pipeline same => exact fun _ => pipeline
  | resolving y vin base hlo same => subst hlo same; exact hremembers
  | assigning y vin base vehicleId hlo stock => subst hlo; exact hremembers
  | _ => trivial

theorem step_gate (h : Stock.step spelling i choice sh lo = some (sh', lo'))
    (hgate : Gate x sh item) (hremembers : Remembers x sh lo)
    (hok : choice.isCommit = true → JudgesAsStored x sh lo) :
    ∃ item', Gate x sh' item' ∧ (item.purchasePrice ≠ none → item'.purchasePrice ≠ none) := by
  by_cases hcopy : lo.copy = none
  · refine effect_gate (step_effect h) hgate hremembers fun c hc => ?_
    cases lo with
    | editing call base read => cases hcopy
    | assigning y vin base vehicleId => cases hcopy
    | _ => cases hc
  rcases commit_or_quiet h hcopy with hcommit | ⟨hstock, hpublished, hhistory, hanswers⟩
  · exact effect_gate (step_effect h) hgate hremembers (hok hcommit)
  · -- nothing was written, so there is nothing to judge
    have hquiet : Stock.Effect i sh sh' Stock.Local.idle :=
      .same hstock hpublished hhistory hanswers
    exact effect_gate hquiet hgate trivial fun c hc => by cases hc

end

variable {items : Table Uuid StockItem}

theorem gate_start {first : StockItem} (hfirst : FreshPipeline items x first) :
    Holds (fun sh => ∃ item, Gate x sh item) (fun _ => Remembers x)
      (Stock.start items : Config ι (Stock.Shared ι) Stock.Local) := by
  refine ⟨⟨first, hfirst.row, ?_, ?_, ?_, ?_⟩, fun _ => trivial⟩
  · simp [BothFacts, hfirst.unraised, hfirst.pipeline]
  · rw [hfirst.unraised]
    rfl
  · rintro ⟨now, vehicleId, vin, hmem⟩
    cases hmem
  · rintro ⟨now, call, hmem, -⟩
    cases hmem

section

variable [DecidableEq ι]

theorem gate_move {cfg : Config ι (Stock.Shared ι) Stock.Local} {a : ι × Stock.Choice}
    (hgate : Holds (fun sh => ∃ item, Gate x sh item) (fun _ => Remembers x) cfg)
    (hok : WellJudged x cfg a) : Holds (fun sh => ∃ item, Gate x sh item) (fun _ => Remembers x)
      (move (Stock.step spelling) cfg a) := by
  refine noninterference
    (fun (_ : ι) (choice : Stock.Choice) sh lo => choice.isCommit = true → JudgesAsStored x sh lo)
    ?_ ?_ hgate hok
  · rintro i choice sh lo sh' lo' ⟨item, hgate⟩ hremembers hok h
    obtain ⟨item', hgate', -⟩ := step_gate h hgate hremembers hok
    exact ⟨⟨item', hgate'⟩, step_remembers hremembers h⟩
  · rintro i j choice sh lo other sh' lo' - ⟨item, hgate⟩ hremembers hother hok h
    obtain ⟨item', hgate', hprice⟩ := step_gate h hgate hremembers hok
    exact hother.step hgate.row hgate'.row hprice

end

/-! ### Which item was ordered -/

def SameOrigin (item item' : StockItem) : Prop :=
  item'.tenantId = item.tenantId ∧ item'.pipelineRef = item.pipelineRef

/-- The rows after a step: the ones before, of the same origin, or one that was created
for nobody. -/
def KeepsOrigin (items items' : Table Uuid StockItem) : Prop :=
  (∀ y item, items.lookup y = some item →
    ∃ item', items'.lookup y = some item' ∧ SameOrigin item item') ∧
  ∀ y item', items'.lookup y = some item' → item'.pipelineRef = none ∨
    ∃ item, items.lookup y = some item ∧ SameOrigin item item'

theorem keepsOrigin_modify (items : Table Uuid StockItem) (y : Uuid)
    (hf : ∀ item, SameOrigin item (f item)) : KeepsOrigin items (items.modify y f) := by
  constructor
  · intro z item hitem
    rw [Table.lookup_modify]
    split
    · exact ⟨f item, by rw [hitem, Option.map_some], hf item⟩
    · exact ⟨item, hitem, rfl, rfl⟩
  · intro z item' hitem'
    rw [Table.lookup_modify] at hitem'
    split at hitem'
    · obtain ⟨item, hitem, rfl⟩ := Option.map_eq_some_iff.mp hitem'
      exact .inr ⟨item, hitem, hf item⟩
    · exact .inr ⟨item', hitem', rfl, rfl⟩

theorem writeItem_origin (h : SameOrigin base new) (stored : StockItem) :
    SameOrigin stored (writeItem base new stored) :=
  ⟨if_pos h.1, if_pos h.2⟩

theorem pipelineItemOf_keeps {items' : Table Uuid StockItem} {tenantId contractId : Uuid}
    (h : PipelineItemOf items tenantId contractId x) (hkeeps : KeepsOrigin items items') :
    PipelineItemOf items' tenantId contractId x := by
  constructor
  · obtain ⟨item, hitem, htenant, href⟩ := h.item
    obtain ⟨item', hitem', hsame⟩ := hkeeps.1 x item hitem
    exact ⟨item', hitem', hsame.1.trans htenant, hsame.2.trans href⟩
  · intro y item' hitem' htenant href
    rcases hkeeps.2 y item' hitem' with hnone | ⟨item, hitem, hsame⟩
    · rw [hnone] at href
      cases href
    · exact h.only y item hitem (hsame.1.symm.trans htenant) (hsame.2.symm.trans href)

theorem effect_origin [DecidableEq ι] (h : Stock.Effect i sh sh' lo) :
    KeepsOrigin sh.items sh'.items := by
  cases h with
  | quiet stock published history answers =>
    rw [show sh'.items = sh.items from congrArg StockDb.items stock]
    exact ⟨fun y item hitem => ⟨item, hitem, rfl, rfl⟩,
      fun y item' hitem' => .inr ⟨item', hitem', rfl, rfl⟩⟩
  | edited now call base new read raised hlo hperform hfree result =>
    have hitems : sh'.items = sh.items.modify call.stockItemId (writeEdit call base new read) := by
      rw [result]
      exact congrArg StockDb.items (publishPurchased_same _ _ _).1
    have hframed := perform_framed hperform
    rw [hitems]
    refine keepsOrigin_modify _ _ fun item => ?_
    unfold writeEdit
    split
    · exact writeItem_origin ⟨hframed.tenantId, hframed.pipelineRef⟩ item
    · exact writeItem_origin ⟨hframed.tenantId, hframed.pipelineRef⟩ item
  | assigned now y vin base vehicleId hlo hfree index hitems hhistory hpublished answers =>
    rw [hitems]
    refine keepsOrigin_modify _ _ fun item => writeItem_origin ⟨?_, ?_⟩ item
    · rw [assignVin, markPurchasedIfReady_fst]
    · rw [assignVin, markPurchasedIfReady_fst]
  | created now y stockNumber data vehicle hlo index fresh result =>
    subst result
    constructor
    · intro z item hitem
      have hne : z ≠ y := by
        intro heq
        rw [heq, fresh] at hitem
        cases hitem
      refine ⟨item, ?_, rfl, rfl⟩
      change (sh.items.insert y _).lookup z = some item
      rw [Table.lookup_insert_iff, if_neg hne]
      exact hitem
    · intro z item' hitem'
      rcases Table.lookup_insert_cases hitem' with ⟨rfl, rfl⟩ | ⟨-, hold⟩
      · exact .inl rfl
      · exact .inr ⟨item', hold, rfl, rfl⟩
  | sold now y base hlo hfree result =>
    subst result
    exact keepsOrigin_modify _ _ fun item => writeItem_origin ⟨rfl, rfl⟩ item
  | reserved now newId call row cached records hlo stays unreserved result =>
    subst result
    exact keepsOrigin_modify _ _ fun item => ⟨rfl, rfl⟩
  | released now call y back records hlo result =>
    subst result
    exact keepsOrigin_modify _ _ fun item => ⟨rfl, rfl⟩

section

variable [DecidableEq ι]

theorem pipelineItemOf_run {tenantId contractId : Uuid}
    (h : PipelineItemOf items tenantId contractId x) (run : List (ι × Stock.Choice)) :
    PipelineItemOf (run.foldl (move (Stock.step spelling)) (Stock.start items)).shared.items tenantId
      contractId x := by
  have hmove : ∀ (cfg : Config ι (Stock.Shared ι) Stock.Local) (a : ι × Stock.Choice),
      PipelineItemOf cfg.shared.items tenantId contractId x →
        PipelineItemOf (move (Stock.step spelling) cfg a).shared.items tenantId contractId x := by
    intro cfg a hcfg
    cases hstep : Stock.step spelling a.1 a.2 cfg.shared (cfg.locals a.1) with
    | none =>
      rw [move_none hstep]
      exact hcfg
    | some p =>
      rw [move_some hstep]
      exact pipelineItemOf_keeps hcfg (effect_origin (step_effect hstep))
  have hstart : PipelineItemOf (Stock.start items : Config ι (Stock.Shared ι) Stock.Local).shared.items
      tenantId contractId x := h
  exact Run.invariant hmove hstart run

/-- **VIN and purchase converge** on a pipeline item, in a run in which each of them is
judged as the stored row would have it; and at Sales, in whatever order the events
arrive there. -/
theorem vin_and_purchase_converge (spelling : Spelling) (items : Table Uuid StockItem) (x : Uuid)
    (first : StockItem) (run : List (ι × Stock.Choice)) (hfirst : FreshPipeline items x first)
    (hrun : Run.Along (move (Stock.step spelling)) (WellJudged x) (Stock.start items) run) :
    let sh := (run.foldl (move (Stock.step spelling)) (Stock.start items)).shared
    Converged x sh ∧ (Promoted x sh → Purchased x sh → ∀ contractId,
      PipelineItemOf items first.tenantId contractId x →
      ∀ (s : VehicleContainer.State) (deliveries : List Message) (refreshedAt : Time),
        s.stock = sh.stock → Linkable first.tenantId contractId x s →
        .added x refreshedAt ∈ deliveries →
        (∀ y item, .purchased y ∈ sh.published → sh.items.lookup y = some item →
          .purchased item.tenantId y ∈ deliveries) →
        Invoiceable contractId (deliveries.foldl deliver s)) := by
  intro sh
  have hmove : ∀ (cfg : Config ι (Stock.Shared ι) Stock.Local) (a : ι × Stock.Choice),
      Holds (fun sh => ∃ item, Gate x sh item) (fun _ => Remembers x) cfg → WellJudged x cfg a →
        Holds (fun sh => ∃ item, Gate x sh item) (fun _ => Remembers x)
          (move (Stock.step spelling) cfg a) := fun _ _ hgate hok => gate_move hgate hok
  obtain ⟨⟨item, hgate⟩, -⟩ := Run.invariant_along hmove (gate_start hfirst) hrun
  have hconverged : Converged x sh := hgate.converged
  refine ⟨hconverged, ?_⟩
  intro hpromoted hpurchased contractId hordered s deliveries refreshedAt hstock hlinkable hadded hall
  have hordered' : PipelineItemOf sh.stock.items first.tenantId contractId x :=
    pipelineItemOf_run hordered run
  have hpublished : .purchased x ∈ sh.published := by
    rw [← List.count_pos_iff, hconverged.once hpromoted hpurchased]
    exact Nat.one_pos
  obtain ⟨row, hrow, htenant, -⟩ := hordered'.item
  have hdelivered := hall x row hpublished hrow
  rw [htenant] at hdelivered
  exact deliveries_converge hordered' hstock hlinkable hadded hdelivered

end

/-! ### A car ordered for a contract -/

def orderedCar : StockItem := { tenantId := 1, pipelineRef := some ⟨9, .manual⟩ }

def onOrder : Table Uuid StockItem := (∅ : Table Uuid StockItem).insert 5 orderedCar

theorem onOrder_fresh : FreshPipeline onOrder 5 orderedCar := ⟨rfl, rfl, rfl, rfl⟩

theorem onOrder_only : PipelineItemOf onOrder 1 9 5 := by
  refine ⟨⟨orderedCar, rfl, rfl, rfl⟩, fun y item hitem _ _ => ?_⟩
  rcases Table.lookup_insert_cases hitem with ⟨rfl, -⟩ | ⟨-, hold⟩
  · rfl
  · cases hold

def vinText : Spelling := ⟨fun value => value, fun _ => false⟩

def invoice : RecordPurchaseRequest where
  supplierName := "AMAG"
  supplierIsVatRegistered := true
  purchasePrice := 20000
  purchaseDate := 0

def booking : Stock.Edit := ⟨1, 5, 1, .purchase invoice none, none⟩

def vinArrives (session : Bool) : List (Bool × Stock.Choice) :=
  [(session, .promote 1 5 "WVWZZZ1KZAW000001"), (session, .look), (session, .resolve 70)]

def bookedFirst : List (Bool × Stock.Choice) :=
  [(false, .edit booking), (false, .commit 2 0 "")] ++ vinArrives true ++ [(true, .commit 3 0 "")]

def manualContract : SalesContract where
  tenantId := 1
  contractNumber := "C-9"
  vehicleSource := some .manual

def stockAfter : Stock.Shared Bool :=
  (bookedFirst.foldl (move (Stock.step vinText)) (Stock.start onOrder)).shared

def atSales : VehicleContainer.State where
  sales := { contracts := (∅ : Table Uuid SalesContract).insert 9 manualContract }
  stock := stockAfter.stock

theorem vin_and_purchase_converge_bookedFirst :
    Converged 5 stockAfter ∧ stockAfter.published.count (.purchased 5) = 1 ∧
      Invoiceable 9 ([Message.purchased 1 5, .added 5 4, .purchased 1 5].foldl deliver atSales) := by
  obtain ⟨hconverged, hsales⟩ := vin_and_purchase_converge vinText onOrder 5 orderedCar bookedFirst
    onOrder_fresh (by decide +kernel)
  have hhistory : stockAfter.history =
      [(5, .assignVin 3 70 "WVWZZZ1KZAW000001"), (5, .edit 2 booking)] := by rfl
  have hpromoted : Promoted 5 stockAfter := ⟨3, 70, "WVWZZZ1KZAW000001", by simp [hhistory]⟩
  have hpurchased : Purchased 5 stockAfter := ⟨2, booking, by simp [hhistory], rfl⟩
  refine ⟨hconverged, hconverged.once hpromoted hpurchased, ?_⟩
  refine hsales hpromoted hpurchased 9 onOrder_only atSales _ 4 rfl ?_ (by simp) ?_
  · exact ⟨manualContract, rfl, rfl, rfl, .inl rfl⟩
  · intro y item hevent hitem
    have hpublished : stockAfter.published =
        [.purchased 5, .vinAssigned 5 "WVWZZZ1KZAW000001" 70] := by decide +kernel
    have htenant : (stockAfter.items.lookup 5).map (·.tenantId) = some 1 := by decide +kernel
    have hevent : (.purchased y : StockEvent) ∈ stockAfter.published := hevent
    rw [hpublished] at hevent
    have hy : y = 5 := by simpa using hevent
    have hitem : stockAfter.items.lookup y = some item := hitem
    rw [hy] at hitem
    rw [hitem, Option.map_some] at htenant
    rw [hy, Option.some.inj htenant]
    exact List.mem_cons_self

def atOnce : List (Bool × Stock.Choice) :=
  [(false, .edit booking)] ++ vinArrives true ++ [(false, .commit 2 0 ""), (true, .commit 3 0 "")]

/-- The VIN and the purchase that do not see each other. -/
theorem vin_and_purchase_refuted :
    ¬ Converged 5 (atOnce.foldl (move (Stock.step vinText)) (Stock.start onOrder)).shared := by
  intro hconverged
  have hhistory : (atOnce.foldl (move (Stock.step vinText)) (Stock.start onOrder)).shared.history =
      [(5, .assignVin 3 70 "WVWZZZ1KZAW000001"), (5, .edit 2 booking)] := by rfl
  have honce := hconverged.once ⟨3, 70, "WVWZZZ1KZAW000001", by simp [hhistory]⟩
    ⟨2, booking, by simp [hhistory], rfl⟩
  have hnever : (atOnce.foldl (move (Stock.step vinText))
      (Stock.start onOrder)).shared.published.count (.purchased 5) = 0 := by decide +kernel
  rw [hnever] at honce
  cases honce

end Nexotec.InvoicingGate
