/-
What one step of a delivery commits.

`Effect` lists it: nothing, a confirmation's rows, a cancellation's releases,
an item released by hand, or one reserved for another contract.
`step_commits` reads it off the step function, with the locks, once; whatever
holds after every step is then a matter of five cases.

The items after a confirmation are those of before and the inserted ones, up
to the valuation (`inserts_of_confirm`).
-/
import Nexotec.Inventory.Delivery

namespace Nexotec.Delivery

open Interleaving

variable {ι : Type} {ev : Events}

/-! ### What a step does to the committed tables -/

/-- The worker's step from `sh` at `lo` commits nothing, or one of four things. -/
inductive Effect (ev : Events) (sh sh' : Shared ι) : Local → Prop
  | same (lo : Local) : sh'.stock = sh.stock → sh'.processed = sh.processed →
      sh'.releasedByHand = sh.releasedByHand → Effect ev sh sh' lo
  | confirm (id : Uuid) (ordered tradedIn : Option NewItem)
      (valued : Option (Uuid × Uuid × Decimal)) (middle items : Table Uuid StockItem) :
      taken sh.stock.items ordered = false → taken sh.stock.items tradedIn = false →
      insertNew sh.stock.items ordered = .ok middle → insertNew middle tradedIn = .ok items →
      sh'.stock = { sh.stock with items := setValuation valued items } →
      sh'.processed = id :: sh.processed → sh'.releasedByHand = sh.releasedByHand →
      Effect ev sh sh' (.finishing id ordered tradedIn valued)
  | cancel (now : Time) (id : Uuid) (rows : List Uuid) :
      sh'.stock = cancelStock ev now id rows sh.stock →
      sh'.processed = id :: sh.processed → sh'.releasedByHand = sh.releasedByHand →
      Effect ev sh sh' (.releasing id rows)
  | release (now : Time) (x : Uuid) : sh.itemLock x = none →
      sh'.stock = { sh.stock with items := sh.stock.items.modify x (releaseAndFlush now) } →
      sh'.processed = sh.processed → sh'.releasedByHand = x :: sh.releasedByHand →
      Effect ev sh sh' .idle
  | reserve (now : Time) (x c r : Uuid) (item : StockItem) : sh.itemLock x = none →
      sh.stock.items.lookup x = some item → item.reservationState ≠ .reserved →
      item.pipelineRef ≠ some ⟨c, .manual⟩ →
      sh'.stock = { sh.stock with items := sh.stock.items.modify x (reserveAndFlush now c r) } →
      sh'.processed = sh.processed → sh'.releasedByHand = sh.releasedByHand →
      Effect ev sh sh' .idle

def KeepsLocks (i : ι) (sh sh' : Shared ι) : Prop :=
  ∀ j, j ≠ i → (∀ c, sh.contractLock c = some j → sh'.contractLock c = some j) ∧
    ∀ x, sh.itemLock x = some j → sh'.itemLock x = some j

theorem KeepsLocks.refl (i : ι) (sh : Shared ι) : KeepsLocks i sh sh :=
  fun _ _ => ⟨fun _ h => h, fun _ h => h⟩

variable {i : ι} {sh : Shared ι}

theorem keepsLocks_of_free {c : Uuid} (h : sh.contractLock c = none) :
    KeepsLocks i sh { sh with contractLock := Function.update sh.contractLock c (some i) } := by
  intro j _
  refine ⟨fun c' hc' => ?_, fun x hx => hx⟩
  have hne : c' ≠ c := by
    intro heq
    rw [heq, h] at hc'
    cases hc'
  simpa only [Function.update_of_ne hne] using hc'

/-- What worker `i` may commit, from `lo` on. -/
def Commits (ev : Events) (i : ι) (sh sh' : Shared ι) (lo : Local) : Prop :=
  Effect ev sh sh' lo ∧ KeepsLocks i sh sh'

theorem Commits.refl (i : ι) (sh : Shared ι) (lo : Local) : Commits ev i sh sh lo :=
  ⟨.same lo rfl rfl rfl, .refl i sh⟩

variable {sh' : Shared ι}

theorem takeLock_commits {id : Uuid} {lo lo' : Local} (h : takeLock ev i id sh = some (sh', lo')) :
    Commits ev i sh sh' lo := by
  simp only [takeLock] at h
  split at h
  · split at h
    · split at h
      · next hfree =>
        obtain ⟨rfl, -⟩ := some_inj h
        exact ⟨.same lo rfl rfl rfl, keepsLocks_of_free hfree⟩
      · cases h
    · obtain ⟨rfl, -⟩ := some_inj h
      exact .refl i sh lo
  · split at h
    · next hfree =>
      obtain ⟨rfl, -⟩ := some_inj h
      exact ⟨.same lo rfl rfl rfl, keepsLocks_of_free hfree⟩
    · cases h

theorem selectHeld_commits {id : Uuid} {lo lo' : Local}
    (h : selectHeld ev i id sh = some (sh', lo')) : Commits ev i sh sh' lo := by
  simp only [selectHeld] at h
  split at h
  · next hfree =>
    obtain ⟨rfl, -⟩ := some_inj h
    refine ⟨.same lo rfl rfl rfl, fun j _ => ⟨fun c hc => hc, fun x hx => ?_⟩⟩
    -- a row another worker has locked is not among the selected ones
    have hnot : x ∉ heldItems sh.stock.items (orderOf ev id).tenantId (contractOf ev id) := by
      intro hmem
      have := List.all_eq_true.mp hfree x hmem
      rw [hx] at this
      cases this
    simpa only [if_neg hnot] using hx
  · cases h

theorem releaseByHand_commits {now : Time} {x : Uuid} (h : releaseByHand now x sh = some sh') :
    Commits ev i sh sh' .idle := by
  unfold releaseByHand at h
  split at h
  · next hfree =>
    cases h
    exact ⟨.release now x (Option.isNone_iff_eq_none.mp hfree.1) rfl rfl rfl, .refl i sh⟩
  · cases h

theorem reserveForOther_commits {now : Time} {x c r : Uuid}
    (h : reserveForOther now x c r sh = some sh') : Commits ev i sh sh' .idle := by
  unfold reserveForOther at h
  split at h
  · next hfree =>
    cases h
    obtain ⟨item, hitem, hok⟩ := (Option.any_eq_true _ _).mp hfree.2
    simp only [ne_eq, decide_eq_true_eq] at hok
    exact ⟨.reserve now x c r item (Option.isNone_iff_eq_none.mp hfree.1) hitem hok.1 hok.2 rfl rfl
      rfl, .refl i sh⟩
  · cases h

section

variable [DecidableEq ι]

theorem keepsLocks_unlock (i : ι) (sh : Shared ι) : KeepsLocks i sh (unlock i sh) := by
  intro j hj
  have hne : ¬ some j = some i := fun h => hj (Option.some.inj h)
  constructor
  · intro c hc
    simp only [unlock, hc, if_neg hne]
  · intro x hx
    simp only [unlock, hx, if_neg hne]

theorem Commits.unlocked (i : ι) (sh : Shared ι) (lo : Local) : Commits ev i sh (unlock i sh) lo :=
  ⟨.same lo rfl rfl rfl, keepsLocks_unlock i sh⟩

variable {i : ι} {sh sh' : Shared ι} {lo lo' : Local}

theorem orRaise_commits {result : Result Local} (h : orRaise i sh result = (sh', lo')) :
    Commits ev i sh sh' lo := by
  cases result with
  | error e =>
    obtain ⟨rfl, -⟩ := Prod.mk.inj h
    exact .unlocked i sh lo
  | ok a =>
    obtain ⟨rfl, -⟩ := Prod.mk.inj h
    exact .refl i sh lo

variable {id : Uuid}

theorem commitConfirmed_commits {ordered tradedIn : Option NewItem}
    {valued : Option (Uuid × Uuid × Decimal)}
    (h : commitConfirmed i id ordered tradedIn valued sh = (sh', lo')) :
    Commits ev i sh sh' (.finishing id ordered tradedIn valued) := by
  unfold commitConfirmed at h
  split at h
  · obtain ⟨rfl, -⟩ := Prod.mk.inj h
    exact .unlocked i sh _
  next hordered =>
  split at h
  · obtain ⟨rfl, -⟩ := Prod.mk.inj h
    exact .unlocked i sh _
  next htradedIn =>
  split at h
  · obtain ⟨rfl, -⟩ := Prod.mk.inj h
    exact .unlocked i sh _
  split at h
  · obtain ⟨rfl, -⟩ := Prod.mk.inj h
    exact .unlocked i sh _
  · next items hitems =>
    obtain ⟨rfl, -⟩ := Prod.mk.inj h
    obtain ⟨middle, hmiddle, hitems⟩ := Result.of_bind hitems
    exact ⟨.confirm id ordered tradedIn valued middle items (by simpa using hordered)
      (by simpa using htradedIn) hmiddle hitems rfl rfl rfl, keepsLocks_unlock i sh⟩

theorem recover_commits {reads : ConsumerReads} {role : PipelineRole}
    (h : recover ev i reads id role sh = (sh', lo')) : Commits ev i sh sh' lo := by
  unfold recover at h
  split at h
  · obtain ⟨rfl, -⟩ := Prod.mk.inj h
    exact .unlocked i sh _
  · obtain ⟨rfl, -⟩ := Prod.mk.inj h
    exact .refl i sh lo
  split at h
  · obtain ⟨rfl, -⟩ := Prod.mk.inj h
    exact .unlocked i sh _
  split at h
  · obtain ⟨rfl, -⟩ := Prod.mk.inj h
    exact .refl i sh lo
  · obtain ⟨rfl, -⟩ := Prod.mk.inj h
    exact .unlocked i sh _

theorem commitCancelled_commits {now : Time} {rows : List Uuid}
    (h : commitCancelled ev i now id rows sh = (sh', lo')) :
    Commits ev i sh sh' (.releasing id rows) := by
  simp only [commitCancelled] at h
  split at h
  · obtain ⟨rfl, -⟩ := Prod.mk.inj h
    exact .unlocked i sh _
  · obtain ⟨rfl, -⟩ := Prod.mk.inj h
    exact ⟨.cancel now id rows rfl rfl rfl, keepsLocks_unlock i sh⟩

theorem step_commits {choice : Choice} (h : step ev i choice sh lo = some (sh', lo')) :
    Commits ev i sh sh' lo := by
  unfold step at h
  split at h
  · split at h
    · cases h
    · obtain ⟨rfl, -⟩ := some_inj h
      exact .refl i sh _
  · obtain ⟨after, hafter, h⟩ := Option.map_eq_some_iff.mp h
    obtain ⟨rfl, -⟩ := Prod.mk.inj h
    exact releaseByHand_commits hafter
  · obtain ⟨after, hafter, h⟩ := Option.map_eq_some_iff.mp h
    obtain ⟨rfl, -⟩ := Prod.mk.inj h
    exact reserveForOther_commits hafter
  · exact takeLock_commits h
  · exact orRaise_commits (Option.some.inj h)
  · exact orRaise_commits (Option.some.inj h)
  · exact orRaise_commits (Option.some.inj h)
  · exact commitConfirmed_commits (Option.some.inj h)
  · exact recover_commits (Option.some.inj h)
  · exact selectHeld_commits h
  · exact commitCancelled_commits (Option.some.inj h)
  · obtain ⟨rfl, -⟩ := some_inj h
    exact .unlocked i sh _
  · cases h

end

/-! ### The items after a confirmation -/

def Alike (item item' : StockItem) : Prop :=
  item'.reservation = item.reservation ∧ item'.pipelineRef = item.pipelineRef ∧
    item'.tenantId = item.tenantId

theorem Alike.refl (item : StockItem) : Alike item item := ⟨rfl, rfl, rfl⟩

/-- The row was there, or is one of the two that are inserted. -/
def Origin (items : Table Uuid StockItem) (ordered tradedIn : Option NewItem) (x : Uuid)
    (item : StockItem) : Prop :=
  items.lookup x = some item ∨ ordered = some (x, item) ∨ tradedIn = some (x, item)

theorem insertNew_lookup {items items' : Table Uuid StockItem} {row : Option NewItem}
    (h : insertNew items row = .ok items') (x : Uuid) (item : StockItem) :
    items'.lookup x = some item ↔ items.lookup x = some item ∨ row = some (x, item) := by
  cases row with
  | none =>
    cases h
    simp
  | some new =>
    obtain ⟨hfresh, rfl⟩ := insertRow_eq_ok h
    rw [Table.lookup_insert_iff]
    by_cases hx : x = new.1
    · subst hx
      simp [hfresh, Prod.ext_iff, eq_comm]
    · have hne : ¬ new = (x, item) := fun heq => hx (by rw [heq])
      simp [hx, hne]

theorem setValuation_lookup (valued : Option (Uuid × Uuid × Decimal))
    (items : Table Uuid StockItem) (x : Uuid) :
    ∃ f : StockItem → StockItem, (∀ item, Alike item (f item)) ∧
      (setValuation valued items).lookup x = (items.lookup x).map f := by
  cases valued with
  | none => exact ⟨id, Alike.refl, by simp [setValuation]⟩
  | some v =>
    by_cases hx : x = v.1
    · refine ⟨applyValuationRef v.2.1 v.2.2, fun _ => ⟨rfl, rfl, rfl⟩, ?_⟩
      rw [setValuation, Table.lookup_modify, if_pos hx]
    · refine ⟨id, Alike.refl, ?_⟩
      rw [setValuation, Table.lookup_modify, if_neg hx]
      simp

/-- The rows of `sh'` are the rows of `sh` and the inserted ones. -/
structure Inserts (sh sh' : Shared ι) (ordered tradedIn : Option NewItem) : Prop where
  origin : ∀ x item', sh'.stock.items.lookup x = some item' →
    ∃ item, Origin sh.stock.items ordered tradedIn x item ∧ Alike item item'
  keeps : ∀ x item, Origin sh.stock.items ordered tradedIn x item →
    ∃ item', sh'.stock.items.lookup x = some item' ∧ Alike item item'

theorem inserts_of_confirm {ordered tradedIn : Option NewItem}
    {valued : Option (Uuid × Uuid × Decimal)} {middle items : Table Uuid StockItem}
    (hmiddle : insertNew sh.stock.items ordered = .ok middle)
    (hitems : insertNew middle tradedIn = .ok items)
    (hstock : sh'.stock = { sh.stock with items := setValuation valued items }) :
    Inserts sh sh' ordered tradedIn := by
  have hrows : ∀ x item,
      items.lookup x = some item ↔ Origin sh.stock.items ordered tradedIn x item := by
    intro x item
    rw [insertNew_lookup hitems, insertNew_lookup hmiddle, Origin, or_assoc]
  constructor
  · intro x item' h
    obtain ⟨f, hf, hlookup⟩ := setValuation_lookup valued items x
    rw [hstock, hlookup] at h
    obtain ⟨item, hitem, rfl⟩ := Option.map_eq_some_iff.mp h
    exact ⟨item, (hrows x item).mp hitem, hf item⟩
  · intro x item h
    obtain ⟨f, hf, hlookup⟩ := setValuation_lookup valued items x
    refine ⟨f item, ?_, hf item⟩
    rw [hstock, hlookup, (hrows x item).mpr h, Option.map_some]

end Nexotec.Delivery
