/-
Everything that writes a reservation, at once.

Staff and Sales, the sweep, the endpoints and the departure of sold cars
(`Nexotec.Inventory.StockSessions`) run beside the workers that consume Sales' two
events (`Nexotec.Inventory.Delivery`), on the same tables and row locks.

`reservation_representation` — in every state reached, an item is reserved iff both
columns are set, they are set together, and no step reserves an item that has left
stock.
-/
import Nexotec.Inventory.ReservationColumns
import Nexotec.Inventory.DeliveryHandlers

namespace Nexotec.ReservationRuns

open Interleaving Stock

variable {ι : Type}

/-! ### The system -/

structure Shared (ι : Type) where
  stock : Stock.Shared ι := {}
  /-- The processed rows of the two consumers. -/
  processed : List Uuid := []
  contractLock : Uuid → Option ι := fun _ => none

def Shared.delivery (sh : Shared ι) : Delivery.Shared ι where
  stock := sh.stock.stock
  processed := sh.processed
  contractLock := sh.contractLock
  itemLock := sh.stock.itemLock

def Shared.after (sh : Shared ι) (d : Delivery.Shared ι) : Shared ι where
  stock := { sh.stock with stock := d.stock, itemLock := d.itemLock }
  processed := d.processed
  contractLock := d.contractLock

/-- A session of the first kind, or a worker of the second. -/
inductive Local where
  | session (lo : Stock.Local)
  | worker (lo : Delivery.Local)

inductive Choice where
  | session (choice : Stock.Choice)
  | worker (choice : Delivery.Choice)

/-- A step of the consumers themselves: what staff do is for the sessions. -/
def isWorkers : Delivery.Choice → Bool
  | .releaseByHand .. | .reserveForOther .. => false
  | _ => true

variable [DecidableEq ι]

/-- What session `i` does next. -/
def step (spelling : Spelling) (ev : Delivery.Events) (i : ι) (choice : Choice) (sh : Shared ι)
    (lo : Local) : Option (Shared ι × Local) :=
  match lo, choice with
  | .session lo, .session choice =>
    (Stock.step spelling i choice sh.stock lo).map fun r => ({ sh with stock := r.1 }, .session r.2)
  | .worker lo, .worker choice =>
    if isWorkers choice then
      (Delivery.step ev i choice sh.delivery lo).map fun r => (sh.after r.1, .worker r.2)
    else none
  | _, _ => none

def start (items : Table Uuid StockItem) (worker : ι → Bool) : Config ι (Shared ι) Local :=
  ⟨{ stock := { stock := { items := items } } },
    fun i => if worker i then .worker .idle else .session .idle⟩

/-! ### What a worker stages -/

/-- A row to insert agrees with itself and has not left stock. -/
def RowOk (row : Option Delivery.NewItem) : Prop :=
  ∀ new ∈ row, Represented new.2 ∧ new.2.leftStockAt = none

def Staged : Delivery.Local → Prop
  | .trading _ ordered => RowOk ordered
  | .finishing _ ordered tradedIn _ => RowOk ordered ∧ RowOk tradedIn
  | _ => True

def HasLocked (i : ι) (sh : Delivery.Shared ι) : Delivery.Local → Prop
  | .releasing _ rows => ∀ x ∈ rows, sh.itemLock x = some i
  | _ => True

theorem rowOk_none : RowOk none := fun _ h => by cases h

theorem rowOk_built {reads : ConsumerReads} {tenantId : Uuid} {k : ℕ} {vehicleLabel : Option String}
    {condition : StockItemCondition} {ref : PipelineRef} {configurationId : Option Uuid}
    {item : StockItem} (x : Uuid)
    (h : buildPipelineItem reads tenantId k vehicleLabel condition ref configurationId = .ok item) :
    RowOk (some (x, item)) := by
  cases vehicleLabel with
  | none => cases h
  | some label =>
    cases h
    rintro new ⟨⟩
    exact ⟨represented_free rfl, rfl⟩

section

variable {ev : Delivery.Events} {i : ι} {sh sh' : Delivery.Shared ι} {lo lo' : Delivery.Local}
  {reads : ConsumerReads} {id : Uuid}

omit [DecidableEq ι] in
theorem orderedRow_ok {row : Delivery.NewItem} (h : Delivery.orderedRow ev reads id sh = .ok row) :
    RowOk (some row) := by
  unfold Delivery.orderedRow at h
  dsimp only at h
  split at h
  · cases h
  · obtain ⟨condition, -, h⟩ := Result.of_bind h
    obtain ⟨item, hitem, h⟩ := Result.of_bind h
    cases h
    have hbuilt := rowOk_built (reads.uuid 0) hitem
    split
    · exact hbuilt
    · rintro new ⟨⟩
      exact ⟨represented_reserveAndFlush _ _ _ _, (hbuilt _ rfl).2⟩

variable {ordered : Option Delivery.NewItem}

omit [DecidableEq ι] in
theorem tradeInFound_staged {tradeIn : TradeInPayload} {existing : Uuid} (hordered : RowOk ordered)
    (h : Delivery.tradeInFound ev reads id ordered tradeIn existing = .ok lo') : Staged lo' := by
  obtain ⟨valued, -, h⟩ := Result.of_bind h
  cases h
  exact ⟨hordered, rowOk_none⟩

omit [DecidableEq ι] in
theorem tradeInHalf_staged (hordered : RowOk ordered)
    (h : Delivery.tradeInHalf ev reads id ordered sh = .ok lo') : Staged lo' := by
  unfold Delivery.tradeInHalf at h
  dsimp only at h
  split at h
  · cases h
    exact ⟨hordered, rowOk_none⟩
  · obtain ⟨condition, -, h⟩ := Result.of_bind h
    split at h
    · exact tradeInFound_staged hordered h
    · obtain ⟨item, hitem, h⟩ := Result.of_bind h
      obtain ⟨valued, -, h⟩ := Result.of_bind h
      cases h
      exact ⟨hordered, rowOk_built _ hitem⟩

/-- What a worker goes on with: rows that agree with themselves, and rows it has locked. -/
def Ready (i : ι) (sh : Delivery.Shared ι) (lo : Delivery.Local) : Prop :=
  Staged lo ∧ HasLocked i sh lo

theorem orRaise_ready {result : Result Delivery.Local}
    (hresult : ∀ lo, result = .ok lo → Ready i sh lo)
    (h : Delivery.orRaise i sh result = (sh', lo')) : Ready i sh' lo' := by
  cases result with
  | error e => cases h; exact ⟨trivial, trivial⟩
  | ok lo => cases h; exact hresult _ rfl

variable {choice : Delivery.Choice}

theorem worker_ready (hstaged : Staged lo) (h : Delivery.step ev i choice sh lo = some (sh', lo')) :
    Ready i sh' lo' := by
  have hrest : ∀ {sh : Delivery.Shared ι}, Ready i sh .idle := ⟨trivial, trivial⟩
  unfold Delivery.step at h
  split at h
  · split at h
    · cases h
    · cases h; exact ⟨trivial, trivial⟩
  · obtain ⟨_, -, h⟩ := Option.map_eq_some_iff.mp h
    cases h; exact hrest
  · obtain ⟨_, -, h⟩ := Option.map_eq_some_iff.mp h
    cases h; exact hrest
  · unfold Delivery.takeLock at h
    dsimp only at h
    split at h
    · split at h
      · split at h <;> cases h
        exact ⟨trivial, trivial⟩
      · cases h; exact ⟨rowOk_none, trivial⟩
    · split at h <;> cases h
      exact ⟨trivial, trivial⟩
  · refine orRaise_ready (fun lo hlo => ?_) (Option.some.inj h)
    unfold Delivery.lookForOrdered at hlo
    split at hlo
    · cases hlo
    · obtain ⟨_, -, hlo⟩ := Result.of_bind hlo
      split at hlo <;> cases hlo
      · exact ⟨rowOk_none, trivial⟩
      · exact ⟨trivial, trivial⟩
  · refine orRaise_ready (fun lo hlo => ?_) (Option.some.inj h)
    obtain ⟨row, hrow, rfl⟩ := Result.map_eq_ok.mp hlo
    exact ⟨orderedRow_ok hrow, trivial⟩
  · refine orRaise_ready (fun lo hlo => ⟨tradeInHalf_staged hstaged hlo, ?_⟩) (Option.some.inj h)
    obtain ⟨_, _, rfl, -⟩ := Delivery.tradeInHalf_eq_ok hlo
    trivial
  · have heq := Option.some.inj h
    unfold Delivery.commitConfirmed at heq
    split at heq
    · cases heq; exact ⟨trivial, trivial⟩
    · split at heq
      · cases heq; exact ⟨trivial, trivial⟩
      · split at heq
        · cases heq; exact hrest
        · split at heq <;> cases heq <;> exact hrest
  · have heq := Option.some.inj h
    unfold Delivery.recover at heq
    split at heq
    · cases heq; exact hrest
    · cases heq; exact ⟨rowOk_none, trivial⟩
    · split at heq
      · cases heq; exact hrest
      · split at heq
        · next lo hlo =>
          cases heq
          refine ⟨tradeInFound_staged rowOk_none hlo, ?_⟩
          obtain ⟨valued, -, hlo⟩ := Result.of_bind hlo
          cases hlo
          trivial
        · cases heq; exact hrest
  · unfold Delivery.selectHeld at h
    dsimp only at h
    split at h <;> cases h
    refine ⟨trivial, fun x hx => ?_⟩
    simp only [if_pos hx]
  · have heq := Option.some.inj h
    unfold Delivery.commitCancelled at heq
    split at heq <;> cases heq <;> exact hrest
  · cases h; exact hrest
  · cases h

/-! ### What a worker commits -/

/-- What a worker leaves of the rows: they are as they were, or it had locked and
freed them, or it has inserted them. -/
structure Works (i : ι) (sh sh' : Delivery.Shared ι) : Prop where
  origin : ∀ x item', sh'.stock.items.lookup x = some item' →
    (∃ item, sh.stock.items.lookup x = some item ∧ Like item item') ∨
    (∃ item now, sh.stock.items.lookup x = some item ∧ item' = releaseAndFlush now item) ∨
    sh.stock.items.lookup x = none ∧ Represented item' ∧ item'.leftStockAt = none
  keeps : ∀ x item, sh.itemLock x ≠ some i → sh.stock.items.lookup x = some item →
    ∃ item', sh'.stock.items.lookup x = some item' ∧ Like item item'

omit [DecidableEq ι] in
theorem works_same (h : sh'.stock = sh.stock) : Works i sh sh' := by
  constructor
  · intro x item' hitem'
    rw [h] at hitem'
    exact .inl ⟨item', hitem', Like.refl item'⟩
  · intro x item _ hitem
    exact ⟨item, by rw [h]; exact hitem, Like.refl item⟩

theorem setValuation_like (valued : Option (Uuid × Uuid × Decimal))
    (items : Table Uuid StockItem) (x : Uuid) :
    ∃ f : StockItem → StockItem, (∀ item, Like item (f item)) ∧
      (Delivery.setValuation valued items).lookup x = (items.lookup x).map f := by
  cases valued with
  | none => exact ⟨id, Like.refl, by simp [Delivery.setValuation]⟩
  | some v =>
    rw [Delivery.setValuation, Table.lookup_modify]
    by_cases hx : x = v.1
    · rw [if_pos hx]
      exact ⟨applyValuationRef v.2.1 v.2.2, fun _ => ⟨rfl, rfl⟩, rfl⟩
    · rw [if_neg hx]
      exact ⟨id, Like.refl, by simp⟩

omit [DecidableEq ι] in
theorem works_confirm {tradedIn : Option Delivery.NewItem} {valued : Option (Uuid × Uuid × Decimal)}
    {middle items : Table Uuid StockItem} (hordered : RowOk ordered) (htradedIn : RowOk tradedIn)
    (hmiddle : Delivery.insertNew sh.stock.items ordered = .ok middle)
    (hitems : Delivery.insertNew middle tradedIn = .ok items)
    (hstock : sh'.stock = { sh.stock with items := Delivery.setValuation valued items }) :
    Works i sh sh' := by
  have hrows : ∀ x item, items.lookup x = some item ↔
      Delivery.Origin sh.stock.items ordered tradedIn x item := by
    intro x item
    rw [Delivery.insertNew_lookup hitems, Delivery.insertNew_lookup hmiddle, Delivery.Origin,
      or_assoc]
  constructor
  · intro x item' h
    obtain ⟨f, hf, hlookup⟩ := setValuation_like valued items x
    rw [hstock, hlookup] at h
    obtain ⟨item, hitem, rfl⟩ := Option.map_eq_some_iff.mp h
    have hnew : ∀ row, RowOk row → row = some (x, item) →
        Represented (f item) ∧ (f item).leftStockAt = none := by
      intro row hrow heq
      obtain ⟨hrepresented, hleft⟩ := hrow (x, item) heq
      exact ⟨hrepresented.of_reservation (hf item).1, (hf item).2.trans hleft⟩
    cases hold : sh.stock.items.lookup x with
    | some old =>
      -- the inserted rows have keys of their own
      have hsame := (hrows x old).mpr (.inl hold)
      rw [hitem] at hsame
      cases hsame
      exact .inl ⟨item, rfl, hf item⟩
    | none =>
      rcases (hrows x item).mp hitem with hthere | heq | heq
      · rw [hold] at hthere
        cases hthere
      · exact .inr (.inr ⟨rfl, hnew ordered hordered heq⟩)
      · exact .inr (.inr ⟨rfl, hnew tradedIn htradedIn heq⟩)
  · intro x item _ hitem
    obtain ⟨f, hf, hlookup⟩ := setValuation_like valued items x
    refine ⟨f item, ?_, hf item⟩
    rw [hstock, hlookup, (hrows x item).mpr (.inl hitem), Option.map_some]

omit [DecidableEq ι] in
theorem works_cancel {now : Time} {rows : List Uuid} (hlocked : ∀ x ∈ rows, sh.itemLock x = some i)
    (hstock : sh'.stock = Delivery.cancelStock ev now id rows sh.stock) : Works i sh sh' := by
  have hlookup : ∀ x, sh'.stock.items.lookup x =
      (sh.stock.items.lookup x).map fun item => if x ∈ rows then releaseAndFlush now item else item := by
    intro x
    rw [hstock, Delivery.cancelStock, Delivery.releaseItems, Table.lookup_updateAll]
  constructor
  · intro x item' h
    rw [hlookup] at h
    obtain ⟨item, hitem, rfl⟩ := Option.map_eq_some_iff.mp h
    by_cases hx : x ∈ rows
    · exact .inr (.inl ⟨item, now, hitem, if_pos hx⟩)
    · refine .inl ⟨item, hitem, ?_⟩
      rw [if_neg hx]
      exact Like.refl item
  · intro x item hfree hitem
    have hx : x ∉ rows := fun hx => hfree (hlocked x hx)
    refine ⟨item, ?_, Like.refl item⟩
    rw [hlookup, hitem, Option.map_some, if_neg hx]

theorem idle_stock (hworkers : isWorkers choice = true)
    (h : Delivery.step ev i choice sh .idle = some (sh', lo')) : sh'.stock = sh.stock := by
  cases choice with
  | begin id =>
    simp only [Delivery.step] at h
    split at h
    · cases h
    · cases h; rfl
  | releaseByHand now x => cases hworkers
  | reserveForOther now x c r => cases hworkers
  | fail => cases h; rfl
  | _ => cases h

theorem worker_works (hworkers : isWorkers choice = true) (hstaged : Staged lo)
    (hlocked : HasLocked i sh lo) (h : Delivery.step ev i choice sh lo = some (sh', lo')) :
    Works i sh sh' := by
  have hcommits := (Delivery.step_commits h).1
  cases hcommits with
  | same lo hstock => exact works_same hstock
  | confirm id ordered tradedIn valued middle items _ _ hmiddle hitems hstock =>
    exact works_confirm hstaged.1 hstaged.2 hmiddle hitems hstock
  | cancel now id rows hstock => exact works_cancel hlocked hstock
  | release now x => exact works_same (idle_stock hworkers h)
  | reserve now x c r item => exact works_same (idle_stock hworkers h)

omit [DecidableEq ι] in
theorem Works.represented (h : Works i sh sh') (hall : AllRepresented sh.stock.items) :
    AllRepresented sh'.stock.items := by
  intro x item' hitem'
  rcases h.origin x item' hitem' with ⟨item, hitem, hlike⟩ | ⟨item, now, -, rfl⟩ | ⟨-, hnew, -⟩
  · exact (hall x item hitem).of_reservation hlike.1
  · exact represented_releaseAndFlush now item
  · exact hnew

omit [DecidableEq ι] in
theorem Works.reserves (h : Works i sh sh') {x : Uuid}
    (hx : Reserves sh.stock.items sh'.stock.items x) :
    InStock sh.stock.items x ∧ InStock sh'.stock.items x := by
  have hreserves := hx
  obtain ⟨item', hitem', -⟩ := hx
  rcases h.origin x item' hitem' with ⟨item, hitem, hlike⟩ | ⟨item, now, hitem, rfl⟩ |
    ⟨hnone, -, hleft⟩
  · refine absurd hreserves (not_reserves fun row hrow => ?_)
    rw [hitem'] at hrow
    cases hrow
    exact .inl ⟨item, hitem, hlike.1⟩
  · refine absurd hreserves (not_reserves fun row hrow => ?_)
    rw [hitem'] at hrow
    cases hrow
    exact .inr rfl
  · constructor
    · intro item hitem
      rw [hnone] at hitem
      cases hitem
    · intro row hrow
      rw [hitem'] at hrow
      cases hrow
      exact hleft

end

section Runs

variable {spelling : Spelling} {ev : Delivery.Events} {i j : ι}

/-- What session `i` has at hand. -/
def Knows (i : ι) (sh : Shared ι) : Local → Prop
  | .session lo => Stock.Knows i sh.stock lo
  | .worker lo => Staged lo ∧ HasLocked i sh.delivery lo

def Good (sh : Shared ι) : Prop := AllRepresented sh.stock.items

variable {sh : Shared ι}

omit [DecidableEq ι] in
theorem Knows.leaves {sh' : Shared ι} {lo : Local} (hj : j ≠ i) (h : Knows j sh lo)
    (hleaves : Leaves i sh.stock sh'.stock) : Knows j sh' lo := by
  cases lo with
  | session lo => exact Stock.Knows.leaves hj h hleaves
  | worker lo =>
    refine ⟨h.1, ?_⟩
    cases lo with
    | releasing id rows => exact fun x hx => hleaves.locks x j hj (h.2 x hx)
    | _ => trivial

/-- A step keeps the rows and what the session itself knows, leaves the others what
they know, and reserves no item that has left stock. -/
structure Kept (i : ι) (sh sh' : Shared ι) (lo' : Local) : Prop where
  good : Good sh'
  knows : Knows i sh' lo'
  leaves : Leaves i sh.stock sh'.stock
  reserves : ∀ x, Reserves sh.stock.items sh'.stock.items x →
    InStock sh.stock.items x ∧ InStock sh'.stock.items x

theorem session_kept {stock' : Stock.Shared ι} {choice : Stock.Choice} {lo lo' : Stock.Local}
    (hgood : Good sh) (hknows : Stock.Knows i sh.stock lo)
    (h : Stock.step spelling i choice sh.stock lo = some (stock', lo')) :
    Kept i sh { sh with stock := stock' } (.session lo') where
  good := (step_effect h).represented hgood
  knows := Stock.step_knows hknows h
  leaves := step_leaves h hknows
  reserves := fun _ hx => (step_effect h).reserves hknows hx

theorem worker_kept {d : Delivery.Shared ι} {choice : Delivery.Choice} {lo lo' : Delivery.Local}
    (hworkers : isWorkers choice = true) (hgood : Good sh) (hstaged : Staged lo)
    (hlocked : HasLocked i sh.delivery lo)
    (h : Delivery.step ev i choice sh.delivery lo = some (d, lo')) :
    Kept i sh (sh.after d) (.worker lo') := by
  have hworks := worker_works hworkers hstaged hlocked h
  have hlocks := (Delivery.step_commits h).2
  obtain ⟨hstaged', hlocked'⟩ := worker_ready hstaged h
  refine ⟨hworks.represented hgood, ⟨hstaged', ?_⟩, ?_, fun x hx => hworks.reserves hx⟩
  · cases lo' with
    | releasing id rows => exact hlocked'
    | _ => trivial
  · refine ⟨fun x j hj hx => (hlocks j hj).2 x hx, fun x j hj hx item hitem => ?_⟩
    refine hworks.keeps x item (fun hmine => ?_) hitem
    -- the row is locked by another one
    have hx : sh.stock.itemLock x = some j := hx
    have hmine : sh.stock.itemLock x = some i := hmine
    rw [hmine] at hx
    exact hj (Option.some.inj hx).symm

theorem step_kept {sh' : Shared ι} {choice : Choice} {lo lo' : Local} (hgood : Good sh)
    (hknows : Knows i sh lo) (h : step spelling ev i choice sh lo = some (sh', lo')) :
    Kept i sh sh' lo' := by
  cases lo with
  | session lo =>
    cases choice with
    | session choice =>
      obtain ⟨⟨stock', lo₁⟩, hstep, heq⟩ := Option.map_eq_some_iff.mp h
      cases heq
      exact session_kept hgood hknows hstep
    | worker choice => cases h
  | worker lo =>
    cases choice with
    | session choice => cases h
    | worker choice =>
      simp only [step] at h
      split at h
      · next hworkers =>
        obtain ⟨⟨d, lo₁⟩, hstep, heq⟩ := Option.map_eq_some_iff.mp h
        cases heq
        exact worker_kept hworkers hgood hknows.1 hknows.2 hstep
      · cases h

def Inv (cfg : Config ι (Shared ι) Local) : Prop := Holds Good Knows cfg

theorem inv_move {cfg : Config ι (Shared ι) Local} (h : Inv cfg) (a : ι × Choice) :
    Inv (move (step spelling ev) cfg a) := by
  refine noninterference_all (G := Good) (L := Knows) ?_ ?_ h a
  · intro i choice sh lo sh' lo' hgood hknows hstep
    have hkept := step_kept hgood hknows hstep
    exact ⟨hkept.good, hkept.knows⟩
  · intro i j choice sh lo other sh' lo' hij hgood hknows hother hstep
    exact hother.leaves (Ne.symm hij) (step_kept hgood hknows hstep).leaves

omit [DecidableEq ι] in
theorem inv_start {items : Table Uuid StockItem} (hitems : AllRepresented items)
    (worker : ι → Bool) : Inv (start items worker) := by
  refine ⟨hitems, fun i => ?_⟩
  simp only [start]
  split
  · exact ⟨trivial, trivial⟩
  · trivial

theorem inv_run {items : Table Uuid StockItem} (hitems : AllRepresented items) (worker : ι → Bool)
    (run : List (ι × Choice)) : Inv (run.foldl (move (step spelling ev)) (start items worker)) := by
  have hmove : ∀ (cfg : Config ι (Shared ι) Local) (a : ι × Choice), Inv cfg →
      Inv (move (step spelling ev) cfg a) := fun _ a h => inv_move h a
  exact Run.invariant hmove (inv_start hitems worker) run

end Runs

/-- **The reservation's representation.** From items that agree with themselves, in
every state that any run of all its writers reaches, an item is reserved iff both
columns are set, the two are set together, and whatever comes next reserves only
an item that is in stock. -/
theorem reservation_representation (spelling : Spelling) (ev : Delivery.Events)
    (items : Table Uuid StockItem) (worker : ι → Bool) (run : List (ι × Choice))
    (hitems : AllRepresented items) :
    let cfg := run.foldl (move (step spelling ev)) (start items worker)
    AllRepresented cfg.shared.stock.items ∧
      ∀ a x, Reserves cfg.shared.stock.items (move (step spelling ev) cfg a).shared.stock.items x →
        InStock cfg.shared.stock.items x ∧
          InStock (move (step spelling ev) cfg a).shared.stock.items x := by
  intro cfg
  have hinv : Inv cfg := inv_run hitems worker run
  refine ⟨hinv.1, fun a x hx => ?_⟩
  cases h : step spelling ev a.1 a.2 cfg.shared (cfg.locals a.1) with
  | none =>
    rw [move_none h] at hx
    exact absurd hx (not_reserves fun item' h' => .inl ⟨item', h', rfl⟩)
  | some p =>
    rw [move_some h] at hx ⊢
    exact (step_kept hinv.1 (hinv.2 a.1) h).reserves x hx

/-! ### One car in stock and one that has left it -/

def twoCars : Table Uuid StockItem :=
  ((∅ : Table Uuid StockItem).insert 5 { tenantId := 1, lifecycleStatus := .inStock }).insert 6
    { tenantId := 1, lifecycleStatus := .inStock, leftStockAt := some 3 }

/-- Staff reserve the first and try the second, while a car is ordered for contract 1. -/
def busyRun : List (Bool × Choice) :=
  [(true, .worker (.begin 10)), (false, .session (.reserve ⟨1, 5, 9, none⟩)),
    (true, .worker .lock), (false, .session .readKey), (true, .worker .look),
    (false, .session (.commit 4 70 "")), (true, .worker (.insert { uuid := fun j => 100 + j })),
    (false, .session (.reserve ⟨1, 6, 9, none⟩)),
    (true, .worker (.tradeIn { uuid := fun j => 100 + j })), (false, .session .readKey),
    (true, .worker (.commit 4)), (false, .session (.commit 4 71 ""))]

def vinAsWritten : Spelling := ⟨fun value => value, fun _ => false⟩

def orderOfOne : Delivery.Events where
  message := fun _ => .confirmed 1
  order := fun _ =>
    { tenantId := 1
      manualConfiguration := some
        { vehicleLabel := some "Golf", condition := some "new", configurationId := none }
      tradeIn := none }

def busyConfig : Config Bool (Shared Bool) Local :=
  busyRun.foldl (move (step vinAsWritten orderOfOne)) (start twoCars id)

theorem reservation_representation_twoCars : AllRepresented busyConfig.shared.stock.items ∧
    (busyConfig.shared.stock.items.lookup 5).map (·.reservation)
      = some (.reserved, some 9, some 70) ∧
    (busyConfig.shared.stock.items.lookup 100).map (·.reservation)
      = some (.reserved, some 1, some 101) ∧ ∀ a, ¬ Reserves busyConfig.shared.stock.items
      (move (step vinAsWritten orderOfOne) busyConfig a).shared.stock.items 6 := by
  have hnone : AllRepresented ∅ := fun x item h => by cases h
  have hitems : AllRepresented twoCars :=
    (hnone.insert 5 (represented_free rfl)).insert 6 (represented_free rfl)
  obtain ⟨hall, hreserves⟩ :=
    reservation_representation vinAsWritten orderOfOne twoCars id busyRun hitems
  refine ⟨hall, by decide +kernel, by decide +kernel, fun a hx => ?_⟩
  have hleft : (busyConfig.shared.stock.items.lookup 6).map (·.leftStockAt) = some (some 3) := by
    decide +kernel
  obtain ⟨item, hitem, hsome⟩ := Option.map_eq_some_iff.mp hleft
  have hstays := (hreserves a 6 hx).1 item hitem
  rw [hsome] at hstays
  cases hstays

end Nexotec.ReservationRuns
