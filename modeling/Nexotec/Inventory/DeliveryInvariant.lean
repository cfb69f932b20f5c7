/-
What holds of Stock's tables and workers between any two steps of a delivery.

`Good` is what holds of the committed tables: pipeline references are unique,
a manual item is held by its contract unless it was released by hand or the
contract is known as cancelled, and then never.  `Knows` is what a worker may
rely on where it stands: under its contract's lock the item it did not find is
still missing, and the cancellation it did not find is still unrecorded.
-/
import Nexotec.Inventory.DeliveryEffects

namespace Nexotec.Delivery

variable {ι : Type} {ev : Events}

/-! ### The committed tables -/

/-- The item is reserved for the contract. -/
def HeldBy (item : StockItem) (c : Uuid) : Prop :=
  item.reservationState = .reserved ∧ item.reservedByContractId = some c

variable {item : StockItem} {c : Uuid}

theorem HeldBy.of_reservation {item' : StockItem} (h : HeldBy item c)
    (hsame : item'.reservation = item.reservation) : HeldBy item' c := by
  have hstate : item'.reservationState = item.reservationState := congrArg (fun p => p.1) hsame
  exact ⟨hstate.trans h.1, (reservation_contract hsame).trans h.2⟩

/-- An item is held by one contract. -/
theorem HeldBy.contract_eq {c' : Uuid} (h : HeldBy item c) (h' : HeldBy item c') : c' = c :=
  Option.mem_unique h'.2 h.2

theorem not_heldBy_released (now : Time) (item : StockItem) (c : Uuid) :
    ¬ HeldBy (releaseAndFlush now item) c :=
  fun h => by cases h.2

/-- Stock has recorded that the contract is cancelled. -/
def Known (ev : Events) (sh : Shared ι) (c : Uuid) : Prop :=
  contractIsCancelled sh.stock (ev.order c).tenantId c = true

/-- Some item stands under the pipeline reference. -/
def HasItem (sh : Shared ι) (ref : PipelineRef) : Prop :=
  ∃ x item, sh.stock.items.lookup x = some item ∧ item.pipelineRef = some ref

/-- What holds of the committed tables. -/
structure Good (ev : Events) (sh : Shared ι) : Prop where
  unique : ∀ x y item item' ref, sh.stock.items.lookup x = some item →
    sh.stock.items.lookup y = some item' → item.pipelineRef = some ref →
    item'.pipelineRef = some ref → x = y
  tenants : ∀ x item ref, sh.stock.items.lookup x = some item → item.pipelineRef = some ref →
    item.tenantId = (ev.order ref.contractId).tenantId
  ordered : ∀ x item c, sh.stock.items.lookup x = some item →
    item.pipelineRef = some ⟨c, .manual⟩ →
      (Known ev sh c ∧ ¬ HeldBy item c) ∨
      (¬ Known ev sh c ∧ (HeldBy item c ∨ x ∈ sh.releasedByHand))
  confirmed : ∀ id ∈ sh.processed, ∀ c, ev.message id = .confirmed c →
    (ev.order c).manualConfiguration ≠ none → HasItem sh ⟨c, .manual⟩
  cancelled : ∀ id ∈ sh.processed, ∀ c, ev.message id = .cancelled c → Known ev sh c
  known : ∀ c, Known ev sh c → ∃ id ∈ sh.processed, ev.message id = .cancelled c

/-! ### The workers -/

/-- The row a confirmation is about to insert for its ordered car. -/
structure OrderedOk (ev : Events) (sh : Shared ι) (c : Uuid) (new : NewItem) : Prop where
  ref : new.2.pipelineRef = some ⟨c, .manual⟩
  tenant : new.2.tenantId = (ev.order c).tenantId
  known : Known ev sh c → ¬ HeldBy new.2 c
  unknown : ¬ Known ev sh c → HeldBy new.2 c

/-- With a manual configuration the confirmation has the contract's lock and
its ordered car, there or staged. -/
def Ordering (ev : Events) (i : ι) (sh : Shared ι) (id : Uuid) (ordered : Option NewItem) : Prop :=
  ∃ c, ev.message id = .confirmed c ∧
    (∀ new ∈ ordered, OrderedOk ev sh c new) ∧
    ((ev.order c).manualConfiguration = none → ordered = none) ∧
    ((ev.order c).manualConfiguration ≠ none →
      sh.contractLock c = some i ∧
        (ordered = none → HasItem sh ⟨c, .manual⟩) ∧ (ordered ≠ none → ¬ HasItem sh ⟨c, .manual⟩))

/-- What a worker may rely on where it stands. -/
def Knows (ev : Events) (i : ι) (sh : Shared ι) : Local → Prop
  | .idle | .begun _ => True
  | .ordering id => ∃ c, ev.message id = .confirmed c ∧ sh.contractLock c = some i ∧
      (ev.order c).manualConfiguration ≠ none
  | .inserting id => ∃ c, ev.message id = .confirmed c ∧ sh.contractLock c = some i ∧
      (ev.order c).manualConfiguration ≠ none ∧ ¬ HasItem sh ⟨c, .manual⟩
  | .trading id ordered => Ordering ev i sh id ordered
  | .finishing id ordered tradedIn _ => Ordering ev i sh id ordered ∧
      ∀ new ∈ tradedIn, ∀ c, ev.message id = .confirmed c →
        new.2.pipelineRef = some ⟨c, .tradeIn⟩ ∧ new.2.tenantId = (ev.order c).tenantId ∧
        ((ev.order c).manualConfiguration ≠ none → ¬ HasItem sh ⟨c, .tradeIn⟩)
  | .recovering id _ => ∃ c, ev.message id = .confirmed c ∧
      (ev.order c).manualConfiguration = none
  | .cancelling id => ∃ c, ev.message id = .cancelled c ∧ sh.contractLock c = some i
  | .releasing id rows => ∃ c, ev.message id = .cancelled c ∧ sh.contractLock c = some i ∧
      (∀ x ∈ rows, sh.itemLock x = some i ∧
        ∃ item, sh.stock.items.lookup x = some item ∧ HeldBy item c) ∧
      ∀ x item, sh.stock.items.lookup x = some item → item.pipelineRef = some ⟨c, .manual⟩ →
        HeldBy item c → x ∈ rows

variable {sh : Shared ι} {ref : PipelineRef}

theorem hasItem_of_found {tenantId : Uuid} {found : Uuid × StockItem}
    (h : findPipelineItem sh.stock.items tenantId ref = some found) : HasItem sh ref := by
  obtain ⟨hrow, hmatch⟩ := Table.search_eq_some h
  simp only [decide_eq_true_eq] at hmatch
  exact ⟨found.1, found.2, hrow, hmatch.2⟩

/-- A lookup under the contract's own tenant misses no item. -/
theorem Good.not_hasItem (hgood : Good ev sh)
    (h : findPipelineItem sh.stock.items (ev.order ref.contractId).tenantId ref = none) :
    ¬ HasItem sh ref := by
  rintro ⟨x, item, hitem, href⟩
  have hmiss := Table.search_eq_none h hitem
  simp [hgood.tenants x item ref hitem href, href] at hmiss

/-- A row whose reference is not taken at the flush is the first under it. -/
theorem Good.fresh (hgood : Good ev sh) {row : Option NewItem}
    (htaken : taken sh.stock.items row = false) {new : NewItem} (hnew : row = some new)
    (href : new.2.pipelineRef = some ref)
    (htenant : new.2.tenantId = (ev.order ref.contractId).tenantId) : ¬ HasItem sh ref := by
  refine hgood.not_hasItem ?_
  simpa [taken, hnew, href, htenant] using htaken

theorem hasItem_of_taken {row : Option NewItem} (htaken : taken sh.stock.items row = true) :
    ∃ new ref, row = some new ∧ new.2.pipelineRef = some ref ∧ HasItem sh ref := by
  obtain ⟨new, hnew, h⟩ := (Option.any_eq_true _ _).mp htaken
  obtain ⟨ref, href, h⟩ := (Option.any_eq_true _ _).mp h
  obtain ⟨found, hfound⟩ := Option.isSome_iff_exists.mp h
  exact ⟨new, ref, hnew, href, hasItem_of_found hfound⟩

variable {sh' : Shared ι}

theorem known_congr (h : sh'.stock.cancelledContracts = sh.stock.cancelledContracts) (c : Uuid) :
    Known ev sh' c ↔ Known ev sh c := by
  simp only [Known, contractIsCancelled, h]

/-! ### Rewritten rows -/

/-- Every row is rewritten under its id, reference and tenant. -/
def Rewrites (sh sh' : Shared ι) : Prop :=
  ∀ x, ∃ f : StockItem → StockItem,
    (∀ item, (f item).pipelineRef = item.pipelineRef ∧ (f item).tenantId = item.tenantId) ∧
      sh'.stock.items.lookup x = (sh.stock.items.lookup x).map f

variable {x : Uuid}

theorem Rewrites.row (h : Rewrites sh sh') {item' : StockItem}
    (hitem' : sh'.stock.items.lookup x = some item') :
    ∃ item, sh.stock.items.lookup x = some item ∧ item'.pipelineRef = item.pipelineRef ∧
      item'.tenantId = item.tenantId := by
  obtain ⟨f, hf, hlookup⟩ := h x
  rw [hlookup] at hitem'
  obtain ⟨item, hitem, rfl⟩ := Option.map_eq_some_iff.mp hitem'
  exact ⟨item, hitem, hf item⟩

/-- The references stay where they are. -/
theorem Rewrites.hasItem (h : Rewrites sh sh') (ref : PipelineRef) :
    HasItem sh' ref ↔ HasItem sh ref := by
  constructor
  · rintro ⟨x, item', hitem', href⟩
    obtain ⟨item, hitem, hsame, -⟩ := h.row hitem'
    exact ⟨x, item, hitem, hsame.symm.trans href⟩
  · rintro ⟨x, item, hitem, href⟩
    obtain ⟨f, hf, hlookup⟩ := h x
    exact ⟨x, f item, by rw [hlookup, hitem, Option.map_some], (hf item).1.trans href⟩

theorem rewrites_modify {f : StockItem → StockItem}
    (h : sh'.stock = { sh.stock with items := sh.stock.items.modify x f })
    (hf : ∀ item, (f item).pipelineRef = item.pipelineRef ∧ (f item).tenantId = item.tenantId) :
    Rewrites sh sh' := by
  intro y
  rw [h, Table.lookup_modify]
  by_cases hy : y = x
  · exact ⟨f, hf, if_pos hy⟩
  · exact ⟨id, fun _ => ⟨rfl, rfl⟩, by simp [hy]⟩

section

variable {sh sh' : Shared ι} {now : Time} {id : Uuid} {rows : List Uuid}
  (hstock : sh'.stock = cancelStock ev now id rows sh.stock)
include hstock

theorem rewrites_release : Rewrites sh sh' := by
  intro x
  rw [hstock, cancelStock, releaseItems, Table.lookup_updateAll]
  refine ⟨_, fun item => ?_, rfl⟩
  by_cases hx : x ∈ rows
  · rw [if_pos hx]
    exact ⟨rfl, rfl⟩
  · rw [if_neg hx]
    exact ⟨rfl, rfl⟩

/-- A cancellation adds its own contract to the recorded ones. -/
theorem known_cancelled {c : Uuid} (hmessage : ev.message id = .cancelled c) (c' : Uuid) :
    Known ev sh' c' ↔ c' = c ∨ Known ev sh c' := by
  have hcontract : contractOf ev id = c := by rw [contractOf, hmessage]; rfl
  have htenant : (orderOf ev id).tenantId = (ev.order c).tenantId := by rw [orderOf, hcontract]
  simp only [Known, contractIsCancelled, hstock, cancelStock, hcontract, htenant, decide_eq_true_eq]
  by_cases hin : ((ev.order c).tenantId, c) ∈ sh.stock.cancelledContracts
  · rw [if_pos hin]
    exact ⟨.inr, fun h => h.elim (fun heq => heq ▸ hin) (fun h => h)⟩
  · rw [if_neg hin, List.mem_cons, Prod.mk.injEq]
    exact ⟨fun h => h.imp_left (fun heq => heq.2), fun h => h.imp_left (fun heq => ⟨by rw [heq], heq⟩)⟩

end

/-- Where rows are rewritten, references and tenants need no second look. -/
theorem Good.rewrite (hgood : Good ev sh) (h : Rewrites sh sh')
    (hprocessed : ∀ id ∈ sh'.processed, ∀ c, ev.message id = .confirmed c → id ∈ sh.processed)
    (hordered : ∀ x item' c, sh'.stock.items.lookup x = some item' →
      item'.pipelineRef = some ⟨c, .manual⟩ → (Known ev sh' c ∧ ¬ HeldBy item' c) ∨
        (¬ Known ev sh' c ∧ (HeldBy item' c ∨ x ∈ sh'.releasedByHand)))
    (hcancelled : ∀ id ∈ sh'.processed, ∀ c, ev.message id = .cancelled c → Known ev sh' c)
    (hknown : ∀ c, Known ev sh' c → ∃ id ∈ sh'.processed, ev.message id = .cancelled c) :
    Good ev sh' where
  unique := by
    intro x y item item' ref hx hy href href'
    obtain ⟨old, hold, hsame, -⟩ := h.row hx
    obtain ⟨old', hold', hsame', -⟩ := h.row hy
    exact hgood.unique x y old old' ref hold hold' (hsame.symm.trans href) (hsame'.symm.trans href')
  tenants := by
    intro x item ref hx href
    obtain ⟨old, hold, hsame, htenant⟩ := h.row hx
    exact htenant.trans (hgood.tenants x old ref hold (hsame.symm.trans href))
  ordered := hordered
  confirmed := by
    intro id hid c hmessage hmanual
    exact (h.hasItem _).mpr (hgood.confirmed id (hprocessed id hid c hmessage) c hmessage hmanual)
  cancelled := hcancelled
  known := hknown

theorem Good.of_same (hgood : Good ev sh) (hstock : sh'.stock = sh.stock)
    (hprocessed : sh'.processed = sh.processed) (hreleased : sh'.releasedByHand = sh.releasedByHand) :
    Good ev sh' := by
  have hknown : ∀ c, Known ev sh' c ↔ Known ev sh c := fun c => known_congr (by rw [hstock]) c
  refine ⟨?_, ?_, ?_, ?_, ?_, ?_⟩
  · simpa only [hstock] using hgood.unique
  · simpa only [hstock] using hgood.tenants
  · simpa only [hstock, hreleased, hknown] using hgood.ordered
  · simpa only [HasItem, hstock, hprocessed] using hgood.confirmed
  · simpa only [hprocessed, hknown] using hgood.cancelled
  · simpa only [hprocessed, hknown] using hgood.known

variable {now : Time}

/-- A release by hand is remembered, so a manual item may go without its holder. -/
theorem Good.of_release (hgood : Good ev sh)
    (hstock : sh'.stock = { sh.stock with items := sh.stock.items.modify x (releaseAndFlush now) })
    (hprocessed : sh'.processed = sh.processed)
    (hreleased : sh'.releasedByHand = x :: sh.releasedByHand) : Good ev sh' := by
  have hknown : ∀ c, Known ev sh' c ↔ Known ev sh c := fun c => known_congr (by rw [hstock]) c
  refine hgood.rewrite (rewrites_modify hstock fun _ => ⟨rfl, rfl⟩) ?_ ?_ ?_ ?_
  · intro id hid _ _
    rwa [hprocessed] at hid
  · intro y item' c hitem' href
    rw [hknown, hreleased]
    rw [hstock, Table.lookup_modify] at hitem'
    by_cases hy : y = x
    · -- the released item: unheld, and on the list of what was released
      rw [if_pos hy] at hitem'
      obtain ⟨item, -, rfl⟩ := Option.map_eq_some_iff.mp hitem'
      by_cases hc : Known ev sh c
      · exact .inl ⟨hc, not_heldBy_released now item c⟩
      · exact .inr ⟨hc, .inr (hy ▸ List.mem_cons_self)⟩
    · rw [if_neg hy] at hitem'
      rcases hgood.ordered y item' c hitem' href with h | ⟨hc, hheld | hby⟩
      · exact .inl h
      · exact .inr ⟨hc, .inl hheld⟩
      · exact .inr ⟨hc, .inr (List.mem_cons_of_mem x hby)⟩
  · simpa only [hprocessed, hknown] using hgood.cancelled
  · simpa only [hprocessed, hknown] using hgood.known

/-- Staff reserve a free item, and no manual one for its own contract. -/
theorem Good.of_reserve (hgood : Good ev sh) {r : Uuid}
    (hitem : sh.stock.items.lookup x = some item) (hfree : item.reservationState ≠ .reserved)
    (hother : item.pipelineRef ≠ some ⟨c, .manual⟩) (hstock : sh'.stock =
      { sh.stock with items := sh.stock.items.modify x (reserveAndFlush now c r) })
    (hprocessed : sh'.processed = sh.processed) (hreleased : sh'.releasedByHand = sh.releasedByHand) :
    Good ev sh' := by
  have hknown : ∀ c, Known ev sh' c ↔ Known ev sh c := fun c => known_congr (by rw [hstock]) c
  refine hgood.rewrite (rewrites_modify hstock fun _ => ⟨rfl, rfl⟩) ?_ ?_ ?_ ?_
  · intro id hid _ _
    rwa [hprocessed] at hid
  · intro y item' c' hitem' href
    rw [hknown, hreleased]
    rw [hstock, Table.lookup_modify] at hitem'
    by_cases hy : y = x
    · -- the item has a new holder, and that is not the contract it was ordered for
      subst hy
      rw [if_pos rfl, hitem, Option.map_some] at hitem'
      cases hitem'
      have hnot : ¬ HeldBy (reserveAndFlush now c r item) c' := by
        intro hheld
        have heq : c' = c := Option.some.inj hheld.2.symm
        exact hother (heq ▸ href)
      rcases hgood.ordered y item c' hitem href with ⟨hc, -⟩ | ⟨hc, hheld | hby⟩
      · exact .inl ⟨hc, hnot⟩
      · -- its own contract still held it, so it was not free
        exact absurd hheld.1 hfree
      · exact .inr ⟨hc, .inr hby⟩
    · rw [if_neg hy] at hitem'
      exact hgood.ordered y item' c' hitem' href
  · simpa only [hprocessed, hknown] using hgood.cancelled
  · simpa only [hprocessed, hknown] using hgood.known

variable {i : ι} {id : Uuid}

/-- The consumer of a cancellation leaves nothing with the cancelled contract. -/
theorem Good.of_cancel (hgood : Good ev sh) {rows : List Uuid}
    (hknows : Knows ev i sh (.releasing id rows))
    (hstock : sh'.stock = cancelStock ev now id rows sh.stock)
    (hprocessed : sh'.processed = id :: sh.processed)
    (hreleased : sh'.releasedByHand = sh.releasedByHand) : Good ev sh' := by
  obtain ⟨c, hmessage, -, hrows, hall⟩ := hknows
  have hknown : ∀ c', Known ev sh' c' ↔ c' = c ∨ Known ev sh c' := known_cancelled hstock hmessage
  refine hgood.rewrite (rewrites_release hstock) ?_ ?_ ?_ ?_
  · intro id' hid' c' hc'
    rw [hprocessed] at hid'
    rcases List.mem_cons.mp hid' with rfl | hid'
    · rw [hmessage] at hc'
      cases hc'
    · exact hid'
  · intro x item' c' hitem' href
    rw [hreleased]
    rw [hstock, cancelStock, releaseItems, Table.lookup_updateAll] at hitem'
    obtain ⟨item, hitem, rfl⟩ := Option.map_eq_some_iff.mp hitem'
    by_cases hx : x ∈ rows
    · simp only [if_pos hx] at href ⊢
      by_cases hc : Known ev sh' c'
      · exact .inl ⟨hc, not_heldBy_released now item c'⟩
      · -- held by the cancelled contract, so its own contract lost it by hand
        obtain ⟨-, old, hold, hheld⟩ := hrows x hx
        obtain rfl := Option.mem_unique hitem hold
        have hne : c' ≠ c := fun heq => hc ((hknown c').mpr (.inl heq))
        have hc' : ¬ Known ev sh c' := fun h => hc ((hknown c').mpr (.inr h))
        rcases hgood.ordered x item c' hitem href with ⟨h, -⟩ | ⟨-, hown | hby⟩
        · exact absurd h hc'
        · exact absurd (hheld.contract_eq hown) hne
        · exact .inr ⟨hc, .inr hby⟩
    · -- not selected, so not held by the cancelled contract
      simp only [if_neg hx] at href ⊢
      by_cases heq : c' = c
      · subst heq
        exact .inl ⟨(hknown c').mpr (.inl rfl), fun hheld => hx (hall x item hitem href hheld)⟩
      · have hiff : Known ev sh' c' ↔ Known ev sh c' := (hknown c').trans (or_iff_right heq)
        rw [hiff]
        exact hgood.ordered x item c' hitem href
  · intro id' hid' c' hc'
    rw [hprocessed] at hid'
    rcases List.mem_cons.mp hid' with rfl | hid'
    · rw [hmessage] at hc'
      cases hc'
      exact (hknown c).mpr (.inl rfl)
    · exact (hknown c').mpr (.inr (hgood.cancelled id' hid' c' hc'))
  · intro c' hc'
    rw [hprocessed]
    rcases (hknown c').mp hc' with rfl | hc'
    · exact ⟨id, List.mem_cons_self, hmessage⟩
    · obtain ⟨id', hid', hmessage'⟩ := hgood.known c' hc'
      exact ⟨id', List.mem_cons_of_mem id hid', hmessage'⟩

/-! ### The rows of a confirmation -/

variable {ordered tradedIn : Option NewItem}

/-- What was there or is staged is there after the insertions. -/
theorem Inserts.hasItem (hins : Inserts sh sh' ordered tradedIn)
    (h : Origin sh.stock.items ordered tradedIn x item) (href : item.pipelineRef = some ref) :
    HasItem sh' ref := by
  obtain ⟨item', hitem', -, hsame, -⟩ := hins.keeps x item h
  exact ⟨x, item', hitem', hsame.trans href⟩

theorem Inserts.hasItem_old (hins : Inserts sh sh' ordered tradedIn) (h : HasItem sh ref) :
    HasItem sh' ref := by
  obtain ⟨x, item, hitem, href⟩ := h
  exact hins.hasItem (.inl hitem) href

/-- The rows a confirmation of `c` inserts are the first of theirs, and with a
manual configuration the ordered car is among the rows, old or new. -/
structure NewRows (ev : Events) (sh : Shared ι) (c : Uuid) (ordered tradedIn : Option NewItem) :
    Prop where
  manual : ∀ new, ordered = some new → OrderedOk ev sh c new ∧ ¬ HasItem sh ⟨c, .manual⟩
  trade : ∀ new, tradedIn = some new → new.2.pipelineRef = some ⟨c, .tradeIn⟩ ∧
    new.2.tenantId = (ev.order c).tenantId ∧ ¬ HasItem sh ⟨c, .tradeIn⟩
  there : (ev.order c).manualConfiguration ≠ none → HasItem sh ⟨c, .manual⟩ ∨ ordered ≠ none

/-- A worker about to finish knows what its rows are. -/
theorem newRows_of_knows (hgood : Good ev sh) {valued : Option (Uuid × Uuid × Decimal)}
    (hknows : Knows ev i sh (.finishing id ordered tradedIn valued))
    (hordered : taken sh.stock.items ordered = false)
    (htradedIn : taken sh.stock.items tradedIn = false) :
    ∃ c, ev.message id = .confirmed c ∧ NewRows ev sh c ordered tradedIn := by
  obtain ⟨⟨c, hmessage, hok, -, hlocked⟩, hrow⟩ := hknows
  refine ⟨c, hmessage, ?_, ?_, ?_⟩
  · intro new hnew
    have h := hok new hnew
    exact ⟨h, hgood.fresh hordered hnew h.ref h.tenant⟩
  · intro new hnew
    obtain ⟨href, htenant, -⟩ := hrow new hnew c hmessage
    exact ⟨href, htenant, hgood.fresh htradedIn hnew href htenant⟩
  · intro hmanual
    by_cases hnone : ordered = none
    · exact .inl ((hlocked hmanual).2.1 hnone)
    · exact .inr hnone

section

variable {sh : Shared ι} {c : Uuid} {ordered tradedIn : Option NewItem}

/-- Two rows under one reference are one: a new one stands where there was none. -/
theorem NewRows.unique (hnew : NewRows ev sh c ordered tradedIn) (hgood : Good ev sh)
    {x y : Uuid} {item item' : StockItem} {ref : PipelineRef}
    (hx : Origin sh.stock.items ordered tradedIn x item)
    (hy : Origin sh.stock.items ordered tradedIn y item')
    (href : item.pipelineRef = some ref) (href' : item'.pipelineRef = some ref) : x = y := by
  have hmanual : ∀ {z : Uuid} {row : StockItem}, ordered = some (z, row) →
      row.pipelineRef = some ref → ref = ⟨c, .manual⟩ := by
    intro z row hrow h
    exact Option.mem_unique h (hnew.manual _ hrow).1.ref
  have htrade : ∀ {z : Uuid} {row : StockItem}, tradedIn = some (z, row) →
      row.pipelineRef = some ref → ref = ⟨c, .tradeIn⟩ := by
    intro z row hrow h
    exact Option.mem_unique h (hnew.trade _ hrow).1
  -- each row is an old one, the ordered car or the traded-in one
  rcases hx with hx | hx | hx
  · rcases hy with hy | hy | hy
    · exact hgood.unique x y item item' ref hx hy href href'
    · exact absurd ⟨x, item, hx, hmanual hy href' ▸ href⟩ (hnew.manual _ hy).2
    · exact absurd ⟨x, item, hx, htrade hy href' ▸ href⟩ (hnew.trade _ hy).2.2
  · rcases hy with hy | hy | hy
    · exact absurd ⟨y, item', hy, hmanual hx href ▸ href'⟩ (hnew.manual _ hx).2
    · exact congrArg Prod.fst (Option.mem_unique hx hy)
    · cases (hmanual hx href).symm.trans (htrade hy href')
  · rcases hy with hy | hy | hy
    · exact absurd ⟨y, item', hy, htrade hx href ▸ href'⟩ (hnew.trade _ hx).2.2
    · cases (htrade hx href).symm.trans (hmanual hy href')
    · exact congrArg Prod.fst (Option.mem_unique hx hy)

theorem NewRows.tenants (hnew : NewRows ev sh c ordered tradedIn) (hgood : Good ev sh)
    {x : Uuid} {item : StockItem} {ref : PipelineRef}
    (hx : Origin sh.stock.items ordered tradedIn x item) (href : item.pipelineRef = some ref) :
    item.tenantId = (ev.order ref.contractId).tenantId := by
  rcases hx with hx | hx | hx
  · exact hgood.tenants x item ref hx href
  · have h := (hnew.manual _ hx).1
    obtain rfl := Option.mem_unique href h.ref
    exact h.tenant
  · obtain ⟨href', htenant, -⟩ := hnew.trade _ hx
    obtain rfl := Option.mem_unique href href'
    exact htenant

end

/-- The consumer of a confirmation inserts its rows and counts itself processed. -/
theorem Good.of_confirm (hgood : Good ev sh) {valued : Option (Uuid × Uuid × Decimal)}
    {middle items : Table Uuid StockItem}
    (hknows : Knows ev i sh (.finishing id ordered tradedIn valued))
    (hordered : taken sh.stock.items ordered = false)
    (htradedIn : taken sh.stock.items tradedIn = false)
    (hmiddle : insertNew sh.stock.items ordered = .ok middle)
    (hitems : insertNew middle tradedIn = .ok items)
    (hstock : sh'.stock = { sh.stock with items := setValuation valued items })
    (hprocessed : sh'.processed = id :: sh.processed)
    (hreleased : sh'.releasedByHand = sh.releasedByHand) : Good ev sh' := by
  obtain ⟨c, hmessage, hnew⟩ := newRows_of_knows hgood hknows hordered htradedIn
  have hknown : ∀ c, Known ev sh' c ↔ Known ev sh c := fun c => known_congr (by rw [hstock]) c
  have hins := inserts_of_confirm hmiddle hitems hstock
  refine ⟨?_, ?_, ?_, ?_, ?_, ?_⟩
  · -- the references stay unique
    intro x y item item' ref hx hy href href'
    obtain ⟨old, hold, -, hsame, -⟩ := hins.origin x _ hx
    obtain ⟨old', hold', -, hsame', -⟩ := hins.origin y _ hy
    exact hnew.unique hgood hold hold' (hsame.symm.trans href) (hsame'.symm.trans href')
  · intro x item ref hx href
    obtain ⟨old, hold, -, hsame, htenant⟩ := hins.origin x _ hx
    exact htenant.trans (hnew.tenants hgood hold (hsame.symm.trans href))
  · -- an old item keeps its holder; a staged one has the holder its worker gave it
    intro x item' c' hitem' href
    obtain ⟨item, hitem, hres, hsame, -⟩ := hins.origin x item' hitem'
    have hheld : HeldBy item' c' ↔ HeldBy item c' :=
      ⟨fun h => h.of_reservation hres.symm, fun h => h.of_reservation hres⟩
    have href' := hsame.symm.trans href
    rw [hknown, hreleased, hheld]
    rcases hitem with hitem | hitem | hitem
    · exact hgood.ordered x item c' hitem href'
    · have hok := (hnew.manual _ hitem).1
      obtain ⟨rfl, -⟩ := PipelineRef.mk.inj (Option.mem_unique href' hok.ref)
      by_cases hc : Known ev sh c'
      · exact .inl ⟨hc, hok.known hc⟩
      · exact .inr ⟨hc, .inl (hok.unknown hc)⟩
    · cases href'.symm.trans (hnew.trade _ hitem).1
  · -- what a consumed confirmation ordered is there
    intro id' hid' c' hc' hmanual
    rw [hprocessed] at hid'
    rcases List.mem_cons.mp hid' with rfl | hid'
    · rw [hmessage] at hc'
      cases hc'
      rcases hnew.there hmanual with h | hsome
      · exact hins.hasItem_old h
      · obtain ⟨row, hrow⟩ := Option.ne_none_iff_exists'.mp hsome
        exact hins.hasItem (.inr (.inl hrow)) (hnew.manual _ hrow).1.ref
    · exact hins.hasItem_old (hgood.confirmed id' hid' c' hc' hmanual)
  · intro id' hid' c' hc'
    rw [hprocessed] at hid'
    rw [hknown]
    rcases List.mem_cons.mp hid' with rfl | hid'
    · rw [hmessage] at hc'
      cases hc'
    · exact hgood.cancelled id' hid' c' hc'
  · intro c' hc'
    obtain ⟨id', hid', hmessage'⟩ := hgood.known c' ((hknown c').mp hc')
    exact ⟨id', hprocessed ▸ List.mem_cons_of_mem id hid', hmessage'⟩

/-- **Whatever a worker commits, the tables stay good.** -/
theorem Good.effect {lo : Local} (hgood : Good ev sh) (hknows : Knows ev i sh lo)
    (h : Effect ev sh sh' lo) : Good ev sh' := by
  cases h with
  | same _ hstock hprocessed hreleased => exact hgood.of_same hstock hprocessed hreleased
  | confirm id ordered tradedIn valued middle items h1 h2 h3 h4 hstock hprocessed hreleased =>
    exact hgood.of_confirm hknows h1 h2 h3 h4 hstock hprocessed hreleased
  | cancel now id rows hstock hprocessed hreleased =>
    exact hgood.of_cancel hknows hstock hprocessed hreleased
  | release now x _ hstock hprocessed hreleased =>
    exact hgood.of_release hstock hprocessed hreleased
  | reserve now x c r item _ hitem hfree hother hstock hprocessed hreleased =>
    exact hgood.of_reserve hitem hfree hother hstock hprocessed hreleased

end Nexotec.Delivery
