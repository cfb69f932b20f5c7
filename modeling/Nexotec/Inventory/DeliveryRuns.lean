/-
Stock's consumers give the same holds in every order of deliveries.

A worker's step leaves what the others know (`Knows.transfer`, `Commits.frame`)
and what it knows itself (`step_knows`), so with `Good.effect` the invariant
holds after every run.

* `inv_run` — the invariant.
-/
import Nexotec.Inventory.DeliveryInvariant

namespace Nexotec.Delivery

open Interleaving

variable {ι : Type} {ev : Events}

/-! ### What a step leaves to the other workers -/

/-- What worker `j` relies on and another's step keeps. -/
structure Frame (ev : Events) (j : ι) (sh sh' : Shared ι) : Prop where
  contractLock : ∀ c, sh.contractLock c = some j → sh'.contractLock c = some j
  itemLock : ∀ x, sh.itemLock x = some j → sh'.itemLock x = some j
  known : ∀ c, sh.contractLock c = some j → (Known ev sh' c ↔ Known ev sh c)
  hasItem : ∀ ref, HasItem sh ref → HasItem sh' ref
  fresh : ∀ ref, sh.contractLock ref.contractId = some j →
    (ev.order ref.contractId).manualConfiguration ≠ none → HasItem sh' ref → HasItem sh ref
  locked : ∀ x item, sh.itemLock x = some j → sh.stock.items.lookup x = some item →
    ∃ item', sh'.stock.items.lookup x = some item' ∧ item'.reservation = item.reservation
  held : ∀ c x item', sh.contractLock c = some j → sh'.stock.items.lookup x = some item' →
    item'.pipelineRef = some ⟨c, .manual⟩ → HeldBy item' c →
    ∃ item, sh.stock.items.lookup x = some item ∧ item.pipelineRef = some ⟨c, .manual⟩ ∧
      HeldBy item c

variable {sh sh' : Shared ι} {c : Uuid} {new : NewItem}

theorem OrderedOk.transfer (h : OrderedOk ev sh c new) (hknown : Known ev sh' c ↔ Known ev sh c) :
    OrderedOk ev sh' c new :=
  ⟨h.ref, h.tenant, fun hc => h.known (hknown.mp hc), fun hc => h.unknown (hc ∘ hknown.mpr)⟩

variable {id : Uuid} {j : ι} {ordered : Option NewItem}

theorem Ordering.transfer (h : Ordering ev j sh id ordered) (hframe : Frame ev j sh sh') :
    Ordering ev j sh' id ordered := by
  obtain ⟨c, hmessage, hok, hnone, hlocked⟩ := h
  refine ⟨c, hmessage, ?_, hnone, ?_⟩
  · intro new hnew
    have hmanual : (ev.order c).manualConfiguration ≠ none := by
      intro heq
      rw [hnone heq] at hnew
      cases hnew
    exact (hok new hnew).transfer (hframe.known c (hlocked hmanual).1)
  · intro hmanual
    obtain ⟨hlock, hthere, hmissing⟩ := hlocked hmanual
    refine ⟨hframe.contractLock c hlock, fun heq => hframe.hasItem _ (hthere heq), ?_⟩
    exact fun hne hhas => hmissing hne (hframe.fresh _ hlock hmanual hhas)

theorem Knows.transfer {lo : Local} (h : Knows ev j sh lo) (hframe : Frame ev j sh sh') :
    Knows ev j sh' lo := by
  cases lo with
  | idle => trivial
  | begun id => trivial
  | ordering id =>
    obtain ⟨c, hmessage, hlock, hmanual⟩ := h
    exact ⟨c, hmessage, hframe.contractLock c hlock, hmanual⟩
  | inserting id =>
    obtain ⟨c, hmessage, hlock, hmanual, hmissing⟩ := h
    exact ⟨c, hmessage, hframe.contractLock c hlock, hmanual,
      fun hhas => hmissing (hframe.fresh _ hlock hmanual hhas)⟩
  | trading id ordered => exact Ordering.transfer h hframe
  | finishing id ordered tradedIn valued =>
    obtain ⟨hordering, hrow⟩ := h
    refine ⟨hordering.transfer hframe, fun new hnew c hmessage => ?_⟩
    obtain ⟨href, htenant, hmissing⟩ := hrow new hnew c hmessage
    refine ⟨href, htenant, fun hmanual hhas => hmissing hmanual ?_⟩
    obtain ⟨c', hmessage', -, -, hlocked⟩ := hordering
    obtain rfl := Message.confirmed.inj (hmessage.symm.trans hmessage')
    exact hframe.fresh _ (hlocked hmanual).1 hmanual hhas
  | recovering id role => exact h
  | cancelling id =>
    obtain ⟨c, hmessage, hlock⟩ := h
    exact ⟨c, hmessage, hframe.contractLock c hlock⟩
  | releasing id rows =>
    obtain ⟨c, hmessage, hlock, hrows, hall⟩ := h
    refine ⟨c, hmessage, hframe.contractLock c hlock, fun x hx => ?_, fun x item' hitem' href hheld => ?_⟩
    · obtain ⟨hrow, item, hitem, hheld⟩ := hrows x hx
      obtain ⟨item', hitem', hsame⟩ := hframe.locked x item hrow hitem
      exact ⟨hframe.itemLock x hrow, item', hitem', hheld.of_reservation hsame⟩
    · obtain ⟨item, hitem, href', hheld'⟩ := hframe.held c x item' hlock hitem' href hheld
      exact hall x item hitem href' hheld'

section

variable {i j : ι} {sh sh' : Shared ι}

theorem frame_of_same (hj : j ≠ i) (hlocks : KeepsLocks i sh sh') (hstock : sh'.stock = sh.stock) :
    Frame ev j sh sh' where
  contractLock := (hlocks j hj).1
  itemLock := (hlocks j hj).2
  known := fun c _ => known_congr (by rw [hstock]) c
  hasItem := by
    intro ref h
    simpa only [HasItem, hstock] using h
  fresh := by
    intro ref _ _ h
    simpa only [HasItem, hstock] using h
  locked := fun x item _ hitem => ⟨item, by rw [hstock]; exact hitem, rfl⟩
  held := by
    intro c x item _ hitem href hheld
    exact ⟨item, by rwa [hstock] at hitem, href, hheld⟩

theorem frame_of_modify (hj : j ≠ i) (hlocks : KeepsLocks i sh sh') {x : Uuid}
    {f : StockItem → StockItem} (hfree : sh.itemLock x = none)
    (hstock : sh'.stock = { sh.stock with items := sh.stock.items.modify x f })
    (hf : ∀ item, (f item).pipelineRef = item.pipelineRef ∧ (f item).tenantId = item.tenantId)
    (hnot : ∀ item c, sh.stock.items.lookup x = some item →
      item.pipelineRef = some ⟨c, .manual⟩ → ¬ HeldBy (f item) c) : Frame ev j sh sh' where
  contractLock := (hlocks j hj).1
  itemLock := (hlocks j hj).2
  known := fun c _ => known_congr (by rw [hstock]) c
  hasItem := fun ref => ((rewrites_modify hstock hf).hasItem ref).mpr
  fresh := fun ref _ _ => ((rewrites_modify hstock hf).hasItem ref).mp
  locked := by
    intro y item hlock hitem
    have hne : y ≠ x := by
      intro heq
      rw [heq, hfree] at hlock
      cases hlock
    refine ⟨item, ?_, rfl⟩
    rw [hstock, Table.lookup_modify_ne hne]
    exact hitem
  held := by
    intro c y item' _ hitem' href hheld
    rw [hstock, Table.lookup_modify] at hitem'
    by_cases hy : y = x
    · subst hy
      rw [if_pos rfl] at hitem'
      obtain ⟨item, hitem, rfl⟩ := Option.map_eq_some_iff.mp hitem'
      exact absurd hheld (hnot item c hitem ((hf item).1.symm.trans href))
    · rw [if_neg hy] at hitem'
      exact ⟨item', hitem', href, hheld⟩

theorem frame_of_cancel (hj : j ≠ i) (hlocks : KeepsLocks i sh sh') {now : Time} {rows : List Uuid}
    (hknows : Knows ev i sh (.releasing id rows))
    (hstock : sh'.stock = cancelStock ev now id rows sh.stock) : Frame ev j sh sh' := by
  obtain ⟨c, hmessage, hlock, hrows, -⟩ := hknows
  have hlookup : ∀ x, sh'.stock.items.lookup x = (sh.stock.items.lookup x).map
      fun item => if x ∈ rows then releaseAndFlush now item else item := by
    intro x
    rw [hstock, cancelStock, releaseItems, Table.lookup_updateAll]
  have hown : ∀ {k : Uuid} {table : Uuid → Option ι}, table k = some i → table k ≠ some j :=
    fun h h' => hj (Option.mem_unique h' h)
  refine ⟨(hlocks j hj).1, (hlocks j hj).2, ?_, ?_, ?_, ?_, ?_⟩
  · -- the recorded contract is locked by this worker, not by `j`
    intro c' hlock'
    have hne : c' ≠ c := fun heq => hown hlock (heq ▸ hlock')
    exact (known_cancelled hstock hmessage c').trans (or_iff_right hne)
  · exact fun ref => ((rewrites_release hstock).hasItem ref).mpr
  · exact fun ref _ _ => ((rewrites_release hstock).hasItem ref).mp
  · intro x item hlock' hitem
    have hx : x ∉ rows := fun hx => hown (hrows x hx).1 hlock'
    exact ⟨item, by simp [hlookup, hitem, hx], rfl⟩
  · intro c' x item' _ hitem' href hheld
    rw [hlookup] at hitem'
    obtain ⟨item, hitem, rfl⟩ := Option.map_eq_some_iff.mp hitem'
    by_cases hx : x ∈ rows
    · rw [if_pos hx] at hheld
      exact absurd hheld (not_heldBy_released now item c')
    · rw [if_neg hx] at href hheld
      exact ⟨item, hitem, href, hheld⟩

theorem frame_of_confirm (hj : j ≠ i) (hlocks : KeepsLocks i sh sh') {tradedIn : Option NewItem}
    {valued : Option (Uuid × Uuid × Decimal)}
    (hknows : Knows ev i sh (.finishing id ordered tradedIn valued))
    (hins : Inserts sh sh' ordered tradedIn)
    (hcancelled : sh'.stock.cancelledContracts = sh.stock.cancelledContracts) :
    Frame ev j sh sh' := by
  obtain ⟨⟨c, hmessage, hok, hnone, hlocked⟩, hrow⟩ := hknows
  have hown : ∀ c', sh.contractLock c' = some j → (ev.order c').manualConfiguration ≠ none →
      c' ≠ c := by
    rintro c' hlock hmanual rfl
    exact hj (Option.mem_unique hlock (hlocked hmanual).1)
  refine ⟨(hlocks j hj).1, (hlocks j hj).2, fun c _ => known_congr hcancelled c,
    fun ref => hins.hasItem_old, ?_, ?_, ?_⟩
  · -- a row under this reference would be of a contract the worker has locked itself
    rintro ref hlock hmanual ⟨x, item', hitem', href⟩
    obtain ⟨item, hitem, -, hsame, -⟩ := hins.origin x item' hitem'
    have href' := hsame.symm.trans href
    rcases hitem with hitem | hitem | hitem
    · exact ⟨x, item, hitem, href'⟩
    · obtain rfl := Option.mem_unique href' (hok _ hitem).ref
      exact absurd rfl (hown c hlock hmanual)
    · obtain rfl := Option.mem_unique href' (hrow _ hitem c hmessage).1
      exact absurd rfl (hown c hlock hmanual)
  · intro x item _ hitem
    obtain ⟨item', hitem', hsame, -⟩ := hins.keeps x item (.inl hitem)
    exact ⟨item', hitem', hsame⟩
  · intro c' x item' hlock hitem' href hheld
    obtain ⟨item, hitem, hres, hsame, -⟩ := hins.origin x item' hitem'
    have href' := hsame.symm.trans href
    rcases hitem with hitem | hitem | hitem
    · exact ⟨item, hitem, href', hheld.of_reservation hres.symm⟩
    · -- the ordered car is staged only under its contract's lock
      obtain ⟨rfl, -⟩ := PipelineRef.mk.inj (Option.mem_unique href' (hok _ hitem).ref)
      have hmanual : (ev.order c').manualConfiguration ≠ none := by
        intro heq
        rw [hnone heq] at hitem
        cases hitem
      exact absurd rfl (hown c' hlock hmanual)
    · cases href'.symm.trans (hrow _ hitem c hmessage).1

theorem Commits.frame {lo : Local} (hj : j ≠ i) (hknows : Knows ev i sh lo)
    (h : Commits ev i sh sh' lo) : Frame ev j sh sh' := by
  obtain ⟨heffect, hlocks⟩ := h
  cases heffect with
  | same _ hstock _ _ => exact frame_of_same hj hlocks hstock
  | confirm id ordered tradedIn valued middle items _ _ hmiddle hitems hstock _ _ =>
    exact frame_of_confirm hj hlocks hknows (inserts_of_confirm hmiddle hitems hstock)
      (by rw [hstock])
  | cancel now id rows hstock _ _ => exact frame_of_cancel hj hlocks hknows hstock
  | release now x hfree hstock _ _ =>
    exact frame_of_modify hj hlocks hfree hstock (fun _ => ⟨rfl, rfl⟩)
      fun item c _ _ => not_heldBy_released now item c
  | reserve now x c r item hfree hitem _ hother hstock _ _ =>
    refine frame_of_modify hj hlocks hfree hstock (fun _ => ⟨rfl, rfl⟩) ?_
    intro row c' hrow href hheld
    obtain rfl := Option.mem_unique hitem hrow
    have heq : c' = c := Option.some.inj hheld.2.symm
    exact hother (heq ▸ href)

end

/-! ### What a worker knows after its own step -/

theorem contractOf_eq (h : ev.message id = .confirmed c) : contractOf ev id = c := by
  rw [contractOf, h]
  rfl

variable {i : ι} {lo' : Local}

theorem takeLock_knows (h : takeLock ev i id sh = some (sh', lo')) : Knows ev i sh' lo' := by
  simp only [takeLock] at h
  split at h
  · next c hmessage =>
    have hc := contractOf_eq hmessage
    split at h
    · next hmanual =>
      split at h
      · cases h
        refine ⟨c, hmessage, ?_, ?_⟩
        · simp [hc]
        · rw [orderOf, hc] at hmanual
          exact Option.isSome_iff_ne_none.mp hmanual
      · cases h
    · next hmanual =>
      cases h
      refine ⟨c, hmessage, fun new hnew => (by cases hnew), fun _ => rfl, fun hsome => ?_⟩
      rw [orderOf, hc] at hmanual
      exact absurd (Option.isSome_iff_ne_none.mpr hsome) hmanual
  · next c hmessage =>
    split at h
    · cases h
      refine ⟨c, hmessage, ?_⟩
      simp [contractOf, hmessage, Message.contractId]
    · cases h

variable {reads : ConsumerReads}

theorem orderedRow_ok (hmessage : ev.message id = .confirmed c)
    (h : orderedRow ev reads id sh = .ok new) : OrderedOk ev sh c new := by
  have hc := contractOf_eq hmessage
  simp only [orderedRow, orderOf, hc] at h
  split at h
  · cases h
  · next manual hmanual =>
    obtain ⟨condition, -, h⟩ := Result.of_bind h
    obtain ⟨item, hitem, h⟩ := Result.of_bind h
    obtain ⟨hfree, href, htenant⟩ := buildPipelineItem_eq_ok hitem
    cases h
    by_cases hknown : contractIsCancelled sh.stock (ev.order c).tenantId c = true
    · simp only [if_pos hknown]
      refine ⟨href, htenant, fun _ hheld => ?_, fun hnot => absurd hknown hnot⟩
      have hstate : item.reservationState = .none := congrArg (fun p => p.1) hfree
      cases hstate.symm.trans hheld.1
    · simp only [if_neg hknown]
      exact ⟨href, htenant, fun hyes => absurd hyes hknown, fun _ => ⟨rfl, rfl⟩⟩

theorem lookForOrdered_knows (hgood : Good ev sh) (hknows : Knows ev i sh (.ordering id))
    (h : lookForOrdered ev id sh = .ok lo') : Knows ev i sh lo' := by
  obtain ⟨c, hmessage, hlock, hmanual⟩ := hknows
  simp only [lookForOrdered, orderOf, contractOf_eq hmessage] at h
  split at h
  · cases h
  obtain ⟨condition, -, h⟩ := Result.of_bind h
  split at h
  · next hfound =>
    cases h
    exact ⟨c, hmessage, fun new hnew => (by cases hnew), fun _ => rfl,
      fun _ => ⟨hlock, fun _ => hasItem_of_found hfound, fun hne => absurd rfl hne⟩⟩
  · next hmissing =>
    cases h
    exact ⟨c, hmessage, hlock, hmanual, hgood.not_hasItem hmissing⟩

theorem inserted_knows {row : NewItem} (hknows : Knows ev i sh (.inserting id))
    (h : orderedRow ev reads id sh = .ok row) : Knows ev i sh (.trading id (some row)) := by
  obtain ⟨c, hmessage, hlock, hmanual, hmissing⟩ := hknows
  refine ⟨c, hmessage, fun new hnew => ?_, fun hnone => absurd hnone hmanual,
    fun _ => ⟨hlock, nofun, fun _ => hmissing⟩⟩
  cases hnew
  exact orderedRow_ok hmessage h

theorem tradeInHalf_knows (hgood : Good ev sh) (hordering : Ordering ev i sh id ordered)
    (h : tradeInHalf ev reads id ordered sh = .ok lo') : Knows ev i sh lo' := by
  have hnone : ∀ valued, Knows ev i sh (.finishing id ordered none valued) :=
    fun _ => ⟨hordering, fun new hnew => (by cases hnew)⟩
  simp only [tradeInHalf] at h
  split at h
  · cases h
    exact hnone none
  · next tradeIn htradeIn =>
    obtain ⟨condition, -, h⟩ := Result.of_bind h
    split at h
    · obtain ⟨valued, -, h⟩ := Result.of_bind h
      cases h
      exact hnone valued
    · next hmissing =>
      obtain ⟨item, hitem, h⟩ := Result.of_bind h
      obtain ⟨valued, -, h⟩ := Result.of_bind h
      cases h
      refine ⟨hordering, fun new hnew c hmessage => ?_⟩
      cases hnew
      obtain ⟨-, href, htenant⟩ := buildPipelineItem_eq_ok hitem
      rw [orderOf, contractOf_eq hmessage] at htenant hmissing
      rw [contractOf_eq hmessage] at href
      exact ⟨href, htenant, fun _ => hgood.not_hasItem hmissing⟩

variable {x : Uuid}

theorem mem_heldItems {items : Table Uuid StockItem} {tenantId : Uuid} :
    x ∈ heldItems items tenantId c ↔
      ∃ item, items.lookup x = some item ∧ item.tenantId = tenantId ∧ HeldBy item c := by
  simp only [heldItems, List.mem_map, List.mem_filter, heldBy, decide_eq_true_eq, HeldBy]
  constructor
  · rintro ⟨e, ⟨hmem, htenant, hcontract, hstate⟩, rfl⟩
    exact ⟨e.2, Table.lookup_eq_some_iff_mem.mpr hmem, htenant, hstate, hcontract⟩
  · rintro ⟨item, hitem, htenant, hstate, hcontract⟩
    exact ⟨⟨x, item⟩, ⟨Table.lookup_eq_some_iff_mem.mp hitem, htenant, hcontract, hstate⟩, rfl⟩

theorem selectHeld_knows (hgood : Good ev sh) (hknows : Knows ev i sh (.cancelling id))
    (h : selectHeld ev i id sh = some (sh', lo')) : Knows ev i sh' lo' := by
  obtain ⟨c, hmessage, hlock⟩ := hknows
  have hc : contractOf ev id = c := by rw [contractOf, hmessage]; rfl
  simp only [selectHeld, orderOf, hc] at h
  split at h
  · cases h
    refine ⟨c, hmessage, hlock, fun x hx => ?_, fun x item hitem href hheld => ?_⟩
    · obtain ⟨item, hitem, -, hheld⟩ := mem_heldItems.mp hx
      exact ⟨if_pos hx, item, hitem, hheld⟩
    · exact mem_heldItems.mpr ⟨item, hitem, hgood.tenants x item _ hitem href, hheld⟩
  · cases h

section

variable [DecidableEq ι] {i : ι} {sh sh' : Shared ι} {lo' : Local}

/-- With a manual configuration both rows were staged under the contract's
lock, so the unique index can only refuse where there is none. -/
theorem commitConfirmed_knows {tradedIn : Option NewItem} {valued : Option (Uuid × Uuid × Decimal)}
    (hknows : Knows ev i sh (.finishing id ordered tradedIn valued))
    (h : commitConfirmed i id ordered tradedIn valued sh = (sh', lo')) : Knows ev i sh' lo' := by
  obtain ⟨⟨c, hmessage, hok, hnone, hlocked⟩, hrow⟩ := hknows
  unfold commitConfirmed at h
  split at h
  · next htaken =>
    obtain ⟨-, rfl⟩ := Prod.mk.inj h
    refine ⟨c, hmessage, ?_⟩
    by_contra hmanual
    -- the item was missing when the lock was taken, and still is
    obtain ⟨new, ref, hnew, href, hhas⟩ := hasItem_of_taken htaken
    obtain rfl := Option.mem_unique href (hok new hnew).ref
    exact (hlocked hmanual).2.2 (by rw [hnew]; exact Option.some_ne_none new) hhas
  split at h
  · next htaken =>
    obtain ⟨-, rfl⟩ := Prod.mk.inj h
    refine ⟨c, hmessage, ?_⟩
    by_contra hmanual
    obtain ⟨new, ref, hnew, href, hhas⟩ := hasItem_of_taken htaken
    obtain ⟨href', -, hmissing⟩ := hrow new hnew c hmessage
    obtain rfl := Option.mem_unique href href'
    exact hmissing hmanual hhas
  split at h
  · obtain ⟨-, rfl⟩ := Prod.mk.inj h
    trivial
  split at h
  · obtain ⟨-, rfl⟩ := Prod.mk.inj h
    trivial
  · obtain ⟨-, rfl⟩ := Prod.mk.inj h
    trivial

theorem recover_knows {role : PipelineRole} (hknows : Knows ev i sh (.recovering id role))
    (h : recover ev i reads id role sh = (sh', lo')) : Knows ev i sh' lo' := by
  obtain ⟨c, hmessage, hmanual⟩ := hknows
  have hordering : ∀ sh : Shared ι, Ordering ev i sh id none :=
    fun sh => ⟨c, hmessage, fun new hnew => (by cases hnew), fun _ => rfl,
      fun hsome => absurd hmanual hsome⟩
  unfold recover at h
  split at h
  · obtain ⟨-, rfl⟩ := Prod.mk.inj h
    trivial
  · obtain ⟨-, rfl⟩ := Prod.mk.inj h
    exact hordering sh'
  split at h
  · obtain ⟨-, rfl⟩ := Prod.mk.inj h
    trivial
  split at h
  · next hfound =>
    obtain ⟨valued, -, hfound⟩ := Result.of_bind hfound
    cases hfound
    obtain ⟨-, rfl⟩ := Prod.mk.inj h
    exact ⟨hordering sh', fun new hnew => (by cases hnew)⟩
  · obtain ⟨-, rfl⟩ := Prod.mk.inj h
    trivial

theorem orRaise_knows {result : Result Local} (hok : ∀ lo, result = .ok lo → Knows ev i sh lo)
    (h : orRaise i sh result = (sh', lo')) : Knows ev i sh' lo' := by
  cases result with
  | error e =>
    obtain ⟨-, rfl⟩ := Prod.mk.inj h
    trivial
  | ok lo =>
    cases h
    exact hok _ rfl

theorem step_knows {choice : Choice} {lo : Local} (hgood : Good ev sh) (hknows : Knows ev i sh lo)
    (h : step ev i choice sh lo = some (sh', lo')) : Knows ev i sh' lo' := by
  unfold step at h
  split at h
  · split at h
    · cases h
    · obtain ⟨-, rfl⟩ := some_inj h
      trivial
  · obtain ⟨after, -, h⟩ := Option.map_eq_some_iff.mp h
    obtain ⟨-, rfl⟩ := Prod.mk.inj h
    trivial
  · obtain ⟨after, -, h⟩ := Option.map_eq_some_iff.mp h
    obtain ⟨-, rfl⟩ := Prod.mk.inj h
    trivial
  · exact takeLock_knows h
  · exact orRaise_knows (fun _ => lookForOrdered_knows hgood hknows) (Option.some.inj h)
  · next id reads =>
    refine orRaise_knows (fun after hafter => ?_) (Option.some.inj h)
    obtain ⟨row, hrow, rfl⟩ := Result.map_eq_ok.mp hafter
    exact inserted_knows hknows hrow
  · exact orRaise_knows (fun _ => tradeInHalf_knows hgood hknows) (Option.some.inj h)
  · exact commitConfirmed_knows hknows (Option.some.inj h)
  · exact recover_knows hknows (Option.some.inj h)
  · exact selectHeld_knows hgood hknows h
  · next id rows now =>
    have hidle : (commitCancelled ev i now id rows sh).2 = .idle := by
      unfold commitCancelled
      split <;> rfl
    rw [Option.some.inj h] at hidle
    rw [show lo' = .idle from hidle]
    trivial
  · obtain ⟨-, rfl⟩ := some_inj h
    trivial
  · cases h

end

def Inv (ev : Events) (cfg : Config ι (Shared ι) Local) : Prop :=
  Holds (Good ev) (Knows ev) cfg

theorem inv_start (stock : PlainStock) : Inv ev (start stock : Config ι (Shared ι) Local) := by
  refine ⟨?_, fun _ => trivial⟩
  have hplain : ∀ {x item ref}, stock.items.lookup x = some item →
      item.pipelineRef ≠ some ref := by
    intro x item ref hitem href
    cases (stock.plain x item hitem).symm.trans href
  have hunknown : ∀ c, ¬ Known ev (start stock : Config ι (Shared ι) Local).shared c :=
    fun c h => by simp [Known, contractIsCancelled, start] at h
  refine ⟨?_, ?_, ?_, ?_, ?_, ?_⟩
  · exact fun x y item item' ref hx hy href => absurd href (hplain hx)
  · exact fun x item ref hx href => absurd href (hplain hx)
  · exact fun x item c hx href => absurd href (hplain hx)
  · exact fun id hid => (by cases hid)
  · exact fun id hid => (by cases hid)
  · exact fun c hc => absurd hc (hunknown c)

variable [DecidableEq ι] {cfg : Config ι (Shared ι) Local}

theorem inv_move (h : Inv ev cfg) (a : ι × Choice) : Inv ev (move (step ev) cfg a) := by
  refine noninterference_all ?_ ?_ h a
  · intro i choice sh lo sh' lo' hgood hknows hstep
    exact ⟨hgood.effect hknows (step_commits hstep).1, step_knows hgood hknows hstep⟩
  · intro i j choice sh lo lo' sh' lo'' hij _ hknows hother hstep
    exact hother.transfer ((step_commits hstep).frame hij.symm hknows)

theorem inv_run (stock : PlainStock) (run : List (ι × Choice)) :
    Inv ev (run.foldl (move (step ev)) (start stock)) := by
  have hmove : ∀ (cfg : Config ι (Shared ι) Local) (a : ι × Choice), Inv ev cfg →
      Inv ev (move (step ev) cfg a) := fun _ a h => inv_move h a
  exact Run.invariant hmove (inv_start stock) run

theorem releasing_keeps (h : Inv ev cfg) {rows : List Uuid}
    (hlocal : cfg.locals i = .releasing id rows) (hmessage : ev.message id = .cancelled c)
    {item : StockItem} (hitem : cfg.shared.stock.items.lookup x = some item)
    (hother : item.reservedByContractId ≠ some c) (choice : Choice) :
    (move (step ev) cfg (i, choice)).shared.stock.items.lookup x = some item := by
  obtain ⟨c', hmessage', -, hrows, -⟩ : Knows ev i cfg.shared (.releasing id rows) :=
    hlocal ▸ h.2 i
  obtain rfl := Message.cancelled.inj (hmessage.symm.trans hmessage')
  refine move_shared (P := fun sh : Shared ι => sh.stock.items.lookup x = some item) hitem ?_
  intro sh' lo' hstep
  have heffect := (step_commits hstep).1
  rw [hlocal] at heffect
  cases heffect with
  | same _ hstock _ _ =>
    rw [hstock]
    exact hitem
  | cancel now _ _ hstock _ _ =>
    have hx : x ∉ rows := by
      intro hx
      obtain ⟨-, old, hold, hheld⟩ := hrows x hx
      obtain rfl := Option.mem_unique hitem hold
      exact hother hheld.2
    rw [hstock, cancelStock, releaseItems, Table.lookup_updateAll, hitem, Option.map_some, if_neg hx]

/-- **Confirmed and cancelled events commute on Stock's side.**  After any run
of deliveries, by any number of workers, with redeliveries, duplicate emissions
and broken transactions:

* one item at most has a given `pipeline_ref`;
* once both events of a contract are consumed it does not hold its manual item;
* with only confirmations consumed it does, unless the item was released by
  hand;
* a cancellation leaves every item of another holder as it is. -/
theorem deliveries_commute (ev : Events) (stock : PlainStock) (run : List (ι × Choice)) :
    let cfg : Config ι (Shared ι) Local := run.foldl (move (step ev)) (start stock)
    let items := cfg.shared.stock.items
    (∀ x y item item' ref, items.lookup x = some item → items.lookup y = some item' →
      item.pipelineRef = some ref → item'.pipelineRef = some ref → x = y) ∧
    (∀ c, ∀ id ∈ cfg.shared.processed, ∀ id' ∈ cfg.shared.processed,
      ev.message id = .confirmed c → ev.message id' = .cancelled c →
      ∀ x item, items.lookup x = some item → item.pipelineRef = some ⟨c, .manual⟩ →
        ¬ HeldBy item c) ∧
    (∀ c, ∀ id ∈ cfg.shared.processed, ev.message id = .confirmed c →
      (ev.order c).manualConfiguration ≠ none →
      (∀ id' ∈ cfg.shared.processed, ev.message id' ≠ .cancelled c) →
      ∃ x item, items.lookup x = some item ∧ item.pipelineRef = some ⟨c, .manual⟩ ∧
        (HeldBy item c ∨ x ∈ cfg.shared.releasedByHand)) ∧
    (∀ i id rows c, cfg.locals i = .releasing id rows → ev.message id = .cancelled c →
      ∀ x item, items.lookup x = some item → item.reservedByContractId ≠ some c → ∀ choice,
        (move (step ev) cfg (i, choice)).shared.stock.items.lookup x = some item) := by
  intro cfg items
  have hinv : Inv ev cfg := inv_run stock run
  have hgood : Good ev cfg.shared := hinv.1
  refine ⟨hgood.unique, ?_, ?_, ?_⟩
  · intro c id _ id' hid' _ hcancelled x item hitem href
    have hknown := hgood.cancelled id' hid' c hcancelled
    rcases hgood.ordered x item c hitem href with ⟨-, hnot⟩ | ⟨hunknown, -⟩
    · exact hnot
    · exact absurd hknown hunknown
  · intro c id hid hmessage hmanual honly
    obtain ⟨x, item, hitem, href⟩ := hgood.confirmed id hid c hmessage hmanual
    refine ⟨x, item, hitem, href, ?_⟩
    rcases hgood.ordered x item c hitem href with ⟨hknown, -⟩ | ⟨-, h⟩
    · obtain ⟨id', hid', hcancelled⟩ := hgood.known c hknown
      exact absurd hcancelled (honly id' hid')
    · exact h
  · intro i id rows c hlocal hmessage x item hitem hother choice
    exact releasing_keeps hinv hlocal hmessage hitem hother choice

/-! ### A confirmation that arrives late -/

/-- Contracts 1 to 3 ordered a car; 1 has a duplicate confirmation, 1 and 3 are
cancelled. -/
def lateEvents : Events where
  message := fun id =>
    if id = 20 then .cancelled 1 else if id = 40 then .cancelled 3
    else if id = 30 then .confirmed 2 else .confirmed 1
  order := fun _ =>
    { tenantId := 1
      manualConfiguration := some
        { vehicleLabel := some "Golf", condition := some "new", configurationId := none }
      tradeIn := some { vehicleLabel := some "Polo", configurationId := none, valuationId := none } }

def confirmation (worker : Bool) (id : Uuid) (k : Uuid) : List (Bool × Choice) :=
  let reads : ConsumerReads := { uuid := fun j => k + j }
  [(worker, .begin id), (worker, .lock), (worker, .look), (worker, .insert reads),
    (worker, .tradeIn reads), (worker, .commit 0)]

/-- The first delivery of 10 breaks while the cancellation waits for the lock,
and is retried after it; a duplicate emission and contract 2's confirmation
follow, and the second worker stops with contract 3's items selected. -/
def lateRun : List (Bool × Choice) :=
  [(false, .begin 10), (false, .lock), (true, .begin 20), (true, .lock), (false, .look),
    (false, .fail), (true, .lock), (true, .select), (true, .commit 0)] ++
  confirmation false 10 100 ++ confirmation true 11 200 ++ confirmation false 30 300 ++
  [(true, .begin 40), (true, .lock), (true, .select)]

def emptyStock : PlainStock := ⟨∅, fun _ _ h => nomatch h⟩

def lateConfig : Config Bool (Shared Bool) Local :=
  lateRun.foldl (move (step lateEvents)) (start emptyStock)

theorem deliveries_commute_late :
    (10 ∈ lateConfig.shared.processed ∧ 11 ∈ lateConfig.shared.processed ∧
      20 ∈ lateConfig.shared.processed) ∧
    (∀ x y item item', lateConfig.shared.stock.items.lookup x = some item →
      lateConfig.shared.stock.items.lookup y = some item' →
      item.pipelineRef = some ⟨1, .manual⟩ → item'.pipelineRef = some ⟨1, .manual⟩ → x = y) ∧
    (∃ item, lateConfig.shared.stock.items.lookup 100 = some item ∧ ¬ HeldBy item 1) ∧
    (∃ x item, lateConfig.shared.stock.items.lookup x = some item ∧
      item.pipelineRef = some ⟨2, .manual⟩ ∧
      (HeldBy item 2 ∨ x ∈ lateConfig.shared.releasedByHand)) ∧
    (∃ item, lateConfig.shared.stock.items.lookup 300 = some item ∧ ∀ choice,
      (move (step lateEvents) lateConfig (true, choice)).shared.stock.items.lookup 300
        = some item) := by
  obtain ⟨hunique, hboth, honly, hkeeps⟩ := deliveries_commute lateEvents emptyStock lateRun
  have hprocessed : lateConfig.shared.processed = [30, 11, 10, 20] := by decide +kernel
  have hin : ∀ id ∈ [30, 11, 10, 20], id ∈ lateConfig.shared.processed := by
    intro id hid
    rw [hprocessed]
    exact hid
  have hfirst : (lateConfig.shared.stock.items.lookup 100).map (fun item => item.pipelineRef)
      = some (some ⟨1, .manual⟩) := by decide +kernel
  have hother : (lateConfig.shared.stock.items.lookup 300).map
      (fun item => item.reservedByContractId) = some (some 2) := by decide +kernel
  obtain ⟨item, hitem, href⟩ := Option.map_eq_some_iff.mp hfirst
  obtain ⟨item', hitem', hreserved⟩ := Option.map_eq_some_iff.mp hother
  refine ⟨⟨hin 10 (by decide), hin 11 (by decide), hin 20 (by decide)⟩, ?_, ⟨item, hitem, ?_⟩, ?_,
    ⟨item', hitem', ?_⟩⟩
  · exact fun x y item item' hx hy => hunique x y item item' ⟨1, .manual⟩ hx hy
  · exact hboth 1 10 (hin 10 (by decide)) 20 (hin 20 (by decide)) rfl rfl 100 item hitem href
  · have hnone : ∀ id ∈ [30, 11, 10, 20], lateEvents.message id ≠ .cancelled 2 := by decide
    exact honly 2 30 (hin 30 (by decide)) rfl (by decide) fun id hid => hnone id (hprocessed ▸ hid)
  · have hlocal : lateConfig.locals true = .releasing 40 [] := by rfl
    have hne : item'.reservedByContractId ≠ some 3 := by
      rw [hreserved]
      decide
    exact hkeeps true 40 [] 3 hlocal rfl 300 item' hitem' hne

end Nexotec.Delivery
