/-
Stock's two events at Sales (`app/sales/consumers.py`).

`inventory.stock_item.added` records a pipeline item on the manual contract it was
ordered for, `inventory.stock_item.purchased` the purchase of an item in the replica
that decides whether a contract may be invoiced. Neither asks for the other.
-/
import Nexotec.Sales.VehicleContainer

namespace Nexotec.PipelineLink

open VehicleContainer

variable {x : Uuid}

/-- A delivery of one of the two events. -/
inductive Message where
  | added (stockItemId : Uuid) (refreshedAt : Time)
  | purchased (tenantId stockItemId : Uuid)

def Message.action : Message → Action
  | .added stockItemId refreshedAt => .deliverAdded stockItemId refreshedAt
  | .purchased tenantId stockItemId => .purchased tenantId stockItemId

def deliver (s : State) (m : Message) : State :=
  advance s m.action

/-- Stock has ordered the item, and no other, for the manual configuration of the
contract. -/
structure PipelineItemOf (items : Table Uuid StockItem) (tenantId contractId x : Uuid) : Prop where
  item : ∃ item, items.lookup x = some item ∧ item.tenantId = tenantId ∧
    item.pipelineRef = some ⟨contractId, .manual⟩
  only : ∀ y item, items.lookup y = some item → item.tenantId = tenantId →
    item.pipelineRef = some ⟨contractId, .manual⟩ → y = x

def Linkable (tenantId contractId x : Uuid) (s : State) : Prop :=
  ∃ contract, s.sales.contracts.lookup contractId = some contract ∧
    contract.tenantId = tenantId ∧ contract.vehicleSource = some .manual ∧
      (contract.stockItemId = none ∨ contract.stockItemId = some x)

def Linked (tenantId contractId x : Uuid) (s : State) : Prop :=
  ∃ contract, s.sales.contracts.lookup contractId = some contract ∧
    contract.tenantId = tenantId ∧ contract.vehicleSource = some .manual ∧
      contract.stockItemId = some x

theorem Linked.linkable {tenantId contractId : Uuid} {s : State}
    (h : Linked tenantId contractId x s) : Linkable tenantId contractId x s := by
  obtain ⟨contract, hrow, htenant, hmanual, hitem⟩ := h
  exact ⟨contract, hrow, htenant, hmanual, .inr hitem⟩

/-- `SalesContract.is_invoiceable` of the contract under the id. -/
def Invoiceable (contractId : Uuid) (s : State) : Prop :=
  ∃ contract, s.sales.contracts.lookup contractId = some contract ∧
    isInvoiceable s.purchases contract.toDeal = true

theorem linkedRow_links {tenantId : Uuid} {label : Option String} {refreshedAt : Time}
    {contract : SalesContract} (htenant : contract.tenantId = tenantId)
    (hmanual : contract.vehicleSource = some .manual)
    (hitem : contract.stockItemId = none ∨ contract.stockItemId = some x) :
    let linked := linkedRow tenantId x label refreshedAt contract
    linked.tenantId = tenantId ∧ linked.vehicleSource = some .manual ∧ linked.stockItemId = some x := by
  have hother : ¬ (contract.stockItemId ≠ none ∧ contract.stockItemId ≠ some x) := by
    rintro ⟨hnone, hsome⟩
    exact hitem.elim hnone hsome
  intro linked
  unfold linked linkedRow
  rw [if_neg (by simp [htenant, hmanual]), if_neg hother]
  split
  · next hsame => exact ⟨htenant, hmanual, hsame.1⟩
  · exact ⟨htenant, hmanual, rfl⟩

section

variable {stock : StockDb} {tenantId contractId : Uuid} {s : State}

theorem added_contract (hordered : PipelineItemOf stock.items tenantId contractId x)
    (hstock : s.stock = stock) (hlinkable : Linkable tenantId contractId x s) (y : Uuid)
    (refreshedAt : Time) : (deliver s (.added y refreshedAt)).sales.contracts.lookup contractId =
        s.sales.contracts.lookup contractId ∧ y ≠ x ∨
      Linked tenantId contractId x (deliver s (.added y refreshedAt)) := by
  obtain ⟨contract, hrow, htenant, hmanual, hitem⟩ := hlinkable
  change (stockItemAdded s y refreshedAt).sales.contracts.lookup contractId = _ ∧ _ ∨
    Linked _ _ _ (stockItemAdded s y refreshedAt)
  by_cases hy : y = x
  · subst hy
    right
    obtain ⟨item, hlookup, hitemTenant, href⟩ := hordered.item
    refine ⟨linkedRow tenantId y (some item.stockNumber) refreshedAt contract, ?_,
      linkedRow_links htenant hmanual hitem⟩
    simp only [stockItemAdded, hstock, hlookup, href,
      linkManualConfigurationToPipelineItem, hitemTenant]
    rw [Table.lookup_modify, if_pos rfl, hrow, Option.map_some]
  · left
    refine ⟨?_, hy⟩
    unfold stockItemAdded
    split
    · rfl
    next item hlookup =>
    split
    · next c href =>
      simp only [linkManualConfigurationToPipelineItem]
      by_cases hc : contractId = c
      · -- another item that names this contract is another dealership's
        subst hc
        rw [hstock] at hlookup
        have hne : contract.tenantId ≠ item.tenantId := by
          intro heq
          exact hy (hordered.only y item hlookup (heq.symm.trans htenant) href)
        rw [Table.lookup_modify, if_pos rfl, hrow, Option.map_some]
        unfold linkedRow
        rw [if_pos (.inl hne)]
      · rw [Table.lookup_modify_ne hc]
    · rfl

theorem deliver_linkable (hordered : PipelineItemOf stock.items tenantId contractId x) (m : Message)
    (h : s.stock = stock ∧ Linkable tenantId contractId x s) :
    (deliver s m).stock = stock ∧ Linkable tenantId contractId x (deliver s m) := by
  obtain ⟨hstock, hlinkable⟩ := h
  cases m with
  | purchased t y => exact ⟨hstock, hlinkable⟩
  | added y refreshedAt =>
    refine ⟨?_, ?_⟩
    · change (stockItemAdded s y refreshedAt).stock = stock
      unfold stockItemAdded
      split
      · exact hstock
      · split
        · exact hstock
        · exact hstock
    · rcases added_contract hordered hstock hlinkable y refreshedAt with ⟨hsame, -⟩ | hlinked
      · unfold Linkable
        rw [hsame]
        exact hlinkable
      · exact hlinked.linkable

def Done (tenantId contractId x : Uuid) : Message → State → Prop
  | .added y _, s => y = x → Linked tenantId contractId x s
  | .purchased t y, s => (t, y) ∈ s.purchases

theorem deliver_done (hordered : PipelineItemOf stock.items tenantId contractId x) (m : Message)
    (h : s.stock = stock ∧ Linkable tenantId contractId x s) :
    Done tenantId contractId x m (deliver s m) := by
  cases m with
  | purchased t y => exact List.mem_cons_self
  | added y refreshedAt =>
    intro hy
    rcases added_contract hordered h.1 h.2 y refreshedAt with ⟨-, hne⟩ | hlinked
    · exact absurd hy hne
    · exact hlinked

theorem deliver_keeps (hordered : PipelineItemOf stock.items tenantId contractId x) (m n : Message)
    (h : s.stock = stock ∧ Linkable tenantId contractId x s) (hdone : Done tenantId contractId x n s) :
    Done tenantId contractId x n (deliver s m) := by
  have hpurchases : ∀ p ∈ s.purchases, p ∈ (deliver s m).purchases := by
    intro p hp
    cases m with
    | purchased t y => exact List.mem_cons_of_mem _ hp
    | added y refreshedAt =>
      change p ∈ (stockItemAdded s y refreshedAt).purchases
      unfold stockItemAdded
      split
      · exact hp
      · split
        · exact hp
        · exact hp
  cases n with
  | purchased t y => exact hpurchases _ hdone
  | added y refreshedAt =>
    intro hy
    cases m with
    | purchased t z => exact hdone hy
    | added z refreshedAt' =>
      rcases added_contract hordered h.1 h.2 z refreshedAt' with ⟨hsame, -⟩ | hlinked
      · unfold Linked
        rw [hsame]
        exact hdone hy
      · exact hlinked

/-- Once both have been delivered, in any order and any number, the contract may be invoiced. -/
theorem deliveries_converge (hordered : PipelineItemOf stock.items tenantId contractId x)
    (hstock : s.stock = stock) (hlinkable : Linkable tenantId contractId x s)
    {deliveries : List Message} {refreshedAt : Time} (hadded : .added x refreshedAt ∈ deliveries)
    (hpurchased : .purchased tenantId x ∈ deliveries) :
    Invoiceable contractId (deliveries.foldl deliver s) := by
  have hdone := Run.all_done (Q := Done tenantId contractId x)
    (fun s m h => deliver_linkable hordered m h) (fun s m n h hn => deliver_keeps hordered m n h hn)
    ⟨hstock, hlinkable⟩ (fun s m (_ : m ∈ deliveries) h => deliver_done hordered m h)
  obtain ⟨contract, hrow, htenant, -, hitem⟩ := hdone _ hadded rfl
  refine ⟨contract, hrow, ?_⟩
  have hmem : (tenantId, x) ∈ (deliveries.foldl deliver s).purchases := hdone _ hpurchased
  simp [isInvoiceable, hitem, htenant, hmem]

end

end Nexotec.PipelineLink
