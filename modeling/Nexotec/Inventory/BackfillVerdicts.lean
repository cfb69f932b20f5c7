/-
What one contract's transaction of the backfill sees and does.

A transaction sees of the tables whether the contract's cancellation is recorded, how many items
it holds, who holds its manual item and whether that item was released before.

* **`backfillContract_eq`** — a transaction is its verdict on that view, applied;
* `quiet_apply_self`, `quiet_apply` — after it, the same contract has nothing left to write.
-/
import Nexotec.Inventory.ReservationBackfill

namespace Nexotec.Backfill

/-! ### Views and verdicts -/

structure View where
  recorded : Bool
  held : ℕ
  /-- Who holds the manual item, if it is reserved. -/
  holder : Option (Option Uuid)
  released : Bool

def holderOf (row : StockItem) : Option (Option Uuid) :=
  if row.reservationState = .reserved then some row.reservedByContractId else none

def History.tenantOf (history : History) (contractId : Uuid) : Option Uuid :=
  match history.cancellations.lookup contractId with
  | some cancellation => cancellation.tenantId
  | none => (history.items.lookup contractId).map (·.tenantId)

def view (history : History) (db : BackfillDb) (contractId : Uuid) : View where
  recorded := (history.tenantOf contractId).any fun tenantId => contractIsCancelled db tenantId contractId
  held := (history.tenantOf contractId).elim 0 fun tenantId => (heldItems db tenantId contractId).length
  holder := (history.items.lookup contractId).bind fun item =>
    (db.items.lookup item.stockItemId).bind holderOf
  released := (history.items.lookup contractId).any fun item => releasedBefore db item.stockItemId

/-- What a transaction writes. -/
inductive Decision where
  | keep
  | reserve (stockItemId tenantId : Uuid)
  | record (tenantId : Uuid) (contractLabel : String) (cancelledAt : Time)

def Decision.apply (draw : Draw) (contractId : Uuid) : Decision → BackfillDb → BackfillDb
  | .keep, db => db
  | .reserve stockItemId tenantId, db => reserveItem draw db stockItemId tenantId contractId
  | .record tenantId contractLabel cancelledAt, db =>
    recordContractCancelled draw.now db tenantId contractId contractLabel cancelledAt

def cancelledVerdict (contractId : Uuid) (cancellation : Cancellation) (item : Option ManualItem)
    (v : View) : BackfillLine × Decision :=
  let line := cancelledLine contractId cancellation item
  match cancellation.tenantId with
  | none => (line .cancellationWithoutTenant "", .keep)
  | some tenantId =>
    match item.filter fun item => item.tenantId ≠ tenantId with
    | some other => (line .tenantMismatch s!"item tenant {other.tenantId}", .keep)
    | none =>
      if v.recorded then (line .cancellationAlreadyRecorded "", .keep)
      else (line .cancellationRecorded (releasedText v.held),
        .record tenantId cancellation.contractLabel cancellation.cancelledAt)

def liveVerdict (contractId : Uuid) (item : ManualItem) (confirmation : Option (Option Uuid))
    (v : View) : BackfillLine × Decision :=
  let line := liveLine contractId item
  match confirmation with
  | none => (line .noConfirmationEvent "", .keep)
  | some confirmedTenantId =>
    if confirmedTenantId ≠ some item.tenantId then
      (line .tenantMismatch s!"confirmation tenant {idText confirmedTenantId}", .keep)
    else if v.recorded then (line .cancellationRecordedWithoutEvent "", .keep)
    else
      match v.holder with
      | some holder =>
        if holder = some contractId then (line .alreadyReserved "", .keep)
        else (line .heldByOtherContract s!"reserved by contract {idText holder}", .keep)
      | none =>
        if v.released then (line .releasedBefore "", .keep)
        else (line .reserved "", .reserve item.stockItemId item.tenantId)

def verdict (history : History) (contractId : Uuid) (v : View) : BackfillLine × Decision :=
  match history.cancellations.lookup contractId with
  | some cancellation =>
    cancelledVerdict contractId cancellation (history.items.lookup contractId) v
  | none =>
    match history.items.lookup contractId with
    | some item => liveVerdict contractId item (history.confirmations.lookup contractId) v
    | none => (⟨contractId, none, none, none, .noConfirmationEvent, ""⟩, .keep)  -- in no run

def Present (history : History) (db : BackfillDb) : Prop :=
  ∀ contractId item, history.items.lookup contractId = some item →
    ∃ row, db.items.lookup item.stockItemId = some row ∧ row.tenantId = item.tenantId ∧
      contractIdFromRef row.pipelineRef = some contractId

variable {reads : RunReads} {history : History} {db : BackfillDb} {draw : Draw} {a c : Uuid}

theorem mem_contracts : c ∈ history.contracts ↔
    (history.items.lookup c).isSome = true ∨ (history.cancellations.lookup c).isSome = true := by
  rw [History.contracts, List.mem_insertionSort, List.mem_dedup, List.mem_append, AList.lookup_isSome,
    AList.lookup_isSome, AList.mem_keys, AList.mem_keys]

variable {item : ManualItem} {row : StockItem}

theorem holder_of_row (hitem : history.items.lookup c = some item)
    (hrow : db.items.lookup item.stockItemId = some row) :
    (view history db c).holder = holderOf row := by
  rw [view]
  dsimp only
  rw [hitem, Option.bind_some, hrow, Option.bind_some]

theorem backfillContract_eq (hpresent : Present history db) (hc : c ∈ history.contracts) :
    backfillContract history draw db c = .ok ((verdict history c (view history db c)).1,
        (verdict history c (view history db c)).2.apply draw c db) := by
  unfold backfillContract verdict
  cases hcancelled : history.cancellations.lookup c with
  | some cancellation =>
    dsimp only
    have htenant : history.tenantOf c = cancellation.tenantId := by rw [History.tenantOf, hcancelled]
    unfold backfillCancelled cancelledVerdict
    cases hof : cancellation.tenantId with
    | none => rfl
    | some tenantId =>
      dsimp only
      cases (history.items.lookup c).filter fun item => item.tenantId ≠ tenantId with
      | some other => rfl
      | none =>
        have hrecorded : (view history db c).recorded = contractIsCancelled db tenantId c := by
          rw [view]
          dsimp only
          rw [htenant, hof, Option.any_some]
        have hheld : (view history db c).held = (heldItems db tenantId c).length := by
          rw [view]
          dsimp only
          rw [htenant, hof, Option.elim_some]
        dsimp only
        rw [hrecorded, hheld]
        split <;> rfl
  | none =>
    have hitems := mem_contracts.mp hc
    rw [hcancelled, Option.isSome_none] at hitems
    obtain ⟨item, hitem⟩ := Option.isSome_iff_exists.mp (hitems.resolve_right (by decide))
    -- a live contract with its item, whose row is there
    obtain ⟨row, hrow, hof, -⟩ := hpresent c item hitem
    have hholder := holder_of_row hitem hrow
    have htenant : history.tenantOf c = some item.tenantId := by
      rw [History.tenantOf, hcancelled, hitem]
      rfl
    have hrecorded : (view history db c).recorded = contractIsCancelled db item.tenantId c := by
      rw [view]
      dsimp only
      rw [htenant, Option.any_some]
    have hreleased : (view history db c).released = releasedBefore db item.stockItemId := by
      rw [view]
      dsimp only
      rw [hitem, Option.any_some]
    rw [hitem]
    dsimp only
    unfold backfillLive liveVerdict
    cases history.confirmations.lookup c with
    | none => rfl
    | some confirmedTenantId =>
      dsimp only [Option.isSome_some, Option.join_some, Bool.not_true]
      rw [if_neg (by decide), hrow, Option.filter_some, if_pos (decide_eq_true hof), hholder, hrecorded,
        hreleased]
      dsimp only
      split
      · rfl
      · split
        · rfl
        · by_cases hreserved : row.reservationState = .reserved
          · simp only [holderOf, if_pos hreserved]
            by_cases hown : row.reservedByContractId = some c
            · simp only [if_pos hown]
              rfl
            · simp only [if_neg hown]
              rfl
          · simp only [holderOf, if_neg hreserved]
            by_cases hbefore : releasedBefore db item.stockItemId = true
            · simp only [if_pos hbefore]
              rfl
            · simp only [if_neg hbefore]
              rfl

/-! ### When a verdict writes -/

variable {v : View} {x t : Uuid}

theorem liveVerdict_reserve {confirmation : Option (Option Uuid)} :
    (liveVerdict c item confirmation v).2 = .reserve x t ↔
      (confirmation = some (some item.tenantId) ∧ item.stockItemId = x ∧ item.tenantId = t) ∧
        v.recorded = false ∧ v.holder = none ∧ v.released = false := by
  unfold liveVerdict
  cases confirmation with
  | none => simp
  | some confirmedTenantId =>
    by_cases htenant : confirmedTenantId = some item.tenantId
    · cases hrecorded : v.recorded with
      | true => simp [htenant]
      | false =>
        cases hholder : v.holder with
        | some holder =>
          by_cases hown : holder = some c
          · simp [htenant, hown]
          · simp [htenant, hown]
        | none => cases hreleased : v.released <;> simp [htenant]
    · simp [htenant]

/-- **When an item is reserved**: its contract is live, confirmed in its tenant and not recorded as
cancelled, and nobody holds the item or has released it. -/
theorem verdict_reserve : (verdict history c v).2 = .reserve x t ↔
    (history.cancellations.lookup c = none ∧ history.items.lookup c = some ⟨x, t⟩ ∧
      history.confirmations.lookup c = some (some t)) ∧
    v.recorded = false ∧ v.holder = none ∧ v.released = false := by
  unfold verdict
  cases hcancelled : history.cancellations.lookup c with
  | some cancellation =>
    refine iff_of_false ?_ (fun h => by cases h.1.1)
    unfold cancelledVerdict
    dsimp only
    split
    · simp
    · split
      · simp
      · split <;> simp
  | none =>
    cases hitem : history.items.lookup c with
    | none => simp
    | some item =>
      dsimp only
      rw [liveVerdict_reserve]
      refine and_congr_left fun _ => ?_
      constructor
      · rintro ⟨hconfirmed, rfl, rfl⟩
        exact ⟨rfl, rfl, hconfirmed⟩
      · rintro ⟨-, hsame, hconfirmed⟩
        cases hsame
        exact ⟨hconfirmed, rfl, rfl⟩

/-- The cancellation that is to be recorded, if it is not yet. -/
def Recordable (history : History) (contractId tenantId : Uuid) : Prop :=
  ∃ cancellation, history.cancellations.lookup contractId = some cancellation ∧
    cancellation.tenantId = some tenantId ∧
    ∀ own, history.items.lookup contractId = some own → own.tenantId = tenantId

theorem verdict_record :
    (∃ label cancelledAt, (verdict history c v).2 = .record t label cancelledAt) ↔
      Recordable history c t ∧ v.recorded = false := by
  unfold verdict Recordable
  cases hcancelled : history.cancellations.lookup c with
  | none =>
    refine iff_of_false ?_ fun h => ?_
    · rintro ⟨label, cancelledAt, h⟩
      cases hitem : history.items.lookup c with
      | none =>
        rw [hitem] at h
        cases h
      | some item =>
        rw [hitem] at h
        dsimp only at h
        unfold liveVerdict at h
        dsimp only at h
        split at h
        · cases h
        · split at h
          · cases h
          · split at h
            · cases h
            · split at h
              · split at h <;> cases h
              · split at h <;> cases h
    · obtain ⟨⟨cancellation, hsome, -⟩, -⟩ := h
      cases hsome
  | some cancellation =>
    dsimp only
    unfold cancelledVerdict
    cases hof : cancellation.tenantId with
    | none =>
      refine iff_of_false (by simp) ?_
      rintro ⟨⟨other, hother, htenant, -⟩, -⟩
      cases hother
      rw [hof] at htenant
      cases htenant
    | some tenantId =>
      dsimp only
      cases hitem : (history.items.lookup c).filter fun item => item.tenantId ≠ tenantId with
      | some other =>
        refine iff_of_false (by simp) ?_
        rintro ⟨⟨other', hother, htenant, hown⟩, -⟩
        cases hother
        rw [hof] at htenant
        cases htenant
        obtain ⟨hmine, hne⟩ := Option.filter_eq_some_iff.mp hitem
        exact of_decide_eq_true hne (hown other hmine)
      | none =>
        -- no item of another tenant speaks against the event
        have hown : ∀ own, history.items.lookup c = some own → own.tenantId = tenantId := by
          intro own hmine
          by_contra hne
          have hkept : (history.items.lookup c).filter (fun item => item.tenantId ≠ tenantId) =
              some own := Option.filter_eq_some_iff.mpr ⟨hmine, decide_eq_true hne⟩
          rw [hitem] at hkept
          cases hkept
        cases hrecorded : v.recorded with
        | true => simp
        | false =>
          constructor
          · rintro ⟨label, cancelledAt, h⟩
            obtain ⟨rfl, -, -⟩ := Decision.record.inj h
            exact ⟨⟨cancellation, rfl, hof, hown⟩, rfl⟩
          · rintro ⟨⟨other, hother, htenant, -⟩, -⟩
            cases hother
            rw [hof] at htenant
            cases htenant
            exact ⟨_, _, rfl⟩

theorem verdict_keep_iff :
    (verdict history c v).2 = .keep ↔ ¬ (verdict history c v).1.outcome.writes := by
  unfold verdict BackfillOutcome.writes
  cases history.cancellations.lookup c with
  | some cancellation =>
    dsimp only
    unfold cancelledVerdict
    dsimp only
    split
    · simp [cancelledLine]
    · split
      · simp [cancelledLine]
      · split <;> simp [cancelledLine]
  | none =>
    cases history.items.lookup c with
    | none => simp
    | some item =>
      dsimp only
      unfold liveVerdict
      dsimp only
      split
      · simp [liveLine]
      · split
        · simp [liveLine]
        · split
          · simp [liveLine]
          · split
            · split <;> simp [liveLine]
            · split <;> simp [liveLine]

/-! ### The tables afterwards -/

theorem holderOf_eq {a : Option Uuid} :
    holderOf row = some a ↔ row.reservationState = .reserved ∧ row.reservedByContractId = a := by
  unfold holderOf
  split
  · next hreserved => simp [hreserved]
  · next hfree => simp [hfree]

theorem apply_items (draw : Draw) (a : Uuid) (db : BackfillDb) (d : Decision) :
    ∃ f : Uuid → StockItem → StockItem,
    (d.apply draw a db).items = db.items.updateAll f ∧
      ∀ x row, (f x row).tenantId = row.tenantId ∧ (f x row).pipelineRef = row.pipelineRef := by
  cases d with
  | keep => exact ⟨fun _ row => row, (Table.updateAll_id db.items).symm, fun _ _ => ⟨rfl, rfl⟩⟩
  | reserve stockItemId tenantId =>
    refine ⟨_, rfl, fun x row => ?_⟩
    split <;> exact ⟨rfl, rfl⟩
  | record tenantId contractLabel cancelledAt =>
    refine ⟨_, rfl, fun x row => ?_⟩
    split <;> exact ⟨rfl, rfl⟩

theorem apply_outbox (draw : Draw) (a : Uuid) (db : BackfillDb) (d : Decision) :
    ∃ new, (d.apply draw a db).outbox = db.outbox ++ new ∧
    ∀ message ∈ new, message.isConfirmation = false ∧ message.isCancellation = false := by
  cases d with
  | keep => exact ⟨[], (List.append_nil _).symm, fun message hmem => by cases hmem⟩
  | reserve stockItemId tenantId =>
    refine ⟨_, rfl, fun message hmem => ?_⟩
    obtain rfl := List.mem_singleton.mp hmem
    exact ⟨rfl, rfl⟩
  | record tenantId contractLabel cancelledAt =>
    refine ⟨_, rfl, fun message hmem => ?_⟩
    obtain ⟨e, -, rfl⟩ := List.mem_map.mp hmem
    exact ⟨rfl, rfl⟩

theorem readItems_updateAll {items : Table Uuid StockItem} {f : Uuid → StockItem → StockItem}
    (hf : ∀ x row, (f x row).tenantId = row.tenantId ∧ (f x row).pipelineRef = row.pipelineRef) :
    readItems reads (items.updateAll f) = readItems reads items := by
  have hentry : ∀ e : Σ _ : Uuid, StockItem, manualEntry ⟨e.1, f e.1 e.2⟩ = manualEntry e := by
    intro e
    obtain ⟨htenant, href⟩ := hf e.1 e.2
    unfold manualEntry
    rw [htenant, href]
  have hentries : (items.updateAll f).entries.filterMap manualEntry =
      items.entries.filterMap manualEntry := by
    have hmap : (items.updateAll f).entries =
        items.entries.map fun e => (⟨e.1, f e.1 e.2⟩ : Σ _ : Uuid, StockItem) := rfl
    rw [hmap, List.filterMap_map]
    exact List.filterMap_congr fun e _ => hentry e
  rw [readItems, hentries]
  rfl

theorem readPhase_apply (d : Decision) : readPhase reads (d.apply draw a db) = readPhase reads db := by
  obtain ⟨f, hitems, hf⟩ := apply_items draw a db d
  obtain ⟨new, houtbox, hnew⟩ := apply_outbox draw a db d
  have hconfirmations : new.filter (·.isConfirmation) = [] :=
    List.filter_eq_nil_iff.mpr fun message hmem => by simp [(hnew message hmem).1]
  have hcancellations : new.filter (·.isCancellation) = [] :=
    List.filter_eq_nil_iff.mpr fun message hmem => by simp [(hnew message hmem).2]
  unfold readPhase
  rw [hitems, houtbox, readItems_updateAll hf]
  unfold readConfirmations readCancellations cancellationsInOrder
  rw [List.filter_append, List.filter_append, hconfirmations, hcancellations, List.append_nil,
    List.append_nil]

theorem present_apply (d : Decision) (hpresent : Present history db) :
    Present history (d.apply draw a db) := by
  obtain ⟨f, hitems, hf⟩ := apply_items draw a db d
  intro contractId item hitem
  obtain ⟨row, hrow, htenant, href⟩ := hpresent contractId item hitem
  obtain ⟨htenant', href'⟩ := hf item.stockItemId row
  refine ⟨f item.stockItemId row, ?_, htenant'.trans htenant, ?_⟩
  · rw [hitems, Table.lookup_updateAll, hrow, Option.map_some]
  · rw [href']
    exact href

theorem present_readPhase (reads : RunReads) (db : BackfillDb) : Present (readPhase reads db) db := by
  intro contractId item hitem
  rw [readPhase, lookup_readItems, lastManualItem, Option.map_eq_some_iff] at hitem
  obtain ⟨⟨c, read⟩, hlast, rfl⟩ := hitem
  obtain ⟨hmem, hc⟩ := List.mem_filter.mp (List.mem_of_getLast? hlast)
  obtain ⟨e, he, hentry⟩ := List.mem_filterMap.mp ((reads.items_perm _).mem_iff.mp hmem)
  obtain ⟨c', href, heq⟩ := Option.map_eq_some_iff.mp hentry
  obtain ⟨rfl, rfl⟩ := Prod.mk.inj heq
  exact ⟨e.2, Table.lookup_eq_some_iff_mem.mpr he, rfl, href.trans (congrArg some (of_decide_eq_true hc))⟩

/-! ### A released item -/

theorem releasedBefore_append {new : List OutboxMessage} {db' : BackfillDb}
    (h : db'.outbox = db.outbox ++ new) : releasedBefore db' x = true ↔ releasedBefore db x = true ∨
      ∃ message ∈ new, message.aggregateId = x ∧ ∃ r, message.event = .stockItemReleased r := by
  unfold releasedBefore
  rw [h, List.any_append, Bool.or_eq_true]
  refine or_congr_right ?_
  rw [List.any_eq_true]
  refine exists_congr fun message => and_congr_right fun _ => ?_
  rw [Bool.and_eq_true, decide_eq_true_eq]
  refine and_congr_right fun _ => ?_
  cases message.event <;> simp

theorem releasedBefore_reserve {y : Uuid} :
    releasedBefore (reserveItem draw db x t a) y = releasedBefore db y := by
  rw [Bool.eq_iff_iff, releasedBefore_append rfl]
  refine or_iff_left ?_
  rintro ⟨message, hmem, -, r, hevent⟩
  obtain rfl := List.mem_singleton.mp hmem
  cases hevent

variable {label : String} {cancelledAt now : Time}

theorem releasedBefore_record (hrow : db.items.lookup x = some row) :
    releasedBefore (recordContractCancelled now db t a label cancelledAt) x =
      (releasedBefore db x || heldBy t a row) := by
  rw [Bool.eq_iff_iff, releasedBefore_append rfl, Bool.or_eq_true]
  refine or_congr_right ⟨?_, fun hheld => ?_⟩
  · rintro ⟨message, hmem, rfl, -⟩
    obtain ⟨e, he, rfl⟩ := List.mem_map.mp hmem
    obtain ⟨hentry, hheld⟩ := List.mem_filter.mp he
    have hlookup : db.items.lookup e.1 = some e.2 := Table.lookup_eq_some_iff_mem.mpr hentry
    rw [releasedEvent] at hrow
    dsimp only at hrow
    rw [hlookup] at hrow
    cases hrow
    exact hheld
  · exact ⟨releasedEvent now x row, List.mem_map.mpr ⟨⟨x, row⟩, List.mem_filter.mpr
      ⟨Table.lookup_eq_some_iff_mem.mp hrow, hheld⟩, rfl⟩, rfl, _, rfl⟩

/-! ### The views afterwards -/

/-- What becomes of the view of a contract whose item is released. -/
def View.freed (v : View) : View :=
  { v with holder := none, released := true }

variable {t' : Uuid}

theorem heldItems_reserve (hrow : db.items.lookup x = some row)
    (hfree : row.reservationState ≠ .reserved) (hne : c ≠ a) :
    heldItems (reserveItem draw db x t a) t' c = heldItems db t' c := by
  refine Table.selectKeys_updateAll fun y row' hrow' => ?_
  split
  · next hy =>
    subst hy
    rw [hrow] at hrow'
    cases hrow'
    rw [Bool.eq_iff_iff, heldBy_iff, heldBy_iff]
    refine iff_of_false ?_ fun h => hfree h.2.2
    rintro ⟨-, hholder, -⟩
    exact hne (Option.some.inj hholder).symm
  · rfl

theorem heldItems_record (hne : c ≠ a) :
    heldItems (recordContractCancelled now db t a label cancelledAt) t' c = heldItems db t' c := by
  refine Table.selectKeys_updateAll fun x row hrow => ?_
  split
  · next hheld =>
    rw [Bool.eq_iff_iff, heldBy_iff, heldBy_iff]
    refine iff_of_false ?_ ?_
    · rintro ⟨-, hholder, -⟩
      cases hholder
    · rintro ⟨-, hholder, -⟩
      rw [(heldBy_iff.mp hheld).2.1] at hholder
      exact hne (Option.some.inj hholder).symm
  · rfl

theorem contractIsCancelled_record (hne : c ≠ a) :
    contractIsCancelled (recordContractCancelled now db t a label cancelledAt) t' c =
      contractIsCancelled db t' c := by
  unfold contractIsCancelled recordContractCancelled
  dsimp only
  split
  · rfl
  · rw [AList.lookup_insert_ne fun heq => hne (Prod.mk.inj heq).2]

theorem view_reserve (hpresent : Present history db) (hitem : history.items.lookup a = some ⟨x, t⟩)
    (hholder : (view history db a).holder = none) (hne : c ≠ a) :
    view history (reserveItem draw db x t a) c = view history db c := by
  obtain ⟨row, hrow, -, href⟩ := hpresent a ⟨x, t⟩ hitem
  have hfree : row.reservationState ≠ .reserved := by
    rw [holder_of_row hitem hrow] at hholder
    intro hreserved
    rw [holderOf, if_pos hreserved] at hholder
    cases hholder
  -- no other contract has the item
  have hother : ∀ item, history.items.lookup c = some item → item.stockItemId ≠ x := by
    intro item hc heq
    obtain ⟨row', hrow', -, href'⟩ := hpresent c item hc
    rw [heq, hrow] at hrow'
    cases hrow'
    rw [href] at href'
    exact hne (Option.some.inj href').symm
  have hrows : ∀ item, history.items.lookup c = some item →
      (reserveItem draw db x t a).items.lookup item.stockItemId = db.items.lookup item.stockItemId :=
    fun item hc => Table.lookup_modify_ne (hother item hc) _ _
  unfold view
  simp only [heldItems_reserve hrow hfree hne, releasedBefore_reserve]
  cases hc : history.items.lookup c with
  | none => rfl
  | some item =>
    simp only [Option.bind_some, hrows item hc]
    rfl

theorem view_record_freed (hpresent : Present history db) (hne : c ≠ a)
    (hitem : history.items.lookup c = some item) (htenant : item.tenantId = t)
    (hholder : (view history db c).holder = some (some a)) :
    view history (recordContractCancelled now db t a label cancelledAt) c =
      (view history db c).freed := by
  obtain ⟨row, hrow, hof, -⟩ := hpresent c item hitem
  rw [holder_of_row hitem hrow, holderOf_eq] at hholder
  have hheld : heldBy t a row = true := heldBy_iff.mpr ⟨hof.trans htenant, hholder.2, hholder.1⟩
  have hafter : (recordContractCancelled now db t a label cancelledAt).items.lookup item.stockItemId =
      some (releaseAndFlush now row) := by
    rw [recordContractCancelled, Table.lookup_updateAll, hrow, Option.map_some, if_pos hheld]
  unfold view View.freed
  simp only [heldItems_record hne, contractIsCancelled_record hne, hitem, Option.bind_some, hafter,
    Option.any_some, releasedBefore_record hrow, hheld, Bool.or_true]
  rfl

theorem view_record_same (hpresent : Present history db) (hne : c ≠ a)
    (hnot : ∀ item, history.items.lookup c = some item → item.tenantId = t →
      (view history db c).holder ≠ some (some a)) :
    view history (recordContractCancelled now db t a label cancelledAt) c = view history db c := by
  unfold view
  simp only [heldItems_record hne, contractIsCancelled_record hne]
  cases hitem : history.items.lookup c with
  | none => rfl
  | some item =>
    obtain ⟨row, hrow, hof, -⟩ := hpresent c item hitem
    have hheld : heldBy t a row = false := by
      rw [Bool.eq_false_iff]
      intro hheld
      obtain ⟨htenant, hholder, hreserved⟩ := heldBy_iff.mp hheld
      refine hnot item hitem (hof.symm.trans htenant) ?_
      rw [holder_of_row hitem hrow, holderOf_eq]
      exact ⟨hreserved, hholder⟩
    have hafter : (recordContractCancelled now db t a label cancelledAt).items.lookup
        item.stockItemId = some row := by
      rw [recordContractCancelled, Table.lookup_updateAll, hrow, Option.map_some, hheld,
        if_neg (by decide)]
    simp only [Option.bind_some, hafter, Option.any_some, releasedBefore_record hrow, hheld,
      Bool.or_false, hrow]

/-- The transaction of `a` releases the item of `c`, as their views have it. -/
def Frees (history : History) (a c : Uuid) (v w : View) : Prop :=
  ∃ item, history.items.lookup c = some item ∧ Recordable history a item.tenantId ∧
    v.recorded = false ∧ w.holder = some (some a)

theorem Recordable.unique (h : Recordable history a t) (h' : Recordable history a t') : t = t' := by
  obtain ⟨cancellation, hlookup, htenant, -⟩ := h
  obtain ⟨cancellation', hlookup', htenant', -⟩ := h'
  rw [hlookup] at hlookup'
  cases hlookup'
  exact Option.mem_unique htenant htenant'

/-- Another contract's view changes in one way only: a recorded cancellation frees an item that the
cancelled contract holds and that is the other's manual item. -/
theorem view_apply (draw : Draw) (hpresent : Present history db) (hne : c ≠ a) :
    (Frees history a c (view history db a) (view history db c) →
      view history ((verdict history a (view history db a)).2.apply draw a db) c =
        (view history db c).freed) ∧ (¬ Frees history a c (view history db a) (view history db c) →
      view history ((verdict history a (view history db a)).2.apply draw a db) c =
        view history db c) := by
  cases hd : (verdict history a (view history db a)).2 with
  | keep =>
    refine ⟨?_, fun _ => rfl⟩
    rintro ⟨item, -, hrecord, hrecorded, -⟩
    obtain ⟨label, cancelledAt, hwrites⟩ := verdict_record.mpr ⟨hrecord, hrecorded⟩
    rw [hd] at hwrites
    cases hwrites
  | reserve x t =>
    obtain ⟨⟨-, hitem, -⟩, -, hholder, -⟩ := verdict_reserve.mp hd
    refine ⟨?_, fun _ => view_reserve hpresent hitem hholder hne⟩
    rintro ⟨item, -, hrecord, hrecorded, -⟩
    obtain ⟨label, cancelledAt, hwrites⟩ := verdict_record.mpr ⟨hrecord, hrecorded⟩
    rw [hd] at hwrites
    cases hwrites
  | record t label cancelledAt =>
    obtain ⟨hrecord, hrecorded⟩ := verdict_record.mp ⟨label, cancelledAt, hd⟩
    constructor
    · rintro ⟨item, hitem, hsame, -, hholder⟩
      exact view_record_freed hpresent hne hitem (hsame.unique hrecord) hholder
    · intro hnot
      refine view_record_same hpresent hne fun item hitem htenant hholder => hnot ?_
      exact ⟨item, hitem, htenant ▸ hrecord, hrecorded, hholder⟩

/-! ### Nothing left to write -/

def Quiet (history : History) (db : BackfillDb) (contractId : Uuid) : Prop :=
  (verdict history contractId (view history db contractId)).2 = .keep

theorem quiet_iff : Quiet history db c ↔
    (∀ x t, ¬ ((verdict history c (view history db c)).2 = .reserve x t)) ∧
      ∀ t, ¬ (Recordable history c t ∧ (view history db c).recorded = false) := by
  unfold Quiet
  simp only [← verdict_record]
  cases (verdict history c (view history db c)).2 with
  | keep => simp
  | reserve x t => simp
  | record t label cancelledAt => simp

theorem quiet_apply_self (hpresent : Present history db) :
    Quiet history ((verdict history c (view history db c)).2.apply draw c db) c := by
  cases hd : (verdict history c (view history db c)).2 with
  | keep => exact hd
  | reserve x t =>
    obtain ⟨⟨hlive, hitem, -⟩, -⟩ := verdict_reserve.mp hd
    obtain ⟨row, hrow, -⟩ := hpresent c ⟨x, t⟩ hitem
    have hafter : (reserveItem draw db x t c).items.lookup x =
        some (reserveAndFlush draw.now c draw.reservationId row) := by
      rw [reserveItem, Table.lookup_modify_self, hrow, Option.map_some]
    have hholder : (view history (reserveItem draw db x t c) c).holder = some (some c) :=
      (holder_of_row hitem hafter).trans (if_pos rfl)
    refine quiet_iff.mpr ⟨fun x' t' hwrites => ?_, fun t' hrecord => ?_⟩
    · have hnone := (verdict_reserve.mp hwrites).2.2.1
      rw [Decision.apply, hholder] at hnone
      cases hnone
    · obtain ⟨cancellation, hcancelled, -⟩ := hrecord.1
      rw [hlive] at hcancelled
      cases hcancelled
  | record t label cancelledAt =>
    obtain ⟨hrecord, -⟩ := verdict_record.mp ⟨label, cancelledAt, hd⟩
    obtain ⟨cancellation, hcancelled, htenant, -⟩ := hrecord
    have hrecorded : (view history (recordContractCancelled draw.now db t c label cancelledAt)
        c).recorded = true := by
      have hof : history.tenantOf c = some t := by
        rw [History.tenantOf, hcancelled]
        exact htenant
      rw [view]
      dsimp only
      rw [hof, Option.any_some, contractIsCancelled, recordContractCancelled]
      dsimp only
      split
      · next hbefore => exact hbefore
      · rw [AList.lookup_insert]
        rfl
    refine quiet_iff.mpr ⟨fun x' t' hwrites => ?_, fun t' hrecord => ?_⟩
    · have hlive := (verdict_reserve.mp hwrites).1.1
      rw [hcancelled] at hlive
      cases hlive
    · have hfalse := hrecord.2
      rw [Decision.apply, hrecorded] at hfalse
      cases hfalse

theorem quiet_apply (hpresent : Present history db) (hne : c ≠ a) (hquiet : Quiet history db c) :
    Quiet history ((verdict history a (view history db a)).2.apply draw a db) c := by
  obtain ⟨hfreed, hsame⟩ := view_apply draw hpresent hne
  by_cases hfrees : Frees history a c (view history db a) (view history db c)
  · obtain ⟨hreserve, hrecord⟩ := quiet_iff.mp hquiet
    rw [quiet_iff, hfreed hfrees]
    refine ⟨fun x t hwrites => ?_, hrecord⟩
    have hreleased := (verdict_reserve.mp hwrites).2.2.2
    cases hreleased
  · unfold Quiet
    rw [hsame hfrees]
    exact hquiet

end Nexotec.Backfill
