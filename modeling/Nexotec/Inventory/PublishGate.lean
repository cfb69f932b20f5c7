/-
What may be published can be transmitted.

The gate and the validator agree on every stock item but the new car without a first
registration, which the gate lets through for its model year and `_build_listing` gives
none.  One such car makes every feed of the channel be refused.
-/
import Nexotec.Inventory.MarketplaceFeed

namespace Nexotec.Marketplace

open Listing Run

variable {kundennummer : String} {st : State}

deriving instance DecidableEq for StockItem

instance (rows : Rows) (id : Uuid) : Decidable (Published rows id) :=
  decidable_of_iff (id ∈ publishedIds rows) mem_publishedIds

/-! ### The conditions -/

/-- No item is edited that is published or in the set of a transmission, and none between
the gate and the commit of its publication. -/
def Kept (st : State) : Action → Prop
  | .edit id _ => ¬ Published st.rows id ∧
      ∀ event < st.count, ∀ set ∈ (st.stage event).set, set.row id = none
  | .commit request _ _ => ∀ found ∈ st.requests request, found.target = .published →
      st.items.lookup found.id = some found.item
  | _ => True

/-- What is published is no new car without a first registration. -/
def Registered (st : State) : Action → Prop
  | .commit request _ _ => ∀ found ∈ st.requests request, found.target = .published →
      ¬ NewUnregistered found.item
  | _ => True

instance (st : State) : ∀ a, Decidable (Kept st a)
  | .edit id _ => inferInstanceAs (Decidable (_ ∧ ∀ event < st.count,
      ∀ set ∈ (st.stage event).set, set.row id = none))
  | .commit request _ _ => inferInstanceAs (Decidable (∀ found ∈ st.requests request,
      found.target = .published → st.items.lookup found.id = some found.item))
  | .getPublishing _ | .publish _ _ _ | .unpublish _ _ _ | .rollback _ | .transmit _ _ =>
    isTrue trivial

instance (st : State) : ∀ a, Decidable (Registered st a)
  | .commit request _ _ => inferInstanceAs (Decidable (∀ found ∈ st.requests request,
      found.target = .published → ¬ NewUnregistered found.item))
  | .edit _ _ | .getPublishing _ | .publish _ _ _ | .unpublish _ _ _ | .rollback _
  | .transmit _ _ => isTrue trivial

/-! ### The invariant -/

def AllValid (kundennummer : String) (rows : Rows) (items : Table Uuid StockItem) : Prop :=
  ∀ id, Published rows id → ∃ item, items.lookup id = some item ∧ Valid kundennummer id item

structure Transmittable (kundennummer : String) (st : State) : Prop where
  requests : ∀ request found, st.requests request = some found → found.target = .published →
    ∃ reads, computeBlockingConditions reads found.item = .ok []
  rows : AllValid kundennummer st.rows st.items
  sets : ∀ event set, (st.stage event).set = some set →
    AllValid kundennummer set.table st.items
  assembled : ∀ event set items, st.stage event = .assembled set items →
    AllValid kundennummer set.table items

variable {set : Snapshot} {items : Table Uuid StockItem} {id : Uuid}

theorem not_fails_of_allValid (h : AllValid kundennummer set.table items) :
    ¬ Fails kundennummer set items id := by
  rintro ⟨hpublished, message, hexamine⟩
  obtain ⟨item, hitem, row, hrow⟩ := h id hpublished
  unfold examine at hexamine
  simp only [hitem, hrow] at hexamine
  cases hexamine

theorem AllValid.edit {rows : Rows} {item : StockItem} (h : AllValid kundennummer rows items)
    (hid : ¬ Published rows id) : AllValid kundennummer rows (items.insert id item) := by
  intro id' hpublished
  have hne : id' ≠ id := by rintro rfl; exact hid hpublished
  obtain ⟨item', hitem, hvalid⟩ := h id' hpublished
  exact ⟨item', by rw [AList.lookup_insert_ne hne]; exact hitem, hvalid⟩

theorem not_published_of_row (h : set.row id = none) : ¬ Published set.table id := by
  rintro ⟨row, hrow, hstate⟩
  have hsome := row_eq_some.mpr ⟨hrow, hstate⟩
  rw [h] at hsome
  cases hsome

variable {now : Time} {actorId : Option Uuid}

theorem published_commit {request : Request}
    (h : Published (commitRequest now actorId request st).rows id) :
    Published st.rows id ∨ (id = request.id ∧ request.target = .published) := by
  have hintend : ∀ loaded stored : StockItemPublishing,
      (intend request.target now actorId loaded stored).state = .published →
      stored.state = .published ∨ request.target = .published := by
    intro loaded stored hstate
    change write loaded.state request.target stored.state = .published at hstate
    unfold write at hstate
    split at hstate
    · exact .inl hstate
    · exact .inr hstate
  unfold commitRequest at h
  split at h
  · obtain ⟨row, hrow, hstate⟩ := h
    rcases Table.lookup_insert_cases hrow with ⟨rfl, rfl⟩ | ⟨-, hold⟩
    · rcases hintend _ _ hstate with hstored | htarget
      · cases hstored
      · exact .inr ⟨rfl, htarget⟩
    · exact .inl ⟨row, hold, hstate⟩
  · next loaded stored _ hstored =>
    obtain ⟨row, hrow, hstate⟩ := h
    rcases Table.lookup_insert_cases hrow with ⟨rfl, rfl⟩ | ⟨-, hold⟩
    · rcases hintend _ _ hstate with hbefore | htarget
      · exact .inl ⟨stored, hstored, hbefore⟩
      · exact .inr ⟨rfl, htarget⟩
    · exact .inl ⟨row, hold, hstate⟩
  · exact .inl h

theorem commitRequest_frame (now : Time) (actorId : Option Uuid) (request : Request) (st : State) :
    (commitRequest now actorId request st).items = st.items ∧
      (commitRequest now actorId request st).requests = st.requests ∧
      ∀ event, (commitRequest now actorId request st).stage event = st.stage event ∨
        (commitRequest now actorId request st).stage event = .pending := by
  rcases commitRequest_eq now actorId request st with heq | ⟨row, heq⟩
  · rw [heq]
    exact ⟨rfl, rfl, fun _ => .inl rfl⟩
  · rw [heq]
    refine ⟨rfl, rfl, fun event => ?_⟩
    by_cases hevent : event = st.count
    · exact .inr (by subst hevent; exact Function.update_self _ _ _)
    · exact .inl (Function.update_of_ne hevent _ _)

theorem transmittable_at {event : ℕ} {stage : Stage} {st' : State} (h : Transmittable kundennummer st)
    (hitems : st'.items = st.items) (hrequests : st'.requests = st.requests)
    (hrows : ∀ id, Published st'.rows id ↔ Published st.rows id) (hstages : st'.stage = st.stage)
    (hset : ∀ set, stage.set = some set → (st.stage event).set = some set ∨ set.table = st.rows)
    (hassembled : ∀ set items, stage = .assembled set items → AllValid kundennummer set.table items) :
    Transmittable kundennummer (st'.at event stage) := by
  refine ⟨?_, ?_, ?_, ?_⟩
  · intro request found hfound
    change st'.requests request = some found at hfound
    rw [hrequests] at hfound
    exact h.requests request found hfound
  · intro id hpublished
    change ∃ item, st'.items.lookup id = some item ∧ _
    rw [hitems]
    exact h.rows id ((hrows id).mp hpublished)
  · intro event' set heq
    change AllValid kundennummer set.table st'.items
    rw [hitems]
    by_cases hevent : event' = event
    · subst hevent
      simp only [State.at, Function.update_self] at heq
      rcases hset set heq with hold | hnow
      · exact h.sets event' set hold
      · rw [hnow]; exact h.rows
    · simp only [State.at, Function.update_of_ne hevent, hstages] at heq
      exact h.sets event' set heq
  · intro event' set items heq
    by_cases hevent : event' = event
    · subst hevent
      simp only [State.at, Function.update_self] at heq
      exact hassembled set items heq
    · simp only [State.at, Function.update_of_ne hevent, hstages] at heq
      exact h.assembled event' set items heq

theorem transmittable_transmit (event : ℕ) (move : Move) (h : Transmittable kundennummer st) :
    Transmittable kundennummer (transmit kundennummer event move st) := by
  have hnone : ∀ {stage : Stage} {st' : State}, st'.items = st.items → st'.requests = st.requests →
      (∀ id, Published st'.rows id ↔ Published st.rows id) → st'.stage = st.stage →
      stage.set = none → Transmittable kundennummer (st'.at event stage) := by
    intro stage st' hitems hrequests hrows hstages hset
    refine transmittable_at h hitems hrequests hrows hstages (fun set heq => ?_) fun set items heq => ?_
    · rw [hset] at heq; cases heq
    · rw [heq] at hset; cases hset
  have hsame : ∀ {stage : Stage} {st' : State} {set : Snapshot}, (st.stage event).set = some set →
      st'.items = st.items → st'.requests = st.requests → st'.rows = st.rows →
      st'.stage = st.stage → stage.set = some set → (∀ set items, stage ≠ .assembled set items) →
      Transmittable kundennummer (st'.at event stage) := by
    intro stage st' set hold hitems hrequests hrows hstages hset hne
    refine transmittable_at h hitems hrequests (fun _ => by rw [hrows]) hstages
      (fun set' heq => .inl ?_) fun set' items heq => absurd heq (hne set' items)
    rw [hset] at heq
    rw [hold, heq]
  unfold transmit
  split
  · exact h
  · exact hnone rfl rfl (fun _ => Iff.rfl) rfl rfl
  · split
    · exact hnone rfl rfl (fun _ => Iff.rfl) rfl rfl
    · exact h
  · refine transmittable_at h rfl rfl (fun _ => Iff.rfl) rfl
      (fun set heq => .inr ?_) (by intros _ _ heq; cases heq)
    cases heq
    rfl
  · exact hnone rfl rfl (fun _ => published_markAll) rfl rfl
  · next set hstage =>
    have hset : (st.stage event).set = some set := by rw [hstage]; rfl
    refine transmittable_at h rfl rfl (fun _ => Iff.rfl) rfl (fun set' heq => .inl ?_) ?_
    · rw [hset]; exact heq
    · intro set' items heq
      cases heq
      exact h.sets event set hset
  · next set items now hstage =>
    dsimp only
    split
    · exact hsame (by rw [hstage]; rfl) rfl rfl rfl rfl rfl (by intros _ _ heq; cases heq)
    · exact hnone rfl rfl (fun _ => published_markAll) rfl rfl
  · next hstage => exact hsame (by rw [hstage]; rfl) rfl rfl rfl rfl rfl (by intros _ _ heq; cases heq)
  · next hstage => exact hsame (by rw [hstage]; rfl) rfl rfl rfl rfl rfl (by intros _ _ heq; cases heq)
  · next hstage => exact hsame (by rw [hstage]; rfl) rfl rfl rfl rfl rfl (by intros _ _ heq; cases heq)
  · next hstage => exact hsame (by rw [hstage]; rfl) rfl rfl rfl rfl rfl (by intros _ _ heq; cases heq)
  · exact hnone rfl rfl (fun _ => published_markAll) rfl rfl
  · exact hnone rfl rfl (fun _ => published_markAll) rfl rfl
  · exact hnone rfl rfl (fun _ => Iff.rfl) rfl rfl
  · exact h

variable {request : ℕ} {found : Request}

theorem transmittable_request (h : Transmittable kundennummer st)
    (hgate : found.target = .published →
      ∃ reads, computeBlockingConditions reads found.item = .ok []) : Transmittable kundennummer
      { st with requests := Function.update st.requests request (some found) } := by
  refine ⟨fun request' found' hfound => ?_, h.rows, h.sets, h.assembled⟩
  by_cases hrequest : request' = request
  · subst hrequest
    simp only [Function.update_self] at hfound
    cases hfound
    exact hgate
  · simp only [Function.update_of_ne hrequest] at hfound
    exact h.requests request' found' hfound

theorem transmittable_forget (h : Transmittable kundennummer st) : Transmittable kundennummer
      { st with requests := Function.update st.requests request none } := by
  refine ⟨fun request' found hfound => ?_, h.rows, h.sets, h.assembled⟩
  by_cases hrequest : request' = request
  · subst hrequest
    simp only [Function.update_self] at hfound
    cases hfound
  · simp only [Function.update_of_ne hrequest] at hfound
    exact h.requests request' found hfound

theorem transmittable_commit (hk : kundennummer ≠ "") (h : Transmittable kundennummer st)
    (hgate : found.target = .published → ∃ reads, computeBlockingConditions reads found.item = .ok [])
    (hkept : found.target = .published → st.items.lookup found.id = some found.item)
    (hregistered : found.target = .published → ¬ NewUnregistered found.item) :
    Transmittable kundennummer (commitRequest now actorId found st) := by
  obtain ⟨hitems, hrequests, hstages⟩ := commitRequest_frame now actorId found st
  refine ⟨fun request found' heq => h.requests request found' (hrequests ▸ heq), fun id hid => ?_,
    fun event set heq => ?_, fun event set items heq => ?_⟩
  · rw [hitems]
    rcases published_commit hid with hbefore | ⟨rfl, htarget⟩
    · exact h.rows id hbefore
    · obtain ⟨reads, hreads⟩ := hgate htarget
      exact ⟨found.item, hkept htarget, (gate_isOk_iff _ hk hreads).mpr (hregistered htarget)⟩
  · rw [hitems]
    rcases hstages event with hsame | hpending
    · rw [hsame] at heq; exact h.sets event set heq
    · rw [hpending] at heq; cases heq
  · rcases hstages event with hsame | hpending
    · rw [hsame] at heq; exact h.assembled event set items heq
    · rw [hpending] at heq; cases heq

theorem transmittable_next (hk : kundennummer ≠ "") (a : Action) (hsound : Sound kundennummer st)
    (h : Transmittable kundennummer st) (hkept : Kept st a) (hregistered : Registered st a) :
    Transmittable kundennummer (next kundennummer st a) := by
  cases a with
  | edit id item =>
    obtain ⟨hid, hsets⟩ := hkept
    refine ⟨h.requests, h.rows.edit hid, fun event set heq => ?_, h.assembled⟩
    change (st.stage event).set = some set at heq
    have hlt : event < st.count := hsound.lt_count fun hpending => by rw [hpending] at heq; cases heq
    exact (h.sets event set heq).edit (not_published_of_row (hsets event hlt set heq))
  | getPublishing id =>
    simp only [next]
    split
    · exact h
    · next hnone =>
      have hnone := Option.not_isSome_iff_eq_none.mp hnone
      exact ⟨h.requests, fun id' hid => h.rows id' ((published_open hnone).mp hid), h.sets, h.assembled⟩
  | publish request id reads =>
    simp only [next]
    split
    · split
      · next hgate => exact transmittable_request h fun _ => ⟨reads, hgate⟩
      · exact h
    · exact h
  | unpublish request id confirm =>
    simp only [next]
    split
    · split
      · exact transmittable_request h fun htarget => by cases htarget
      · exact h
    · exact h
  | commit request now actorId =>
    simp only [next]
    split
    · next found hfound =>
      exact transmittable_commit hk (transmittable_forget h) (h.requests request found hfound)
        (hkept found hfound) (hregistered found hfound)
    · exact h
  | rollback request => exact transmittable_forget h
  | transmit event move => exact transmittable_transmit event move h

/-! ### What may be published can be transmitted -/

/-- No transmission that has read its items refuses the feed. -/
def NeverRefused (kundennummer : String) (st : State) : Prop :=
  ∀ event set items, st.stage event = .assembled set items → ∀ id, ¬ Fails kundennummer set items id

theorem transmittable_start (kundennummer : String) : Transmittable kundennummer {} :=
  ⟨fun _ _ h => (by cases h), fun _ ⟨_, hrow, _⟩ => (by cases hrow), fun _ _ h => (by cases h),
    fun _ _ _ h => (by cases h)⟩

theorem validateListing_eq_ok {listing : MarketplaceListing} :
    validateListing kundennummer listing = .ok () ↔ ∃ row, fieldRow kundennummer listing = .ok row := by
  unfold validateListing
  cases fieldRow kundennummer listing with
  | error exc => simp [Except.map]
  | ok row => simp [Except.map]

/-- **What may be published can be transmitted**, but for the new car without a first
registration: any other item that passes the gate passes the validator of a connection with
a customer number, and where only such items are published and kept as they are, no
transmission is refused. -/
theorem publishable_is_transmittable (kundennummer : String) (hk : kundennummer ≠ "") :
    (∀ (reads : Reads) (id : Uuid) (item : StockItem),
      computeBlockingConditions reads item = .ok [] →
        (validateListing kundennummer (buildListing id item) = .ok () ↔ ¬ NewUnregistered item)) ∧
    ∀ run, Along (next kundennummer) (fun st a => Kept st a ∧ Registered st a) {} run →
      NeverRefused kundennummer (run.foldl (next kundennummer) {}) := by
  constructor
  · intro reads id item hgate
    rw [validateListing_eq_ok]
    exact gate_isOk_iff id hk hgate
  · intro run halong event set items hstage id
    have hstep : ∀ st a, (Sound kundennummer st ∧ Transmittable kundennummer st) →
        (Kept st a ∧ Registered st a) →
        Sound kundennummer (next kundennummer st a) ∧
          Transmittable kundennummer (next kundennummer st a) :=
      fun st a h hok => ⟨sound_next a h.1, transmittable_next hk a h.1 h.2 hok.1 hok.2⟩
    have hinv := invariant_along hstep
      ⟨sound_start kundennummer, transmittable_start kundennummer⟩ halong
    exact not_fails_of_allValid (hinv.2.assembled event set items hstage)

theorem publishable_is_transmittable_used :
    let run := published 1 ++ called 0 ++ published 2 ++ called 1
    validateListing "4711" (buildListing 1 car) = .ok () ∧
      NeverRefused "4711" (run.foldl (next "4711") {}) :=
  ⟨((publishable_is_transmittable "4711" (by decide)).1 ⟨true, fun _ => .ok true⟩ 1 car rfl).mpr
      (by decide),
    (publishable_is_transmittable "4711" (by decide)).2 _ (by decide +kernel)⟩

/-- A new car without a first registration passes the gate and not the validator. -/
theorem publishable_is_transmittable_refuted :
    ¬ ∀ (kundennummer : String) (reads : Reads) (id : Uuid) (item : StockItem), kundennummer ≠ "" →
      computeBlockingConditions reads item = .ok [] →
        validateListing kundennummer (buildListing id item) = .ok () := by
  intro hall
  let newCar : StockItem := { car with condition := .new, firstRegistrationDate := none }
  have hok := hall "4711" ⟨true, fun _ => .ok true⟩ 1 newCar (by decide) rfl
  cases hok

end Nexotec.Marketplace
