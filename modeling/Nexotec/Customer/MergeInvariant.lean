/-
What a merge knows at each of its statements, and what it leaves to others.

`Rely i sh sh'` says how the tables may change under session `i`: the rows it
has locked stay as they are, and while it holds a customer `FOR NO KEY UPDATE`
nobody becomes merged into that customer and none of that customer's party
rows leave it.  `MergeAt` gives, for each place of a merge, the locks it holds
and what it knows of the committed rows.
-/
import Mathlib.Data.List.Dedup
import Nexotec.Customer.MergeSteps

namespace Nexotec.Customers

open Locks

variable {ι : Type}

/-! ### Names and rows of a customer -/

/-- The customer under `id` is merged into `customerId`. -/
def MergedInto (customers : Table Uuid CustomerRow) (id customerId : Uuid) : Prop :=
  ∃ c, customers.lookup id = some c ∧ c.duplicateOfCustomerId = some customerId

/-- The party row under `id` is a copy kept for `customerId`. -/
def MarkedFor (parties : Table Uuid VehicleParty) (id customerId : Uuid) : Prop :=
  ∃ p, parties.lookup id = some p ∧ p.mergedIntoCustomerId = some customerId

/-- The party row under `id` is a row of `customerId`. -/
def RowOf (parties : Table Uuid VehicleParty) (id customerId : Uuid) : Prop :=
  ∃ p, parties.lookup id = some p ∧ p.customerId = customerId

def Unmerged (customers : Table Uuid CustomerRow) (id : Uuid) : Prop :=
  ∀ c, customers.lookup id = some c → c.lifecycleStatus ≠ .merged

/-- The row holds the role of `pair` now, for a customer of the group. -/
structure Opens (sh : Shared ι) (p : VehicleParty) (pair : Pair) (groupId : Uuid) : Prop where
  vehicle : p.vehicleId = pair.1
  role : p.role = pair.2
  group : ∃ c, sh.db.customers.lookup p.customerId = some c ∧ c.groupId = groupId
  isOpen : isOpen sh.now p.effectiveTo = true

/-- What a session may assume of the others' steps. -/
structure Rely (i : ι) (sh sh' : Shared ι) : Prop where
  time : sh.now ≤ sh'.now
  grants : ∀ r m, Held sh'.grants i r m ↔ Held sh.grants i r m
  customers : ∀ id m, Held sh.grants i (.customer id) m → m.conflicts .noKeyUpdate = true →
    sh'.db.customers.lookup id = sh.db.customers.lookup id
  rows : ∀ id, Held sh.grants i (.party id) .update →
    sh'.db.parties.lookup id = sh.db.parties.lookup id
  groups : ∀ id c, sh.db.customers.lookup id = some c →
    ∃ c', sh'.db.customers.lookup id = some c' ∧ c'.groupId = c.groupId
  named : ∀ d, Held sh.grants i (.customer d) .noKeyUpdate → ∀ id,
    MergedInto sh'.db.customers id d ↔ MergedInto sh.db.customers id d
  marked : ∀ d, Held sh.grants i (.customer d) .noKeyUpdate → ∀ id,
    MarkedFor sh'.db.parties id d → MarkedFor sh.db.parties id d
  owned : ∀ d, Held sh.grants i (.customer d) .noKeyUpdate → ∀ id,
    RowOf sh.db.parties id d → RowOf sh'.db.parties id d
  pairs : ∀ d, Held sh.grants i (.customer d) .noKeyUpdate → ∀ id p',
    sh'.db.parties.lookup id = some p' → p'.customerId = d →
    ∃ p, sh.db.parties.lookup id = some p ∧ p.customerId = d ∧
      ∀ g, Held sh.grants i (.advisory (p.vehicleId, p.role) g) .update →
        p'.vehicleId = p.vehicleId ∧ p'.role = p.role
  keyed : ∀ pair g, Held sh.grants i (.advisory pair g) .update → ∀ id p',
    sh'.db.parties.lookup id = some p' → Opens sh' p' pair g →
    ∃ p, sh.db.parties.lookup id = some p ∧ p.customerId = p'.customerId ∧ Opens sh p pair g
  kept : ∀ id p c, sh.db.parties.lookup id = some p →
    sh.db.customers.lookup p.customerId = some c →
    ∃ p' c', sh'.db.parties.lookup id = some p' ∧ sh'.db.customers.lookup p'.customerId = some c' ∧
      p'.role = p.role ∧ c'.groupId = c.groupId

theorem Opens.of_now {sh sh' : Shared ι} {p : VehicleParty} {pair : Pair} {groupId : Uuid}
    (h : Opens sh' p pair groupId) (hnow : sh.now ≤ sh'.now) (hdb : sh'.db = sh.db) :
    Opens sh p pair groupId := by
  refine ⟨h.vehicle, h.role, by rw [← hdb]; exact h.group, ?_⟩
  have hopen := h.isOpen
  rcases hto : p.effectiveTo with _ | t
  · rfl
  · rw [hto] at hopen
    exact decide_eq_true (hnow.trans_lt (of_decide_eq_true hopen))

theorem rely_of_locks {i : ι} {sh sh' : Shared ι} (hnow : sh'.now = sh.now) (hdb : sh'.db = sh.db)
    (hgrants : ∀ r m, Held sh'.grants i r m ↔ Held sh.grants i r m) : Rely i sh sh' where
  time := hnow.symm.le
  grants := hgrants
  customers := fun _ _ _ _ => by rw [hdb]
  rows := fun _ _ => by rw [hdb]
  groups := fun id c hc => ⟨c, by rw [hdb]; exact hc, rfl⟩
  named := fun _ _ _ => by rw [hdb]
  marked := fun _ _ _ h => by rwa [hdb] at h
  owned := fun _ _ _ h => by rwa [hdb]
  pairs := fun _ _ _ p' hp' hof => ⟨p', by rwa [hdb] at hp', hof, fun _ _ => ⟨rfl, rfl⟩⟩
  keyed := fun _ _ _ _ p' hp' hopens =>
    ⟨p', by rwa [hdb] at hp', rfl, hopens.of_now hnow.symm.le hdb⟩
  kept := fun _ p c hp hc => ⟨p, c, by rwa [hdb], by rwa [hdb], rfl, rfl⟩

theorem rely_tick (i : ι) (now : Time) (sh : Shared ι) : Rely i sh (tick now sh) where
  time := le_max_left _ _
  grants := fun _ _ => Iff.rfl
  customers := fun _ _ _ _ => rfl
  rows := fun _ _ => rfl
  groups := fun _ c hc => ⟨c, hc, rfl⟩
  named := fun _ _ _ => Iff.rfl
  marked := fun _ _ _ h => h
  owned := fun _ _ _ h => h
  pairs := fun _ _ _ p' hp' hof => ⟨p', hp', hof, fun _ _ => ⟨rfl, rfl⟩⟩
  keyed := fun _ _ _ _ p' hp' hopens => ⟨p', hp', rfl, hopens.of_now (le_max_left _ _) rfl⟩
  kept := fun _ p c hp hc => ⟨p, c, hp, hc, rfl, rfl⟩

section Knows

variable (P : VehicleParty → Prop) (i : ι) (call : MergeCall) (sh : Shared ι)

/-- The two customers are there, in the merge's group. -/
structure Called : Prop where
  ne : call.targetId ≠ call.duplicateId
  duplicate : ∃ c, sh.db.customers.lookup call.duplicateId = some c ∧ c.groupId = call.groupId
  target : ∃ c, sh.db.customers.lookup call.targetId = some c ∧ c.groupId = call.groupId

/-- Before the customer rows: nothing but advisory locks, on the pairs held. -/
structure Unlocked (held : List Pair) : Prop where
  noCustomer : ∀ id m, ¬ Held sh.grants i (.customer id) m
  noParty : ∀ id m, ¬ Held sh.grants i (.party id) m
  advisory : ∀ pair g m, Held sh.grants i (.advisory pair g) m → pair ∈ held

/-- With the first customer row only. -/
structure HalfLocked : Prop where
  first : Held sh.grants i (.customer call.first) (call.mode call.first)
  only : ∀ id m, Held sh.grants i (.customer id) m → id = call.first
  noParty : ∀ id m, ¬ Held sh.grants i (.party id) m

/-- With both customer rows, and the earlier merges in `taken`. -/
structure Locked (taken : List Uuid) : Prop where
  duplicate : Held sh.grants i (.customer call.duplicateId) .noKeyUpdate
  target : Held sh.grants i (.customer call.targetId) .share
  only : ∀ id m, Held sh.grants i (.customer id) m →
    id = call.duplicateId ∨ id = call.targetId ∨ id ∈ taken

def Live : Prop :=
  Unmerged sh.db.customers call.duplicateId ∧ Unmerged sh.db.customers call.targetId

def OwnRows : Prop := ∀ id m, Held sh.grants i (.party id) m → RowOf sh.db.parties id call.duplicateId

/-- The rows taken are locked, and as they are committed. -/
def Taken (taken : List (Uuid × VehicleParty)) : Prop :=
  ∀ id p, (id, p) ∈ taken → sh.db.parties.lookup id = some p ∧
    p.customerId = call.duplicateId ∧ Held sh.grants i (.party id) .update

/-- The rows to write are locked; one to be closed has the start it is closed
at and was found open. -/
def Planned (writes : List (Uuid × RowWrite)) : Prop :=
  ∀ id w, (id, w) ∈ writes → ∃ p, sh.db.parties.lookup id = some p ∧
    p.customerId = call.duplicateId ∧ Held sh.grants i (.party id) .update ∧
    ∀ t, w = .close t → t = p.effectiveFrom ∧ P p

/-- The earlier merges are all there, in `pending` or locked in `taken`. -/
structure Earlier (pending taken : List Uuid) : Prop where
  names : ∀ id, id ∈ pending ∨ id ∈ taken → MergedInto sh.db.customers id call.duplicateId
  held : ∀ id ∈ taken, Held sh.grants i (.customer id) .noKeyUpdate
  all : ∀ id, MergedInto sh.db.customers id call.duplicateId → id ∈ pending ∨ id ∈ taken

/-- The kept copies are all there and locked. -/
structure Copies (writes : List (Uuid × RowWrite)) (copies : List Uuid) : Prop where
  held : ∀ id ∈ copies, Held sh.grants i (.party id) .update
  all : ∀ id, MarkedFor (applyWrites call.targetId writes sh.db.parties) id call.duplicateId →
    id ∈ copies
  groups : ∀ id ∈ copies, ∃ p c, (applyWrites call.targetId writes sh.db.parties).lookup id = some p ∧
    sh.db.customers.lookup p.customerId = some c ∧ c.groupId = call.groupId

/-- The assertion at each place of a merge.  `P` is what an open row is known to
have. -/
def MergeAt : MergeLocal → Prop
  | .reading held false => Unlocked i sh held
  | .advising held pending late false =>
    Unlocked i sh held ∧ (late = false → (held ++ pending).Pairwise (pairRank · < pairRank ·))
  | .firstRow held => Unlocked i sh held
  | .secondRow _ => HalfLocked i call sh
  | .checking _ => Locked i call sh [] ∧ OwnRows i call sh
  | .reading _ true => Locked i call sh [] ∧ Live call sh ∧ OwnRows i call sh
  | .advising _ _ late true =>
    late = true ∧ Locked i call sh [] ∧ Live call sh ∧ OwnRows i call sh
  | .readingKeys => Locked i call sh [] ∧ Live call sh ∧ OwnRows i call sh
  | .readingRows _ => Locked i call sh [] ∧ Live call sh ∧ OwnRows i call sh
  | .lockingRows _ pending taken => Locked i call sh [] ∧ Live call sh ∧ OwnRows i call sh ∧
    (∀ id ∈ pending, RowOf sh.db.parties id call.duplicateId) ∧ Taken i call sh taken
  | .readingEarlier writes => Locked i call sh [] ∧ Live call sh ∧ OwnRows i call sh ∧
    Planned P i call sh writes
  | .lockingEarlier writes pending taken => Locked i call sh taken ∧ Live call sh ∧
    OwnRows i call sh ∧ Planned P i call sh writes ∧ Earlier i call sh pending taken
  | .lockingCopies writes earlier => Locked i call sh earlier ∧ Live call sh ∧
    OwnRows i call sh ∧ Planned P i call sh writes ∧ Earlier i call sh [] earlier
  | .committing writes earlier copies => Locked i call sh earlier ∧ Live call sh ∧
    Planned P i call sh writes ∧ Earlier i call sh [] earlier ∧ Copies i call sh writes copies

def HeldPairs (held : List Pair) : Prop :=
  ∀ pair ∈ held, Held sh.grants i (.advisory pair call.groupId) .update

/-- The advisory lock of every row of the duplicate is held. -/
def Paired : Prop := ∀ id p, sh.db.parties.lookup id = some p → p.customerId = call.duplicateId →
  Held sh.grants i (.advisory (p.vehicleId, p.role) call.groupId) .update

def PairsAt : MergeLocal → Prop
  | .reading held _ | .advising held _ _ _ | .firstRow held | .secondRow held | .checking held =>
    HeldPairs i call sh held
  | .readingKeys | .readingRows _ | .lockingRows .. | .readingEarlier _ | .lockingEarlier ..
  | .lockingCopies .. | .committing .. => Paired i call sh

structure MergeKnows (lo : MergeLocal) : Prop where
  called : Called call sh
  here : MergeAt P i call sh lo
  pairs : PairsAt i call sh lo

end Knows

section Stable

variable {P : VehicleParty → Prop} {i : ι} {call : MergeCall} {sh sh' : Shared ι} {id : Uuid}
  {m : Mode} {w : RowWrite} {lo : MergeLocal}

theorem mode_conflicts (call : MergeCall) (id : Uuid) :
    (call.mode id).conflicts .noKeyUpdate = true := by
  unfold MergeCall.mode
  split <;> rfl

theorem Rely.unmerged (hrely : Rely i sh sh')
    (hheld : Held sh.grants i (.customer id) m) (hm : m.conflicts .noKeyUpdate = true)
    (h : Unmerged sh.db.customers id) : Unmerged sh'.db.customers id := by
  intro c hc
  rw [hrely.customers id m hheld hm] at hc
  exact h c hc

theorem Called.rely (h : Called call sh) (hrely : Rely i sh sh') : Called call sh' := by
  obtain ⟨c, hc, hgroup⟩ := h.duplicate
  obtain ⟨t, ht, htgroup⟩ := h.target
  obtain ⟨c', hc', hcgroup'⟩ := hrely.groups _ c hc
  obtain ⟨t', ht', htgroup'⟩ := hrely.groups _ t ht
  exact ⟨h.ne, ⟨c', hc', hcgroup'.trans hgroup⟩, ⟨t', ht', htgroup'.trans htgroup⟩⟩

theorem Unlocked.rely {held : List Pair} (h : Unlocked i sh held) (hrely : Rely i sh sh') :
    Unlocked i sh' held where
  noCustomer := fun id m hheld => h.noCustomer id m ((hrely.grants _ m).mp hheld)
  noParty := fun id m hheld => h.noParty id m ((hrely.grants _ m).mp hheld)
  advisory := fun pair g m hheld => h.advisory pair g m ((hrely.grants _ m).mp hheld)

theorem HalfLocked.rely (h : HalfLocked i call sh) (hrely : Rely i sh sh') :
    HalfLocked i call sh' where
  first := (hrely.grants _ _).mpr h.first
  only := fun id m hheld => h.only id m ((hrely.grants _ m).mp hheld)
  noParty := fun id m hheld => h.noParty id m ((hrely.grants _ m).mp hheld)

variable {taken : List Uuid}

theorem Locked.rely (h : Locked i call sh taken) (hrely : Rely i sh sh') :
    Locked i call sh' taken where
  duplicate := (hrely.grants _ _).mpr h.duplicate
  target := (hrely.grants _ _).mpr h.target
  only := fun id m hheld => h.only id m ((hrely.grants _ m).mp hheld)

theorem Live.rely (h : Live call sh) (hlocked : Locked i call sh taken) (hrely : Rely i sh sh') :
    Live call sh' :=
  ⟨hrely.unmerged hlocked.duplicate rfl h.1, hrely.unmerged hlocked.target rfl h.2⟩

theorem OwnRows.rely (h : OwnRows i call sh) (hlocked : Locked i call sh taken)
    (hrely : Rely i sh sh') : OwnRows i call sh' :=
  fun id m hheld => hrely.owned _ hlocked.duplicate id (h id m ((hrely.grants _ m).mp hheld))

theorem Taken.rely {taken : List (Uuid × VehicleParty)} (h : Taken i call sh taken)
    (hrely : Rely i sh sh') : Taken i call sh' taken := by
  intro id p hmem
  obtain ⟨hp, hof, hheld⟩ := h id p hmem
  exact ⟨(hrely.rows id hheld).trans hp, hof, (hrely.grants _ _).mpr hheld⟩

variable {writes : List (Uuid × RowWrite)}

theorem Planned.rely (h : Planned P i call sh writes) (hrely : Rely i sh sh') :
    Planned P i call sh' writes := by
  intro id w hmem
  obtain ⟨p, hp, hof, hheld, hclose⟩ := h id w hmem
  exact ⟨p, (hrely.rows id hheld).trans hp, hof, (hrely.grants _ _).mpr hheld, hclose⟩

theorem Earlier.rely {pending earlier : List Uuid} (h : Earlier i call sh pending taken)
    (hlocked : Locked i call sh earlier) (hrely : Rely i sh sh') :
    Earlier i call sh' pending taken where
  names := fun id hid => (hrely.named _ hlocked.duplicate id).mpr (h.names id hid)
  held := fun id hid => (hrely.grants _ _).mpr (h.held id hid)
  all := fun id hid => h.all id ((hrely.named _ hlocked.duplicate id).mp hid)

theorem mem_of_lookup_writes (h : writes.lookup id = some w) : (id, w) ∈ writes := by
  obtain ⟨l₁, l₂, rfl, -⟩ := List.lookup_eq_some_iff.mp h
  exact List.mem_append_right l₁ List.mem_cons_self

theorem Planned.row {p : VehicleParty} (h : Planned P i call sh writes)
    (hw : writes.lookup id = some w) (hp : sh.db.parties.lookup id = some p) :
    p.customerId = call.duplicateId ∧ Held sh.grants i (.party id) .update ∧
      ∀ t, w = .close t → t = p.effectiveFrom ∧ P p := by
  obtain ⟨p', hp', hrow⟩ := h id w (mem_of_lookup_writes hw)
  rwa [Option.mem_unique hp hp']

theorem lookup_applyWrites (targetId : Uuid) (writes : List (Uuid × RowWrite))
    (parties : Table Uuid VehicleParty) (id : Uuid) :
    (applyWrites targetId writes parties).lookup id = (parties.lookup id).map fun p =>
      match writes.lookup id with
      | some w => w.apply targetId p
      | none => p :=
  Table.lookup_updateAll _ _ _

theorem Copies.rely {earlier copies : List Uuid} (h : Copies i call sh writes copies)
    (hplanned : Planned P i call sh writes) (hlocked : Locked i call sh earlier)
    (hrely : Rely i sh sh') : Copies i call sh' writes copies where
  held := fun id hid => (hrely.grants _ _).mpr (h.held id hid)
  all := by
    rintro id ⟨q, hq, hmark⟩
    refine h.all id ?_
    rw [lookup_applyWrites] at hq
    rcases hw : writes.lookup id with _ | w
    · -- a row the merge does not write: its mark was there before
      simp only [hw, Option.map_id_fun', id_eq] at hq
      obtain ⟨p, hp, hpmark⟩ := hrely.marked _ hlocked.duplicate id ⟨q, hq, hmark⟩
      refine ⟨p, ?_, hpmark⟩
      rw [lookup_applyWrites, hp, hw]
      rfl
    · -- a row the merge writes: it is locked, so it is the same row
      obtain ⟨p, hp, -, hheld, -⟩ := hplanned id w (mem_of_lookup_writes hw)
      rw [hrely.rows id hheld] at hq
      exact ⟨q, (lookup_applyWrites _ _ _ _).trans hq, hmark⟩
  groups := by
    intro id hid
    obtain ⟨p, c, hp, hc, hgroup⟩ := h.groups id hid
    obtain ⟨c', hc', hsame⟩ := hrely.groups _ c hc
    refine ⟨p, c', ?_, hc', hsame.trans hgroup⟩
    rw [lookup_applyWrites, hrely.rows id (h.held id hid), ← lookup_applyWrites]
    exact hp

theorem Paired.rely (h : Paired i call sh) (hlocked : Locked i call sh taken)
    (hrely : Rely i sh sh') : Paired i call sh' := by
  intro id p' hp' hof
  obtain ⟨p, hp, hof', hsame⟩ := hrely.pairs _ hlocked.duplicate id p' hp' hof
  have hheld := h id p hp hof'
  obtain ⟨hv, hr⟩ := hsame _ hheld
  rw [hv, hr]
  exact (hrely.grants _ _).mpr hheld

theorem pairsAt_rely (h : MergeAt P i call sh lo) (hpairs : PairsAt i call sh lo)
    (hrely : Rely i sh sh') : PairsAt i call sh' lo := by
  cases lo with
  | reading | advising | firstRow | secondRow | checking =>
    exact fun pair hpair => (hrely.grants _ _).mpr (hpairs pair hpair)
  | readingKeys | readingRows | lockingRows | readingEarlier | lockingEarlier | lockingCopies
  | committing => exact Paired.rely hpairs h.1 hrely

/-- The assertion survives every step that keeps to `Rely`. -/
theorem mergeKnows_rely (h : MergeKnows P i call sh lo)
    (hrely : Rely i sh sh') : MergeKnows P i call sh' lo := by
  obtain ⟨hcalled, h, hpairs⟩ := h
  refine ⟨hcalled.rely hrely, ?_, pairsAt_rely h hpairs hrely⟩
  cases lo with
  | reading held rowsLocked =>
    cases rowsLocked with
    | false => exact Unlocked.rely h hrely
    | true =>
      obtain ⟨hlocked, hlive, hown⟩ := h
      exact ⟨hlocked.rely hrely, hlive.rely hlocked hrely, hown.rely hlocked hrely⟩
  | advising held pending late rowsLocked =>
    cases rowsLocked with
    | false => exact ⟨h.1.rely hrely, h.2⟩
    | true =>
      obtain ⟨hlate, hlocked, hlive, hown⟩ := h
      exact ⟨hlate, hlocked.rely hrely, hlive.rely hlocked hrely, hown.rely hlocked hrely⟩
  | firstRow held => exact Unlocked.rely h hrely
  | secondRow held => exact HalfLocked.rely h hrely
  | checking held =>
    obtain ⟨hlocked, hown⟩ := h
    exact ⟨hlocked.rely hrely, hown.rely hlocked hrely⟩
  | readingKeys =>
    obtain ⟨hlocked, hlive, hown⟩ := h
    exact ⟨hlocked.rely hrely, hlive.rely hlocked hrely, hown.rely hlocked hrely⟩
  | readingRows keys =>
    obtain ⟨hlocked, hlive, hown⟩ := h
    exact ⟨hlocked.rely hrely, hlive.rely hlocked hrely, hown.rely hlocked hrely⟩
  | lockingRows keys pending taken =>
    obtain ⟨hlocked, hlive, hown, hpending, htaken⟩ := h
    exact ⟨hlocked.rely hrely, hlive.rely hlocked hrely, hown.rely hlocked hrely,
      fun id hid => hrely.owned _ hlocked.duplicate id (hpending id hid), htaken.rely hrely⟩
  | readingEarlier writes =>
    obtain ⟨hlocked, hlive, hown, hplanned⟩ := h
    exact ⟨hlocked.rely hrely, hlive.rely hlocked hrely, hown.rely hlocked hrely,
      hplanned.rely hrely⟩
  | lockingEarlier writes pending taken =>
    obtain ⟨hlocked, hlive, hown, hplanned, hearlier⟩ := h
    exact ⟨hlocked.rely hrely, hlive.rely hlocked hrely, hown.rely hlocked hrely,
      hplanned.rely hrely, hearlier.rely hlocked hrely⟩
  | lockingCopies writes earlier =>
    obtain ⟨hlocked, hlive, hown, hplanned, hearlier⟩ := h
    exact ⟨hlocked.rely hrely, hlive.rely hlocked hrely, hown.rely hlocked hrely,
      hplanned.rely hrely, hearlier.rely hlocked hrely⟩
  | committing writes earlier copies =>
    obtain ⟨hlocked, hlive, hplanned, hearlier, hcopies⟩ := h
    exact ⟨hlocked.rely hrely, hlive.rely hlocked hrely, hplanned.rely hrely,
      hearlier.rely hlocked hrely, hcopies.rely hplanned hlocked hrely⟩

end Stable

/-! ### A merge's own steps -/

theorem pairRank_injective : Function.Injective pairRank := by
  rintro ⟨v, r⟩ ⟨v', r'⟩ h
  have hdigits : ∀ a b x y : ℕ, x < 3 → y < 3 → 3 * a + x = 3 * b + y → a = b ∧ x = y := by
    intro a b x y hx hy hxy
    constructor <;> omega
  have hr : ∀ r : VehiclePartyRole, r.rank < 3 := fun r => by cases r <;> decide
  have hranks : ∀ r r' : VehiclePartyRole, r.rank = r'.rank → r = r' := fun r r' => by
    cases r <;> cases r' <;> decide
  obtain ⟨hv, hrank⟩ := hdigits v v' _ _ (hr r) (hr r') h
  rw [hv, hranks r r' hrank]

theorem pairwise_missingPairs (parties : Table Uuid VehicleParty) (customerId : Uuid)
    (held : List Pair) :
    (missingPairs parties customerId held).Pairwise (pairRank · < pairRank ·) := by
  have : Std.Total fun a b : Pair => pairRank a ≤ pairRank b := ⟨fun a b => le_total _ _⟩
  have : IsTrans Pair fun a b => pairRank a ≤ pairRank b := ⟨fun a b c => le_trans⟩
  have hsorted := List.pairwise_insertionSort (fun a b : Pair => pairRank a ≤ pairRank b)
    ((((partiesOf parties customerId).map fun row => (row.2.vehicleId, row.2.role)).dedup).filter
      (· ∉ held))
  have hnodup : (missingPairs parties customerId held).Nodup := by
    rw [missingPairs, (List.perm_insertionSort _ _).nodup_iff]
    exact (List.nodup_dedup _).filter _
  refine (hsorted.and hnodup).imp fun {a b} hab => ?_
  exact lt_of_le_of_ne hab.1 fun heq => hab.2 (pairRank_injective heq)

/-- What the tables and the locks give every merge. -/
structure MergeBase (P : VehicleParty → Prop) (sh : Shared ι) : Prop where
  compatible : Compatible sh.grants
  openRows : ∀ id p, sh.db.parties.lookup id = some p → isOpen sh.now p.effectiveTo = true → P p
  dupMerged : ∀ id c t, sh.db.customers.lookup id = some c → c.duplicateOfCustomerId = some t →
    c.lifecycleStatus = .merged
  dupGroup : ∀ id c t, sh.db.customers.lookup id = some c → c.duplicateOfCustomerId = some t →
    ∃ t', sh.db.customers.lookup t = some t' ∧ t'.groupId = c.groupId
  markGroup : ∀ id p t, sh.db.parties.lookup id = some p → p.mergedIntoCustomerId = some t →
    ∃ c t', sh.db.customers.lookup p.customerId = some c ∧ sh.db.customers.lookup t = some t' ∧
      c.groupId = t'.groupId

section

variable {P : VehicleParty → Prop} {i : ι} {call : MergeCall} {sh : Shared ι}
  {groupId duplicateId id : Uuid}

theorem mem_earlierOf {customers : Table Uuid CustomerRow} :
    id ∈ earlierOf customers groupId duplicateId ↔ ∃ c, customers.lookup id = some c ∧
      c.duplicateOfCustomerId = some duplicateId ∧ c.groupId = groupId := by
  rw [earlierOf, List.mem_insertionSort, Table.mem_keys_filter]
  simp only [decide_eq_true_eq]

theorem mem_copiesOf {customers : Table Uuid CustomerRow} {parties : Table Uuid VehicleParty} :
    id ∈ copiesOf customers groupId duplicateId parties ↔
      ∃ p, parties.lookup id = some p ∧ namesIn customers groupId duplicateId p = true := by
  rw [copiesOf, List.mem_insertionSort]
  exact Table.mem_keys_filter

theorem earlier_earlierOf (hbase : MergeBase P sh) (hcalled : Called call sh) :
    Earlier i call sh (earlierOf sh.db.customers call.groupId call.duplicateId) [] where
  names := by
    rintro id (hid | hid)
    · obtain ⟨c, hc, hdup, -⟩ := mem_earlierOf.mp hid
      exact ⟨c, hc, hdup⟩
    · cases hid
  held := fun _ hid => by cases hid
  all := by
    rintro id ⟨c, hc, hdup⟩
    obtain ⟨d, hd, hgroup⟩ := hcalled.duplicate
    obtain ⟨d', hd', hsame⟩ := hbase.dupGroup id c call.duplicateId hc hdup
    obtain rfl := Option.mem_unique hd hd'
    exact .inl (mem_earlierOf.mpr ⟨c, hc, hdup, hsame.symm.trans hgroup⟩)

variable {keys : List PartyKey} {taken : List (Uuid × VehicleParty)}

theorem mem_planRows {now : Time} {w : RowWrite} (h : (id, w) ∈ planRows now keys taken) :
    ∃ p, (id, p) ∈ taken ∧
      ∀ t, w = .close t → t = p.effectiveFrom ∧ isOpen now p.effectiveTo = true := by
  induction taken generalizing keys with
  | nil => cases h
  | cons row taken ih =>
    obtain ⟨id', p⟩ := row
    rw [planRows] at h
    split at h
    · rcases List.mem_cons.mp h with heq | h
      · cases heq
        refine ⟨p, List.mem_cons_self, fun t ht => ?_⟩
        split at ht
        · next hopen => exact ⟨(RowWrite.close.inj ht).symm, hopen⟩
        · cases ht
      · obtain ⟨q, hq, hclose⟩ := ih h
        exact ⟨q, List.mem_cons_of_mem _ hq, hclose⟩
    · rcases List.mem_cons.mp h with heq | h
      · cases heq
        exact ⟨p, List.mem_cons_self, fun t ht => by cases ht⟩
      · obtain ⟨q, hq, hclose⟩ := ih h
        exact ⟨q, List.mem_cons_of_mem _ hq, hclose⟩

theorem planned_planRows (hbase : MergeBase P sh) (h : Taken i call sh taken) :
    Planned P i call sh (planRows sh.now keys taken) := by
  intro id w hmem
  obtain ⟨p, hp, hclose⟩ := mem_planRows hmem
  obtain ⟨hrow, hof, hheld⟩ := h id p hp
  refine ⟨p, hrow, hof, hheld, fun t ht => ?_⟩
  obtain ⟨hfrom, hopen⟩ := hclose t ht
  exact ⟨hfrom, hbase.openRows id p hrow hopen⟩

variable {writes : List (Uuid × RowWrite)}

theorem mem_copiesOf_of_marked (hbase : MergeBase P sh) (hcalled : Called call sh)
    (h : MarkedFor (applyWrites call.targetId writes sh.db.parties) id call.duplicateId) :
    id ∈ copiesOf sh.db.customers call.groupId call.duplicateId
      (applyWrites call.targetId writes sh.db.parties) := by
  obtain ⟨q, hq, hmark⟩ := h
  refine mem_copiesOf.mpr ⟨q, hq, ?_⟩
  have hgroup : (sh.db.customers.lookup q.customerId).any (·.groupId = call.groupId) = true := by
    rw [lookup_applyWrites] at hq
    obtain ⟨p, hp, hpq⟩ := Option.map_eq_some_iff.mp hq
    rcases hw : writes.lookup id with _ | w
    · -- an unwritten row: the copy's customer and the duplicate are of one group
      simp only [hw] at hpq
      subst hpq
      obtain ⟨c, d, hc, hd, hsame⟩ := hbase.markGroup id p _ hp hmark
      obtain ⟨d', hd', hdgroup⟩ := hcalled.duplicate
      obtain rfl := Option.mem_unique hd hd'
      rw [hc]
      simp [hsame, hdgroup]
    · simp only [hw] at hpq
      cases w with
      | move =>
        subst hpq
        obtain ⟨t, ht, htgroup⟩ := hcalled.target
        simp [RowWrite.apply, ht, htgroup]
      | close t =>
        subst hpq
        exact (hcalled.ne (Option.some.inj hmark)).elim
      | mark =>
        subst hpq
        exact (hcalled.ne (Option.some.inj hmark)).elim
  simp [namesIn, hmark, hgroup]

theorem startMerge_called {sh : Shared ι} {targetId : Uuid} {actorId : Option Uuid} {ifMatch : ℕ}
    {call : MergeCall} (h : startMerge sh groupId duplicateId targetId actorId ifMatch = .ok call) :
    Called call sh := by
  obtain ⟨duplicate, hduplicate, h⟩ := Result.of_bind h
  obtain ⟨-, -, h⟩ := Result.of_bind h
  split at h
  · cases h
  · next hne =>
    obtain ⟨target, htarget, h⟩ := Result.of_bind h
    obtain ⟨-, -, h⟩ := Result.of_bind h
    cases h
    exact ⟨hne, ⟨duplicate, getCustomerOr404_eq_ok hduplicate⟩, ⟨target, getCustomerOr404_eq_ok htarget⟩⟩

variable {sh' : Shared ι}

theorem Called.of_db (h : Called call sh) (hdb : sh'.db = sh.db) : Called call sh' := by
  refine ⟨h.ne, ?_, ?_⟩
  · rw [hdb]
    exact h.duplicate
  · rw [hdb]
    exact h.target

theorem Locked.acquired {taken taken' : List Uuid} (h : Locked i call sh taken)
    (hold : ∀ r m, Held sh.grants i r m → Held sh'.grants i r m)
    (hnew : ∀ id m, Held sh'.grants i (.customer id) m →
      Held sh.grants i (.customer id) m ∨ id ∈ taken') (hsub : ∀ id ∈ taken, id ∈ taken') :
    Locked i call sh' taken' where
  duplicate := hold _ _ h.duplicate
  target := hold _ _ h.target
  only := by
    intro id m hheld
    rcases hnew id m hheld with hheld | hid
    · rcases h.only id m hheld with rfl | rfl | hid
      · exact .inl rfl
      · exact .inr (.inl rfl)
      · exact .inr (.inr (hsub id hid))
    · exact .inr (.inr hid)

theorem Locked.take {taken : List Uuid} {r : Resource} {m : Mode} (h : Locked i call sh taken)
    (hr : ∀ id, r ≠ .customer id) : Locked i call (take i r m sh) taken := by
  refine h.acquired (fun _ _ hheld => held_take.mpr (.inr hheld)) (fun id m' hheld => ?_)
    fun _ hid => hid
  rcases held_take.mp hheld with ⟨-, heq, -⟩ | hheld
  · exact (hr id heq.symm).elim
  · exact .inl hheld

theorem OwnRows.take {r : Resource} {m : Mode} (h : OwnRows i call sh)
    (hr : ∀ id, r = .party id → RowOf sh.db.parties id call.duplicateId) :
    OwnRows i call (take i r m sh) := by
  intro id m' hheld
  rcases held_take.mp hheld with ⟨-, heq, -⟩ | hheld
  · exact hr id heq.symm
  · exact h id m' hheld

theorem Planned.take {writes : List (Uuid × RowWrite)} {r : Resource} {m : Mode}
    (h : Planned P i call sh writes) : Planned P i call (take i r m sh) writes := by
  intro id w hmem
  obtain ⟨p, hp, hof, hheld, hclose⟩ := h id w hmem
  exact ⟨p, hp, hof, held_take.mpr (.inr hheld), hclose⟩

variable {held : List Pair}

theorem mergeKnows_reading {rowsLocked : Bool} (h : MergeAt P i call sh (.reading held rowsLocked)) :
    MergeAt P i call sh (.advising held (missingPairs sh.db.parties call.duplicateId held)
        (held ≠ [] || rowsLocked) rowsLocked) := by
  cases rowsLocked with
  | false =>
    refine ⟨h, fun hlate => ?_⟩
    have hnil : held = [] := by simpa using hlate
    subst hnil
    exact pairwise_missingPairs _ _ _
  | true => exact ⟨by simp, h⟩

theorem mergeKnows_pair {pending : List Pair} {pair : Pair} {late rowsLocked : Bool}
    (h : MergeAt P i call sh (.advising held (pair :: pending) late rowsLocked)) :
    MergeAt P i call (take i (.advisory pair call.groupId) .update sh)
      (.advising (held ++ [pair]) pending late rowsLocked) := by
  cases rowsLocked with
  | false =>
    obtain ⟨hun, hsorted⟩ := h
    refine ⟨⟨fun id m hheld => ?_, fun id m hheld => ?_, fun pair' g m hheld => ?_⟩, fun hlate => ?_⟩
    · rcases held_take.mp hheld with ⟨-, heq, -⟩ | hheld
      · cases heq
      · exact hun.noCustomer id m hheld
    · rcases held_take.mp hheld with ⟨-, heq, -⟩ | hheld
      · cases heq
      · exact hun.noParty id m hheld
    · rcases held_take.mp hheld with ⟨-, heq, -⟩ | hheld
      · cases heq
        exact List.mem_append_right held List.mem_cons_self
      · exact List.mem_append_left [pair] (hun.advisory pair' g m hheld)
    · have := hsorted hlate
      rwa [List.append_assoc, List.singleton_append]
  | true =>
    obtain ⟨hlate, hlocked, hlive, hown⟩ := h
    exact ⟨hlate, hlocked.take fun _ => nofun, hlive, hown.take fun _ => nofun⟩

theorem mergeKnows_first (h : MergeAt P i call sh (.firstRow held)) :
    MergeAt P i call (take i (.customer call.first) (call.mode call.first) sh)
      (.secondRow held) := by
  refine ⟨held_take.mpr (.inl ⟨rfl, rfl, rfl⟩), fun id m hheld => ?_, fun id m hheld => ?_⟩
  · rcases held_take.mp hheld with ⟨-, heq, -⟩ | hheld
    · exact Resource.customer.inj heq
    · exact (h.noCustomer id m hheld).elim
  · rcases held_take.mp hheld with ⟨-, heq, -⟩ | hheld
    · cases heq
    · exact h.noParty id m hheld

theorem mergeKnows_second (hne : call.targetId ≠ call.duplicateId)
    (h : MergeAt P i call sh (.secondRow held)) :
    MergeAt P i call (take i (.customer call.second) (call.mode call.second) sh)
      (.checking held) := by
  have hboth : ∀ id, id = call.first ∨ id = call.second →
      Held (take i (.customer call.second) (call.mode call.second) sh).grants i (.customer id)
        (call.mode id) := by
    rintro id (rfl | rfl)
    · exact held_take.mpr (.inr h.first)
    · exact held_take.mpr (.inl ⟨rfl, rfl, rfl⟩)
  refine ⟨⟨?_, ?_, fun id m hheld => ?_⟩, fun id m hheld => ?_⟩
  · have hheld := hboth call.duplicateId (first_or_second.mpr (.inl rfl))
    rwa [show call.mode call.duplicateId = .noKeyUpdate from if_pos rfl] at hheld
  · have hheld := hboth call.targetId (first_or_second.mpr (.inr rfl))
    rwa [show call.mode call.targetId = .share from if_neg hne] at hheld
  · have hid : id = call.first ∨ id = call.second := by
      rcases held_take.mp hheld with ⟨-, heq, -⟩ | hheld
      · exact .inr (Resource.customer.inj heq)
      · exact .inl (h.only id m hheld)
    rcases first_or_second.mp hid with rfl | rfl
    · exact .inl rfl
    · exact .inr (.inl rfl)
  · rcases held_take.mp hheld with ⟨-, heq, -⟩ | hheld
    · cases heq
    · exact (h.noParty id m hheld).elim

theorem mergeKnows_row {pending : List Uuid}
    (h : MergeAt P i call sh (.lockingRows keys (id :: pending) taken)) :
    MergeAt P i call (take i (.party id) .update sh)
      (.lockingRows keys pending (takeRow sh.db.parties call.duplicateId id taken)) := by
  obtain ⟨hlocked, hlive, hown, hpending, htaken⟩ := h
  have hrow := hpending id List.mem_cons_self
  refine ⟨hlocked.take fun _ => nofun, hlive, hown.take fun id' heq => ?_,
    fun id' hid' => hpending id' (List.mem_cons_of_mem id hid'), fun id' p' hmem => ?_⟩
  · obtain rfl := Resource.party.inj heq
    exact hrow
  · obtain ⟨p, hp, hof⟩ := hrow
    rw [takeRow, hp] at hmem
    simp only [hof, if_true, List.mem_append, List.mem_singleton] at hmem
    rcases hmem with hmem | heq
    · obtain ⟨hp', hof', hheld⟩ := htaken id' p' hmem
      exact ⟨hp', hof', held_take.mpr (.inr hheld)⟩
    · cases heq
      exact ⟨hp, hof, held_take.mpr (.inl ⟨rfl, rfl, rfl⟩)⟩

theorem mergeKnows_earlierRow {pending taken : List Uuid} (hbase : MergeBase P sh)
    (hcalled : Called call sh)
    (h : MergeAt P i call sh (.lockingEarlier writes (id :: pending) taken)) :
    MergeAt P i call (take i (.customer id) .noKeyUpdate sh)
      (.lockingEarlier writes pending (takeEarlier sh.db.customers call id taken)) := by
  obtain ⟨hlocked, hlive, hown, hplanned, hearlier⟩ := h
  -- the customer still names the duplicate, so it is taken
  have htaken : takeEarlier sh.db.customers call id taken = taken ++ [id] := by
    obtain ⟨c, hc, hdup⟩ := hearlier.names id (.inl List.mem_cons_self)
    obtain ⟨d, hd, hgroup⟩ := hcalled.duplicate
    obtain ⟨d', hd', hsame⟩ := hbase.dupGroup id c call.duplicateId hc hdup
    obtain rfl := Option.mem_unique hd hd'
    rw [takeEarlier, if_pos]
    simp [hc, hdup, hsame.symm.trans hgroup]
  rw [htaken]
  refine ⟨hlocked.acquired (fun _ _ hheld => held_take.mpr (.inr hheld)) (fun id' m hheld => ?_)
    fun _ hid' => List.mem_append_left [id] hid', hlive, hown.take fun _ => nofun, hplanned.take,
    fun id' hid' => ?_, fun id' hid' => ?_, fun id' hid' => ?_⟩
  · rcases held_take.mp hheld with ⟨-, heq, -⟩ | hheld
    · obtain rfl := Resource.customer.inj heq
      exact .inr (List.mem_append_right taken List.mem_cons_self)
    · exact .inl hheld
  · refine hearlier.names id' ?_
    rcases hid' with hid' | hid'
    · exact .inl (List.mem_cons_of_mem id hid')
    · rcases List.mem_append.mp hid' with hid' | hid'
      · exact .inr hid'
      · rw [List.mem_singleton.mp hid']
        exact .inl List.mem_cons_self
  · rcases List.mem_append.mp hid' with hid' | hid'
    · exact held_take.mpr (.inr (hearlier.held id' hid'))
    · rw [List.mem_singleton.mp hid']
      exact held_take.mpr (.inl ⟨rfl, rfl, rfl⟩)
  · rcases hearlier.all id' hid' with hmem | hmem
    · rcases List.mem_cons.mp hmem with rfl | hmem
      · exact .inr (List.mem_append_right taken List.mem_cons_self)
      · exact .inl hmem
    · exact .inr (List.mem_append_left [id] hmem)

theorem mergeKnows_copies {earlier : List Uuid} (hbase : MergeBase P sh) (hcalled : Called call sh)
    (h : MergeAt P i call sh (.lockingCopies writes earlier)) {copies : List Uuid}
    (hcopies : copies = copiesOf sh.db.customers call.groupId call.duplicateId
      (applyWrites call.targetId writes sh.db.parties)) :
    MergeAt P i call (takeAll i copies sh) (.committing writes earlier copies) := by
  obtain ⟨hlocked, hlive, -, hplanned, hearlier⟩ := h
  have hdb : (takeAll i copies sh).db = sh.db := takeAll_db.1
  have hold : ∀ r m, Held sh.grants i r m → Held (takeAll i copies sh).grants i r m :=
    fun r m hheld => held_takeAll.mpr (.inr hheld)
  refine ⟨hlocked.acquired hold (fun id m hheld => ?_) fun _ hid => hid, ?_, ?_, ?_, ?_⟩
  · rcases held_takeAll.mp hheld with ⟨-, -, id', -, heq⟩ | hheld
    · cases heq
    · exact .inl hheld
  · rw [Live, hdb]
    exact hlive
  · intro id w hmem
    obtain ⟨p, hp, hof, hheld, hclose⟩ := hplanned id w hmem
    exact ⟨p, by rw [hdb]; exact hp, hof, hold _ _ hheld, hclose⟩
  · refine ⟨?_, fun id hid => hold _ _ (hearlier.held id hid), ?_⟩
    · rw [hdb]
      exact hearlier.names
    · rw [hdb]
      exact hearlier.all
  · refine ⟨fun id hid => held_takeAll.mpr (.inl ⟨rfl, rfl, id, hid, rfl⟩), ?_, ?_⟩
    · rw [hdb, hcopies]
      exact fun id => mem_copiesOf_of_marked hbase hcalled
    · intro id hid
      rw [hcopies] at hid
      obtain ⟨p, hp, hnames⟩ := mem_copiesOf.mp hid
      simp only [namesIn, decide_eq_true_eq, Option.any_eq_true] at hnames
      obtain ⟨-, c, hc, hgroup⟩ := hnames
      rw [hdb]
      exact ⟨p, c, hp, hc, by simpa using hgroup⟩

theorem paired_of_missingPairs (h : HeldPairs i call sh held)
    (hnone : missingPairs sh.db.parties call.duplicateId held = []) : Paired i call sh := by
  intro id p hp hof
  refine h _ ?_
  by_contra hnot
  have hmem : (p.vehicleId, p.role) ∈ missingPairs sh.db.parties call.duplicateId held := by
    rw [missingPairs, List.mem_insertionSort, List.mem_filter, List.mem_dedup, List.mem_map]
    exact ⟨⟨(id, p), mem_partiesOf.mpr ⟨hp, hof⟩, rfl⟩, by simpa using hnot⟩
  rw [hnone] at hmem
  cases hmem

variable {lo : MergeLocal}

theorem pairsAt_move [DecidableEq ι] {lo' : MergeLocal} (h : PairsAt i call sh lo)
    (hmove : MergeMoves i call sh lo sh' (some lo')) : PairsAt i call sh' lo' := by
  have htake : ∀ {r m}, Paired i call sh → Paired i call (take i r m sh) :=
    fun h id p hp hof => held_take.mpr (.inr (h id p hp hof))
  cases hmove with
  | pairsHeld held rowsLocked hnone =>
    cases rowsLocked with
    | false => exact h
    | true => exact paired_of_missingPairs h hnone
  | pair held pending pair late rowsLocked hfree =>
    intro pair' hpair'
    rcases List.mem_append.mp hpair' with hmem | hmem
    · exact held_take.mpr (.inr (h pair' hmem))
    · rw [List.mem_singleton.mp hmem]
      exact held_take.mpr (.inl ⟨rfl, rfl, rfl⟩)
  | first held hfree => exact fun pair hpair => held_take.mpr (.inr (h pair hpair))
  | second held hfree => exact fun pair hpair => held_take.mpr (.inr (h pair hpair))
  | row => exact htake h
  | earlierRow => exact htake h
  | copies writes earlier copies hcopies hfree =>
    intro id p hp hof
    rw [takeAll_db.1] at hp
    exact held_takeAll.mpr (.inr (h id p hp hof))
  | pairsMissing | pairsRead | checked | keys | rows | planned | earlier | earlierHeld => exact h

/-- A merge's own step establishes its next assertion. -/
theorem mergeKnows_move [DecidableEq ι] {lo' : MergeLocal} (hbase : MergeBase P sh)
    (h : MergeKnows P i call sh lo) (hmove : MergeMoves i call sh lo sh' (some lo')) :
    MergeKnows P i call sh' lo' := by
  obtain ⟨hcalled, h, hpairs⟩ := h
  have hpairs' := pairsAt_move hpairs hmove
  suffices Called call sh' ∧ MergeAt P i call sh' lo' from ⟨this.1, this.2, hpairs'⟩
  cases hmove with
  | pairsHeld held rowsLocked hnone =>
    refine ⟨hcalled, ?_⟩
    cases rowsLocked with
    | false => exact h
    | true => exact h
  | pairsMissing held rowsLocked => exact ⟨hcalled, mergeKnows_reading h⟩
  | pairsRead held late rowsLocked =>
    refine ⟨hcalled, ?_⟩
    cases rowsLocked with
    | false => exact h.1
    | true => exact h.2
  | pair held pending pair late rowsLocked hfree =>
    exact ⟨hcalled.of_db rfl, mergeKnows_pair h⟩
  | first held hfree => exact ⟨hcalled.of_db rfl, mergeKnows_first h⟩
  | second held hfree => exact ⟨hcalled.of_db rfl, mergeKnows_second hcalled.ne h⟩
  | checked held duplicate target hduplicate htarget hdlive htlive =>
    refine ⟨hcalled, h.1, ⟨fun c hc => ?_, fun c hc => ?_⟩, h.2⟩
    · obtain rfl := Option.mem_unique hduplicate hc
      exact hdlive
    · obtain rfl := Option.mem_unique htarget hc
      exact htlive
  | keys => exact ⟨hcalled, h⟩
  | rows keys =>
    obtain ⟨hlocked, hlive, hown⟩ := h
    refine ⟨hcalled, hlocked, hlive, hown, fun id hid => ?_, nofun⟩
    obtain ⟨⟨id', p⟩, hmem, rfl⟩ := List.mem_map.mp hid
    obtain ⟨hp, hof⟩ := mem_partiesOf.mp hmem
    exact ⟨p, hp, hof⟩
  | row keys id pending taken hfree => exact ⟨hcalled.of_db rfl, mergeKnows_row h⟩
  | planned keys taken =>
    obtain ⟨hlocked, hlive, hown, -, htaken⟩ := h
    exact ⟨hcalled, hlocked, hlive, hown, planned_planRows hbase htaken⟩
  | earlier writes =>
    obtain ⟨hlocked, hlive, hown, hplanned⟩ := h
    exact ⟨hcalled, hlocked, hlive, hown, hplanned, earlier_earlierOf hbase hcalled⟩
  | earlierRow writes id pending taken hfree =>
    exact ⟨hcalled.of_db rfl, mergeKnows_earlierRow hbase hcalled h⟩
  | earlierHeld writes taken => exact ⟨hcalled, h⟩
  | copies writes earlier copies hcopies hfree =>
    exact ⟨hcalled.of_db takeAll_db.1, mergeKnows_copies hbase hcalled h hcopies⟩

theorem not_held_rollback [DecidableEq ι] (r : Resource) (m : Mode) :
    ¬ Held (rollback i sh).grants i r m := fun hheld => (held_release.mp hheld).2 rfl

theorem merge_ended [DecidableEq ι] (h : MergeMoves i call sh lo sh' none) (r : Resource) (m : Mode) :
    ¬ Held sh'.grants i r m := by
  cases h with
  | commit | rollback => exact not_held_rollback r m

end

section Guarantee

variable {P : VehicleParty → Prop} {i j : ι} {call : MergeCall} {sh : Shared ι}
  {writes : List (Uuid × RowWrite)} {earlier copies : List Uuid}

theorem lookup_mergedCustomers (customers : Table Uuid CustomerRow) (id : Uuid) :
    (mergedCustomers call earlier customers).lookup id = (customers.lookup id).map fun c =>
      if id = call.duplicateId then setMerged call c
      else if id ∈ earlier then repointEarlier call c else c :=
  Table.lookup_updateAll _ _ _

theorem lookup_mergedParties (parties : Table Uuid VehicleParty) (id : Uuid) :
    (mergedParties call writes copies parties).lookup id =
      ((applyWrites call.targetId writes parties).lookup id).map fun p =>
        if id ∈ copies then { p with mergedIntoCustomerId := some call.targetId } else p :=
  Table.lookup_updateAll _ _ _

variable {parties : Table Uuid VehicleParty} {id : Uuid}

theorem lookup_mergedParties_of_notMem (hwrites : writes.lookup id = none) (hcopies : id ∉ copies) :
    (mergedParties call writes copies parties).lookup id = parties.lookup id := by
  rw [lookup_mergedParties, lookup_applyWrites]
  simp [hwrites, hcopies]

variable {customers : Table Uuid CustomerRow}

theorem lookup_mergedCustomers_of_notMem (hne : id ≠ call.duplicateId) (hearlier : id ∉ earlier) :
    (mergedCustomers call earlier customers).lookup id = customers.lookup id := by
  rw [lookup_mergedCustomers]
  simp [hne, hearlier]

theorem mergedCustomers_group {customers : Table Uuid CustomerRow} {id : Uuid} {c : CustomerRow}
    (hc : customers.lookup id = some c) :
    ∃ c', (mergedCustomers call earlier customers).lookup id = some c' ∧ c'.groupId = c.groupId := by
  rw [lookup_mergedCustomers, hc, Option.map_some]
  refine ⟨_, rfl, ?_⟩
  split
  · rfl
  · split <;> rfl

variable {q : VehicleParty}

/-- What a merge leaves of a row: its pair and its start, and where it has no write its
customer and its end. -/
structure RowMerged (call : MergeCall) (write : Option RowWrite) (p q : VehicleParty) : Prop where
  vehicle : q.vehicleId = p.vehicleId
  role : q.role = p.role
  start : q.effectiveFrom = p.effectiveFrom
  mark : q.mergedIntoCustomerId = some call.targetId ∨
    q.mergedIntoCustomerId = p.mergedIntoCustomerId
  customer : q.customerId = p.customerId ∨ q.customerId = call.targetId ∧ ∃ w, write = some w
  ends : q.effectiveTo = p.effectiveTo ∨ ∃ t, write = some (.close t) ∧ q.effectiveTo = some t

theorem mergedParties_row (hq : (mergedParties call writes copies parties).lookup id = some q) :
    ∃ p, parties.lookup id = some p ∧ RowMerged call (writes.lookup id) p q := by
  rw [lookup_mergedParties, lookup_applyWrites, Option.map_map] at hq
  obtain ⟨p, hp, rfl⟩ := Option.map_eq_some_iff.mp hq
  refine ⟨p, hp, ?_⟩
  rcases writes.lookup id with _ | (_ | _ | _) <;> by_cases hcopy : id ∈ copies <;> constructor <;>
    simp [hcopy, RowWrite.apply, closeVehicleParty]

theorem group_of_mergedCustomers {g : Uuid}
    (h : ∃ c, (mergedCustomers call earlier customers).lookup id = some c ∧ c.groupId = g) :
    ∃ c, customers.lookup id = some c ∧ c.groupId = g := by
  obtain ⟨c', hc', hg⟩ := h
  rw [lookup_mergedCustomers] at hc'
  obtain ⟨c, hc, -⟩ := Option.map_eq_some_iff.mp hc'
  obtain ⟨c'', hc'', hsame⟩ := @mergedCustomers_group call earlier _ _ _ hc
  rw [lookup_mergedCustomers, hc'] at hc''
  cases hc''
  exact ⟨c, hc, hsame.symm.trans hg⟩

theorem group_unique {g g' : Uuid} (h : ∃ c, customers.lookup id = some c ∧ c.groupId = g)
    (h' : ∃ c, customers.lookup id = some c ∧ c.groupId = g') : g = g' := by
  obtain ⟨c, hc, hg⟩ := h
  obtain ⟨c', hc', hg'⟩ := h'
  obtain rfl := Option.mem_unique hc hc'
  exact hg.symm.trans hg'

theorem rely_of_commit [DecidableEq ι] (hbase : MergeBase P sh)
    (hknows : MergeKnows P i call sh (.committing writes earlier copies)) (hij : j ≠ i)
    (merges : List (Uuid × Uuid)) :
    Rely j sh (rollback i { sh with
      db := {
        customers := mergedCustomers call earlier sh.db.customers
        parties := mergedParties call writes copies sh.db.parties }
      merges := merges }) := by
  obtain ⟨hcalled, ⟨hlocked, hlive, hplanned, hearlier, hcopies⟩, hpaired⟩ := hknows
  -- another session's lock keeps the merge away, and the other way round
  have hapart : ∀ r m m', Held sh.grants j r m → Held sh.grants i r m' → m.conflicts m' = true →
      False := fun r m m' hj hi hc => hij (hbase.compatible j i r m m' hj hi hc)
  have hcust : ∀ id m, Held sh.grants j (.customer id) m → m.conflicts .noKeyUpdate = true →
      id ≠ call.duplicateId ∧ id ∉ earlier := by
    intro id m hheld hm
    constructor
    · rintro rfl
      exact hapart _ _ _ hheld hlocked.duplicate hm
    · intro hid
      exact hapart _ _ _ hheld (hearlier.held id hid) hm
  have hdup : ∀ d, Held sh.grants j (.customer d) .noKeyUpdate →
      d ≠ call.duplicateId ∧ d ≠ call.targetId := by
    intro d hheld
    constructor
    · rintro rfl
      exact hapart _ _ _ hheld hlocked.duplicate rfl
    · rintro rfl
      exact hapart _ _ _ hheld hlocked.target rfl
  refine ⟨le_rfl, fun r m => ?_, fun id m hheld hm => ?_, fun id hheld => ?_,
    fun id c hc => mergedCustomers_group hc, fun d hheld id => ?_, fun d hheld id => ?_,
    fun d hheld id => ?_, fun d hheld id p' hp' hof => ?_, fun pair g hheld id p' hp' hopens => ?_,
    fun id p c hp hc => ?_⟩
  · exact held_release.trans ⟨And.left, fun h => ⟨h, hij⟩⟩
  · obtain ⟨hne, hnot⟩ := hcust id m hheld hm
    exact lookup_mergedCustomers_of_notMem hne hnot
  · refine lookup_mergedParties_of_notMem ?_ fun hid =>
      hapart _ _ _ hheld (hcopies.held id hid) rfl
    rw [Option.eq_none_iff_forall_ne_some]
    intro w hw
    obtain ⟨p, -, -, hown, -⟩ := hplanned id w (mem_of_lookup_writes hw)
    exact hapart _ _ _ hheld hown rfl
  · obtain ⟨hned, hnet⟩ := hdup d hheld
    constructor
    · rintro ⟨c', hc', hname⟩
      change (mergedCustomers call earlier sh.db.customers).lookup id = some c' at hc'
      rw [lookup_mergedCustomers] at hc'
      obtain ⟨c, hc, rfl⟩ := Option.map_eq_some_iff.mp hc'
      split at hname
      · exact (hnet (Option.some.inj hname).symm).elim
      · split at hname
        · exact (hnet (Option.some.inj hname).symm).elim
        · exact ⟨c, hc, hname⟩
    · rintro ⟨c, hc, hname⟩
      have hneD : id ≠ call.duplicateId := by
        rintro rfl
        exact hlive.1 c hc (hbase.dupMerged _ c d hc hname)
      have hnotE : id ∉ earlier := by
        intro hid
        obtain ⟨c', hc', hname'⟩ := hearlier.names id (.inr hid)
        obtain rfl := Option.mem_unique hc hc'
        exact hned (Option.mem_unique hname hname')
      exact ⟨c, (lookup_mergedCustomers_of_notMem hneD hnotE).trans hc, hname⟩
  · rintro ⟨q, hq, hmark⟩
    obtain ⟨p, hp, hmerged⟩ := mergedParties_row hq
    rcases hmerged.mark with hmarks | hmarks
    · exact ((hdup d hheld).2 (Option.mem_unique hmark hmarks)).elim
    · exact ⟨p, hp, hmarks.symm.trans hmark⟩
  · rintro ⟨p, hp, hof⟩
    have hwrites : writes.lookup id = none := by
      rw [Option.eq_none_iff_forall_ne_some]
      exact fun w hw => (hdup d hheld).1 (hof.symm.trans (hplanned.row hw hp).1)
    by_cases hcopy : id ∈ copies
    · refine ⟨{ p with mergedIntoCustomerId := some call.targetId }, ?_, hof⟩
      show (mergedParties call writes copies sh.db.parties).lookup id = _
      rw [lookup_mergedParties, lookup_applyWrites, hp]
      simp [hwrites, hcopy]
    · exact ⟨p, (lookup_mergedParties_of_notMem hwrites hcopy).trans hp, hof⟩
  · -- a row of a customer another session holds is not written
    obtain ⟨p, hp, hmerged⟩ := mergedParties_row hp'
    refine ⟨p, hp, ?_, fun _ _ => ⟨hmerged.vehicle, hmerged.role⟩⟩
    rcases hmerged.customer with hsame | ⟨htarget, -⟩
    · exact hsame.symm.trans hof
    · exact ((hdup d hheld).2 (hof.symm.trans htarget)).elim
  · obtain ⟨p, hp, hmerged⟩ := mergedParties_row hp'
    have hv := hmerged.vehicle.symm.trans hopens.vehicle
    have hr := hmerged.role.symm.trans hopens.role
    have hgroup := group_of_mergedCustomers hopens.group
    rcases hw : writes.lookup id with _ | w
    · -- unwritten: the same customer and the same end
      rw [hw] at hmerged
      have hcust' : p'.customerId = p.customerId :=
        hmerged.customer.resolve_right fun ⟨_, w, hw'⟩ => by cases hw'
      have hto : p'.effectiveTo = p.effectiveTo :=
        hmerged.ends.resolve_right fun ⟨t, hclose, _⟩ => by cases hclose
      have hopen := hopens.isOpen
      rw [hto] at hopen
      rw [hcust'] at hgroup
      exact ⟨p, hp, hcust'.symm, ⟨hv, hr, hgroup, hopen⟩⟩
    · -- written: the merge holds the pair, so the other session does not
      have hof := (hplanned.row hw hp).1
      have hg : g = call.groupId := by
        rcases hmerged.customer with hcust' | ⟨hcust', -⟩
        · rw [hcust', hof] at hgroup
          exact group_unique hgroup hcalled.duplicate
        · rw [hcust'] at hgroup
          exact group_unique hgroup hcalled.target
      have hmine := hpaired id p hp hof
      rw [hv, hr, ← hg] at hmine
      exact (hapart _ _ _ hheld hmine rfl).elim
  · have hrow : ∃ q, (mergedParties call writes copies sh.db.parties).lookup id = some q := by
      rw [lookup_mergedParties, lookup_applyWrites, hp]
      exact ⟨_, rfl⟩
    obtain ⟨q, hq⟩ := hrow
    obtain ⟨p₀, hp₀, hmerged⟩ := mergedParties_row hq
    obtain rfl := Option.mem_unique hp hp₀
    rcases hmerged.customer with hcust' | ⟨hcust', w, hw⟩
    · rw [← hcust'] at hc
      obtain ⟨c', hc', hsame⟩ := @mergedCustomers_group call earlier _ _ _ hc
      exact ⟨q, c', hq, hc', hmerged.role, hsame⟩
    · -- moved to the survivor, of the same group
      rw [(hplanned.row hw hp).1] at hc
      obtain ⟨s, hs, hsgroup⟩ := hcalled.target
      rw [← hcust'] at hs
      obtain ⟨s', hs', hsame⟩ := @mergedCustomers_group call earlier _ _ _ hs
      have hg := group_unique ⟨c, hc, rfl⟩ hcalled.duplicate
      exact ⟨q, s', hq, hs', hmerged.role, hsame.trans (hsgroup.trans hg.symm)⟩

variable {sh' : Shared ι}

/-- A merge's step keeps to `Rely` of every other session. -/
theorem rely_of_merge [DecidableEq ι] {lo : MergeLocal} {lo' : Option MergeLocal}
    (hbase : MergeBase P sh) (h : MergeKnows P i call sh lo) (hij : j ≠ i)
    (hmove : MergeMoves i call sh lo sh' lo') : Rely j sh sh' := by
  have hgrants : ∀ r m, Held sh'.grants j r m ↔ Held sh.grants j r m :=
    fun r m => hmove.held_other hij
  cases hmove with
  | commit writes earlier copies => exact rely_of_commit hbase h hij _
  | copies => exact rely_of_locks takeAll_db.2 takeAll_db.1 hgrants
  | rollback | pair | first | second | row | earlierRow | pairsHeld | pairsMissing | pairsRead
  | checked | keys | rows | planned | earlier | earlierHeld => exact rely_of_locks rfl rfl hgrants

theorem MergeBase.of_db (h : MergeBase P sh) (hnow : sh'.now = sh.now) (hdb : sh'.db = sh.db)
    (hcompatible : Compatible sh'.grants) : MergeBase P sh' where
  compatible := hcompatible
  openRows := by
    rw [hnow, hdb]
    exact h.openRows
  dupMerged := by
    rw [hdb]
    exact h.dupMerged
  dupGroup := by
    rw [hdb]
    exact h.dupGroup
  markGroup := by
    rw [hdb]
    exact h.markGroup

theorem markGroup_commit (hbase : MergeBase P sh) (hcalled : Called call sh)
    (hplanned : Planned P i call sh writes) (hcopies : Copies i call sh writes copies) {t : Uuid}
    (hq : (mergedParties call writes copies sh.db.parties).lookup id = some q)
    (hmark : q.mergedIntoCustomerId = some t) :
    ∃ c t', sh.db.customers.lookup q.customerId = some c ∧ sh.db.customers.lookup t = some t' ∧
      c.groupId = t'.groupId := by
  obtain ⟨d, hd, hdgroup⟩ := hcalled.duplicate
  obtain ⟨s, hs, hsgroup⟩ := hcalled.target
  rw [lookup_mergedParties] at hq
  obtain ⟨p', hp', heq⟩ := Option.map_eq_some_iff.mp hq
  by_cases hcopy : id ∈ copies
  · obtain ⟨p'', c, hp'', hc, hgroup⟩ := hcopies.groups id hcopy
    obtain rfl := Option.mem_unique hp' hp''
    rw [if_pos hcopy] at heq
    subst heq
    cases hmark
    exact ⟨c, s, hc, hs, hgroup.trans hsgroup.symm⟩
  · rw [if_neg hcopy] at heq
    subst heq
    rw [lookup_applyWrites] at hp'
    obtain ⟨p, hp, heq⟩ := Option.map_eq_some_iff.mp hp'
    rcases hw : writes.lookup id with _ | w
    · simp only [hw] at heq
      subst heq
      exact hbase.markGroup id p t hp hmark
    · rw [← (hplanned.row hw hp).1] at hd
      simp only [hw] at heq
      subst heq
      cases w with
      | move =>
        obtain ⟨c, t', hc, ht', hsame⟩ := hbase.markGroup id p t hp hmark
        obtain rfl := Option.mem_unique hd hc
        exact ⟨s, t', hs, ht', hsgroup.trans (hdgroup.symm.trans hsame)⟩
      | close t₀ =>
        cases hmark
        exact ⟨d, s, hd, hs, hdgroup.trans hsgroup.symm⟩
      | mark =>
        cases hmark
        exact ⟨d, s, hd, hs, hdgroup.trans hsgroup.symm⟩

theorem mergeBase_move [DecidableEq ι] {lo : MergeLocal} {lo' : Option MergeLocal}
    (hbase : MergeBase P sh) (h : MergeKnows P i call sh lo)
    (hmove : MergeMoves i call sh lo sh' lo')
    (hopen : ∀ id p, sh'.db.parties.lookup id = some p → isOpen sh'.now p.effectiveTo = true → P p) :
    MergeBase P sh' := by
  have hcompatible : Compatible sh'.grants := hmove.compatible hbase.compatible
  cases hmove with
  | pair | first | second | row | earlierRow | rollback => exact hbase.of_db rfl rfl hcompatible
  | copies writes earlier copies hcopies hfree =>
    exact hbase.of_db takeAll_db.2 takeAll_db.1 hcompatible
  | pairsHeld | pairsMissing | pairsRead | checked | keys | rows | planned | earlier | earlierHeld =>
    exact hbase
  | commit writes earlier copies =>
    obtain ⟨hcalled, ⟨hlocked, hlive, hplanned, hearlier, hcopies⟩, -⟩ := h
    obtain ⟨d, hd, hdgroup⟩ := hcalled.duplicate
    obtain ⟨s, hs, hsgroup⟩ := hcalled.target
    refine ⟨hcompatible, hopen, fun id c' t hc' hdup => ?_, fun id c' t hc' hdup => ?_,
      fun id q t hq hmark => ?_⟩
    · change (mergedCustomers call earlier sh.db.customers).lookup id = some c' at hc'
      rw [lookup_mergedCustomers] at hc'
      obtain ⟨c, hc, rfl⟩ := Option.map_eq_some_iff.mp hc'
      by_cases hid : id = call.duplicateId
      · simp only [hid, if_true]
        rfl
      · by_cases hmem : id ∈ earlier
        · obtain ⟨c₀, hc₀, hname⟩ := hearlier.names id (.inr hmem)
          obtain rfl := Option.mem_unique hc hc₀
          simp only [hid, if_false, hmem, if_true]
          exact hbase.dupMerged id c _ hc hname
        · simp only [hid, if_false, hmem] at hdup ⊢
          exact hbase.dupMerged id c t hc hdup
    · change (mergedCustomers call earlier sh.db.customers).lookup id = some c' at hc'
      change ∃ t', (mergedCustomers call earlier sh.db.customers).lookup t = some t' ∧ _
      rw [lookup_mergedCustomers] at hc'
      obtain ⟨c, hc, rfl⟩ := Option.map_eq_some_iff.mp hc'
      obtain ⟨s', hs', hsame⟩ := @mergedCustomers_group call earlier _ _ _ hs
      by_cases hid : id = call.duplicateId
      · subst hid
        obtain rfl := Option.mem_unique hd hc
        simp only [if_true] at hdup ⊢
        cases hdup
        exact ⟨s', hs', hsame.trans (hsgroup.trans hdgroup.symm)⟩
      · by_cases hmem : id ∈ earlier
        · obtain ⟨c₀, hc₀, hname⟩ := hearlier.names id (.inr hmem)
          obtain rfl := Option.mem_unique hc hc₀
          obtain ⟨d', hd', hcgroup⟩ := hbase.dupGroup id c _ hc hname
          obtain rfl := Option.mem_unique hd hd'
          simp only [hid, if_false, hmem, if_true] at hdup ⊢
          cases hdup
          exact ⟨s', hs', hsame.trans (hsgroup.trans (hdgroup.symm.trans hcgroup))⟩
        · simp only [hid, if_false, hmem] at hdup ⊢
          obtain ⟨t', ht', hgroup⟩ := hbase.dupGroup id c t hc hdup
          obtain ⟨t'', ht'', hsame'⟩ := @mergedCustomers_group call earlier _ _ _ ht'
          exact ⟨t'', ht'', hsame'.trans hgroup⟩
    · obtain ⟨c, t', hc, ht', hgroup⟩ := markGroup_commit hbase hcalled hplanned hcopies hq hmark
      obtain ⟨c', hc', hcsame⟩ := @mergedCustomers_group call earlier _ _ _ hc
      obtain ⟨t'', ht'', htsame⟩ := @mergedCustomers_group call earlier _ _ _ ht'
      exact ⟨c', t'', hc', ht'', hcsame.trans (hgroup.trans htsame.symm)⟩

end Guarantee

end Nexotec.Customers
