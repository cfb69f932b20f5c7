/-
One current holder per role.

Any number of sessions allocate, create, update and disconnect party rows,
merge customers and repoint the rows of a merged vehicle.  A row comes to hold
a role only under the advisory lock of (vehicle, role, group), whose owner has
every other holder locked when it commits; a customer merge moves a row
between two customers of one group, under the locks of all pairs it has rows
in, and opens none.

The repointing after a vehicle merge takes no lock and closes nobody, so it
can bring two holders together, and can take a row away from the lock under
which it is being reopened.
-/
import Nexotec.Customer.MergeInvariant
import Nexotec.Customer.PartySteps
import Nexotec.Lib.Interleaving

namespace Nexotec.PartySessions

open Customers Locks Interleaving

variable {ι : Type}

/-! ### The property and the condition -/

/-- **One current holder per role.**  At most one row of a vehicle and a role is
open among the customers of a group. -/
def OneHolder (sh : Shared ι) : Prop :=
  ∀ id id' p p' pair g, sh.db.parties.lookup id = some p → sh.db.parties.lookup id' = some p' →
    Opens sh p pair g → Opens sh p' pair g → id = id'

def Arrives (survivorId : Uuid) (rows : List Uuid) (id : Uuid) (p : VehicleParty) : Prop :=
  id ∈ rows ∨ p.vehicleId = survivorId

/-- A repointing that brings no two holders of a role together, while nobody
holds the lock of a pair of the survivor or of a vehicle the rows leave. -/
structure RepointApart (i : ι) (sh : Shared ι) (survivorId : Uuid) (rows : List Uuid) : Prop where
  holders : ∀ id id' p p' c c', sh.db.parties.lookup id = some p →
    sh.db.parties.lookup id' = some p' → sh.db.customers.lookup p.customerId = some c →
    sh.db.customers.lookup p'.customerId = some c' →
    Arrives survivorId rows id p → Arrives survivorId rows id' p' → p.role = p'.role →
    c.groupId = c'.groupId → isOpen sh.now p.effectiveTo = true →
    isOpen sh.now p'.effectiveTo = true → id = id'
  pairs : ∀ j pair g m, j ≠ i → Held sh.grants j (.advisory pair g) m → pair.1 ≠ survivorId ∧
    ∀ id ∈ rows, ∀ p, sh.db.parties.lookup id = some p → p.vehicleId ≠ pair.1

/-- **The condition on a step.**  A repointing is apart, and a reopen locks its
row while that is still on the vehicle whose lock it took. -/
def Ok (i : ι) (ch : PartyChoice) (sh : Shared ι) : PartyLocal → Prop
  | .lockingParty u => ch = .go → u.holds = true → ∀ p, sh.db.parties.lookup u.partyId = some p →
    p.vehicleId = u.vehicleId
  | .repointing _ survivorId rows => ch = .go → RepointApart i sh survivorId rows
  | _ => True

/-! ### What the sessions know -/

abbrev Ranged (p : VehicleParty) : Prop := ∀ t, p.effectiveTo = some t → p.effectiveFrom ≤ t

def holds : Job → Bool
  | .allocate a => a.holds
  | .patch u _ => u.holds

section

variable (i : ι) (sh : Shared ι)

/-- The row of a PATCH, locked. -/
structure PatchLocked (u : PartyPatch) (p : VehicleParty) : Prop where
  row : sh.db.parties.lookup u.partyId = some p
  locked : Held sh.grants i (.party u.partyId) .update
  group : ∃ c, sh.db.customers.lookup p.customerId = some c ∧ c.groupId = u.groupId
  same : u.holds = true → p.vehicleId = u.vehicleId ∧ p.role = u.role
  past : u.holds = false → ∀ t, u.changes.effectiveTo = some t → isOpen sh.now t = false

def JobValid : Job → Prop
  | .allocate a => a.Valid sh
  | .patch u p => PatchLocked i sh u p

def KeyHeld (job : Job) : Prop := Held sh.grants i (.advisory job.pair job.groupId) .update

def CustomerHeld (job : Job) : Prop := Held sh.grants i (.customer job.customerId) .share

def RowsHeld (taken : List Uuid) : Prop := ∀ id ∈ taken, Held sh.grants i (.party id) .update

/-- Every other holder of the role is found, with its customer. -/
def Found (job : Job) (pending : List (Uuid × Uuid)) (taken : List Uuid) : Prop :=
  ∀ id p, sh.db.parties.lookup id = some p → Opens sh p job.pair job.groupId →
    job.excluding ≠ some id → id ∈ taken ∨ (id, p.customerId) ∈ pending

def Knows : PartyLocal → Prop
  | .idle => ∀ r m, ¬ Held sh.grants i r m
  | .merging call lo => MergeKnows Ranged i call sh lo
  | .allocating a => a.Valid sh
  | .patching u => u.Valid sh
  | .lockingParty u => u.Valid sh ∧
    (u.holds = true → Held sh.grants i (.advisory (u.vehicleId, u.role) u.groupId) .update)
  | .refusing job => JobValid i sh job ∧ KeyHeld i sh job
  | .reading job => JobValid i sh job ∧ KeyHeld i sh job ∧ CustomerHeld i sh job
  | .lockingHolders job asOf pending taken => JobValid i sh job ∧ KeyHeld i sh job ∧
    CustomerHeld i sh job ∧ asOf ≤ sh.now ∧ RowsHeld i sh taken ∧ Found sh job pending taken
  | .committing job taken => JobValid i sh job ∧ RowsHeld i sh taken ∧
    (job.excluding = none → CustomerHeld i sh job) ∧
    (holds job = true → KeyHeld i sh job ∧ Found sh job [] taken)
  | .disconnecting _ => True
  | .closing partyId => Held sh.grants i (.party partyId) .update
  | .repointing .. => True

end

section Stable

variable {i : ι} {sh sh' : Shared ι} {now now' : Time} {effectiveTo : Option Time}

theorem isOpen_anti (hnow : now ≤ now') (h : isOpen now' effectiveTo = true) :
    isOpen now effectiveTo = true := by
  rcases effectiveTo with _ | t
  · rfl
  · exact decide_eq_true (hnow.trans_lt (of_decide_eq_true h))

theorem isOpen_past (hnow : now ≤ now') (h : isOpen now effectiveTo = false) :
    isOpen now' effectiveTo = false := by
  by_contra hopen
  rw [isOpen_anti hnow (by simpa using hopen)] at h
  cases h

theorem Allocation.Valid.rely {a : Allocation} (h : a.Valid sh) (hrely : Rely i sh sh') :
    a.Valid sh' := by
  obtain ⟨c, hc, hg⟩ := h.group
  obtain ⟨c', hc', hsame⟩ := hrely.groups _ c hc
  exact ⟨⟨c', hc', hsame.trans hg⟩, h.range, fun hpast => isOpen_past hrely.time (h.past hpast)⟩

variable {u : PartyPatch}

theorem PartyPatch.Valid.rely (h : u.Valid sh) (hrely : Rely i sh sh') : u.Valid sh' := by
  obtain ⟨p, c, hp, hc, hrole, hg⟩ := h.row
  obtain ⟨p', c', hp', hc', hrole', hg'⟩ := hrely.kept _ p c hp hc
  exact ⟨⟨p', c', hp', hc', hrole'.trans hrole, hg'.trans hg⟩,
    fun hpast t ht => isOpen_past hrely.time (h.past hpast t ht)⟩

theorem PatchLocked.rely {p : VehicleParty} (h : PatchLocked i sh u p) (hrely : Rely i sh sh') :
    PatchLocked i sh' u p where
  row := (hrely.rows _ h.locked).trans h.row
  locked := (hrely.grants _ _).mpr h.locked
  group := by
    obtain ⟨c, hc, hg⟩ := h.group
    obtain ⟨c', hc', hsame⟩ := hrely.groups _ c hc
    exact ⟨c', hc', hsame.trans hg⟩
  same := h.same
  past := fun hpast t ht => isOpen_past hrely.time (h.past hpast t ht)

variable {job : Job}

theorem JobValid.rely (h : JobValid i sh job) (hrely : Rely i sh sh') : JobValid i sh' job := by
  cases job with
  | allocate a => exact Allocation.Valid.rely h hrely
  | patch u p => exact PatchLocked.rely h hrely

theorem Found.rely {pending : List (Uuid × Uuid)} {taken : List Uuid}
    (h : Found sh job pending taken) (hkey : KeyHeld i sh job) (hrely : Rely i sh sh') :
    Found sh' job pending taken := by
  intro id p' hp' hopens hne
  obtain ⟨p, hp, hcustomer, hopens'⟩ := hrely.keyed _ _ hkey id p' hp' hopens
  rw [← hcustomer]
  exact h id p hp hopens' hne

theorem knows_rely {lo : PartyLocal} (h : Knows i sh lo) (hrely : Rely i sh sh') :
    Knows i sh' lo := by
  have hheld : ∀ {r m}, Held sh.grants i r m → Held sh'.grants i r m :=
    fun hr => (hrely.grants _ _).mpr hr
  cases lo with
  | idle => exact fun r m hr => h r m ((hrely.grants r m).mp hr)
  | merging call lo => exact mergeKnows_rely h hrely
  | allocating a => exact Allocation.Valid.rely h hrely
  | patching u => exact PartyPatch.Valid.rely h hrely
  | lockingParty u => exact ⟨PartyPatch.Valid.rely h.1 hrely, fun hu => hheld (h.2 hu)⟩
  | refusing job => exact ⟨h.1.rely hrely, hheld h.2⟩
  | reading job => exact ⟨h.1.rely hrely, hheld h.2.1, hheld h.2.2⟩
  | lockingHolders job asOf pending taken =>
    obtain ⟨hjob, hkey, hcustomer, hasOf, htaken, hfound⟩ := h
    exact ⟨hjob.rely hrely, hheld hkey, hheld hcustomer, hasOf.trans hrely.time,
      fun id hid => hheld (htaken id hid), hfound.rely hkey hrely⟩
  | committing job taken =>
    obtain ⟨hjob, htaken, hcustomer, hholds⟩ := h
    refine ⟨hjob.rely hrely, fun id hid => hheld (htaken id hid), fun hnew => hheld (hcustomer hnew),
      fun hh => ?_⟩
    obtain ⟨hkey, hfound⟩ := hholds hh
    exact ⟨hheld hkey, hfound.rely hkey hrely⟩
  | disconnecting partyId => trivial
  | closing partyId => exact hheld h
  | repointing => trivial

end Stable

/-! ### Writing party rows -/

/-- What the commit of a writer does to the table: it changes rows it has locked
and adds new ones, of a customer it has locked, and what it opens is under the
advisory lock. -/
structure Writes (i : ι) (sh : Shared ι) (parties : Table Uuid VehicleParty) : Prop where
  old : ∀ id p, sh.db.parties.lookup id = some p → ∃ p', parties.lookup id = some p' ∧
    p'.vehicleId = p.vehicleId ∧ p'.customerId = p.customerId ∧ p'.role = p.role ∧
    p'.mergedIntoCustomerId = p.mergedIntoCustomerId
  locked : ∀ id p, sh.db.parties.lookup id = some p → parties.lookup id ≠ some p →
    Held sh.grants i (.party id) .update
  added : ∀ id p', sh.db.parties.lookup id = none → parties.lookup id = some p' →
    p'.mergedIntoCustomerId = none ∧ Held sh.grants i (.customer p'.customerId) .share ∧
      ∀ j m, ¬ Held sh.grants j (.party id) m
  opened : ∀ id p' pair g, parties.lookup id = some p' → Opens sh p' pair g →
    (∃ p, sh.db.parties.lookup id = some p ∧ Opens sh p pair g) ∨
      Held sh.grants i (.advisory pair g) .update
  ranged : ∀ id p', parties.lookup id = some p' → isOpen sh.now p'.effectiveTo = true → Ranged p'

section

variable {i j : ι} {sh : Shared ι} {parties : Table Uuid VehicleParty} {sh' : Shared ι}

theorem opens_parties {p : VehicleParty} {pair : Pair} {g : Uuid} (h : Opens sh' p pair g)
    (hnow : sh'.now = sh.now) (hcustomers : sh'.db.customers = sh.db.customers) :
    Opens sh p pair g := by
  refine ⟨h.vehicle, h.role, ?_, ?_⟩
  · rw [← hcustomers]
    exact h.group
  · rw [← hnow]
    exact h.isOpen

theorem Writes.cases (hw : Writes i sh parties) {id : Uuid} {p' : VehicleParty}
    (hp' : parties.lookup id = some p') :
    (∃ p, sh.db.parties.lookup id = some p ∧ p'.vehicleId = p.vehicleId ∧
      p'.customerId = p.customerId ∧ p'.role = p.role ∧
      p'.mergedIntoCustomerId = p.mergedIntoCustomerId) ∨
    (p'.mergedIntoCustomerId = none ∧ Held sh.grants i (.customer p'.customerId) .share) := by
  rcases hp : sh.db.parties.lookup id with _ | p
  · obtain ⟨hmark, hheld, -⟩ := hw.added id p' hp hp'
    exact .inr ⟨hmark, hheld⟩
  · obtain ⟨p'', hp'', hsame⟩ := hw.old id p hp
    obtain rfl := Option.mem_unique hp' hp''
    exact .inl ⟨p, rfl, hsame⟩

theorem rely_of_writes [DecidableEq ι] (hw : Writes i sh parties) (hcompatible : Compatible sh.grants)
    (hij : j ≠ i) : Rely j sh (rollback i { sh with db := { sh.db with parties := parties } }) where
  time := le_rfl
  grants := fun r m => held_release.trans ⟨And.left, fun h => ⟨h, hij⟩⟩
  customers := fun _ _ _ _ => rfl
  rows := by
    intro id hheld
    show parties.lookup id = _
    rcases hp : sh.db.parties.lookup id with _ | p
    · rw [Option.eq_none_iff_forall_ne_some]
      intro p' hp'
      exact (hw.added id p' hp hp').2.2 j _ hheld
    · by_contra hne
      exact hij (hcompatible j i _ _ _ hheld (hw.locked id p hp hne) rfl)
  groups := fun _ c hc => ⟨c, hc, rfl⟩
  named := fun _ _ _ => Iff.rfl
  marked := by
    rintro d - id ⟨p', hp', hmark⟩
    rcases hw.cases hp' with ⟨p, hp, -, -, -, hsame⟩ | ⟨hnone, -⟩
    · exact ⟨p, hp, hsame.symm.trans hmark⟩
    · rw [hnone] at hmark
      cases hmark
  owned := by
    rintro d - id ⟨p, hp, hof⟩
    obtain ⟨p', hp', -, hcustomer, -⟩ := hw.old id p hp
    exact ⟨p', hp', hcustomer.trans hof⟩
  pairs := by
    intro d hheld id p' hp' hof
    rcases hw.cases hp' with ⟨p, hp, hv, hcustomer, hr, -⟩ | ⟨-, hmine⟩
    · exact ⟨p, hp, hcustomer.symm.trans hof, fun _ _ => ⟨hv, hr⟩⟩
    · -- a new row is of a customer the writer has locked
      rw [hof] at hmine
      exact (hij (hcompatible j i _ _ _ hheld hmine rfl)).elim
  keyed := by
    intro pair g hheld id p' hp' hopens
    have hopens' : Opens sh p' pair g := opens_parties hopens rfl rfl
    rcases hw.opened id p' pair g hp' hopens' with ⟨p, hp, hold⟩ | hmine
    · obtain ⟨p'', hp'', -, hcustomer, -⟩ := hw.old id p hp
      obtain rfl := Option.mem_unique hp'' hp'
      exact ⟨p, hp, hcustomer.symm, hold⟩
    · exact (hij (hcompatible j i _ _ _ hheld hmine rfl)).elim
  kept := by
    intro id p c hp hc
    obtain ⟨p', hp', -, hcustomer, hr, -⟩ := hw.old id p hp
    exact ⟨p', c, hp', by rw [hcustomer]; exact hc, hr, rfl⟩

theorem mergeBase_of_writes [DecidableEq ι] (hbase : MergeBase Ranged sh)
    (hw : Writes i sh parties) :
    MergeBase Ranged (rollback i { sh with db := { sh.db with parties := parties } }) where
  compatible := hbase.compatible.release
  openRows := hw.ranged
  dupMerged := hbase.dupMerged
  dupGroup := hbase.dupGroup
  markGroup := by
    intro id p' t hp' hmark
    rcases hw.cases hp' with ⟨p, hp, -, hcustomer, -, hsame⟩ | ⟨hnone, -⟩
    · obtain ⟨c, t', hc, ht', hg⟩ := hbase.markGroup id p t hp (hsame.symm.trans hmark)
      exact ⟨c, t', by rw [hcustomer]; exact hc, ht', hg⟩
    · rw [hnone] at hmark
      cases hmark

theorem oneHolder_of_shrinks (h : OneHolder sh)
    (hshrinks : ∀ id p' pair g, sh'.db.parties.lookup id = some p' → Opens sh' p' pair g →
      ∃ p, sh.db.parties.lookup id = some p ∧ Opens sh p pair g) : OneHolder sh' := by
  intro id id' p p' pair g hp hp' hopens hopens'
  obtain ⟨q, hq, hqopens⟩ := hshrinks id p pair g hp hopens
  obtain ⟨q', hq', hqopens'⟩ := hshrinks id' p' pair g hp' hopens'
  exact h id id' q q' pair g hq hq' hqopens hqopens'

theorem oneHolder_of_opened (h : OneHolder sh) (id₀ : Uuid) (pair₀ : Pair) (g₀ : Uuid)
    (hshrinks : ∀ id p' pair g, id ≠ id₀ → sh'.db.parties.lookup id = some p' → Opens sh' p' pair g →
      (pair, g) ≠ (pair₀, g₀) ∧ ∃ p, sh.db.parties.lookup id = some p ∧ Opens sh p pair g)
    (hkey : ∀ p' pair g, sh'.db.parties.lookup id₀ = some p' → Opens sh' p' pair g →
      (pair, g) = (pair₀, g₀)) : OneHolder sh' := by
  intro id id' p p' pair g hp hp' hopens hopens'
  by_cases hid : id = id₀
  · by_cases hid' : id' = id₀
    · exact hid.trans hid'.symm
    · rw [hid] at hp
      exact ((hshrinks id' p' pair g hid' hp' hopens').1 (hkey p pair g hp hopens)).elim
  · by_cases hid' : id' = id₀
    · rw [hid'] at hp'
      exact ((hshrinks id p pair g hid hp hopens).1 (hkey p' pair g hp' hopens')).elim
    · obtain ⟨-, q, hq, hqopens⟩ := hshrinks id p pair g hid hp hopens
      obtain ⟨-, q', hq', hqopens'⟩ := hshrinks id' p' pair g hid' hp' hopens'
      exact h id id' q q' pair g hq hq' hqopens hqopens'

end

section Commits

variable {i : ι} {sh : Shared ι} {taken : List Uuid}

theorem lookup_closeAll (now : Time) (taken : List Uuid) (parties : Table Uuid VehicleParty)
    (id : Uuid) : (closeAll now taken parties).lookup id =
      (parties.lookup id).map fun p => if id ∈ taken then closeVehicleParty p now else p :=
  Table.lookup_updateAll _ _ _

variable {now : Time} {parties : Table Uuid VehicleParty} {id : Uuid} {p' : VehicleParty}

theorem closeAll_cases (h : (closeAll now taken parties).lookup id = some p') :
    ∃ p, parties.lookup id = some p ∧
      ((id ∉ taken ∧ p' = p) ∨ (id ∈ taken ∧ p' = closeVehicleParty p now)) := by
  rw [lookup_closeAll] at h
  obtain ⟨p, hp, rfl⟩ := Option.map_eq_some_iff.mp h
  refine ⟨p, hp, ?_⟩
  by_cases hmem : id ∈ taken
  · rw [if_pos hmem]
    exact .inr ⟨hmem, rfl⟩
  · rw [if_neg hmem]
    exact .inl ⟨hmem, rfl⟩

theorem not_isOpen_close (now : Time) (p : VehicleParty) :
    isOpen now (closeVehicleParty p now).effectiveTo = false := by
  simp [closeVehicleParty, isOpen]

theorem closeAll_open (h : (closeAll now taken parties).lookup id = some p')
    (hopen : isOpen now p'.effectiveTo = true) : id ∉ taken ∧ parties.lookup id = some p' := by
  obtain ⟨p, hp, ⟨hmem, rfl⟩ | ⟨-, rfl⟩⟩ := closeAll_cases h
  · exact ⟨hmem, hp⟩
  · rw [not_isOpen_close] at hopen
    cases hopen

theorem writes_closeAll (hbase : MergeBase Ranged sh) (htaken : RowsHeld i sh taken) :
    Writes i sh (closeAll sh.now taken sh.db.parties) where
  old := by
    intro id p hp
    rw [lookup_closeAll, hp, Option.map_some]
    refine ⟨_, rfl, ?_⟩
    split
    · exact ⟨rfl, rfl, rfl, rfl⟩
    · exact ⟨rfl, rfl, rfl, rfl⟩
  locked := by
    intro id p hp hne
    by_contra hnot
    refine hne ?_
    have hmem : id ∉ taken := fun hmem => hnot (htaken id hmem)
    rw [lookup_closeAll, hp, Option.map_some, if_neg hmem]
  added := by
    intro id p' hnone hp'
    obtain ⟨p, hp, -⟩ := closeAll_cases hp'
    rw [hnone] at hp
    cases hp
  opened := by
    intro id p' pair g hp' hopens
    exact .inl ⟨p', (closeAll_open hp' hopens.isOpen).2, hopens⟩
  ranged := by
    intro id p' hp' hopen
    exact hbase.openRows id p' (closeAll_open hp' hopen).2 hopen

variable {a : Allocation} {pair : Pair} {g : Uuid}

theorem opens_row (hvalid : a.Valid sh) (h : Opens sh (a.row sh.now) pair g) :
    (pair, g) = ((a.vehicleId, a.role), a.groupId) := by
  have hg : g = a.groupId := group_unique h.group hvalid.group
  have hv : a.vehicleId = pair.1 := h.vehicle
  have hr : a.role = pair.2 := h.role
  rw [hg, hv, hr]

variable {partyId : Uuid}

theorem writes_insert (hbase : MergeBase Ranged sh)
    (hknows : Knows i sh (.committing (.allocate a) taken))
    (hnone : sh.db.parties.lookup partyId = none)
    (hnew : ∀ g ∈ sh.grants, g.resource ≠ .party partyId) :
    Writes i sh ((closeAll sh.now taken sh.db.parties).insert partyId (a.row sh.now)) := by
  obtain ⟨hvalid, htaken, hcustomer, hholds⟩ := hknows
  have hclose := writes_closeAll hbase htaken
  have hne : ∀ id p, sh.db.parties.lookup id = some p → id ≠ partyId := by
    rintro id p hp rfl
    rw [hnone] at hp
    cases hp
  refine ⟨fun id p hp => ?_, fun id p hp hchanged => ?_, fun id p' hfresh hp' => ?_,
    fun id p' pair g hp' hopens => ?_, fun id p' hp' hopen => ?_⟩
  · rw [Table.lookup_insert_iff, if_neg (hne id p hp)]
    exact hclose.old id p hp
  · rw [Table.lookup_insert_iff, if_neg (hne id p hp)] at hchanged
    exact hclose.locked id p hp hchanged
  · rcases Table.lookup_insert_cases hp' with ⟨rfl, rfl⟩ | ⟨-, hp'⟩
    · exact ⟨rfl, hcustomer rfl, fun j m hheld => hnew _ hheld rfl⟩
    · exact hclose.added id p' hfresh hp'
  · rcases Table.lookup_insert_cases hp' with ⟨rfl, rfl⟩ | ⟨-, hp'⟩
    · by_cases hh : a.holds = true
      · obtain ⟨hkey, -⟩ := hholds hh
        obtain ⟨rfl, rfl⟩ := Prod.mk.inj (opens_row hvalid hopens)
        exact .inr hkey
      · have hpast := hvalid.past (by simpa using hh)
        have hopen : isOpen sh.now a.effectiveTo = true := hopens.isOpen
        rw [hpast] at hopen
        cases hopen
    · exact hclose.opened id p' pair g hp' hopens
  · rcases Table.lookup_insert_cases hp' with ⟨rfl, rfl⟩ | ⟨-, hp'⟩
    · intro t ht
      obtain ⟨f, hf, hft⟩ := hvalid.range t ht
      show a.effectiveFrom.getD sh.now ≤ t
      rw [hf]
      exact hft
    · exact hclose.ranged id p' hp' hopen

/-- A commit that closes `taken` and writes one row of a pair: with the pair's other open rows
taken, it has one holder. -/
theorem oneHolder_write [DecidableEq ι] {q : VehicleParty} {pair : Pair} {g : Uuid}
    (hone : OneHolder sh)
    (hfound : ∀ id p, id ≠ partyId → sh.db.parties.lookup id = some p → Opens sh p pair g →
      id ∈ taken)
    (hq : ∀ pair' g', Opens sh q pair' g' → (pair', g') = (pair, g)) :
    OneHolder (rollback i { sh with db := { sh.db with
      parties := (closeAll sh.now taken sh.db.parties).insert partyId q } }) := by
  refine oneHolder_of_opened hone partyId pair g
    (fun id p' pair' g' hne hp' hopens => ?_) fun p' pair' g' hp' hopens => ?_
  · have hopens' : Opens sh p' pair' g' := opens_parties hopens rfl rfl
    rcases Table.lookup_insert_cases hp' with ⟨rfl, -⟩ | ⟨-, hp'⟩
    · exact (hne rfl).elim
    · obtain ⟨hmem, hp⟩ := closeAll_open hp' hopens.isOpen
      refine ⟨fun heq => ?_, p', hp, hopens'⟩
      cases heq
      exact hmem (hfound id p' hne hp hopens')
  · rcases Table.lookup_insert_cases hp' with ⟨-, rfl⟩ | ⟨hne, -⟩
    · exact hq _ _ (opens_parties hopens rfl rfl)
    · exact (hne rfl).elim

theorem oneHolder_insert [DecidableEq ι] (hone : OneHolder sh)
    (hknows : Knows i sh (.committing (.allocate a) taken)) :
    OneHolder (rollback i { sh with db := { sh.db with
      parties := (closeAll sh.now taken sh.db.parties).insert partyId (a.row sh.now) } }) := by
  obtain ⟨hvalid, -, -, hholds⟩ := hknows
  by_cases hh : a.holds = true
  · exact oneHolder_write hone
      (fun id p _ hp hopens => ((hholds hh).2 id p hp hopens nofun).resolve_right List.not_mem_nil)
      fun _ _ => opens_row hvalid
  · -- history: the new row is closed
    refine oneHolder_of_shrinks hone fun id p' pair g hp' hopens => ?_
    have hopens' : Opens sh p' pair g := opens_parties hopens rfl rfl
    rcases Table.lookup_insert_cases hp' with ⟨-, rfl⟩ | ⟨-, hp'⟩
    · have hpast := hvalid.past (by simpa using hh)
      have hopen : isOpen sh.now a.effectiveTo = true := hopens.isOpen
      rw [hpast] at hopen
      cases hopen
    · exact ⟨p', (closeAll_open hp' hopens.isOpen).2, hopens'⟩

variable {u : PartyPatch} {p q : VehicleParty}

theorem opens_patch (hlocked : PatchLocked i sh u p) (hq : u.changes.apply p = .ok q)
    (h : Opens sh q pair g) : (pair, g) = ((p.vehicleId, p.role), u.groupId) := by
  obtain ⟨hv, hcustomer, hr, -⟩ := PartyChanges.apply_eq_ok hq
  have hgroup := h.group
  rw [hcustomer] at hgroup
  have hg : g = u.groupId := group_unique hgroup hlocked.group
  have hv' : p.vehicleId = pair.1 := hv.symm.trans h.vehicle
  have hr' : p.role = pair.2 := hr.symm.trans h.role
  rw [hg, hv', hr']

theorem opens_plain (hlocked : PatchLocked i sh u p) (hholds : u.holds = false)
    (hq : u.changes.apply p = .ok q) (h : Opens sh q pair g) : Opens sh p pair g := by
  obtain ⟨hv, hcustomer, hr, -, hto, -⟩ := PartyChanges.apply_eq_ok hq
  refine ⟨hv.symm.trans h.vehicle, hr.symm.trans h.role, by rw [← hcustomer]; exact h.group, ?_⟩
  have hopen := h.isOpen
  rw [hto] at hopen
  rcases hset : u.changes.effectiveTo with _ | t
  · rw [hset] at hopen
    exact hopen
  · rw [hset, Option.getD_some, hlocked.past hholds t hset] at hopen
    cases hopen

theorem writes_patch (hbase : MergeBase Ranged sh)
    (hknows : Knows i sh (.committing (.patch u p) taken)) (hq : u.changes.apply p = .ok q) :
    Writes i sh ((closeAll sh.now taken sh.db.parties).insert u.partyId q) := by
  obtain ⟨hlocked, htaken, -, hholds⟩ := hknows
  obtain ⟨hv, hcustomer, hr, hmark, -, hrange⟩ := PartyChanges.apply_eq_ok hq
  have hclose := writes_closeAll hbase htaken
  refine ⟨fun id p₀ hp₀ => ?_, fun id p₀ hp₀ hchanged => ?_, fun id p' hfresh hp' => ?_,
    fun id p' pair g hp' hopens => ?_, fun id p' hp' hopen => ?_⟩
  · by_cases hid : id = u.partyId
    · subst hid
      obtain rfl := Option.mem_unique hlocked.row hp₀
      exact ⟨q, by rw [Table.lookup_insert_iff, if_pos rfl], hv, hcustomer, hr, hmark⟩
    · rw [Table.lookup_insert_iff, if_neg hid]
      exact hclose.old id p₀ hp₀
  · by_cases hid : id = u.partyId
    · rw [hid]
      exact hlocked.locked
    · rw [Table.lookup_insert_iff, if_neg hid] at hchanged
      exact hclose.locked id p₀ hp₀ hchanged
  · rcases Table.lookup_insert_cases hp' with ⟨rfl, -⟩ | ⟨-, hp'⟩
    · rw [hlocked.row] at hfresh
      cases hfresh
    · exact hclose.added id p' hfresh hp'
  · rcases Table.lookup_insert_cases hp' with ⟨rfl, rfl⟩ | ⟨-, hp'⟩
    · by_cases hh : u.holds = true
      · obtain ⟨hkey, -⟩ := hholds hh
        obtain ⟨rfl, rfl⟩ := Prod.mk.inj (opens_patch hlocked hq hopens)
        exact .inr hkey
      · exact .inl ⟨p, hlocked.row, opens_plain hlocked (by simpa using hh) hq hopens⟩
    · exact hclose.opened id p' pair g hp' hopens
  · rcases Table.lookup_insert_cases hp' with ⟨rfl, rfl⟩ | ⟨-, hp'⟩
    · exact hrange
    · exact hclose.ranged id p' hp' hopen

theorem oneHolder_patch [DecidableEq ι] (hone : OneHolder sh)
    (hknows : Knows i sh (.committing (.patch u p) taken)) (hq : u.changes.apply p = .ok q) :
    OneHolder (rollback i { sh with db := { sh.db with
      parties := (closeAll sh.now taken sh.db.parties).insert u.partyId q } }) := by
  obtain ⟨hlocked, -, -, hholds⟩ := hknows
  by_cases hh : u.holds = true
  · refine oneHolder_write hone (fun id p₀ hne hp₀ hopens => ?_) fun _ _ => opens_patch hlocked hq
    have hother : (Job.patch u p).excluding ≠ some id := fun hid => hne (Option.some.inj hid).symm
    exact ((hholds hh).2 id p₀ hp₀ hopens hother).resolve_right List.not_mem_nil
  · refine oneHolder_of_shrinks hone fun id p' pair g hp' hopens => ?_
    have hopens' : Opens sh p' pair g := opens_parties hopens rfl rfl
    rcases Table.lookup_insert_cases hp' with ⟨rfl, rfl⟩ | ⟨-, hp'⟩
    · exact ⟨p, hlocked.row, opens_plain hlocked (by simpa using hh) hq hopens'⟩
    · exact ⟨p', (closeAll_open hp' hopens.isOpen).2, hopens'⟩

theorem oneHolder_close [DecidableEq ι] (hone : OneHolder sh) :
    OneHolder (rollback i { sh with db := { sh.db with
      parties := closeAll sh.now taken sh.db.parties } }) := by
  refine oneHolder_of_shrinks hone fun id p' pair g hp' hopens => ?_
  exact ⟨p', (closeAll_open hp' hopens.isOpen).2, opens_parties hopens rfl rfl⟩

end Commits

section Moving

variable [DecidableEq ι] {i j : ι} {sh : Shared ι} {call : MergeCall} {sh' : Shared ι}
  {lo : MergeLocal} {lo' : Option MergeLocal}

/-- A merge opens nothing: a moved row keeps its key, and one closed at its
start was open already if that start is still to come. -/
theorem oneHolder_merge (hone : OneHolder sh) (h : MergeKnows Ranged i call sh lo)
    (hmove : MergeMoves i call sh lo sh' lo') : OneHolder sh' := by
  have hsame : ∀ {sh' : Shared ι}, sh'.db = sh.db → sh'.now = sh.now → OneHolder sh' := by
    intro sh' hdb hnow
    refine oneHolder_of_shrinks hone fun id p pair g hp hopens => ⟨p, ?_, ?_⟩
    · rwa [hdb] at hp
    · exact hopens.of_now hnow.symm.le hdb
  cases hmove with
  | copies writes earlier copies hcopies hfree => exact hsame takeAll_db.1 takeAll_db.2
  | pair | first | second | row | earlierRow | rollback => exact hsame rfl rfl
  | pairsHeld | pairsMissing | pairsRead | checked | keys | rows | planned | earlier | earlierHeld =>
    exact hone
  | commit writes earlier copies =>
    obtain ⟨hcalled, ⟨-, -, hplanned, -, -⟩, -⟩ := h
    refine oneHolder_of_shrinks hone fun id q pair g hq hopens => ?_
    obtain ⟨p, hp, hmerged⟩ := mergedParties_row hq
    have hgroup := group_of_mergedCustomers hopens.group
    refine ⟨p, hp, hmerged.vehicle.symm.trans hopens.vehicle,
      hmerged.role.symm.trans hopens.role, ?_, ?_⟩
    · rcases hmerged.customer with hcustomer | ⟨hcustomer, w, hw⟩
      · rwa [← hcustomer]
      · rw [hcustomer] at hgroup
        rw [(hplanned.row hw hp).1, group_unique hgroup hcalled.target]
        exact hcalled.duplicate
    · have hopen : isOpen sh.now q.effectiveTo = true := hopens.isOpen
      rcases hmerged.ends with hto | ⟨t, hw, hto⟩
      · rwa [← hto]
      · obtain ⟨rfl, hranged⟩ := (hplanned.row hw hp).2.2 t rfl
        rw [hto] at hopen
        rcases hpto : p.effectiveTo with _ | t
        · rfl
        · exact decide_eq_true ((of_decide_eq_true hopen).trans_le (hranged t hpto))

theorem openRows_merge (hbase : MergeBase Ranged sh) (h : MergeKnows Ranged i call sh lo)
    (hmove : MergeMoves i call sh lo sh' lo') (id : Uuid) (p : VehicleParty)
    (hp : sh'.db.parties.lookup id = some p) (hopen : isOpen sh'.now p.effectiveTo = true) :
    Ranged p := by
  cases hmove with
  | copies writes earlier copies hcopies hfree =>
    rw [takeAll_db.1] at hp
    rw [takeAll_db.2] at hopen
    exact hbase.openRows id p hp hopen
  | pair | first | second | row | earlierRow | rollback => exact hbase.openRows id p hp hopen
  | pairsHeld | pairsMissing | pairsRead | checked | keys | rows | planned | earlier | earlierHeld =>
    exact hbase.openRows id p hp hopen
  | commit writes earlier copies =>
    obtain ⟨p₀, hp₀, hmerged⟩ := mergedParties_row hp
    intro t ht
    rw [hmerged.start]
    rcases hmerged.ends with hto | ⟨t', hw, hto⟩
    · rw [hto] at ht hopen
      exact hbase.openRows id p₀ hp₀ hopen t ht
    · obtain ⟨rfl, -⟩ := (h.here.2.2.1.row hw hp₀).2.2 t' rfl
      rw [Option.mem_unique hto ht]

theorem lookup_repointVehicle (survivorId : Uuid) (rows : List Uuid)
    (parties : Table Uuid VehicleParty) (id : Uuid) :
    (repointVehicle survivorId rows parties).lookup id = (parties.lookup id).map fun p =>
      if id ∈ rows then { p with vehicleId := survivorId } else p :=
  Table.lookup_updateAll _ _ _

variable {survivorId : Uuid} {rows : List Uuid}

theorem repointVehicle_cases {parties : Table Uuid VehicleParty} {id : Uuid} {p' : VehicleParty}
    (h : (repointVehicle survivorId rows parties).lookup id = some p') :
    ∃ p, parties.lookup id = some p ∧ p'.customerId = p.customerId ∧ p'.role = p.role ∧
      p'.effectiveFrom = p.effectiveFrom ∧ p'.effectiveTo = p.effectiveTo ∧
      p'.mergedIntoCustomerId = p.mergedIntoCustomerId ∧
      ((id ∈ rows ∧ p'.vehicleId = survivorId) ∨ (id ∉ rows ∧ p' = p)) := by
  rw [lookup_repointVehicle] at h
  obtain ⟨p, hp, rfl⟩ := Option.map_eq_some_iff.mp h
  refine ⟨p, hp, ?_⟩
  by_cases hmem : id ∈ rows
  · simp [hmem]
  · simp [hmem]

theorem oneHolder_repoint (hone : OneHolder sh) (hapart : RepointApart i sh survivorId rows) :
    OneHolder (rollback i { sh with db := { sh.db with
      parties := repointVehicle survivorId rows sh.db.parties } }) := by
  intro id id' q q' pair g hq hq' hopens hopens'
  obtain ⟨p, hp, hcustomer, hr, -, hto, -, hcase⟩ := repointVehicle_cases hq
  obtain ⟨p', hp', hcustomer', hr', -, hto', -, hcase'⟩ := repointVehicle_cases hq'
  have hopens : Opens sh q pair g := opens_parties hopens rfl rfl
  have hopens' : Opens sh q' pair g := opens_parties hopens' rfl rfl
  obtain ⟨c, hc, hg⟩ := hopens.group
  obtain ⟨c', hc', hg'⟩ := hopens'.group
  -- the two rows are both on the survivor, or neither has moved
  have harrive : Arrives survivorId rows id p → Arrives survivorId rows id' p' → id = id' := by
    intro ha ha'
    refine hapart.holders id id' p p' c c' hp hp' ?_ ?_ ha ha' ?_ (hg.trans hg'.symm) ?_ ?_
    · rw [← hcustomer]
      exact hc
    · rw [← hcustomer']
      exact hc'
    · exact hr.symm.trans (hopens.role.trans (hopens'.role.symm.trans hr'))
    · rw [← hto]
      exact hopens.isOpen
    · rw [← hto']
      exact hopens'.isOpen
  rcases hcase with ⟨hmem, hv⟩ | ⟨hmem, rfl⟩
  · rcases hcase' with ⟨hmem', -⟩ | ⟨-, rfl⟩
    · exact harrive (.inl hmem) (.inl hmem')
    · exact harrive (.inl hmem) (.inr (hopens'.vehicle.trans (hopens.vehicle.symm.trans hv)))
  · rcases hcase' with ⟨hmem', hv'⟩ | ⟨-, rfl⟩
    · exact harrive (.inr (hopens.vehicle.trans (hopens'.vehicle.symm.trans hv'))) (.inl hmem')
    · exact hone id id' q q' pair g hp hp' hopens hopens'

theorem rely_of_repoint (hij : j ≠ i) (hapart : RepointApart i sh survivorId rows)
    (hfree : ∀ id ∈ rows, Free sh.grants i (.party id) .noKeyUpdate) :
    Rely j sh (rollback i { sh with db := { sh.db with
      parties := repointVehicle survivorId rows sh.db.parties } }) where
  time := le_rfl
  grants := fun r m => held_release.trans ⟨And.left, fun h => ⟨h, hij⟩⟩
  customers := fun _ _ _ _ => rfl
  rows := by
    intro id hheld
    have hmem : id ∉ rows := fun hmem => hij (hfree id hmem _ hheld rfl rfl)
    show (repointVehicle survivorId rows sh.db.parties).lookup id = _
    rw [lookup_repointVehicle]
    simp [hmem]
  groups := fun _ c hc => ⟨c, hc, rfl⟩
  named := fun _ _ _ => Iff.rfl
  marked := by
    rintro d - id ⟨p', hp', hmark⟩
    obtain ⟨p, hp, -, -, -, -, hsame, -⟩ := repointVehicle_cases hp'
    exact ⟨p, hp, hsame.symm.trans hmark⟩
  owned := by
    rintro d - id ⟨p, hp, hof⟩
    show RowOf (repointVehicle survivorId rows sh.db.parties) id d
    rw [RowOf, lookup_repointVehicle, hp, Option.map_some]
    refine ⟨_, rfl, ?_⟩
    split
    · exact hof
    · exact hof
  pairs := by
    intro d hheld id p' hp' hof
    obtain ⟨p, hp, hcustomer, -, -, -, -, ⟨hmem, -⟩ | ⟨-, rfl⟩⟩ := repointVehicle_cases hp'
    · -- the lock of a pair whose vehicle the row leaves is nobody's
      refine ⟨p, hp, hcustomer.symm.trans hof, fun g hpair => ?_⟩
      exact ((hapart.pairs j _ g _ hij hpair).2 id hmem p hp rfl).elim
    · exact ⟨p', hp, hof, fun _ _ => ⟨rfl, rfl⟩⟩
  keyed := by
    intro pair g hheld id p' hp' hopens
    obtain ⟨p, hp, -, -, -, -, -, ⟨-, hv⟩ | ⟨-, rfl⟩⟩ := repointVehicle_cases hp'
    · exact ((hapart.pairs j pair g _ hij hheld).1 (hopens.vehicle.symm.trans hv)).elim
    · exact ⟨p', hp, rfl, opens_parties hopens rfl rfl⟩
  kept := by
    intro id p c hp hc
    have hrow : ∃ p', (repointVehicle survivorId rows sh.db.parties).lookup id = some p' := by
      rw [lookup_repointVehicle, hp]
      exact ⟨_, rfl⟩
    obtain ⟨p', hp'⟩ := hrow
    obtain ⟨p₀, hp₀, hcustomer, hr, -⟩ := repointVehicle_cases hp'
    obtain rfl := Option.mem_unique hp hp₀
    exact ⟨p', c, hp', by rw [hcustomer]; exact hc, hr, rfl⟩

theorem mergeBase_of_repoint (hbase : MergeBase Ranged sh) :
    MergeBase Ranged (rollback i { sh with db := { sh.db with
      parties := repointVehicle survivorId rows sh.db.parties } }) where
  compatible := hbase.compatible.release
  openRows := by
    intro id p' hp' hopen t ht
    obtain ⟨p, hp, -, -, hfrom, hto, -⟩ := repointVehicle_cases hp'
    rw [hto] at hopen ht
    rw [hfrom]
    exact hbase.openRows id p hp hopen t ht
  dupMerged := hbase.dupMerged
  dupGroup := hbase.dupGroup
  markGroup := by
    intro id p' t hp' hmark
    obtain ⟨p, hp, hcustomer, -, -, -, hsame, -⟩ := repointVehicle_cases hp'
    obtain ⟨c, t', hc, ht', hg⟩ := hbase.markGroup id p t hp (hsame.symm.trans hmark)
    exact ⟨c, t', by rw [hcustomer]; exact hc, ht', hg⟩

end Moving

section Own

variable {i : ι} {sh : Shared ι} {job : Job} {p : VehicleParty}

theorem mem_openHolders {db : CustomerDb} {now : Time} {id : Uuid}
    (hp : db.parties.lookup id = some p)
    (hholds : holdsIn db.customers now job.pair job.groupId p = true)
    (hne : job.excluding ≠ some id) : (id, p.customerId) ∈ openHolders db now job := by
  rw [openHolders, List.mem_map]
  refine ⟨⟨id, p⟩, ?_, rfl⟩
  rw [List.mem_insertionSort, List.mem_filter]
  exact ⟨Table.lookup_eq_some_iff_mem.mp hp, by simpa [hholds] using hne.symm⟩

theorem opens_iff_holdsIn {pair : Pair} {g : Uuid} :
    Opens sh p pair g ↔ holdsIn sh.db.customers sh.now pair g p = true := by
  constructor
  · rintro ⟨hv, hr, ⟨c, hc, hg⟩, hopen⟩
    simp [holdsIn, hv, hr, hc, hg, hopen]
  · intro h
    simp only [holdsIn, decide_eq_true_eq, Option.any_eq_true] at h
    obtain ⟨hv, hr, ⟨c, hc, hg⟩, hopen⟩ := h
    exact ⟨hv, hr, ⟨c, hc, hg⟩, hopen⟩

theorem found_openHolders (job : Job) : Found sh job (openHolders sh.db sh.now job) [] :=
  fun _ _ hp hopens hne => .inr (mem_openHolders hp (opens_iff_holdsIn.mp hopens) hne)

variable {asOf : Time} {row : Uuid × Uuid} {taken : List Uuid}

theorem found_takeHolder {pending : List (Uuid × Uuid)} (hasOf : asOf ≤ sh.now)
    (h : Found sh job (row :: pending) taken) :
    Found sh job pending (takeHolder sh.db.parties asOf job row taken) := by
  have hsub : ∀ id ∈ taken, id ∈ takeHolder sh.db.parties asOf job row taken := by
    intro id hid
    unfold takeHolder
    split
    · exact List.mem_append_left _ hid
    · exact hid
  intro id p hp hopens hne
  rcases h id p hp hopens hne with hid | hid
  · exact .inl (hsub id hid)
  · rcases List.mem_cons.mp hid with rfl | hid
    · -- the row being locked is still a holder, of the customer it was found with
      left
      have hopen := isOpen_anti hasOf hopens.isOpen
      rw [takeHolder, if_pos]
      · exact List.mem_append_right _ List.mem_cons_self
      · simp [hp, hopens.vehicle, hopens.role, hopen]
    · exact .inr hid

theorem rowsHeld_takeHolder (h : RowsHeld i sh taken) :
    RowsHeld i (take i (.party row.1) .update sh) (takeHolder sh.db.parties asOf job row taken) := by
  intro id hid
  unfold takeHolder at hid
  split at hid
  · rcases List.mem_append.mp hid with hid | hid
    · exact held_take.mpr (.inr (h id hid))
    · rw [List.mem_singleton.mp hid]
      exact held_take.mpr (.inl ⟨rfl, rfl, rfl⟩)
  · exact held_take.mpr (.inr (h id hid))

theorem JobValid.take {job : Job} {r : Resource} {m : Mode} (h : JobValid i sh job) :
    JobValid i (take i r m sh) job := by
  cases job with
  | allocate a => exact ⟨h.group, h.range, h.past⟩
  | patch u p =>
    exact ⟨h.row, held_take.mpr (.inr h.locked), h.group, h.same, h.past⟩

variable {u : PartyPatch}

theorem knows_holdingRow (h : Knows i sh (.lockingParty u))
    (hp : sh.db.parties.lookup u.partyId = some p) (hholds : u.holds = true)
    (hvehicle : p.vehicleId = u.vehicleId) :
    Knows i (take i (.party u.partyId) .update sh) (.refusing (.patch u p)) := by
  obtain ⟨hvalid, hpair⟩ := h
  obtain ⟨p₀, c, hp₀, hc, hrole, hg⟩ := hvalid.row
  obtain rfl := Option.mem_unique hp hp₀
  refine ⟨⟨hp, held_take.mpr (.inl ⟨rfl, rfl, rfl⟩), ⟨c, hc, hg⟩, fun _ => ⟨hvehicle, hrole⟩,
    hvalid.past⟩, held_take.mpr (.inr ?_)⟩
  show Held sh.grants i (.advisory (p.vehicleId, p.role) u.groupId) .update
  rw [hvehicle, hrole]
  exact hpair hholds

theorem knows_plainRow (h : Knows i sh (.lockingParty u))
    (hp : sh.db.parties.lookup u.partyId = some p) (hholds : u.holds = false) :
    Knows i (take i (.party u.partyId) .update sh) (.committing (.patch u p) []) := by
  obtain ⟨hvalid, -⟩ := h
  obtain ⟨p₀, c, hp₀, hc, hrole, hg⟩ := hvalid.row
  obtain rfl := Option.mem_unique hp hp₀
  have hnot : ∀ {q : Prop}, u.holds = true → q := by
    intro q hh
    rw [hholds] at hh
    cases hh
  exact ⟨⟨hp, held_take.mpr (.inl ⟨rfl, rfl, rfl⟩), ⟨c, hc, hg⟩, hnot, hvalid.past⟩,
    (nofun), nofun, hnot⟩

end Own

section Runs

variable {i j : ι} {sh sh' : Shared ι} {lo lo' : PartyLocal} {ch : PartyChoice}

def Shares (sh : Shared ι) : Prop := MergeBase Ranged sh ∧ OneHolder sh

theorem shares_of_locks (hG : Shares sh) (hnow : sh'.now = sh.now) (hdb : sh'.db = sh.db)
    (hcompatible : Compatible sh'.grants) : Shares sh' := by
  refine ⟨hG.1.of_db hnow hdb hcompatible, oneHolder_of_shrinks hG.2 fun id p pair g hp hopens => ?_⟩
  exact ⟨p, by rwa [hdb] at hp, hopens.of_now hnow.symm.le hdb⟩

theorem shares_take {r : Resource} {m : Mode} (hG : Shares sh) (hfree : Free sh.grants i r m) :
    Shares (take i r m sh) := shares_of_locks hG rfl rfl (hG.1.compatible.acquire hfree)

theorem shares_tick (hG : Shares sh) (now : Time) : Shares (tick now sh) := by
  refine ⟨⟨hG.1.compatible, fun id p hp hopen => ?_, hG.1.dupMerged, hG.1.dupGroup,
    hG.1.markGroup⟩, oneHolder_of_shrinks hG.2 fun id p pair g hp hopens => ?_⟩
  · exact hG.1.openRows id p hp (isOpen_anti (le_max_left _ _) hopen)
  · exact ⟨p, hp, hopens.of_now (le_max_left _ _) rfl⟩

variable [DecidableEq ι]

theorem shares_of_writes {parties : Table Uuid VehicleParty} (hG : Shares sh)
    (hw : Writes i sh parties)
    (hone : OneHolder (rollback i { sh with db := { sh.db with parties := parties } })) :
    Shares (rollback i { sh with db := { sh.db with parties := parties } }) :=
  ⟨mergeBase_of_writes hG.1 hw, hone⟩

theorem step_own (hG : Shares sh) (hL : Knows i sh lo) (hok : Ok i ch sh lo)
    (h : partyStep i ch sh lo = some (sh', lo')) : Shares sh' ∧ Knows i sh' lo' := by
  cases partyMoves_of_step h with
  | allocate ch a hvalid => exact ⟨hG, hvalid⟩
  | update ch u hvalid =>
    refine ⟨hG, ?_⟩
    by_cases hh : u.holds = true
    · rw [if_pos hh]
      exact hvalid
    · rw [if_neg hh]
      exact ⟨hvalid, fun hh' => (hh hh').elim⟩
  | delete ch partyId => exact ⟨hG, trivial⟩
  | startMerge ch call _ _ _ _ _ hcall =>
    refine ⟨hG, startMerge_called hcall, ?_, nofun⟩
    exact ⟨fun id m hheld => hL _ m hheld, fun id m hheld => hL _ m hheld,
      fun pair g m hheld => (hL _ m hheld).elim⟩
  | repoint => exact ⟨hG, trivial⟩
  | merge call lo sh' lo₁ hmove =>
    have hone := oneHolder_merge hG.2 hL hmove
    refine ⟨⟨mergeBase_move hG.1 hL hmove ?_, hone⟩, ?_⟩
    · exact openRows_merge hG.1 hL hmove
    · cases lo₁ with
      | none => exact merge_ended hmove
      | some lo₁ => exact mergeKnows_move hG.1 hL hmove
  | pair a hfree =>
    exact ⟨shares_take hG hfree, ⟨hL.group, hL.range, hL.past⟩,
      held_take.mpr (.inl ⟨rfl, rfl, rfl⟩)⟩
  | patchPair u hfree =>
    exact ⟨shares_take hG hfree, ⟨hL.row, hL.past⟩, fun _ => held_take.mpr (.inl ⟨rfl, rfl, rfl⟩)⟩
  | holdingRow u p hfree hp hholds hmark =>
    exact ⟨shares_take hG hfree, knows_holdingRow hL hp hholds (hok rfl hholds p hp)⟩
  | plainRow u p q hfree hp hholds hq => exact ⟨shares_take hG hfree, knows_plainRow hL hp hholds⟩
  | customer a effectiveFrom c hfree hc hlive hholds hfrom =>
    refine ⟨shares_take hG hfree, ⟨hL.1.group, fun t ht => ?_, hL.1.past⟩,
      held_take.mpr (.inr hL.2), held_take.mpr (.inl ⟨rfl, rfl, rfl⟩)⟩
    obtain ⟨f, hf, hft⟩ := hL.1.range t ht
    exact ⟨f, hfrom f hf, hft⟩
  | history a c hfree hc hlive hholds =>
    refine ⟨shares_take hG hfree, hL.1.take, (nofun),
      fun _ => held_take.mpr (.inl ⟨rfl, rfl, rfl⟩), fun hh => ?_⟩
    exact (Bool.false_ne_true (hholds.symm.trans hh)).elim
  | patchCustomer u p q hfree hq =>
    exact ⟨shares_take hG hfree, hL.1.take, held_take.mpr (.inr hL.2),
      held_take.mpr (.inl ⟨rfl, rfl, rfl⟩)⟩
  | read job =>
    exact ⟨hG, hL.1, hL.2.1, hL.2.2, le_rfl, (nofun), found_openHolders job⟩
  | holder job asOf row pending taken hfree =>
    obtain ⟨hjob, hkey, hcustomer, hasOf, htaken, hfound⟩ := hL
    exact ⟨shares_take hG hfree, hjob.take, held_take.mpr (.inr hkey),
      held_take.mpr (.inr hcustomer), hasOf, rowsHeld_takeHolder htaken, fun id p hp hopens =>
        found_takeHolder hasOf hfound id p hp (opens_parties hopens rfl rfl)⟩
  | holders job asOf taken =>
    obtain ⟨hjob, hkey, hcustomer, -, htaken, hfound⟩ := hL
    exact ⟨hG, hjob, htaken, fun _ => hcustomer, fun _ => ⟨hkey, hfound⟩⟩
  | insert partyId a taken hnone hnew =>
    exact ⟨shares_of_writes hG (writes_insert hG.1 hL hnone hnew) (oneHolder_insert hG.2 hL),
      not_held_rollback⟩
  | patch u p q taken hq =>
    exact ⟨shares_of_writes hG (writes_patch hG.1 hL hq) (oneHolder_patch hG.2 hL hq),
      not_held_rollback⟩
  | disconnect partyId hfree =>
    exact ⟨shares_take hG hfree, held_take.mpr (.inl ⟨rfl, rfl, rfl⟩)⟩
  | close partyId =>
    -- the session holds the row it closes
    refine ⟨shares_of_writes hG (writes_closeAll hG.1 fun id hid => ?_) (oneHolder_close hG.2),
      not_held_rollback⟩
    rw [List.mem_singleton.mp hid]
    exact hL
  | repointed duplicateId survivorId rows hfree =>
    exact ⟨⟨mergeBase_of_repoint hG.1, oneHolder_repoint hG.2 (hok rfl)⟩, not_held_rollback⟩
  | rollback => exact ⟨shares_of_locks hG rfl rfl hG.1.compatible.release, not_held_rollback⟩
  | tick now lo => exact ⟨shares_tick hG now, knows_rely hL (rely_tick i now sh)⟩

theorem step_rely (hij : j ≠ i) (hG : Shares sh) (hL : Knows i sh lo) (hok : Ok i ch sh lo)
    (h : partyStep i ch sh lo = some (sh', lo')) : Rely j sh sh' := by
  have htake : ∀ {r m}, Rely j sh (take i r m sh) :=
    rely_of_locks rfl rfl fun r m => held_take.trans
      ⟨fun h => h.resolve_left fun heq => hij heq.1, .inr⟩
  have hsame : Rely j sh sh := rely_of_locks rfl rfl fun _ _ => Iff.rfl
  cases partyMoves_of_step h with
  | merge call lo sh' lo₁ hmove => exact rely_of_merge hG.1 hL hij hmove
  | insert partyId a taken hnone hnew =>
    exact rely_of_writes (writes_insert hG.1 hL hnone hnew) hG.1.compatible hij
  | patch u p q taken hq => exact rely_of_writes (writes_patch hG.1 hL hq) hG.1.compatible hij
  | close partyId =>
    refine rely_of_writes (writes_closeAll hG.1 fun id hid => ?_) hG.1.compatible hij
    rw [List.mem_singleton.mp hid]
    exact hL
  | repointed duplicateId survivorId rows hfree => exact rely_of_repoint hij (hok rfl) hfree
  | rollback =>
    exact rely_of_locks rfl rfl fun r m => held_release.trans ⟨And.left, fun h => ⟨h, hij⟩⟩
  | tick now lo => exact rely_tick j now sh
  | pair | patchPair | holdingRow | plainRow | customer | history | patchCustomer | holder
  | disconnect => exact htake
  | allocate | update | delete | startMerge | repoint | read | holders => exact hsame

end Runs

/-! ### Runs -/

/-- Before the first request: nobody is merged, every row ends after it starts,
and each role has one holder. -/
structure Opening (ι : Type) (db : CustomerDb) : Prop where
  unnamed : ∀ id c, db.customers.lookup id = some c → c.duplicateOfCustomerId = none
  unmarked : ∀ id p, db.parties.lookup id = some p → p.mergedIntoCustomerId = none
  ranged : ∀ id p, db.parties.lookup id = some p → Ranged p
  one : OneHolder ({ db := db } : Shared ι)

def opening (db : CustomerDb) : Config ι (Shared ι) PartyLocal := ⟨{ db := db }, fun _ => .idle⟩

theorem opening_holds {db : CustomerDb} (hdb : Opening ι db) :
    Holds Shares Knows (opening db : Config ι (Shared ι) PartyLocal) := by
  have hname : ∀ id c t, db.customers.lookup id = some c → c.duplicateOfCustomerId ≠ some t := by
    intro id c t hc hname
    rw [hdb.unnamed id c hc] at hname
    cases hname
  have hmark : ∀ id p t, db.parties.lookup id = some p → p.mergedIntoCustomerId ≠ some t := by
    intro id p t hp hmark
    rw [hdb.unmarked id p hp] at hmark
    cases hmark
  refine ⟨⟨⟨Compatible.nil, fun id p hp _ => hdb.ranged id p hp, ?_, ?_, ?_⟩, hdb.one⟩,
    fun i r m h => ?_⟩
  · exact fun id c t hc h => (hname id c t hc h).elim
  · exact fun id c t hc h => (hname id c t hc h).elim
  · exact fun id p t hp h => (hmark id p t hp h).elim
  · cases h

abbrev OkAt (c : Config ι (Shared ι) PartyLocal) (a : ι × PartyChoice) : Prop :=
  Ok a.1 a.2 c.shared (c.locals a.1)

/-- **One current holder per role.**  In every run whose repointings bring no
two holders together and touch no pair at work, and whose reopens lock their
rows where they read them, each role has at most one holder in every state. -/
theorem one_holder_per_role [DecidableEq ι] {db : CustomerDb} (hdb : Opening ι db)
    (actions : List (ι × PartyChoice))
    (hok : Run.Along (move partyStep) OkAt (opening db) actions) :
    OneHolder (actions.foldl (move partyStep) (opening db)).shared := by
  have hstep : ∀ (c : Config ι (Shared ι) PartyLocal) (a : ι × PartyChoice), Holds Shares Knows c →
      OkAt c a → Holds Shares Knows (move partyStep c a) := by
    intro c a hc ha
    refine noninterference (G := Shares) (L := Knows) Ok
      (fun i ch sh lo sh' lo' hG hL hok h => step_own hG hL hok h) ?_ hc ha
    intro i j ch sh lo lo' sh' lo'' hij hG hLi hLj hok h
    exact knows_rely hLj (step_rely hij.symm hG hLi hok h)
  exact (Run.invariant_along hstep (opening_holds hdb) hok).1.2

def pairOf : Resource → Option Pair
  | .advisory pair _ => some pair
  | .customer _ | .party _ => none

set_option synthInstance.maxSize 512 in
instance [DecidableEq ι] (i : ι) (sh : Shared ι) (survivorId : Uuid) (rows : List Uuid) :
    Decidable (RepointApart i sh survivorId rows) :=
  decidable_of_iff ((∀ e ∈ sh.db.parties.entries, ∀ e' ∈ sh.db.parties.entries,
      ∀ c ∈ sh.db.customers.lookup e.2.customerId, ∀ c' ∈ sh.db.customers.lookup e'.2.customerId,
      (e.1 ∈ rows ∨ e.2.vehicleId = survivorId) → (e'.1 ∈ rows ∨ e'.2.vehicleId = survivorId) →
      e.2.role = e'.2.role → c.groupId = c'.groupId → isOpen sh.now e.2.effectiveTo = true →
      isOpen sh.now e'.2.effectiveTo = true → e.1 = e'.1) ∧
      ∀ g ∈ sh.grants, g.holder ≠ i → ∀ pair ∈ pairOf g.resource, pair.1 ≠ survivorId ∧
        ∀ id ∈ rows, ∀ p ∈ sh.db.parties.lookup id, p.vehicleId ≠ pair.1) <| by
    constructor
    · rintro ⟨hholders, hpairs⟩
      refine ⟨fun id id' p p' c c' hp hp' hc hc' => ?_, fun j pair g m hj hheld => ?_⟩
      · exact hholders ⟨id, p⟩ (Table.lookup_eq_some_iff_mem.mp hp) ⟨id', p'⟩
          (Table.lookup_eq_some_iff_mem.mp hp') c hc c' hc'
      · exact hpairs _ hheld hj pair rfl
    · rintro ⟨hholders, hpairs⟩
      refine ⟨fun e he e' he' c hc c' hc' => ?_, fun g hg hj pair hpair => ?_⟩
      · exact hholders e.1 e'.1 e.2 e'.2 c c' (Table.lookup_eq_some_iff_mem.mpr he)
          (Table.lookup_eq_some_iff_mem.mpr he') hc hc'
      · obtain ⟨j, r, m⟩ := g
        cases r with
        | advisory pair' gid =>
          obtain rfl : pair' = pair := Option.some.inj hpair
          exact hpairs j pair' gid m hj hg
        | customer | party => cases hpair

instance [DecidableEq ι] (i : ι) (ch : PartyChoice) (sh : Shared ι) : ∀ lo, Decidable (Ok i ch sh lo)
  | .lockingParty u => inferInstanceAs (Decidable (ch = .go → u.holds = true →
      ∀ p ∈ sh.db.parties.lookup u.partyId, p.vehicleId = u.vehicleId))
  | .repointing _ survivorId rows =>
    inferInstanceAs (Decidable (ch = .go → RepointApart i sh survivorId rows))
  | .idle | .merging .. | .allocating _ | .patching _ | .refusing _ | .reading _
  | .lockingHolders .. | .committing .. | .disconnecting _ | .closing _ =>
    inferInstanceAs (Decidable True)

def twoBuyers : CustomerDb where
  customers := ((∅ : Table Uuid CustomerRow).insert 1 { groupId := 7 }).insert 2 { groupId := 7 }

theorem opening_twoBuyers : Opening ℕ twoBuyers := by
  have hnone : ∀ id (p : VehicleParty), twoBuyers.parties.lookup id ≠ some p := fun id p => nofun
  have hname : ∀ e ∈ twoBuyers.customers.entries, e.2.duplicateOfCustomerId = none := by decide
  refine ⟨Table.forall_lookup.mpr hname, ?_, ?_, ?_⟩
  · exact fun id p hp => (hnone id p hp).elim
  · exact fun id p hp => (hnone id p hp).elim
  · exact fun id id' p p' pair g hp => (hnone id p hp).elim

/-- An allocation of a role on a vehicle, up to its commit. -/
def allocation (i customerId vehicleId : ℕ) (role : VehiclePartyRole) (partyId : ℕ) :
    List (ℕ × PartyChoice) :=
  (i, .allocate 7 customerId vehicleId role) :: List.replicate 4 (i, .go) ++ [(i, .insert partyId)]

def go (i n : ℕ) : List (ℕ × PartyChoice) := List.replicate n (i, .go)

/-- Vehicle 50 changes hands while its former owner's row is being reopened,
which waits and closes the new one; then vehicle 60 is merged into it and the
two customers are merged. -/
def ownerReopened : List (ℕ × PartyChoice) :=
  allocation 0 1 50 .owner 10 ++ (3, .tick 5) :: allocation 0 2 60 .driver 12 ++
    (0, .allocate 7 2 50 .owner) :: (1, .update 7 1 10 { effectiveTo := some none }) ::
    go 0 2 ++ go 1 1 ++ go 0 3 ++ (0, .insert 11) :: go 1 7 ++
    (2, .repoint 60 50) :: (2, .go) :: (0, .merge 7 2 1 none 1) :: go 0 30

theorem one_holder_per_role_ownerReopened :
    (ownerReopened.foldl (move partyStep) (opening twoBuyers)).shared.db.parties.entries.map
      (fun e => (e.1, e.2.vehicleId, e.2.customerId, e.2.role, e.2.effectiveTo)) =
        [(10, 50, 1, .owner, none), (11, 50, 1, .owner, some 5), (12, 50, 1, .driver, none)] ∧
    OneHolder (ownerReopened.foldl (move partyStep) (opening twoBuyers)).shared := by
  have hok : Run.Along (move partyStep) OkAt (opening twoBuyers) ownerReopened := by decide +kernel
  exact ⟨by decide +kernel, one_holder_per_role opening_twoBuyers ownerReopened hok⟩

/-- Two vehicles with an owner each, and the second is merged into the first. -/
def twoOwners : List (ℕ × PartyChoice) :=
  allocation 0 1 50 .owner 10 ++ allocation 0 2 60 .owner 11 ++ [(1, .repoint 60 50), (1, .go)]

/-- Two vehicles with an owner each are merged. -/
theorem vehicleMerge_two_holders :
    ¬ ∀ (db : CustomerDb) (actions : List (ℕ × PartyChoice)), Opening ℕ db →
      OneHolder (actions.foldl (move partyStep) (opening db)).shared := by
  intro h
  have hone := h twoBuyers twoOwners opening_twoBuyers
  generalize hs : (twoOwners.foldl (move partyStep) (opening twoBuyers)).shared = sh at hone
  have hrow : ∀ id ∈ [10, 11], (sh.db.parties.lookup id).any
      (holdsIn sh.db.customers sh.now (50, .owner) 7) = true := by
    rw [← hs]
    decide +kernel
  have hopens : ∀ id ∈ [10, 11], ∃ p, sh.db.parties.lookup id = some p ∧
      Opens sh p (50, .owner) 7 := by
    intro id hid
    obtain ⟨p, hp, hholds⟩ := (Option.any_eq_true _ _).mp (hrow id hid)
    exact ⟨p, hp, opens_iff_holdsIn.mpr hholds⟩
  obtain ⟨p, hp, hopen⟩ := hopens 10 (by simp)
  obtain ⟨q, hq, hopen'⟩ := hopens 11 (by simp)
  exact absurd (hone 10 11 p q _ _ hp hq hopen hopen') (by decide)

end Nexotec.PartySessions
