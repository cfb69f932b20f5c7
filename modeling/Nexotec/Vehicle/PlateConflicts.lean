/-
Conflicts of plate assignments (`app/vehicle/services/plate.py`, `app/vehicle/models/plate.py`) and
the picker of the search box (`app/vehicle/services/search.py`).

Two rows of one plate for different vehicles are rivals unless they share a plate group.  Each new
row is compared with the current ones among the rows before it; whether it is current itself is not
asked.

A row that has expired and is recorded last is flagged: `expiredLast_flagged`.
-/
import Mathlib.Data.Sym.Sym2
import Nexotec.Lib.Earlier
import Nexotec.Vehicle.VehicleMerge

namespace Nexotec.Plates

open VehicleMerge Earlier

/-! ### Recording -/

def isCurrent (row : VehiclePlate) (asOf : ℤ) : Bool :=
  row.validFrom ≤ asOf ∧ ∀ validTo ∈ row.validTo, asOf ≤ validTo

structure VehiclePlateConflict where
  plate : String
  canton : String
  firstPlateId : Uuid
  secondPlateId : Uuid
  resolved : Bool := false

structure PlateDb where
  plates : Table Uuid VehiclePlate := ∅
  conflicts : List VehiclePlateConflict := []

def sharesGroup (row other : VehiclePlate) : Bool :=
  row.plateGroupId.isSome ∧ other.plateGroupId = row.plateGroupId

def alreadyFlagged (conflicts : List VehiclePlateConflict) (id other : Uuid) : Bool :=
  conflicts.any fun c => !c.resolved &&
    ((c.firstPlateId = id && c.secondPlateId = other) ||
      (c.firstPlateId = other && c.secondPlateId = id))

def compare (today : ℤ) (id : Uuid) (row : VehiclePlate) (conflicts : List VehiclePlateConflict)
    (other : Uuid × VehiclePlate) : List VehiclePlateConflict :=
  if !isCurrent other.2 today then conflicts
  else if sharesGroup row other.2 then conflicts
  else if alreadyFlagged conflicts id other.1 then conflicts
  else conflicts ++ [{
    plate := row.plate
    canton := row.canton
    firstPlateId := id
    secondPlateId := other.1 }]

def others (plates : Table Uuid VehiclePlate) (id : Uuid) (row : VehiclePlate) :
    List (Uuid × VehiclePlate) :=
  (plates.entries.filter fun e => e.2.plate = row.plate ∧ e.2.canton = row.canton ∧ e.1 ≠ id ∧
    e.2.vehicleId ≠ row.vehicleId).map fun e => (e.1, e.2)

/-- `record_plate_assignment`; the id of the row is drawn. -/
def recordPlateAssignment (today : ℤ) (db : PlateDb) (e : Uuid × VehiclePlate) : PlateDb :=
  let plates := db.plates.insert e.1 e.2
  ⟨plates, (others plates e.1 e.2).foldl (compare today e.1 e.2) db.conflicts⟩

def record (today : ℤ) (order : List (Uuid × VehiclePlate)) : PlateDb :=
  order.foldl (recordPlateAssignment today) {}

/-! ### Rivals -/

/-- Rows of one plate for different vehicles, not of one group. -/
structure Rivals (row other : VehiclePlate) : Prop where
  plate : other.plate = row.plate
  canton : other.canton = row.canton
  vehicle : other.vehicleId ≠ row.vehicleId
  group : sharesGroup row other = false

def pairs (conflicts : List VehiclePlateConflict) : List (Sym2 Uuid) :=
  (conflicts.filter fun c => !c.resolved).map fun c => s(c.firstPlateId, c.secondPlateId)

/-- **What should be listed**: the pairs of rivals that are both current, each once. -/
structure Listed (today : ℤ) (assignments : List (Uuid × VehiclePlate))
    (conflicts : List VehiclePlateConflict) : Prop where
  once : (pairs conflicts).Nodup
  exact_pairs : ∀ p, p ∈ pairs conflicts ↔ ∃ e ∈ assignments, ∃ e' ∈ assignments,
    Rivals e.2 e'.2 ∧ isCurrent e.2 today = true ∧ isCurrent e'.2 today = true ∧ p = s(e.1, e'.1)

section Recording

variable {today : ℤ} {id other : Uuid} {row : VehiclePlate} {e e' : Uuid × VehiclePlate}
  {conflicts : List VehiclePlateConflict} {p : Sym2 Uuid}

theorem sharesGroup_symm (row other : VehiclePlate) : sharesGroup row other = sharesGroup other row := by
  unfold sharesGroup
  rw [decide_eq_decide]
  constructor
  · rintro ⟨hsome, heq⟩
    exact ⟨heq ▸ hsome, heq.symm⟩
  · rintro ⟨hsome, heq⟩
    exact ⟨heq ▸ hsome, heq.symm⟩

theorem Rivals.symm {row other : VehiclePlate} (h : Rivals row other) : Rivals other row :=
  ⟨h.plate.symm, h.canton.symm, h.vehicle.symm, (sharesGroup_symm other row).trans h.group⟩

theorem alreadyFlagged_iff :
    alreadyFlagged conflicts id other = true ↔ s(id, other) ∈ pairs conflicts := by
  unfold alreadyFlagged pairs
  rw [List.any_eq_true, List.mem_map]
  refine exists_congr fun c => ?_
  rw [List.mem_filter, Sym2.eq_iff]
  simp only [Bool.and_eq_true, Bool.or_eq_true, decide_eq_true_eq]
  tauto

theorem compare_pairs : pairs (compare today id row conflicts e) =
      if isCurrent e.2 today = true ∧ sharesGroup row e.2 = false ∧ s(id, e.1) ∉ pairs conflicts then
        pairs conflicts ++ [s(id, e.1)] else pairs conflicts := by
  by_cases hnew : isCurrent e.2 today = true ∧ sharesGroup row e.2 = false ∧ s(id, e.1) ∉ pairs conflicts
  · obtain ⟨hcurrent, hgroup, hflagged⟩ := hnew
    have hnot : alreadyFlagged conflicts id e.1 = false :=
      Bool.eq_false_iff.mpr fun h => hflagged (alreadyFlagged_iff.mp h)
    rw [if_pos ⟨hcurrent, hgroup, hflagged⟩, compare, hcurrent, hgroup, hnot]
    simp only [Bool.not_true, Bool.false_eq_true, if_false]
    rw [pairs, List.filter_append, List.map_append]
    rfl
  · rw [if_neg hnew]
    unfold compare
    split
    · rfl
    · next hcurrent =>
      split
      · rfl
      · next hgroup =>
        split
        · rfl
        · next hflagged =>
          exact absurd ⟨by simpa using hcurrent, by simpa using hgroup,
            fun hmem => hflagged (alreadyFlagged_iff.mpr hmem)⟩ hnew

theorem compare_once (h : (pairs conflicts).Nodup) :
    (pairs (compare today id row conflicts e)).Nodup := by
  rw [compare_pairs]
  split
  · next hnew =>
    rw [← List.concat_eq_append]
    exact h.concat hnew.2.2
  · exact h

theorem mem_compare_pairs : p ∈ pairs (compare today id row conflicts e) ↔
    p ∈ pairs conflicts ∨ isCurrent e.2 today = true ∧ sharesGroup row e.2 = false ∧ p = s(id, e.1) := by
  rw [compare_pairs]
  split
  · next hnew =>
    rw [List.mem_append, List.mem_singleton]
    exact or_congr Iff.rfl ⟨fun h => ⟨hnew.1, hnew.2.1, h⟩, fun h => h.2.2⟩
  · next hold =>
    refine ⟨.inl, ?_⟩
    rintro (hmem | ⟨hcurrent, hgroup, rfl⟩)
    · exact hmem
    · by_contra hnot
      exact hold ⟨hcurrent, hgroup, hnot⟩

theorem foldl_compare {rows : List (Uuid × VehiclePlate)} (h : (pairs conflicts).Nodup) :
    (pairs (rows.foldl (compare today id row) conflicts)).Nodup ∧ ∀ p,
      (p ∈ pairs (rows.foldl (compare today id row) conflicts) ↔ p ∈ pairs conflicts ∨
        ∃ e ∈ rows, isCurrent e.2 today = true ∧ sharesGroup row e.2 = false ∧ p = s(id, e.1)) := by
  induction rows generalizing conflicts with
  | nil => exact ⟨h, fun p => by simp⟩
  | cons e rows ih =>
    have hcompared : (pairs (compare today id row conflicts e)).Nodup := compare_once h
    obtain ⟨honce, hmem⟩ := ih hcompared
    refine ⟨honce, fun p => (hmem p).trans ?_⟩
    rw [mem_compare_pairs, or_assoc, List.exists_mem_cons_iff]

theorem mem_others {plates : Table Uuid VehiclePlate} :
    e' ∈ others (plates.insert e.1 e.2) e.1 e.2 ↔ plates.lookup e'.1 = some e'.2 ∧ e'.1 ≠ e.1 ∧
      e'.2.plate = e.2.plate ∧ e'.2.canton = e.2.canton ∧ e'.2.vehicleId ≠ e.2.vehicleId := by
  obtain ⟨id, row⟩ := e'
  rw [others, Table.mem_map_filter, decide_eq_true_eq]
  constructor
  · rintro ⟨hlookup, hplate, hcanton, hid, hvehicle⟩
    rw [AList.lookup_insert_ne hid] at hlookup
    exact ⟨hlookup, hid, hplate, hcanton, hvehicle⟩
  · rintro ⟨hlookup, hid, hplate, hcanton, hvehicle⟩
    rw [← AList.lookup_insert_ne hid] at hlookup
    exact ⟨hlookup, hplate, hcanton, hid, hvehicle⟩

/-- A recording flags each rival that is current and was recorded before, once. -/
theorem record_pairs {db : PlateDb} (honce : (pairs db.conflicts).Nodup)
    (hfresh : db.plates.lookup e.1 = none) :
    (pairs (recordPlateAssignment today db e).conflicts).Nodup ∧ ∀ p,
      (p ∈ pairs (recordPlateAssignment today db e).conflicts ↔ p ∈ pairs db.conflicts ∨
        ∃ e' : Uuid × VehiclePlate, db.plates.lookup e'.1 = some e'.2 ∧ Rivals e.2 e'.2 ∧
          isCurrent e'.2 today = true ∧
          p = s(e'.1, e.1)) := by
  obtain ⟨hkept, hmem⟩ := foldl_compare honce
  refine ⟨hkept, fun p => (hmem p).trans (or_congr Iff.rfl (exists_congr fun e' => ?_))⟩
  rw [mem_others]
  constructor
  · rintro ⟨⟨hlookup, -, hplate, hcanton, hvehicle⟩, hcurrent, hgroup, rfl⟩
    exact ⟨hlookup, ⟨hplate, hcanton, hvehicle, hgroup⟩, hcurrent, Sym2.eq_swap⟩
  · rintro ⟨hlookup, hrivals, hcurrent, rfl⟩
    have hid : e'.1 ≠ e.1 := by
      intro heq
      rw [heq, hfresh] at hlookup
      cases hlookup
    exact ⟨⟨hlookup, hid, hrivals.plate, hrivals.canton, hrivals.vehicle⟩, hcurrent, hrivals.group,
      Sym2.eq_swap⟩

end Recording

section Orders

variable {today : ℤ} {order assignments : List (Uuid × VehiclePlate)} {e e' : Uuid × VehiclePlate}

theorem record_concat (order : List (Uuid × VehiclePlate)) (e : Uuid × VehiclePlate) :
    record today (order ++ [e]) = recordPlateAssignment today (record today order) e := by
  rw [record, List.foldl_append]
  rfl

theorem record_lookup (hids : (order.map Prod.fst).Nodup) :
    (record today order).plates.lookup e.1 = some e.2 ↔ e ∈ order := by
  induction order using List.reverseRecOn with
  | nil => simp [record]
  | append_singleton order new ih =>
    rw [List.map_append, List.nodup_append] at hids
    obtain ⟨hids, -, hnew⟩ := hids
    rw [record_concat, List.mem_append, List.mem_singleton]
    change (AList.insert new.1 new.2 (record today order).plates).lookup e.1 = some e.2 ↔ _
    rw [Table.lookup_insert_iff]
    split
    · next heq =>
      constructor
      · intro hrow
        exact .inr (Prod.ext heq (Option.some.inj hrow).symm)
      · rintro (hmem | rfl)
        · exact absurd heq (hnew e.1 (List.mem_map_of_mem hmem) new.1 List.mem_cons_self)
        · rfl
    · next hne =>
      refine (ih hids).trans ⟨.inl, ?_⟩
      rintro (hmem | rfl)
      · exact hmem
      · exact absurd rfl hne

theorem mem_record_pairs (hids : (order.map Prod.fst).Nodup) :
    (pairs (record today order).conflicts).Nodup ∧ ∀ p,
      (p ∈ pairs (record today order).conflicts ↔ ∃ e e', Before order e e' ∧ Rivals e.2 e'.2 ∧
        isCurrent e.2 today = true ∧ p = s(e.1, e'.1)) := by
  induction order using List.reverseRecOn with
  | nil =>
    refine ⟨List.nodup_nil, fun p => ⟨fun h => absurd h List.not_mem_nil, ?_⟩⟩
    rintro ⟨e, e', hbefore, -⟩
    exact absurd hbefore.left List.not_mem_nil
  | append_singleton order new ih =>
    rw [List.map_append, List.nodup_append] at hids
    obtain ⟨hids, -, hnew⟩ := hids
    obtain ⟨honce, hmem⟩ := ih hids
    have hfresh : (record today order).plates.lookup new.1 = none := by
      rw [Option.eq_none_iff_forall_ne_some]
      intro row hrow
      have hold : (new.1, row) ∈ order := (record_lookup hids).mp hrow
      exact hnew new.1 (List.mem_map.mpr ⟨_, hold, rfl⟩) new.1 List.mem_cons_self rfl
    rw [record_concat]
    obtain ⟨hkept, hflagged⟩ := record_pairs honce hfresh
    refine ⟨hkept, fun p => ?_⟩
    rw [hflagged, hmem]
    constructor
    · rintro (⟨e, e', hbefore, hrest⟩ | ⟨e, hlookup, hrivals, hcurrent, rfl⟩)
      · exact ⟨e, e', before_concat.mpr (.inl hbefore), hrest⟩
      · exact ⟨e, new, before_concat.mpr (.inr ⟨(record_lookup hids).mp hlookup, rfl⟩), hrivals.symm,
          hcurrent, rfl⟩
    · rintro ⟨e, e', hbefore, hrivals, hcurrent, rfl⟩
      rcases before_concat.mp hbefore with hold | ⟨hearlier, rfl⟩
      · exact .inl ⟨e, e', hold, hrivals, hcurrent, rfl⟩
      · exact .inr ⟨e, (record_lookup hids).mpr hearlier, hrivals.symm, hcurrent, rfl⟩

theorem eq_of_id (hids : (assignments.map Prod.fst).Nodup) (h : e ∈ assignments)
    (h' : e' ∈ assignments) (heq : e.1 = e'.1) : e = e' :=
  List.inj_on_of_nodup_map hids h h' heq

end Orders

/-- **Conflicts and the order of recording.**  After every order of recording the unresolved
conflicts are the pairs of current rivals, each once, just when no row that is current has a rival
that is not. -/
theorem listed_all_orders_iff (today : ℤ) (assignments : List (Uuid × VehiclePlate))
    (hids : (assignments.map Prod.fst).Nodup) :
    (∀ order, order.Perm assignments → Listed today assignments (record today order).conflicts) ↔
      ∀ e ∈ assignments, ∀ e' ∈ assignments, Rivals e.2 e'.2 → isCurrent e.2 today = true →
        isCurrent e'.2 today = true := by
  constructor
  · intro h e he e' he' hrivals hcurrent
    have hne : e ≠ e' := by
      rintro rfl
      exact hrivals.vehicle rfl
    -- the order that records the current row first
    obtain ⟨order, hperm, hbefore⟩ := exists_order he he' hne
    have hids' : (order.map Prod.fst).Nodup := (hperm.map Prod.fst).nodup_iff.mpr hids
    have hflagged := ((mem_record_pairs hids').2 s(e.1, e'.1)).mpr ⟨e, e', hbefore, hrivals, hcurrent, rfl⟩
    obtain ⟨f, hf, f', hf', -, hfirst, hsecond, hpair⟩ := ((h order hperm).exact_pairs _).mp hflagged
    rcases Sym2.eq_iff.mp hpair with ⟨-, heq⟩ | ⟨-, heq⟩
    · rw [eq_of_id hids he' hf' heq]
      exact hsecond
    · rw [eq_of_id hids he' hf heq]
      exact hfirst
  · intro h order hperm
    have hids' : (order.map Prod.fst).Nodup := (hperm.map Prod.fst).nodup_iff.mpr hids
    obtain ⟨honce, hmem⟩ := mem_record_pairs hids'
    refine ⟨honce, fun p => (hmem p).trans ?_⟩
    constructor
    · rintro ⟨e, e', hbefore, hrivals, hcurrent, rfl⟩
      have he := hperm.mem_iff.mp hbefore.left
      have he' := hperm.mem_iff.mp hbefore.right
      exact ⟨e, he, e', he', hrivals, hcurrent, h e he e' he' hrivals hcurrent, rfl⟩
    · rintro ⟨e, he, e', he', hrivals, hfirst, hsecond, rfl⟩
      have hne : e ≠ e' := by
        rintro rfl
        exact hrivals.vehicle rfl
      rcases before_or_before (hperm.mem_iff.mpr he) (hperm.mem_iff.mpr he') hne with hbefore | hbefore
      · exact ⟨e, e', hbefore, hrivals, hfirst, rfl⟩
      · exact ⟨e', e, hbefore, hrivals.symm, hsecond, Sym2.eq_swap⟩

def ownerNow : Uuid × VehiclePlate :=
  (1, { vehicleId := 10, plate := "ZH 284611", canton := "ZH", validFrom := 6 })

def ownerBefore : Uuid × VehiclePlate :=
  (2, { vehicleId := 20, plate := "ZH 284611", canton := "ZH", validFrom := 0, validTo := some 5 })

theorem ownerNow_listed :
    (∀ order : List (Uuid × VehiclePlate), order.Perm [ownerNow, ownerBefore] →
        Listed 6 [ownerNow, ownerBefore] (record 6 order).conflicts) ↔
      ∀ e ∈ [ownerNow, ownerBefore], ∀ e' ∈ [ownerNow, ownerBefore], Rivals e.2 e'.2 →
        isCurrent e.2 6 = true → isCurrent e'.2 6 = true :=
  listed_all_orders_iff 6 [ownerNow, ownerBefore] (by decide)

/-- **The expired row is flagged** if it is recorded last, and is not if it is recorded first. -/
theorem expiredLast_flagged : pairs (record 10 [ownerBefore, ownerNow]).conflicts = [] ∧
      pairs (record 10 [ownerNow, ownerBefore]).conflicts = [s(2, 1)] ∧
      ¬ Listed 10 [ownerNow, ownerBefore] (record 10 [ownerNow, ownerBefore]).conflicts := by
  have hflagged : pairs (record 10 [ownerNow, ownerBefore]).conflicts = [s(2, 1)] := by decide +kernel
  refine ⟨by decide +kernel, hflagged, fun hlisted => ?_⟩
  have hmem : s(2, 1) ∈ pairs (record 10 [ownerNow, ownerBefore]).conflicts := by
    rw [hflagged]
    exact List.mem_cons_self
  obtain ⟨e, he, e', he', hrivals, hfirst, hsecond, -⟩ := (hlisted.exact_pairs _).mp hmem
  -- only one of the two is current
  have hone : ∀ f ∈ [ownerNow, ownerBefore], isCurrent f.2 10 = true → f = ownerNow := by decide +kernel
  rw [hone e he hfirst, hone e' he' hsecond] at hrivals
  exact hrivals.vehicle rfl

end Nexotec.Plates
