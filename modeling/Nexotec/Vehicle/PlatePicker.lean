/-
The picker of the search box and the rule of conflicts (`app/vehicle/services/search.py`,
`app/vehicle/services/plate.py`).

The picker tells a Wechselschild from a conflict by counting: two rows, and one plate group among
them.  The rule compares rows two by two.

A Wechselschild of three vehicles is marked as a conflict: `threeCars_marked`.
-/
import Nexotec.Vehicle.PlateConflicts

namespace Nexotec.Plates

open VehicleMerge

/-- The plate and the canton that `resolve_identifier` searches for, if the query looks like one. -/
def searchedPlate (spelling : Spelling) (query : String) : Option (String × String) :=
  let q := strip spelling query
  if isValidVin (normaliseVin spelling q) || isVehicleNumber spelling q || isStammnummer spelling q then
    none
  else (plateParts spelling q).map fun parts => (parts.1 ++ " " ++ parts.2, parts.1)

/-- The answer once the current rows of the plate are read. -/
def plateAnswer (db : Db) : List (Uuid × VehiclePlate) → SearchResolution
  | [] => ⟨none, []⟩
  | [row] => ⟨getVehicle db row.2.vehicleId, []⟩
  | rows => ⟨none, pickerCandidates db rows⟩

theorem resolveIdentifier_plate {spelling : Spelling} {db : Db} {today : ℤ} {query plate canton : String}
    (h : searchedPlate spelling query = some (plate, canton)) :
    resolveIdentifier spelling db today query =
      some (plateAnswer db (resolvePlate db plate canton today false)) := by
  unfold searchedPlate at h
  dsimp only at h
  split at h
  · cases h
  · next hshapes =>
    obtain ⟨⟨canton', number⟩, hparts, heq⟩ := Option.map_eq_some_iff.mp h
    cases heq
    rw [Bool.or_eq_true, Bool.or_eq_true, not_or, not_or] at hshapes
    obtain ⟨⟨hvin, hnumber⟩, hstammnummer⟩ := hshapes
    unfold resolveIdentifier
    dsimp only
    rw [if_neg hvin, if_neg hnumber, if_neg hstammnummer, hparts]
    dsimp only
    split
    · next hrows => rw [hrows]; rfl
    · next row hrows => rw [hrows]; rfl
    · next rows hempty hone =>
      unfold plateAnswer
      split
      · next hrows => exact absurd hrows hempty
      · next row hrows => exact absurd hrows (hone row)
      · rfl

/-! ### The rule -/

/-- **The rule of conflicts**: a conflict is marked just where two rows are rivals, and rows of one
vehicle lead to that vehicle. -/
structure UsesRule (db : Db) (rows : List (Uuid × VehiclePlate)) (answer : SearchResolution) : Prop where
  marks : (answer.pickerCandidates ≠ [] ∧ ∀ c ∈ answer.pickerCandidates, c.isConflict = true) ↔
    ∃ e ∈ rows, ∃ e' ∈ rows, Rivals e.2 e'.2
  one_vehicle : rows ≠ [] → ∀ vehicleId, (∀ e ∈ rows, e.2.vehicleId = vehicleId) →
    answer = ⟨getVehicle db vehicleId, []⟩

/-- **The condition on the rows**, for which counting does. -/
def Counts (rows : List (Uuid × VehiclePlate)) : Prop :=
  rows.length ≤ 1 ∨
    (∃ e e', rows = [e, e'] ∧ e.2.vehicleId ≠ e'.2.vehicleId ∧
      e.2.plateGroupId.isSome = e'.2.plateGroupId.isSome) ∨
    (3 ≤ rows.length ∧ ∃ e ∈ rows, ∃ e' ∈ rows, Rivals e.2 e'.2)

def OnePlate (rows : List (Uuid × VehiclePlate)) : Prop :=
  ∀ e ∈ rows, ∀ e' ∈ rows, e'.2.plate = e.2.plate ∧ e'.2.canton = e.2.canton

section

variable {db : Db} {rows : List (Uuid × VehiclePlate)} {e e' e'' : Uuid × VehiclePlate}

theorem OnePlate.rivals (h : OnePlate rows) (he : e ∈ rows) (he' : e' ∈ rows)
    (hvehicle : e'.2.vehicleId ≠ e.2.vehicleId) (hgroup : sharesGroup e.2 e'.2 = false) :
    Rivals e.2 e'.2 :=
  ⟨(h e he e' he').1, (h e he e' he').2, hvehicle, hgroup⟩

theorem resolvePlate_onePlate (db : Db) (plate canton : String) (asOf : ℤ) :
    OnePlate (resolvePlate db plate canton asOf false) := by
  have hrow : ∀ e ∈ resolvePlate db plate canton asOf false, e.2.plate = plate ∧ e.2.canton = canton := by
    intro e he
    obtain ⟨entry, hentry, rfl⟩ := List.mem_map.mp he
    obtain ⟨hplate, hcanton, -⟩ := of_decide_eq_true (List.mem_filter.mp hentry).2
    exact ⟨hplate, hcanton⟩
  intro e he e' he'
  rw [(hrow e he).1, (hrow e he).2]
  exact hrow e' he'

theorem pickerCandidates_mark (db : Db) (rows : List (Uuid × VehiclePlate)) (hrows : rows ≠ []) :
    ((pickerCandidates db rows ≠ [] ∧ ∀ c ∈ pickerCandidates db rows, c.isConflict = true) ↔
      ¬ ((rows.filterMap (·.2.plateGroupId)).dedup.length = 1 ∧ rows.length = 2)) := by
  unfold pickerCandidates
  constructor
  · rintro ⟨-, hmarked⟩
    obtain ⟨e, he⟩ := List.exists_mem_of_ne_nil rows hrows
    simpa only [Bool.not_eq_true', decide_eq_false_iff_not] using hmarked _ (List.mem_map_of_mem he)
  · intro hmany
    refine ⟨fun h => hrows (List.map_eq_nil_iff.mp h), fun c hc => ?_⟩
    obtain ⟨e, -, rfl⟩ := List.mem_map.mp hc
    simpa only [Bool.not_eq_true', decide_eq_false_iff_not] using hmany

theorem usesRule_one : UsesRule db [e] (plateAnswer db [e]) := by
  refine ⟨⟨fun h => absurd rfl h.1, ?_⟩, fun _ vehicleId hone => ?_⟩
  · rintro ⟨f, hf, f', hf', hrivals⟩
    rw [List.mem_singleton] at hf hf'
    rw [hf, hf'] at hrivals
    exact absurd rfl hrivals.vehicle
  · rw [← hone e List.mem_cons_self]
    rfl

theorem rivals_pair : (∃ f ∈ [e, e'], ∃ f' ∈ [e, e'], Rivals f.2 f'.2) ↔ Rivals e.2 e'.2 := by
  constructor
  · rintro ⟨f, hf, f', hf', hrivals⟩
    rw [List.mem_pair] at hf hf'
    rcases hf with rfl | rfl <;> rcases hf' with rfl | rfl
    · exact absurd rfl hrivals.vehicle
    · exact hrivals
    · exact hrivals.symm
    · exact absurd rfl hrivals.vehicle
  · intro hrivals
    exact ⟨e, List.mem_cons_self, e', List.mem_cons_of_mem e List.mem_cons_self, hrivals⟩

theorem one_group_iff : (([e, e'].filterMap (·.2.plateGroupId)).dedup.length = 1) ↔
    sharesGroup e.2 e'.2 = true ∨ e.2.plateGroupId.isSome ≠ e'.2.plateGroupId.isSome := by
  unfold sharesGroup
  cases hg : e.2.plateGroupId with
  | none => cases hg' : e'.2.plateGroupId <;> simp [hg, hg']
  | some g =>
    cases hg' : e'.2.plateGroupId with
    | none => simp [hg, hg']
    | some g' =>
      by_cases heq : g = g'
      · simp [hg, hg', heq]
      · simp [hg, hg', heq, Ne.symm heq, List.dedup_cons_of_notMem]

theorem usesRule_two (hplate : OnePlate [e, e']) :
    UsesRule db [e, e'] (plateAnswer db [e, e']) ↔ e.2.vehicleId ≠ e'.2.vehicleId ∧
      e.2.plateGroupId.isSome = e'.2.plateGroupId.isSome := by
  have hmark := pickerCandidates_mark db [e, e'] (List.cons_ne_nil e [e'])
  have hcount : ¬ (([e, e'].filterMap (·.2.plateGroupId)).dedup.length = 1 ∧ [e, e'].length = 2) ↔
      sharesGroup e.2 e'.2 = false ∧ e.2.plateGroupId.isSome = e'.2.plateGroupId.isSome := by
    have htwo : [e, e'].length = 2 := rfl
    rw [one_group_iff, and_iff_left htwo, not_or, Bool.not_eq_true, not_not]
  rw [hcount] at hmark
  constructor
  · intro h
    have hmarks := hmark.symm.trans (h.marks.trans rivals_pair)
    -- two rows of one vehicle are shown in the picker
    have hdiffer : e.2.vehicleId ≠ e'.2.vehicleId := by
      intro heq
      have hanswer := h.one_vehicle (List.cons_ne_nil e [e']) e.2.vehicleId (fun f hf => by
        rcases List.mem_pair.mp hf with rfl | rfl
        · rfl
        · exact heq.symm)
      have hnil : pickerCandidates db [e, e'] = [] := congrArg SearchResolution.pickerCandidates hanswer
      cases hnil
    refine ⟨hdiffer, ?_⟩
    by_cases hgroup : sharesGroup e.2 e'.2 = true
    · obtain ⟨hsome, heq⟩ := of_decide_eq_true hgroup
      rw [heq]
    · have hrivals : Rivals e.2 e'.2 := hplate.rivals List.mem_cons_self
        (List.mem_cons_of_mem e List.mem_cons_self) hdiffer.symm (Bool.eq_false_iff.mpr hgroup)
      exact (hmarks.mpr hrivals).2
  · rintro ⟨hdiffer, hboth⟩
    refine ⟨hmark.trans (Iff.trans ?_ rivals_pair.symm), fun _ vehicleId hone => ?_⟩
    · constructor
      · rintro ⟨hgroup, -⟩
        exact hplate.rivals List.mem_cons_self (List.mem_cons_of_mem e List.mem_cons_self) hdiffer.symm
          hgroup
      · intro hrivals
        exact ⟨hrivals.group, hboth⟩
    · have hfirst := hone e List.mem_cons_self
      have hsecond := hone e' (List.mem_cons_of_mem e List.mem_cons_self)
      exact absurd (hfirst.trans hsecond.symm) hdiffer

theorem usesRule_many (hrows : 3 ≤ rows.length) :
    UsesRule db rows (plateAnswer db rows) ↔ ∃ e ∈ rows, ∃ e' ∈ rows, Rivals e.2 e'.2 := by
  have hanswer : plateAnswer db rows = ⟨none, pickerCandidates db rows⟩ := by
    unfold plateAnswer
    split
    · cases hrows
    · next row _ => exact absurd hrows (Nat.not_succ_le_self 1 ∘ Nat.le_of_succ_le)
    · rfl
  have hne : rows ≠ [] := by
    rintro rfl
    cases hrows
  have hmark := (pickerCandidates_mark db rows hne).mpr fun h => by omega
  rw [hanswer]
  constructor
  · intro h
    exact h.marks.mp hmark
  · intro hrivals
    refine ⟨⟨fun _ => hrivals, fun _ => hmark⟩, fun _ vehicleId hone => ?_⟩
    obtain ⟨e, he, e', he', h⟩ := hrivals
    exact absurd ((hone e' he').trans (hone e he).symm) h.vehicle

end

/-- **The picker and the rule.**  For a searched plate the answer follows the rule of conflicts just
when the current rows are at most one, or two of different vehicles that both or neither have a
group, or more of which two are rivals. -/
theorem usesRule_iff (spelling : Spelling) (db : Db) (today : ℤ) (query plate canton : String)
    (h : searchedPlate spelling query = some (plate, canton)) :
    ∃ answer, resolveIdentifier spelling db today query = some answer ∧
      (UsesRule db (resolvePlate db plate canton today false) answer ↔
        Counts (resolvePlate db plate canton today false)) := by
  refine ⟨_, resolveIdentifier_plate h, ?_⟩
  have hplate := resolvePlate_onePlate db plate canton today
  generalize resolvePlate db plate canton today false = rows at hplate ⊢
  unfold Counts
  rcases rows with _ | ⟨e, _ | ⟨e', _ | ⟨e'', rest⟩⟩⟩
  · -- no row
    refine ⟨fun _ => .inl (Nat.zero_le 1), fun _ => ⟨⟨fun hmarked => absurd rfl hmarked.1, ?_⟩,
      fun hne => absurd rfl hne⟩⟩
    rintro ⟨e, he, -⟩
    exact absurd he List.not_mem_nil
  · exact ⟨fun _ => .inl le_rfl, fun _ => usesRule_one⟩
  · rw [usesRule_two hplate]
    constructor
    · intro hboth
      exact .inr (.inl ⟨e, e', rfl, hboth⟩)
    · rintro (hone | ⟨f, f', heq, hboth⟩ | ⟨hmany, -⟩)
      · simp at hone
      · obtain ⟨rfl, hrest⟩ := List.cons.inj heq
        obtain ⟨rfl, -⟩ := List.cons.inj hrest
        exact hboth
      · simp at hmany
  · have hmany : 3 ≤ (e :: e' :: e'' :: rest).length := by simp
    rw [usesRule_many hmany]
    constructor
    · intro hrivals
      exact .inr (.inr ⟨hmany, hrivals⟩)
    · rintro (hone | ⟨f, f', heq, -⟩ | ⟨-, hrivals⟩)
      · exact absurd (hmany.trans hone) (by decide)
      · rw [heq] at hmany
        simp at hmany
      · exact hrivals

def asciiSpelling : Spelling where
  upper := fun text => String.ofList (text.toList.map Char.toUpper)
  isSpace := fun c => c = ' '
  isDigit := Char.isDigit
  isLetter := Char.isAlpha

def threeCars : Db where
  plates := (((∅ : Table Uuid VehiclePlate).insert 1
      { vehicleId := 10, plate := "TG 41277", canton := "TG", validFrom := 0, plateGroupId := some 7 }).insert 2
      { vehicleId := 20, plate := "TG 41277", canton := "TG", validFrom := 0, plateGroupId := some 7 }).insert 3
      { vehicleId := 30, plate := "TG 41277", canton := "TG", validFrom := 0, plateGroupId := some 7 }

theorem usesRule_threeCars :
    ∃ answer, resolveIdentifier asciiSpelling threeCars 1 "TG 41277" = some answer ∧
      (UsesRule threeCars (resolvePlate threeCars "TG 41277" "TG" 1 false) answer ↔
        Counts (resolvePlate threeCars "TG 41277" "TG" 1 false)) :=
  usesRule_iff asciiSpelling threeCars 1 "TG 41277" "TG 41277" "TG" (by decide +kernel)

/-- **Three cars of one Wechselschild are marked as a conflict**, and no two of them are rivals. -/
theorem threeCars_marked :
    ((resolveIdentifier asciiSpelling threeCars 1 "TG 41277").map fun answer =>
        answer.pickerCandidates.map (·.isConflict)) = some [true, true, true] ∧
      ∀ e ∈ resolvePlate threeCars "TG 41277" "TG" 1 false,
        ∀ e' ∈ resolvePlate threeCars "TG 41277" "TG" 1 false, ¬ Rivals e.2 e'.2 := by
  refine ⟨by decide +kernel, fun e he e' he' hrivals => ?_⟩
  have hshared : ∀ f ∈ resolvePlate threeCars "TG 41277" "TG" 1 false,
      ∀ f' ∈ resolvePlate threeCars "TG 41277" "TG" 1 false, sharesGroup f.2 f'.2 = true := by
    decide +kernel
  have hgroup := hrivals.group
  rw [hshared e he e' he'] at hgroup
  cases hgroup

end Nexotec.Plates
