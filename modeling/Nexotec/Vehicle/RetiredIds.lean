/-
A merged vehicle id is retired.

`merge_vehicles` checks that the duplicate is not merged yet, and nothing else: not that the
survivor is another vehicle, nor that it is not merged itself, and what it has checked it has
not locked.  The duplicate keeps its VIN, and none of the lookups asks for
`merged_into_vehicle_id`.
-/
import Mathlib.Logic.Relation
import Nexotec.Vehicle.VehicleMerge

namespace Nexotec.VehicleMerge

open Interleaving Run

section Redirects

variable {κ : Type*} [DecidableEq κ]

def Acyclic (next : κ → Option κ) : Prop :=
  ∀ a, ¬ Relation.TransGen (fun a b => next a = some b) a a

theorem Acyclic.update {next : κ → Option κ} {s d : κ} (h : Acyclic next) (hs : next s = none)
    (hne : s ≠ d) : Acyclic (Function.update next d (some s)) := by
  have hend : ∀ b, Function.update next d (some s) s ≠ some b := by
    intro b hb
    rw [Function.update_of_ne hne, hs] at hb
    cases hb
  -- a path is an old one, or it ends in `s`
  have hpath : ∀ {a b}, Relation.TransGen (fun a b => Function.update next d (some s) a = some b) a b →
      Relation.TransGen (fun a b => next a = some b) a b ∨ b = s := by
    intro a b hab
    have hedge : ∀ {x y}, Function.update next d (some s) x = some y → next x = some y ∨ y = s := by
      intro x y hxy
      by_cases hx : x = d
      · rw [hx, Function.update_self] at hxy
        exact .inr (Option.some.inj hxy).symm
      · rw [Function.update_of_ne hx] at hxy
        exact .inl hxy
    induction hab with
    | single hstep => exact (hedge hstep).imp Relation.TransGen.single id
    | tail _ hstep ih =>
      rcases ih with hold | rfl
      · exact (hedge hstep).imp (hold.tail ·) id
      · exact absurd hstep (hend _)
  intro a hcycle
  rcases hpath hcycle with hold | rfl
  · exact h a hold
  · obtain ⟨b, hb, -⟩ := Relation.TransGen.head'_iff.mp hcycle
    exact hend b hb

end Redirects

/-! ### What is claimed -/

variable {vehicles : Table Uuid VehicleMdm} {db : Db}

def mergedInto (vehicles : Table Uuid VehicleMdm) (vehicleId : Uuid) : Option Uuid :=
  (vehicles.lookup vehicleId).bind (·.mergedIntoVehicleId)

def Current (vehicles : Table Uuid VehicleMdm) (vehicleId : Uuid) : Prop :=
  ∃ vehicle, vehicles.lookup vehicleId = some vehicle ∧ vehicle.mergedIntoVehicleId = none

def OnCurrent {ρ : Type} [Referring ρ] (vehicles : Table Uuid VehicleMdm) (rows : Table Uuid ρ) :
    Prop :=
  ∀ id row, rows.lookup id = some row → Current vehicles (Referring.vehicleId row)

/-- Every row that refers to a vehicle refers to one that is not merged. -/
structure RowsCurrent (db : Db) : Prop where
  plates : OnCurrent db.vehicles db.plates
  accessories : OnCurrent db.vehicles db.accessories
  odometerReadings : OnCurrent db.vehicles db.odometerReadings
  custodyEvents : OnCurrent db.vehicles db.custodyEvents

/-- The chains of merges end. -/
structure Chains (vehicles : Table Uuid VehicleMdm) : Prop where
  acyclic : Acyclic (mergedInto vehicles)
  resolves : ∀ vehicleId, vehicles.lookup vehicleId ≠ none →
    Current vehicles (resolveMergedId vehicles vehicleId)

/-- Every lookup answers with vehicles that are not merged. -/
structure LookupsCurrent (db : Db) : Prop where
  matchVehicle : ∀ today query, ∀ found ∈ (matchVehicle db today query).vehicle,
    Current db.vehicles found.1
  resolveIdentifier : ∀ spelling today query, ∀ resolution ∈ resolveIdentifier spelling db today query,
    (∀ found ∈ resolution.resolved, Current db.vehicles found.1) ∧
      ∀ candidate ∈ resolution.pickerCandidates, Current db.vehicles candidate.id
  resolveSharedIdentity : ∀ spelling today withinLimit query,
    ∀ found ∈ resolveSharedIdentity spelling db today withinLimit query, Current db.vehicles found.1
  createOrGet : ∀ newId new db' found created,
    createOrGetVehicleMdm db newId new = .ok (db', found, created) → Current db'.vehicles found.1

/-- No merged vehicle is one of those that a query names. -/
def Spares (vehicles : Table Uuid VehicleMdm) (names : VehicleMdm → Prop) : Prop :=
  ∀ id vehicle, vehicles.lookup id = some vehicle → names vehicle → vehicle.mergedIntoVehicleId = none

def MatchQuery.Names (query : MatchQuery) (vehicle : VehicleMdm) : Prop :=
  (∃ vin ∈ given query.vin, vehicle.vin = vin) ∨
    (∃ number ∈ given query.stammnummer, vehicle.stammnummer = some number) ∨
      ∃ number ∈ given query.typeApprovalNumber, vehicle.typeApprovalNumber = some number

def IdentityQuery.Names (spelling : Spelling) (query : IdentityQuery) (vehicle : VehicleMdm) : Prop :=
  (∃ vin ∈ given query.vin, vehicle.vin = normaliseVin spelling vin) ∨
    (∃ number ∈ given query.stammnummer, vehicle.stammnummer = some number) ∨
      ∃ number ∈ given query.vehicleNumber, vehicle.vehicleNumber = number

def TextNames (spelling : Spelling) (query : String) (vehicle : VehicleMdm) : Prop :=
  let q := strip spelling query
  vehicle.vin = normaliseVin spelling q ∨ vehicle.vehicleNumber = spelling.upper q ∨
    vehicle.stammnummer = some q

/-- A lookup that names no merged vehicle answers with vehicles that are not merged. -/
structure LookupsSpared (db : Db) : Prop where
  matchVehicle : ∀ today query, Spares db.vehicles query.Names →
    ∀ found ∈ (matchVehicle db today query).vehicle, Current db.vehicles found.1
  resolveIdentifier : ∀ spelling today query, Spares db.vehicles (TextNames spelling query) →
    ∀ resolution ∈ resolveIdentifier spelling db today query,
      (∀ found ∈ resolution.resolved, Current db.vehicles found.1) ∧
        ∀ candidate ∈ resolution.pickerCandidates, Current db.vehicles candidate.id
  resolveSharedIdentity : ∀ spelling today withinLimit query,
    Spares db.vehicles (query.Names spelling) →
      ∀ found ∈ resolveSharedIdentity spelling db today withinLimit query, Current db.vehicles found.1
  createOrGet : ∀ newId new db' found created, Spares db.vehicles (·.vin = new.vin) →
    createOrGetVehicleMdm db newId new = .ok (db', found, created) → Current db'.vehicles found.1

variable {ι : Type}

/-- All that is claimed of a state. -/
structure Retired (cfg : Config ι Db Local) : Prop where
  chains : Chains cfg.shared.vehicles
  rows : (∀ i, cfg.locals i = .idle) → RowsCurrent cfg.shared
  lookups : LookupsCurrent cfg.shared

def NoCommit (cfg : Config ι Db Local) (a : ι × Choice) : Prop :=
  ∀ s d found, cfg.locals a.1 = .ready s d found → a.2 ≠ .commit

/-- Every row of the duplicate is one the merge has read. -/
structure Complete (found : Found) (duplicateId : Uuid) (db : Db) : Prop where
  plates : ∀ id ∈ selectRows db.plates duplicateId, id ∈ found.plates
  accessories : ∀ id ∈ selectRows db.accessories duplicateId, id ∈ found.accessories
  odometerReadings : ∀ id ∈ selectRows db.odometerReadings duplicateId, id ∈ found.odometerReadings
  custodyEvents : ∀ id ∈ selectRows db.custodyEvents duplicateId, id ∈ found.custodyEvents

/-- A merge commits onto another, unmerged survivor and has read all there is to move. -/
def Clean (cfg : Config ι Db Local) (a : ι × Choice) : Prop :=
  ∀ s d found, cfg.locals a.1 = .ready s d found → a.2 = .commit →
    s ≠ d ∧ mergedInto cfg.shared.vehicles s = none ∧ Complete found d cfg.shared

/-- The tables before the first merge: VINs are given and unique, references are to rows
that exist. -/
structure Register where
  db : Db
  unmerged : ∀ id vehicle, db.vehicles.lookup id = some vehicle → vehicle.mergedIntoVehicleId = none
  vins : ∀ id vehicle, db.vehicles.lookup id = some vehicle → vehicle.vin ≠ ""
  unique : ∀ id id' vehicle vehicle', db.vehicles.lookup id = some vehicle →
    db.vehicles.lookup id' = some vehicle' → vehicle.vin = vehicle'.vin → id = id'
  rows : RowsCurrent db

def start (register : Register) : Config ι Db Local := ⟨register.db, fun _ => .idle⟩

/-! ### The walk -/

variable {vehicleId : Uuid}

theorem current_iff : Current vehicles vehicleId ↔
      vehicles.lookup vehicleId ≠ none ∧ mergedInto vehicles vehicleId = none := by
  constructor
  · rintro ⟨vehicle, hrow, hmerged⟩
    refine ⟨by rw [hrow]; exact Option.some_ne_none _, ?_⟩
    rw [mergedInto, hrow, Option.bind_some, hmerged]
  · rintro ⟨hfound, hmerged⟩
    obtain ⟨vehicle, hrow⟩ := Option.ne_none_iff_exists'.mp hfound
    rw [mergedInto, hrow, Option.bind_some] at hmerged
    exact ⟨vehicle, hrow, hmerged⟩

theorem current_walk (hacyclic : Acyclic (mergedInto vehicles))
    (htargets : ∀ v t, mergedInto vehicles v = some t → vehicles.lookup t ≠ none)
    (seen : List Uuid) (currentId : Uuid) (hfound : vehicles.lookup currentId ≠ none)
    (hseen : ∀ x ∈ seen,
      Relation.TransGen (fun a b => mergedInto vehicles a = some b) x currentId) :
    Current vehicles (walk vehicles seen currentId) := by
  induction seen, currentId using walk.induct vehicles with
  | case1 seen currentId hmem => exact absurd (hseen currentId hmem) (hacyclic currentId)
  | case2 seen currentId hmem hnone => exact absurd hnone hfound
  | case3 seen currentId hmem vehicle hrow hmerged =>
    unfold walk
    rw [dif_neg hmem]
    split
    · next hnone => rw [hrow] at hnone; cases hnone
    · next vehicle' hrow' =>
      obtain rfl := Option.mem_unique hrow hrow'
      split
      · exact ⟨vehicle, hrow, hmerged⟩
      · next next hnext => rw [hmerged] at hnext; cases hnext
  | case4 seen currentId hmem vehicle hrow next hnext ih =>
    have hedge : mergedInto vehicles currentId = some next := by
      rw [mergedInto, hrow, Option.bind_some, hnext]
    unfold walk
    rw [dif_neg hmem]
    split
    · next hnone => rw [hrow] at hnone; cases hnone
    · next vehicle' hrow' =>
      obtain rfl := Option.mem_unique hrow hrow'
      split
      · next hmerged => rw [hnext] at hmerged; cases hmerged
      · next next' hnext' =>
        obtain rfl := Option.mem_unique hnext hnext'
        refine ih (htargets currentId next hedge) fun x hx => ?_
        rcases List.mem_cons.mp hx with rfl | hx
        · exact Relation.TransGen.single hedge
        · exact (hseen x hx).tail hedge

theorem chains_of_acyclic (hacyclic : Acyclic (mergedInto vehicles))
    (htargets : ∀ v t, mergedInto vehicles v = some t → vehicles.lookup t ≠ none) :
    Chains vehicles :=
  ⟨hacyclic, fun vehicleId hfound =>
    current_walk hacyclic htargets [] vehicleId hfound nofun⟩

section Commit

variable {s d : Uuid} {found : Found}

def retire (s d : Uuid) (vehicles : Table Uuid VehicleMdm) : Table Uuid VehicleMdm :=
  vehicles.modify d fun vehicle => { vehicle with mergedIntoVehicleId := some s }

variable {v : Uuid}

theorem lookup_retire_ne (hv : v ≠ d) : (retire s d vehicles).lookup v = vehicles.lookup v :=
  Table.lookup_modify_ne hv _ _

theorem mergedInto_retire (hd : vehicles.lookup d ≠ none) :
    mergedInto (retire s d vehicles) = Function.update (mergedInto vehicles) d (some s) := by
  funext v
  by_cases hv : v = d
  · subst hv
    obtain ⟨vehicle, hrow⟩ := Option.ne_none_iff_exists'.mp hd
    rw [Function.update_self, mergedInto, retire, Table.lookup_modify_self, hrow]
    rfl
  · rw [Function.update_of_ne hv, mergedInto, lookup_retire_ne hv, mergedInto]

theorem map_vin_retire (v : Uuid) :
    ((retire s d vehicles).lookup v).map (·.vin) = (vehicles.lookup v).map (·.vin) := by
  by_cases hv : v = d
  · subst hv
    rw [retire, Table.lookup_modify_self, Option.map_map]
    rfl
  · rw [lookup_retire_ne hv]

theorem lookup_retire_ne_none (h : vehicles.lookup v ≠ none) :
    (retire s d vehicles).lookup v ≠ none := by
  intro hnone
  have hvin : ((retire s d vehicles).lookup v).map (·.vin) = (vehicles.lookup v).map (·.vin) :=
    map_vin_retire v
  rw [hnone, Option.map_none] at hvin
  exact h (Option.map_eq_none_iff.mp hvin.symm)

theorem current_retire (h : Current vehicles v) (hv : v ≠ d) : Current (retire s d vehicles) v := by
  obtain ⟨vehicle, hrow, hmerged⟩ := h
  exact ⟨vehicle, by rw [lookup_retire_ne hv, hrow], hmerged⟩

theorem onCurrent_repoint {ρ : Type} [Referring ρ] {rows : Table Uuid ρ} {ids : List Uuid}
    (hrows : OnCurrent vehicles rows) (hne : s ≠ d) (hsurvivor : Current vehicles s)
    (hcomplete : ∀ id ∈ selectRows rows d, id ∈ ids) :
    OnCurrent (retire s d vehicles) (repoint ids d s rows) := by
  intro id row hrow
  rw [repoint, if_neg hne, Table.lookup_updateAll] at hrow
  obtain ⟨old, hold, rfl⟩ := Option.map_eq_some_iff.mp hrow
  by_cases hid : id ∈ ids
  · rw [if_pos hid, Referring.vehicleId_with]
    exact current_retire hsurvivor hne
  · rw [if_neg hid]
    refine current_retire (hrows id old hold) fun heq => ?_
    -- a row of the duplicate that was not read
    exact hid (hcomplete id (Table.mem_selectKeys.mpr ⟨old, hold, by simpa using heq⟩))

theorem rowsCurrent_merge (hrows : RowsCurrent db) (hne : s ≠ d)
    (hsurvivor : Current db.vehicles s) (hcomplete : Complete found d db) :
    RowsCurrent (mergeRows s d found db) where
  plates := onCurrent_repoint hrows.plates hne hsurvivor hcomplete.plates
  accessories := onCurrent_repoint hrows.accessories hne hsurvivor hcomplete.accessories
  odometerReadings := onCurrent_repoint hrows.odometerReadings hne hsurvivor hcomplete.odometerReadings
  custodyEvents := onCurrent_repoint hrows.custodyEvents hne hsurvivor hcomplete.custodyEvents

end Commit

/-! ### What every run keeps -/

def Knows (_ : ι) (db : Db) : Local → Prop
  | .idle => True
  | .found s d | .platesRead s d _ | .accessoriesRead s d _ _ | .odometerRead s d _ _ _
  | .ready s d _ => db.vehicles.lookup s ≠ none ∧ db.vehicles.lookup d ≠ none

/-- The vehicles are the ones of the register, and a merge leads to one of them. -/
structure Known (register : Register) (db : Db) : Prop where
  vins : ∀ id, (db.vehicles.lookup id).map (·.vin) = (register.db.vehicles.lookup id).map (·.vin)
  targets : ∀ v t, mergedInto db.vehicles v = some t → db.vehicles.lookup t ≠ none

variable {d s : Uuid}

theorem mayMerge_eq_ok (h : mayMerge db s d = .ok true) :
    db.vehicles.lookup s ≠ none ∧ db.vehicles.lookup d ≠ none := by
  obtain ⟨survivor, hs, h⟩ := Result.of_bind h
  obtain ⟨duplicate, hd, -⟩ := Result.of_bind h
  rw [getVehicleMdmOr404, orNotFound_eq_ok] at hs hd
  rw [hs, hd]
  exact ⟨Option.some_ne_none _, Option.some_ne_none _⟩

variable {i : ι} {db' : Db} {lo : Local}

theorem step_cases {choice : Choice} {lo' : Local} (hknows : Knows i db lo)
    (h : step i choice db lo = some (db', lo')) :
    (db' = db ∧ Knows i db lo' ∧ (∀ s d found, lo = .ready s d found → choice ≠ .commit)) ∨
      ∃ s d found, lo = .ready s d found ∧ choice = .commit ∧ db' = mergeRows s d found db ∧
        lo' = .idle := by
  have hread : ∀ lo'' : Local, Knows i db lo'' → some (db, lo'') = some (db', lo') →
      (∀ s d found, lo = .ready s d found → choice ≠ .commit) →
      (db' = db ∧ Knows i db lo' ∧ (∀ s d found, lo = .ready s d found → choice ≠ .commit)) ∨
        ∃ s d found, lo = .ready s d found ∧ choice = .commit ∧ db' = mergeRows s d found db ∧
          lo' = .idle := by
    intro lo'' hlo'' heq hother
    cases heq
    exact .inl ⟨rfl, hlo'', hother⟩
  unfold step at h
  split at h
  · split at h
    · next hmay => exact hread (.found _ _) (mayMerge_eq_ok hmay) h (nofun)
    · cases h
  · exact hread (.platesRead _ _ _) hknows h (nofun)
  · exact hread (.accessoriesRead _ _ _ _) hknows h (nofun)
  · exact hread (.odometerRead _ _ _ _ _) hknows h (nofun)
  · exact hread (.ready _ _ _) hknows h (nofun)
  · next s d found =>
    cases h
    exact .inr ⟨s, d, found, rfl, rfl, rfl, rfl⟩
  · exact hread (.idle) trivial h (nofun)
  · cases h

theorem Knows.mono (h : Knows i db lo)
    (hkept : ∀ v, db.vehicles.lookup v ≠ none → db'.vehicles.lookup v ≠ none) : Knows i db' lo := by
  cases lo with
  | idle => trivial
  | found s d => exact ⟨hkept s h.1, hkept d h.2⟩
  | platesRead s d _ => exact ⟨hkept s h.1, hkept d h.2⟩
  | accessoriesRead s d _ _ => exact ⟨hkept s h.1, hkept d h.2⟩
  | odometerRead s d _ _ _ => exact ⟨hkept s h.1, hkept d h.2⟩
  | ready s d _ => exact ⟨hkept s h.1, hkept d h.2⟩

variable {register : Register}

theorem known_merge {found : Found} (h : Known register db) (hs : db.vehicles.lookup s ≠ none)
    (hd : db.vehicles.lookup d ≠ none) : Known register (mergeRows s d found db) := by
  refine ⟨fun id => (map_vin_retire id).trans (h.vins id), fun v t hvt => lookup_retire_ne_none ?_⟩
  change mergedInto (retire s d db.vehicles) v = some t at hvt
  rw [mergedInto_retire hd] at hvt
  by_cases hv : v = d
  · rw [hv, Function.update_self] at hvt
    cases hvt
    exact hs
  · rw [Function.update_of_ne hv] at hvt
    exact h.targets v t hvt

theorem known_start (register : Register) :
    Holds (Known register) Knows (start register : Config ι Db Local) := by
  refine ⟨⟨fun _ => rfl, fun v t hvt => ?_⟩, fun _ => trivial⟩
  change mergedInto register.db.vehicles v = some t at hvt
  cases hrow : register.db.vehicles.lookup v with
  | none => rw [mergedInto, hrow] at hvt; cases hvt
  | some vehicle =>
    rw [mergedInto, hrow, Option.bind_some, register.unmerged v vehicle hrow] at hvt
    cases hvt

/-! ### The lookups -/

variable {found : Uuid × VehicleMdm}

theorem selectVehicle_eq_some {p : VehicleMdm → Bool} (h : selectVehicle db p = some found) :
    db.vehicles.lookup found.1 = some found.2 ∧ p found.2 = true :=
  Table.search_eq_some h

theorem mem_selectWhere {ρ : Type} {p : ρ → Bool} {rows : Table Uuid ρ} {e : Uuid × ρ}
    (h : e ∈ selectWhere p rows) : rows.lookup e.1 = some e.2 :=
  (Table.mem_map_filter.mp h).1

variable {today : ℤ}

theorem resolvePlate_current (hrows : RowsCurrent db) {plate canton : String}
    {includeHistorical : Bool} {row : Uuid × VehiclePlate}
    (h : row ∈ resolvePlate db plate canton today includeHistorical) :
    Current db.vehicles row.2.vehicleId :=
  hrows.plates row.1 row.2 (mem_selectWhere h)

theorem plateVehicle_current (hrows : RowsCurrent db) {plate canton : Option String}
    (h : plateVehicle db today plate canton = some found) : Current db.vehicles found.1 := by
  unfold plateVehicle at h
  split at h
  · split at h
    · next vehicleId hone =>
      have hmem : vehicleId ∈ [vehicleId] := List.mem_singleton_self vehicleId
      rw [← hone, List.mem_dedup] at hmem
      obtain ⟨row, hrow, rfl⟩ := List.mem_map.mp hmem
      obtain ⟨vehicle, -, rfl⟩ := Option.map_eq_some_iff.mp h
      exact resolvePlate_current hrows hrow
    · cases h
  · cases h

/-- A vehicle that a query names is current when the query spares the merged ones. -/
theorem current_of_named {names : VehicleMdm → Prop} (hspares : Spares db.vehicles names)
    (hrow : db.vehicles.lookup found.1 = some found.2) (hnames : names found.2) :
    Current db.vehicles found.1 :=
  ⟨found.2, hrow, hspares found.1 found.2 hrow hnames⟩

theorem current_of_select {names : VehicleMdm → Prop} (hspares : Spares db.vehicles names)
    {p : VehicleMdm → Bool} (hselect : selectVehicle db p = some found)
    (hnames : p found.2 = true → names found.2) : Current db.vehicles found.1 := by
  obtain ⟨hrow, hp⟩ := selectVehicle_eq_some hselect
  exact current_of_named hspares hrow (hnames hp)

theorem orElse_eq_some {α : Type*} {first : Option α} {second : Unit → Option α} {a : α}
    (h : first.orElse second = some a) : first = some a ∨ second () = some a := by
  cases first with
  | none => exact .inr h
  | some _ => exact .inl h

theorem matchVehicle_current (hrows : RowsCurrent db) {query : MatchQuery}
    (hspares : Spares db.vehicles query.Names)
    (h : (matchVehicle db today query).vehicle = some found) : Current db.vehicles found.1 := by
  have hrung : ∀ {result : MatchResult},
      vinRung db query = some result ∨ stammnummerRung db query = some result ∨
        plateRung db today query = some result ∨ typeApprovalRung db query = some result →
      ∀ {found}, result.vehicle = some found → Current db.vehicles found.1 := by
    rintro result (hvin | hstammnummer | hplate | happroval) found hfound
    · obtain ⟨vin, hgiven, h⟩ := Option.bind_eq_some_iff.mp hvin
      obtain ⟨vehicle, hselect, h⟩ := Option.bind_eq_some_iff.mp h
      cases h
      cases hfound
      exact current_of_select hspares hselect fun hp => .inl ⟨vin, hgiven, of_decide_eq_true hp⟩
    · obtain ⟨stammnummer, hgiven, h⟩ := Option.bind_eq_some_iff.mp hstammnummer
      obtain ⟨vehicle, hselect, h⟩ := Option.bind_eq_some_iff.mp h
      cases h
      cases hfound
      exact current_of_select hspares hselect fun hp =>
        .inr (.inl ⟨stammnummer, hgiven, of_decide_eq_true hp⟩)
    · obtain ⟨vehicle, hselect, h⟩ := Option.bind_eq_some_iff.mp hplate
      obtain ⟨-, -, h⟩ := Option.bind_eq_some_iff.mp h
      cases h
      cases hfound
      exact plateVehicle_current hrows hselect
    · obtain ⟨number, hgiven, h⟩ := Option.bind_eq_some_iff.mp happroval
      obtain ⟨first, hfirst, h⟩ := Option.bind_eq_some_iff.mp h
      cases h
      cases hfound
      have hmem := List.mem_of_mem_head? hfirst
      have hnumber : found.2.typeApprovalNumber = some number := by
        obtain ⟨entry, hentry, rfl⟩ := List.mem_map.mp hmem
        exact (of_decide_eq_true (List.mem_filter.mp hentry).2).1
      exact current_of_named hspares (mem_selectWhere hmem) (.inr (.inr ⟨number, hgiven, hnumber⟩))
  unfold matchVehicle at h
  cases hresult : ((((vinRung db query).orElse fun _ => stammnummerRung db query).orElse
      fun _ => plateRung db today query).orElse fun _ => typeApprovalRung db query) with
  | none =>
    rw [hresult] at h
    cases h
  | some result =>
    rw [hresult, Option.getD_some] at h
    refine hrung ?_ h
    rcases orElse_eq_some hresult with hresult | happroval
    · rcases orElse_eq_some hresult with hresult | hplate
      · exact (orElse_eq_some hresult).imp_right .inl
      · exact .inr (.inr (.inl hplate))
    · exact .inr (.inr (.inr happroval))

theorem lookupsSpared_of_rows (hrows : RowsCurrent db) : LookupsSpared db where
  matchVehicle today query hspares found hfound := matchVehicle_current hrows hspares hfound
  resolveIdentifier spelling today query hspares resolution hresolution := by
    have hone : ∀ {vehicle : Option (Uuid × VehicleMdm)},
        (∀ found ∈ vehicle, Current db.vehicles found.1) →
        some (SearchResolution.mk vehicle []) = some resolution →
        (∀ found ∈ resolution.resolved, Current db.vehicles found.1) ∧
          ∀ candidate ∈ resolution.pickerCandidates, Current db.vehicles candidate.id := by
      intro vehicle hvehicle heq
      cases heq
      exact ⟨hvehicle, nofun⟩
    unfold resolveIdentifier at hresolution
    dsimp only at hresolution
    split at hresolution
    · exact hone (fun found hfound => current_of_select hspares hfound fun hp =>
        .inl (of_decide_eq_true hp)) hresolution
    · split at hresolution
      · exact hone (fun found hfound => current_of_select hspares hfound fun hp =>
          .inr (.inl (of_decide_eq_true hp))) hresolution
      · split at hresolution
        · exact hone (fun found hfound => current_of_select hspares hfound fun hp =>
            .inr (.inr (of_decide_eq_true hp))) hresolution
        · split at hresolution
          · -- a plate: every row with it is of a current vehicle
            split at hresolution
            · exact hone (fun found hfound => absurd hfound (Option.not_mem_none found)) hresolution
            · next row hrow =>
              refine hone (fun found hfound => ?_) hresolution
              obtain ⟨vehicle, -, rfl⟩ := Option.map_eq_some_iff.mp hfound
              exact resolvePlate_current hrows (hrow ▸ List.mem_singleton_self row)
            · cases hresolution
              refine ⟨nofun, fun candidate hcandidate => ?_⟩
              obtain ⟨row, hrow, rfl⟩ := List.mem_map.mp hcandidate
              exact resolvePlate_current hrows hrow
          · cases hresolution
  resolveSharedIdentity spelling today withinLimit query hspares found hfound := by
    obtain ⟨vehicle, hvehicle, rfl⟩ := Option.map_eq_some_iff.mp hfound
    show Current db.vehicles vehicle.1
    unfold sharedVehicle at hvehicle
    split at hvehicle
    · next vin hvin =>
      split at hvehicle
      · exact current_of_select hspares hvehicle fun hp => .inl ⟨vin, hvin, of_decide_eq_true hp⟩
      · cases hvehicle
    · next number _ hnumber =>
      exact current_of_select hspares hvehicle fun hp =>
        .inr (.inl ⟨number, hnumber, of_decide_eq_true hp⟩)
    · next number _ _ hnumber =>
      exact current_of_select hspares hvehicle fun hp =>
        .inr (.inr ⟨number, hnumber, of_decide_eq_true hp⟩)
    · exact plateVehicle_current hrows hvehicle
  createOrGet newId new db' found created hspares h := by
    unfold createOrGetVehicleMdm at h
    split at h
    · next existing hselect =>
      obtain ⟨rfl, hanswer⟩ := Prod.mk.inj (Except.ok.inj h)
      obtain ⟨rfl, -⟩ := Prod.mk.inj hanswer
      exact current_of_select hspares hselect of_decide_eq_true
    · dsimp only at h
      split at h
      · cases h
      · obtain ⟨rfl, hanswer⟩ := Prod.mk.inj (Except.ok.inj h)
        obtain ⟨rfl, -⟩ := Prod.mk.inj hanswer
        exact ⟨_, AList.lookup_insert _, rfl⟩

theorem lookupsCurrent_of_unmerged (hunmerged : ∀ id vehicle, db.vehicles.lookup id = some vehicle →
    vehicle.mergedIntoVehicleId = none) (hrows : RowsCurrent db) : LookupsCurrent db := by
  have hspares : ∀ names, Spares db.vehicles names := fun _ id vehicle hrow _ =>
    hunmerged id vehicle hrow
  obtain ⟨hmatch, hresolve, hshared, hcreate⟩ := lookupsSpared_of_rows hrows
  exact ⟨fun _ _ => hmatch _ _ (hspares _), fun _ _ _ => hresolve _ _ _ (hspares _),
    fun _ _ _ _ => hshared _ _ _ _ (hspares _), fun _ _ _ _ _ => hcreate _ _ _ _ _ (hspares _)⟩

theorem not_lookupsCurrent (hknown : Known register db) (hfound : db.vehicles.lookup d ≠ none)
    (hmerged : mergedInto db.vehicles d ≠ none) : ¬ LookupsCurrent db := by
  intro hlookups
  obtain ⟨vehicle, hrow⟩ := Option.ne_none_iff_exists'.mp hfound
  have hregistered : ∀ id row, db.vehicles.lookup id = some row →
      ∃ row', register.db.vehicles.lookup id = some row' ∧ row'.vin = row.vin := by
    intro id row hlookup
    have hvin := hknown.vins id
    rw [hlookup] at hvin
    exact Option.map_eq_some_iff.mp hvin.symm
  obtain ⟨row, hrow', hvin⟩ := hregistered d vehicle hrow
  have hgiven : given (some vehicle.vin) = some vehicle.vin := by
    rw [given, Option.filter_some, if_pos (by simpa using hvin ▸ register.vins d row hrow')]
  -- the VIN is given and unique, so the first rung answers with this very vehicle
  have hselect : selectVehicle db (fun v => v.vin = vehicle.vin) = some (d, vehicle) := by
    have hsome : (selectVehicle db fun v => v.vin = vehicle.vin).isSome = true :=
      Table.search_isSome_iff.mpr ⟨d, vehicle, hrow, by simp⟩
    obtain ⟨⟨id, other⟩, hother⟩ := Option.isSome_iff_exists.mp hsome
    obtain ⟨hrowOther, hvinOther⟩ := selectVehicle_eq_some hother
    obtain ⟨otherRow, hotherRow, hotherVin⟩ := hregistered id other hrowOther
    have hsame : other.vin = vehicle.vin := of_decide_eq_true hvinOther
    obtain rfl := register.unique id d otherRow row hotherRow hrow'
      (hotherVin.trans (hsame.trans hvin.symm))
    obtain rfl := Option.mem_unique hrow hrowOther
    exact hother
  have hmatch : (matchVehicle db 0 { vin := some vehicle.vin }).vehicle = some (d, vehicle) := by
    have hrung : vinRung db { vin := some vehicle.vin } =
        some ⟨.vin, some (d, vehicle), true, false, none⟩ := by
      unfold vinRung
      dsimp only
      rw [hgiven]
      change (selectVehicle db (fun v => v.vin = vehicle.vin) >>= _) = _
      rw [hselect]
      rfl
    rw [matchVehicle, hrung]
    rfl
  obtain ⟨vehicle', hlookup, hcurrent⟩ := hlookups.matchVehicle 0 _ (d, vehicle) hmatch
  rw [mergedInto, hlookup, Option.bind_some, hcurrent] at hmerged
  exact hmerged rfl

/-! ### Runs -/

/-- While no merge has committed, the tables are the register's. -/
structure Untouched (register : Register) (cfg : Config ι Db Local) : Prop where
  known : Holds (Known register) Knows cfg
  db : cfg.shared = register.db

variable {cfg : Config ι Db Local}

theorem retired_of_untouched (h : Untouched register cfg) : Retired cfg := by
  have hunmerged : ∀ id vehicle, cfg.shared.vehicles.lookup id = some vehicle →
      vehicle.mergedIntoVehicleId = none := by
    rw [h.db]
    exact register.unmerged
  have hrows : RowsCurrent cfg.shared := by
    rw [h.db]
    exact register.rows
  have hnone : ∀ v, mergedInto cfg.shared.vehicles v = none := by
    intro v
    cases hrow : cfg.shared.vehicles.lookup v with
    | none => rw [mergedInto, hrow, Option.bind_none]
    | some vehicle => rw [mergedInto, hrow, Option.bind_some, hunmerged v vehicle hrow]
  have hacyclic : Acyclic (mergedInto cfg.shared.vehicles) := by
    intro v hcycle
    obtain ⟨w, hw, -⟩ := Relation.TransGen.head'_iff.mp hcycle
    rw [hnone v] at hw
    cases hw
  exact ⟨chains_of_acyclic hacyclic h.known.1.targets, fun _ => hrows,
    lookupsCurrent_of_unmerged hunmerged hrows⟩

variable [DecidableEq ι]

theorem known_move (cfg : Config ι Db Local) (a : ι × Choice) (h : Holds (Known register) Knows cfg) :
    Holds (Known register) Knows (move step cfg a) := by
  refine noninterference_all ?_ ?_ h a
  · intro i choice db lo db' lo' hknown hknows hstep
    rcases step_cases hknows hstep with ⟨rfl, hlo', -⟩ | ⟨s, d, found, rfl, -, rfl, rfl⟩
    · exact ⟨hknown, hlo'⟩
    · exact ⟨known_merge hknown hknows.1 hknows.2, trivial⟩
  · intro i j choice db lo lo' db' lo'' _ hknown hknows hother hstep
    rcases step_cases hknows hstep with ⟨rfl, -, -⟩ | ⟨s, d, found, rfl, -, rfl, rfl⟩
    · exact hother
    · exact hother.mono fun _ hv => lookup_retire_ne_none hv

theorem retired_iff (h : Untouched register cfg) (a : ι × Choice) :
    (Retired (move step cfg a) ↔ NoCommit cfg a) ∧
      (NoCommit cfg a → Untouched register (move step cfg a)) := by
  have hknown := known_move cfg a h.known
  cases hstep : step a.1 a.2 cfg.shared (cfg.locals a.1) with
  | none =>
    have hno : NoCommit cfg a := by
      intro s d found hlo hchoice
      rw [hlo, hchoice] at hstep
      cases hstep
    have hsame : Untouched register (move step cfg a) := by
      rw [move_none hstep]
      exact h
    exact ⟨⟨fun _ => hno, fun _ => retired_of_untouched hsame⟩, fun _ => hsame⟩
  | some p =>
    obtain ⟨db', lo'⟩ := p
    rcases step_cases (h.known.2 a.1) hstep with ⟨rfl, -, hno⟩ | ⟨s, d, found, hlo, hchoice, rfl, -⟩
    · have hsame : Untouched register (move step cfg a) :=
        ⟨hknown, by rw [move_some hstep]; exact h.db⟩
      exact ⟨⟨fun _ => hno, fun _ => retired_of_untouched hsame⟩, fun _ => hsame⟩
    · -- the merge commits: its duplicate is retired, and the lookups do not know
      have hcommits : ¬ NoCommit cfg a := fun hno => hno s d found hlo hchoice
      have hexists : cfg.shared.vehicles.lookup s ≠ none ∧ cfg.shared.vehicles.lookup d ≠ none := by
        have hlocal := h.known.2 a.1
        rw [hlo] at hlocal
        exact hlocal
      refine ⟨⟨fun hretired => ?_, fun hno => absurd hno hcommits⟩, fun hno => absurd hno hcommits⟩
      have hlookups := hretired.lookups
      have hknown' := hknown.1
      rw [move_some hstep] at hlookups hknown'
      refine absurd hlookups (not_lookupsCurrent (d := d) hknown' (lookup_retire_ne_none hexists.2) ?_)
      change mergedInto (retire s d cfg.shared.vehicles) d ≠ none
      rw [mergedInto_retire hexists.2, Function.update_self]
      exact Option.some_ne_none _

/-- The chains end and the rows are on vehicles that are not merged. -/
structure Forest (register : Register) (cfg : Config ι Db Local) : Prop where
  known : Holds (Known register) Knows cfg
  acyclic : Acyclic (mergedInto cfg.shared.vehicles)
  rows : RowsCurrent cfg.shared

theorem forest_move (cfg : Config ι Db Local) (a : ι × Choice) (h : Forest register cfg)
    (hclean : Clean cfg a) : Forest register (move step cfg a) := by
  have hknown := known_move cfg a h.known
  cases hstep : step a.1 a.2 cfg.shared (cfg.locals a.1) with
  | none => rw [move_none hstep]; exact h
  | some p =>
    obtain ⟨db', lo'⟩ := p
    refine ⟨hknown, ?_, ?_⟩
    all_goals rw [move_some hstep]
    all_goals rcases step_cases (h.known.2 a.1) hstep with ⟨rfl, -, -⟩ | ⟨s, d, found, hlo, hchoice, rfl, -⟩
    · exact h.acyclic
    · obtain ⟨hne, hsurvivor, -⟩ := hclean s d found hlo hchoice
      have hlocal := h.known.2 a.1
      rw [hlo] at hlocal
      change Acyclic (mergedInto (retire s d cfg.shared.vehicles))
      rw [mergedInto_retire hlocal.2]
      exact h.acyclic.update hsurvivor hne
    · exact h.rows
    · obtain ⟨hne, hsurvivor, hcomplete⟩ := hclean s d found hlo hchoice
      have hlocal := h.known.2 a.1
      rw [hlo] at hlocal
      exact rowsCurrent_merge h.rows hne (current_iff.mpr ⟨hlocal.1, hsurvivor⟩) hcomplete

/-- **A merged vehicle id is retired** in every state of a run exactly when no merge of the
run commits.  Where every merge commits onto another, unmerged survivor and has read all rows
of its duplicate, the chains end, all rows are on vehicles that are not merged, and so are the answers
to whoever asks for no identifier of a merged one. -/
theorem merged_ids_retired (register : Register) (run : List (ι × Choice)) :
    (Along (move step) (fun cfg a => Retired (move step cfg a)) (start register) run ↔
      Along (move step) NoCommit (start register) run) ∧
    (Along (move step) Clean (start register) run →
      Chains (run.foldl (move step) (start register)).shared.vehicles ∧
        RowsCurrent (run.foldl (move step) (start register)).shared ∧
        LookupsSpared (run.foldl (move step) (start register)).shared) := by
  have hstart : Untouched register (start register : Config ι Db Local) :=
    ⟨known_start register, rfl⟩
  refine ⟨Along.congr_of_invariant (fun _ a h hno => (retired_iff h a).2 hno)
    (fun _ a h => (retired_iff h a).1) hstart, fun hclean => ?_⟩
  have hforest : Forest register (run.foldl (move step) (start register)) :=
    invariant_along (fun cfg a h hok => forest_move cfg a h hok)
      ⟨known_start register, (retired_of_untouched hstart).chains.acyclic, register.rows⟩ hclean
  exact ⟨chains_of_acyclic hforest.acyclic hforest.known.1.targets, hforest.rows,
    lookupsSpared_of_rows hforest.rows⟩

/-! ### One merge -/

def firstRecord : VehicleMdm := { vin := "WVWZZZ1KZAW000001", vehicleNumber := "F-000001" }

def secondRecord : VehicleMdm := { vin := "WVWZZZ1KZAW000002", vehicleNumber := "F-000002" }

def twoRecords : Register where
  db := { vehicles := ((∅ : Table Uuid VehicleMdm).insert 1 firstRecord).insert 2 secondRecord }
  unmerged := Table.forall_lookup.mpr (by decide +kernel)
  vins := Table.forall_lookup.mpr (by decide +kernel)
  unique := by
    intro id id' vehicle vehicle' hrow hrow'
    rcases Table.lookup_insert_cases hrow with ⟨rfl, rfl⟩ | ⟨-, hold⟩ <;>
      rcases Table.lookup_insert_cases hrow' with ⟨rfl, rfl⟩ | ⟨-, hold'⟩
    · exact fun _ => rfl
    · rcases Table.lookup_insert_cases hold' with ⟨rfl, rfl⟩ | ⟨-, hnone⟩
      · decide
      · cases hnone
    · rcases Table.lookup_insert_cases hold with ⟨rfl, rfl⟩ | ⟨-, hnone⟩
      · decide
      · cases hnone
    · rcases Table.lookup_insert_cases hold with ⟨rfl, rfl⟩ | ⟨-, hnone⟩
      · rcases Table.lookup_insert_cases hold' with ⟨rfl, rfl⟩ | ⟨-, hnone'⟩
        · exact fun _ => rfl
        · cases hnone'
      · cases hnone
  rows := ⟨(nofun), (nofun), (nofun), (nofun)⟩

def oneMerge : List (ℕ × Choice) :=
  [(0, .mergeVehicles 1 2), (0, .read), (0, .read), (0, .read), (0, .read), (0, .commit)]

/-- One merge and a lookup by the VIN of its duplicate. -/
theorem merged_ids_retired_refuted : ¬ ∀ (register : Register) (run : List (ℕ × Choice)),
    Retired (run.foldl (move step) (start register)) := by
  intro hall
  have hfound : ∃ found ∈ (matchVehicle (oneMerge.foldl (move step) (start twoRecords)).shared 0
      { vin := some "WVWZZZ1KZAW000002" }).vehicle, found.1 = 2 ∧
        mergedInto (oneMerge.foldl (move step) (start twoRecords)).shared.vehicles 2 = some 1 := by
    decide +kernel
  obtain ⟨found, hmem, hid, hmerged⟩ := hfound
  have hcurrent := (hall twoRecords oneMerge).lookups.matchVehicle 0 _ found hmem
  rw [hid, current_iff, hmerged] at hcurrent
  cases hcurrent.2

end Nexotec.VehicleMerge
