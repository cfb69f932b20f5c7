/-
Merging two vehicle records, and the lookups that lead to a vehicle
(`app/vehicle/services/merge.py`, `matching.py`, `search.py`, `lookup.py`, `plate.py`,
`vehicle_mdm.py`).

A merge reads both vehicles and checks the duplicate, reads the four tables that refer to a
vehicle one after the other, and commits what it has written: nothing is locked, and its
UPDATEs name the rows it has read.

  found → platesRead → accessoriesRead → odometerRead → ready → (merged)

An UPDATE in flight is waited for by the next one of the same row, so the writes of a merge
take effect with its commit.  Some merges may be refused by a deadlock or die at any point.
-/
import Mathlib.Data.Finset.SDiff
import Mathlib.Data.Finset.Card
import Nexotec.Core.Base
import Nexotec.Lib.Interleaving

namespace Nexotec.VehicleMerge

open Interleaving

/-! ### Rows -/

/-- What a vehicle shows of its catalogue variant. -/
structure Variant where
  vehicleKind : Option String := none
  fuelType : Option String := none
  bodyStyle : Option String := none
  drivetrain : Option String := none

structure VehicleMdm where
  vin : String
  vehicleNumber : String
  stammnummer : Option String := none
  typeApprovalNumber : Option String := none
  firstRegistrationDate : Option ℤ := none
  catalogueVariant : Option Variant := none
  vehicleStatus : String := "active"
  mergedIntoVehicleId : Option Uuid := none

structure VehiclePlate where
  vehicleId : Uuid
  plate : String
  canton : String
  validFrom : ℤ
  validTo : Option ℤ := none
  plateGroupId : Option Uuid := none
  deriving DecidableEq

/-- A row of `vehicle_accessory`, `vehicle_odometer_reading` or `vehicle_mdm_custody_event`. -/
structure HistoryRow where
  vehicleId : Uuid

/-- The committed tables. -/
structure Db where
  vehicles : Table Uuid VehicleMdm := ∅
  plates : Table Uuid VehiclePlate := ∅
  accessories : Table Uuid HistoryRow := ∅
  odometerReadings : Table Uuid HistoryRow := ∅
  custodyEvents : Table Uuid HistoryRow := ∅

/-! ### The merge -/

/-- `get_vehicle_mdm_or_404`. -/
def getVehicleMdmOr404 (vehicles : Table Uuid VehicleMdm) (vehicleId : Uuid) : Result VehicleMdm :=
  orNotFound (vehicles.lookup vehicleId) s!"Vehicle {vehicleId} was not found."

/-- The checks of `merge_vehicles`; `false` is its `ValueError`. -/
def mayMerge (db : Db) (survivorId duplicateId : Uuid) : Result Bool := do
  let _ ← getVehicleMdmOr404 db.vehicles survivorId
  let duplicate ← getVehicleMdmOr404 db.vehicles duplicateId
  pure duplicate.mergedIntoVehicleId.isNone

/-- A table whose rows refer to a vehicle. -/
class Referring (ρ : Type) where
  vehicleId : ρ → Uuid
  withVehicleId : Uuid → ρ → ρ
  vehicleId_with : ∀ id row, vehicleId (withVehicleId id row) = id

instance : Referring VehiclePlate where
  vehicleId := VehiclePlate.vehicleId
  withVehicleId id row := { row with vehicleId := id }
  vehicleId_with _ _ := rfl

instance : Referring HistoryRow where
  vehicleId := HistoryRow.vehicleId
  withVehicleId id row := { row with vehicleId := id }
  vehicleId_with _ _ := rfl

section

variable {ρ : Type} [Referring ρ]

/-- The SELECT of `_repoint`. -/
def selectRows (rows : Table Uuid ρ) (duplicateId : Uuid) : List Uuid :=
  rows.selectKeys fun _ row => Referring.vehicleId row = duplicateId

/-- The UPDATEs of `_repoint`; a vehicle id that does not change is not written. -/
def repoint (found : List Uuid) (duplicateId survivorId : Uuid) (rows : Table Uuid ρ) :
    Table Uuid ρ :=
  if survivorId = duplicateId then rows
  else rows.updateAll fun id row => if id ∈ found then Referring.withVehicleId survivorId row else row

end

/-- The rows a merge has read. -/
structure Found where
  plates : List Uuid
  accessories : List Uuid
  odometerReadings : List Uuid
  custodyEvents : List Uuid

def mergeRows (survivorId duplicateId : Uuid) (found : Found) (db : Db) : Db where
  vehicles := db.vehicles.modify duplicateId fun vehicle =>
    { vehicle with mergedIntoVehicleId := some survivorId }
  plates := repoint found.plates duplicateId survivorId db.plates
  accessories := repoint found.accessories duplicateId survivorId db.accessories
  odometerReadings := repoint found.odometerReadings duplicateId survivorId db.odometerReadings
  custodyEvents := repoint found.custodyEvents duplicateId survivorId db.custodyEvents

/-- Where a session is. -/
inductive Local where
  | idle
  | found (survivorId duplicateId : Uuid)
  | platesRead (survivorId duplicateId : Uuid) (plates : List Uuid)
  | accessoriesRead (survivorId duplicateId : Uuid) (plates accessories : List Uuid)
  | odometerRead (survivorId duplicateId : Uuid) (plates accessories odometerReadings : List Uuid)
  | ready (survivorId duplicateId : Uuid) (found : Found)

inductive Choice where
  | mergeVehicles (survivorId duplicateId : Uuid)
  | read
  | commit
  | fail

variable {ι : Type}

/-- What a session does next; there is nothing it waits for. -/
def step (_ : ι) (choice : Choice) (db : Db) (lo : Local) : Option (Db × Local) :=
  match lo, choice with
  | .idle, .mergeVehicles survivorId duplicateId =>
    match mayMerge db survivorId duplicateId with
    | .ok true => some (db, .found survivorId duplicateId)
    | _ => none
  | .found s d, .read => some (db, .platesRead s d (selectRows db.plates d))
  | .platesRead s d plates, .read =>
    some (db, .accessoriesRead s d plates (selectRows db.accessories d))
  | .accessoriesRead s d plates accessories, .read =>
    some (db, .odometerRead s d plates accessories (selectRows db.odometerReadings d))
  | .odometerRead s d plates accessories odometerReadings, .read =>
    some (db, .ready s d ⟨plates, accessories, odometerReadings, selectRows db.custodyEvents d⟩)
  | .ready s d found, .commit => some (mergeRows s d found db, .idle)
  | _, .fail => some (db, .idle)
  | _, _ => none

/-- The walk of `resolve_merged_id`. -/
def walk (vehicles : Table Uuid VehicleMdm) (seen : List Uuid) (currentId : Uuid) : Uuid :=
  if _hseen : currentId ∈ seen then currentId
  else
    match _hrow : vehicles.lookup currentId with
    | none => currentId
    | some vehicle =>
      match vehicle.mergedIntoVehicleId with
      | none => currentId
      | some next => walk vehicles (currentId :: seen) next
termination_by (vehicles.keys.toFinset \ seen.toFinset).card
decreasing_by
  have hkey : currentId ∈ vehicles.keys := AList.lookup_isSome.mp (by rw [_hrow]; rfl)
  refine Finset.card_lt_card (Finset.ssubset_iff_subset_ne.mpr ⟨?_, fun heq => ?_⟩)
  · exact Finset.sdiff_subset_sdiff (Finset.Subset.refl _) (by simp)
  · have hmem : currentId ∈ vehicles.keys.toFinset \ seen.toFinset := by simp [hkey, _hseen]
    rw [← heq] at hmem
    simp at hmem

def resolveMergedId (vehicles : Table Uuid VehicleMdm) (vehicleId : Uuid) : Uuid :=
  walk vehicles [] vehicleId

/-! ### Looking a vehicle up -/

/-- The rows of a table that satisfy a condition, in the order of the table. -/
def selectWhere {ρ : Type} (p : ρ → Bool) (rows : Table Uuid ρ) : List (Uuid × ρ) :=
  (rows.entries.filter fun e => p e.2).map fun e => (e.1, e.2)

def resolvePlate (db : Db) (plate canton : String) (asOf : ℤ) (includeHistorical : Bool) :
    List (Uuid × VehiclePlate) :=
  selectWhere (fun row => row.plate = plate ∧ row.canton = canton ∧
    (includeHistorical = true ∨ (row.validFrom ≤ asOf ∧ ∀ validTo ∈ row.validTo, asOf ≤ validTo)))
    db.plates

/-- `db.scalar(select(VehicleMdm).where(…))`. -/
def selectVehicle (db : Db) (p : VehicleMdm → Bool) : Option (Uuid × VehicleMdm) :=
  db.vehicles.search fun _ vehicle => p vehicle

/-- `db.get(VehicleMdm, …)`. -/
def getVehicle (db : Db) (vehicleId : Uuid) : Option (Uuid × VehicleMdm) :=
  (db.vehicles.lookup vehicleId).map (vehicleId, ·)

def given (value : Option String) : Option String := value.filter (· ≠ "")

inductive Rung where
  | vin
  | stammnummer
  | plate
  | typeApproval
  | noMatch

structure MatchResult where
  rung : Rung
  vehicle : Option (Uuid × VehicleMdm)
  decisive : Bool
  requiresConfirmation : Bool
  matchCode : Option ℕ := none

structure MatchQuery where
  vin : Option String := none
  stammnummer : Option String := none
  plate : Option String := none
  canton : Option String := none
  vehicleKind : Option String := none
  typeApprovalNumber : Option String := none
  firstRegistrationDate : Option ℤ := none

def vehicleKindOf (vehicle : VehicleMdm) : Option String :=
  vehicle.catalogueVariant.bind (·.vehicleKind)

/-- The one vehicle all current rows of a plate are about. -/
def plateVehicle (db : Db) (today : ℤ) (plate canton : Option String) : Option (Uuid × VehicleMdm) :=
  match given plate, given canton with
  | some plate, some canton =>
    match ((resolvePlate db plate canton today false).map (·.2.vehicleId)).dedup with
    | [vehicleId] => getVehicle db vehicleId
    | _ => none
  | _, _ => none

def vinRung (db : Db) (query : MatchQuery) : Option MatchResult := do
  let vin ← given query.vin
  let vehicle ← selectVehicle db fun vehicle => vehicle.vin = vin
  pure ⟨.vin, some vehicle, true, false, none⟩

def stammnummerRung (db : Db) (query : MatchQuery) : Option MatchResult := do
  let stammnummer ← given query.stammnummer
  let vehicle ← selectVehicle db fun vehicle => vehicle.stammnummer = some stammnummer
  pure ⟨.stammnummer, some vehicle, true, false, none⟩

def plateRung (db : Db) (today : ℤ) (query : MatchQuery) : Option MatchResult := do
  let vehicle ← plateVehicle db today query.plate query.canton
  guard (query.vehicleKind = none ∨ vehicleKindOf vehicle.2 = query.vehicleKind)
  pure ⟨.plate, some vehicle, false, true, none⟩

def typeApprovalRung (db : Db) (query : MatchQuery) : Option MatchResult := do
  let number ← given query.typeApprovalNumber
  let candidates := selectWhere (fun vehicle => vehicle.typeApprovalNumber = some number ∧
    (query.firstRegistrationDate = none ∨
      vehicle.firstRegistrationDate = query.firstRegistrationDate)) db.vehicles
  let first ← candidates.head?
  pure ⟨.typeApproval, some first, false, true, some (if candidates.length = 1 then 1 else 2)⟩

def matchVehicle (db : Db) (today : ℤ) (query : MatchQuery) : MatchResult :=
  ((((vinRung db query).orElse fun _ => stammnummerRung db query).orElse
    fun _ => plateRung db today query).orElse fun _ => typeApprovalRung db query).getD
      ⟨.noMatch, none, false, false, none⟩

/-- `str.upper`, `\s`, `\d` and a letter of `[A-Z]` whatever its case. -/
structure Spelling where
  upper : String → String
  isSpace : Char → Bool
  isDigit : Char → Bool
  isLetter : Char → Bool

variable (spelling : Spelling)

def normaliseVin (value : String) : String :=
  spelling.upper (String.ofList (value.toList.filter fun c => !spelling.isSpace c))

/-- `is_valid_vin`: 17 of `[A-HJ-NPR-Z0-9]`. -/
def isValidVin (vin : String) : Bool :=
  vin.length = 17 ∧ vin.toList.all fun c =>
    ('A' ≤ c ∧ c ≤ 'Z' ∧ c ≠ 'I' ∧ c ≠ 'O' ∧ c ≠ 'Q') ∨ ('0' ≤ c ∧ c ≤ '9')

def strip (value : String) : String :=
  String.ofList (((value.toList.dropWhile spelling.isSpace).reverse.dropWhile
    spelling.isSpace).reverse)

/-- `_VEHICLE_NUMBER_RE`: `F-` and six digits. -/
def isVehicleNumber (q : String) : Bool :=
  match q.toList with
  | f :: '-' :: digits => (f = 'F' ∨ f = 'f') ∧ digits.length = 6 ∧ digits.all spelling.isDigit
  | _ => false

/-- `_STAMMNUMMER_RE`: nine digits. -/
def isStammnummer (q : String) : Bool :=
  q.length = 9 ∧ q.toList.all spelling.isDigit

/-- `_PLATE_RE`: one or two letters, a separator or none, one to six digits. -/
def plateParts (q : String) : Option (String × String) :=
  let letters := q.toList.takeWhile spelling.isLetter
  let digits := match q.toList.dropWhile spelling.isLetter with
    | c :: rest => if spelling.isSpace c ∨ c = '-' then rest else c :: rest
    | [] => []
  if (1 ≤ letters.length ∧ letters.length ≤ 2) ∧ (1 ≤ digits.length ∧ digits.length ≤ 6) ∧
      digits.all spelling.isDigit then
    some (spelling.upper (String.ofList letters), String.ofList digits)
  else none

structure VehiclePickerCandidate where
  id : Uuid
  vehicleNumber : String
  vin : String
  plate : String
  plateGroupId : Option Uuid
  isConflict : Bool

structure SearchResolution where
  resolved : Option (Uuid × VehicleMdm)
  pickerCandidates : List VehiclePickerCandidate

/-- The plate of several vehicles: a Wechselschild pair, or a conflict. -/
def pickerCandidates (db : Db) (rows : List (Uuid × VehiclePlate)) : List VehiclePickerCandidate :=
  let isWechselschild :=
    (rows.filterMap (·.2.plateGroupId)).dedup.length = 1 ∧ rows.length = 2
  rows.map fun (_, row) =>
    { id := row.vehicleId
      vehicleNumber := ((db.vehicles.lookup row.vehicleId).map (·.vehicleNumber)).getD ""
      vin := ((db.vehicles.lookup row.vehicleId).map (·.vin)).getD ""
      plate := row.plate
      plateGroupId := row.plateGroupId
      isConflict := !isWechselschild }

/-- `resolve_identifier`; `none` for a query that looks like no identifier. -/
def resolveIdentifier (db : Db) (today : ℤ) (query : String) : Option SearchResolution :=
  let q := strip spelling query
  let typedVin := normaliseVin spelling q
  if isValidVin typedVin then some ⟨selectVehicle db fun vehicle => vehicle.vin = typedVin, []⟩
  else if isVehicleNumber spelling q then
    some ⟨selectVehicle db fun vehicle => vehicle.vehicleNumber = spelling.upper q, []⟩
  else if isStammnummer spelling q then
    some ⟨selectVehicle db fun vehicle => vehicle.stammnummer = some q, []⟩
  else
    match plateParts spelling q with
    | some (canton, number) =>
      match resolvePlate db (canton ++ " " ++ number) canton today false with
      | [] => some ⟨none, []⟩
      | [row] => some ⟨getVehicle db row.2.vehicleId, []⟩
      | rows => some ⟨none, pickerCandidates db rows⟩
    | none => none

structure IdentityQuery where
  vin : Option String := none
  stammnummer : Option String := none
  vehicleNumber : Option String := none
  plate : Option String := none
  canton : Option String := none

/-- The vehicle `resolve_shared_identity` is about. -/
def sharedVehicle (db : Db) (today : ℤ) (query : IdentityQuery) : Option (Uuid × VehicleMdm) :=
  match given query.vin, given query.stammnummer, given query.vehicleNumber with
  | some vin, _, _ =>
    -- no VIN once normalised: nothing is found, whatever else is asked for
    if isValidVin (normaliseVin spelling vin) then
      selectVehicle db fun vehicle => vehicle.vin = normaliseVin spelling vin
    else none
  | none, some stammnummer, _ => selectVehicle db fun vehicle => vehicle.stammnummer = some stammnummer
  | none, none, some vehicleNumber => selectVehicle db fun vehicle => vehicle.vehicleNumber = vehicleNumber
  | none, none, none => plateVehicle db today query.plate query.canton

structure SharedVehicleIdentity where
  vin : String
  stammnummer : Option String
  typeApprovalNumber : Option String
  firstRegistrationDate : Option ℤ
  currentPlate : Option String
  fuelType : Option String
  bodyStyle : Option String
  drivetrain : Option String
  vehicleStatus : String

def plateValidOn (plates : List (Uuid × VehiclePlate)) (day : ℤ) : Option String :=
  (plates.find? fun row => row.2.validFrom ≤ day ∧ ∀ validTo ∈ row.2.validTo, day ≤ validTo).map
    (·.2.plate)

def plateHistory (db : Db) (vehicleId : Uuid) : List (Uuid × VehiclePlate) :=
  (selectWhere (fun row => row.vehicleId = vehicleId) db.plates).mergeSort
    fun a b => b.2.validFrom ≤ a.2.validFrom

/-- `_to_shared_identity`; past the limit of the plate read guard the plate is withheld. -/
def toSharedIdentity (db : Db) (today : ℤ) (withinLimit : Bool) (vehicle : Uuid × VehicleMdm) :
    SharedVehicleIdentity where
  vin := vehicle.2.vin
  stammnummer := vehicle.2.stammnummer
  typeApprovalNumber := vehicle.2.typeApprovalNumber
  firstRegistrationDate := vehicle.2.firstRegistrationDate
  currentPlate := if withinLimit then plateValidOn (plateHistory db vehicle.1) today else none
  fuelType := vehicle.2.catalogueVariant.bind (·.fuelType)
  bodyStyle := vehicle.2.catalogueVariant.bind (·.bodyStyle)
  drivetrain := vehicle.2.catalogueVariant.bind (·.drivetrain)
  vehicleStatus := vehicle.2.vehicleStatus

/-- `resolve_shared_identity`, with the vehicle the answer is about. -/
def resolveSharedIdentity (db : Db) (today : ℤ) (withinLimit : Bool) (query : IdentityQuery) :
    Option (Uuid × SharedVehicleIdentity) :=
  (sharedVehicle spelling db today query).map fun vehicle =>
    (vehicle.1, toSharedIdentity db today withinLimit vehicle)

/-- `create_or_get_vehicle_mdm`, with the key and the number the new row would get; the
answer says whether it is new. -/
def createOrGetVehicleMdm (db : Db) (newId : Uuid) (new : VehicleMdm) :
    Result (Db × (Uuid × VehicleMdm) × Bool) :=
  match selectVehicle db fun vehicle => vehicle.vin = new.vin with
  | some existing => .ok (db, existing, false)
  | none =>
    let row := { new with mergedIntoVehicleId := none }
    if ∃ e ∈ db.vehicles.entries, e.1 = newId ∨ e.2.vehicleNumber = row.vehicleNumber ∨
        (row.stammnummer ≠ none ∧ e.2.stammnummer = row.stammnummer) then
      .error (conflictError s!"A vehicle with VIN '{new.vin}' already exists." [("vin", new.vin)])
    else .ok ({ db with vehicles := db.vehicles.insert newId row }, (newId, row), true)

end Nexotec.VehicleMerge
