/-
From a VIN to its vehicle record (`app/vehicle/services/vehicle_mdm.py`,
`app/vehicle/api/vehicle_mdm.py`, `app/inventory/services/vehicle_resolution.py`,
`app/valuation/services/valuation.py`).

All callers run `create_or_get_vehicle_mdm`: look the VIN up, and where it is new
allocate a vehicle number, insert the row and commit.  They differ in what they do with
the conflict of a lost insert: the two that have a session of their own look once more,
`POST /vehicle-mdm` hands it on.

  looking → creating → flushed → answered
  looking → answered                          (the VIN is there)
  creating → looking                          (a lost insert, the first time)
  creating → refused
-/
import Nexotec.Core.Numbering

namespace Nexotec.VinResolution

open Interleaving

/-! ### Records -/

inductive CatalogueMatchStatus where
  | matched
  | unverified
  deriving DecidableEq

/-- The columns of a `vehicle_mdm` row that its creation sets. -/
structure VehicleMdm where
  id : Uuid
  vin : String
  vehicleNumber : List Char
  stammnummer : Option String
  typeApprovalNumber : Option String
  firstRegistrationDate : Option ℤ
  catalogueVariantId : Option Uuid
  catalogueMatchStatus : CatalogueMatchStatus
  deriving DecidableEq

/-- Who asks: `POST /vehicle-mdm`, a stock create or a promotion, a valuation. -/
inductive Caller where
  | createVehicle
  | resolveVehicleMdmByVin
  | resolveVehicleId
  deriving DecidableEq

structure Call where
  caller : Caller
  vin : String
  catalogueVariantId : Option Uuid := none
  stammnummer : Option String := none
  typeApprovalNumber : Option String := none
  firstRegistrationDate : Option ℤ := none

def Call.row (call : Call) (id : Uuid) (vehicleNumber : List Char) : VehicleMdm where
  id := id
  vin := call.vin
  vehicleNumber := vehicleNumber
  stammnummer := call.stammnummer
  typeApprovalNumber := call.typeApprovalNumber
  firstRegistrationDate := call.firstRegistrationDate
  catalogueVariantId := call.catalogueVariantId
  catalogueMatchStatus := if call.catalogueVariantId.isSome then .matched else .unverified

/-- Two rows that one of the unique constraints does not let stand side by side. -/
def Clash (row row' : VehicleMdm) : Prop :=
  row.vin = row'.vin ∨ row.vehicleNumber = row'.vehicleNumber ∨
    (row.stammnummer ≠ none ∧ row.stammnummer = row'.stammnummer)

instance (row row' : VehicleMdm) : Decidable (Clash row row') :=
  inferInstanceAs (Decidable (_ ∨ _ ∨ _))

/-- `ConflictError` of `create_vehicle_mdm`. -/
def vinExists (vin : String) : AppError :=
  ⟨.conflict, "A vehicle with VIN '" ++ vin ++ "' already exists.", [("vin", vin)]⟩

def lostTheInsertRace (exc : AppError) (vin : String) : Bool :=
  exc.reason.isNone && exc.details.lookup "vin" == some vin

theorem lostTheInsertRace_vinExists (vin : String) : lostTheInsertRace (vinExists vin) vin = true := by
  have hreason : (vinExists vin).reason = none := rfl
  have hvin : (vinExists vin).details.lookup "vin" = some vin := rfl
  rw [lostTheInsertRace, hreason, hvin]
  simp

/-! ### Sessions -/

/-- The committed rows, the counters, and the rows that are flushed and not committed. -/
structure Shared (ι : Type) where
  numbering : Numbering.Shared ι := {}
  vehicles : List VehicleMdm := []
  flushed : List (ι × VehicleMdm) := []

inductive Stage where
  /-- Before the lookup. -/
  | looking
  /-- The lookup has missed. -/
  | creating
  | flushed (vehicle : VehicleMdm)
  | answered (vehicle : VehicleMdm) (created : Bool)
  | refused (exc : AppError)
  deriving DecidableEq

structure Local where
  call : Call
  /-- The second attempt, after a lost insert. -/
  again : Bool := false
  stage : Stage := .looking
  tx : Numbering.Local := .opened {}

inductive Choice where
  | look
  | allocator (choice : Numbering.Choice)
  /-- The insert; the key is drawn. -/
  | insert (id : Uuid)
  | commit

variable {ι : Type} [DecidableEq ι]

def getVehicleMdmByVin (sh : Shared ι) (vin : String) : Option VehicleMdm :=
  sh.vehicles.find? fun vehicle => vehicle.vin = vin

/-- The statements of `allocate_vehicle_number`. -/
def allocates : Numbering.Choice → Bool
  | .allocate series => series = .vehicle
  | .insertCounter | .reread | .count => true
  | .insertRow | .commit | .rollback => false

/-- A step of the transaction that the number belongs to. -/
def number (i : ι) (choice : Numbering.Choice) (sh : Shared ι) (lo : Local) :
    Option (Shared ι × Local) :=
  (Numbering.step i choice sh.numbering lo.tx).map fun (numbering, tx) =>
    ({ sh with numbering := numbering }, { lo with tx := tx })

def conflict (exc : AppError) (lo : Local) : Local :=
  match lo.call.caller with
  | .createVehicle => { lo with stage := .refused exc }
  | .resolveVehicleMdmByVin | .resolveVehicleId =>
    if lo.again = false ∧ lostTheInsertRace exc lo.call.vin = true then
      { lo with again := true, stage := .looking }
    else { lo with stage := .refused exc }

/-- The row that an insert with this key is about, once the number is allocated. -/
def newRow (sh : Shared ι) (lo : Local) (id : Uuid) : Option VehicleMdm :=
  match lo.tx with
  | .numbered _ series value =>
    if (∀ vehicle ∈ sh.vehicles, vehicle.id ≠ id) ∧ ∀ row ∈ sh.flushed, row.2.id ≠ id then
      some (lo.call.row id (Numbering.numberText series value))
    else none
  | _ => none

/-- `db.flush()`: a row in flight that clashes is waited for, a committed one and a
variant that is not there make the `IntegrityError`. -/
def insert (variants : Uuid → Bool) (i : ι) (row : VehicleMdm) (sh : Shared ι) (lo : Local) :
    Option (Shared ι × Local) :=
  if ∃ vehicle ∈ sh.vehicles, Clash row vehicle then
    (number i .rollback sh lo).map fun (sh, lo) => (sh, conflict (vinExists lo.call.vin) lo)
  else if ∃ other ∈ sh.flushed, other.1 ≠ i ∧ Clash row other.2 then none
  else if ∃ variant ∈ row.catalogueVariantId, variants variant = false then
    (number i .rollback sh lo).map fun (sh, lo) => (sh, conflict (vinExists lo.call.vin) lo)
  else
    (number i .insertRow sh lo).map fun (sh, lo) =>
      ({ sh with flushed := (i, row) :: sh.flushed }, { lo with stage := .flushed row })

/-- `db.commit()` of a flushed row. -/
def commit (i : ι) (vehicle : VehicleMdm) (sh : Shared ι) (lo : Local) :
    Option (Shared ι × Local) :=
  (number i .commit sh lo).map fun (sh, lo) =>
    ({ sh with
        vehicles := vehicle :: sh.vehicles
        flushed := sh.flushed.filter fun row => row.1 ≠ i },
      { lo with stage := .answered vehicle true })

/-- What session `i` does next, given the catalogue variants there are. -/
def step (variants : Uuid → Bool) (i : ι) (choice : Choice) (sh : Shared ι) (lo : Local) :
    Option (Shared ι × Local) :=
  match lo.stage, choice with
  | .looking, .look =>
    match getVehicleMdmByVin sh lo.call.vin with
    | some vehicle => some (sh, { lo with stage := .answered vehicle false })
    | none => some (sh, { lo with stage := .creating })
  | .creating, .allocator choice => if allocates choice then number i choice sh lo else none
  | .creating, .insert id => (newRow sh lo id).bind fun row => insert variants i row sh lo
  | .flushed vehicle, .commit => commit i vehicle sh lo
  | _, _ => none

def start (calls : ι → Call) : Config ι (Shared ι) Local := ⟨{}, fun i => { call := calls i }⟩

end Nexotec.VinResolution
