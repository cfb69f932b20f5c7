/-
Trade-in valuations (`app/valuation`): the record, its derived status, the
reads Sales makes of it, and the stamp a confirmation sets and a compensation
takes back.

No writer changes a valuation's vehicle, configuration or offer after
`create_valuation`; only `used_at` moves.
-/
import Nexotec.Core.Base

namespace Nexotec

structure Valuation where
  tenantId : Uuid
  valuationNumber : String := ""
  vehicleId : Option Uuid := none
  vehicleVin : Option String := none
  configurationId : Option Uuid := none
  configurationLabel : Option String := none
  finalOffer : Decimal
  isDraft : Bool := false
  validUntil : Time := 0
  usedAt : Option Time := none
  createdAt : Time := 0

inductive ValuationStatus where
  | used
  | draft
  | expired
  | valid
  deriving DecidableEq

/-- `derive_status`, evaluated on read. -/
def deriveStatus (valuation : Valuation) (now : Time) : ValuationStatus :=
  if valuation.usedAt.isSome then .used
  else if valuation.isDraft then .draft
  else if valuation.validUntil < now then .expired
  else .valid

/-- `get_valuation_or_404`. -/
def getValuationOr404 (valuations : Table Uuid Valuation) (tenantId valuationId : Uuid) :
    Result Valuation :=
  orNotFound ((valuations.lookup valuationId).filter (·.tenantId = tenantId))
    s!"Valuation {valuationId} was not found."

/-- `list_valid_valuations_for_vehicle`: newest first. -/
def listValidValuationsForVehicle (valuations : Table Uuid Valuation) (tenantId vehicleId : Uuid)
    (now : Time) : List (Uuid × Valuation) :=
  let rows := valuations.entries.filter fun e =>
    e.2.tenantId = tenantId ∧ e.2.vehicleId = some vehicleId
  let newestFirst := rows.mergeSort fun a b => b.2.createdAt ≤ a.2.createdAt
  (newestFirst.filter fun e => deriveStatus e.2 now = .valid).map fun e => (e.1, e.2)

/-- `consume_for_contract`: stamps the valuation used; `true` when this call
set the stamp. -/
def consumeForContract (valuations : Table Uuid Valuation) (tenantId valuationId : Uuid)
    (now : Time) : Result (Table Uuid Valuation × Bool) := do
  let valuation ← getValuationOr404 valuations tenantId valuationId
  if valuation.isDraft = false ∧ valuation.validUntil < now then
    .error (conflictError s!"Valuation {valuation.valuationNumber} expired on {valuation.validUntil}."
      [("reason", "valuation_expired"), ("valuationId", toString valuationId)])
  else if valuation.usedAt.isSome then pure (valuations, false)
  else pure (Table.modify valuationId (fun v => { v with usedAt := some now }) valuations, true)

def revertUse (valuations : Table Uuid Valuation) (valuationId : Uuid) : Table Uuid Valuation :=
  Table.modify valuationId (fun v => { v with usedAt := none }) valuations

variable {valuations : Table Uuid Valuation} {tenantId : Uuid} {v : Valuation}

theorem getValuationOr404_eq_ok {valuationId : Uuid}
    (h : getValuationOr404 valuations tenantId valuationId = .ok v) :
    valuations.lookup valuationId = some v := by
  rw [getValuationOr404, orNotFound_eq_ok, Option.filter_eq_some_iff] at h
  exact h.1

theorem mem_listValidValuationsForVehicle {vehicleId : Uuid} {now : Time} {id : Uuid}
    (h : (id, v) ∈ listValidValuationsForVehicle valuations tenantId vehicleId now) :
    valuations.lookup id = some v ∧ v.vehicleId = some vehicleId := by
  simp only [listValidValuationsForVehicle, List.mem_map, List.mem_filter, List.mem_mergeSort,
    decide_eq_true_eq] at h
  obtain ⟨⟨k, r⟩, ⟨⟨hm, -, hv⟩, -⟩, heq⟩ := h
  cases heq
  exact ⟨Table.lookup_eq_some_iff_mem.mpr hm, hv⟩

end Nexotec
