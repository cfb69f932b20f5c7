/-
The trade-in of a deal (`app/sales/services/trade_in.py`).

`setTradeIn` records the traded-in car and attaches the newest valid
valuation of it, if there is one; `attachTradeInValuation` attaches the
valuation the seller picked.  Both end in `_attach`, which writes only the
columns the valuation carries, and in `_recompute_payable`.

`TradeInDescribes` says that the recorded valuation, its value and its
configuration describe the recorded car.  `attach_describes` and
`record_describes` give the exact side conditions under which the two writers
keep it.
-/
import Nexotec.Sales.LineItems

namespace Nexotec

def resolveTradeInVin (reads : Reads) (vin plate canton : Option String) : Result String :=
  if orText vin "" ≠ "" then pure (orText vin "")
  else if orText plate "" ≠ "" then
    match reads.matchVehicle (orText plate "") canton with
    | some matched => pure matched
    | none => .error (conflictError
        "No decisive match for this plate — a trade-in vehicle needs a VIN (vehicle-mdm requires one; a plate alone cannot create a record)."
        [("plate", pyText plate), ("canton", pyText canton)])
  else .error (conflictError
    "A trade-in vehicle needs either a VIN or a plate+canton to resolve.")

/-- `get_customer_or_404` in the caller's group. -/
def getCustomerOr404 (reads : Reads) (customerId : Uuid) : Result Customer :=
  orNotFound (reads.customer reads.groupId customerId)
    s!"Customer {customerId} was not found."

/-- The first half of `set_trade_in`: everything before the deal is locked
again.  It reads the other contexts and gives the traded-in car. -/
def resolveTradeIn (reads : Reads) (deal : Deal) (data : TradeInRequest) :
    Result ResolvedVehicle := do
  let partyCustomerId := data.customerId.orElse fun _ => deal.customerId
  match partyCustomerId with
  | some customerId => do
    let _ ← getCustomerOr404 reads customerId
    let vin ← resolveTradeInVin reads data.vin data.plate data.canton
    reads.resolveVehicle vin
  | none => do
    let vin ← resolveTradeInVin reads data.vin data.plate data.canton
    reads.resolveVehicle vin

def attach (reads : Reads) (deal : Deal) (valuationId : Uuid) (valuation : Valuation) : Deal :=
  let deal := { deal with tradeInValuationId := some valuationId }
  let deal := match valuation.configurationId with
    | none => deal
    | some configurationId =>
      let deal := { deal with
        tradeInConfigurationId := some configurationId
        tradeInConfigurationLabelRefreshedAt := some reads.now }
      -- the valuation path writes no vehicle record; its own fields label the car
      if deal.tradeInVehicleId.isNone then
        { deal with
          tradeInLabel :=
            (valuation.configurationLabel.filter (· ≠ "")).orElse fun _ => deal.tradeInLabel
          tradeInVin := valuation.vehicleVin
          tradeInVehicleId := valuation.vehicleId }
      else deal
  { deal with
    tradeInValue := some valuation.finalOffer
    tradeInPurchasePrice := deal.tradeInPurchasePrice.orElse fun _ => some valuation.finalOffer }

/-- The columns `set_trade_in` writes for the resolved car. -/
def recordTradeIn (deal : Deal) (vehicle : ResolvedVehicle) (vehicleLabel : String) : Deal :=
  { deal with
    tradeInVehicleId := some vehicle.id
    tradeInVin := some vehicle.vin
    tradeInLabel := some vehicleLabel }

/-- The columns of the trade-in after `set_trade_in`: the car, and its newest
valid valuation when there is one. -/
def recordAndAttach (reads : Reads) (valuations : Table Uuid Valuation) (deal : Deal)
    (vehicle : ResolvedVehicle) (vehicleLabel : String) : Deal :=
  let deal := recordTradeIn deal vehicle vehicleLabel
  match listValidValuationsForVehicle valuations deal.tenantId vehicle.id reads.now with
  | (valuationId, valuation) :: _ => attach reads deal valuationId valuation
  | [] => deal

/-- `deal.updated_by`, `deal.version += 1` and `_recompute_payable`. -/
def finishTradeIn (reads : Reads) (deal : Deal) : Deal :=
  recomputePayable { deal with updatedBy := reads.actorId, version := deal.version + 1 }

/-- The write of `set_trade_in`, after the deal was locked and checked again. -/
def writeTradeIn (reads : Reads) (valuations : Table Uuid Valuation) (deal : Deal)
    (vehicle : ResolvedVehicle) (vehicleLabel : String) : Deal :=
  finishTradeIn reads (recordAndAttach reads valuations deal vehicle vehicleLabel)

/-- `set_trade_in` on a deal nobody else writes meanwhile. -/
def setTradeIn (reads : Reads) (valuations : Table Uuid Valuation) (deal : Deal)
    (data : TradeInRequest) : Result Deal := do
  let vehicle ← resolveTradeIn reads deal data
  pure (writeTradeIn reads valuations deal vehicle data.vehicleLabel)

/-- `attach_trade_in_valuation` after its check. -/
def attachTradeInValuation (reads : Reads) (valuations : Table Uuid Valuation) (deal : Deal)
    (valuationId : Uuid) : Result Deal := do
  let valuation ← getValuationOr404 valuations deal.tenantId valuationId
  pure (finishTradeIn reads (attach reads deal valuationId valuation))

/-! ### The trade-in path and the price -/

theorem attach_frame (reads : Reads) (deal : Deal) (valuationId : Uuid) (valuation : Valuation) :
    attach reads deal valuationId valuation =
      { deal with toTradeIn := (attach reads deal valuationId valuation).toTradeIn } := by
  unfold attach
  cases valuation.configurationId with
  | none => rfl
  | some configurationId =>
    simp only
    split <;> rfl

theorem recordAndAttach_frame (reads : Reads) (valuations : Table Uuid Valuation) (deal : Deal)
    (vehicle : ResolvedVehicle) (vehicleLabel : String) :
    recordAndAttach reads valuations deal vehicle vehicleLabel =
      { deal with
        toTradeIn := (recordAndAttach reads valuations deal vehicle vehicleLabel).toTradeIn } := by
  unfold recordAndAttach
  simp only
  split
  · rw [attach_frame]
    rfl
  · rfl

variable {reads : Reads} {deal : Deal}

theorem finishTradeIn_coherent (h : PriceCoherent deal) (tradeIn : TradeIn) :
    PriceCoherent (finishTradeIn reads { deal with toTradeIn := tradeIn }) :=
  recomputePayable_coherent h rfl rfl rfl rfl

theorem finishTradeIn_frame (reads : Reads) (deal : Deal) :
    (finishTradeIn reads deal).toTradeIn = deal.toTradeIn ∧
      (finishTradeIn reads deal).toVehicle = deal.toVehicle ∧
      (finishTradeIn reads deal).toBuyer = deal.toBuyer ∧
      (finishTradeIn reads deal).tenantId = deal.tenantId ∧
      (finishTradeIn reads deal).grossPrice = deal.grossPrice ∧
      (finishTradeIn reads deal).version = deal.version + 1 := by
  unfold finishTradeIn recomputePayable
  split
  · exact ⟨rfl, rfl, rfl, rfl, rfl, rfl⟩
  · exact ⟨rfl, rfl, rfl, rfl, rfl, rfl⟩

variable {valuations : Table Uuid Valuation} {deal' : Deal}

theorem setTradeIn_eq_ok {data : TradeInRequest}
    (h : setTradeIn reads valuations deal data = .ok deal') :
    ∃ vehicle, resolveTradeIn reads deal data = .ok vehicle ∧
      deal' = writeTradeIn reads valuations deal vehicle data.vehicleLabel := by
  obtain ⟨vehicle, hv, h⟩ := Result.of_bind h
  cases h
  exact ⟨vehicle, hv, rfl⟩

variable {valuationId : Uuid}

theorem attachTradeInValuation_eq_ok
    (h : attachTradeInValuation reads valuations deal valuationId = .ok deal') :
    ∃ valuation, valuations.lookup valuationId = some valuation ∧
      deal' = finishTradeIn reads (attach reads deal valuationId valuation) := by
  obtain ⟨valuation, hv, h⟩ := Result.of_bind h
  cases h
  exact ⟨valuation, getValuationOr404_eq_ok hv, rfl⟩

theorem writeTradeIn_coherent (h : PriceCoherent deal) (vehicle : ResolvedVehicle)
    (vehicleLabel : String) :
    PriceCoherent (writeTradeIn reads valuations deal vehicle vehicleLabel) := by
  rw [writeTradeIn, recordAndAttach_frame]
  exact finishTradeIn_coherent h _

theorem attachTradeInValuation_coherent (hc : PriceCoherent deal)
    (h : attachTradeInValuation reads valuations deal valuationId = .ok deal') :
    PriceCoherent deal' := by
  obtain ⟨valuation, -, rfl⟩ := attachTradeInValuation_eq_ok h
  rw [attach_frame]
  exact finishTradeIn_coherent hc _

theorem writeTradeIn_frame (reads : Reads) (valuations : Table Uuid Valuation) (deal : Deal)
    (vehicle : ResolvedVehicle) (vehicleLabel : String) :
    (writeTradeIn reads valuations deal vehicle vehicleLabel).toVehicle = deal.toVehicle ∧
      (writeTradeIn reads valuations deal vehicle vehicleLabel).toBuyer = deal.toBuyer ∧
      (writeTradeIn reads valuations deal vehicle vehicleLabel).tenantId = deal.tenantId ∧
      (writeTradeIn reads valuations deal vehicle vehicleLabel).grossPrice = deal.grossPrice := by
  rw [writeTradeIn, recordAndAttach_frame]
  obtain ⟨-, h1, h2, h3, h4, -⟩ := finishTradeIn_frame reads
    { deal with
      toTradeIn := (recordAndAttach reads valuations deal vehicle vehicleLabel).toTradeIn }
  exact ⟨h1, h2, h3, h4⟩

theorem attachTradeInValuation_frame
    (h : attachTradeInValuation reads valuations deal valuationId = .ok deal') :
    deal'.toVehicle = deal.toVehicle ∧ deal'.toBuyer = deal.toBuyer ∧
      deal'.tenantId = deal.tenantId ∧ deal'.grossPrice = deal.grossPrice := by
  obtain ⟨valuation, -, rfl⟩ := attachTradeInValuation_eq_ok h
  rw [attach_frame]
  obtain ⟨-, h1, h2, h3, h4, -⟩ := finishTradeIn_frame reads
    { deal with toTradeIn := (attach reads deal valuationId valuation).toTradeIn }
  exact ⟨h1, h2, h3, h4⟩

/-! ### The recorded valuation and the recorded car -/

/-- The recorded valuation, its value and its configuration describe the
recorded trade-in car, and there is no value without a valuation. -/
def TradeInDescribes (valuations : Table Uuid Valuation) (tradeIn : TradeIn) : Prop :=
  (tradeIn.tradeInValuationId = none → tradeIn.tradeInValue = none) ∧
  ∀ valuationId, tradeIn.tradeInValuationId = some valuationId →
    ∃ valuation, valuations.lookup valuationId = some valuation ∧
      (∀ valued ∈ valuation.vehicleId, ∀ vehicle ∈ tradeIn.tradeInVehicleId, valued = vehicle) ∧
      tradeIn.tradeInValue = some valuation.finalOffer ∧
      tradeIn.tradeInConfigurationId = valuation.configurationId

/-- Attaching `valuation` to a trade-in keeps it coherent exactly when the
valuation is of the recorded car and no configuration is left behind. -/
def AttachFits (tradeIn : TradeIn) (valuation : Valuation) : Prop :=
  (∀ valued ∈ valuation.vehicleId, ∀ vehicle ∈ tradeIn.tradeInVehicleId, valued = vehicle) ∧
  (valuation.configurationId = none → tradeIn.tradeInConfigurationId = none)

instance (tradeIn : TradeIn) (valuation : Valuation) : Decidable (AttachFits tradeIn valuation) :=
  inferInstanceAs (Decidable (_ ∧ _))

theorem attach_describes {valuation : Valuation}
    (hv : valuations.lookup valuationId = some valuation) :
    TradeInDescribes valuations (attach reads deal valuationId valuation).toTradeIn ↔
      AttachFits deal.toTradeIn valuation := by
  -- every branch of `_attach` records this valuation and its offer
  have hid : (attach reads deal valuationId valuation).tradeInValuationId = some valuationId := by
    unfold attach
    cases valuation.configurationId with
    | none => rfl
    | some configurationId =>
      simp only
      split <;> rfl
  have hvalue : (attach reads deal valuationId valuation).tradeInValue
      = some valuation.finalOffer := rfl
  have hdescribes : TradeInDescribes valuations (attach reads deal valuationId valuation).toTradeIn ↔
      (∀ valued ∈ valuation.vehicleId,
        ∀ vehicle ∈ (attach reads deal valuationId valuation).tradeInVehicleId,
          valued = vehicle) ∧
      (attach reads deal valuationId valuation).tradeInConfigurationId
        = valuation.configurationId := by
    constructor
    · intro h
      obtain ⟨w, hw, h1, -, h2⟩ := h.2 valuationId hid
      have hwv : w = valuation := Option.mem_unique hw hv
      subst hwv
      exact ⟨h1, h2⟩
    · rintro ⟨h1, h2⟩
      refine ⟨fun hnone => absurd (hid.symm.trans hnone) (by simp), fun j hj => ?_⟩
      have hj' : j = valuationId := Option.mem_unique hj hid
      subst hj'
      exact ⟨valuation, hv, h1, hvalue, h2⟩
  rw [hdescribes]
  cases hcfg : valuation.configurationId with
  | none =>
    -- nothing but the id and the value is written
    simp [attach, AttachFits, hcfg]
  | some configurationId =>
    cases hveh : deal.tradeInVehicleId with
    | none =>
      -- the valued car is copied together with its configuration
      simp only [attach, AttachFits, hcfg, hveh]
      refine ⟨fun _ => ?_, fun _ => ⟨?_, ?_⟩⟩
      · simp
      · intro valued h1 vehicle h2
        exact Option.mem_unique h1 h2
      · simp
    | some vehicle => simp [attach, AttachFits, hcfg, hveh]

/-- Recording `vehicle` keeps the trade-in coherent exactly when a valid
valuation of it is attached that leaves no configuration behind, or there is
none and the recorded valuation, if any, is not another car's. -/
def RecordFits (valuations : Table Uuid Valuation) (now : Time) (deal : Deal)
    (vehicle : ResolvedVehicle) : Prop :=
  match listValidValuationsForVehicle valuations deal.tenantId vehicle.id now with
  | (_, valuation) :: _ => valuation.configurationId = none → deal.tradeInConfigurationId = none
  | [] => ∀ valuationId ∈ deal.tradeInValuationId, ∀ valuation ∈ valuations.lookup valuationId,
      ∀ valued ∈ valuation.vehicleId, valued = vehicle.id

instance (valuations : Table Uuid Valuation) (now : Time) (deal : Deal)
    (vehicle : ResolvedVehicle) : Decidable (RecordFits valuations now deal vehicle) := by
  unfold RecordFits
  split <;> infer_instance

theorem record_describes {vehicle : ResolvedVehicle} {vehicleLabel : String}
    (hd : TradeInDescribes valuations deal.toTradeIn) : TradeInDescribes valuations
        (recordAndAttach reads valuations deal vehicle vehicleLabel).toTradeIn ↔
      RecordFits valuations reads.now deal vehicle := by
  unfold recordAndAttach RecordFits
  have htenant : (recordTradeIn deal vehicle vehicleLabel).tenantId = deal.tenantId := rfl
  simp only [htenant]
  cases hlist : listValidValuationsForVehicle valuations deal.tenantId vehicle.id reads.now with
  | cons head tail =>
    obtain ⟨valuationId, valuation⟩ := head
    -- the newest valid valuation is one of this very car
    obtain ⟨hv, hcar⟩ := mem_listValidValuationsForVehicle
      (show (valuationId, valuation) ∈ _ by rw [hlist]; exact List.mem_cons_self)
    rw [attach_describes hv]
    have hsame : ∀ valued ∈ valuation.vehicleId,
        ∀ v ∈ (recordTradeIn deal vehicle vehicleLabel).tradeInVehicleId, valued = v := by
      intro valued h1 v h2
      rw [hcar] at h1
      exact Option.mem_unique h1 h2
    exact ⟨fun h => h.2, fun h => ⟨hsame, h⟩⟩
  | nil =>
    constructor
    · intro h valuationId hid valuation hval valued hcar
      obtain ⟨w, hw, hveh, -, -⟩ := h.2 valuationId hid
      have hwv : w = valuation := Option.mem_unique hw hval
      subst hwv
      exact hveh valued hcar vehicle.id rfl
    · intro h
      refine ⟨hd.1, fun valuationId hid => ?_⟩
      obtain ⟨w, hw, -, hvalue, hcfg⟩ := hd.2 valuationId hid
      refine ⟨w, hw, fun valued hcar v hrec => ?_, hvalue, hcfg⟩
      have hv : vehicle.id = v := Option.some.inj hrec
      rw [← hv]
      exact h valuationId hid w hw valued hcar

end Nexotec
