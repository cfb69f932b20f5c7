/-
What is published and what is transmitted (`compute_blocking_conditions`,
`_build_listing`, `_field_row` of the AutoScout24 adapter).

The gate before a publication reads the stock item; the validator before a transmission
reads the listing that is built from it.
-/
import Nexotec.Inventory.StockItem

namespace Nexotec.Listing

/-! ### The gate -/

structure BlockingCondition where
  field : String
  message : String
  deriving DecidableEq

/-- What the gate reads beside the item. -/
structure Reads where
  hasMedia : Bool
  hasCurrentEnergyRating : Uuid → Result Bool

def newCarEnergyLabelOdometerThresholdKm : ℤ := 2000

/-- `not value` of a text column. -/
def isEmpty (value : Option String) : Bool := value.getD "" == ""

/-- The last of the conditions; the vehicle is read only for a new car with few
kilometres. -/
def energyLabelMissing (reads : Reads) (item : StockItem) : Result Bool :=
  match item.odometerKm, item.vehicleId with
  | some km, some vehicleId =>
    if item.condition = .new ∧ km < newCarEnergyLabelOdometerThresholdKm then
      (reads.hasCurrentEnergyRating vehicleId).map (!·)
    else .ok false
  | _, _ => .ok false

def computeBlockingConditions (reads : Reads) (item : StockItem) : Result (List BlockingCondition) :=
  (energyLabelMissing reads item).map fun energyLabelMissing =>
    (if item.lifecycleStatus = .pipeline then
      [⟨"Lagerstatus", "Eine Werksbestellung steht noch nicht am Lager."⟩] else []) ++
    (if reads.hasMedia then [] else [⟨"Bilder", "Keine eigenen Fotografien vorhanden."⟩]) ++
    (if item.effectivePrice = none then [⟨"Preis", "Kein Effektivpreis hinterlegt."⟩] else []) ++
    (if isEmpty item.exteriorColour then [⟨"Aussenfarbe", "Keine Farbe hinterlegt."⟩] else []) ++
    (if isEmpty item.bodyStyle then [⟨"Aufbau", "Keine Karosserieform hinterlegt."⟩] else []) ++
    (if item.odometerKm = none then [⟨"Kilometer", "Kein Kilometerstand hinterlegt."⟩] else []) ++
    (if item.condition ≠ .new ∧ item.firstRegistrationDate = none then
      [⟨"InvSetzJahr", "Keine Erstzulassung hinterlegt."⟩] else []) ++
    (if energyLabelMissing then
      [⟨"Energieetikette", "Energieetikette fehlt für Neuwagen unter 2000 km."⟩] else [])

/-- The facts of the item that the gate and the validator both look at. -/
structure Passes (item : StockItem) : Prop where
  bodyStyle : isEmpty item.bodyStyle = false
  exteriorColour : isEmpty item.exteriorColour = false
  odometerKm : item.odometerKm ≠ none
  firstRegistrationDate : item.condition ≠ .new → item.firstRegistrationDate ≠ none

variable {reads : Reads} {item : StockItem}

theorem passes_of_gate (h : computeBlockingConditions reads item = .ok []) : Passes item := by
  obtain ⟨missing, -, hnil⟩ := Result.map_eq_ok.mp h
  simp only [List.append_eq_nil_iff, ite_eq_right_iff, reduceCtorEq, imp_false] at hnil
  obtain ⟨⟨⟨⟨⟨-, hcolour⟩, hbody⟩, hodometer⟩, hdate⟩, -⟩ := hnil
  exact ⟨by simpa using hbody, by simpa using hcolour, hodometer,
    fun hcondition hnone => hdate ⟨hcondition, hnone⟩⟩

/-! ### The listing -/

structure MarketplaceListing where
  stockItemId : Uuid
  make : String
  model : String
  bodyStyle : Option String
  condition : String
  exteriorColour : String
  odometerKm : Option ℤ
  price : Decimal
  firstRegistrationDate : Option Date
  modelYear : Option ℤ
  imageUrls : List String := []

def resolvePrice (item : StockItem) : Decimal :=
  match item.effectivePrice, item.listPrice with
  | some price, _ => price
  | none, some price => price
  | none, none => 0

/-- `label.partition(" ")`, without the separator. -/
def partitionLabel (label : String) : String × String :=
  let (make, rest) := label.toList.span (· ≠ ' ')
  (String.ofList make, String.ofList (rest.drop 1))

def buildListing (id : Uuid) (item : StockItem) : MarketplaceListing where
  stockItemId := id
  make := (partitionLabel item.vehicleLabel).1
  model := (partitionLabel item.vehicleLabel).2
  bodyStyle := item.bodyStyle
  condition := item.condition.value
  exteriorColour := item.exteriorColour.getD ""
  odometerKm := item.odometerKm
  price := resolvePrice item
  firstRegistrationDate := item.firstRegistrationDate
  modelYear := none

/-! ### The validator -/

structure MarketplaceListingError where
  stockItemId : Uuid
  field : String
  message : String

/-- `str(exc)` -/
def MarketplaceListingError.text (exc : MarketplaceListingError) : String :=
  s!"{exc.stockItemId}: {exc.field}: {exc.message}"

def fahrzeugartByCondition : List (String × String) :=
  [("new", "Neu"), ("used", "Occasion"), ("demo", "Vorführmodell"), ("tagesz", "Tageszulassung")]

def sanitise (value : String) : String :=
  String.ofList (value.toList.map fun c =>
    if c = ';' then ',' else if c = '\r' ∨ c = '\n' then ' ' else c)

/-- The day of the first registration, or the model year of a new car. -/
inductive InvSetzJahr where
  | date (firstRegistrationDate : Date)
  | year (modelYear : ℤ)

/-- A line of the feed file, in the order of `_FIELD_ORDER`. -/
structure FieldRow where
  kundennummer : String
  fahrzeugNr : Uuid
  vehicleType : String := "10"
  marke : String
  typ : String
  aufbau : String
  aussenfarbe : String
  fahrzeugart : String
  invSetzJahr : InvSetzJahr
  kilometer : ℤ
  preis : Decimal
  ausstattung : String := ""

def invSetzJahr (listing : MarketplaceListing) : Option InvSetzJahr :=
  match listing.firstRegistrationDate with
  | some date => some (.date date)
  | none => if listing.condition = "new" then listing.modelYear.map .year else none

def fieldRow (kundennummer : String) (listing : MarketplaceListing) :
    Except MarketplaceListingError FieldRow :=
  if kundennummer = "" then
    .error ⟨listing.stockItemId, "Kundennummer", "Connection has no config.kundennummer set."⟩
  else if isEmpty listing.bodyStyle then
    .error ⟨listing.stockItemId, "Aufbau", "Aufbau is required."⟩
  else if listing.exteriorColour = "" then
    .error ⟨listing.stockItemId, "Aussenfarbe", "Aussenfarbe is required."⟩
  else
    match listing.odometerKm with
    | none => .error ⟨listing.stockItemId, "Kilometer", "Kilometer is required."⟩
    | some odometerKm =>
      match fahrzeugartByCondition.lookup listing.condition with
      | none =>
        .error ⟨listing.stockItemId, "Fahrzeugart",
          s!"No AS24i Fahrzeugart mapping for condition '{listing.condition}'."⟩
      | some fahrzeugart =>
        match invSetzJahr listing with
        | none =>
          .error ⟨listing.stockItemId, "InvSetzJahr",
            "InvSetzJahr is required — no first_registration_date and no model_year available."⟩
        | some invSetzJahr =>
          .ok {
            kundennummer := kundennummer
            fahrzeugNr := listing.stockItemId
            marke := sanitise listing.make
            typ := sanitise listing.model
            aufbau := sanitise (listing.bodyStyle.getD "")
            aussenfarbe := sanitise listing.exteriorColour
            fahrzeugart := fahrzeugart
            invSetzJahr := invSetzJahr
            kilometer := odometerKm
            preis := listing.price }

def validateListing (kundennummer : String) (listing : MarketplaceListing) :
    Except MarketplaceListingError Unit :=
  (fieldRow kundennummer listing).map fun _ => ()

variable {kundennummer : String} {listing : MarketplaceListing}

theorem fahrzeugNr_of_fieldRow {row : FieldRow} (h : fieldRow kundennummer listing = .ok row) :
    row.fahrzeugNr = listing.stockItemId := by
  unfold fieldRow at h
  repeat' split at h
  all_goals cases h
  rfl

/-- The facts the validator asks of a listing. -/
theorem fieldRow_isOk_iff : (∃ row, fieldRow kundennummer listing = .ok row) ↔
      kundennummer ≠ "" ∧ isEmpty listing.bodyStyle = false ∧ listing.exteriorColour ≠ "" ∧
        listing.odometerKm ≠ none ∧ fahrzeugartByCondition.lookup listing.condition ≠ none ∧
        invSetzJahr listing ≠ none := by
  unfold fieldRow
  repeat' split
  all_goals simp_all [-List.lookup_eq_none_iff]

theorem fahrzeugart_ne_none (condition : StockItemCondition) :
    fahrzeugartByCondition.lookup condition.value ≠ none := by
  cases condition <;> decide

/-- The listing of an item passes for a dealership with a customer number. -/
def Valid (kundennummer : String) (id : Uuid) (item : StockItem) : Prop :=
  ∃ row, fieldRow kundennummer (buildListing id item) = .ok row

theorem valid_iff {id : Uuid} (hk : kundennummer ≠ "") : Valid kundennummer id item ↔
      isEmpty item.bodyStyle = false ∧ isEmpty item.exteriorColour = false ∧
        item.odometerKm ≠ none ∧ item.firstRegistrationDate ≠ none := by
  have hdate : invSetzJahr (buildListing id item) ≠ none ↔ item.firstRegistrationDate ≠ none := by
    unfold invSetzJahr
    cases hfirst : item.firstRegistrationDate with
    | none => simp [buildListing, hfirst]
    | some date => simp [buildListing, hfirst]
  have hcolour : (buildListing id item).exteriorColour ≠ "" ↔
      isEmpty item.exteriorColour = false := by
    simp [buildListing, isEmpty]
  have hcondition := fahrzeugart_ne_none item.condition
  rw [Valid, fieldRow_isOk_iff, hdate, hcolour]
  constructor
  · rintro ⟨-, hbody, hcolour, hodometer, -, hfirst⟩
    exact ⟨hbody, hcolour, hodometer, hfirst⟩
  · rintro ⟨hbody, hcolour, hodometer, hfirst⟩
    exact ⟨hk, hbody, hcolour, hodometer, hcondition, hfirst⟩

/-- A new car that has not been registered: the gate lets it through on its model year,
which no listing has. -/
def NewUnregistered (item : StockItem) : Prop :=
  item.condition = .new ∧ item.firstRegistrationDate = none

instance (item : StockItem) : Decidable (NewUnregistered item) :=
  inferInstanceAs (Decidable (_ ∧ _))

/-- What passes the gate passes the validator, but for a new car without a first registration. -/
theorem gate_isOk_iff (id : Uuid) (hk : kundennummer ≠ "")
    (hgate : computeBlockingConditions reads item = .ok []) :
    Valid kundennummer id item ↔ ¬ NewUnregistered item := by
  have hpasses := passes_of_gate hgate
  rw [valid_iff hk]
  constructor
  · rintro ⟨-, -, -, hfirst⟩ ⟨-, hnone⟩
    exact hfirst hnone
  · intro hregistered
    refine ⟨hpasses.bodyStyle, hpasses.exteriorColour, hpasses.odometerKm, fun hnone => ?_⟩
    by_cases hnew : item.condition = .new
    · exact hregistered ⟨hnew, hnone⟩
    · exact hpasses.firstRegistrationDate hnew hnone

end Nexotec.Listing
