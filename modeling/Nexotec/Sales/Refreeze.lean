/-
The seller's edits of factory-option lines when a configuration has a new version
(`app/sales/services/snapshot.py`, `app/vehicle/services/configuration_host.py`).

A freeze of the new version writes all factory-option lines anew, and copies onto each the
edit it finds under its code (or kind) and the first 200 characters of its label.

* `priceLines`, `replaceOptions` — what a configuration hands to the freeze.
-/
import Nexotec.Sales.LineReplacement
import Nexotec.Sales.UsedDiscounts

namespace Nexotec

open KeyedRows Rounding
open scoped List

/-! ### The price lines of a configuration -/

/-- `ConfigurationOptionInput`. -/
structure ConfigurationOptionInput where
  description : String
  variantOptionId : Option Uuid := none
  optionCode : Option String := none
  optionGroup : Option String := none
  price : Option Decimal := none
  isIncluded : Bool := false
  isPackage : Bool := false
  selected : Bool := true
  equipmentFeatures : List String := []

/-- `VehicleConfigurationOption`. -/
structure VehicleConfigurationOption extends ConfigurationOptionInput where
  id : Uuid
  sequence : ℕ

/-- `VehicleConfiguration`, as far as a host reads it. -/
structure VehicleConfiguration where
  id : Uuid
  version : ℕ := 1
  mode : String := "build"
  label : String := ""
  basePrice : Option Decimal := none
  basePriceYear : Option ℕ := none
  options : List VehicleConfigurationOption := []
  exteriorColour : Option String := none
  exteriorColourSurcharge : Option Decimal := none
  interiorColour : Option String := none
  interiorColourSurcharge : Option Decimal := none
  wheels : Option String := none
  wheelsSurcharge : Option Decimal := none
  spec : List (String × String) := []
  updatedBy : Option Uuid := none

/-- The line of an option, where it is selected, priced and not included. -/
def optionLine (o : ConfigurationOptionInput) : Option ConfigurationPriceLine :=
  if o.selected ∧ ¬ o.isIncluded then
    o.price.map fun price => ⟨"option", o.optionCode, o.description, price⟩
  else none

/-- A surcharge line, where there is a name and a price other than zero. -/
def surchargeLine (kind : String) (label : Option String) (price : Option Decimal) :
    Option ConfigurationPriceLine :=
  match price with
  | none => none
  | some price =>
    if price ≠ 0 ∧ orText label "" ≠ "" then some ⟨kind, none, orText label "", price⟩ else none

def surchargeLines (configuration : VehicleConfiguration) : List ConfigurationPriceLine :=
  [surchargeLine "exterior_colour" configuration.exteriorColour
      configuration.exteriorColourSurcharge,
    surchargeLine "interior_colour" configuration.interiorColour
      configuration.interiorColourSurcharge,
    surchargeLine "wheels" configuration.wheels configuration.wheelsSurcharge].filterMap id

def priceLines (configuration : VehicleConfiguration) : List ConfigurationPriceLine :=
  if configuration.mode ≠ "build" then []
  else
    let inOrder := configuration.options.mergeSort fun o p =>
      decide (o.sequence < p.sequence ∨ (o.sequence = p.sequence ∧ o.id ≤ p.id))
    inOrder.filterMap (fun o => optionLine o.toConfigurationOptionInput) ++
      surchargeLines configuration

deriving instance DecidableEq for ConfigurationPriceLine

attribute [ext] ConfigurationPriceLine

deriving instance DecidableEq for HostConfiguration

deriving instance DecidableEq for SellerEdit

/-! ### The lineage of a deal -/

/-- A deal, and the configuration its factory-option lines were frozen from, if that is
what they were frozen from. -/
structure Lineage where
  deal : Deal
  frozen : Option HostConfiguration := none

/-- What happens to a deal: an edit of its lines or its trade-in, a PATCH, one that gives
a contract its buyer alone, a copy of the offer, and the contract made from it. -/
inductive LineageStep where
  | edit (valuations : Table Uuid Valuation) (edit : Edit)
  | giveBuyer (buyer : Buyer)
  | patch (buyer : Buyer) (owner : Owner) (changes : DealChanges) (host : String)
  | copy
  | contract (tenantId offerId : Uuid) (offer : SalesOffer)

/-- The freeze and the build-up; a deal that is frozen anew has what it is frozen from. -/
def repriceLineage (reads : Reads) (frozen : Option HostConfiguration) (deal : Deal) :
    Result Lineage := do
  let configuration ← frozenConfiguration reads deal
  let priced ← repriceDeal reads deal
  pure { deal := priced, frozen := if refreezes deal configuration then configuration else frozen }

def LineageStep.run (reads : Reads) (s : Lineage) : LineageStep → Result Lineage
  | .edit valuations change => do
    let deal ← change.run reads valuations s.deal
    pure { s with deal := deal }
  | .giveBuyer buyer =>
    pure { s with deal := { s.deal with
      toBuyer := buyer, updatedBy := reads.actorId, version := s.deal.version + 1 } }
  | .patch buyer owner changes host => do
    let patched ← patchDeal reads { s.deal with toBuyer := buyer, toOwner := owner } changes host
    repriceLineage reads s.frozen patched
  | .copy => repriceLineage reads none (copiedDeal reads s.deal)
  | .contract tenantId offerId offer =>
    let source : SalesOffer := { offer with toDeal := s.deal }
    pure { s with deal := (contractFromOffer reads tenantId offerId source).toDeal }

/-- A step and its commit: columns are rounded, and a line id that is taken refuses. -/
def nextLineage (s : Lineage) (a : ColumnReads × LineageStep) : Lineage :=
  match a.2.run a.1 s with
  | .ok s' =>
    if (s'.deal.lines.map (·.id)).Nodup then { s' with deal := s'.deal.stored } else s
  | .error _ => s

/-! ### Lines and their edits -/

def lineKey (line : ConfigurationPriceLine) : String × String :=
  (orText line.code line.kind, (line.label.take 200).toString)

/-- The line item of a price line. -/
structure RowOf (line : ConfigurationPriceLine) (li : LineItem) : Prop where
  key : (li.code, li.label) = lineKey line
  unitPrice : li.unitPrice = line.price
  quantity : li.quantity = 1

/-- The identity the snapshot of a configuration carries. -/
def configurationIdentity (configuration : HostConfiguration) : String :=
  s!"configuration:{configuration.id}:{configuration.version}"

/-- The factory-option lines of the deal are the price lines of the configuration, in
order, and its snapshot says so. -/
structure FrozenFrom (configuration : HostConfiguration) (deal : Deal) : Prop where
  configurationId : deal.vehicleSnapshot.bind (·.configurationId) = some configuration.id
  identity : deal.vehicleSnapshot.map (·.identity) = some (configurationIdentity configuration)
  frozenAt : deal.vehicleSnapshotFrozenAt.isSome = true
  rows : List.Forall₂ RowOf configuration.priceLines (factoryRows deal)
  positions : (factoryRows deal).map (·.position) =
    List.range' 0 configuration.priceLines.length
  prices : ∀ line ∈ configuration.priceLines, Cents line.price

variable {row : LineItem}

variable {li : LineItem}

section

variable {reads : Reads} {deal deal' : Deal} {configuration : HostConfiguration}
  {lines options : List LineItem}

variable {froze : Bool}

end

section Steps

variable {reads : Reads} {deal deal' : Deal} {configuration : HostConfiguration}

theorem FrozenFrom.of_eq (h : FrozenFrom configuration deal)
    (hsnapshot : deal'.vehicleSnapshot = deal.vehicleSnapshot)
    (hfrozenAt : deal'.vehicleSnapshotFrozenAt = deal.vehicleSnapshotFrozenAt)
    (hlines : deal'.lines = deal.lines) : FrozenFrom configuration deal' where
  configurationId := by rw [hsnapshot, h.configurationId]
  identity := by rw [hsnapshot, h.identity]
  frozenAt := by rw [hfrozenAt, h.frozenAt]
  rows := by
    unfold factoryRows
    rw [hlines]
    exact h.rows
  positions := by
    unfold factoryRows
    rw [hlines]
    exact h.positions
  prices := h.prices

variable {data : LineItemsReplaceRequest}

theorem FrozenFrom.replaceLineItems (hfrozen : FrozenFrom configuration deal)
    (hids : (deal.lines.map (·.id)).Nodup) (hids' : (deal'.lines.map (·.id)).Nodup)
    (h : replaceLineItems reads deal data = .ok deal') : FrozenFrom configuration deal' := by
  obtain ⟨hvehicle, -⟩ := replaceLineItems_frame h
  obtain ⟨written, hfold, hpatches⟩ := replaceLineItems_loops h
  have hwritten : (written.map (·.id)).Nodup := ids_patches hpatches ▸ hids'
  have hpatched := factoryRows_fold hwritten
    (factoryOptions_fold hids filter_factoryOption_keptLines hfold) hpatches
  have hrows : List.Forall₂ (SameOption (data.factoryOptions.map (·.id))) (factoryRows deal)
      (factoryRows deal') :=
    forall₂_of_keys (hids.sublist (List.filter_sublist.map _)) hpatched.optionIds
      fun li' hli' =>
        let ⟨li, hli, hsame⟩ := hpatched.options li' hli'
        ⟨li, hli, hsame.id, hsame⟩
  refine ⟨?_, ?_, ?_, ?_, ?_, hfrozen.prices⟩
  · rw [show deal'.vehicleSnapshot = deal.vehicleSnapshot from congrArg (·.vehicleSnapshot) hvehicle]
    exact hfrozen.configurationId
  · rw [show deal'.vehicleSnapshot = deal.vehicleSnapshot from congrArg (·.vehicleSnapshot) hvehicle]
    exact hfrozen.identity
  · rw [show deal'.vehicleSnapshotFrozenAt = deal.vehicleSnapshotFrozenAt from
      congrArg (·.vehicleSnapshotFrozenAt) hvehicle]
    exact hfrozen.frozenAt
  · refine forall₂_trans hfrozen.rows hrows fun line li li' hrow hsame => ⟨?_, ?_, ?_⟩
    · rw [hsame.code, hsame.label]
      exact hrow.key
    · exact hsame.unitPrice.trans hrow.unitPrice
    · exact hsame.quantity.trans hrow.quantity
  · rw [map_eq_of_forall₂ hrows fun li li' hsame => hsame.position]
    exact hfrozen.positions

theorem forall₂_copyLineItems (reads : Reads) (lines : List LineItem) :
    List.Forall₂ (fun li li' => ∃ id, li' = { li with id := id }) lines
      (copyLineItems reads lines) := by
  unfold copyLineItems
  rw [List.forall₂_map_right_iff]
  have hpairs : List.Forall₂ (fun li (p : LineItem × ℕ) =>
      ∃ id, { p.1 with id := reads.uuid p.2 } = { li with id := id })
      (lines.zipIdx.map Prod.fst) lines.zipIdx := by
    rw [List.forall₂_map_left_iff]
    exact List.forall₂_same.mpr fun p _ => ⟨_, rfl⟩
  rwa [List.zipIdx_map_fst] at hpairs

theorem FrozenFrom.contract (h : FrozenFrom configuration deal) (reads : Reads)
    (tenantId offerId : Uuid) (offer : SalesOffer) : FrozenFrom configuration
      (contractFromOffer reads tenantId offerId { offer with toDeal := deal }).toDeal := by
  have hrows : List.Forall₂ (fun li li' => ∃ id, li' = { li with id := id }) (factoryRows deal)
      (factoryRows
        (contractFromOffer reads tenantId offerId { offer with toDeal := deal }).toDeal) := by
    refine List.rel_filter (fun li li' hsame => ?_) (forall₂_copyLineItems reads deal.lines)
    obtain ⟨id, rfl⟩ := hsame
    exact Iff.rfl
  refine ⟨h.configurationId, h.identity, h.frozenAt, ?_, ?_, h.prices⟩
  · refine forall₂_trans h.rows hrows fun line li li' hrow hsame => ?_
    obtain ⟨id, rfl⟩ := hsame
    exact ⟨hrow.key, hrow.unitPrice, hrow.quantity⟩
  · rw [map_eq_of_forall₂ hrows fun li li' hsame => ?_]
    · exact h.positions
    · obtain ⟨id, rfl⟩ := hsame
      rfl

variable {s' : Lineage}

variable {s : Lineage}

theorem FrozenFrom.stored (h : FrozenFrom configuration deal) :
    FrozenFrom configuration deal.stored := by
  have hrows : factoryRows deal.stored = (factoryRows deal).map LineItem.stored :=
    filter_map_stored (fun _ => rfl) _
  refine ⟨h.configurationId, h.identity, h.frozenAt, ?_, ?_, h.prices⟩
  · rw [hrows, List.forall₂_map_right_iff]
    refine ((List.forall₂_and_left _ _).mpr ⟨h.prices, h.rows⟩).imp fun line li hrow => ?_
    refine ⟨hrow.2.key, ?_, hrow.2.quantity⟩
    change column li.unitPrice = line.price
    rw [hrow.2.unitPrice]
    exact column_of_cents hrow.1
  · rw [hrows, List.map_map]
    exact h.positions

end Steps

/-! ### Deals of the tables -/

def HasLineage (deal : Deal) : Prop :=
  ∃ (start : Deal) (steps : List (ColumnReads × LineageStep)),
    start.lines = [] ∧ (steps.foldl nextLineage { deal := start }).deal = deal

section

variable {reads : ColumnReads} {db db' : SalesDb} {request : Request} {deal deal' : Deal}

theorem hasLineage_of_no_lines (h : deal.lines = []) : HasLineage deal :=
  ⟨deal, [], h, rfl⟩

theorem nextLineage_of_ok {s s' : Lineage} {step : LineageStep}
    (h : step.run reads s = .ok s') (hids : (s'.deal.lines.map (·.id)).Nodup) :
    nextLineage s (reads, step) = { s' with deal := s'.deal.stored } := by
  unfold nextLineage
  rw [h]
  exact if_pos hids

theorem HasLineage.step (h : HasLineage deal) {step : LineageStep}
    (hrun : ∀ frozen, ∃ s', step.run reads ⟨deal, frozen⟩ = .ok s' ∧ s'.deal = deal')
    (hids : (deal'.lines.map (·.id)).Nodup) : HasLineage deal'.stored := by
  obtain ⟨start, steps, hstart, rfl⟩ := h
  obtain ⟨s', hs', rfl⟩ := hrun (steps.foldl nextLineage { deal := start }).frozen
  refine ⟨start, steps ++ [(reads, step)], hstart, ?_⟩
  rw [List.foldl_append, List.foldl_cons, List.foldl_nil, nextLineage_of_ok hs' hids]

theorem repriceLineage_of_ok (frozen : Option HostConfiguration)
    (h : repriceDeal reads deal = .ok deal') :
    ∃ s', repriceLineage reads frozen deal = .ok s' ∧ s'.deal = deal' := by
  obtain ⟨⟨frozenDeal, froze⟩, hfreeze, -⟩ := Result.of_bind h
  obtain ⟨configuration, hc, -⟩ := Result.of_bind hfreeze
  unfold repriceLineage
  rw [hc, h]
  exact ⟨_, rfl, rfl⟩

theorem HasLineage.patch (h : HasLineage deal) {buyer : Buyer} {owner : Owner}
    {changes : DealChanges} {host : String}
    (hpatch : applyVehicleAndPricingChanges reads { deal with toBuyer := buyer, toOwner := owner }
      changes host = .ok deal')
    (hids : (deal'.lines.map (·.id)).Nodup) : HasLineage deal'.stored := by
  obtain ⟨patched, hpatched, hreprice⟩ := applyVehicleAndPricingChanges_eq_ok hpatch
  have hrun : ∀ frozen, ∃ s',
      (LineageStep.patch buyer owner changes host).run reads ⟨deal, frozen⟩ = .ok s' ∧
        s'.deal = deal' := by
    intro frozen
    obtain ⟨s', hs', hdeal⟩ := repriceLineage_of_ok frozen hreprice
    refine ⟨s', ?_, hdeal⟩
    unfold LineageStep.run
    dsimp only
    rw [hpatched]
    exact hs'
  exact h.step hrun hids

theorem HasLineage.edit (h : HasLineage deal) {valuations : Table Uuid Valuation} {edit : Edit}
    (hedit : edit.run reads valuations deal = .ok deal')
    (hids : (deal'.lines.map (·.id)).Nodup) : HasLineage deal'.stored := by
  have hrun : ∀ frozen, ∃ s',
      (LineageStep.edit valuations edit).run reads ⟨deal, frozen⟩ = .ok s' ∧ s'.deal = deal' := by
    intro frozen
    unfold LineageStep.run
    dsimp only
    rw [hedit]
    exact ⟨_, rfl, rfl⟩
  exact h.step hrun hids

/-- The rows of offers and contracts have lineages. -/
structure Lineages (db : SalesDb) : Prop where
  offers : ∀ id offer, db.offers.lookup id = some offer → HasLineage offer.toDeal
  contracts : ∀ id contract, db.contracts.lookup id = some contract → HasLineage contract.toDeal

theorem hasLineage_createContract (hdb : Lineages db) {tenantId : Uuid} {data : ContractCreate}
    {contract : SalesContract} (h : createContract reads db tenantId data = .ok contract)
    (hids : (contract.lines.map (·.id)).Nodup) : HasLineage contract.toDeal.stored := by
  rcases createContract_eq_ok h with ⟨offerId, offer, -, hoffer, rfl⟩ | ⟨buyer, rfl⟩ |
    ⟨deal, stockItemId, vehicleLabel, rfl, hdeal⟩
  · have hrun : ∀ frozen, ∃ s',
        (LineageStep.contract tenantId offerId offer).run reads ⟨offer.toDeal, frozen⟩ = .ok s' ∧
          s'.deal = (contractFromOffer reads tenantId offerId offer).toDeal :=
      fun frozen => ⟨_, rfl, rfl⟩
    exact (hdb.offers offerId offer hoffer).step hrun hids
  · exact hasLineage_of_no_lines rfl
  · have hstart : HasLineage (directContract reads tenantId {}).toDeal :=
      hasLineage_of_no_lines rfl
    exact hstart.patch hdeal hids

theorem lineages_handleKeyed (hkeyed : KeyedTables db) (hdb : Lineages db)
    (h : handleKeyed reads db request = .ok db') : Lineages db' := by
  have hkeyed' := keyedTables_of_ok h
  obtain ⟨written, hwritten, hstore, -⟩ := handleKeyed_eq_ok h
  constructor
  · intro id offer' hrow
    have hstored := hkeyed'.offer_ids hrow
    obtain ⟨row, hlookup, rfl⟩ := lookup_storedOffer hstore hrow
    have hids : (row.lines.map (·.id)).Nodup := map_id_stored row.lines ▸ hstored
    change HasLineage row.toDeal.stored
    rcases offer_cases hwritten hlookup with hold | ⟨tenantId, rfl⟩ |
      ⟨sourceId, source, hsource, hcopy⟩ |
      ⟨tenantId, ifMatch, data, offer, rfl, hoffer, hupdate⟩ |
      ⟨tenantId, ifMatch, edit, offer, deal, rfl, hoffer, hedit, rfl⟩
    · have hsame : row.toDeal.stored = row.toDeal :=
        congrArg SalesOffer.toDeal (hkeyed.offers id row hold)
      rw [hsame]
      exact hdb.offers id row hold
    · exact hasLineage_of_no_lines rfl
    · have hrun : ∀ frozen, ∃ s', LineageStep.copy.run reads ⟨source.toDeal, frozen⟩ = .ok s' ∧
          s'.deal = row.toDeal :=
        fun _ => repriceLineage_of_ok none (copyOffer_eq_ok hcopy)
      exact (hdb.offers sourceId source hsource).step hrun hids
    · obtain ⟨buyer, owner, hdeal⟩ := updateOffer_eq_ok hupdate
      exact (hdb.offers id offer hoffer).patch hdeal hids
    · exact (hdb.offers id offer hoffer).edit hedit hids
  · intro id contract' hrow
    have hstored := hkeyed'.contract_ids hrow
    obtain ⟨row, hlookup, rfl⟩ := lookup_storedContract hstore hrow
    have hids : (row.lines.map (·.id)).Nodup := map_id_stored row.lines ▸ hstored
    change HasLineage row.toDeal.stored
    rcases contract_cases hwritten hlookup with hold | ⟨tenantId, data, rfl, hcreate⟩ |
      ⟨tenantId, ifMatch, data, contract, rfl, hcontract, hupdate⟩ |
      ⟨tenantId, ifMatch, edit, contract, deal, rfl, hcontract, -, hedit, rfl⟩
    · have hsame : row.toDeal.stored = row.toDeal :=
        congrArg SalesContract.toDeal (hkeyed.contracts id row hold)
      rw [hsame]
      exact hdb.contracts id row hold
    · exact hasLineage_createContract hdb hcreate hids
    · obtain ⟨-, ⟨buyer, rfl⟩ | ⟨buyer, owner, deal, rfl, hdeal⟩⟩ := updateContract_eq_ok hupdate
      · have hrun : ∀ frozen, ∃ s',
            (LineageStep.giveBuyer buyer).run reads ⟨contract.toDeal, frozen⟩ = .ok s' ∧
              s'.deal = { contract.toDeal with
                toBuyer := buyer, updatedBy := reads.1.actorId, version := contract.version + 1 } :=
          fun frozen => ⟨_, rfl, rfl⟩
        exact (hdb.contracts id contract hcontract).step hrun hids
      · exact (hdb.contracts id contract hcontract).patch hdeal hids
    · exact (hdb.contracts id contract hcontract).edit hedit hids

/-- Every deal in the tables of a run has a lineage. -/
theorem lineages_run (valuations : Table Uuid Valuation) (requests : List (ColumnReads × Request)) :
    Lineages (requests.foldl nextKeyed (noDeals valuations)) := by
  have hstep : ∀ (db : SalesDb) (a : ColumnReads × Request), KeyedTables db ∧ Lineages db →
      KeyedTables (nextKeyed db a) ∧ Lineages (nextKeyed db a) := by
    intro db a hdb
    unfold nextKeyed
    cases h : handleKeyed a.1 db a.2 with
    | error e => exact hdb
    | ok db' => exact ⟨keyedTables_of_ok h, lineages_handleKeyed hdb.1 hdb.2 h⟩
  have hempty : Lineages (noDeals valuations) := ⟨Table.forall_empty, Table.forall_empty⟩
  exact (Run.invariant hstep ⟨keyedTables_run valuations [], hempty⟩ requests).2

end

section Version

variable {reads : Reads} {deal deal' : Deal} {former current : HostConfiguration}

variable {lines : List ConfigurationPriceLine}

variable {j : ℕ} {line : ConfigurationPriceLine}

end Version

def golf : VehicleConfiguration where
  id := 7
  label := "Golf"
  basePrice := some 30000

end Nexotec
