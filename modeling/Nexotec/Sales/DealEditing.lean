/-
The vehicle-and-price edit an offer draft and a pending contract share
(`app/sales/services/deal_editing.py`), with the snapshot freeze it runs
(`app/sales/services/snapshot.py`).

`applyVehicleAndPricingChanges` is a patch of the plain columns (`patchDeal`)
followed by the freeze and the build-up (`repriceDeal`).  The build-up runs
only when the deal has a snapshot, so the specification splits there
(`reprice_with_snapshot`, `reprice_without_snapshot`).

`applyVehicleAndPricingChanges_frame` says which columns the edit never
touches.
-/
import Nexotec.Sales.Pricing

namespace Nexotec

/-! ### The snapshot freeze -/

/-- `text or fallback`: an empty text falls back too. -/
def orText (text : Option String) (fallback : String) : String :=
  (text.filter (· ≠ "")).getD fallback

/-- `_SellerEdit`: what a seller may have done to a factory-option line. -/
structure SellerEdit where
  included : Bool
  discountType : Option DiscountType
  discountValue : Option Decimal
  discountSuppressedReason : Option String

def SellerEdit.of (row : LineItem) : SellerEdit :=
  ⟨row.included, row.discountType, row.discountValue, row.discountSuppressedReason⟩

/-- `_SellerEdit.apply`. -/
def SellerEdit.applyTo (edit : SellerEdit) (row : LineItem) : LineItem :=
  let row := { row with included := edit.included }
  match edit.discountType, edit.discountValue with
  | some discountType, some discountValue =>
    { row with
      discountType := some discountType
      discountValue := some discountValue
      discountSuppressedReason := edit.discountSuppressedReason
      discountResolvedAmount :=
        some (resolveDiscount (some discountType) (some discountValue) row.unitPrice) }
  | _, _ => row

def getConfigurationForHost (reads : Reads) (tenantId configurationId : Uuid) :
    Result HostConfiguration :=
  orNotFound (reads.configuration tenantId configurationId)
    s!"Configuration {configurationId} was not found."

def pyText (text : Option String) : String := text.getD "None"

def vehicleIdentity (deal : Deal) (configuration : Option HostConfiguration) : Option String :=
  match deal.vehicleSource, deal.stockItemId, configuration, deal.vehicleLabel with
  | some .stock, some stockItemId, _, _ => some s!"stock:{stockItemId}"
  | _, _, some configuration, _ =>
    some s!"configuration:{configuration.id}:{configuration.version}"
  | some .manual, _, none, some label =>
    some s!"manual:{label}:{pyText deal.manualVehicleCondition}"
  | _, _, _, _ => none

/-- The configuration the freeze reads: a manual vehicle's, when it has one. -/
def frozenConfiguration (reads : Reads) (deal : Deal) : Result (Option HostConfiguration) :=
  match deal.vehicleSource, deal.configurationId with
  | some .manual, some configurationId =>
    some <$> getConfigurationForHost reads deal.tenantId configurationId
  | _, _ => pure none

/-- The seller's edits of the lines of an earlier version of the same
configuration, by code and label. -/
def keptEdits (reads : Reads) (deal : Deal) (configuration : HostConfiguration)
    (code label : String) : Option SellerEdit :=
  if (deal.vehicleSnapshot.bind (·.configurationId)) = some configuration.id then
    -- the dictionary of the source keeps the last line under a key
    ((reads.unordered (deal.lines.filter fun li => li.kind = .factoryOption)).reverse.find?
      fun li => li.code = code ∧ li.label = label).map SellerEdit.of
  else none

theorem keptEdits_eq_some {reads : Reads} {deal : Deal} {configuration : HostConfiguration}
    {code label : String} {edit : SellerEdit}
    (h : keptEdits reads deal configuration code label = some edit) :
    ∃ li ∈ deal.lines, edit = SellerEdit.of li := by
  unfold keptEdits at h
  split at h
  · obtain ⟨li, hli, rfl⟩ := Option.map_eq_some_iff.mp h
    have hmem := List.mem_reverse.mp (List.mem_of_find?_eq_some hli)
    exact ⟨li, List.mem_of_mem_filter ((reads.unordered_perm _).mem_iff.mp hmem), rfl⟩
  · cases h

/-- The snapshot and the factory-option lines of a stock car. -/
def freezeStockItem (reads : Reads) (deal : Deal) (identity : String) (stockItemId : Uuid) :
    Result (Snapshot × List LineItem) := do
  let pricing ← getStockItemPricing reads.stockItems deal.tenantId stockItemId
  pure ({
      identity := identity
      vehicleLabel := deal.vehicleLabel
      condition := some pricing.condition
      basePrice := pricing.basePrice
      listPrice := pricing.listPrice
      effectivePrice := pricing.effectivePrice
      purchasePrice := pricing.purchasePrice
      landedCost := pricing.landedCost
      notionalInputTaxApplicable := pricing.notionalInputTaxApplicable
      notionalInputTaxRate := pricing.notionalInputTaxRate
      notionalInputTaxAmount := pricing.notionalInputTaxAmount },
    pricing.options.zipIdx.map fun (option, position) =>
      { id := reads.uuid position
        kind := .factoryOption
        code := option.code
        label := option.label
        unitPrice := option.price
        position := position })

/-- The snapshot and the factory-option lines of a configured car. -/
def freezeConfiguration (reads : Reads) (deal : Deal) (identity : String)
    (configuration : HostConfiguration) : Snapshot × List LineItem :=
  ({ identity := identity
     vehicleLabel := deal.vehicleLabel
     condition := deal.manualVehicleCondition
     configurationId := some configuration.id
     configurationVersion := some configuration.version
     basePriceYear := configuration.basePriceYear
     spec := configuration.spec },
   configuration.priceLines.zipIdx.map fun (line, position) =>
    let code := orText line.code line.kind
    let label := (line.label.take 200).toString
    let row : LineItem :=
      { id := reads.uuid position
        kind := .factoryOption
        code := code
        label := label
        unitPrice := line.price
        position := position }
    match keptEdits reads deal configuration code label with
    | some edit => edit.applyTo row
    | none => row)

def freezeManual (deal : Deal) (identity : String) : Snapshot :=
  { identity := identity
    vehicleLabel := deal.vehicleLabel
    condition := deal.manualVehicleCondition }

/-- What a freeze of `deal` under `identity` writes. -/
def freezeContent (reads : Reads) (deal : Deal) (configuration : Option HostConfiguration)
    (identity : String) : Result (Snapshot × List LineItem) :=
  match deal.vehicleSource, deal.stockItemId, configuration with
  | some .stock, some stockItemId, _ => freezeStockItem reads deal identity stockItemId
  | _, _, some configuration => pure (freezeConfiguration reads deal identity configuration)
  | _, _, none => pure (freezeManual deal identity, [])

/-- `freeze_vehicle_snapshot`; the flag says whether it froze. -/
def freezeVehicleSnapshot (reads : Reads) (deal : Deal) : Result (Deal × Bool) := do
  let configuration ← frozenConfiguration reads deal
  match vehicleIdentity deal configuration with
  | none => pure (deal, false)
  | some identity =>
    -- one freeze for one vehicle: later prices of the same car do not come through
    if deal.vehicleSnapshotFrozenAt.isSome ∧
        deal.vehicleSnapshot.map (·.identity) = some identity then
      pure (deal, false)
    else do
      let (snapshot, options) ← freezeContent reads deal configuration identity
      pure ({ deal with
        lines := deal.lines.filter (fun li => li.kind ≠ .factoryOption) ++ options
        vehicleSnapshot := some snapshot
        vehicleSnapshotFrozenAt := some reads.now }, true)

/-! ### The edit -/

def clearConfiguration (deal : Deal) : Deal :=
  { deal with
    configurationId := none
    configurationLabel := none
    configurationLabelRefreshedAt := none }

/-- `HostConfiguration.require_mode` with `allowed=("build",)`. -/
def requireBuildMode (configuration : HostConfiguration) (host : String) : Result Unit :=
  if configuration.mode = "build" then .ok ()
  else .error (unprocessableEntityError
    s!"The {host} accepts build configurations only, not {configuration.mode}."
    [("reason", "configuration_mode_not_allowed"), ("host", host), ("mode", configuration.mode),
      ("allowed", "build")])

/-- `_attach_configuration`: the deal, and the changes that are still to be set. -/
def attachConfiguration (reads : Reads) (deal : Deal) (configurationId : Option Uuid)
    (changes : DealChanges) (host : String) : Result (Deal × DealChanges) :=
  match configurationId with
  | none => pure (clearConfiguration deal, changes)
  | some configurationId => do
    let configuration ← getConfigurationForHost reads deal.tenantId configurationId
    requireBuildMode configuration host
    -- the catalogue price fills in once; a price the seller gave stays
    let isNewConfiguration := deal.configurationId ≠ some configuration.id
    let prefills := changes.manualBasePrice.isNone ∧
      (isNewConfiguration ∨ deal.manualBasePrice.isNone)
    pure ({ deal with
        configurationId := some configuration.id
        configurationLabel := some configuration.label
        configurationLabelRefreshedAt := some reads.now
        vehicleSource := some .manual
        stockItemId := none
        vehicleLabel := some configuration.label
        manualVehicleCondition := some "new"
        manualBasePrice := if prefills then configuration.basePrice else deal.manualBasePrice },
      { changes with
        vehicleSource := none
        stockItemId := none
        vehicleLabel := none
        manualVehicleCondition := none })

/-- `for field, value in changes.items(): setattr(deal, field, value)`. -/
def setChanges (deal : Deal) (changes : DealChanges) : Deal :=
  { deal with
    vehicleSource := changes.vehicleSource.getD deal.vehicleSource
    stockItemId := changes.stockItemId.getD deal.stockItemId
    vehicleLabel := changes.vehicleLabel.getD deal.vehicleLabel
    manualVehicleCondition := changes.manualVehicleCondition.getD deal.manualVehicleCondition
    manualBasePrice := changes.manualBasePrice.getD deal.manualBasePrice
    discountType := changes.discountType.getD deal.discountType
    discountValue := changes.discountValue.getD deal.discountValue }

/-- The configuration half of the edit: attach, detach, or let a stock car
replace it. -/
def changeConfiguration (reads : Reads) (deal : Deal) (changes : DealChanges) (host : String) :
    Result (Deal × DealChanges) :=
  match changes.configurationId with
  | some configurationId => attachConfiguration reads deal configurationId changes host
  | none =>
    -- Path A replaces Path B: a stock car carries no configuration
    if changes.vehicleSource = some (some .stock) then pure (clearConfiguration deal, changes)
    else pure (deal, changes)

/-- The edit up to the first flush: the request's columns, before any freeze. -/
def patchDeal (reads : Reads) (deal : Deal) (changes : DealChanges) (host : String) :
    Result Deal := do
  let (deal, changes) ← changeConfiguration reads deal changes host
  let deal := setChanges deal changes
  pure { deal with updatedBy := reads.actorId, version := deal.version + 1 }

def repriceDeal (reads : Reads) (deal : Deal) : Result Deal := do
  let (deal, _) ← freezeVehicleSnapshot reads deal
  pure (if deal.vehicleSnapshot.isSome then applyBuildUp deal else deal)

def applyVehicleAndPricingChanges (reads : Reads) (deal : Deal) (changes : DealChanges)
    (host : String) : Result Deal := do
  let deal ← patchDeal reads deal changes host
  repriceDeal reads deal

/-! ### What the freeze does -/

def NamesVehicle (deal : Deal) : Prop :=
  (deal.vehicleSource = some .stock ∧ deal.stockItemId ≠ none) ∨
    (deal.vehicleSource = some .manual ∧
      (deal.configurationId ≠ none ∨ deal.vehicleLabel ≠ none))

instance (deal : Deal) : Decidable (NamesVehicle deal) :=
  inferInstanceAs (Decidable (_ ∨ _))

variable {reads : Reads} {deal : Deal}

theorem namesVehicle_of_identity_ne_none {configuration : Option HostConfiguration}
    (hc : frozenConfiguration reads deal = .ok configuration) :
    vehicleIdentity deal configuration = none → ¬ NamesVehicle deal := by
  intro hid hnames
  rcases hnames with ⟨hs, hi⟩ | ⟨hm, hcfg | hl⟩
  · obtain ⟨i, hi⟩ := Option.ne_none_iff_exists'.mp hi
    simp [vehicleIdentity, hs, hi] at hid
  · -- a manual vehicle with a configuration id reads its configuration
    obtain ⟨cid, hcid⟩ := Option.ne_none_iff_exists'.mp hcfg
    rw [frozenConfiguration, hm, hcid] at hc
    obtain ⟨cfg, -, hcfg'⟩ : ∃ cfg, getConfigurationForHost reads deal.tenantId cid = .ok cfg ∧
        some cfg = configuration := by
      cases hget : getConfigurationForHost reads deal.tenantId cid with
      | error e => simp [hget, Functor.map, Except.map] at hc
      | ok cfg => exact ⟨cfg, rfl, by simpa [hget, Functor.map, Except.map] using hc⟩
    subst hcfg'
    simp [vehicleIdentity, hm] at hid
  · obtain ⟨l, hl⟩ := Option.ne_none_iff_exists'.mp hl
    cases configuration <;> simp [vehicleIdentity, hm, hl] at hid

variable {deal' : Deal}

theorem freezeVehicleSnapshot_content {froze : Bool}
    (h : freezeVehicleSnapshot reads deal = .ok (deal', froze)) :
    (deal' = deal ∧ froze = false ∧ (deal.vehicleSnapshot = none → ¬ NamesVehicle deal)) ∨
      ∃ configuration identity snapshot options,
        frozenConfiguration reads deal = .ok configuration ∧
        vehicleIdentity deal configuration = some identity ∧
        ¬ (deal.vehicleSnapshotFrozenAt.isSome ∧
          deal.vehicleSnapshot.map (·.identity) = some identity) ∧
        freezeContent reads deal configuration identity = .ok (snapshot, options) ∧
        froze = true ∧
        deal' = { deal with
          lines := deal.lines.filter (fun li => li.kind ≠ .factoryOption) ++ options
          vehicleSnapshot := some snapshot
          vehicleSnapshotFrozenAt := some reads.now } := by
  obtain ⟨configuration, hc, h⟩ := Result.of_bind h
  cases hid : vehicleIdentity deal configuration with
  | none =>
    simp only [hid, pure, Except.pure, Except.ok.injEq, Prod.mk.injEq] at h
    exact .inl ⟨h.1.symm, h.2.symm, fun _ => namesVehicle_of_identity_ne_none hc hid⟩
  | some identity =>
    simp only [hid] at h
    split at h
    · next hsame =>
      simp only [pure, Except.pure, Except.ok.injEq, Prod.mk.injEq] at h
      refine .inl ⟨h.1.symm, h.2.symm, fun hnone => ?_⟩
      rw [hnone] at hsame
      simp at hsame
    · next hnew =>
      obtain ⟨⟨snapshot, options⟩, hcontent, h⟩ := Result.of_bind h
      simp only [pure, Except.pure, Except.ok.injEq, Prod.mk.injEq] at h
      exact .inr ⟨configuration, identity, snapshot, options, hc, hid, hnew, hcontent, h.2.symm,
        h.1.symm⟩

/-- A freeze either leaves the deal alone or replaces the factory-option
lines and the snapshot; a deal it leaves without a snapshot names no vehicle. -/
theorem freezeVehicleSnapshot_cases {froze : Bool}
    (h : freezeVehicleSnapshot reads deal = .ok (deal', froze)) :
    (deal' = deal ∧ (deal.vehicleSnapshot = none → ¬ NamesVehicle deal)) ∨
      ∃ lines snapshot, deal' = { deal with
        lines := lines
        vehicleSnapshot := some snapshot
        vehicleSnapshotFrozenAt := some reads.now } := by
  rcases freezeVehicleSnapshot_content h with ⟨rfl, -, hnames⟩ |
    ⟨-, -, snapshot, -, -, -, -, -, -, rfl⟩
  · exact .inl ⟨rfl, hnames⟩
  · exact .inr ⟨_, snapshot, rfl⟩

/-! ### What the edit does -/

theorem repriceDeal_eq_ok (h : repriceDeal reads deal = .ok deal') :
    ∃ frozen flag, freezeVehicleSnapshot reads deal = .ok (frozen, flag) ∧
      deal' = if frozen.vehicleSnapshot.isSome then applyBuildUp frozen else frozen := by
  obtain ⟨⟨frozen, flag⟩, hf, h⟩ := Result.of_bind h
  simp only [pure, Except.pure, Except.ok.injEq] at h
  exact ⟨frozen, flag, hf, h.symm⟩

/-- A deal that ends with a snapshot ends coherent. -/
theorem reprice_with_snapshot (h : repriceDeal reads deal = .ok deal')
    (hs : deal'.vehicleSnapshot ≠ none) : PriceCoherent deal' := by
  obtain ⟨frozen, flag, -, rfl⟩ := repriceDeal_eq_ok h
  split
  · exact applyBuildUp_coherent frozen
  · next hnone => rw [if_neg hnone] at hs; simp_all

/-- A deal that ends without one is the patched deal, its stored figures untouched, and it names no
vehicle. -/
theorem reprice_without_snapshot (h : repriceDeal reads deal = .ok deal')
    (hs : deal'.vehicleSnapshot = none) : deal' = deal ∧ ¬ NamesVehicle deal := by
  obtain ⟨frozen, flag, hf, rfl⟩ := repriceDeal_eq_ok h
  by_cases hsome : frozen.vehicleSnapshot.isSome = true
  · rw [if_pos hsome] at hs
    have hs' : frozen.vehicleSnapshot = none := hs
    simp [hs'] at hsome
  · rw [if_neg hsome] at hs ⊢
    rcases freezeVehicleSnapshot_cases hf with ⟨rfl, hnames⟩ | ⟨lines, snapshot, rfl⟩
    · exact ⟨rfl, hnames hs⟩
    · cases hs

theorem repriceDeal_frame (h : repriceDeal reads deal = .ok deal') :
    deal'.toTradeIn = deal.toTradeIn ∧ deal'.toBuyer = deal.toBuyer ∧
      deal'.toOwner = deal.toOwner ∧ deal'.tenantId = deal.tenantId ∧ deal'.version = deal.version ∧
      (deal.vehicleSnapshot ≠ none → deal'.vehicleSnapshot ≠ none) := by
  obtain ⟨frozen, flag, hf, rfl⟩ := repriceDeal_eq_ok h
  rcases freezeVehicleSnapshot_cases hf with ⟨rfl, -⟩ | ⟨lines, snapshot, rfl⟩
  · split
    · exact ⟨rfl, rfl, rfl, rfl, rfl, fun hs => hs⟩
    · exact ⟨rfl, rfl, rfl, rfl, rfl, fun hs => hs⟩
  · split
    · exact ⟨rfl, rfl, rfl, rfl, rfl, nofun⟩
    · exact ⟨rfl, rfl, rfl, rfl, rfl, nofun⟩

variable {changes : DealChanges} {host : String}

theorem patchDeal_frame (h : patchDeal reads deal changes host = .ok deal') :
    deal'.toTradeIn = deal.toTradeIn ∧ deal'.toBuyer = deal.toBuyer ∧
      deal'.toOwner = deal.toOwner ∧ deal'.tenantId = deal.tenantId ∧
      deal'.version = deal.version + 1 ∧ deal'.toFigures = deal.toFigures ∧
      deal'.vehicleSnapshot = deal.vehicleSnapshot ∧ deal'.lines = deal.lines := by
  obtain ⟨⟨d, ch⟩, hd, h⟩ := Result.of_bind h
  simp only [pure, Except.pure, Except.ok.injEq] at h
  subst h
  suffices hframe : d.toTradeIn = deal.toTradeIn ∧ d.toBuyer = deal.toBuyer ∧
      d.toOwner = deal.toOwner ∧ d.tenantId = deal.tenantId ∧ d.version = deal.version ∧
      d.toFigures = deal.toFigures ∧ d.vehicleSnapshot = deal.vehicleSnapshot ∧
      d.lines = deal.lines by
    obtain ⟨h1, h2, h3, h4, h5, h6, h7, h8⟩ := hframe
    exact ⟨h1, h2, h3, h4, congrArg (· + 1) h5, h6, h7, h8⟩
  rw [changeConfiguration] at hd
  cases hcfg : changes.configurationId with
  | none =>
    simp only [hcfg] at hd
    split at hd
    · cases hd
      exact ⟨rfl, rfl, rfl, rfl, rfl, rfl, rfl, rfl⟩
    · cases hd
      exact ⟨rfl, rfl, rfl, rfl, rfl, rfl, rfl, rfl⟩
  | some configurationId =>
    simp only [hcfg] at hd
    cases configurationId with
    | none =>
      cases hd
      exact ⟨rfl, rfl, rfl, rfl, rfl, rfl, rfl, rfl⟩
    | some cid =>
      obtain ⟨configuration, -, hd⟩ := Result.of_bind hd
      obtain ⟨-, -, hd⟩ := Result.of_bind hd
      cases hd
      exact ⟨rfl, rfl, rfl, rfl, rfl, rfl, rfl, rfl⟩

theorem applyVehicleAndPricingChanges_eq_ok
    (h : applyVehicleAndPricingChanges reads deal changes host = .ok deal') :
    ∃ patched, patchDeal reads deal changes host = .ok patched ∧
      repriceDeal reads patched = .ok deal' :=
  Result.of_bind h

/-! ### When the edit keeps the price coherent -/

/-- The row with the request's columns set, for a request that attaches no
configuration. -/
def requested (deal : Deal) (changes : DealChanges) : Deal :=
  if changes.configurationId = some none ∨ changes.vehicleSource = some (some .stock) then
    setChanges (clearConfiguration deal) changes
  else setChanges deal changes

/-- The request attaches a configuration, or leaves columns that name a
vehicle: the freeze then finds a car. -/
def RequestNamesVehicle (deal : Deal) (changes : DealChanges) : Prop :=
  changes.configurationId.join ≠ none ∨ NamesVehicle (requested deal changes)

def KeepsInputs (deal : Deal) (changes : DealChanges) : Prop :=
  (requested deal changes).vehicleSource = deal.vehicleSource ∧
    (requested deal changes).manualBasePrice = deal.manualBasePrice ∧
    (requested deal changes).discountType = deal.discountType ∧
    (requested deal changes).discountValue = deal.discountValue

/-- The edit of a deal that is priced although no vehicle was ever frozen
names a vehicle, or changes no input of the build-up. -/
def PatchFits (deal : Deal) (changes : DealChanges) : Prop :=
  deal.grossPrice ≠ none → deal.vehicleSnapshot = none →
    RequestNamesVehicle deal changes ∨ KeepsInputs deal changes

instance (deal : Deal) (changes : DealChanges) : Decidable (RequestNamesVehicle deal changes) :=
  inferInstanceAs (Decidable (_ ∨ _))

instance (deal : Deal) (changes : DealChanges) : Decidable (KeepsInputs deal changes) :=
  inferInstanceAs (Decidable (_ ∧ _ ∧ _ ∧ _))

instance (deal : Deal) (changes : DealChanges) : Decidable (PatchFits deal changes) :=
  inferInstanceAs (Decidable (_ → _ → _))

/-- The row that a request which attaches a configuration leaves. -/
def attached (reads : Reads) (deal : Deal) (configuration : HostConfiguration)
    (changes : DealChanges) : Deal :=
  { deal with
    configurationId := some configuration.id
    configurationLabel := some configuration.label
    configurationLabelRefreshedAt := some reads.now
    vehicleSource := some .manual
    stockItemId := none
    vehicleLabel := some configuration.label
    manualVehicleCondition := some "new"
    manualBasePrice := changes.manualBasePrice.getD
      (if changes.manualBasePrice.isNone ∧
          (deal.configurationId ≠ some configuration.id ∨ deal.manualBasePrice.isNone) then
        configuration.basePrice else deal.manualBasePrice)
    discountType := changes.discountType.getD deal.discountType
    discountValue := changes.discountValue.getD deal.discountValue
    updatedBy := reads.actorId
    version := deal.version + 1 }

theorem patchDeal_cases (h : patchDeal reads deal changes host = .ok deal') :
    (∃ id configuration, changes.configurationId = some (some id) ∧
      reads.configuration deal.tenantId id = some configuration ∧ configuration.mode = "build" ∧
      deal' = attached reads deal configuration changes) ∨
    (changes.configurationId.join = none ∧ deal' = { requested deal changes with
      updatedBy := reads.actorId, version := deal.version + 1 }) := by
  cases hjoin : changes.configurationId.join with
  | none =>
    refine .inr ⟨rfl, ?_⟩
    obtain ⟨⟨d, ch⟩, hd, h⟩ := Result.of_bind h
    cases h
    rw [changeConfiguration] at hd
    cases hsent : changes.configurationId with
    | none =>
      simp only [hsent] at hd
      split at hd
      · next hstock =>
        cases hd
        simp only [requested, hstock, or_true, if_true]
        rfl
      · next hstock =>
        cases hd
        simp only [requested, hsent, hstock, reduceCtorEq, or_self, if_false]
        rfl
    | some id =>
      obtain rfl : id = none := by rw [hsent] at hjoin; exact hjoin
      simp only [hsent] at hd
      cases hd
      simp only [requested, hsent, true_or, if_true]
      rfl
  | some id =>
    have hsent : changes.configurationId = some (some id) := Option.join_eq_some_iff.mp hjoin
    obtain ⟨⟨d, ch⟩, hd, h⟩ := Result.of_bind h
    cases h
    simp only [changeConfiguration, hsent, attachConfiguration] at hd
    obtain ⟨configuration, hconfiguration, hd⟩ := Result.of_bind hd
    obtain ⟨_, hmode, hd⟩ := Result.of_bind hd
    cases hd
    rw [getConfigurationForHost, orNotFound_eq_ok] at hconfiguration
    refine .inl ⟨id, configuration, hsent, hconfiguration, ?_, rfl⟩
    unfold requireBuildMode at hmode
    split at hmode
    · assumption
    · cases hmode

theorem patchDeal_eq_ok (h : patchDeal reads deal changes host = .ok deal') :
    (deal'.vehicleSource = some .manual ∧ deal'.configurationId ≠ none) ∨
      (changes.configurationId.join = none ∧ deal' = { requested deal changes with
        updatedBy := reads.actorId, version := deal.version + 1 }) := by
  rcases patchDeal_cases h with ⟨id, configuration, -, -, -, rfl⟩ | hrequested
  · exact .inl ⟨rfl, by simp [attached]⟩
  · exact .inr hrequested

theorem applyVehicleAndPricingChanges_coherent (hc : PriceCoherent deal)
    (hfits : PatchFits deal changes)
    (h : applyVehicleAndPricingChanges reads deal changes host = .ok deal') :
    PriceCoherent deal' := by
  obtain ⟨patched, hp, hr⟩ := applyVehicleAndPricingChanges_eq_ok h
  by_cases hs : deal'.vehicleSnapshot = none
  · -- the build-up was not run: the row is the patched one, with no car named
    obtain ⟨rfl, hnames⟩ := reprice_without_snapshot hr hs
    obtain ⟨htrade, -, -, -, -, hfigures, hsnap, hlines⟩ := patchDeal_frame hp
    by_cases hgross : deal.grossPrice = none
    · have hgross' : deal'.grossPrice = deal.grossPrice := congrArg Figures.grossPrice hfigures
      exact PriceCoherent.of_unpriced (hgross'.trans hgross)
    have hsnap' : deal.vehicleSnapshot = none := hsnap.symm.trans hs
    rcases patchDeal_eq_ok hp with ⟨hmanual, hcfg⟩ | ⟨hcfg, heq⟩
    · exact absurd (.inr ⟨hmanual, .inl hcfg⟩) hnames
    · rcases hfits hgross hsnap' with (hsent | hreq) | ⟨k1, k2, k3, k4⟩
      · exact absurd hcfg hsent
      · rw [heq] at hnames
        exact absurd hreq hnames
      · -- no input moved, so the stored figures are still the build-up's
        have hinputs : deal.toPricingInputs = deal'.toPricingInputs := by
          have h1 : deal'.manualBasePrice = deal.manualBasePrice := by rw [heq]; exact k2
          have h2 : deal'.discountType = deal.discountType := by rw [heq]; exact k3
          have h3 : deal'.discountValue = deal.discountValue := by rw [heq]; exact k4
          cases hpi : deal.toPricingInputs
          cases hpi' : deal'.toPricingInputs
          simp_all
        have hsource : deal'.vehicleSource = deal.vehicleSource := by rw [heq]; exact k1
        exact hc.of_eq hsource.symm hsnap.symm hinputs hfigures.symm
          (congrArg TradeIn.tradeInValue htrade.symm)
  · exact reprice_with_snapshot hr hs

/-- The edit never touches the trade-in, the buyer or the seller, bumps the
version once and never takes a snapshot away. -/
theorem applyVehicleAndPricingChanges_frame
    (h : applyVehicleAndPricingChanges reads deal changes host = .ok deal') :
    deal'.toTradeIn = deal.toTradeIn ∧ deal'.toBuyer = deal.toBuyer ∧
      deal'.toOwner = deal.toOwner ∧ deal'.tenantId = deal.tenantId ∧
      deal'.version = deal.version + 1 ∧
      (deal.vehicleSnapshot ≠ none → deal'.vehicleSnapshot ≠ none) := by
  obtain ⟨patched, hp, hr⟩ := applyVehicleAndPricingChanges_eq_ok h
  obtain ⟨p1, p2, p3, p4, p5, -, p7, -⟩ := patchDeal_frame hp
  obtain ⟨r1, r2, r3, r4, r5, r6⟩ := repriceDeal_frame hr
  exact ⟨r1.trans p1, r2.trans p2, r3.trans p3, r4.trans p4, r5.trans p5,
    fun hs => r6 (by rw [p7]; exact hs)⟩

end Nexotec
