/-
The price of an offer and of its contract (`app/sales/services/contract.py`).

`create_contract` copies the figures of an offer together with the inputs they
were built from, and an edit of the contract builds the price anew from those
inputs.  The copies agree column by column; that the build-up gives the figures
back takes more, since each column was rounded when the offer was stored:

* `buildUp_stored` — rounding the columns changes no figure when the prices and
  discounts were sent with two decimals;
* `contract_keeps_price` — the contract of an offer has its columns and its
  figures, and keeps them as long as no request changes anything of the price.
-/
import Nexotec.Sales.AddsUp

namespace Nexotec

open Rounding

section Inputs

variable {deal : Deal}

theorem column_column (x : Decimal) : column (column x) = column x :=
  column_of_cents (cents_column x)

theorem map_column_map_column (x : Option Decimal) : (x.map column).map column = x.map column :=
  map_column (cents_map_column x)

theorem LineItem.stored_stored (li : LineItem) : li.stored.stored = li.stored := by
  simp only [LineItem.stored, column_column, map_column_map_column]

theorem Deal.stored_stored (deal : Deal) : deal.stored.stored = deal.stored := by
  have hlines : (LineItem.stored ∘ LineItem.stored) = LineItem.stored :=
    funext LineItem.stored_stored
  simp only [Deal.stored, Figures.stored, TradeIn.stored, map_column_map_column, List.map_map,
    hlines]

/-- The inputs of the build-up fit their columns. -/
structure ExactInputs (deal : Deal) : Prop where
  base : deal.vehicleSource = some .manual → ∀ x ∈ deal.manualBasePrice, Cents x
  lines : ∀ li ∈ deal.lines, ExactLine li
  discount : deal.discountType ≠ none → ∀ x ∈ deal.discountValue, Cents x

theorem ExactInputs.operands (h : ExactInputs deal)
    (hsnapshot : ∀ s ∈ deal.vehicleSnapshot, ∀ x ∈ s.amounts, Cents x) : OperandsInCents deal where
  base := h.base
  snapshot := hsnapshot
  lines := fun li hli => (h.lines li hli).inCents
  discount := fun t ht _ => h.discount (by simp [Option.mem_def.mp ht])

theorem lineTotal_stored (h : ∀ li ∈ deal.lines, ExactLine li) (kind : LineItemKind) :
    lineTotal (deal.lines.map LineItem.stored) kind = lineTotal deal.lines kind := by
  unfold lineTotal
  congr 1
  rw [List.filter_map, List.map_map]
  refine List.map_congr_left fun li hli => ?_
  have hline := h li (List.mem_of_mem_filter hli)
  simp only [Function.comp_apply, LineItem.stored, column_of_cents hline.unitPrice,
    map_column hline.resolved]

theorem buildUp_stored (h : ExactInputs deal) : buildUp deal.stored = buildUp deal := by
  have hlines := lineTotal_stored h.lines
  have hdiscount : ∀ amount, resolveDiscount deal.discountType (deal.discountValue.map column) amount
      = resolveDiscount deal.discountType deal.discountValue amount := by
    intro amount
    cases htype : deal.discountType with
    | none => rfl
    | some t => rw [map_column (h.discount (by simp [htype]))]
  by_cases hmanual : deal.vehicleSource = some .manual
  · simp only [buildUp, Deal.stored, hlines, hdiscount, hmanual, if_true, map_column (h.base hmanual)]
  · simp only [buildUp, Deal.stored, hlines, hdiscount, hmanual, if_false]

theorem exactInputs_of_columns (h : InColumns deal) : ExactInputs deal where
  base := fun _ => h.base
  lines := fun li hli => exactLine_of_columns (h.lines li hli)
  discount := fun _ => h.discount

end Inputs

/-! ### A frozen deal -/

def Configured (deal : Deal) : Prop :=
  deal.vehicleSource = some .manual ∧ deal.configurationId ≠ none

/-- The snapshot is that of the vehicle the columns name, if they name one; a
configuration may have moved on since. -/
structure FrozenAs (deal : Deal) : Prop where
  configured : Configured deal →
    deal.vehicleSnapshotFrozenAt.isSome ∧ deal.vehicleSnapshot ≠ none
  plain : ¬ Configured deal → vehicleIdentity deal none = none ∨
    (deal.vehicleSnapshotFrozenAt.isSome ∧
      deal.vehicleSnapshot.map (·.identity) = vehicleIdentity deal none)

/-- A deal with a snapshot stores the figures of its own build-up. -/
def Derived (deal : Deal) : Prop :=
  deal.vehicleSnapshot ≠ none → deal.toFigures = (applyBuildUp deal).toFigures

section

variable {reads : Reads} {deal deal' : Deal} {configuration : Option HostConfiguration}

theorem frozenConfiguration_eq_ok (h : frozenConfiguration reads deal = .ok configuration) :
    (¬ Configured deal ∧ configuration = none) ∨
      ∃ id c, deal.vehicleSource = some .manual ∧ deal.configurationId = some id ∧
        reads.configuration deal.tenantId id = some c ∧ configuration = some c := by
  unfold frozenConfiguration at h
  split at h
  · next id hmanual hid =>
    obtain ⟨c, hc, rfl⟩ := Result.map_eq_ok.mp h
    rw [getConfigurationForHost, orNotFound_eq_ok] at hc
    exact .inr ⟨id, c, hmanual, hid, hc, rfl⟩
  · next hnot =>
    cases h
    refine .inl ⟨?_, rfl⟩
    rintro ⟨hmanual, hid⟩
    obtain ⟨id, hid⟩ := Option.ne_none_iff_exists'.mp hid
    exact hnot id hmanual hid

theorem freezeContent_identity {identity : String} {snapshot : Snapshot} {options : List LineItem}
    (h : freezeContent reads deal configuration identity = .ok (snapshot, options)) :
    snapshot.identity = identity := by
  unfold freezeContent at h
  split at h
  · obtain ⟨pricing, -, h⟩ := Result.of_bind h
    cases h
    rfl
  · cases h
    rfl
  · cases h
    rfl

variable {froze : Bool}

theorem frozenAs_freeze (h : freezeVehicleSnapshot reads deal = .ok (deal', froze)) :
    FrozenAs deal' := by
  have hsplit := h
  obtain ⟨configuration, hc, h⟩ := Result.of_bind h
  rcases freezeVehicleSnapshot_content hsplit with ⟨rfl, rfl, -⟩ |
    ⟨configuration', identity, snapshot, options, hc', hid, -, hcontent, -, rfl⟩
  · -- no vehicle, or the one that is frozen already
    cases hid : vehicleIdentity deal' configuration with
    | none =>
      rcases frozenConfiguration_eq_ok hc with ⟨hplain, rfl⟩ | ⟨id, c, hmanual, -, -, rfl⟩
      · exact ⟨fun hconfigured => absurd hconfigured hplain, fun _ => .inl hid⟩
      · simp [vehicleIdentity, hmanual] at hid
    | some identity =>
      simp only [hid] at h
      split at h
      · next hsame =>
        obtain ⟨hfrozen, hidentity⟩ := hsame
        refine ⟨fun _ => ⟨hfrozen, fun hnone => by simp [hnone] at hidentity⟩, fun hplain => ?_⟩
        rcases frozenConfiguration_eq_ok hc with ⟨-, rfl⟩ | ⟨id, c, hmanual, hset, -, -⟩
        · exact .inr ⟨hfrozen, hidentity.trans hid.symm⟩
        · exact absurd ⟨hmanual, by simp [hset]⟩ hplain
      · obtain ⟨content, -, h⟩ := Result.of_bind h
        exact absurd (congrArg Prod.snd (Except.ok.inj h)) (by simp)
  · have hidentity := freezeContent_identity hcontent
    refine ⟨fun _ => ⟨rfl, by simp⟩, fun hplain => ?_⟩
    rcases frozenConfiguration_eq_ok hc' with ⟨-, rfl⟩ | ⟨id, c, hmanual, hset, -, -⟩
    · exact .inr ⟨rfl, congrArg some hidentity |>.trans hid.symm⟩
    · exact absurd ⟨hmanual, by simp [hset]⟩ hplain

theorem freeze_noop (hfrozen : FrozenAs deal)
    (hcurrent : deal.vehicleSource = some .manual → ∀ id ∈ deal.configurationId,
      ∀ c ∈ reads.configuration deal.tenantId id,
        deal.vehicleSnapshot.map (·.identity) = some s!"configuration:{c.id}:{c.version}")
    (h : freezeVehicleSnapshot reads deal = .ok (deal', froze)) : deal' = deal := by
  rcases freezeVehicleSnapshot_content h with ⟨hsame, -⟩ |
    ⟨configuration, identity, snapshot, options, hc, hid, hnew, -, -, -⟩
  · exact hsame
  · refine absurd ?_ hnew
    rcases frozenConfiguration_eq_ok hc with ⟨hplain, rfl⟩ | ⟨id, c, hmanual, hset, hread, rfl⟩
    · rcases hfrozen.plain hplain with hnone | ⟨hat, hidentity⟩
      · rw [hnone] at hid
        cases hid
      · exact ⟨hat, hidentity.trans hid⟩
    · refine ⟨(hfrozen.configured ⟨hmanual, by simp [hset]⟩).1, ?_⟩
      rw [hcurrent hmanual id hset c hread, ← hid]
      simp [vehicleIdentity, hmanual]

/-- A deal frozen as its columns say, with the figures of its own build-up, is
priced to the same figures again. -/
theorem reprice_keeps_figures (hfrozen : FrozenAs deal) (hderived : Derived deal)
    (hcurrent : deal.vehicleSource = some .manual → ∀ id ∈ deal.configurationId,
      ∀ c ∈ reads.configuration deal.tenantId id,
        deal.vehicleSnapshot.map (·.identity) = some s!"configuration:{c.id}:{c.version}")
    (h : repriceDeal reads deal = .ok deal') : deal' = deal := by
  obtain ⟨frozen, froze, hfreeze, rfl⟩ := repriceDeal_eq_ok h
  obtain rfl := freeze_noop hfrozen hcurrent hfreeze
  split
  · next hsome =>
    have hfigures := hderived (Option.isSome_iff_ne_none.mp hsome)
    calc applyBuildUp frozen = { frozen with toFigures := (applyBuildUp frozen).toFigures } := rfl
      _ = { frozen with toFigures := frozen.toFigures } := by rw [← hfigures]
      _ = frozen := rfl
  · rfl

end

/-! ### The condition -/

/-- A base price that counts and a discount value beside a type are sent with
at most two decimals. -/
def DealChanges.Exact (deal : Deal) (changes : DealChanges) : Prop :=
  (changes.configurationId.join ≠ none ∨ (requested deal changes).vehicleSource = some .manual →
    ∀ x ∈ changes.manualBasePrice.join, Cents x) ∧
  ((requested deal changes).discountType ≠ none → ∀ x ∈ changes.discountValue.join, Cents x)

def LineItemsReplaceRequest.Exact (data : LineItemsReplaceRequest) : Prop :=
  (∀ a ∈ data.accessories, Cents a.unitPrice ∧ DiscountInCents a.discountType a.discountValue) ∧
  ∀ p ∈ data.factoryOptions, DiscountInCents p.discountType p.discountValue

def Edit.Exact : Edit → Prop
  | .replaceLineItems data => data.Exact
  | .setTradeIn _ | .attachTradeInValuation _ => True

/-- **The condition on a request**: what it sends for an offer fits the columns
the build-up reads. -/
def SentExactly (db : SalesDb) (a : ColumnReads × Request) : Prop :=
  match a.2 with
  | .updateOffer _ offerId _ data =>
    ∀ offer ∈ db.offers.lookup offerId, data.toDealChanges.Exact offer.toDeal
  | .editOffer _ _ _ edit => edit.Exact
  | .createOffer _ | .copyOffer .. | .createContract .. | .updateContract .. | .editContract ..
  | .createValuation _ | .consumeValuation .. | .revertValuationUse _ => True

theorem LineItemsReplaceRequest.Exact.inCents {data : LineItemsReplaceRequest} (h : data.Exact) :
    data.InCents :=
  ⟨fun a ha => ⟨(h.1 a ha).1.mul_intCast a.quantity, (h.1 a ha).2⟩, h.2⟩

theorem DealChanges.Exact.withParties {deal : Deal} {changes : DealChanges}
    (h : changes.Exact deal) (buyer : Buyer) (owner : Owner) :
    changes.Exact { deal with toBuyer := buyer, toOwner := owner } := by
  have hreq : requested { deal with toBuyer := buyer, toOwner := owner } changes =
      { requested deal changes with toBuyer := buyer, toOwner := owner } := by
    unfold requested
    split <;> rfl
  unfold DealChanges.Exact
  rw [hreq]
  exact h

/-! ### The rows of offers -/

/-- An offer before the flush. -/
structure WrittenOffer (deal : Deal) : Prop where
  written : Written deal
  inputs : ExactInputs deal
  derived : Derived deal
  frozen : FrozenAs deal

/-- An offer as stored. -/
structure OfferRow (deal : Deal) : Prop where
  row : StoredRow deal
  derived : Derived deal
  frozen : FrozenAs deal

section

variable {reads : Reads} {deal deal' : Deal}

theorem OfferRow.written (h : OfferRow deal) : WrittenOffer deal :=
  ⟨h.row.written, exactInputs_of_columns h.row.columns, h.derived, h.frozen⟩

theorem WrittenOffer.stored (h : WrittenOffer deal) : OfferRow deal.stored := by
  refine ⟨h.written.stored, fun hsnapshot => ?_, ⟨h.frozen.configured, h.frozen.plain⟩⟩
  have hfigures : deal.stored.toFigures = deal.toFigures := stored_figures h.written.sums.figures
  have hvalue : deal.stored.tradeInValue = deal.tradeInValue := map_column h.written.tradeIn
  rw [hfigures, h.derived hsnapshot]
  simp only [applyBuildUp, buildUp_stored h.inputs, hvalue]

theorem exactLine_applyDiscount {row row' : LineItem} {storedId : Option Uuid}
    {discountType : Option DiscountType} {discountValue : Option Decimal} {reason : Option String}
    {used : Bool} (hprice : Cents row.unitPrice)
    (hdiscount : DiscountInCents discountType discountValue)
    (h : applyDiscount row storedId discountType discountValue reason used = .ok row') :
    ExactLine row' := by
  have hline := lineInCents_applyDiscount (hprice.mul_intCast row.quantity) hdiscount h
  refine ⟨?_, hline.resolved⟩
  rw [applyDiscount_unitPrice h]
  exact hprice

theorem writtenOffer_repriceDeal (hreads : reads.FromColumns)
    (hcolumns : ∀ li ∈ deal.lines, ∀ x ∈ li.amounts, Cents x) (hwritten : Written deal)
    (hinputs : ExactInputs deal) (h : repriceDeal reads deal = .ok deal') : WrittenOffer deal' := by
  have hoperands := hinputs.operands hwritten.sums.snapshot
  obtain ⟨htrade, -⟩ := repriceDeal_frame h
  have hsums := sums_repriceDeal hreads hcolumns hwritten.tradeIn hoperands
    ⟨hwritten.sums.addsUp, hwritten.sums.figures⟩ h
  obtain ⟨frozen, froze, hfreeze, rfl⟩ := repriceDeal_eq_ok h
  have hfrozen := frozenAs_freeze hfreeze
  have hexact : ExactInputs frozen := by
    rcases freezeVehicleSnapshot_content hfreeze with ⟨rfl, -⟩ |
      ⟨configuration, identity, snapshot, options, hc, -, -, hcontent, -, rfl⟩
    · exact hinputs
    · obtain ⟨-, hoptions⟩ :=
        freezeContent_inCents hreads (cents_frozenConfiguration hreads hc) hcolumns hcontent
      refine ⟨hinputs.base, fun li hli => ?_, hinputs.discount⟩
      rcases List.mem_append.mp hli with hold | hnew
      · exact hinputs.lines li (List.mem_of_mem_filter hold)
      · exact hoptions li hnew
  obtain ⟨hbase, hlines, hdiscount⟩ := hexact
  by_cases hsome : frozen.vehicleSnapshot.isSome = true
  · rw [if_pos hsome] at hsums htrade ⊢
    exact ⟨⟨hsums, by rw [htrade]; exact hwritten.tradeIn⟩, ⟨hbase, hlines, hdiscount⟩,
      fun _ => rfl, ⟨hfrozen.configured, hfrozen.plain⟩⟩
  · rw [if_neg hsome] at hsums htrade ⊢
    exact ⟨⟨hsums, by rw [htrade]; exact hwritten.tradeIn⟩, ⟨hbase, hlines, hdiscount⟩,
      fun hsnapshot => absurd (Option.isSome_iff_ne_none.mpr hsnapshot) hsome, hfrozen⟩

theorem finishTradeIn_eq (reads : Reads) (deal : Deal) :
    finishTradeIn reads deal = { deal with
      payable := deal.grossPrice.map (· - deal.tradeInValue.getD 0)
      updatedBy := reads.actorId
      version := deal.version + 1 } := by
  unfold finishTradeIn recomputePayable
  cases hgross : deal.grossPrice with
  | none => simp only [Option.map_none]
  | some grossPrice => simp only [Option.map_some]

theorem writtenOffer_finishTradeIn (hrow : OfferRow deal) {tradeIn : TradeIn}
    (htrade : ∀ x ∈ tradeIn.tradeInValue, Cents x) :
    WrittenOffer (finishTradeIn reads { deal with toTradeIn := tradeIn }) := by
  have hwritten : Written (finishTradeIn reads { deal with toTradeIn := tradeIn }) :=
    written_finishTradeIn hrow.row htrade
  have hinputs := exactInputs_of_columns hrow.row.columns
  rw [finishTradeIn_eq] at hwritten ⊢
  refine ⟨hwritten, ⟨hinputs.base, hinputs.lines, hinputs.discount⟩, fun hsnapshot => ?_,
    ⟨hrow.frozen.configured, hrow.frozen.plain⟩⟩
  have hfigures := hrow.derived hsnapshot
  have hgross : deal.grossPrice = some (buildUp deal).grossPrice :=
    congrArg Figures.grossPrice hfigures
  -- the other nine figures are those of the row
  calc { deal.toFigures with payable := deal.grossPrice.map (· - tradeIn.tradeInValue.getD 0) }
      = { (applyBuildUp deal).toFigures with
          payable := some ((buildUp deal).grossPrice - tradeIn.tradeInValue.getD 0) } := by
        rw [← hfigures, hgross, Option.map_some]
    _ = _ := rfl

theorem writtenOffer_edit {valuations : Table Uuid Valuation} {edit : Edit} (hrow : OfferRow deal)
    (hvaluations : ∀ id v, valuations.lookup id = some v → Cents v.finalOffer)
    (hedit : edit.Exact) (h : edit.run reads valuations deal = .ok deal') : WrittenOffer deal' := by
  cases edit with
  | replaceLineItems data =>
    have hcents : Edit.InCents (.replaceLineItems data) :=
      LineItemsReplaceRequest.Exact.inCents hedit
    have hwritten := written_edit hrow.row hvaluations hcents h
    obtain ⟨lines, hlines, h⟩ := Result.of_bind h
    cases h
    have hold : ∀ li ∈ deal.lines, ExactLine li :=
      fun li hli => exactLine_of_columns (hrow.row.columns.lines li hli)
    have hexact : ∀ li ∈ lines, ExactLine li := by
      refine forall_replaceLines hold ?_ ?_ hlines
      · intro a ha row row' storedId hprice _ hwrite
        obtain ⟨hcents, hdiscount⟩ := hedit.1 a ha
        exact exactLine_applyDiscount (hprice ▸ hcents) hdiscount hwrite
      · intro p hp row row' storedId hkept hwrite
        refine exactLine_applyDiscount ?_ (hedit.2 p hp) hwrite
        exact hkept.unitPrice
    exact ⟨hwritten, ⟨fun _ => hrow.row.columns.base, hexact, fun _ => hrow.row.columns.discount⟩,
      fun _ => rfl, ⟨hrow.frozen.configured, hrow.frozen.plain⟩⟩
  | setTradeIn data =>
    obtain ⟨vehicle, -, rfl⟩ := setTradeIn_eq_ok h
    have hcents : Edit.InCents (.setTradeIn data) := trivial
    have hwritten := written_edit hrow.row hvaluations hcents h
    rw [writeTradeIn, recordAndAttach_frame] at hwritten ⊢
    have hvalue := hwritten.tradeIn
    rw [(finishTradeIn_frame _ _).1] at hvalue
    exact writtenOffer_finishTradeIn hrow hvalue
  | attachTradeInValuation valuationId =>
    obtain ⟨valuation, hvaluation, rfl⟩ := attachTradeInValuation_eq_ok h
    rw [attach_frame]
    exact writtenOffer_finishTradeIn hrow (cents_attach (hvaluations valuationId valuation hvaluation))

theorem writtenOffer_patch {changes : DealChanges} {host : String} (hreads : reads.FromColumns)
    (hrow : OfferRow deal) (hchanges : changes.Exact deal)
    (h : applyVehicleAndPricingChanges reads deal changes host = .ok deal') :
    WrittenOffer deal' := by
  obtain ⟨patched, hpatch, hreprice⟩ := applyVehicleAndPricingChanges_eq_ok h
  obtain ⟨htrade, -, -, -, -, hfigures, hsnapshot, hlines⟩ := patchDeal_frame hpatch
  have hvalue : patched.tradeInValue = deal.tradeInValue := congrArg TradeIn.tradeInValue htrade
  have hwritten : Written patched := by
    refine ⟨⟨?_, ?_, ?_⟩, ?_⟩
    · rw [hfigures, hvalue]
      exact hrow.row.sums.addsUp
    · rw [hfigures]
      exact hrow.row.sums.figures
    · rw [hsnapshot]
      exact hrow.row.sums.snapshot
    · rw [hvalue]
      exact hrow.row.columns.tradeIn
  have hinputs : ExactInputs patched := by
    refine ⟨cents_base_patchDeal hreads hrow.row.columns hchanges.1 hpatch, ?_,
      cents_discount_patchDeal (P := (· ≠ none)) hrow.row.columns hchanges.2 hpatch⟩
    rw [hlines]
    exact fun li hli => exactLine_of_columns (hrow.row.columns.lines li hli)
  exact writtenOffer_repriceDeal hreads (hlines ▸ hrow.row.columns.lines) hwritten hinputs hreprice

theorem OfferRow.withParties (h : OfferRow deal) (buyer : Buyer) (owner : Owner) :
    OfferRow { deal with toBuyer := buyer, toOwner := owner } :=
  ⟨h.row.withParties buyer owner, h.derived, ⟨h.frozen.configured, h.frozen.plain⟩⟩

theorem writtenOffer_copyOffer {sourceId : Uuid} {source offer : SalesOffer}
    (hreads : reads.FromColumns) (hsource : OfferRow source.toDeal)
    (h : copyOffer reads sourceId source = .ok offer) : WrittenOffer offer.toDeal := by
  have hreprice := copyOffer_eq_ok h
  have hlines : (copiedDeal reads source.toDeal).lines = [] := rfl
  have hwritten : Written (copiedDeal reads source.toDeal) :=
    written_unpriced rfl rfl hsource.row.columns.tradeIn
  have hinputs : ExactInputs (copiedDeal reads source.toDeal) :=
    ⟨fun _ => hsource.row.columns.base, by simp [hlines], fun _ => hsource.row.columns.discount⟩
  exact writtenOffer_repriceDeal hreads (by simp [hlines]) hwritten hinputs hreprice

end

/-- The offers and the valuations a run has stored. -/
structure OfferRows (db : SalesDb) : Prop where
  offers : ∀ id offer, db.offers.lookup id = some offer → OfferRow offer.toDeal
  valuations : ∀ id v, db.valuations.lookup id = some v → Cents v.finalOffer

variable {reads : Reads}

theorem offerRows_handle {db written db' : SalesDb} {request : Request} (hreads : reads.FromColumns)
    (hdb : OfferRows db) (hupdates : ∀ tenantId offerId ifMatch data offer,
      request = .updateOffer tenantId offerId ifMatch data →
      db.offers.lookup offerId = some offer → data.toDealChanges.Exact offer.toDeal)
    (hedits : ∀ tenantId offerId ifMatch edit,
      request = .editOffer tenantId offerId ifMatch edit → edit.Exact)
    (h : handle reads db request = .ok written) (hstore : written.store = .ok db') :
    OfferRows db' := by
  refine ⟨fun id offer' hrow => ?_, fun id v hrow => ?_⟩
  · obtain ⟨offer, hwritten, rfl⟩ := lookup_storedOffer hstore hrow
    refine WrittenOffer.stored ?_
    rcases offer_cases h hwritten with hold | ⟨tenantId, rfl⟩ | ⟨sourceId, source, hsource, hcopy⟩ |
      ⟨tenantId, ifMatch, data, old, hrequest, hold, hupdate⟩ |
      ⟨tenantId, ifMatch, edit, old, deal, hrequest, hold, hedit, rfl⟩
    · exact (hdb.offers id offer hold).written
    · exact ⟨written_unpriced rfl rfl (by simp [createOffer]),
        ⟨by simp [createOffer], by simp [createOffer], by simp [createOffer]⟩,
        fun hsome => absurd rfl hsome,
        ⟨fun hconfigured => absurd hconfigured.1 (by simp [createOffer]), fun _ => .inl rfl⟩⟩
    · exact writtenOffer_copyOffer hreads (hdb.offers sourceId source hsource) hcopy
    · obtain ⟨buyer, owner, hdeal⟩ := updateOffer_eq_ok hupdate
      exact writtenOffer_patch hreads ((hdb.offers id old hold).withParties buyer owner)
        ((hupdates tenantId id ifMatch data old hrequest hold).withParties buyer owner) hdeal
    · exact writtenOffer_edit (hdb.offers id old hold) hdb.valuations
        (hedits tenantId id ifMatch edit hrequest) hedit
  · obtain ⟨row, -, rfl⟩ := lookup_storedValuation hstore hrow
    exact cents_column _

theorem offerRows_run {requests : List (ColumnReads × Request)}
    (hok : Run.Along nextStored SentExactly (noDeals ∅) requests) :
    OfferRows (requests.foldl nextStored (noDeals ∅)) := by
  have hempty : OfferRows (noDeals ∅) := ⟨Table.forall_empty, Table.forall_empty⟩
  refine storedRun_invariant (fun reads db request written db' hdb hreq hhandle hstore => ?_)
    hempty hok
  refine offerRows_handle reads.2 hdb ?_ ?_ hhandle hstore
  · rintro tenantId offerId ifMatch data offer rfl hrow
    exact hreq offer hrow
  · rintro tenantId offerId ifMatch edit rfl
    exact hreq

/-! ### The copy -/

def LineItem.content (li : LineItem) : LineItem := { li with id := 0 }

/-- A contract carries the vehicle, the inputs, the figures and the trade-in of
an offer. -/
structure CopiesOffer (contract offer : Deal) : Prop where
  vehicle : contract.toVehicle = offer.toVehicle
  manualBasePrice : contract.manualBasePrice = offer.manualBasePrice
  discountType : contract.discountType = offer.discountType
  discountValue : contract.discountValue = offer.discountValue
  lines : contract.lines.map LineItem.content = offer.lines.map LineItem.content
  figures : contract.toFigures = offer.toFigures
  tradeIn : contract.toTradeIn = offer.toTradeIn

theorem lineTotal_content (lines : List LineItem) (kind : LineItemKind) :
    lineTotal (lines.map LineItem.content) kind = lineTotal lines kind := by
  unfold lineTotal
  rw [List.filter_map, List.map_map]
  rfl

variable {contract offer : Deal}

theorem CopiesOffer.buildUp_eq (h : CopiesOffer contract offer) :
    buildUp contract = buildUp offer := by
  have hlines : ∀ kind, lineTotal contract.lines kind = lineTotal offer.lines kind := by
    intro kind
    rw [← lineTotal_content, h.lines, lineTotal_content]
  have hsource : contract.vehicleSource = offer.vehicleSource :=
    congrArg Vehicle.vehicleSource h.vehicle
  have hsnapshot : contract.vehicleSnapshot = offer.vehicleSnapshot :=
    congrArg Vehicle.vehicleSnapshot h.vehicle
  simp only [buildUp, hsource, hsnapshot, h.manualBasePrice, h.discountType, h.discountValue,
    hlines]

theorem CopiesOffer.derived (h : CopiesOffer contract offer) (hoffer : Derived offer) :
    Derived contract := by
  intro hsnapshot
  rw [congrArg Vehicle.vehicleSnapshot h.vehicle] at hsnapshot
  rw [h.figures, hoffer hsnapshot]
  simp only [applyBuildUp, h.buildUp_eq, h.tradeIn]

theorem CopiesOffer.frozenAs (h : CopiesOffer contract offer) (hoffer : FrozenAs offer) :
    FrozenAs contract := by
  obtain ⟨hconfigured, hplain⟩ := hoffer
  have hvehicle := h.vehicle
  constructor
  · unfold Configured at hconfigured ⊢
    rw [hvehicle]
    exact hconfigured
  · unfold Configured vehicleIdentity at hplain ⊢
    rw [hvehicle]
    exact hplain

theorem content_copyLineItems (reads : Reads) (lines : List LineItem) :
    ((copyLineItems reads lines).map LineItem.stored).map LineItem.content =
      (lines.map LineItem.stored).map LineItem.content := by
  have hcontent : ∀ (rows : List (LineItem × ℕ)),
      ((rows.map fun r => { r.1 with id := reads.uuid r.2 : LineItem }).map LineItem.stored).map
          LineItem.content
        = ((rows.map Prod.fst).map LineItem.stored).map LineItem.content := by
    intro rows
    simp only [List.map_map]
    rfl
  have hfst : lines.zipIdx.map Prod.fst = lines := by simp
  unfold copyLineItems
  rw [hcontent, hfst]

theorem copiesOffer_contractFromOffer {tenantId offerId : Uuid} {offer : SalesOffer}
    (hstored : offer.toDeal.stored = offer.toDeal) :
    CopiesOffer (contractFromOffer reads tenantId offerId offer).stored.toDeal offer.toDeal where
  vehicle := rfl
  manualBasePrice := (congrArg (fun deal : Deal => deal.manualBasePrice) hstored :)
  discountType := rfl
  discountValue := (congrArg (fun deal : Deal => deal.discountValue) hstored :)
  lines := (content_copyLineItems reads offer.lines).trans
    (congrArg (fun deal : Deal => deal.lines.map LineItem.content) hstored)
  figures := (congrArg Deal.toFigures hstored :)
  tradeIn := (congrArg Deal.toTradeIn hstored :)

def OffersStored (db : SalesDb) : Prop :=
  ∀ id offer, db.offers.lookup id = some offer → offer.toDeal.stored = offer.toDeal

theorem offersStored_run (requests : List (ColumnReads × Request)) :
    OffersStored (requests.foldl nextStored (noDeals ∅)) := by
  have hempty : OffersStored (noDeals ∅) := Table.forall_empty
  have hany : Run.Along nextStored (fun _ _ => True) (noDeals ∅) requests :=
    Run.Along.of_forall (fun _ _ => trivial) _ _
  refine storedRun_invariant ?_ hempty hany
  intro reads db request written db' _ _ _ hstore id offer hrow
  obtain ⟨row, -, rfl⟩ := lookup_storedOffer hstore hrow
  exact row.toDeal.stored_stored

/-! ### The same price -/

/-- Two rows agree on everything the freeze and the build-up read, and on what
they wrote. -/
structure SamePrice (d e : Deal) : Prop where
  tenantId : d.tenantId = e.tenantId
  source : d.vehicleSource = e.vehicleSource
  configurationId : d.configurationId = e.configurationId
  identity : vehicleIdentity d none = vehicleIdentity e none
  snapshot : d.vehicleSnapshot = e.vehicleSnapshot
  frozenAt : d.vehicleSnapshotFrozenAt = e.vehicleSnapshotFrozenAt
  inputs : d.toPricingInputs = e.toPricingInputs
  figures : d.toFigures = e.toFigures
  tradeInValue : d.tradeInValue = e.tradeInValue

section

variable {d e : Deal}

theorem SamePrice.refl (d : Deal) : SamePrice d d := ⟨rfl, rfl, rfl, rfl, rfl, rfl, rfl, rfl, rfl⟩

theorem SamePrice.trans {f : Deal} (h : SamePrice d e) (h' : SamePrice e f) : SamePrice d f where
  tenantId := h.tenantId.trans h'.tenantId
  source := h.source.trans h'.source
  configurationId := h.configurationId.trans h'.configurationId
  identity := h.identity.trans h'.identity
  snapshot := h.snapshot.trans h'.snapshot
  frozenAt := h.frozenAt.trans h'.frozenAt
  inputs := h.inputs.trans h'.inputs
  figures := h.figures.trans h'.figures
  tradeInValue := h.tradeInValue.trans h'.tradeInValue

theorem SamePrice.stored (h : SamePrice d e) : SamePrice d.stored e.stored where
  tenantId := h.tenantId
  source := h.source
  configurationId := h.configurationId
  identity := h.identity
  snapshot := h.snapshot
  frozenAt := h.frozenAt
  inputs := congrArg (fun inputs : PricingInputs => ({
    manualBasePrice := inputs.manualBasePrice.map column
    discountType := inputs.discountType
    discountValue := inputs.discountValue.map column
    lines := inputs.lines.map LineItem.stored } : PricingInputs)) h.inputs
  figures := congrArg Figures.stored h.figures
  tradeInValue := congrArg (Option.map column) h.tradeInValue

theorem SamePrice.derived (h : SamePrice d e) (he : Derived e) : Derived d := by
  intro hsnapshot
  rw [h.snapshot] at hsnapshot
  rw [h.figures, he hsnapshot]
  simp only [applyBuildUp, buildUp_congr h.source h.snapshot h.inputs, h.tradeInValue]

theorem SamePrice.frozenAs (h : SamePrice d e) (he : FrozenAs e) : FrozenAs d := by
  have hconfigured : Configured d ↔ Configured e := by
    unfold Configured
    rw [h.source, h.configurationId]
  constructor
  · rw [hconfigured, h.frozenAt, h.snapshot]
    exact he.configured
  · rw [hconfigured, h.identity, h.frozenAt, h.snapshot]
    exact he.plain

end

/-! ### Requests that leave the price alone -/

/-- The PATCH leaves the columns the freeze and the build-up read, and an
attached configuration has the version that is frozen. -/
def LeavesPrice (reads : Reads) (deal : Deal) (changes : DealChanges) : Prop :=
  (∀ patched ∈ (patchDeal reads deal changes "contract").toOption,
    patched.vehicleSource = deal.vehicleSource ∧ patched.configurationId = deal.configurationId ∧
      vehicleIdentity patched none = vehicleIdentity deal none ∧
      patched.manualBasePrice = deal.manualBasePrice ∧
      patched.discountType = deal.discountType ∧ patched.discountValue = deal.discountValue) ∧
  (deal.vehicleSource = some .manual → ∀ id ∈ deal.configurationId,
    ∀ c ∈ reads.configuration deal.tenantId id,
      deal.vehicleSnapshot.map (·.identity) = some s!"configuration:{c.id}:{c.version}")

def ChangesNoPrice (contractId : Uuid) (db : SalesDb) (a : ColumnReads × Request) : Prop :=
  match a.2 with
  | .updateContract _ id _ data => id = contractId → ∀ contract ∈ db.contracts.lookup id,
      LeavesPrice a.1 contract.toDeal data.1.toDealChanges
  | .editContract _ id _ _ => id ≠ contractId
  | .createOffer _ | .copyOffer .. | .updateOffer .. | .editOffer .. | .createContract ..
  | .createValuation _ | .consumeValuation .. | .revertValuationUse _ => True

section

variable {reads : Reads} {deal deal' : Deal}

theorem patchDeal_withParties (reads : Reads) (deal : Deal) (changes : DealChanges) (host : String)
    (buyer : Buyer) (owner : Owner) :
    patchDeal reads { deal with toBuyer := buyer, toOwner := owner } changes host =
      (patchDeal reads deal changes host).map
        (fun patched => { patched with toBuyer := buyer, toOwner := owner }) := by
  unfold patchDeal changeConfiguration
  cases changes.configurationId with
  | none =>
    dsimp only
    split <;> rfl
  | some configurationId =>
    cases configurationId with
    | none => rfl
    | some id =>
      simp only [attachConfiguration]
      cases getConfigurationForHost reads deal.tenantId id with
      | error e => rfl
      | ok configuration =>
        simp only [bind, Except.bind]
        cases requireBuildMode configuration host <;> rfl

variable {changes : DealChanges}

theorem patchDeal_frozenAt {host : String} (h : patchDeal reads deal changes host = .ok deal') :
    deal'.vehicleSnapshotFrozenAt = deal.vehicleSnapshotFrozenAt := by
  rcases patchDeal_cases h with ⟨id, configuration, -, -, -, rfl⟩ | ⟨-, rfl⟩
  · rfl
  · unfold requested
    split <;> rfl

theorem samePrice_patch {buyer : Buyer} {owner : Owner} (hderived : Derived deal)
    (hfrozen : FrozenAs deal) (hleaves : LeavesPrice reads deal changes)
    (h : applyVehicleAndPricingChanges reads { deal with toBuyer := buyer, toOwner := owner }
      changes "contract" = .ok deal') : SamePrice deal' deal := by
  obtain ⟨patched, hpatch, hreprice⟩ := applyVehicleAndPricingChanges_eq_ok h
  rw [patchDeal_withParties] at hpatch
  obtain ⟨row, hrow, rfl⟩ := Result.map_eq_ok.mp hpatch
  obtain ⟨hsame, hcurrent⟩ := hleaves
  obtain ⟨hsource, hconfiguration, hidentity, hbase, htype, hvalue⟩ := hsame row (by rw [hrow]; rfl)
  obtain ⟨htrade, -, -, htenant, -, hfigures, hsnapshot, hlines⟩ := patchDeal_frame hrow
  have hfrozenAt := patchDeal_frozenAt hrow
  have hinputs : row.toPricingInputs = deal.toPricingInputs := by
    cases hr : row.toPricingInputs
    cases hd : deal.toPricingInputs
    simp_all
  have hprice : SamePrice { row with toBuyer := buyer, toOwner := owner } deal :=
    ⟨htenant, hsource, hconfiguration, hidentity, hsnapshot, hfrozenAt, hinputs, hfigures,
      congrArg TradeIn.tradeInValue htrade⟩
  rw [← hprice.source, ← hprice.configurationId, ← hprice.tenantId, ← hprice.snapshot] at hcurrent
  have hkept := reprice_keeps_figures (hprice.frozenAs hfrozen) (hprice.derived hderived) hcurrent
    hreprice
  rw [hkept]
  exact hprice

end

/-- The contract is there, at the price of `start`. -/
def Follows (contractId : Uuid) (start : Deal) (db : SalesDb) : Prop :=
  ∃ contract, db.contracts.lookup contractId = some contract ∧ SamePrice contract.toDeal start

section

variable {contractId : Uuid} {start : Deal} {reads : ColumnReads} {db written db' : SalesDb}
  {request : Request}

theorem follows_store (hstart : start.stored = start) (h : Follows contractId start written)
    (hstore : written.store = .ok db') : Follows contractId start db' := by
  obtain ⟨contract, hrow, hsame⟩ := h
  refine ⟨contract.stored, ?_, ?_⟩
  · rw [(store_eq_ok hstore).2.1, Table.lookup_mapRows, hrow]
    rfl
  · have hstored : SamePrice contract.stored.toDeal start.stored := hsame.stored
    rw [hstart] at hstored
    exact hstored

theorem follows_handle (hderived : Derived start) (hfrozen : FrozenAs start)
    (hdb : Follows contractId start db) (hok : ChangesNoPrice contractId db (reads, request))
    (h : handle reads db request = .ok written) : Follows contractId start written := by
  obtain ⟨contract, hrow, hsame⟩ := hdb
  have hother : ∀ id row, id ≠ contractId → written.contracts = db.contracts.insert id row →
      Follows contractId start written := by
    intro id row hne hins
    refine ⟨contract, ?_, hsame⟩
    rw [hins, Table.lookup_insert_iff, if_neg (Ne.symm hne), hrow]
  rcases handle_contracts h with hkept | ⟨tenantId, data, id, row, rfl, -, hfresh, hins⟩ |
    ⟨tenantId, ifMatch, data, id, old, row, rfl, hold, hupdate, hins⟩ |
    ⟨tenantId, ifMatch, edit, id, old, deal, rfl, -, -, -, hins⟩
  · exact ⟨contract, by rw [hkept, hrow], hsame⟩
  · refine hother id row (fun hid => ?_) hins
    rw [hid, hrow] at hfresh
    cases hfresh
  · by_cases hid : id = contractId
    · subst hid
      obtain rfl : old = contract := Option.mem_unique hold hrow
      refine ⟨row, by rw [hins, Table.lookup_insert_iff, if_pos rfl], ?_⟩
      obtain ⟨-, ⟨buyer, rfl⟩ | ⟨buyer, owner, deal, rfl, hdeal⟩⟩ := updateContract_eq_ok hupdate
      · exact ⟨hsame.tenantId, hsame.source, hsame.configurationId, hsame.identity, hsame.snapshot,
          hsame.frozenAt, hsame.inputs, hsame.figures, hsame.tradeInValue⟩
      · exact (samePrice_patch (hsame.derived hderived) (hsame.frozenAs hfrozen)
          (hok rfl old hold) hdeal).trans hsame
    · exact hother id row hid hins
  · exact hother id _ hok hins

theorem follows_run (hstart : start.stored = start) (hderived : Derived start)
    (hfrozen : FrozenAs start) (hdb : Follows contractId start db)
    {later : List (ColumnReads × Request)}
    (hok : Run.Along nextStored (ChangesNoPrice contractId) db later) :
    Follows contractId start (later.foldl nextStored db) :=
  storedRun_invariant (fun _ _ _ _ _ hfollows hreq hhandle hstore =>
    follows_store hstart (follows_handle hderived hfrozen hfollows hreq hhandle) hstore) hdb hok

end

section Contracts

variable {reads : ColumnReads} {db db' : SalesDb} {tenantId offerId : Uuid} {offer : SalesOffer}

theorem created_contract (hoffer : db.offers.lookup offerId = some offer)
    (h : handleStored reads db (.createContract tenantId (.offer offerId)) = .ok db') :
    db'.contracts.lookup (reads.1.uuid 0)
      = some (contractFromOffer reads tenantId offerId offer).stored := by
  obtain ⟨written, hhandle, hstore⟩ := handleStored_eq_ok h
  cases handled_of_ok hhandle with
  | createContract _ _ contract hcreate _ =>
    obtain ⟨source, hsource, hcreate⟩ := Result.of_bind hcreate
    obtain ⟨-, -, hcreate⟩ := Result.of_bind hcreate
    cases hcreate
    obtain rfl : source = offer :=
      Option.mem_unique (getOfferOr404_eq_ok hsource) hoffer
    rw [(store_eq_ok hstore).2.1, Table.lookup_mapRows, Table.lookup_insert_iff, if_pos rfl]
    rfl

/-- **The contract of an offer.**  It carries the columns, the lines and the
figures of the offer, and the build-up gives for both the same.  When what was
sent for the offers fits their columns, its figures stay the offer's as long as
no request changes anything of its price. -/
theorem contract_keeps_price (before : List (ColumnReads × Request)) (reads : ColumnReads)
    (tenantId offerId : Uuid) (offer : SalesOffer) (db' : SalesDb)
    (hoffer : (before.foldl nextStored (noDeals ∅)).offers.lookup offerId = some offer)
    (hcreate : handleStored reads (before.foldl nextStored (noDeals ∅))
      (.createContract tenantId (.offer offerId)) = .ok db') :
    (∃ contract, db'.contracts.lookup (reads.1.uuid 0) = some contract ∧
      CopiesOffer contract.toDeal offer.toDeal ∧ buildUp contract.toDeal = buildUp offer.toDeal) ∧
    (Run.Along nextStored SentExactly (noDeals ∅) before →
      ∀ later, Run.Along nextStored (ChangesNoPrice (reads.1.uuid 0)) db' later →
        ∃ contract, (later.foldl nextStored db').contracts.lookup (reads.1.uuid 0) = some contract ∧
          contract.toFigures = offer.toFigures) := by
  have hcontract := created_contract hoffer hcreate
  have hcopies : CopiesOffer (contractFromOffer reads tenantId offerId offer).stored.toDeal
      offer.toDeal := copiesOffer_contractFromOffer (offersStored_run before offerId offer hoffer)
  refine ⟨⟨_, hcontract, hcopies, hcopies.buildUp_eq⟩, fun hok later hlater => ?_⟩
  have hrow := (offerRows_run hok).offers offerId offer hoffer
  obtain ⟨contract, hkept, hsame⟩ := follows_run (Deal.stored_stored _) (hcopies.derived hrow.derived)
    (hcopies.frozenAs hrow.frozen) ⟨_, hcontract, SamePrice.refl _⟩ hlater
  exact ⟨contract, hkept, hsame.figures.trans hcopies.figures⟩

end Contracts

instance (deal : Deal) (changes : DealChanges) : Decidable (changes.Exact deal) := by
  unfold DealChanges.Exact
  infer_instance

instance (data : LineItemsReplaceRequest) : Decidable data.Exact := by
  unfold LineItemsReplaceRequest.Exact DiscountInCents
  infer_instance

instance : ∀ edit, Decidable (Edit.Exact edit)
  | .replaceLineItems data => inferInstanceAs (Decidable data.Exact)
  | .setTradeIn _ | .attachTradeInValuation _ => inferInstanceAs (Decidable True)

instance (db : SalesDb) : ∀ a, Decidable (SentExactly db a)
  | (_, .updateOffer _ offerId _ data) => inferInstanceAs (Decidable
      (∀ offer ∈ db.offers.lookup offerId, data.toDealChanges.Exact offer.toDeal))
  | (_, .editOffer _ _ _ edit) => inferInstanceAs (Decidable edit.Exact)
  | (_, .createOffer _) | (_, .copyOffer ..) | (_, .createContract ..) | (_, .updateContract ..)
  | (_, .editContract ..) | (_, .createValuation _) | (_, .consumeValuation ..)
  | (_, .revertValuationUse _) => inferInstanceAs (Decidable True)

instance (reads : Reads) (deal : Deal) (changes : DealChanges) :
    Decidable (LeavesPrice reads deal changes) := by
  unfold LeavesPrice
  infer_instance

instance (contractId : Uuid) (db : SalesDb) : ∀ a, Decidable (ChangesNoPrice contractId db a)
  | (reads, .updateContract _ id _ data) => inferInstanceAs (Decidable
      (id = contractId → ∀ contract ∈ db.contracts.lookup id,
        LeavesPrice reads contract.toDeal data.1.toDealChanges))
  | (_, .editContract _ id _ _) => inferInstanceAs (Decidable (id ≠ contractId))
  | (_, .createOffer _) | (_, .copyOffer ..) | (_, .updateOffer ..) | (_, .editOffer ..)
  | (_, .createContract ..) | (_, .createValuation _) | (_, .consumeValuation ..)
  | (_, .revertValuationUse _) => inferInstanceAs (Decidable True)

/-- A manual car with a percentage off and two accessories. -/
def offerRun : List (ColumnReads × Request) :=
  [(noReads, .createOffer 1),
    (noReads, .updateOffer 1 0 1
      { vehicleSource := some (some .manual), vehicleLabel := some (some "Golf"),
        manualVehicleCondition := some (some "new"), manualBasePrice := some (some 20000),
        discountType := some (some .percent), discountValue := some (some (333 / 100)) }),
    (noReads, .editOffer 1 0 2 (.replaceLineItems
      { accessories := [{ code := "T", label := "Towbar", unitPrice := 9995 / 100, quantity := 2 }] }))]

def contracting : ColumnReads × Request := (noReads, .createContract 1 (.offer 0))

def unassigning : ColumnReads × Request :=
  (noReads, .updateContract 1 0 1 ⟨{ ownerUserId := some none }, rfl⟩)

theorem contract_keeps_price_offerRun :
    ∃ offer contract, (offerRun.foldl nextStored (noDeals ∅)).offers.lookup 0 = some offer ∧
      ((offerRun ++ [contracting, unassigning]).foldl nextStored (noDeals ∅)).contracts.lookup 0
        = some contract ∧ contract.version = 2 ∧ contract.toFigures = offer.toFigures := by
  have hsome : ((offerRun.foldl nextStored (noDeals ∅)).offers.lookup 0).isSome = true := by
    decide +kernel
  have hcreate := handleStored_of_isOk (show (handleStored noReads
    (offerRun.foldl nextStored (noDeals ∅)) contracting.2).isOk = true by decide +kernel)
  have hsent : Run.Along nextStored SentExactly (noDeals ∅) offerRun := by decide +kernel
  have hlater : Run.Along nextStored (ChangesNoPrice 0)
      (nextStored (offerRun.foldl nextStored (noDeals ∅)) contracting) [unassigning] := by
    decide +kernel
  have hversion : (((offerRun ++ [contracting, unassigning]).foldl nextStored
      (noDeals ∅)).contracts.lookup 0).map (·.version) = some 2 := by
    decide +kernel
  obtain ⟨offer, hoffer⟩ := Option.isSome_iff_exists.mp hsome
  obtain ⟨-, hkeeps⟩ := contract_keeps_price offerRun noReads 1 0 offer _ hoffer hcreate
  obtain ⟨contract, hrow, hfigures⟩ := hkeeps hsent [unassigning] hlater
  refine ⟨offer, contract, hoffer, ?_, ?_, hfigures⟩
  · rw [List.foldl_append]
    exact hrow
  · rw [List.foldl_append, List.foldl_cons] at hversion
    obtain ⟨row, hrow', hversion⟩ := Option.map_eq_some_iff.mp hversion
    obtain rfl : row = contract := Option.mem_unique hrow' hrow
    exact hversion

def thirdsRun : List (ColumnReads × Request) :=
  [(noReads, .createOffer 1),
    (noReads, .updateOffer 1 0 1
      { vehicleSource := some (some .manual), vehicleLabel := some (some "Golf"),
        manualVehicleCondition := some (some "new"), manualBasePrice := some (some 20000) }),
    (noReads, .editOffer 1 0 2 (.replaceLineItems
      { accessories := [{ code := "T", label := "Towbar", unitPrice := 10005 / 1000,
                          quantity := 3 }] }))]

/-- The offer was priced at 20030.02; its contract, edited in its seller only, is
priced from the stored 10.01 at 20030.03. -/
theorem thirdsRun_reprices :
    ¬ ∀ (before : List (ColumnReads × Request)) (reads : ColumnReads) (tenantId offerId : Uuid)
      (offer : SalesOffer) (db' : SalesDb),
      (before.foldl nextStored (noDeals ∅)).offers.lookup offerId = some offer →
      handleStored reads (before.foldl nextStored (noDeals ∅))
        (.createContract tenantId (.offer offerId)) = .ok db' →
      ∀ later, Run.Along nextStored (ChangesNoPrice (reads.1.uuid 0)) db' later →
        ∃ contract, (later.foldl nextStored db').contracts.lookup (reads.1.uuid 0) = some contract ∧
          contract.toFigures = offer.toFigures := by
  intro h
  have hoffered : ((thirdsRun.foldl nextStored (noDeals ∅)).offers.lookup 0).map (·.grossPrice)
      = some (some (2003002 / 100)) := by
    decide +kernel
  have hedited : (([unassigning].foldl nextStored (nextStored (thirdsRun.foldl nextStored
      (noDeals ∅)) contracting)).contracts.lookup 0).map (·.grossPrice)
      = some (some (2003003 / 100)) := by
    decide +kernel
  have hcreate := handleStored_of_isOk (show (handleStored noReads
    (thirdsRun.foldl nextStored (noDeals ∅)) contracting.2).isOk = true by decide +kernel)
  have hlater : Run.Along nextStored (ChangesNoPrice 0)
      (nextStored (thirdsRun.foldl nextStored (noDeals ∅)) contracting) [unassigning] := by
    decide +kernel
  obtain ⟨offer, hoffer, hquoted⟩ := Option.map_eq_some_iff.mp hoffered
  obtain ⟨row, hrow, hrepriced⟩ := Option.map_eq_some_iff.mp hedited
  obtain ⟨contract, hcontract, hfigures⟩ :=
    h thirdsRun noReads 1 0 offer _ hoffer hcreate [unassigning] hlater
  obtain rfl : row = contract := Option.mem_unique hrow hcontract
  have hsame : row.grossPrice = offer.grossPrice := congrArg Figures.grossPrice hfigures
  rw [hrepriced, hquoted] at hsame
  exact absurd hsame (by decide +kernel)

end Nexotec
