/-
A signed contract's valuation is used.

A stamp is taken back only by the confirmation that set it, so at most one session can ever
take a given stamp back (`Local.stamp`), and the events of a valuation alternate in every run.
What can go wrong is a second contract that found the stamp set and signs on it while the
first confirmation takes it back: its read of the other contracts sees no signature that is
not yet committed.
-/
import Mathlib.Data.List.Chain
import Nexotec.Confirmation.UsedStamp

namespace Nexotec.UsedStamp

open Interleaving Run
open Confirmation (Job Undo Outcome undoOf)

variable {ι : Type} {i j : ι} {now : Time} {sh sh' : Shared ι} {lo lo' : Local}

section Facts

variable {valuations : Table Uuid Valuation} {valuationId w tenantId : Uuid}

def Values (valuations : Table Uuid Valuation) (valuationId tenantId : Uuid) : Prop :=
  ∃ valuation, valuations.lookup valuationId = some valuation ∧ valuation.tenantId = tenantId

variable {valuation : Valuation}

theorem isUsed_of_lookup (h : valuations.lookup valuationId = some valuation) :
    isUsed valuations valuationId = valuation.usedAt.isSome := by
  rw [isUsed, h, Option.any_some]

theorem isUsed_markUsed (h : Values valuations valuationId tenantId) :
    isUsed (markUsed now valuations valuationId) valuationId = true := by
  obtain ⟨valuation, hrow, -⟩ := h
  rw [isUsed, markUsed, Table.lookup_modify_self, hrow]
  rfl

theorem isUsed_markUsed_ne (h : w ≠ valuationId) :
    isUsed (markUsed now valuations valuationId) w = isUsed valuations w := by
  rw [isUsed, markUsed, Table.lookup_modify_ne h, isUsed]

theorem isUsed_revertUse : isUsed (revertUse valuations valuationId) valuationId = false := by
  rw [isUsed, revertUse, Table.lookup_modify_self]
  cases valuations.lookup valuationId <;> rfl

theorem isUsed_revertUse_ne (h : w ≠ valuationId) :
    isUsed (revertUse valuations valuationId) w = isUsed valuations w := by
  rw [isUsed, revertUse, Table.lookup_modify_ne h, isUsed]

theorem isUsed_mono_markUsed (h : isUsed valuations w = true) :
    isUsed (markUsed now valuations valuationId) w = true := by
  by_cases hw : w = valuationId
  · subst hw
    obtain ⟨valuation, hrow, -⟩ := (Option.any_eq_true _ _).mp h
    exact isUsed_markUsed ⟨valuation, hrow, rfl⟩
  · rw [isUsed_markUsed_ne hw, h]

theorem Values.modify {f : Valuation → Valuation} (hf : ∀ v, (f v).tenantId = v.tenantId)
    (h : Values valuations w tenantId) :
    Values (Table.modify valuationId f valuations) w tenantId := by
  obtain ⟨valuation, hrow, htenant⟩ := h
  by_cases hw : w = valuationId
  · subst hw
    exact ⟨f valuation, by rw [Table.lookup_modify_self, hrow]; rfl, by rw [hf, htenant]⟩
  · exact ⟨valuation, by rw [Table.lookup_modify_ne hw, hrow], htenant⟩

theorem getValuationOr404_values
    (h : getValuationOr404 valuations tenantId valuationId = .ok valuation) :
    valuations.lookup valuationId = some valuation ∧ valuation.tenantId = tenantId := by
  rw [getValuationOr404, orNotFound_eq_ok, Option.filter_eq_some_iff] at h
  exact ⟨h.1, by simpa using h.2⟩

theorem consumeForContract_eq_ok {valuations' : Table Uuid Valuation} {newlyUsed : Bool}
    (h : consumeForContract valuations tenantId valuationId now = .ok (valuations', newlyUsed)) :
    Values valuations valuationId tenantId ∧ isUsed valuations valuationId = !newlyUsed := by
  obtain ⟨valuation, hget, h⟩ := Result.of_bind h
  obtain ⟨hrow, htenant⟩ := getValuationOr404_values hget
  refine ⟨⟨valuation, hrow, htenant⟩, ?_⟩
  rw [isUsed_of_lookup hrow]
  split at h
  · cases h
  · split at h
    · next hused =>
      obtain ⟨-, rfl⟩ := Prod.mk.inj (Except.ok.inj h)
      exact hused
    · next hused =>
      obtain ⟨-, rfl⟩ := Prod.mk.inj (Except.ok.inj h)
      simpa using hused

variable [DecidableEq ι] {cfg : Config ι (Shared ι) Local}

/-- A signature with nothing committed since `consume_for_contract` found the valuation used is timely. -/
theorem timely_of_consume {job : Job}
    (hconsume : consume i now job sh = some (sh', .consumed job false)) (hsame : cfg.shared = sh')
    (hlo : cfg.locals i = .consumed job false) (reservationId : Option Uuid) (outcome : Outcome) :
    Timely cfg (i, .sign reservationId outcome) := by
  intro job' hjob _ valuationId hcarried
  rw [hlo] at hjob
  cases hjob
  unfold consume at hconsume
  rw [hcarried] at hconsume
  dsimp only at hconsume
  split at hconsume
  · split at hconsume
    · cases hconsume
    · next hused =>
      cases hconsume
      rw [hsame]
      exact (consumeForContract_eq_ok hused).2
    · cases hconsume
  · cases hconsume

/-- So is a revert with nothing committed since the look for another signed contract. -/
theorem timely_of_checkElsewhere {undo : Undo}
    (hcheck : checkElsewhere i undo sh = (sh', .reverting undo valuationId)) (hsame : cfg.shared = sh')
    (hlo : cfg.locals i = .clearing undo valuationId) (outcome : Outcome) :
    Timely cfg (i, .commitRevert outcome) := by
  intro undo' valuationId' hclearing _ _
  rw [hlo] at hclearing
  cases hclearing
  unfold checkElsewhere at hcheck
  split at hcheck
  · split at hcheck
    · next hnone =>
      cases hcheck
      rw [hsame]
      exact hnone.2
    · cases hcheck
  · cases hcheck

end Facts

/-! ### Alternation -/

/-- The events so far alternate, and the last one says what the row says. -/
structure Tracks (events : List UseEvent) (used : Bool) : Prop where
  alternates : Alternates events
  last : events.getLast? = some .used ↔ used = true

variable {events : List UseEvent}

theorem alternates_snoc {event : UseEvent} (h : Alternates events)
    (hlast : ∀ e ∈ events.getLast?, e ≠ event) (hfirst : events = [] → event = .used) :
    Alternates (events ++ [event]) := by
  refine ⟨List.isChain_append.mpr ⟨h.1, List.isChain_singleton event, ?_⟩, ?_⟩
  · intro e he e' he'
    obtain rfl : e' = event := by simpa using he'.symm
    exact hlast e he
  · cases events with
    | nil => simpa using hfirst rfl
    | cons e es => simpa using h.2

theorem Tracks.used (h : Tracks events false) : Tracks (events ++ [.used]) true := by
  refine ⟨alternates_snoc h.alternates ?_ fun _ => rfl, by simp⟩
  rintro e he rfl
  exact absurd (h.last.mp he) (by simp)

theorem Tracks.reverted (h : Tracks events true) : Tracks (events ++ [.useReverted]) false := by
  have hlast := h.last.mpr rfl
  refine ⟨alternates_snoc h.alternates ?_ ?_, by simp⟩
  · intro e he
    rw [hlast] at he
    cases he
    simp
  · rintro rfl
    cases hlast

theorem useEvents_append_self (valuationId : Uuid) (events : List (Uuid × UseEvent))
    (event : UseEvent) : useEvents valuationId (events ++ [(valuationId, event)]) =
      useEvents valuationId events ++ [event] := by
  simp [useEvents]

variable {valuationId : Uuid}

theorem useEvents_append_ne {w : Uuid} (h : w ≠ valuationId) (events : List (Uuid × UseEvent))
    (event : UseEvent) : useEvents w (events ++ [(valuationId, event)]) = useEvents w events := by
  simp [useEvents, Ne.symm h]

/-! ### The invariant -/

def HasTenant (contracts : Table Uuid SalesContract) (contractId tenantId : Uuid) : Prop :=
  ∃ contract, contracts.lookup contractId = some contract ∧ contract.tenantId = tenantId

/-- The contract is not signed, and nobody else can sign it meanwhile. -/
structure Guarded (i : ι) (sh : Shared ι) (undo : Undo) : Prop where
  lock : sh.contractLock undo.contractId = some i
  unsigned : ∀ contract, sh.contracts.lookup undo.contractId = some contract →
    contract.signedAt = none

/-- The valuation is not used, and nobody else can stamp it meanwhile. -/
structure Unstamped (i : ι) (sh : Shared ι) (valuationId tenantId : Uuid) : Prop where
  lock : sh.valuationLock valuationId = some i
  values : Values sh.valuations valuationId tenantId
  unused : isUsed sh.valuations valuationId = false

/-- The contract is locked, of this dealership, and so is the valuation it names. -/
structure Holding (i : ι) (sh : Shared ι) (job : Job) : Prop where
  lock : sh.contractLock job.contractId = some i
  tenant : HasTenant sh.contracts job.contractId job.contract.tenantId

def Knows (i : ι) (sh : Shared ι) : Local → Prop
  | .idle => True
  | .guarded job => Holding i sh job
  | .stamping job valuationId => Holding i sh job ∧
      job.contract.tradeInValuationId = some valuationId ∧
      Unstamped i sh valuationId job.contract.tenantId
  | .consumed job _ => Holding i sh job ∧ ∀ valuationId,
      job.contract.tradeInValuationId = some valuationId →
        Values sh.valuations valuationId job.contract.tenantId
  | .compensating undo => HasTenant sh.contracts undo.contractId undo.tenantId ∧
      ∀ valuationId, undo.valuationId = some valuationId →
        Values sh.valuations valuationId undo.tenantId
  | .undoing undo => Guarded i sh undo ∧ ∀ valuationId, undo.valuationId = some valuationId →
      Values sh.valuations valuationId undo.tenantId
  | .reverting undo valuationId | .clearing undo valuationId => Guarded i sh undo ∧
      Values sh.valuations valuationId undo.tenantId
  | .marking tenantId valuationId => Unstamped i sh valuationId tenantId
  | .repairing valuationId => ∃ tenantId, Unstamped i sh valuationId tenantId

/-- The valuation whose stamp the session has set and may still take back. -/
def Local.stamp : Local → Option Uuid
  | .consumed job newlyUsed => if newlyUsed then job.contract.tradeInValuationId else none
  | .compensating undo | .undoing undo => if undo.valuationNewlyUsed then undo.valuationId else none
  | .reverting _ valuationId | .clearing _ valuationId => some valuationId
  | .idle | .guarded _ | .stamping _ _ | .marking _ _ | .repairing _ => none

/-- What the tables and the outbox say together. -/
structure Good (sh : Shared ι) : Prop where
  carried : ∀ id contract, sh.contracts.lookup id = some contract → contract.signedAt ≠ none →
    ∀ valuationId, contract.tradeInValuationId = some valuationId →
      Values sh.valuations valuationId contract.tenantId
  tracks : ∀ valuationId, Tracks (useEvents valuationId sh.events) (isUsed sh.valuations valuationId)

/-- Nobody but the session that set a stamp can take it back. -/
structure Stamps (cfg : Config ι (Shared ι) Local) : Prop where
  used : ∀ i valuationId, (cfg.locals i).stamp = some valuationId →
    isUsed cfg.shared.valuations valuationId = true
  unique : ∀ i j valuationId, (cfg.locals i).stamp = some valuationId →
    (cfg.locals j).stamp = some valuationId → i = j

/-! ### What a step leaves to the others -/

/-- What a step of session `i` leaves as it is for every other session. -/
structure Frame (i : ι) (sh sh' : Shared ι) : Prop where
  contractLock : ∀ id j, j ≠ i → sh.contractLock id = some j → sh'.contractLock id = some j
  valuationLock : ∀ id j, j ≠ i → sh.valuationLock id = some j → sh'.valuationLock id = some j
  tenant : ∀ id tenantId, HasTenant sh.contracts id tenantId → HasTenant sh'.contracts id tenantId
  values : ∀ id tenantId, Values sh.valuations id tenantId → Values sh'.valuations id tenantId
  row : ∀ id j, j ≠ i → sh.contractLock id = some j →
    sh'.contracts.lookup id = sh.contracts.lookup id
  stamp : ∀ id j, j ≠ i → sh.valuationLock id = some j →
    isUsed sh'.valuations id = isUsed sh.valuations id

theorem Frame.refl (i : ι) (sh : Shared ι) : Frame i sh sh :=
  ⟨fun _ _ _ h => h, fun _ _ _ h => h, fun _ _ h => h, fun _ _ h => h, fun _ _ _ _ => rfl,
    fun _ _ _ _ => rfl⟩

theorem Frame.trans {sh'' : Shared ι} (h : Frame i sh sh') (h' : Frame i sh' sh'') :
    Frame i sh sh'' where
  contractLock id j hj hlock := h'.contractLock id j hj (h.contractLock id j hj hlock)
  valuationLock id j hj hlock := h'.valuationLock id j hj (h.valuationLock id j hj hlock)
  tenant id tenantId htenant := h'.tenant id tenantId (h.tenant id tenantId htenant)
  values id tenantId hvalues := h'.values id tenantId (h.values id tenantId hvalues)
  row id j hj hlock := (h'.row id j hj (h.contractLock id j hj hlock)).trans (h.row id j hj hlock)
  stamp id j hj hlock :=
    (h'.stamp id j hj (h.valuationLock id j hj hlock)).trans (h.stamp id j hj hlock)

variable {job : Job}

theorem Holding.transfer (h : Holding j sh job) (hf : Frame i sh sh') (hj : j ≠ i) :
    Holding j sh' job :=
  ⟨hf.contractLock _ j hj h.lock, hf.tenant _ _ h.tenant⟩

variable {undo : Undo}

theorem Guarded.transfer (h : Guarded j sh undo) (hf : Frame i sh sh') (hj : j ≠ i) :
    Guarded j sh' undo :=
  ⟨hf.contractLock _ j hj h.lock, fun contract hrow =>
    h.unsigned contract (by rw [← hf.row _ j hj h.lock]; exact hrow)⟩

variable {tenantId : Uuid}

theorem Unstamped.transfer (h : Unstamped j sh valuationId tenantId) (hf : Frame i sh sh')
    (hj : j ≠ i) : Unstamped j sh' valuationId tenantId :=
  ⟨hf.valuationLock _ j hj h.lock, hf.values _ _ h.values,
    by rw [hf.stamp _ j hj h.lock, h.unused]⟩

theorem Knows.transfer (h : Knows j sh lo) (hf : Frame i sh sh') (hj : j ≠ i) : Knows j sh' lo := by
  cases lo with
  | idle => trivial
  | guarded job => exact Holding.transfer h hf hj
  | stamping job valuationId => exact ⟨h.1.transfer hf hj, h.2.1, h.2.2.transfer hf hj⟩
  | consumed job newlyUsed => exact ⟨h.1.transfer hf hj, fun v hv => hf.values _ _ (h.2 v hv)⟩
  | compensating undo => exact ⟨hf.tenant _ _ h.1, fun v hv => hf.values _ _ (h.2 v hv)⟩
  | undoing undo => exact ⟨h.1.transfer hf hj, fun v hv => hf.values _ _ (h.2 v hv)⟩
  | reverting undo valuationId => exact ⟨h.1.transfer hf hj, hf.values _ _ h.2⟩
  | clearing undo valuationId => exact ⟨h.1.transfer hf hj, hf.values _ _ h.2⟩
  | marking tenantId valuationId => exact Unstamped.transfer h hf hj
  | repairing valuationId =>
    obtain ⟨tenantId, h⟩ := h
    exact ⟨tenantId, h.transfer hf hj⟩

/-! ### The three commits -/

theorem Good.congr (h : Good sh) (hcontracts : sh'.contracts = sh.contracts)
    (hvaluations : sh'.valuations = sh.valuations) (hevents : sh'.events = sh.events) :
    Good sh' := by
  refine ⟨?_, ?_⟩
  · rw [hcontracts, hvaluations]
    exact h.carried
  · rw [hvaluations, hevents]
    exact h.tracks

theorem good_stamp (h : Good sh) (hrow : Unstamped i sh valuationId tenantId) :
    Good (stamp now valuationId sh) := by
  refine ⟨fun id contract hcontract hsigned w hw => (h.carried id contract hcontract hsigned w
    hw).modify fun _ => rfl, fun w => ?_⟩
  by_cases hw : w = valuationId
  · subst hw
    have htracks := h.tracks w
    rw [hrow.unused] at htracks
    change Tracks (useEvents w (sh.events ++ [(w, .used)])) (isUsed (markUsed now sh.valuations w) w)
    rw [useEvents_append_self, isUsed_markUsed hrow.values]
    exact htracks.used
  · change Tracks (useEvents w (sh.events ++ [(valuationId, .used)]))
      (isUsed (markUsed now sh.valuations valuationId) w)
    rw [useEvents_append_ne hw, isUsed_markUsed_ne hw]
    exact h.tracks w

theorem frame_stamp (hlock : sh.valuationLock valuationId = some i) :
    Frame i sh (stamp now valuationId sh) where
  contractLock _ _ _ h := h
  valuationLock _ _ _ h := h
  tenant _ _ h := h
  values _ _ h := h.modify fun _ => rfl
  row _ _ _ _ := rfl
  stamp id j hj h := by
    have hne : id ≠ valuationId := by
      rintro rfl
      exact hj (Option.mem_unique h hlock)
    exact isUsed_markUsed_ne hne

theorem good_unstamp (h : Good sh) (hused : isUsed sh.valuations valuationId = true) :
    Good (unstamp valuationId sh) := by
  refine ⟨fun id contract hcontract hsigned w hw => (h.carried id contract hcontract hsigned w
    hw).modify fun _ => rfl, fun w => ?_⟩
  by_cases hw : w = valuationId
  · subst hw
    have htracks := h.tracks w
    rw [hused] at htracks
    change Tracks (useEvents w (sh.events ++ [(w, .useReverted)])) (isUsed (revertUse sh.valuations w) w)
    rw [useEvents_append_self, isUsed_revertUse]
    exact htracks.reverted
  · change Tracks (useEvents w (sh.events ++ [(valuationId, .useReverted)]))
      (isUsed (revertUse sh.valuations valuationId) w)
    rw [useEvents_append_ne hw, isUsed_revertUse_ne hw]
    exact h.tracks w

theorem frame_unstamp (hfree : sh.valuationLock valuationId = none) :
    Frame i sh (unstamp valuationId sh) where
  contractLock _ _ _ h := h
  valuationLock _ _ _ h := h
  tenant _ _ h := h
  values _ _ h := h.modify fun _ => rfl
  row _ _ _ _ := rfl
  stamp id j _ h := by
    have hne : id ≠ valuationId := by
      rintro rfl
      rw [hfree] at h
      cases h
    exact isUsed_revertUse_ne hne

variable {reservationId : Option Uuid}

theorem good_signRow (h : Good sh)
    (hvalues : ∀ valuationId, job.contract.tradeInValuationId = some valuationId →
      Values sh.valuations valuationId job.contract.tenantId) :
    Good (signRow reservationId job sh) := by
  refine ⟨fun id contract hcontract hsigned w hw => ?_, h.tracks⟩
  rcases Table.lookup_insert_cases hcontract with ⟨rfl, rfl⟩ | ⟨-, hold⟩
  · exact hvalues w hw
  · exact h.carried id contract hold hsigned w hw

variable {id : Uuid}

theorem hasTenant_signRow (hown : HasTenant sh.contracts job.contractId job.contract.tenantId)
    (h : HasTenant sh.contracts id tenantId) :
    HasTenant (signRow reservationId job sh).contracts id tenantId := by
  obtain ⟨contract, hrow, htenant⟩ := h
  by_cases hid : id = job.contractId
  · subst hid
    obtain ⟨contract', hrow', htenant'⟩ := hown
    obtain rfl := Option.mem_unique hrow hrow'
    exact ⟨_, AList.lookup_insert _, htenant'.symm.trans htenant⟩
  · exact ⟨contract, (AList.lookup_insert_ne hid).trans hrow, htenant⟩

theorem frame_signRow (h : Holding i sh job) : Frame i sh (signRow reservationId job sh) where
  contractLock _ _ _ hlock := hlock
  valuationLock _ _ _ hlock := hlock
  tenant _ _ htenant := hasTenant_signRow h.tenant htenant
  values _ _ hvalues := hvalues
  row id j hj hlock := by
    have hne : id ≠ job.contractId := by
      rintro rfl
      exact hj (Option.mem_unique hlock h.lock)
    exact AList.lookup_insert_ne hne
  stamp _ _ _ _ := rfl

/-! ### Locks -/

variable {lock : Uuid → Option ι}

theorem update_of_held {k : Uuid} (hfree : lock id = none) (h : lock k = some j) :
    Function.update lock id (some i) k = some j := by
  have hne : k ≠ id := by
    rintro rfl
    rw [hfree] at h
    cases h
  rw [Function.update_of_ne hne, h]

variable {contractId : Uuid}

theorem frame_lockContract (hfree : sh.contractLock contractId = none) :
    Frame i sh (lockContract i contractId sh) :=
  ⟨fun _ _ _ h => update_of_held hfree h, fun _ _ _ h => h, fun _ _ h => h, fun _ _ h => h,
    fun _ _ _ _ => rfl, fun _ _ _ _ => rfl⟩

theorem frame_lockValuation (hfree : sh.valuationLock valuationId = none) :
    Frame i sh (lockValuation i valuationId sh) :=
  ⟨fun _ _ _ h => h, fun _ _ _ h => update_of_held hfree h, fun _ _ h => h, fun _ _ h => h,
    fun _ _ _ _ => rfl, fun _ _ _ _ => rfl⟩

variable [DecidableEq ι]

theorem free_of_ne (hj : j ≠ i) (h : lock id = some j) : free i lock id = some j := by
  rw [free, if_neg (by rw [h]; exact fun heq => hj (Option.some.inj heq)), h]

theorem frame_close (i : ι) (sh : Shared ι) : Frame i sh (close i sh) :=
  ⟨fun _ _ hj h => free_of_ne hj h, fun _ _ hj h => free_of_ne hj h, fun _ _ h => h,
    fun _ _ h => h, fun _ _ _ _ => rfl, fun _ _ _ _ => rfl⟩

theorem frame_freeValuation (i : ι) (sh : Shared ι) :
    Frame i sh { sh with valuationLock := free i sh.valuationLock } :=
  ⟨fun _ _ _ h => h, fun _ _ hj h => free_of_ne hj h, fun _ _ h => h, fun _ _ h => h,
    fun _ _ _ _ => rfl, fun _ _ _ _ => rfl⟩

/-! ### What a step does -/

/-- A step leaves the tables as they are, or it is one of the three commits. -/
inductive Moves (choice : Choice) (sh sh' : Shared ι) (lo lo' : Local) : Prop
  | quiet (contracts : sh'.contracts = sh.contracts) (valuations : sh'.valuations = sh.valuations)
      (stamp : lo'.stamp = none ∨ lo'.stamp = lo.stamp)
  | stamped (now : Time) (valuationId : Uuid) (contracts : sh'.contracts = sh.contracts)
      (valuations : sh'.valuations = markUsed now sh.valuations valuationId)
      (values : ∃ tenantId, Values sh.valuations valuationId tenantId)
      (unused : isUsed sh.valuations valuationId = false)
      (stamp : lo'.stamp = none ∨ lo'.stamp = some valuationId)
  | signed (reservationId : Option Uuid) (outcome : Outcome)
      (choice : choice = .sign reservationId outcome) (valuations : sh'.valuations = sh.valuations)
      (stamp : lo'.stamp = none ∨ lo'.stamp = lo.stamp)
  | reverted (outcome : Outcome) (undo : Undo) (valuationId : Uuid)
      (choice : choice = .commitRevert outcome) (before : lo = .clearing undo valuationId)
      (valuations : sh'.valuations = revertUse sh.valuations valuationId)
      (stamp : lo'.stamp = none)

/-- What every step keeps. -/
structure Lands (i : ι) (choice : Choice) (sh sh' : Shared ι) (lo lo' : Local) : Prop where
  good : Good sh'
  knows : Knows i sh' lo'
  frame : Frame i sh sh'
  moves : Moves choice sh sh' lo lo'

variable {choice : Choice}

theorem lands_close (h : Good sh) : Lands i choice sh (close i sh) lo .idle :=
  ⟨h.congr rfl rfl rfl, trivial, frame_close i sh, .quiet rfl rfl (.inl rfl)⟩

omit [DecidableEq ι] in
theorem lands_same (h : Good sh) (hknows : Knows i sh lo')
    (hstamp : lo'.stamp = none ∨ lo'.stamp = lo.stamp) : Lands i choice sh sh lo lo' :=
  ⟨h, hknows, Frame.refl i sh, .quiet rfl rfl hstamp⟩

omit [DecidableEq ι] in
theorem lands_beginConfirm {ifMatch : ℕ} {reads : Reads} (hgood : Good sh)
    (h : beginConfirm i tenantId contractId ifMatch reads sh = some (sh', lo')) :
    Lands i choice sh sh' .idle lo' := by
  unfold beginConfirm at h
  split at h
  · next hfree =>
    split at h
    · next contract hload =>
      cases h
      obtain ⟨contract', hget, hload⟩ := Result.of_bind hload
      obtain ⟨-, -, hload⟩ := Result.of_bind hload
      obtain ⟨-, -, hload⟩ := Result.of_bind hload
      cases hload
      exact ⟨hgood.congr rfl rfl rfl,
        ⟨Function.update_self _ _ _, ⟨contract, getContractOr404_eq_ok hget, rfl⟩⟩,
        frame_lockContract hfree, .quiet rfl rfl (.inl rfl)⟩
    · cases h
  · cases h

theorem lands_consume (hgood : Good sh) (hknows : Holding i sh job)
    (h : consume i now job sh = some (sh', lo')) : Lands i choice sh sh' (.guarded job) lo' := by
  unfold consume at h
  split at h
  · next hnone =>
    cases h
    exact lands_same hgood ⟨hknows, fun v hv => by rw [hnone] at hv; cases hv⟩ (.inl rfl)
  · next valuationId hcarries =>
    split at h
    · next hfree =>
      split at h
      · cases h
        exact lands_close hgood
      · next valuations hok =>
        -- used already: nothing is written and nothing locked
        cases h
        obtain ⟨hvalues, -⟩ := consumeForContract_eq_ok hok
        refine lands_same hgood ⟨hknows, fun v hv => ?_⟩ (.inl rfl)
        obtain rfl := Option.mem_unique hcarries hv
        exact hvalues
      · next valuations hok =>
        cases h
        obtain ⟨hvalues, hunused⟩ := consumeForContract_eq_ok hok
        exact ⟨hgood.congr rfl rfl rfl, ⟨⟨hknows.lock, hknows.tenant⟩, hcarries,
          ⟨Function.update_self _ _ _, hvalues, hunused⟩⟩, frame_lockValuation hfree,
          .quiet rfl rfl (.inl rfl)⟩
    · cases h

variable {outcome : Outcome}

theorem lands_commitConsume (hgood : Good sh) (hknows : Knows i sh (.stamping job valuationId))
    (h : commitConsume i now outcome job valuationId sh = (sh', lo')) :
    Lands i choice sh sh' (.stamping job valuationId) lo' := by
  obtain ⟨hholding, hcarries, hunstamped⟩ := hknows
  cases outcome with
  | committed =>
    cases h
    refine ⟨(good_stamp hgood hunstamped).congr rfl rfl rfl,
      ⟨⟨hholding.lock, hholding.tenant⟩, fun v hv => ?_⟩,
      (frame_stamp hunstamped.lock).trans (frame_freeValuation i _),
      .stamped now valuationId rfl rfl ⟨_, hunstamped.values⟩ hunstamped.unused
        (.inr hcarries)⟩
    obtain rfl := Option.mem_unique hcarries hv
    exact hunstamped.values.modify fun _ => rfl
  | failed =>
    cases h
    exact lands_close hgood
  | lost =>
    cases h
    exact ⟨(good_stamp hgood hunstamped).congr rfl rfl rfl, trivial,
      (frame_stamp hunstamped.lock).trans (frame_close i _),
      .stamped now valuationId rfl rfl ⟨_, hunstamped.values⟩ hunstamped.unused (.inl rfl)⟩

variable {newlyUsed : Bool}

omit [DecidableEq ι] in
theorem knows_undoOf (htenant : HasTenant sh.contracts job.contractId job.contract.tenantId)
    (hvalues : ∀ valuationId, job.contract.tradeInValuationId = some valuationId →
      Values sh.valuations valuationId job.contract.tenantId) :
    Knows i sh (.compensating (undoOf job reservationId newlyUsed)) :=
  ⟨htenant, hvalues⟩

theorem lands_refuse (hgood : Good sh) (hknows : Knows i sh (.consumed job newlyUsed)) :
    Lands i choice sh (close i sh) (.consumed job newlyUsed)
      (.compensating (undoOf job reservationId newlyUsed)) :=
  ⟨hgood.congr rfl rfl rfl, knows_undoOf hknows.1.tenant hknows.2, frame_close i sh,
    .quiet rfl rfl (.inr rfl)⟩

theorem lands_sign (hgood : Good sh) (hknows : Knows i sh (.consumed job newlyUsed))
    (h : sign i reservationId outcome job newlyUsed sh = (sh', lo')) :
    Lands i (.sign reservationId outcome) sh sh' (.consumed job newlyUsed) lo' := by
  obtain ⟨hholding, hvalues⟩ := id hknows
  have hgood' : Good (signRow reservationId job sh) := good_signRow hgood hvalues
  have hframe : Frame i sh (close i (signRow reservationId job sh)) :=
    (frame_signRow hholding).trans (frame_close i _)
  cases outcome with
  | committed =>
    cases h
    exact ⟨hgood'.congr rfl rfl rfl, trivial, hframe, .signed _ _ rfl rfl (.inl rfl)⟩
  | failed =>
    cases h
    exact lands_refuse hgood hknows
  | lost =>
    cases h
    exact ⟨hgood'.congr rfl rfl rfl,
      knows_undoOf (hasTenant_signRow hholding.tenant hholding.tenant) hvalues, hframe,
      .signed _ _ rfl rfl (.inr rfl)⟩

omit [DecidableEq ι] in
theorem lands_beginCompensation (hgood : Good sh) (hknows : Knows i sh (.compensating undo))
    (h : beginCompensation i undo sh = some (sh', lo')) :
    Lands i choice sh sh' (.compensating undo) lo' := by
  obtain ⟨⟨contract, hrow, htenant⟩, hvalues⟩ := hknows
  unfold beginCompensation at h
  split at h
  · next hfree =>
    split at h
    · cases h
      exact lands_same hgood trivial (.inl rfl)
    · next hunsigned =>
      cases h
      -- the row the guard has read is the one it has locked
      have hsigned : contract.signedAt = none := by
        simpa [signedAt, hrow, htenant] using hunsigned
      refine ⟨hgood.congr rfl rfl rfl, ⟨⟨Function.update_self _ _ _, fun contract' hrow' => ?_⟩,
        hvalues⟩, frame_lockContract hfree, .quiet rfl rfl (.inr rfl)⟩
      obtain rfl := Option.mem_unique hrow hrow'
      exact hsigned
  · cases h

theorem lands_checkElsewhere (hgood : Good sh) (hknows : Knows i sh (.undoing undo))
    (h : checkElsewhere i undo sh = (sh', lo')) : Lands i choice sh sh' (.undoing undo) lo' := by
  obtain ⟨hguarded, hvalues⟩ := hknows
  unfold checkElsewhere at h
  split at h
  · next valuationId hcarries =>
    split at h
    · next hfound =>
      cases h
      refine lands_same hgood ⟨hguarded, hvalues valuationId hcarries⟩ (.inr ?_)
      rw [Local.stamp, Local.stamp, if_pos hfound.1, hcarries]
    · cases h
      exact lands_close hgood
  · cases h
    exact lands_close hgood

theorem lands_readValuation (hgood : Good sh) (hknows : Knows i sh (.reverting undo valuationId))
    (h : readValuation i undo valuationId sh = (sh', lo')) :
    Lands i choice sh sh' (.reverting undo valuationId) lo' := by
  unfold readValuation at h
  split at h
  · split at h
    · cases h
      exact lands_close hgood
    · cases h
      exact lands_same hgood hknows (.inr rfl)
  · cases h
    exact lands_close hgood

theorem lands_commitRevert (hgood : Good sh) (hused : isUsed sh.valuations valuationId = true)
    (h : commitRevert i outcome valuationId sh = some (sh', lo')) :
    Lands i (.commitRevert outcome) sh sh' (.clearing undo valuationId) lo' := by
  have hrevert : ∀ {sh' lo'}, sh.valuationLock valuationId = none →
      some (close i (unstamp valuationId sh), Local.idle) = some (sh', lo') →
      Lands i (.commitRevert outcome) sh sh' (.clearing undo valuationId) lo' := by
    intro sh' lo' hfree heq
    cases heq
    exact ⟨(good_unstamp hgood hused).congr rfl rfl rfl, trivial,
      (frame_unstamp hfree).trans (frame_close i _), .reverted outcome undo valuationId rfl rfl rfl rfl⟩
  unfold commitRevert at h
  split at h
  · next hfree =>
    cases outcome with
    | committed => exact hrevert hfree h
    | lost => exact hrevert hfree h
    | failed =>
      cases h
      exact lands_close hgood
  · cases h

omit [DecidableEq ι] in
theorem lands_markByHand (hgood : Good sh)
    (h : markByHand i tenantId valuationId sh = some (sh', lo')) :
    Lands i choice sh sh' .idle lo' := by
  unfold markByHand at h
  split at h
  · next hfree =>
    split at h
    · next valuation hget =>
      obtain ⟨hrow, htenant⟩ := getValuationOr404_values hget
      split at h
      · next hunused =>
        cases h
        exact ⟨hgood.congr rfl rfl rfl, ⟨Function.update_self _ _ _, ⟨valuation, hrow, htenant⟩,
          by rw [show (lockValuation i valuationId sh).valuations = sh.valuations from rfl,
            isUsed_of_lookup hrow, hunused, Option.isSome_none]⟩,
          frame_lockValuation hfree, .quiet rfl rfl (.inl rfl)⟩
      · cases h
    · cases h
  · cases h

theorem lands_checkCarried (hgood : Good sh) (hknows : Knows i sh (.marking tenantId valuationId))
    (h : checkCarried i tenantId valuationId sh = (sh', lo')) :
    Lands i choice sh sh' (.marking tenantId valuationId) lo' := by
  unfold checkCarried at h
  split at h
  · cases h
    exact lands_same hgood ⟨tenantId, hknows⟩ (.inl rfl)
  · cases h
    exact lands_close hgood

theorem lands_commitByHand (hgood : Good sh) (hknows : Knows i sh (.repairing valuationId))
    (h : commitByHand i now outcome valuationId sh = (sh', lo')) :
    Lands i choice sh sh' (.repairing valuationId) lo' := by
  obtain ⟨tenantId, hunstamped⟩ := hknows
  have hstamp : ∀ {sh' lo'}, (close i (stamp now valuationId sh), Local.idle) = (sh', lo') →
      Lands i choice sh sh' (.repairing valuationId) lo' := by
    intro sh' lo' heq
    cases heq
    exact ⟨(good_stamp hgood hunstamped).congr rfl rfl rfl, trivial,
      (frame_stamp hunstamped.lock).trans (frame_close i _),
      .stamped now valuationId rfl rfl ⟨_, hunstamped.values⟩ hunstamped.unused (.inl rfl)⟩
  cases outcome with
  | committed => exact hstamp h
  | lost => exact hstamp h
  | failed =>
    cases h
    exact lands_close hgood

theorem step_lands (hgood : Good sh) (hknows : Knows i sh lo)
    (hstamp : ∀ valuationId, lo.stamp = some valuationId → isUsed sh.valuations valuationId = true)
    (h : step i choice sh lo = some (sh', lo')) : Lands i choice sh sh' lo lo' := by
  unfold step at h
  split at h
  · exact lands_beginConfirm hgood h
  · exact lands_consume hgood hknows h
  · exact lands_commitConsume hgood hknows (Option.some.inj h)
  · cases h
    exact lands_refuse hgood hknows
  · exact lands_sign hgood hknows (Option.some.inj h)
  · exact lands_beginCompensation hgood hknows h
  · exact lands_checkElsewhere hgood hknows (Option.some.inj h)
  · exact lands_readValuation hgood hknows (Option.some.inj h)
  · exact lands_commitRevert hgood (hstamp _ rfl) h
  · exact lands_markByHand hgood h
  · exact lands_checkCarried hgood hknows (Option.some.inj h)
  · exact lands_commitByHand hgood hknows (Option.some.inj h)
  · cases h
    exact lands_close hgood
  · cases h

/-- The invariant of every run. -/
structure Inv (cfg : Config ι (Shared ι) Local) : Prop where
  holds : Holds Good Knows cfg
  stamps : Stamps cfg

omit [DecidableEq ι] in
/-- Stamps that are set stay set, but the one a session takes back itself. -/
theorem Moves.used (h : Moves choice sh sh' lo lo')
    (hused : isUsed sh.valuations valuationId = true) : isUsed sh'.valuations valuationId = true ∨
      (lo.stamp = some valuationId ∧ lo'.stamp = none) := by
  cases h with
  | quiet _ hvaluations _ => exact .inl (by rw [hvaluations]; exact hused)
  | stamped now w _ hvaluations _ _ _ =>
    exact .inl (by rw [hvaluations]; exact isUsed_mono_markUsed hused)
  | signed _ _ _ hvaluations _ => exact .inl (by rw [hvaluations]; exact hused)
  | reverted _ undo w _ hbefore hvaluations hstamp =>
    subst hbefore
    by_cases hw : valuationId = w
    · exact .inr ⟨by rw [hw]; rfl, hstamp⟩
    · exact .inl (by rw [hvaluations, isUsed_revertUse_ne hw, hused])

omit [DecidableEq ι] in
/-- A stamp the session may take back is one it had before, or one nobody had. -/
theorem Moves.stamp_cases (h : Moves choice sh sh' lo lo') (hstamp : lo'.stamp = some valuationId) :
    lo.stamp = some valuationId ∨ (isUsed sh.valuations valuationId = false ∧
      isUsed sh'.valuations valuationId = true) := by
  have hkept : lo'.stamp = none ∨ lo'.stamp = lo.stamp → lo.stamp = some valuationId := by
    rintro (hnone | hsame)
    · rw [hnone] at hstamp
      cases hstamp
    · rw [← hsame, hstamp]
  cases h with
  | quiet _ _ hor => exact .inl (hkept hor)
  | stamped now w _ hvaluations hvalues hunused hor =>
    rcases hor with hnone | hw
    · rw [hnone] at hstamp
      cases hstamp
    · obtain rfl := Option.mem_unique hw hstamp
      obtain ⟨tenantId, hvalues⟩ := hvalues
      exact .inr ⟨hunused, by rw [hvaluations]; exact isUsed_markUsed hvalues⟩
  | signed _ _ _ _ hor => exact .inl (hkept hor)
  | reverted _ _ _ _ _ _ hnone =>
    rw [hnone] at hstamp
    cases hstamp

theorem Stamps.move {cfg : Config ι (Shared ι) Local} (h : Stamps cfg)
    (hmoves : Moves choice cfg.shared sh' (cfg.locals i) lo') :
    Stamps ⟨sh', Function.update cfg.locals i lo'⟩ := by
  have hown : (Function.update cfg.locals i lo') i = lo' := Function.update_self _ _ _
  have hothers : ∀ {k}, k ≠ i → (Function.update cfg.locals i lo') k = cfg.locals k :=
    fun hk => Function.update_of_ne hk _ _
  -- what session `i` may take back now, no other session may
  have hapart : ∀ {k v}, k ≠ i → (cfg.locals k).stamp = some v → lo'.stamp = some v → False := by
    intro k v hki hk hi
    rcases hmoves.stamp_cases hi with hold | ⟨hunused, -⟩
    · exact hki (h.unique k i v hk hold)
    · rw [h.used k v hk] at hunused
      cases hunused
  refine ⟨fun j v hj => ?_, fun j k v hj hk => ?_⟩
  · change ((Function.update cfg.locals i lo') j).stamp = some v at hj
    by_cases hji : j = i
    · rw [hji, hown] at hj
      rcases hmoves.stamp_cases hj with hold | ⟨-, hnew⟩
      · rcases hmoves.used (h.used i v hold) with hused | ⟨-, hnone⟩
        · exact hused
        · rw [hnone] at hj
          cases hj
      · exact hnew
    · rw [hothers hji] at hj
      rcases hmoves.used (h.used j v hj) with hused | ⟨hreverted, -⟩
      · exact hused
      · exact absurd (h.unique j i v hj hreverted) hji
  · change ((Function.update cfg.locals i lo') j).stamp = some v at hj
    change ((Function.update cfg.locals i lo') k).stamp = some v at hk
    by_cases hji : j = i
    · by_cases hki : k = i
      · rw [hji, hki]
      · rw [hji, hown] at hj
        rw [hothers hki] at hk
        exact (hapart hki hk hj).elim
    · rw [hothers hji] at hj
      by_cases hki : k = i
      · rw [hki, hown] at hk
        exact (hapart hji hj hk).elim
      · rw [hothers hki] at hk
        exact h.unique j k v hj hk

theorem inv_move (cfg : Config ι (Shared ι) Local) (a : ι × Choice) (hinv : Inv cfg) :
    Inv (move step cfg a) := by
  obtain ⟨i, choice⟩ := a
  cases hstep : step i choice cfg.shared (cfg.locals i) with
  | none => rw [move_none hstep]; exact hinv
  | some p =>
    obtain ⟨sh', lo'⟩ := p
    have hlands := step_lands hinv.holds.1 (hinv.holds.2 i) (hinv.stamps.used i) hstep
    rw [move_some hstep]
    refine ⟨⟨hlands.good, fun j => ?_⟩, hinv.stamps.move hlands.moves⟩
    change Knows j sh' (Function.update cfg.locals i lo' j)
    by_cases hji : j = i
    · rw [hji, Function.update_self]
      exact hlands.knows
    · rw [Function.update_of_ne hji]
      exact (hinv.holds.2 j).transfer hlands.frame hji

omit [DecidableEq ι] in
theorem inv_start (desk : Desk) : Inv (start desk : Config ι (Shared ι) Local) := by
  refine ⟨⟨⟨fun id contract hrow hsigned => absurd (desk.unsigned id contract hrow) hsigned,
    fun v => ?_⟩, fun _ => trivial⟩, ⟨(nofun), nofun⟩⟩
  have hunused : isUsed desk.valuations v = false := by
    cases hrow : desk.valuations.lookup v with
    | none => rw [isUsed, hrow, Option.any_none]
    | some valuation => rw [isUsed_of_lookup hrow, desk.unused v valuation hrow, Option.isSome_none]
  change Tracks [] (isUsed desk.valuations v)
  rw [hunused]
  exact ⟨⟨.nil, by simp⟩, by simp⟩

/-! ### Signatures and reverts -/

theorem signedUsed_signRow (hsigned : SignedUsed sh) :
    SignedUsed (close i (signRow reservationId job sh)) ↔
      ∀ valuationId, job.contract.tradeInValuationId = some valuationId →
        isUsed sh.valuations valuationId = true := by
  constructor
  · intro h valuationId hcarries
    exact h job.contractId (confirmedRow job.reads reservationId job.contract)
      (AList.lookup_insert _) (Option.some_ne_none _) valuationId hcarries
  · intro h id contract hrow hsignedAt valuationId hcarries
    rcases Table.lookup_insert_cases hrow with ⟨rfl, rfl⟩ | ⟨-, hold⟩
    · exact h valuationId hcarries
    · exact hsigned id contract hold hsignedAt valuationId hcarries

theorem signedElsewhere_iff {contracts : Table Uuid SalesContract} :
    signedElsewhere contracts undo valuationId = true ↔
      ∃ id contract, contracts.lookup id = some contract ∧ contract.tenantId = undo.tenantId ∧
        contract.tradeInValuationId = some valuationId ∧ id ≠ undo.contractId ∧
        contract.signedAt ≠ none := by
  rw [signedElsewhere, Table.search_isSome_iff]
  simp only [decide_eq_true_eq, Option.isSome_iff_ne_none]

theorem signedUsed_unstamp (hgood : Good sh) (hknows : Knows i sh (.clearing undo valuationId))
    (hsigned : SignedUsed sh) : SignedUsed (close i (unstamp valuationId sh)) ↔
      signedElsewhere sh.contracts undo valuationId = false := by
  obtain ⟨hguarded, valuation, hrow, htenant⟩ := hknows
  constructor
  · intro h
    by_contra helse
    obtain ⟨id, contract, hcontract, -, hcarries, -, hsignedAt⟩ :=
      signedElsewhere_iff.mp (Bool.eq_true_of_not_eq_false helse)
    have hused : isUsed (revertUse sh.valuations valuationId) valuationId = true :=
      h id contract hcontract hsignedAt valuationId hcarries
    rw [isUsed_revertUse] at hused
    cases hused
  · intro helse id contract hcontract hsignedAt w hcarries
    change isUsed (revertUse sh.valuations valuationId) w = true
    by_cases hw : w = valuationId
    · -- the contract is another one, and of the same dealership
      subst hw
      obtain ⟨valuation', hrow', htenant'⟩ := hgood.carried id contract hcontract hsignedAt w hcarries
      obtain rfl := Option.mem_unique hrow hrow'
      have hother : id ≠ undo.contractId := by
        rintro rfl
        exact hsignedAt (hguarded.unsigned contract hcontract)
      have htrue : signedElsewhere sh.contracts undo w = true := signedElsewhere_iff.mpr
        ⟨id, contract, hcontract, htenant'.symm.trans htenant, hcarries, hother, hsignedAt⟩
      rw [helse] at htrue
      cases htrue
    · rw [isUsed_revertUse_ne hw]
      exact hsigned id contract hcontract hsignedAt w hcarries

omit [DecidableEq ι] in
theorem signedUsed_quiet (hmoves : Moves choice sh sh' lo lo')
    (hsign : ∀ reservationId outcome, choice ≠ .sign reservationId outcome)
    (hrevert : ∀ outcome, choice ≠ .commitRevert outcome) (h : SignedUsed sh) : SignedUsed sh' := by
  cases hmoves with
  | quiet hcontracts hvaluations _ =>
    unfold SignedUsed
    rw [hcontracts, hvaluations]
    exact h
  | stamped now valuationId hcontracts hvaluations _ _ _ =>
    intro id contract hrow hsigned w hcarries
    rw [hcontracts] at hrow
    rw [hvaluations]
    exact isUsed_mono_markUsed (h id contract hrow hsigned w hcarries)
  | signed reservationId outcome hchoice _ _ => exact absurd hchoice (hsign reservationId outcome)
  | reverted outcome _ _ hchoice _ _ _ => exact absurd hchoice (hrevert outcome)

theorem step_sign :
    step i (.sign reservationId outcome) sh lo = match lo with
      | .consumed job newlyUsed => some (sign i reservationId outcome job newlyUsed sh)
      | _ => none := by
  cases lo <;> rfl

theorem step_commitRevert :
    step i (.commitRevert outcome) sh lo = match lo with
      | .clearing _ valuationId => commitRevert i outcome valuationId sh
      | _ => none := by
  cases lo <;> rfl

section

variable {cfg : Config ι (Shared ι) Local} (hinv : Inv cfg) (hsigned : SignedUsed cfg.shared)

include hinv hsigned

theorem sign_iff (i : ι) (reservationId : Option Uuid) (outcome : Outcome) :
    SignedUsed (move step cfg (i, .sign reservationId outcome)).shared ↔
      Timely cfg (i, .sign reservationId outcome) := by
  cases hstep : step i (.sign reservationId outcome) cfg.shared (cfg.locals i) with
  | none =>
    rw [move_none hstep]
    refine ⟨fun _ job hlo => ?_, fun _ => hsigned⟩
    rw [step_sign, hlo] at hstep
    cases hstep
  | some p =>
    obtain ⟨sh', lo'⟩ := p
    rw [move_some hstep]
    rw [step_sign] at hstep
    split at hstep
    · next job newlyUsed hlo =>
      have heq := Option.some.inj hstep
      have hwritten : SignedUsed (close i (signRow reservationId job cfg.shared)) ↔
          ∀ valuationId, job.contract.tradeInValuationId = some valuationId →
            isUsed cfg.shared.valuations valuationId = true := signedUsed_signRow hsigned
      have hiff : outcome ≠ .failed → (SignedUsed sh' ↔
          ∀ valuationId, job.contract.tradeInValuationId = some valuationId →
            isUsed cfg.shared.valuations valuationId = true) := by
        intro houtcome
        cases outcome with
        | committed => obtain ⟨rfl, -⟩ := Prod.mk.inj heq; exact hwritten
        | failed => exact absurd rfl houtcome
        | lost => obtain ⟨rfl, -⟩ := Prod.mk.inj heq; exact hwritten
      have hfailed : outcome = .failed → SignedUsed sh' := by
        rintro rfl
        obtain ⟨rfl, -⟩ := Prod.mk.inj heq
        exact hsigned
      constructor
      · intro h job' hlo' houtcome
        obtain ⟨rfl, -⟩ := Local.consumed.inj (hlo.symm.trans hlo')
        exact (hiff houtcome).mp h
      · intro htimely
        by_cases houtcome : outcome = .failed
        · exact hfailed houtcome
        · cases newlyUsed with
          | false => exact (hiff houtcome).mpr (htimely job hlo houtcome)
          | true =>
            -- its own stamp, which only this session can take back
            exact (hiff houtcome).mpr fun valuationId hcarries =>
              hinv.stamps.used i valuationId (by rw [hlo]; exact hcarries)
    · cases hstep

theorem commitRevert_iff (i : ι) (outcome : Outcome) :
    SignedUsed (move step cfg (i, .commitRevert outcome)).shared ↔
      Timely cfg (i, .commitRevert outcome) := by
  cases hstep : step i (.commitRevert outcome) cfg.shared (cfg.locals i) with
  | none =>
    rw [move_none hstep]
    refine ⟨fun _ undo valuationId hlo houtcome hfree => ?_, fun _ => hsigned⟩
    rw [step_commitRevert, hlo] at hstep
    simp only [commitRevert, if_pos hfree] at hstep
    cases outcome <;> cases hstep
  | some p =>
    obtain ⟨sh', lo'⟩ := p
    rw [move_some hstep]
    rw [step_commitRevert] at hstep
    split at hstep
    · next undo valuationId hlo =>
      unfold commitRevert at hstep
      split at hstep
      · next hfree =>
        have hwritten := signedUsed_unstamp hinv.holds.1 (hlo ▸ hinv.holds.2 i) hsigned
        have hiff : outcome ≠ .failed → (SignedUsed sh' ↔
            signedElsewhere cfg.shared.contracts undo valuationId = false) := by
          intro houtcome
          cases outcome with
          | committed => obtain ⟨rfl, -⟩ := some_inj hstep; exact hwritten
          | failed => exact absurd rfl houtcome
          | lost => obtain ⟨rfl, -⟩ := some_inj hstep; exact hwritten
        constructor
        · intro h undo' valuationId' hlo' houtcome _
          obtain ⟨rfl, rfl⟩ := Local.clearing.inj (hlo.symm.trans hlo')
          exact (hiff houtcome).mp h
        · intro htimely
          by_cases houtcome : outcome = .failed
          · subst houtcome
            obtain ⟨rfl, -⟩ := some_inj hstep
            exact hsigned
          · exact (hiff houtcome).mpr (htimely undo valuationId hlo houtcome hfree)
      · cases hstep
    · cases hstep

theorem other_iff (i : ι) (hsign : ∀ reservationId outcome, choice ≠ .sign reservationId outcome)
    (hrevert : ∀ outcome, choice ≠ .commitRevert outcome) :
    SignedUsed (move step cfg (i, choice)).shared := by
  cases hstep : step i choice cfg.shared (cfg.locals i) with
  | none => rw [move_none hstep]; exact hsigned
  | some p =>
    rw [move_some hstep]
    have hlands := step_lands hinv.holds.1 (hinv.holds.2 i) (hinv.stamps.used i) hstep
    exact signedUsed_quiet hlands.moves hsign hrevert hsigned

theorem signedUsed_move (a : ι × Choice) : SignedUsed (move step cfg a).shared ↔ Timely cfg a := by
  obtain ⟨i, choice⟩ := a
  cases choice with
  | sign reservationId outcome => exact sign_iff hinv hsigned i reservationId outcome
  | commitRevert outcome => exact commitRevert_iff hinv hsigned i outcome
  | confirm _ _ _ _ | consume _ | commitUsed _ _ | refuseReservation | lockContract
  | checkElsewhere | readValuation | markByHand _ _ | checkCarried | fail =>
    exact ⟨fun _ => trivial, fun _ => other_iff hinv hsigned i
      (nofun) (nofun)⟩

end

/-- **A signed contract's valuation is used**: in every state of a run exactly when its
signatures and reverts are timely; and in every run the events of each valuation alternate,
starting with `used`. -/
theorem signed_valuations_used (desk : Desk) (run : List (ι × Choice)) :
    (Along (move step) (fun cfg a => SignedUsed (move step cfg a).shared) (start desk) run ↔
      Along (move step) Timely (start desk) run) ∧ ∀ valuationId,
      Alternates (useEvents valuationId (run.foldl (move step) (start desk)).shared.events) := by
  constructor
  · have hstart : Inv (start desk : Config ι (Shared ι) Local) ∧
        SignedUsed (start desk : Config ι (Shared ι) Local).shared :=
      ⟨inv_start desk, fun id contract hrow hsigned => absurd (desk.unsigned id contract hrow) hsigned⟩
    have hstep : ∀ (cfg : Config ι (Shared ι) Local) (a : ι × Choice),
        (Inv cfg ∧ SignedUsed cfg.shared) → Timely cfg a →
          Inv (move step cfg a) ∧ SignedUsed (move step cfg a).shared :=
      fun cfg a h htimely => ⟨inv_move cfg a h.1, (signedUsed_move h.1 h.2 a).mpr htimely⟩
    exact Along.congr_of_invariant hstep (fun cfg a h => signedUsed_move h.1 h.2 a) hstart
  · intro valuationId
    have hinv : Inv (run.foldl (move step) (start desk)) :=
      Run.invariant inv_move (inv_start desk) run
    exact (hinv.holds.1.tracks valuationId).alternates

/-! ### Two contracts on one valuation -/

/-- A pending contract that carries valuation 9 and can be signed. -/
def pendingOn : SalesContract where
  tenantId := 1
  contractNumber := "C-1"
  customerId := some 7
  vehicleSource := some .manual
  vehicleLabel := some "Golf"
  vehicleSnapshot := some { identity := "manual" }
  grossPrice := some 100
  payable := some 100
  tradeInValuationId := some 9

def twoContracts : Desk where
  contracts := ((∅ : Table Uuid SalesContract).insert 1 pendingOn).insert 2 pendingOn
  valuations := (∅ : Table Uuid Valuation).insert 9 { tenantId := 1, finalOffer := 50, validUntil := 10 }
  unsigned := by
    intro id contract hrow
    rcases Table.lookup_insert_cases hrow with ⟨-, rfl⟩ | ⟨-, hold⟩
    · rfl
    · rcases Table.lookup_insert_cases hold with ⟨-, rfl⟩ | ⟨-, hnone⟩
      · rfl
      · cases hnone
  unused := by
    intro id valuation hrow
    rcases Table.lookup_insert_cases hrow with ⟨-, rfl⟩ | ⟨-, hnone⟩
    · rfl
    · cases hnone

/-- The first confirmation stamps, its own commit fails, and its compensation takes the stamp
back before the second one, which has relied on it, commits. -/
def overtaken : List (ℕ × Choice) :=
  [(0, .confirm 1 1 1 { customer := fun _ _ => some {} }), (0, .consume 0),
    (0, .commitUsed 0 .committed),
    (1, .confirm 1 2 1 { customer := fun _ _ => some {} }), (1, .consume 0),
    (0, .sign none .failed), (0, .lockContract), (0, .checkElsewhere), (0, .readValuation),
    (0, .commitRevert .committed), (1, .sign none .committed)]

/-- Two contracts and one failing commit. -/
theorem signed_valuations_used_refuted : ¬ ∀ (desk : Desk) (run : List (ℕ × Choice)),
    SignedUsed (run.foldl (move step) (start desk)).shared := by
  intro hall
  have hunused : ∃ contract,
      (overtaken.foldl (move step) (start twoContracts)).shared.contracts.lookup 2 = some contract ∧
        contract.signedAt ≠ none ∧ contract.tradeInValuationId = some 9 ∧
        isUsed (overtaken.foldl (move step) (start twoContracts)).shared.valuations 9 = false := by
    decide +kernel
  obtain ⟨contract, hrow, hsigned, hcarries, hunused⟩ := hunused
  have hused := hall twoContracts overtaken 2 contract hrow hsigned 9 hcarries
  rw [hunused] at hused
  cases hused

end Nexotec.UsedStamp
