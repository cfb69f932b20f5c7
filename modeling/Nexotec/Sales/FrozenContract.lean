/-
Frozen on confirm: any number of sessions edit and confirm one contract.

Every route that changes a contract loads it with `FOR UPDATE`, so its session
holds the row lock until it commits or rolls back.  `set_trade_in` is the
exception: its party allocations commit the request's session in the middle,
which releases the lock, and `lock_editable` takes it again and checks the row
as committed before anything is written.

A session's step is one of these moments; a run is any interleaving.  The
committed row is shared, a session's own uncommitted row is local.
-/
import Nexotec.Lib.Interleaving
import Nexotec.Sales.Confirm

namespace Nexotec.FrozenContract

open Interleaving

variable {ι : Type} [DecidableEq ι]

/-! ### Sessions -/

/-- The committed row, who holds its lock, and the confirmed events that were
committed with it. -/
structure Shared (ι : Type) where
  contract : SalesContract
  lock : Option ι := none
  events : List ConfirmedPayload := []

/-- Where a session is.  `resolved` is `set_trade_in` between its foreign
writes and `lock_editable`; `written` holds the row and the event the session
has flushed and not committed. -/
inductive Local where
  | idle
  | loaded (contract : SalesContract)
  | resolved (versionSeen : ℕ) (vehicle : ResolvedVehicle) (vehicleLabel : String)
  | written (contract : SalesContract) (event : Option ConfirmedPayload)

/-- The next moment of a session, with what it reads there.  `fail` is any
exception or the death of the session. -/
inductive Choice where
  | load (ifMatch : ℕ)
  | update (reads : Reads) (data : ContractUpdate)
  | replaceLineItems (reads : Reads) (data : LineItemsReplaceRequest)
  | attachTradeInValuation (reads : Reads) (valuations : Table Uuid Valuation) (valuationId : Uuid)
  | resolveTradeIn (reads : Reads) (data : TradeInRequest)
  | allocateVehicleParty
  | writeTradeIn (reads : Reads) (valuations : Table Uuid Valuation)
  | confirm (reads : Reads) (reservationId : Uuid)
  | commit
  | fail

/-- The end of a session's transaction, if it holds the lock. -/
def unlock (i : ι) (sh : Shared ι) : Shared ι :=
  if sh.lock = some i then { sh with lock := none } else sh

/-- `lock_editable` on the row as committed. -/
def lockEditable (contract : SalesContract) (versionSeen : ℕ) : Result Unit := do
  requireEditableContract contract
  checkVersion contract.version versionSeen "SalesContract"

/-- A service call that wrote goes on to its commit; one that raised is rolled back. -/
def flush (i : ι) (sh : Shared ι) (result : Result (SalesContract × Option ConfirmedPayload)) :
    Shared ι × Local :=
  match result with
  | .ok (contract, event) => (sh, .written contract event)
  | .error _ => (unlock i sh, .idle)

def serve (contractId : Uuid) (sh : Shared ι) (contract : SalesContract) :
    Choice → Option (Result (SalesContract × Option ConfirmedPayload))
  | .update reads data => some do
    let updated ← updateContract reads contract data
    pure (updated, none)
  | .replaceLineItems reads data => some do
    lockEditable sh.contract contract.version
    let deal ← replaceLineItems reads sh.contract.toDeal data
    pure ({ sh.contract with toDeal := deal }, none)
  | .attachTradeInValuation reads valuations valuationId => some do
    requireEditableContract contract
    let deal ← attachTradeInValuation reads valuations contract.toDeal valuationId
    pure ({ contract with toDeal := deal }, none)
  | .confirm reads reservationId => some do
    requireConfirmable reads contract
    let confirmed := confirmedRow reads
      ((stockItemToReserve contract.toDeal).map fun _ => reservationId) contract
    pure (confirmed, some (confirmedEventPayload contractId confirmed.toDeal))
  | _ => none

/-- One moment of session `i`. -/
def step (contractId : Uuid) (i : ι) (choice : Choice) (sh : Shared ι) :
    Local → Option (Shared ι × Local)
  | .idle =>
    match choice with
    | .load ifMatch =>
      -- `FOR UPDATE` waits while another session holds the row
      if sh.lock = none then
        match checkVersion sh.contract.version ifMatch "SalesContract" with
        | .ok _ => some ({ sh with lock := some i }, .loaded sh.contract)
        | .error _ => some (sh, .idle)
      else none
    | _ => none
  | .loaded contract =>
    match choice with
    | .fail => some (unlock i sh, .idle)
    | .resolveTradeIn reads data =>
      match (do requireEditableContract contract; resolveTradeIn reads contract.toDeal data) with
      | .ok vehicle => some (sh, .resolved contract.version vehicle data.vehicleLabel)
      | .error _ => some (unlock i sh, .idle)
    | choice => (serve contractId sh contract choice).map (flush i sh)
  | .resolved versionSeen vehicle vehicleLabel =>
    match choice with
    | .fail => some (unlock i sh, .idle)
    | .allocateVehicleParty => some (unlock i sh, .resolved versionSeen vehicle vehicleLabel)
    | .writeTradeIn reads valuations =>
      if sh.lock = none ∨ sh.lock = some i then
        some (flush i { sh with lock := some i } do
          lockEditable sh.contract versionSeen
          pure ({ sh.contract with
            toDeal := writeTradeIn reads valuations sh.contract.toDeal vehicle vehicleLabel }, none))
      else none
    | _ => none
  | .written contract event =>
    match choice with
    | .fail => some (unlock i sh, .idle)
    | .commit =>
      some ({ contract := contract, lock := none, events := sh.events ++ event.toList }, .idle)
    | _ => none

def start (contract : SalesContract) : Config ι (Shared ι) Local :=
  ⟨{ contract := contract }, fun _ => .idle⟩

/-! ### The invariant -/

/-- A pending row has no confirmed event; any other row has exactly one, its own. -/
def Published (contractId : Uuid) (sh : Shared ι) : Prop :=
  (sh.contract.status = .pending → sh.events = []) ∧
    (sh.contract.status ≠ .pending →
      sh.events = [confirmedEventPayload contractId sh.contract.toDeal])

/-- What a service call may leave for the commit: an edit of a pending row, or
a confirmation of it with its event. -/
def Staged (contractId : Uuid) (sh : Shared ι) (contract : SalesContract)
    (event : Option ConfirmedPayload) : Prop :=
  sh.contract.status = .pending ∧
    ((contract.status = .pending ∧ event = none) ∨
      (contract.status ≠ .pending ∧
        event = some (confirmedEventPayload contractId contract.toDeal)))

/-- What a session knows: the row it read while it holds the lock is the
committed one, and what it has staged was checked against a pending row. -/
def Knows (contractId : Uuid) (i : ι) (sh : Shared ι) : Local → Prop
  | .idle => True
  | .loaded contract => sh.lock = some i ∧ contract = sh.contract
  | .resolved .. => True
  | .written contract event => sh.lock = some i ∧ Staged contractId sh contract event

@[simp] theorem unlock_contract (i : ι) (sh : Shared ι) : (unlock i sh).contract = sh.contract := by
  unfold unlock
  split <;> rfl

@[simp] theorem unlock_events (i : ι) (sh : Shared ι) : (unlock i sh).events = sh.events := by
  unfold unlock
  split <;> rfl

variable {i j : ι} {sh : Shared ι}

theorem unlock_lock_ne (hij : i ≠ j) (h : sh.lock = some j) : (unlock i sh).lock = some j := by
  unfold unlock
  split
  · next hi => exact absurd (Option.mem_unique hi h) hij
  · exact h

variable {contractId : Uuid} {choice : Choice}

omit [DecidableEq ι] in
/-- Every service call stages an edit or a confirmation of a pending row. -/
theorem serve_staged {result : Result (SalesContract × Option ConfirmedPayload)}
    {contract : SalesContract} {event : Option ConfirmedPayload}
    (h : serve contractId sh sh.contract choice = some result)
    (hok : result = .ok (contract, event)) : Staged contractId sh contract event := by
  subst hok
  cases choice with
  | update reads data =>
    obtain ⟨updated, hupdated, hp⟩ := Result.of_bind (Option.some.inj h)
    cases hp
    obtain ⟨hpending, ⟨buyer, rfl⟩ | ⟨buyer, owner, deal, rfl, -⟩⟩ := updateContract_eq_ok hupdated
    · exact ⟨hpending, .inl ⟨hpending, rfl⟩⟩
    · exact ⟨hpending, .inl ⟨hpending, rfl⟩⟩
  | replaceLineItems reads data =>
    obtain ⟨u, hu, hp⟩ := Result.of_bind (Option.some.inj h)
    obtain ⟨v, hv, -⟩ := Result.of_bind hu
    obtain ⟨deal, -, hp⟩ := Result.of_bind hp
    cases hp
    have hpending := requireEditableContract_eq_ok hv
    exact ⟨hpending, .inl ⟨hpending, rfl⟩⟩
  | attachTradeInValuation reads valuations valuationId =>
    obtain ⟨u, hu, hp⟩ := Result.of_bind (Option.some.inj h)
    obtain ⟨deal, -, hp⟩ := Result.of_bind hp
    cases hp
    have hpending := requireEditableContract_eq_ok hu
    exact ⟨hpending, .inl ⟨hpending, rfl⟩⟩
  | confirm reads reservationId =>
    obtain ⟨u, hu, hp⟩ := Result.of_bind (Option.some.inj h)
    cases hp
    exact ⟨(requireConfirmable_eq_ok hu).1, .inr ⟨by simp [confirmedRow], rfl⟩⟩
  | load | resolveTradeIn | allocateVehicleParty | writeTradeIn | commit | fail => cases h

variable {sh' : Shared ι} {lo : Local}

/-- What one step can do: leave the committed row and the events alone and no
other session's lock changed, or commit what the session had staged. -/
theorem step_cases {lo' : Local} (hknows : Knows contractId i sh lo)
    (h : step contractId i choice sh lo = some (sh', lo')) :
    (sh'.contract = sh.contract ∧ sh'.events = sh.events ∧
      (∀ j, i ≠ j → sh.lock = some j → sh'.lock = some j) ∧ Knows contractId i sh' lo') ∨
    ∃ contract event, lo = .written contract event ∧ lo' = .idle ∧
      sh' = { contract := contract, lock := none, events := sh.events ++ event.toList } := by
  -- a rollback, from wherever the session is
  have hfail : ∀ lo'', Knows contractId i (unlock i sh) lo'' →
      ((unlock i sh).contract = sh.contract ∧ (unlock i sh).events = sh.events ∧
        (∀ j, i ≠ j → sh.lock = some j → (unlock i sh).lock = some j) ∧
        Knows contractId i (unlock i sh) lo'') := by
    intro lo'' hlo
    exact ⟨unlock_contract i sh, unlock_events i sh, fun j hij hj => unlock_lock_ne hij hj, hlo⟩
  cases lo with
  | idle =>
    cases choice with
    | load ifMatch =>
      simp only [step] at h
      split at h
      · next hfree =>
        split at h
        · cases h
          refine .inl ⟨rfl, rfl, fun j _ hj => ?_, ⟨rfl, rfl⟩⟩
          rw [hfree] at hj
          cases hj
        · cases h
          exact .inl ⟨rfl, rfl, fun _ _ hj => hj, trivial⟩
      · cases h
    | _ => cases h
  | loaded contract =>
    obtain ⟨hlock, rfl⟩ := hknows
    have hserve : ∀ {result}, serve contractId sh sh.contract choice = some result →
        flush i sh result = (sh', lo') →
        (sh'.contract = sh.contract ∧ sh'.events = sh.events ∧
          (∀ j, i ≠ j → sh.lock = some j → sh'.lock = some j) ∧ Knows contractId i sh' lo') := by
      intro result hresult hflush
      cases result with
      | error e =>
        cases hflush
        exact hfail .idle trivial
      | ok staged =>
        obtain ⟨row, event⟩ := staged
        cases hflush
        exact ⟨rfl, rfl, fun _ _ hj => hj, hlock, serve_staged hresult rfl⟩
    have hmap : (serve contractId sh sh.contract choice).map (flush i sh) = some (sh', lo') →
        (sh'.contract = sh.contract ∧ sh'.events = sh.events ∧
          (∀ j, i ≠ j → sh.lock = some j → sh'.lock = some j) ∧ Knows contractId i sh' lo') := by
      intro hsome
      obtain ⟨result, hresult, hflush⟩ := Option.map_eq_some_iff.mp hsome
      exact hserve hresult hflush
    cases choice with
    | fail =>
      cases h
      exact .inl (hfail .idle trivial)
    | resolveTradeIn reads data =>
      simp only [step] at h
      split at h
      · cases h
        exact .inl ⟨rfl, rfl, fun _ _ hj => hj, trivial⟩
      · cases h
        exact .inl (hfail .idle trivial)
    | _ => exact .inl (hmap h)
  | resolved versionSeen vehicle vehicleLabel =>
    cases choice with
    | fail =>
      cases h
      exact .inl (hfail .idle trivial)
    | allocateVehicleParty =>
      cases h
      exact .inl (hfail (.resolved versionSeen vehicle vehicleLabel) trivial)
    | writeTradeIn reads valuations =>
      simp only [step] at h
      split at h
      · next hfree =>
        -- the lock was free or already this session's
        have hothers : ∀ j, i ≠ j → sh.lock = some j → False := by
          intro j hij hj
          rcases hfree with hnone | hi
          · rw [hnone] at hj
            cases hj
          · exact hij (Option.mem_unique hi hj)
        cases hlocked : lockEditable sh.contract versionSeen with
        | error e =>
          simp only [hlocked, bind, Except.bind, flush, unlock, if_true, Option.some.injEq,
            Prod.mk.injEq] at h
          obtain ⟨rfl, rfl⟩ := h
          exact .inl ⟨rfl, rfl, fun j hij hj => (hothers j hij hj).elim, trivial⟩
        | ok u =>
          simp only [hlocked, bind, Except.bind, pure, Except.pure, flush, Option.some.injEq,
            Prod.mk.injEq] at h
          obtain ⟨rfl, rfl⟩ := h
          obtain ⟨v, hv, -⟩ := Result.of_bind hlocked
          have hpending := requireEditableContract_eq_ok hv
          exact .inl ⟨rfl, rfl, fun j hij hj => (hothers j hij hj).elim, rfl, hpending,
            .inl ⟨hpending, rfl⟩⟩
      · cases h
    | _ => cases h
  | written contract event =>
    cases choice with
    | fail =>
      cases h
      exact .inl (hfail .idle trivial)
    | commit =>
      cases h
      exact .inr ⟨contract, event, rfl, rfl, rfl⟩
    | _ => cases h

omit [DecidableEq ι] in
/-- A session that keeps its lock on an unchanged row keeps what it knows. -/
theorem Knows.transfer (h : Knows contractId j sh lo) (hcontract : sh'.contract = sh.contract)
    (hlock : sh.lock = some j → sh'.lock = some j) : Knows contractId j sh' lo := by
  cases lo with
  | idle => trivial
  | resolved versionSeen vehicle vehicleLabel => trivial
  | loaded contract =>
    obtain ⟨hj, hrow⟩ := h
    exact ⟨hlock hj, hrow.trans hcontract.symm⟩
  | written contract event =>
    obtain ⟨hj, hpending, hstaged⟩ := h
    exact ⟨hlock hj, by rw [hcontract]; exact hpending, hstaged⟩

variable {c : Config ι (Shared ι) Local}

end Nexotec.FrozenContract
