/-
Module entitlements and the tokens minted under them
(`app/platform/services/entitlement.py`, `_mint_session` of `app/platform/api/auth.py`,
`require_entitlement` of `app/core/permissions.py`, the entitlements route of
`app/platform/api/dealerships.py`).

A PUT of a dealership's set holds the row lock of the dealership from its `If-Match` check to
its commit.  Minting locks nothing: it reads the dealership with its version, then the clock,
then the rows, and a PUT may commit in between.

  minting → reading → (the token)
  setting → planning → writing → (committed)

The clock is shared and never goes back.  The rows of a module entitlement are unique for
(dealership, module), and no row is deleted.
-/
import Mathlib.Data.Fintype.Basic
import Nexotec.Core.Base
import Nexotec.Lib.Interleaving

namespace Nexotec.Entitlements

open Interleaving

/-! ### Rows -/

inductive ModuleCode where
  | sales
  | aftersales
  | parts
  | finance
  | reporting
  deriving DecidableEq

instance : Fintype ModuleCode :=
  ⟨{.sales, .aftersales, .parts, .finance, .reporting}, fun module => by cases module <;> decide⟩

structure ModuleEntitlement where
  grantedAt : Time
  grantedBy : Option Uuid
  validFrom : Time
  validTo : Option Time

def ModuleEntitlement.isActive (row : ModuleEntitlement) (now : Time) : Bool :=
  row.validFrom ≤ now ∧ (row.validTo = none ∨ ∃ validTo ∈ row.validTo, now < validTo)

abbrev Rows := ModuleCode → Option ModuleEntitlement

/-- The columns of a dealership that a PUT of its entitlements reads and writes. -/
structure Dealership where
  version : ℕ := 1
  entitlementsVersion : ℕ := 0
  updatedBy : Option Uuid := none

def listActiveModules (rows : Rows) (now : Time) : Finset ModuleCode :=
  Finset.univ.filter fun module => (rows module).any (·.isActive now)

/-! ### The set and the gate -/

/-- What `set_entitlements` leaves of one row. -/
def setRow (now : Time) (actorId : Uuid) (wanted : Bool) :
    Option ModuleEntitlement → Option ModuleEntitlement
  | some row =>
    if wanted = true ∧ row.isActive now = false then
      some { grantedAt := now, grantedBy := some actorId, validFrom := now, validTo := none }
    else if wanted = false ∧ row.isActive now = true then some { row with validTo := some now }
    else some row
  | none =>
    if wanted then
      some { grantedAt := now, grantedBy := some actorId, validFrom := now, validTo := none }
    else none

def setRows (now : Time) (actorId : Uuid) (wanted : Finset ModuleCode) (rows : Rows) : Rows :=
  fun module => setRow now actorId (module ∈ wanted) (rows module)

def bump (now : Time) (actorId : Uuid) (wanted : Finset ModuleCode) (rows : Rows)
    (dealership : Dealership) : Dealership :=
  if wanted = listActiveModules rows now then dealership
  else
    { version := dealership.version + 1
      entitlementsVersion := dealership.entitlementsVersion + 1
      updatedBy := some actorId }

/-- The claims of a token that the gate reads. -/
structure Token where
  tenantId : Uuid
  entitlementsVersion : ℕ
  entitlements : Finset ModuleCode
  deriving DecidableEq

def requireEntitlement (dealerships : Table Uuid Dealership) (module : ModuleCode) (token : Token) :
    Result Unit :=
  let current := (dealerships.lookup token.tenantId).map (·.entitlementsVersion)
  if current ≠ none ∧ current ≠ some token.entitlementsVersion then
    .error (unauthorizedError "Your session is out of date — sign in again.")
  else if module ∉ token.entitlements then .error (notFoundError "Not found.")
  else .ok ()

/-! ### Sessions -/

/-- A committed PUT: the version it left and the set it asked for. -/
structure Committed where
  dealershipId : Uuid
  entitlementsVersion : ℕ
  modules : Finset ModuleCode

structure Shared (ι : Type) where
  clock : Time
  dealerships : Table Uuid Dealership
  entitlements : Uuid → Rows
  lock : Uuid → Option ι := fun _ => none
  tokens : List Token := []
  /-- The committed PUTs, the newest first. -/
  commits : List Committed := []

structure Call where
  dealershipId : Uuid
  modules : Finset ModuleCode
  actorId : Uuid

/-- Where a session is. -/
inductive Local where
  | idle
  | minting (dealershipId : Uuid) (dealership : Dealership)
  | reading (dealershipId : Uuid) (dealership : Dealership) (now : Time)
  | setting (call : Call) (dealership : Dealership)
  | planning (call : Call) (dealership : Dealership) (now : Time)
  | writing (call : Call) (dealership : Dealership) (now : Time) (rows : Rows)

inductive Outcome where
  | committed
  | failed
  /-- Committed, and the session is told that it failed. -/
  | lost

inductive Choice where
  | tick (now : Time)
  | mint (dealershipId : Uuid)
  | put (call : Call) (ifMatch : ℕ)
  | readClock
  | readRows
  | commit (outcome : Outcome)
  | fail

variable {ι : Type} [DecidableEq ι]

def close (i : ι) (sh : Shared ι) : Shared ι :=
  { sh with lock := fun id => if sh.lock id = some i then none else sh.lock id }

/-- The checks of `_mint_session` are passed: the dealership is read, from the table or from
the session's identity map. -/
def beginMint (dealershipId : Uuid) (sh : Shared ι) : Option (Shared ι × Local) :=
  (sh.dealerships.lookup dealershipId).map fun dealership => (sh, .minting dealershipId dealership)

def issue (dealershipId : Uuid) (dealership : Dealership) (now : Time) (sh : Shared ι) : Shared ι :=
  { sh with
    tokens :=
      { tenantId := dealershipId
        entitlementsVersion := dealership.entitlementsVersion
        entitlements := listActiveModules (sh.entitlements dealershipId) now } :: sh.tokens }

/-- `get_dealership_for_update_or_404` and `check_version` of the route. -/
def beginPut (i : ι) (call : Call) (ifMatch : ℕ) (sh : Shared ι) : Option (Shared ι × Local) :=
  if sh.lock call.dealershipId = none then
    match (do
      let dealership ← orNotFound (sh.dealerships.lookup call.dealershipId)
        s!"Dealership {call.dealershipId} was not found."
      checkVersion dealership.version ifMatch "Dealership"
      pure dealership : Result Dealership) with
    | .ok dealership =>
      some ({ sh with lock := Function.update sh.lock call.dealershipId (some i) },
        .setting call dealership)
    | .error _ => none
  else none

def writeSet (call : Call) (dealership : Dealership) (now : Time) (rows : Rows) (sh : Shared ι) :
    Shared ι :=
  let bumped := bump now call.actorId call.modules rows dealership
  { sh with
    dealerships := sh.dealerships.insert call.dealershipId bumped
    entitlements := Function.update sh.entitlements call.dealershipId
      (setRows now call.actorId call.modules rows)
    commits := ⟨call.dealershipId, bumped.entitlementsVersion, call.modules⟩ :: sh.commits }

/-- What session `i` does next. -/
def step (i : ι) (choice : Choice) (sh : Shared ι) (lo : Local) : Option (Shared ι × Local) :=
  match lo, choice with
  | lo, .tick now => some ({ sh with clock := max sh.clock now }, lo)
  | .idle, .mint dealershipId => beginMint dealershipId sh
  | .minting dealershipId dealership, .readClock =>
    some (sh, .reading dealershipId dealership sh.clock)
  | .reading dealershipId dealership now, .readRows =>
    some (issue dealershipId dealership now sh, .idle)
  | .idle, .put call ifMatch => beginPut i call ifMatch sh
  | .setting call dealership, .readClock => some (sh, .planning call dealership sh.clock)
  | .planning call dealership now, .readRows =>
    some (sh, .writing call dealership now (sh.entitlements call.dealershipId))
  | .writing call dealership now rows, .commit outcome =>
    match outcome with
    | .committed | .lost => some (close i (writeSet call dealership now rows sh), .idle)
    | .failed => some (close i sh, .idle)
  | _, .fail => some (close i sh, .idle)
  | _, _ => none

/-- The dealerships and their entitlements at some moment: what has begun or ended did so by
then. -/
structure Licences where
  clock : Time
  dealerships : Table Uuid Dealership
  entitlements : Uuid → Rows
  past : ∀ id module row, entitlements id module = some row →
    row.validFrom ≤ clock ∧ ∀ validTo ∈ row.validTo, validTo ≤ clock

def start (licences : Licences) : Config ι (Shared ι) Local :=
  ⟨{ clock := licences.clock
     dealerships := licences.dealerships
     entitlements := licences.entitlements }, fun _ => .idle⟩

/-- What the last committed PUT of a dealership asked for; before the first, what it holds. -/
def lastAsked (licences : Licences) (commits : List Committed) (dealershipId : Uuid) :
    Finset ModuleCode :=
  match commits.find? (·.dealershipId = dealershipId) with
  | some commit => commit.modules
  | none => listActiveModules (licences.entitlements dealershipId) licences.clock

end Nexotec.Entitlements
