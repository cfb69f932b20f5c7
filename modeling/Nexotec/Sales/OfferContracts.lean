/-
One live contract per offer, under concurrent requests.

`create_contract` reads its offer, then takes the offer's row lock, re-reads
the row under it and refuses when a live contract stands on the offer; the
lock is held until the commit.  `update_offer`, `finalize_offer` and
`cancel_offer` load the offer `FOR UPDATE` and refuse a live contract as well.
A contract is confirmed or cancelled under its own row lock only.

Each session's step is one statement or one commit; a run is any interleaving
of any number of sessions.
-/
import Nexotec.Lib.Interleaving
import Nexotec.Sales.Lifecycle

namespace Nexotec.OfferContracts

open Interleaving

variable {ι : Type}

/-! ### Sessions -/

/-- The committed tables, and which session holds which row lock. -/
structure Shared (ι : Type) where
  offers : Table Uuid SalesOffer
  contracts : Table Uuid SalesContract := ∅
  offerLock : Uuid → Option ι := fun _ => none
  contractLock : Uuid → Option ι := fun _ => none

/-- What a session does with an offer it holds. -/
inductive OfferWork where
  | create (reads : Reads) (tenantId : Uuid)
  | update (reads : Reads) (data : OfferUpdate)
  | finalize (reads : Reads)
  | cancel (reads : Reads) (reason : String)

/-- What a session does with a contract it holds. -/
inductive ContractWork where
  | confirm (reads : Reads) (reservationId : Option Uuid)
  | cancel (reads : Reads) (reason : String)

/-- A flushed write on an offer's lock: the offer's row, or a contract from it. -/
inductive OfferWrite where
  | offer (offer : SalesOffer)
  | contract (contractId : Uuid) (contract : SalesContract)

/-- Where a session is.  `found` is `create_contract` between the route's read
and the row lock. -/
inductive Local where
  | idle
  | found (reads : Reads) (tenantId offerId : Uuid)
  | offerLocked (offerId : Uuid) (offer : SalesOffer) (work : OfferWork)
  | offerWritten (offerId : Uuid) (write : OfferWrite)
  | contractLocked (contractId : Uuid) (contract : SalesContract) (work : ContractWork)
  | contractWritten (contractId : Uuid) (contract : SalesContract)

/-- A request begins, a session goes on with its next statement, or it fails. -/
inductive Choice where
  | createContract (reads : Reads) (tenantId offerId : Uuid)
  | openOffer (tenantId offerId : Uuid) (ifMatch : ℕ) (work : OfferWork)
  | openContract (tenantId contractId : Uuid) (ifMatch : ℕ) (work : ContractWork)
  | go
  | fail

def Choice.isGo : Choice → Bool
  | .go => true
  | .createContract .. | .openOffer .. | .openContract .. | .fail => false

/-- The checks and the write of a service that holds its offer, on the
contracts as committed now. -/
def serveOffer (contracts : Table Uuid SalesContract) (offerId : Uuid) (offer : SalesOffer) :
    OfferWork → Result OfferWrite
  | .create reads tenantId => do
    requireUncontracted contracts tenantId offerId offer
    pure (.contract (reads.uuid 0) (contractFromOffer reads tenantId offerId offer))
  | .update reads data => OfferWrite.offer <$> updateOffer reads contracts offerId offer data
  | .finalize reads => OfferWrite.offer <$> finalizeOffer reads contracts offerId offer
  | .cancel reads reason => OfferWrite.offer <$> cancelOffer reads contracts offerId offer reason

def serveContract (contract : SalesContract) : ContractWork → Result SalesContract
  | .confirm reads reservationId => do
    requireConfirmable reads contract
    pure (confirmedRow reads reservationId contract)
  | .cancel reads reason => do
    requireCancellable contract
    pure (cancelledRow reads reason contract)

/-- The offer routes other than `POST /sales/contracts` find, lock and check
the version in one statement each; none of them creates a contract. -/
def OfferWork.isEdit : OfferWork → Bool
  | .create .. => false
  | .update .. | .finalize _ | .cancel .. => true

def unlockOffer (offerId : Uuid) (sh : Shared ι) : Shared ι :=
  { sh with offerLock := Function.update sh.offerLock offerId none }

def unlockContract (contractId : Uuid) (sh : Shared ι) : Shared ι :=
  { sh with contractLock := Function.update sh.contractLock contractId none }

def lockOffer (i : ι) (offerId : Uuid) (sh : Shared ι) : Shared ι :=
  { sh with offerLock := Function.update sh.offerLock offerId (some i) }

def lockContract (i : ι) (contractId : Uuid) (sh : Shared ι) : Shared ι :=
  { sh with contractLock := Function.update sh.contractLock contractId (some i) }

/-- `COMMIT` of a write on an offer's lock; a contract under a key that is
taken raises, and the transaction is rolled back. -/
def commitOffer (offerId : Uuid) (sh : Shared ι) : OfferWrite → Shared ι
  | .offer offer => unlockOffer offerId { sh with offers := sh.offers.insert offerId offer }
  | .contract contractId contract =>
    match insertRow sh.contracts contractId contract with
    | .ok contracts => unlockOffer offerId { sh with contracts := contracts }
    | .error _ => unlockOffer offerId sh

/-- A request that finds nothing to work on answers and ends. -/
def begin (i : ι) (sh : Shared ι) : Choice → Option (Shared ι × Local)
  | .createContract reads tenantId offerId =>
    match getOfferOr404 sh.offers tenantId offerId with
    | .ok _ => some (sh, .found reads tenantId offerId)
    | .error _ => some (sh, .idle)
  | .openOffer tenantId offerId ifMatch work =>
    -- `FOR UPDATE` waits while another session holds the row
    if sh.offerLock offerId = none ∧ work.isEdit = true then
      match (do
        let offer ← getOfferOr404 sh.offers tenantId offerId
        checkVersion offer.version ifMatch "SalesOffer"
        pure offer) with
      | .ok offer => some (lockOffer i offerId sh, .offerLocked offerId offer work)
      | .error _ => some (sh, .idle)
    else none
  | .openContract tenantId contractId ifMatch work =>
    if sh.contractLock contractId = none then
      match (do
        let contract ← getContractOr404 sh.contracts tenantId contractId
        checkVersion contract.version ifMatch "SalesContract"
        pure contract) with
      | .ok contract => some (lockContract i contractId sh, .contractLocked contractId contract work)
      | .error _ => some (sh, .idle)
    else none
  | .go | .fail => none

/-- One statement of session `i`. -/
def step (i : ι) (choice : Choice) (sh : Shared ι) : Local → Option (Shared ι × Local)
  | .idle => begin i sh choice
  | .found reads tenantId offerId =>
    match choice with
    | .go =>
      if sh.offerLock offerId = none then
        match sh.offers.lookup offerId with
        | some offer =>
          some (lockOffer i offerId sh, .offerLocked offerId offer (.create reads tenantId))
        | none => some (sh, .idle)
      else none
    | .fail => some (sh, .idle)
    | _ => none
  | .offerLocked offerId offer work =>
    match choice with
    | .go =>
      match serveOffer sh.contracts offerId offer work with
      | .ok write => some (sh, .offerWritten offerId write)
      | .error _ => some (unlockOffer offerId sh, .idle)
    | .fail => some (unlockOffer offerId sh, .idle)
    | _ => none
  | .offerWritten offerId write =>
    match choice with
    | .go => some (commitOffer offerId sh write, .idle)
    | .fail => some (unlockOffer offerId sh, .idle)
    | _ => none
  | .contractLocked contractId contract work =>
    match choice with
    | .go =>
      match serveContract contract work with
      | .ok contract => some (sh, .contractWritten contractId contract)
      | .error _ => some (unlockContract contractId sh, .idle)
    | .fail => some (unlockContract contractId sh, .idle)
    | _ => none
  | .contractWritten contractId contract =>
    match choice with
    | .go => some (unlockContract contractId { sh with
        contracts := sh.contracts.insert contractId contract }, .idle)
    | .fail => some (unlockContract contractId sh, .idle)
    | _ => none

/-- Offers in any status, without a contract, and nobody at work. -/
def start (offers : Table Uuid SalesOffer) : Config ι (Shared ι) Local :=
  ⟨{ offers := offers }, fun _ => .idle⟩

/-! ### What a step can do -/

/-- The moves of a session, read off `step` once. -/
inductive Moves (i : ι) (sh : Shared ι) : Local → Shared ι → Local → Prop
  | answer : Moves i sh .idle sh .idle
  | leave (reads : Reads) (tenantId offerId : Uuid) :
      Moves i sh (.found reads tenantId offerId) sh .idle
  | find (reads : Reads) (tenantId offerId : Uuid) (offer : SalesOffer) :
      sh.offers.lookup offerId = some offer → offer.tenantId = tenantId →
      Moves i sh .idle sh (.found reads tenantId offerId)
  | lockEdit (offerId : Uuid) (offer : SalesOffer) (work : OfferWork) :
      sh.offerLock offerId = none → sh.offers.lookup offerId = some offer → work.isEdit = true →
      Moves i sh .idle (lockOffer i offerId sh) (.offerLocked offerId offer work)
  | lockCreate (reads : Reads) (tenantId offerId : Uuid) (offer : SalesOffer) :
      sh.offerLock offerId = none → sh.offers.lookup offerId = some offer →
      Moves i sh (.found reads tenantId offerId) (lockOffer i offerId sh)
        (.offerLocked offerId offer (.create reads tenantId))
  | serveOffer (offerId : Uuid) (offer : SalesOffer) (work : OfferWork) (write : OfferWrite) :
      serveOffer sh.contracts offerId offer work = .ok write →
      Moves i sh (.offerLocked offerId offer work) sh (.offerWritten offerId write)
  | dropLocked (offerId : Uuid) (offer : SalesOffer) (work : OfferWork) :
      Moves i sh (.offerLocked offerId offer work) (unlockOffer offerId sh) .idle
  | dropWritten (offerId : Uuid) (write : OfferWrite) :
      Moves i sh (.offerWritten offerId write) (unlockOffer offerId sh) .idle
  | putOffer (offerId : Uuid) (offer : SalesOffer) :
      Moves i sh (.offerWritten offerId (.offer offer))
        (unlockOffer offerId { sh with offers := sh.offers.insert offerId offer }) .idle
  | addContract (offerId contractId : Uuid) (contract : SalesContract) :
      sh.contracts.lookup contractId = none →
      Moves i sh (.offerWritten offerId (.contract contractId contract))
        (unlockOffer offerId { sh with contracts := sh.contracts.insert contractId contract })
        .idle
  | lockContract (contractId : Uuid) (contract : SalesContract) (work : ContractWork) :
      sh.contractLock contractId = none → sh.contracts.lookup contractId = some contract →
      Moves i sh .idle (lockContract i contractId sh) (.contractLocked contractId contract work)
  | serveContract (contractId : Uuid) (contract contract' : SalesContract) (work : ContractWork) :
      serveContract contract work = .ok contract' →
      Moves i sh (.contractLocked contractId contract work) sh
        (.contractWritten contractId contract')
  | dropContract (contractId : Uuid) (contract : SalesContract) (work : ContractWork) :
      Moves i sh (.contractLocked contractId contract work) (unlockContract contractId sh) .idle
  | dropContractWritten (contractId : Uuid) (contract : SalesContract) :
      Moves i sh (.contractWritten contractId contract) (unlockContract contractId sh) .idle
  | putContract (contractId : Uuid) (contract : SalesContract) :
      Moves i sh (.contractWritten contractId contract) (unlockContract contractId { sh with
        contracts := sh.contracts.insert contractId contract }) .idle

variable {i : ι} {sh sh' : Shared ι} {choice : Choice} {lo' : Local}

theorem moves_of_begin (h : begin i sh choice = some (sh', lo')) : Moves i sh .idle sh' lo' := by
  cases choice with
  | createContract reads tenantId offerId =>
    rw [begin] at h
    split at h
    · next offer hoffer =>
      cases h
      obtain ⟨hrow, htenant⟩ := getOfferOr404_tenant hoffer
      exact .find reads tenantId offerId offer hrow htenant
    · cases h
      exact .answer
  | openOffer tenantId offerId ifMatch work =>
    rw [begin] at h
    split at h
    · next hfree =>
      split at h
      · next offer hoffer =>
        cases h
        obtain ⟨found, hfound, hoffer⟩ := Result.of_bind hoffer
        obtain ⟨-, -, hoffer⟩ := Result.of_bind hoffer
        cases hoffer
        exact .lockEdit offerId _ work hfree.1 (getOfferOr404_tenant hfound).1 hfree.2
      · cases h
        exact .answer
    · cases h
  | openContract tenantId contractId ifMatch work =>
    rw [begin] at h
    split at h
    · next hfree =>
      split at h
      · next contract hcontract =>
        cases h
        obtain ⟨found, hfound, hcontract⟩ := Result.of_bind hcontract
        obtain ⟨-, -, hcontract⟩ := Result.of_bind hcontract
        cases hcontract
        rw [getContractOr404, orNotFound_eq_ok, Option.filter_eq_some_iff] at hfound
        exact .lockContract contractId _ work hfree hfound.1
      · cases h
        exact .answer
    · cases h
  | go => cases h
  | fail => cases h

variable {lo : Local}

theorem moves_of_step (h : step i choice sh lo = some (sh', lo')) : Moves i sh lo sh' lo' := by
  cases lo with
  | idle => exact moves_of_begin h
  | found reads tenantId offerId =>
    cases choice with
    | go =>
      simp only [step] at h
      split at h
      · next hfree =>
        split at h
        · next offer hoffer =>
          cases h
          exact .lockCreate reads tenantId offerId offer hfree hoffer
        · cases h
          exact .leave reads tenantId offerId
      · cases h
    | fail =>
      cases h
      exact .leave reads tenantId offerId
    | _ => cases h
  | offerLocked offerId offer work =>
    cases choice with
    | go =>
      simp only [step] at h
      split at h
      · next write hwrite =>
        cases h
        exact .serveOffer offerId offer work write hwrite
      · cases h
        exact .dropLocked offerId offer work
    | fail =>
      cases h
      exact .dropLocked offerId offer work
    | _ => cases h
  | offerWritten offerId write =>
    cases choice with
    | go =>
      cases h
      cases write with
      | offer offer => exact .putOffer offerId offer
      | contract contractId contract =>
        rw [commitOffer]
        split
        · next contracts hins =>
          obtain ⟨hfresh, rfl⟩ := insertRow_eq_ok hins
          exact .addContract offerId contractId contract hfresh
        · exact .dropWritten offerId _
    | fail =>
      cases h
      exact .dropWritten offerId write
    | _ => cases h
  | contractLocked contractId contract work =>
    cases choice with
    | go =>
      simp only [step] at h
      split at h
      · next contract' hwrite =>
        cases h
        exact .serveContract contractId contract contract' work hwrite
      · cases h
        exact .dropContract contractId contract work
    | fail =>
      cases h
      exact .dropContract contractId contract work
    | _ => cases h
  | contractWritten contractId contract =>
    cases choice with
    | go =>
      cases h
      exact .putContract contractId contract
    | fail =>
      cases h
      exact .dropContractWritten contractId contract
    | _ => cases h

/-! ### The invariant -/

def CancelledFree (offers : Table Uuid SalesOffer) (contracts : Table Uuid SalesContract) : Prop :=
  ∀ offerId offer, offers.lookup offerId = some offer → offer.status = .cancelled →
    NoLiveContract contracts offerId

/-- What holds of the committed tables; the second half of the rule only in
the runs that keep to it (`strict`). -/
structure Kept (strict : Prop) (sh : Shared ι) : Prop where
  tenants : OfferTenants sh.offers sh.contracts
  one : OneLive sh.contracts
  free : strict → CancelledFree sh.offers sh.contracts

def WorkFits (strict : Prop) (offer : SalesOffer) : OfferWork → Prop
  | .create _ tenantId => offer.tenantId = tenantId ∧ (strict → offer.status ≠ .cancelled)
  | .update .. | .finalize _ | .cancel .. => True

def WriteFits (strict : Prop) (offerId : Uuid) (offer : SalesOffer) : OfferWrite → Prop
  | .offer written => written.tenantId = offer.tenantId
  | .contract _ contract => contract.offerId = some offerId ∧
      contract.tenantId = offer.tenantId ∧ (strict → offer.status ≠ .cancelled)

/-- What a session knows: the rows it has locked are as committed, and a
write on an offer's lock has seen that no live contract stands on it. -/
def Knows (strict : Prop) (i : ι) (sh : Shared ι) : Local → Prop
  | .idle => True
  | .found _ tenantId offerId =>
    ∃ offer, sh.offers.lookup offerId = some offer ∧ offer.tenantId = tenantId
  | .offerLocked offerId offer work =>
    sh.offerLock offerId = some i ∧ sh.offers.lookup offerId = some offer ∧
      WorkFits strict offer work
  | .offerWritten offerId write =>
    sh.offerLock offerId = some i ∧ NoLiveContract sh.contracts offerId ∧
      ∃ offer, sh.offers.lookup offerId = some offer ∧ WriteFits strict offerId offer write
  | .contractLocked contractId contract _ =>
    sh.contractLock contractId = some i ∧ sh.contracts.lookup contractId = some contract
  | .contractWritten contractId written =>
    sh.contractLock contractId = some i ∧
      ∃ contract, sh.contracts.lookup contractId = some contract ∧
        written.offerId = contract.offerId ∧ written.tenantId = contract.tenantId ∧
        (contract.status = .cancelled → written.status = .cancelled)

/-- What session `i` leaves alone: the rows others hold, their locks, and the
contracts of the offers others hold. -/
structure Spares (i : ι) (sh sh' : Shared ι) : Prop where
  offerLock : ∀ offerId j, j ≠ i → sh.offerLock offerId = some j → sh'.offerLock offerId = some j
  contractLock : ∀ contractId j, j ≠ i → sh.contractLock contractId = some j →
    sh'.contractLock contractId = some j
  offer : ∀ offerId j, j ≠ i → sh.offerLock offerId = some j →
    sh'.offers.lookup offerId = sh.offers.lookup offerId
  contract : ∀ contractId j contract, j ≠ i → sh.contractLock contractId = some j →
    sh.contracts.lookup contractId = some contract →
    sh'.contracts.lookup contractId = some contract
  live : ∀ offerId j, j ≠ i → sh.offerLock offerId = some j →
    NoLiveContract sh.contracts offerId → NoLiveContract sh'.contracts offerId
  tenant : ∀ offerId offer, sh.offers.lookup offerId = some offer →
    ∃ offer', sh'.offers.lookup offerId = some offer' ∧ offer'.tenantId = offer.tenantId

theorem Knows.spared {strict : Prop} {j : ι} (hij : j ≠ i) (hspares : Spares i sh sh')
    (h : Knows strict j sh lo) : Knows strict j sh' lo := by
  cases lo with
  | idle => trivial
  | found reads tenantId offerId =>
    obtain ⟨offer, hoffer, htenant⟩ := h
    obtain ⟨offer', hoffer', hsame⟩ := hspares.tenant offerId offer hoffer
    exact ⟨offer', hoffer', hsame.trans htenant⟩
  | offerLocked offerId offer work =>
    obtain ⟨hlock, hoffer, hwork⟩ := h
    exact ⟨hspares.offerLock offerId j hij hlock,
      (hspares.offer offerId j hij hlock).trans hoffer, hwork⟩
  | offerWritten offerId write =>
    obtain ⟨hlock, hlive, offer, hoffer, hwrite⟩ := h
    exact ⟨hspares.offerLock offerId j hij hlock, hspares.live offerId j hij hlock hlive, offer,
      (hspares.offer offerId j hij hlock).trans hoffer, hwrite⟩
  | contractLocked contractId contract work =>
    obtain ⟨hlock, hcontract⟩ := h
    exact ⟨hspares.contractLock contractId j hij hlock,
      hspares.contract contractId j contract hij hlock hcontract⟩
  | contractWritten contractId written =>
    obtain ⟨hlock, contract, hcontract, hrest⟩ := h
    exact ⟨hspares.contractLock contractId j hij hlock, contract,
      hspares.contract contractId j contract hij hlock hcontract, hrest⟩

theorem Spares.refl (i : ι) (sh : Shared ι) : Spares i sh sh :=
  ⟨fun _ _ _ h => h, fun _ _ _ h => h, fun _ _ _ _ => rfl, fun _ _ _ _ _ h => h,
    fun _ _ _ _ h => h, fun _ offer h => ⟨offer, h, rfl⟩⟩

variable {offerId : Uuid}

theorem Spares.lockOffer (hfree : sh.offerLock offerId = none) :
    Spares i sh (OfferContracts.lockOffer i offerId sh) := by
  refine ⟨fun o j _ hlock => ?_, fun _ _ _ h => h, fun _ _ _ _ => rfl, fun _ _ _ _ _ h => h,
    fun _ _ _ _ h => h, fun _ offer h => ⟨offer, h, rfl⟩⟩
  have hne : o ≠ offerId := by
    rintro rfl
    rw [hfree] at hlock
    cases hlock
  exact (Function.update_of_ne hne _ _).trans hlock

variable {contractId : Uuid}

theorem Spares.lockContract (hfree : sh.contractLock contractId = none) :
    Spares i sh (OfferContracts.lockContract i contractId sh) := by
  refine ⟨fun _ _ _ h => h, fun c j _ hlock => ?_, fun _ _ _ _ => rfl, fun _ _ _ _ _ h => h,
    fun _ _ _ _ h => h, fun _ offer h => ⟨offer, h, rfl⟩⟩
  have hne : c ≠ contractId := by
    rintro rfl
    rw [hfree] at hlock
    cases hlock
  exact (Function.update_of_ne hne _ _).trans hlock

theorem Spares.unlockOffer (h : Spares i sh sh') (hown : sh'.offerLock offerId = some i) :
    Spares i sh (OfferContracts.unlockOffer offerId sh') := by
  refine ⟨fun o j hj hlock => ?_, h.contractLock, h.offer, h.contract, h.live, h.tenant⟩
  have hlock' := h.offerLock o j hj hlock
  have hne : o ≠ offerId := by
    rintro rfl
    exact hj (Option.mem_unique hlock' hown)
  exact (Function.update_of_ne hne _ _).trans hlock'

theorem Spares.unlockContract (h : Spares i sh sh') (hown : sh'.contractLock contractId = some i) :
    Spares i sh (OfferContracts.unlockContract contractId sh') := by
  refine ⟨h.offerLock, fun c j hj hlock => ?_, h.offer, h.contract, h.live, h.tenant⟩
  have hlock' := h.contractLock c j hj hlock
  have hne : c ≠ contractId := by
    rintro rfl
    exact hj (Option.mem_unique hlock' hown)
  exact (Function.update_of_ne hne _ _).trans hlock'

section Writes

variable {strict : Prop} {i : ι} {sh : Shared ι} {offerId : Uuid} {offer written : SalesOffer}

theorem putOffer_spares (hown : sh.offerLock offerId = some i)
    (hoffer : sh.offers.lookup offerId = some offer) (htenant : written.tenantId = offer.tenantId) :
    Spares i sh { sh with offers := sh.offers.insert offerId written } := by
  refine ⟨fun _ _ _ h => h, fun _ _ _ h => h, fun o j hj hlock => ?_, fun _ _ _ _ _ h => h,
    fun _ _ _ _ h => h, fun o row hrow => ?_⟩
  · have hne : o ≠ offerId := by
      rintro rfl
      exact hj (Option.mem_unique hlock hown)
    exact AList.lookup_insert_ne hne
  · by_cases heq : o = offerId
    · subst heq
      obtain rfl := Option.mem_unique hoffer hrow
      exact ⟨written, AList.lookup_insert _, htenant⟩
    · exact ⟨row, (AList.lookup_insert_ne heq).trans hrow, rfl⟩

theorem putOffer_kept (h : Kept strict sh) (hoffer : sh.offers.lookup offerId = some offer)
    (htenant : written.tenantId = offer.tenantId) (hlive : NoLiveContract sh.contracts offerId) :
    Kept strict { sh with offers := sh.offers.insert offerId written } := by
  refine ⟨fun id contract o hrow hof => ?_, h.one, fun hstrict o row hrow hcancelled => ?_⟩
  · obtain ⟨old, hold, hsame⟩ := h.tenants id contract o hrow hof
    by_cases heq : o = offerId
    · subst heq
      obtain rfl := Option.mem_unique hoffer hold
      exact ⟨written, AList.lookup_insert _, htenant.trans hsame⟩
    · exact ⟨old, (AList.lookup_insert_ne heq).trans hold, hsame⟩
  · rcases Table.lookup_insert_cases hrow with ⟨rfl, rfl⟩ | ⟨-, hold⟩
    · exact hlive
    · exact h.free hstrict o row hold hcancelled

variable {contractId : Uuid} {contract : SalesContract}

theorem addContract_spares (hown : sh.offerLock offerId = some i)
    (hfresh : sh.contracts.lookup contractId = none) (hof : contract.offerId = some offerId) :
    Spares i sh { sh with contracts := sh.contracts.insert contractId contract } := by
  refine ⟨fun _ _ _ h => h, fun _ _ _ h => h, fun _ _ _ _ => rfl, fun c j row _ _ hrow => ?_,
    fun o j hj hlock hlive id row hrow => ?_, fun _ offer h => ⟨offer, h, rfl⟩⟩
  · have hne : c ≠ contractId := by
      rintro rfl
      rw [hfresh] at hrow
      cases hrow
    exact (AList.lookup_insert_ne hne).trans hrow
  · rcases Table.lookup_insert_cases hrow with ⟨-, rfl⟩ | ⟨-, hold⟩
    · -- the new contract stands on the offer of the session that made it
      rintro ⟨hof', -⟩
      obtain rfl := Option.mem_unique hof hof'
      exact hj (Option.mem_unique hlock hown)
    · exact hlive id row hold

theorem addContract_kept (h : Kept strict sh) (hoffer : sh.offers.lookup offerId = some offer)
    (hlive : NoLiveContract sh.contracts offerId)
    (hfits : WriteFits strict offerId offer (.contract contractId contract)) :
    Kept strict { sh with contracts := sh.contracts.insert contractId contract } := by
  obtain ⟨hof, htenant, hstatus⟩ := hfits
  refine ⟨fun id row o hrow ho => ?_, fun o id id' row row' hrow hrow' hl hl' => ?_,
    fun hstrict o off hoff hcancelled id row hrow => ?_⟩
  · rcases Table.lookup_insert_cases hrow with ⟨-, rfl⟩ | ⟨-, hold⟩
    · obtain rfl := Option.mem_unique hof ho
      exact ⟨offer, hoffer, htenant.symm⟩
    · exact h.tenants id row o hold ho
  · rcases Table.lookup_insert_cases hrow with ⟨rfl, rfl⟩ | ⟨-, hold⟩
    · rcases Table.lookup_insert_cases hrow' with ⟨rfl, rfl⟩ | ⟨-, hold'⟩
      · rfl
      · obtain rfl := Option.mem_unique hof hl.1
        exact absurd hl' (hlive id' row' hold')
    · rcases Table.lookup_insert_cases hrow' with ⟨rfl, rfl⟩ | ⟨-, hold'⟩
      · obtain rfl := Option.mem_unique hof hl'.1
        exact absurd hl (hlive id row hold)
      · exact h.one o id id' row row' hold hold' hl hl'
  · rcases Table.lookup_insert_cases hrow with ⟨-, rfl⟩ | ⟨-, hold⟩
    · rintro ⟨ho, -⟩
      obtain rfl := Option.mem_unique hof ho
      obtain rfl := Option.mem_unique hoffer hoff
      exact hstatus hstrict hcancelled
    · exact h.free hstrict o off hoff hcancelled id row hold

variable {written : SalesContract}

theorem putContract_live (hcontract : sh.contracts.lookup contractId = some contract)
    (hof : written.offerId = contract.offerId)
    (hstatus : contract.status = .cancelled → written.status = .cancelled) {id : Uuid}
    {row : SalesContract} (hrow : (sh.contracts.insert contractId written).lookup id = some row) :
    ∃ old, sh.contracts.lookup id = some old ∧ row.offerId = old.offerId ∧
      ∀ offerId, LiveOn offerId row → LiveOn offerId old := by
  rcases Table.lookup_insert_cases hrow with ⟨rfl, rfl⟩ | ⟨-, hold⟩
  · refine ⟨contract, hcontract, hof, fun o hl => ⟨hof.symm.trans hl.1, fun hc => ?_⟩⟩
    exact hl.2 (hstatus hc)
  · exact ⟨row, hold, rfl, fun _ hl => hl⟩

theorem putContract_spares (hown : sh.contractLock contractId = some i)
    (hcontract : sh.contracts.lookup contractId = some contract)
    (hof : written.offerId = contract.offerId)
    (hstatus : contract.status = .cancelled → written.status = .cancelled) :
    Spares i sh { sh with contracts := sh.contracts.insert contractId written } := by
  refine ⟨fun _ _ _ h => h, fun _ _ _ h => h, fun _ _ _ _ => rfl, fun c j row hj hlock hrow => ?_,
    fun o j _ _ hlive id row hrow hl => ?_, fun _ offer h => ⟨offer, h, rfl⟩⟩
  · have hne : c ≠ contractId := by
      rintro rfl
      exact hj (Option.mem_unique hlock hown)
    exact (AList.lookup_insert_ne hne).trans hrow
  · obtain ⟨old, hold, -, hlift⟩ := putContract_live hcontract hof hstatus hrow
    exact hlive id old hold (hlift o hl)

theorem putContract_kept (h : Kept strict sh)
    (hcontract : sh.contracts.lookup contractId = some contract)
    (hof : written.offerId = contract.offerId) (htenant : written.tenantId = contract.tenantId)
    (hstatus : contract.status = .cancelled → written.status = .cancelled) :
    Kept strict { sh with contracts := sh.contracts.insert contractId written } := by
  refine ⟨fun id row o hrow ho => ?_, fun o id id' row row' hrow hrow' hl hl' => ?_,
    fun hstrict o off hoff hcancelled id row hrow hl => ?_⟩
  · rcases Table.lookup_insert_cases hrow with ⟨rfl, rfl⟩ | ⟨-, hold⟩
    · obtain ⟨offer, hoffer, hsame⟩ := h.tenants id contract o hcontract (hof.symm.trans ho)
      exact ⟨offer, hoffer, hsame.trans htenant.symm⟩
    · exact h.tenants id row o hold ho
  · obtain ⟨old, hold, -, hlift⟩ := putContract_live hcontract hof hstatus hrow
    obtain ⟨old', hold', -, hlift'⟩ := putContract_live hcontract hof hstatus hrow'
    exact h.one o id id' old old' hold hold' (hlift o hl) (hlift' o hl')
  · obtain ⟨old, hold, -, hlift⟩ := putContract_live hcontract hof hstatus hrow
    exact h.free hstrict o off hoff hcancelled id old hold (hlift o hl)

theorem serveOffer_fits {work : OfferWork} {write : OfferWrite} (h : Kept strict sh)
    (hoffer : sh.offers.lookup offerId = some offer) (hwork : WorkFits strict offer work)
    (hserve : serveOffer sh.contracts offerId offer work = .ok write) :
    NoLiveContract sh.contracts offerId ∧ WriteFits strict offerId offer write := by
  cases work with
  | create reads tenantId =>
    obtain ⟨htenant, hstatus⟩ := hwork
    obtain ⟨u, hu, hserve⟩ := Result.of_bind hserve
    cases hserve
    exact ⟨requireUncontracted_eq_ok h.tenants hoffer htenant hu, rfl, htenant.symm, hstatus⟩
  | update reads data =>
    obtain ⟨written, hwritten, rfl⟩ := Result.map_eq_ok.mp hserve
    obtain ⟨hlive, htenant, -⟩ := updateOffer_noLive h.tenants hoffer hwritten
    exact ⟨hlive, htenant⟩
  | finalize reads =>
    obtain ⟨written, hwritten, rfl⟩ := Result.map_eq_ok.mp hserve
    obtain ⟨hlive, rfl⟩ := finalizeOffer_eq_ok h.tenants hoffer hwritten
    exact ⟨hlive, rfl⟩
  | cancel reads reason =>
    obtain ⟨written, hwritten, rfl⟩ := Result.map_eq_ok.mp hserve
    obtain ⟨hlive, rfl⟩ := cancelOffer_eq_ok h.tenants hoffer hwritten
    exact ⟨hlive, rfl⟩

theorem serveContract_fits {work : ContractWork}
    (hserve : serveContract contract work = .ok written) :
    written.offerId = contract.offerId ∧ written.tenantId = contract.tenantId ∧
      (contract.status = .cancelled → written.status = .cancelled) := by
  cases work with
  | confirm reads reservationId =>
    obtain ⟨u, hu, hserve⟩ := Result.of_bind hserve
    cases hserve
    refine ⟨rfl, rfl, fun hcancelled => ?_⟩
    have hpending := (requireConfirmable_eq_ok hu).1
    rw [hcancelled] at hpending
    cases hpending
  | cancel reads reason =>
    obtain ⟨u, -, hserve⟩ := Result.of_bind hserve
    cases hserve
    exact ⟨rfl, rfl, fun _ => rfl⟩

end Writes

/-! ### Every step keeps the invariant -/

/-- The restriction of the second half: a contract is created from an offer
that is not cancelled when its lock is taken. -/
def LocksLiveOffer (choice : Choice) (sh : Shared ι) : Local → Prop
  | .found _ _ offerId =>
    choice.isGo = true → ∀ offer ∈ sh.offers.lookup offerId, offer.status ≠ .cancelled
  | .idle | .offerLocked .. | .offerWritten .. | .contractLocked .. | .contractWritten .. => True

instance (choice : Choice) (sh : Shared ι) : ∀ lo, Decidable (LocksLiveOffer choice sh lo)
  | .found _ _ offerId => inferInstanceAs (Decidable
      (choice.isGo = true → ∀ offer ∈ sh.offers.lookup offerId, offer.status ≠ .cancelled))
  | .idle | .offerLocked .. | .offerWritten .. | .contractLocked .. | .contractWritten .. =>
    inferInstanceAs (Decidable True)

section

variable {strict : Prop} {i : ι} {choice : Choice} {sh sh' : Shared ι} {lo lo' : Local}

theorem Kept.of_tables (h : Kept strict sh) (ho : sh'.offers = sh.offers)
    (hc : sh'.contracts = sh.contracts) : Kept strict sh' := by
  obtain ⟨htenants, hone, hfree⟩ := h
  refine ⟨?_, ?_, ?_⟩
  · rw [ho, hc]
    exact htenants
  · rw [hc]
    exact hone
  · rw [ho, hc]
    exact hfree

theorem step_spares (h : Knows strict i sh lo) (hmoves : Moves i sh lo sh' lo') :
    Spares i sh sh' := by
  cases hmoves with
  | answer => exact .refl i sh
  | leave => exact .refl i sh
  | find => exact .refl i sh
  | lockEdit offerId offer work hfree => exact .lockOffer hfree
  | lockCreate reads tenantId offerId offer hfree => exact .lockOffer hfree
  | serveOffer => exact .refl i sh
  | dropLocked offerId offer work => exact (Spares.refl i sh).unlockOffer h.1
  | dropWritten offerId write => exact (Spares.refl i sh).unlockOffer h.1
  | putOffer offerId written =>
    obtain ⟨hown, -, offer, hoffer, htenant⟩ := h
    exact (putOffer_spares hown hoffer htenant).unlockOffer hown
  | addContract offerId contractId contract hfresh =>
    obtain ⟨hown, -, offer, -, hof, -⟩ := h
    exact (addContract_spares hown hfresh hof).unlockOffer hown
  | lockContract contractId contract work hfree => exact .lockContract hfree
  | serveContract => exact .refl i sh
  | dropContract contractId contract work => exact (Spares.refl i sh).unlockContract h.1
  | dropContractWritten contractId contract => exact (Spares.refl i sh).unlockContract h.1
  | putContract contractId written =>
    obtain ⟨hown, contract, hcontract, hof, -, hstatus⟩ := h
    exact (putContract_spares hown hcontract hof hstatus).unlockContract hown

theorem step_kept (hsh : Kept strict sh) (h : Knows strict i sh lo)
    (hmoves : Moves i sh lo sh' lo') : Kept strict sh' := by
  cases hmoves with
  | answer | leave | find | serveOffer | serveContract => exact hsh
  | lockEdit | lockCreate | dropLocked | dropWritten | lockContract | dropContract
  | dropContractWritten => exact hsh.of_tables rfl rfl
  | putOffer offerId written =>
    obtain ⟨-, hlive, offer, hoffer, htenant⟩ := h
    exact (putOffer_kept hsh hoffer htenant hlive).of_tables rfl rfl
  | addContract offerId contractId contract hfresh =>
    obtain ⟨-, hlive, offer, hoffer, hfits⟩ := h
    exact (addContract_kept hsh hoffer hlive hfits).of_tables rfl rfl
  | putContract contractId written =>
    obtain ⟨-, contract, hcontract, hof, htenant, hstatus⟩ := h
    exact (putContract_kept hsh hcontract hof htenant hstatus).of_tables rfl rfl

theorem step_knows (hsh : Kept strict sh) (h : Knows strict i sh lo)
    (hok : strict → LocksLiveOffer choice sh lo)
    (hstep : step i choice sh lo = some (sh', lo')) : Knows strict i sh' lo' := by
  have hmoves := moves_of_step hstep
  cases hmoves with
  | answer | leave | dropLocked | dropWritten | putOffer | addContract | dropContract
  | dropContractWritten | putContract => trivial
  | find reads tenantId offerId offer hoffer htenant => exact ⟨offer, hoffer, htenant⟩
  | lockEdit offerId offer work hfree hoffer hedit =>
    refine ⟨Function.update_self _ _ _, hoffer, ?_⟩
    cases work with
    | create reads tenantId => cases hedit
    | update | finalize | cancel => trivial
  | lockCreate reads tenantId offerId offer hfree hoffer =>
    obtain ⟨found, hfound, htenant⟩ := h
    obtain rfl := Option.mem_unique hoffer hfound
    refine ⟨Function.update_self _ _ _, hoffer, htenant, fun hstrict => ?_⟩
    cases choice with
    | go => exact hok hstrict rfl offer hoffer
    | fail => simp [step] at hstep
    | createContract | openOffer | openContract => cases hstep
  | serveOffer offerId offer work write hserve =>
    obtain ⟨hown, hoffer, hwork⟩ := h
    obtain ⟨hlive, hwrite⟩ := serveOffer_fits hsh hoffer hwork hserve
    exact ⟨hown, hlive, offer, hoffer, hwrite⟩
  | lockContract contractId contract work hfree hcontract =>
    exact ⟨Function.update_self _ _ _, hcontract⟩
  | serveContract contractId contract written work hserve =>
    obtain ⟨hown, hcontract⟩ := h
    exact ⟨hown, contract, hcontract, serveContract_fits hserve⟩

end

/-! ### Runs -/

def CreatesFromLive (c : Config ι (Shared ι) Local) (a : ι × Choice) : Prop :=
  LocksLiveOffer a.2 c.shared (c.locals a.1)

instance (c : Config ι (Shared ι) Local) (a : ι × Choice) : Decidable (CreatesFromLive c a) :=
  inferInstanceAs (Decidable (LocksLiveOffer a.2 c.shared (c.locals a.1)))

theorem start_holds (strict : Prop) (offers : Table Uuid SalesOffer) :
    Holds (Kept strict) (Knows strict) (start offers : Config ι (Shared ι) Local) := by
  refine ⟨⟨fun id contract o hrow => ?_, fun o id id' contract contract' hrow => ?_,
    fun _ o offer _ _ id contract hrow => ?_⟩, fun _ => trivial⟩
  · cases hrow
  · cases hrow
  · cases hrow

section

variable [DecidableEq ι]

theorem run_kept (strict : Prop) (offers : Table Uuid SalesOffer) (moves : List (ι × Choice))
    (hok : Run.Along (move step) (fun c a => strict → CreatesFromLive c a) (start offers) moves) :
    Kept strict (moves.foldl (move step) (start offers)).shared := by
  have hmove : ∀ (c : Config ι (Shared ι) Local) (a : ι × Choice),
      Holds (Kept strict) (Knows strict) c → (strict → CreatesFromLive c a) →
      Holds (Kept strict) (Knows strict) (move step c a) := by
    intro c a hc ha
    refine noninterference (fun _ choice sh lo => strict → LocksLiveOffer choice sh lo) ?_ ?_ hc ha
    · intro i choice sh lo sh' lo' hsh hlo hlive hstep
      exact ⟨step_kept hsh hlo (moves_of_step hstep), step_knows hsh hlo hlive hstep⟩
    · intro i j choice sh lo lo' sh' lo'' hij _ hlo hlo' _ hstep
      exact hlo'.spared (Ne.symm hij) (step_spares hlo (moves_of_step hstep))
  exact (Run.invariant_along hmove (start_holds strict offers) hok).1

/-- **One live contract per offer, and none on a cancelled one.**  The first
half holds in every run; the second in every run that creates no contract
from an offer that is cancelled when its lock is taken. -/
theorem one_live_contract (offers : Table Uuid SalesOffer) (moves : List (ι × Choice)) :
    OneLive (moves.foldl (move step) (start offers)).shared.contracts ∧
    (Run.Along (move step) CreatesFromLive (start offers) moves →
      CancelledFree (moves.foldl (move step) (start offers)).shared.offers
        (moves.foldl (move step) (start offers)).shared.contracts) := by
  constructor
  · exact (run_kept False offers moves (.of_forall (fun _ _ h => h.elim) _ _)).one
  · intro hok
    exact (run_kept True offers moves (hok.mono fun _ _ h _ => h)).free trivial

end

def oneOffer : Table Uuid SalesOffer :=
  AList.insert 0 { tenantId := 1, offerNumber := "O-1" } ∅

/-- Two sessions ask for a contract at once; the one that is made is
cancelled, and then the offer is. -/
def contractedTwice : List (Bool × Choice) :=
  [(false, .createContract {} 1 0), (true, .createContract {} 1 0), (true, .go), (false, .go),
    (true, .go), (true, .go), (false, .go), (false, .go),
    (true, .openContract 1 0 1 (.cancel {} "financing")), (true, .go), (true, .go),
    (false, .openOffer 1 0 1 (.cancel {} "lost")), (false, .go), (false, .go)]

theorem one_live_contract_contractedTwice :
    Run.Along (move step) CreatesFromLive (start oneOffer) contractedTwice ∧
      ((contractedTwice.foldl (move step) (start oneOffer)).shared.offers.lookup 0).map (·.status)
        = some .cancelled ∧
      CancelledFree (contractedTwice.foldl (move step) (start oneOffer)).shared.offers
        (contractedTwice.foldl (move step) (start oneOffer)).shared.contracts := by
  have hok : Run.Along (move step) CreatesFromLive (start oneOffer) contractedTwice := by
    decide +kernel
  exact ⟨hok, by decide +kernel, (one_live_contract oneOffer contractedTwice).2 hok⟩

/-- The offer is cancelled, then a contract is made from it. -/
def contractAfterCancel : List (Bool × Choice) :=
  [(false, .openOffer 1 0 1 (.cancel {} "lost")), (false, .go), (false, .go),
    (true, .createContract {} 1 0), (true, .go), (true, .go), (true, .go)]

/-- `create_contract` never looks at the status of the offer. -/
theorem contract_of_a_cancelled_offer :
    ¬ ∀ (offers : Table Uuid SalesOffer) (moves : List (Bool × Choice)),
      OneLive (moves.foldl (move step) (start offers)).shared.contracts ∧
      CancelledFree (moves.foldl (move step) (start offers)).shared.offers
        (moves.foldl (move step) (start offers)).shared.contracts := by
  intro h
  have hoffer : ((contractAfterCancel.foldl (move step) (start oneOffer)).shared.offers.lookup
      0).map (·.status) = some .cancelled := by
    decide +kernel
  have hcontract : ((contractAfterCancel.foldl (move step) (start oneOffer)).shared.contracts.lookup
      0).map (fun contract => (contract.offerId, contract.status)) = some (some 0, .pending) := by
    decide +kernel
  obtain ⟨offer, hoffer, hstatus⟩ := Option.map_eq_some_iff.mp hoffer
  obtain ⟨contract, hcontract, hcols⟩ := Option.map_eq_some_iff.mp hcontract
  obtain ⟨hof, hlive⟩ := Prod.mk.inj hcols
  refine (h oneOffer contractAfterCancel).2 0 offer hoffer hstatus 0 contract hcontract ⟨hof, ?_⟩
  rw [hlive]
  exact nofun

end Nexotec.OfferContracts
