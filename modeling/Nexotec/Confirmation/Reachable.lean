/-
The invariant of the confirmation system over whole runs.

Each transaction gives the session that makes it what it relies on next, and
keeps the locks of the others (`Lands`).  Together with `Effect.good` and the
frame of `Nexotec.Confirmation.Sessions`:

* `step_lands` — what the moving session knows after its step;
* `step_frame` — what the other sessions keep;
* `invariant_run` — the tables are `Good` and every session's `Knows` holds
  after every run from a stock without reservations.
-/
import Nexotec.Confirmation.Sessions

namespace Nexotec.Confirmation

open Interleaving

variable {ι : Type}

/-- The step keeps the locks of the others, and the session stands where it
knows what it needs. -/
def Lands (i : ι) (sh sh' : Shared ι) (lo' : Local) : Prop :=
  KeepsLocks i sh sh' ∧ Knows i sh' lo'

section

variable {i : ι} {sh sh' : Shared ι} {lo lo' : Local}

theorem RowAt.congr {c : Uuid} {k : SalesContract} (h : RowAt i sh c k)
    (hlocks : sh'.contractLock = sh.contractLock)
    (hcontracts : sh'.sales.contracts = sh.sales.contracts) : RowAt i sh' c k := by
  rw [RowAt, hlocks, hcontracts]
  exact h

theorem Owned.congr {c r : Uuid} (h : Owned sh c r) (hstock : sh'.stock = sh.stock)
    (hnext : sh'.nextId = sh.nextId) : Owned sh' c r := by
  rw [Owned, hstock, hnext]
  exact h

theorem Knows.lands_close (hk : Knows i sh lo) (hc : sh'.contractLock = sh.contractLock)
    (hx : sh'.itemLock = sh.itemLock) : Lands i sh (close lo sh') .idle :=
  ⟨hk.keepsLocks_close hc hx, trivial⟩

variable {job : Job} {newlyUsed : Bool}

theorem undoOk_undoOf {reservationId : Option Uuid} (row : SalesContract)
    (hrow : sh'.sales.contracts.lookup job.contractId = some row)
    (htenant : row.tenantId = job.contract.tenantId)
    (howned : ∀ r ∈ reservationId, Owned sh' job.contractId r) :
    UndoOk sh' (undoOf job reservationId newlyUsed) :=
  ⟨howned, row, hrow, htenant⟩

theorem load_lands {tenantId contractId : Uuid} {ifMatch : ℕ}
    (h : load i tenantId contractId ifMatch sh = some (sh', lo')) : Lands i sh sh' lo' := by
  unfold load at h
  split at h
  · next hfree =>
    split at h
    · next contract hread =>
      cases h
      refine ⟨keepsLocks_lockContract hfree, Function.update_self _ _ _, ?_⟩
      obtain ⟨found, hfound, hread⟩ := Result.of_bind hread
      obtain ⟨u, -, hread⟩ := Result.of_bind hread
      cases hread
      exact getContractOr404_eq_ok hfound
    · cases h
  · cases h

variable {outcome : Outcome}

theorem consume_lands (hk : Knows i sh (.guarded job)) (h : consume outcome job sh = (sh', lo')) :
    Lands i sh sh' lo' := by
  unfold consume at h
  split at h
  · cases h
    exact ⟨.of_eq rfl rfl, hk⟩
  · split at h
    · cases h
      exact hk.lands_close rfl rfl
    · cases outcome with
      | committed =>
        cases h
        exact ⟨.of_eq rfl rfl, hk.1.congr rfl rfl, hk.2⟩
      | failed =>
        cases h
        exact hk.lands_close rfl rfl
      | lost =>
        cases h
        exact hk.lands_close rfl rfl

theorem reserveHead_lands (hk : Knows i sh (.consumed job newlyUsed))
    (h : reserveHead i job newlyUsed sh = some (sh', lo')) : Lands i sh sh' lo' := by
  unfold reserveHead at h
  split at h
  · next hnone =>
    cases h
    refine ⟨.of_eq rfl rfl, hk.1, hk.2, ?_⟩
    simp only [Backed, hnone]
  · next x hsome =>
    split at h
    · next hfree =>
      split at h
      · next item hitem =>
        cases h
        refine ⟨keepsLocks_lockItem hfree, hk.1.congr rfl rfl, hk.2, hsome,
          Function.update_self _ _ _, item, (stockItemToLock_eq_ok hitem).1, rfl, rfl, rfl, rfl⟩
      · cases h
        refine ⟨hk.keepsLocks_close rfl rfl, undoOk_undoOf job.contract ?_ rfl fun _ h => (by cases h)⟩
        simp only [close, unlockContract_sales, unlockItem_sales]
        exact hk.1.2
    · cases h

variable {x : Uuid} {item : StockItem}

theorem reserveLocked_held {stock : StockDb} {r : Uuid} (hg : Good sh)
    (hk : Knows i sh (.reserving job newlyUsed x item))
    (hok : reserveLocked job.reads.now sh.nextId sh.stock job.contract.tenantId x job.contractId
      (.confirm job.contractId) item = .ok (stock, r)) (hstock : sh'.stock = stock)
    (hnext : sh'.nextId = sh.nextId + 1) :
    Owned sh' job.contractId r ∧ HeldAt sh' x job.contractId r := by
  obtain ⟨-, -, -, -, locked, hlocked, hsame, -⟩ := hk
  rcases reserveLocked_eq_ok hok with ⟨hold, hfor⟩ | ⟨-, -, rfl, records, hnew, -⟩
  · -- the contract's live reservation
    have hres : locked.reservation = (.reserved, some job.contractId, some r) :=
      hsame.trans (heldFor_iff.mp hfor)
    have hactive : locked.activeReservationId = some r := congrArg (fun p => p.2.2) hres
    have hcontract : locked.reservedByContractId = some job.contractId :=
      congrArg (fun p => p.2.1) hres
    rw [Owned, HeldAt, hstock, hold, hnext]
    refine ⟨⟨Nat.lt_succ_of_lt ((hg.items x locked hlocked).active_lt hactive), ?_⟩,
      locked, hlocked, heldFor_iff.mpr hres⟩
    intro y other hother hr
    have hxy : x = y := hg.distinct x y locked other r hlocked hother hactive hr
    subst hxy
    rw [← Option.mem_unique hlocked hother]
    exact hcontract
  · -- a new one, under an id nobody has
    rw [Owned, HeldAt, hstock, hnew, hnext]
    refine ⟨⟨Nat.lt_succ_self _, ?_⟩, reserveAndFlush job.reads.now job.contractId sh.nextId locked,
      ?_, heldFor_iff.mpr rfl⟩
    · intro y other hother hr
      rw [Table.lookup_modify] at hother
      split at hother
      · obtain ⟨old, -, rfl⟩ := Option.map_eq_some_iff.mp hother
        rfl
      · exact absurd ((hg.items y other hother).active_lt hr) (Nat.lt_irrefl _)
    · rw [Table.lookup_modify_self, hlocked]
      rfl

theorem reserveTail_lands (hg : Good sh) (hk : Knows i sh (.reserving job newlyUsed x item))
    (h : reserveTail outcome job newlyUsed x item sh = (sh', lo')) : Lands i sh sh' lo' := by
  -- whatever fails, the compensation starts without a reservation
  have hundo : ∀ sh'' : Shared ι, sh''.contractLock = sh.contractLock →
      sh''.itemLock = sh.itemLock → sh''.sales.contracts = sh.sales.contracts →
      Lands i sh (close (.reserving job newlyUsed x item) sh'')
        (.compensating (undoOf job none newlyUsed)) := by
    intro sh'' hc hx hcontracts
    refine ⟨hk.keepsLocks_close hc hx, undoOk_undoOf job.contract ?_ rfl (nofun)⟩
    simp only [close, unlockContract_sales, unlockItem_sales, hcontracts]
    exact hk.1.2
  unfold reserveTail at h
  simp only at h
  split at h
  · cases h
    exact hundo sh rfl rfl rfl
  · next stock r hok =>
    cases outcome with
    | committed =>
      cases h
      refine ⟨?_, hk.1.congr rfl rfl, hk.2.1, ?_⟩
      · exact keepsLocks_unlockItem hk.2.2.2.1 rfl rfl
      · simp only [Backed, hk.2.2.1]
        exact ⟨r, rfl, reserveLocked_held hg hk hok rfl rfl⟩
    | failed =>
      cases h
      exact hundo sh rfl rfl rfl
    | lost =>
      cases h
      exact hundo { sh with stock := stock, nextId := sh.nextId + 1 } rfl rfl rfl

theorem sign_lands {reservationId : Option Uuid}
    (hk : Knows i sh (.reserved job newlyUsed reservationId))
    (h : sign outcome job newlyUsed reservationId sh = (sh', lo')) : Lands i sh sh' lo' := by
  unfold sign at h
  simp only at h
  cases outcome with
  | committed =>
    cases h
    exact hk.lands_close rfl rfl
  | failed =>
    cases h
    refine ⟨hk.keepsLocks_close rfl rfl, undoOk_undoOf job.contract ?_ rfl fun r hr => ?_⟩
    · simp only [close, unlockContract_sales, unlockItem_sales]
      exact hk.1.2
    · exact (hk.2.2.owned r hr).congr (by simp [close]) (by simp [close])
  | lost =>
    cases h
    refine ⟨hk.keepsLocks_close rfl rfl,
      undoOk_undoOf (confirmedRow job.reads reservationId job.contract) ?_ rfl fun r hr => ?_⟩
    · simp [close]
    · exact (hk.2.2.owned r hr).congr (by simp [close]) (by simp [close])

variable {undo : Undo}

theorem undoHead_lands (hk : Knows i sh (.compensating undo))
    (h : undoHead i undo sh = some (sh', lo')) : Lands i sh sh' lo' := by
  unfold undoHead at h
  split at h
  · next hfree =>
    split at h
    · cases h
      exact ⟨.of_eq rfl rfl, trivial⟩
    · next hunsigned =>
      cases h
      obtain ⟨howned, row, hrow, htenant⟩ := hk
      refine ⟨keepsLocks_lockContract hfree, ⟨howned, row, hrow, htenant⟩,
        Function.update_self _ _ _, row, hrow, htenant, ?_⟩
      simpa [signedAt, hrow, htenant] using hunsigned
  · cases h

theorem undoReleaseHead_lands (hk : Knows i sh (.undoing undo))
    (h : undoReleaseHead i undo sh = some (sh', lo')) : Lands i sh sh' lo' := by
  -- a release that raised or was answered from its record is done
  have hdone : Lands i sh sh (.undoing { undo with reservationId := none }) :=
    ⟨.of_eq rfl rfl, ⟨nofun, hk.1.2⟩, hk.2⟩
  unfold undoReleaseHead at h
  split at h
  · cases h
  · next reservationId hreservation =>
    split at h
    · next x item hfound =>
      split at h
      · next hfree =>
        cases h
        obtain ⟨hrow, -, hactive⟩ := reservationToLock_eq_ok hfound
        exact ⟨keepsLocks_lockItem hfree, hk.1, hk.2,
          ⟨Function.update_self _ _ _, item, hrow, rfl, rfl, rfl, rfl⟩, hactive,
          hk.1.1 reservationId hreservation⟩
      · cases h
    · cases h
      exact hdone
    · cases h
      exact hdone

theorem undoReleaseTail_lands {now : Time} {reservationId : Uuid}
    (hk : Knows i sh (.undoReleasing undo reservationId x item))
    (h : undoReleaseTail now outcome undo reservationId x sh = (sh', lo')) :
    Lands i sh sh' lo' := by
  have hdone : ∀ stock : StockDb, Lands i sh (unlockItem (some x) { sh with stock := stock })
      (.undoing { undo with reservationId := none }) := by
    intro stock
    exact ⟨keepsLocks_unlockItem hk.2.2.1.1 rfl rfl, ⟨nofun, hk.1.2⟩,
      hk.2.1⟩
  unfold undoReleaseTail at h
  simp only at h
  split at h
  · cases h
    exact hdone sh.stock
  · next stock hok =>
    cases outcome with
    | committed | lost =>
      cases h
      exact hdone stock
    | failed =>
      cases h
      exact hdone sh.stock

theorem undoRevert_lands (hk : Knows i sh (.undoing undo))
    (h : undoRevert outcome undo sh = some (sh', lo')) : Lands i sh sh' lo' := by
  unfold undoRevert at h
  split at h
  · cases h
  · cases outcome with
    | committed | lost =>
      cases h
      exact hk.lands_close rfl rfl
    | failed =>
      cases h
      exact hk.lands_close rfl rfl

variable {reason : String}

theorem cancelReleaseHead_lands (hg : Good sh) (hk : Knows i sh (.cancelling job reason))
    (h : cancelReleaseHead i job reason sh = some (sh', lo')) : Lands i sh sh' lo' := by
  unfold cancelReleaseHead at h
  simp only at h
  split at h
  · cases h
    exact ⟨.of_eq rfl rfl, hk⟩
  · next reservationId hsigned =>
    have hreservation : job.contract.reservationId = some reservationId := by
      split at hsigned
      · exact hsigned
      · cases hsigned
    split at h
    · next x item hfound =>
      split at h
      · next hfree =>
        cases h
        obtain ⟨hrow, -, hactive⟩ := reservationToLock_eq_ok hfound
        exact ⟨keepsLocks_lockItem hfree, hk,
          ⟨Function.update_self _ _ _, item, hrow, rfl, rfl, rfl, rfl⟩, hactive,
          (hg.rows _ _ hk.2).owned reservationId hreservation⟩
      · cases h
    · cases h
      exact ⟨.of_eq rfl rfl, hk⟩
    · split at h
      · cases h
        exact ⟨.of_eq rfl rfl, hk⟩
      · cases h
        exact hk.lands_close rfl rfl

theorem cancelReleaseTail_lands {now : Time} {reservationId : Uuid}
    (hk : Knows i sh (.cancelReleasing job reason reservationId x item))
    (h : cancelReleaseTail now outcome job reason reservationId x item sh = (sh', lo')) :
    Lands i sh sh' lo' := by
  unfold cancelReleaseTail at h
  simp only at h
  split at h
  · cases h
    exact hk.lands_close rfl rfl
  · cases outcome with
    | committed =>
      cases h
      exact ⟨keepsLocks_unlockItem hk.2.1.1 rfl rfl, hk.1.congr rfl rfl⟩
    | failed =>
      cases h
      exact hk.lands_close rfl rfl
    | lost =>
      cases h
      exact hk.lands_close rfl rfl

theorem commitCancel_lands (hk : Knows i sh (.cancelReleased job reason))
    (h : commitCancel outcome job reason sh = (sh', lo')) : Lands i sh sh' lo' := by
  unfold commitCancel at h
  cases outcome with
  | committed | lost =>
    cases h
    exact hk.lands_close rfl rfl
  | failed =>
    cases h
    exact hk.lands_close rfl rfl

theorem serve_lands {reads : Reads} {request : Request} (h : serve reads request sh = some sh') :
    Lands i sh sh' .idle := by
  unfold serve at h
  split at h
  · split at h
    · cases h
      exact ⟨.of_eq rfl rfl, trivial⟩
    · cases h
  · cases h

theorem consumeEvent_lands {reads : ConsumerReads} {event : Event}
    (h : consumeEvent reads event sh = some sh') : Lands i sh sh' .idle := by
  unfold consumeEvent at h
  split at h
  · cases event with
    | confirmed tenantId payload =>
      simp only at h
      split at h
      · cases h
        exact ⟨.of_eq rfl rfl, trivial⟩
      · cases h
    | cancelled tenantId contractId =>
      simp only at h
      split at h
      · cases h
        exact ⟨.of_eq rfl rfl, trivial⟩
      · cases h
  · cases h

end

theorem step_lands {i : ι} {choice : Choice} {sh sh' : Shared ι} {lo lo' : Local} (hg : Good sh)
    (hk : Knows i sh lo) (h : step i choice sh lo = some (sh', lo')) : Lands i sh sh' lo' := by
  cases choice with
  | request reads request =>
    cases lo with
    | idle =>
      obtain ⟨sh'', hserve, heq⟩ := Option.map_eq_some_iff.mp h
      cases heq
      exact serve_lands hserve
    | _ => cases h
  | deliver reads event =>
    cases lo with
    | idle =>
      obtain ⟨sh'', hconsume, heq⟩ := Option.map_eq_some_iff.mp h
      cases heq
      exact consumeEvent_lands hconsume
    | _ => cases h
  | load tenantId contractId ifMatch =>
    cases lo with
    | idle => exact load_lands h
    | _ => cases h
  | confirm reads =>
    cases lo with
    | loaded contractId contract =>
      simp only [step] at h
      split at h
      · next hok =>
        cases h
        exact ⟨.of_eq rfl rfl, hk, (requireConfirmable_eq_ok hok).1⟩
      · cases h
        exact hk.lands_close rfl rfl
    | _ => cases h
  | cancel reads reason =>
    cases lo with
    | loaded contractId contract =>
      simp only [step] at h
      split at h
      · cases h
        exact ⟨.of_eq rfl rfl, hk⟩
      · cases h
        exact hk.lands_close rfl rfl
    | _ => cases h
  | consume outcome =>
    cases lo with
    | guarded job => exact consume_lands hk (Option.some.inj h)
    | _ => cases h
  | lockItem =>
    cases lo with
    | consumed job newlyUsed => exact reserveHead_lands hk h
    | _ => cases h
  | reserve outcome =>
    cases lo with
    | reserving job newlyUsed x item => exact reserveTail_lands hg hk (Option.some.inj h)
    | _ => cases h
  | sign outcome =>
    cases lo with
    | reserved job newlyUsed reservationId => exact sign_lands hk (Option.some.inj h)
    | _ => cases h
  | lockContract =>
    cases lo with
    | compensating undo => exact undoHead_lands hk h
    | _ => cases h
  | lockReservation =>
    cases lo with
    | undoing undo => exact undoReleaseHead_lands hk h
    | cancelling job reason => exact cancelReleaseHead_lands hg hk h
    | _ => cases h
  | release now outcome =>
    cases lo with
    | undoReleasing undo reservationId x item =>
      exact undoReleaseTail_lands hk (Option.some.inj h)
    | cancelReleasing job reason reservationId x item =>
      exact cancelReleaseTail_lands hk (Option.some.inj h)
    | _ => cases h
  | revertUse outcome =>
    cases lo with
    | undoing undo => exact undoRevert_lands hk h
    | _ => cases h
  | commitCancel outcome =>
    cases lo with
    | cancelReleased job reason => exact commitCancel_lands hk (Option.some.inj h)
    | _ => cases h
  | fail =>
    cases (step_fail i sh lo).symm.trans h
    exact hk.lands_close rfl rfl

theorem step_frame {i : ι} {choice : Choice} {sh sh' : Shared ι} {lo lo' : Local} (hg : Good sh)
    (hk : Knows i sh lo) (h : step i choice sh lo = some (sh', lo')) : Frame i sh sh' := by
  have heffect := step_effect h
  obtain ⟨hlocks, -⟩ := step_lands hg hk h
  refine ⟨hlocks.contractLock, hlocks.itemLock, ?_, ?_, ?_, ?_, ?_⟩
  · intro c j row hij hlock hrow
    exact heffect.locked_row hk hij hlock hrow
  · intro c row hrow
    exact heffect.tenants hk hrow
  · intro c r howned
    exact heffect.owned howned
  · intro x j item hij hlock hkeeps
    exact heffect.locked_item hk hij hlock hkeeps
  · intro c j x r row hij hlock hrow hstatus hheld
    refine heffect.held hg hk hrow hstatus (fun hreleasing => ?_) hheld
    -- the releasing session would hold the lock
    have hown := hk.lock_of_releasing hreleasing
    exact hij (Option.mem_unique hown hlock)

theorem good_start (stock : FreeStock) (valuations : Table Uuid Valuation) (nextId : Uuid) :
    Holds Good Knows (start stock valuations nextId : Config ι (Shared ι) Local) := by
  refine ⟨⟨?_, ?_, ?_, ?_, ?_, ?_, ?_⟩, fun _ => trivial⟩
  · intro x item hrow
    exact .inl (stock.free x item hrow)
  · intro x y item item' r hrow _ hr _
    rw [active_of_free (stock.free x item hrow)] at hr
    cases hr
  · intro c row hrow
    cases hrow
  · intro t c hmem
    cases hmem
  · intro c t record hrecord
    cases hrecord
  · intro c t record r hrecord
    cases hrecord
  · intro r t
    rfl

variable [DecidableEq ι]

theorem move_invariant {cfg : Config ι (Shared ι) Local} (h : Holds Good Knows cfg)
    (a : ι × Choice) : Holds Good Knows (move step cfg a) := by
  refine noninterference_all ?_ ?_ h a
  · intro i choice sh lo sh' lo' hg hk hstep
    exact ⟨(step_effect hstep).good hg hk, (step_lands hg hk hstep).2⟩
  · intro i j choice sh lo lo' sh' lo'' hij hg hki hkj hstep
    exact hkj.transfer (step_frame hg hki hstep) hij

theorem invariant_run (stock : FreeStock) (valuations : Table Uuid Valuation) (nextId : Uuid)
    (as : List (ι × Choice)) :
    Holds Good Knows (as.foldl (move step) (start stock valuations nextId)) := by
  have hmove : ∀ (cfg : Config ι (Shared ι) Local) (a : ι × Choice),
      Holds Good Knows cfg → Holds Good Knows (move step cfg a) :=
    fun _ a h => move_invariant h a
  exact Run.invariant hmove (good_start stock valuations nextId) as

end Nexotec.Confirmation
