/-
Whole runs of the backfill: it is done once, a dry run foresees it, and what it reserves
(`app/inventory/services/reservation_backfill.py`).

A dry run that does not foresee: `overtaken_fails`.
-/
import Nexotec.Inventory.BackfillVerdicts

namespace Nexotec.Backfill

open KeyedPass

section Pass

variable (history : History) (draws : Uuid → Draw)

def lineOf (contractId : Uuid) (db : BackfillDb) : BackfillLine :=
  (verdict history contractId (view history db contractId)).1

def nextOf (contractId : Uuid) (db : BackfillDb) : BackfillDb :=
  (verdict history contractId (view history db contractId)).2.apply (draws contractId) contractId db

end Pass

/-- The tables after a committing run. -/
abbrev outcome (reads : RunReads) (db : BackfillDb) : BackfillDb :=
  final (nextOf (readPhase reads db) reads.draw) (readPhase reads db).contracts db

theorem backfill_commit (reads : RunReads) (db : BackfillDb) : backfill true reads db = .ok
      (⟨true, lines (lineOf (readPhase reads db)) (nextOf (readPhase reads db) reads.draw)
        (readPhase reads db).contracts db⟩, outcome reads db) := by
  have hpass : passOver (fun c db' => backfillContract (readPhase reads db) (reads.draw c) db' c) true
      (readPhase reads db).contracts db = .ok
        (lines (lineOf (readPhase reads db)) (nextOf (readPhase reads db) reads.draw)
          (readPhase reads db).contracts db, outcome reads db) :=
    passOver_commit (lineOf (readPhase reads db)) (nextOf (readPhase reads db) reads.draw)
      (fun c hc db' hpresent => backfillContract_eq hpresent hc)
      (fun c _ db' hpresent => present_apply _ hpresent) (present_readPhase reads db)
  rw [backfill, hpass]
  rfl

theorem backfill_dry (reads : RunReads) (db : BackfillDb) : backfill false reads db = .ok
      (⟨false, (readPhase reads db).contracts.map fun c => lineOf (readPhase reads db) c db⟩, db) := by
  have hpass : passOver (fun c db' => backfillContract (readPhase reads db) (reads.draw c) db' c) false
      (readPhase reads db).contracts db = .ok
        ((readPhase reads db).contracts.map fun c => lineOf (readPhase reads db) c db, db) :=
    passOver_dry (lineOf (readPhase reads db)) (nextOf (readPhase reads db) reads.draw)
      fun c hc => backfillContract_eq (present_readPhase reads db) hc
  rw [backfill, hpass]
  rfl

theorem contracts_sorted (history : History) : history.contracts.Pairwise (· < ·) := by
  have hle : history.contracts.Pairwise (· ≤ ·) := List.pairwise_insertionSort _ _
  have hnodup : history.contracts.Nodup :=
    ((List.perm_insertionSort _ _).nodup_iff).mpr (List.nodup_dedup _)
  exact (hle.and hnodup).imp fun h => lt_of_le_of_ne h.1 h.2

variable {history : History} {done rest : List Uuid} {c : Uuid}

theorem mem_done_iff {a : Uuid} (h : history.contracts = done ++ c :: rest) :
    a ∈ done ↔ a ∈ history.contracts ∧ a < c := by
  have hsorted := contracts_sorted history
  rw [h, List.pairwise_append] at hsorted
  obtain ⟨-, htail, hacross⟩ := hsorted
  rw [h, List.mem_append]
  constructor
  · intro ha
    exact ⟨.inl ha, hacross a ha c List.mem_cons_self⟩
  · rintro ⟨ha | ha, hlt⟩
    · exact ha
    · rcases List.mem_cons.mp ha with rfl | ha
      · exact absurd hlt (lt_irrefl _)
      · exact absurd (List.rel_of_pairwise_cons htail ha) (lt_asymm hlt)

theorem notMem_done (h : history.contracts = done ++ c :: rest) : c ∉ done :=
  fun hc => lt_irrefl c ((mem_done_iff h).mp hc).2

/-! ### Who has what reserved -/

def ReservedFor (db : BackfillDb) (stockItemId contractId : Uuid) : Prop :=
  ∃ row, db.items.lookup stockItemId = some row ∧ row.reservationState = .reserved ∧
    row.reservedByContractId = some contractId

section

variable {history : History} {db : BackfillDb} {draw : Draw} {a c x : Uuid}

theorem reservedFor_apply
    (hother : c ≠ a ∨ history.cancellations.lookup a = none) (h : ReservedFor db x c) :
    ReservedFor ((verdict history a (view history db a)).2.apply draw a db) x c := by
  obtain ⟨row, hrow, hreserved, hholder⟩ := h
  cases hd : (verdict history a (view history db a)).2 with
  | keep => exact ⟨row, hrow, hreserved, hholder⟩
  | reserve y t =>
    obtain ⟨⟨-, hitem, -⟩, -, hnone, -⟩ := verdict_reserve.mp hd
    have hne : x ≠ y := by
      rintro rfl
      rw [holder_of_row hitem hrow, holderOf, if_pos hreserved] at hnone
      cases hnone
    exact ⟨row, (Table.lookup_modify_ne hne _ _).trans hrow, hreserved, hholder⟩
  | record t label cancelledAt =>
    obtain ⟨⟨cancellation, hcancelled, -⟩, -⟩ := verdict_record.mp ⟨label, cancelledAt, hd⟩
    have hne : c ≠ a := hother.resolve_right fun hlive => by
      rw [hcancelled] at hlive
      cases hlive
    have hkept : ¬ heldBy t a row = true := by
      intro hheld
      rw [(heldBy_iff.mp hheld).2.1] at hholder
      exact hne (Option.some.inj hholder).symm
    refine ⟨row, ?_, hreserved, hholder⟩
    rw [Decision.apply, recordContractCancelled, Table.lookup_updateAll, hrow, Option.map_some,
      if_neg hkept]

theorem reservedFor_of_apply
    (h : ReservedFor ((verdict history a (view history db a)).2.apply draw a db) x c) :
    ReservedFor db x c ∨ c = a ∧ ∃ t, (verdict history a (view history db a)).2 = .reserve x t := by
  obtain ⟨row, hrow, hreserved, hholder⟩ := h
  cases hd : (verdict history a (view history db a)).2 with
  | keep =>
    rw [hd] at hrow
    exact .inl ⟨row, hrow, hreserved, hholder⟩
  | reserve y t =>
    rw [hd, Decision.apply, reserveItem, Table.lookup_modify] at hrow
    split at hrow
    · next hx =>
      obtain ⟨before, -, rfl⟩ := Option.map_eq_some_iff.mp hrow
      subst hx
      exact .inr ⟨(Option.some.inj hholder).symm, t, rfl⟩
    · exact .inl ⟨row, hrow, hreserved, hholder⟩
  | record t label cancelledAt =>
    rw [hd, Decision.apply, recordContractCancelled, Table.lookup_updateAll,
      Option.map_eq_some_iff] at hrow
    obtain ⟨before, hbefore, rfl⟩ := hrow
    by_cases hheld : heldBy t a before = true
    · rw [if_pos hheld] at hholder
      cases hholder
    · rw [if_neg hheld] at hreserved hholder
      exact .inl ⟨before, hbefore, hreserved, hholder⟩

theorem reservedFor_reserve (hpresent : Present history db) {t : Uuid}
    (hd : (verdict history a (view history db a)).2 = .reserve x t) :
    ReservedFor ((verdict history a (view history db a)).2.apply draw a db) x a := by
  obtain ⟨⟨-, hitem, -⟩, -⟩ := verdict_reserve.mp hd
  obtain ⟨row, hrow, -⟩ := hpresent a ⟨x, t⟩ hitem
  refine ⟨reserveAndFlush draw.now a draw.reservationId row, ?_, rfl, rfl⟩
  rw [hd, Decision.apply, reserveItem, Table.lookup_modify_self, hrow, Option.map_some]

end

section Run

variable {reads : RunReads} {history : History} {draws : Uuid → Draw} {db₀ db : BackfillDb}
  {done rest : List Uuid} {a c x : Uuid}

/-- One of the contracts done has released the item of the contract. -/
def Freed (history : History) (db₀ : BackfillDb) (done : List Uuid) (contractId : Uuid) : Prop :=
  ∃ a ∈ done, Frees history a contractId (view history db₀ a) (view history db₀ contractId)

/-- **The run so far**, from `db₀`: what the contracts ahead see, and what those done have left. -/
structure Along (history : History) (db₀ : BackfillDb) (done : List Uuid) (db : BackfillDb) : Prop where
  reads : ∀ reads, readPhase reads db = readPhase reads db₀
  present : Present history db
  freed : ∀ c, c ∉ done → Freed history db₀ done c → view history db c = (view history db₀ c).freed
  same : ∀ c, c ∉ done → ¬ Freed history db₀ done c → view history db c = view history db₀ c
  quiet : ∀ c ∈ done, Quiet history db c
  kept : ∀ x c, history.cancellations.lookup c = none → ReservedFor db₀ x c → ReservedFor db x c
  reserved : ∀ c ∈ done, ∀ x t, (verdict history c (view history db₀ c)).2 = .reserve x t →
    ReservedFor db x c
  only : ∀ x c, ReservedFor db x c → ReservedFor db₀ x c ∨
    c ∈ done ∧ ∃ t, (verdict history c (view history db₀ c)).2 = .reserve x t

theorem along_nil (h : Present history db₀) : Along history db₀ [] db₀ where
  reads := fun _ => rfl
  present := h
  freed := fun c _ hfreed => by
    obtain ⟨a, ha, -⟩ := hfreed
    cases ha
  same := fun c _ _ => rfl
  quiet := fun c hc => by cases hc
  kept := fun x c _ hreserved => hreserved
  reserved := fun c hc => by cases hc
  only := fun x c hreserved => .inl hreserved

theorem Along.recorded (h : Along history db₀ done db) (hc : c ∉ done) :
    (view history db c).recorded = (view history db₀ c).recorded := by
  by_cases hfreed : Freed history db₀ done c
  · rw [h.freed c hc hfreed]
    rfl
  · rw [h.same c hc hfreed]

variable {t : Uuid}

theorem Along.reserve_iff (h : Along history db₀ done db) (hc : c ∉ done) :
    (verdict history c (view history db c)).2 = .reserve x t ↔
      (verdict history c (view history db₀ c)).2 = .reserve x t := by
  by_cases hfreed : Freed history db₀ done c
  · -- neither reserves: the item is held at the start, and released by now
    rw [h.freed c hc hfreed]
    refine iff_of_false (fun hwrites => ?_) fun hwrites => ?_
    · have hreleased := (verdict_reserve.mp hwrites).2.2.2
      cases hreleased
    · obtain ⟨a, -, item, -, -, -, hholder⟩ := hfreed
      rw [(verdict_reserve.mp hwrites).2.2.1] at hholder
      cases hholder
  · rw [h.same c hc hfreed]

theorem freed_append : Freed history db₀ (done ++ [a]) c ↔ Freed history db₀ done c ∨
    Frees history a c (view history db₀ a) (view history db₀ c) := by
  unfold Freed
  constructor
  · rintro ⟨b, hb, hfrees⟩
    rcases List.mem_append.mp hb with hb | hb
    · exact .inl ⟨b, hb, hfrees⟩
    · obtain rfl := List.mem_singleton.mp hb
      exact .inr hfrees
  · rintro (⟨b, hb, hfrees⟩ | hfrees)
    · exact ⟨b, List.mem_append_left _ hb, hfrees⟩
    · exact ⟨a, List.mem_append_right _ (List.mem_singleton_self a), hfrees⟩

theorem Along.next (h : Along history db₀ done db) (ha : a ∉ done) :
    Along history db₀ (done ++ [a]) (nextOf history draws a db) where
  reads := fun reads => (readPhase_apply _).trans (h.reads reads)
  present := present_apply _ h.present
  freed := by
    intro c hc hfreed
    obtain ⟨hdone, hne⟩ := not_or.mp (mt List.mem_append.mpr hc)
    have hne : c ≠ a := fun heq => hne (List.mem_singleton.mpr heq)
    obtain ⟨hfrees, hkeeps⟩ := view_apply (draws a) h.present hne
    by_cases hbefore : Freed history db₀ done c
    · -- it is free by now, and is not freed twice
      rw [nextOf, hkeeps, h.freed c hdone hbefore]
      rintro ⟨item, -, -, -, hholder⟩
      rw [h.freed c hdone hbefore] at hholder
      cases hholder
    · obtain ⟨item, hitem, hrecord, hrecorded, hholder⟩ := (freed_append.mp hfreed).resolve_left hbefore
      rw [nextOf, hfrees, h.same c hdone hbefore]
      exact ⟨item, hitem, hrecord, (h.recorded ha).trans hrecorded,
        (congrArg View.holder (h.same c hdone hbefore)).trans hholder⟩
  same := by
    intro c hc hnot
    obtain ⟨hdone, hne⟩ := not_or.mp (mt List.mem_append.mpr hc)
    have hne : c ≠ a := fun heq => hne (List.mem_singleton.mpr heq)
    obtain ⟨hbefore, hnow⟩ := not_or.mp (mt freed_append.mpr hnot)
    obtain ⟨-, hkeeps⟩ := view_apply (draws a) h.present hne
    rw [nextOf, hkeeps, h.same c hdone hbefore]
    rintro ⟨item, hitem, hrecord, hrecorded, hholder⟩
    exact hnow ⟨item, hitem, hrecord, (h.recorded ha).symm.trans hrecorded,
      (congrArg View.holder (h.same c hdone hbefore)).symm.trans hholder⟩
  quiet := by
    intro c hc
    rcases List.mem_append.mp hc with hc | hc
    · exact quiet_apply h.present (fun heq => ha (heq ▸ hc)) (h.quiet c hc)
    · obtain rfl := List.mem_singleton.mp hc
      exact quiet_apply_self h.present
  kept := by
    intro x c hlive hreserved
    refine reservedFor_apply ?_ (h.kept x c hlive hreserved)
    by_cases hne : c = a
    · exact .inr (hne ▸ hlive)
    · exact .inl hne
  reserved := by
    intro c hc x t hwrites
    rcases List.mem_append.mp hc with hc | hc
    · exact reservedFor_apply (.inl fun heq => ha (heq ▸ hc)) (h.reserved c hc x t hwrites)
    · obtain rfl := List.mem_singleton.mp hc
      exact reservedFor_reserve h.present ((h.reserve_iff ha).mpr hwrites)
  only := by
    intro x c hreserved
    rcases reservedFor_of_apply hreserved with hold | ⟨rfl, t, hwrites⟩
    · exact (h.only x c hold).imp_right fun hdone => ⟨List.mem_append_left _ hdone.1, hdone.2⟩
    · exact .inr ⟨List.mem_append_right _ (List.mem_singleton_self c), t, (h.reserve_iff ha).mp hwrites⟩

theorem along_step :
    ∀ done c rest db, history.contracts = done ++ c :: rest → Along history db₀ done db →
      Along history db₀ (done ++ [c]) (nextOf history draws c db) :=
  fun _ _ _ _ hsplit hdone => hdone.next (notMem_done hsplit)

theorem along_final (reads : RunReads) (db : BackfillDb) :
    Along (readPhase reads db) db (readPhase reads db).contracts
      (outcome reads db) :=
  final_induction (along_nil (present_readPhase reads db)) along_step

/-! ### The second run -/

/-- The two runs keep the same rows of each contract, in whatever order they read them. -/
def ReadAlike (reads reads' : RunReads) (db : BackfillDb) : Prop :=
  ∀ c, (readPhase reads' db).items.lookup c = (readPhase reads db).items.lookup c ∧
    (readPhase reads' db).confirmations.lookup c = (readPhase reads db).confirmations.lookup c ∧
    (readPhase reads' db).cancellations.lookup c = (readPhase reads db).cancellations.lookup c

theorem backfill_congr {reads' : RunReads} (h : ReadAlike reads reads' db) (commit : Bool) :
    backfill commit reads' db = backfill commit { reads with draw := reads'.draw } db := by
  have hcontracts : (readPhase reads' db).contracts = (readPhase reads db).contracts := by
    refine (contracts_sorted _).eq_of_mem_iff (contracts_sorted _) fun c => ?_
    rw [mem_contracts, mem_contracts, (h c).1, (h c).2.2]
  have hsteps : (fun c db' => backfillContract (readPhase reads' db) (reads'.draw c) db' c) =
      fun c db' => backfillContract (readPhase reads db) (reads'.draw c) db' c := by
    funext c db'
    rw [backfillContract, backfillContract, (h c).1, (h c).2.1, (h c).2.2]
  rw [backfill, hsteps, hcontracts]
  rfl

theorem rerun_quiet {first second : RunReads} (h : ReadAlike first second db) :
    ∃ again, backfill true second (outcome first db) = .ok (⟨true, again⟩, outcome first db) ∧
      ∀ line ∈ again, ¬ line.outcome.writes := by
  have hfinal := along_final first db
  have hagain : ReadAlike first second (outcome first db) := by
    intro c
    rw [hfinal.reads, hfinal.reads]
    exact h c
  have hquiet : ∀ c ∈ (readPhase first db).contracts, nextOf (readPhase first db) second.draw c
      (outcome first db) = outcome first db := by
    intro c hc
    rw [nextOf, hfinal.quiet c hc]
    rfl
  obtain ⟨hstays, hlines⟩ := again_of_quiet (lineOf (readPhase first db)) hquiet
  have hphase : readPhase { first with draw := second.draw } (outcome first db) =
      readPhase first db := hfinal.reads _
  refine ⟨lines (lineOf (readPhase first db)) (nextOf (readPhase first db) second.draw)
    (readPhase first db).contracts (outcome first db), ?_, ?_⟩
  · have hafter : outcome { first with draw := second.draw } (outcome first db) = outcome first db := by
      change final (nextOf (readPhase { first with draw := second.draw } _) second.draw)
        (readPhase { first with draw := second.draw } _).contracts _ = _
      rw [hphase, hstays]
    rw [backfill_congr hagain, backfill_commit, hphase, hafter]
  · intro line hline
    rw [hlines] at hline
    obtain ⟨c, hc, rfl⟩ := List.mem_map.mp hline
    exact verdict_keep_iff.mp (hfinal.quiet c hc)

/-! ### The dry run -/

def Reaches (history : History) (contractId : Uuid) (v : View) : Prop :=
  history.cancellations.lookup contractId = none ∧
    (∃ item, history.items.lookup contractId = some item ∧
      history.confirmations.lookup contractId = some (some item.tenantId)) ∧
    v.recorded = false

variable {v : View}

theorem line_freed_iff (hholder : v.holder = some (some a)) (hne : a ≠ c) :
    (verdict history c v.freed).1 = (verdict history c v).1 ↔ ¬ Reaches history c v := by
  unfold verdict Reaches
  cases hcancelled : history.cancellations.lookup c with
  | some cancellation =>
    refine iff_of_true ?_ fun h => by cases h.1
    rfl
  | none =>
    cases hitem : history.items.lookup c with
    | none =>
      refine iff_of_true rfl ?_
      rintro ⟨-, ⟨item, hnone, -⟩, -⟩
      cases hnone
    | some item =>
      dsimp only
      unfold liveVerdict
      cases hconfirmed : history.confirmations.lookup c with
      | none => simp
      | some confirmedTenantId =>
        by_cases htenant : confirmedTenantId = some item.tenantId
        · cases hrecorded : v.recorded with
          | true => simp [View.freed, hrecorded, htenant]
          | false =>
            have hother : ¬ some a = some c := fun heq => hne (Option.some.inj heq)
            simp [View.freed, hrecorded, htenant, hholder, hne, liveLine]
        · simp [htenant]

/-- **A dry run has the lines of the committing one** just when no contract of it is freed before
its transaction gets to its item. -/
theorem lines_eq_iff (reads : RunReads) (db : BackfillDb) :
    (lines (lineOf (readPhase reads db)) (nextOf (readPhase reads db) reads.draw)
        (readPhase reads db).contracts db =
      (readPhase reads db).contracts.map fun c => lineOf (readPhase reads db) c db) ↔
      ∀ done c rest, (readPhase reads db).contracts = done ++ c :: rest →
        ¬ (Freed (readPhase reads db) db done c ∧
          Reaches (readPhase reads db) c (view (readPhase reads db) db c)) := by
  refine lines_eq_map_iff (Along (readPhase reads db) db) (along_nil (present_readPhase reads db))
    along_step ?_
  intro done c rest db' hsplit hdone
  have hc := notMem_done hsplit
  unfold lineOf
  by_cases hfreed : Freed (readPhase reads db) db done c
  · rw [hdone.freed c hc hfreed]
    have hholds := hfreed
    obtain ⟨a, ha, item, -, -, -, hholder⟩ := hholds
    have hne : a ≠ c := fun heq => hc (heq ▸ ha)
    rw [line_freed_iff hholder hne]
    exact not_congr (and_iff_right hfreed).symm
  · rw [hdone.same c hc hfreed]
    exact iff_of_true rfl fun h => hfreed h.1

/-! ### What is reserved in the end -/

theorem mem_contracts_of_reserve (h : (verdict history c v).2 = .reserve x t) :
    c ∈ history.contracts := by
  refine mem_contracts.mpr (.inl ?_)
  rw [(verdict_reserve.mp h).1.2.1]
  rfl

/-- **What is reserved in the end** for a contract without a cancellation: what was, and what its
verdict at the start reserves. -/
theorem reservedFor_iff (hlive : (readPhase reads db).cancellations.lookup c = none) :
    ReservedFor (outcome reads db) x c ↔
      ReservedFor db x c ∨
        ∃ t, (verdict (readPhase reads db) c (view (readPhase reads db) db c)).2 = .reserve x t := by
  have hfinal := along_final reads db
  constructor
  · intro h
    exact (hfinal.only x c h).imp_right And.right
  · rintro (hbefore | ⟨t, hwrites⟩)
    · exact hfinal.kept x c hlive hbefore
    · exact hfinal.reserved c (mem_contracts_of_reserve hwrites) x t hwrites

end Run

/-! ### What is asked, and when it holds -/

/-- A cancellation of the contract was published, whatever its tenant. -/
def Published (db : BackfillDb) (contractId : Uuid) : Prop :=
  ∃ message ∈ db.outbox, message.isCancellation = true ∧ message.aggregateId = contractId

/-- The tenant of the earliest published cancellation that has one. -/
def cancelledTenant (reads : RunReads) (db : BackfillDb) (contractId : Uuid) : Option Uuid :=
  ((cancellationsOf reads db contractId).find? (·.tenantId.isSome)).bind (·.tenantId)

def Excepted (db : BackfillDb) (stockItemId contractId : Uuid) : Prop :=
  ∃ row, db.items.lookup stockItemId = some row ∧
    (contractIsCancelled db row.tenantId contractId = true ∨ Published db contractId ∨
      releasedBefore db stockItemId = true ∨
      row.reservationState = .reserved ∧ row.reservedByContractId ≠ some contractId)

/-- The manual item of a contract confirmed in its tenant. -/
def ConfirmedItem (db : BackfillDb) (stockItemId tenantId contractId : Uuid) : Prop :=
  (∃ row, db.items.lookup stockItemId = some row ∧ row.tenantId = tenantId ∧
    contractIdFromRef row.pipelineRef = some contractId) ∧
  ∃ message ∈ db.outbox, message.isConfirmation = true ∧ message.aggregateId = contractId ∧
    message.tenantId = some tenantId

/-- What is asked of a run with its report and the tables it leaves. -/
structure Sound (first second dry : RunReads) (db : BackfillDb) (report : List BackfillLine)
    (after : BackfillDb) : Prop where
  run : backfill true first db = .ok (⟨true, report⟩, after)
  rerun : ∃ again, backfill true second after = .ok (⟨true, again⟩, after) ∧
    ∀ line ∈ again, ¬ line.outcome.writes
  foreseen : backfill false dry db = .ok (⟨false, report⟩, db)
  never : ∀ x c, ReservedFor after x c → ¬ ReservedFor db x c → ¬ Excepted db x c
  always : ∀ x t c, ConfirmedItem db x t c → ¬ Excepted db x c → ReservedFor after x c

/-- An item whose contract is live is held by a contract with a smaller id, whose cancellation is
published in the item's tenant and not recorded yet. -/
def Overtaken (reads : RunReads) (db : BackfillDb) : Prop :=
  ∃ c item a, (lastManualItem reads db c = some item ∧ ¬ Published db c ∧
      lastConfirmation reads db c = some (some item.tenantId) ∧
      contractIsCancelled db item.tenantId c = false) ∧
    ReservedFor db item.stockItemId a ∧ a < c ∧ cancelledTenant reads db a = some item.tenantId ∧
    (∀ own, lastManualItem reads db a = some own → own.tenantId = item.tenantId) ∧
    contractIsCancelled db item.tenantId a = false

/-- Each item that waits to be reserved is the last of its contract, and the last confirmation of
the contract names its tenant. -/
def WaitingKept (reads : RunReads) (db : BackfillDb) : Prop :=
  ∀ x t c, ConfirmedItem db x t c → ¬ Excepted db x c → ¬ ReservedFor db x c →
    lastManualItem reads db c = some ⟨x, t⟩ ∧ lastConfirmation reads db c = some (some t)

section

variable {reads : RunReads} {db : BackfillDb} {a c x t : Uuid}

theorem mem_cancellationsOf {message : OutboxMessage} : message ∈ cancellationsOf reads db c ↔
    message ∈ db.outbox ∧ message.isCancellation = true ∧ message.aggregateId = c := by
  rw [cancellationsOf, List.mem_filter, cancellationsInOrder, List.mem_insertionSort,
    (reads.cancellations_perm _).mem_iff, List.mem_filter, decide_eq_true_eq, and_assoc]

theorem live_iff : (readPhase reads db).cancellations.lookup c = none ↔ ¬ Published db c := by
  have hlookup : (readPhase reads db).cancellations.lookup c =
      (((cancellationsOf reads db c).find? (·.tenantId.isSome)).or (cancellationsOf reads db c).head?).map
        (·.cancellation) := lookup_readCancellations reads db c
  rw [hlookup, Option.map_eq_none_iff, Option.or_eq_none_iff, List.head?_eq_none_iff]
  constructor
  · rintro ⟨-, hnil⟩ ⟨message, hmem, hcancelled, hof⟩
    have hmine : message ∈ cancellationsOf reads db c := mem_cancellationsOf.mpr ⟨hmem, hcancelled, hof⟩
    rw [hnil] at hmine
    cases hmine
  · intro hnot
    have hnil : cancellationsOf reads db c = [] :=
      List.eq_nil_iff_forall_not_mem.mpr fun message hmine =>
        hnot ⟨message, mem_cancellationsOf.mp hmine⟩
    rw [hnil]
    exact ⟨rfl, rfl⟩

theorem recordable_iff : Recordable (readPhase reads db) a t ↔ cancelledTenant reads db a = some t ∧
    ∀ own, lastManualItem reads db a = some own → own.tenantId = t := by
  have hlookup : (readPhase reads db).cancellations.lookup a =
      (((cancellationsOf reads db a).find? (·.tenantId.isSome)).or (cancellationsOf reads db a).head?).map
        (·.cancellation) := lookup_readCancellations reads db a
  have hitems : (readPhase reads db).items.lookup a = lastManualItem reads db a := lookup_readItems _ _ a
  unfold Recordable cancelledTenant
  rw [hlookup, hitems]
  cases hfind : (cancellationsOf reads db a).find? (·.tenantId.isSome) with
  | some first =>
    constructor
    · rintro ⟨cancellation, hsome, htenant, hown⟩
      cases hsome
      exact ⟨htenant, hown⟩
    · rintro ⟨htenant, hown⟩
      exact ⟨first.cancellation, rfl, htenant, hown⟩
  | none =>
    refine iff_of_false ?_ fun h => by cases h.1
    rintro ⟨cancellation, hsome, htenant, -⟩
    obtain ⟨message, hhead, rfl⟩ := Option.map_eq_some_iff.mp hsome
    have hnone := List.find?_eq_none.mp hfind message (List.mem_of_head? hhead)
    have hsome : message.tenantId = some t := htenant
    exact hnone (by rw [hsome]; rfl)

variable {item : ManualItem}

theorem recorded_live (hlive : ¬ Published db c) (hitem : lastManualItem reads db c = some item) :
    (view (readPhase reads db) db c).recorded = contractIsCancelled db item.tenantId c := by
  have hitems : (readPhase reads db).items.lookup c = some item := (lookup_readItems _ _ c).trans hitem
  have htenant : (readPhase reads db).tenantOf c = some item.tenantId := by
    rw [History.tenantOf, live_iff.mpr hlive, hitems]
    rfl
  rw [view]
  dsimp only
  rw [htenant, Option.any_some]

theorem recorded_cancelled (h : Recordable (readPhase reads db) a t) :
    (view (readPhase reads db) db a).recorded = contractIsCancelled db t a := by
  obtain ⟨cancellation, hcancelled, hof, -⟩ := h
  have htenant : (readPhase reads db).tenantOf a = some t := by
    rw [History.tenantOf, hcancelled]
    exact hof
  rw [view]
  dsimp only
  rw [htenant, Option.any_some]

theorem holder_iff (hitem : lastManualItem reads db c = some item) :
    (view (readPhase reads db) db c).holder = some (some a) ↔ ReservedFor db item.stockItemId a := by
  have hitems : (readPhase reads db).items.lookup c = some item := (lookup_readItems _ _ c).trans hitem
  obtain ⟨row, hrow, -⟩ := present_readPhase reads db c item hitems
  rw [holder_of_row hitems hrow, holderOf_eq]
  constructor
  · intro h
    exact ⟨row, hrow, h⟩
  · rintro ⟨row', hrow', h⟩
    rw [hrow] at hrow'
    cases hrow'
    exact h

theorem overtaken_iff : Overtaken reads db ↔
    ∃ done c rest, (readPhase reads db).contracts = done ++ c :: rest ∧
      Freed (readPhase reads db) db done c ∧
      Reaches (readPhase reads db) c (view (readPhase reads db) db c) := by
  constructor
  · rintro ⟨c, item, a, ⟨hitem, hlive, hconfirmed, hrecorded⟩, hheld, hlt, htenant, hown, hnot⟩
    have hitems : (readPhase reads db).items.lookup c = some item := (lookup_readItems _ _ c).trans hitem
    have hrecord := recordable_iff.mpr ⟨htenant, hown⟩
    have hc : c ∈ (readPhase reads db).contracts := mem_contracts.mpr (.inl (by rw [hitems]; rfl))
    have ha : a ∈ (readPhase reads db).contracts := by
      obtain ⟨cancellation, hcancelled, -⟩ := hrecord
      exact mem_contracts.mpr (.inr (by rw [hcancelled]; rfl))
    obtain ⟨done, rest, hsplit⟩ := List.append_of_mem hc
    refine ⟨done, c, rest, hsplit, ⟨a, (mem_done_iff hsplit).mpr ⟨ha, hlt⟩, item, hitems, hrecord,
      (recorded_cancelled hrecord).trans hnot, (holder_iff hitem).mpr hheld⟩, live_iff.mpr hlive,
      ⟨item, hitems, (lookup_readConfirmations _ _ c).trans hconfirmed⟩,
      (recorded_live hlive hitem).trans hrecorded⟩
  · rintro ⟨done, c, rest, hsplit, ⟨a, ha, item, hitems, hrecord, hnot, hheld⟩, hlive,
      ⟨item', hitems', hconfirmed⟩, hrecorded⟩
    rw [hitems] at hitems'
    cases hitems'
    have hitem : lastManualItem reads db c = some item := (lookup_readItems _ _ c).symm.trans hitems
    have hlive := live_iff.mp hlive
    obtain ⟨htenant, hown⟩ := recordable_iff.mp hrecord
    exact ⟨c, item, a, ⟨hitem, hlive, (lookup_readConfirmations _ _ c).symm.trans hconfirmed,
      (recorded_live hlive hitem).symm.trans hrecorded⟩, (holder_iff hitem).mp hheld,
      ((mem_done_iff hsplit).mp ha).2, htenant, hown, (recorded_cancelled hrecord).symm.trans hnot⟩

theorem reserves_iff : (verdict (readPhase reads db) c (view (readPhase reads db) db c)).2 = .reserve x t ↔
    (lastManualItem reads db c = some ⟨x, t⟩ ∧ lastConfirmation reads db c = some (some t)) ∧
      ¬ Published db c ∧ contractIsCancelled db t c = false ∧ releasedBefore db x = false ∧
      ∃ row, db.items.lookup x = some row ∧ row.reservationState ≠ .reserved := by
  have hlookup : (readPhase reads db).items.lookup c = lastManualItem reads db c := lookup_readItems _ _ c
  have hconfirmation : (readPhase reads db).confirmations.lookup c = lastConfirmation reads db c :=
    lookup_readConfirmations reads db c
  rw [verdict_reserve, live_iff, hlookup, hconfirmation]
  by_cases hkept : lastManualItem reads db c = some ⟨x, t⟩ ∧ ¬ Published db c
  · obtain ⟨hitem, hlive⟩ := hkept
    have hitems : (readPhase reads db).items.lookup c = some ⟨x, t⟩ := hlookup.trans hitem
    obtain ⟨row, hrow, -⟩ := present_readPhase reads db c ⟨x, t⟩ hitems
    have hholder : (view (readPhase reads db) db c).holder = none ↔ row.reservationState ≠ .reserved := by
      rw [holder_of_row hitems hrow, holderOf]
      split
      · next hreserved => exact iff_of_false (by simp) (not_not.mpr hreserved)
      · next hfree => exact iff_of_true rfl hfree
    have hreleased : (view (readPhase reads db) db c).released = releasedBefore db x := by
      rw [view]
      dsimp only
      rw [hitems, Option.any_some]
    rw [recorded_live hlive hitem, hholder, hreleased]
    constructor
    · rintro ⟨⟨-, -, hconfirmed⟩, hrecorded, hfree, hbefore⟩
      exact ⟨⟨hitem, hconfirmed⟩, hlive, hrecorded, hbefore, row, hrow, hfree⟩
    · rintro ⟨⟨-, hconfirmed⟩, -, hrecorded, hbefore, row', hrow', hfree⟩
      rw [hrow] at hrow'
      cases hrow'
      exact ⟨⟨hlive, hitem, hconfirmed⟩, hrecorded, hfree, hbefore⟩
  · refine iff_of_false ?_ ?_
    · rintro ⟨⟨hlive, hitem, -⟩, -⟩
      exact hkept ⟨hitem, hlive⟩
    · rintro ⟨⟨hitem, -⟩, hlive, -⟩
      exact hkept ⟨hitem, hlive⟩

end

/-- **When the backfill does what it says**: a second run writes nothing, a dry run changes nothing
and reports the lines of the committing one, no item is reserved for a contract it must not be, and
every confirmed contract's item is, just when no item is overtaken and every waiting item is kept;
where the runs keep the same rows of each contract. -/
theorem backfill_sound_iff (first second dry : RunReads) (db : BackfillDb)
    (hsecond : ReadAlike first second db) (halike : ReadAlike first dry db) :
    (∃ report after, Sound first second dry db report after) ↔
      ¬ Overtaken first db ∧ WaitingKept first db := by
  have hrun := backfill_commit first db
  have hdry : backfill false dry db =
      .ok (⟨false, (readPhase first db).contracts.map fun c => lineOf (readPhase first db) c db⟩, db) :=
    (backfill_congr halike false).trans (backfill_dry _ db)
  constructor
  · rintro ⟨report, after, hsound⟩
    obtain ⟨hreport, rfl⟩ := Prod.mk.inj (Except.ok.inj (hrun.symm.trans hsound.run))
    obtain ⟨-, rfl⟩ := BackfillReport.mk.inj hreport
    constructor
    · obtain ⟨hsame, -⟩ := Prod.mk.inj (Except.ok.inj (hdry.symm.trans hsound.foreseen))
      obtain ⟨-, hlines⟩ := BackfillReport.mk.inj hsame
      -- the dry run would report another line
      rw [overtaken_iff]
      rintro ⟨done, c, rest, hsplit, hdiffers⟩
      exact (lines_eq_iff first db).mp hlines.symm done c rest hsplit hdiffers
    · intro x t c hconfirmed hnot hfree
      obtain ⟨row, hrow, htenant, href⟩ := hconfirmed.1
      have hlive : ¬ Published db c := fun hpublished => hnot ⟨row, hrow, .inr (.inl hpublished)⟩
      have hreserved := (reservedFor_iff (live_iff.mpr hlive)).mp (hsound.always x t c hconfirmed hnot)
      -- reserved only now, so by the line of its contract
      obtain ⟨t', hwrites⟩ := hreserved.resolve_left hfree
      obtain ⟨⟨hitem, hlast⟩, -⟩ := reserves_iff.mp hwrites
      obtain ⟨row', hrow', hof, -⟩ :=
        present_readPhase first db c ⟨x, t'⟩ ((lookup_readItems _ _ c).trans hitem)
      have hsame : t' = t := by
        rw [hrow] at hrow'
        cases hrow'
        exact hof.symm.trans htenant
      exact ⟨hsame ▸ hitem, hsame ▸ hlast⟩
  · rintro ⟨hforeseen, hkept⟩
    refine ⟨_, _, hrun, rerun_quiet hsecond, ?_, ?_, ?_⟩
    · have hlines : lines (lineOf (readPhase first db)) (nextOf (readPhase first db) first.draw)
          (readPhase first db).contracts db =
          (readPhase first db).contracts.map fun c => lineOf (readPhase first db) c db := by
        refine (lines_eq_iff first db).mpr fun done c rest hsplit hdiffers => hforeseen ?_
        exact overtaken_iff.mpr ⟨done, c, rest, hsplit, hdiffers⟩
      rw [hlines]
      exact hdry
    · intro x c hafter hbefore
      obtain ⟨-, t, hwrites⟩ := ((along_final first db).only x c hafter).resolve_left hbefore
      obtain ⟨⟨hitem, -⟩, hlive, hrecorded, hreleased, row, hrow, hfree⟩ := reserves_iff.mp hwrites
      rintro ⟨row', hrow', hexcepted⟩
      rw [hrow] at hrow'
      cases hrow'
      obtain ⟨row', hrow', hof, -⟩ :=
        present_readPhase first db c ⟨x, t⟩ ((lookup_readItems _ _ c).trans hitem)
      rw [hrow] at hrow'
      cases hrow'
      rcases hexcepted with hcancelled | hpublished | hbefore | ⟨hreserved, -⟩
      · rw [hof, hrecorded] at hcancelled
        cases hcancelled
      · exact hlive hpublished
      · rw [hreleased] at hbefore
        cases hbefore
      · exact hfree hreserved
    · intro x t c hconfirmed hnot
      obtain ⟨row, hrow, htenant, href⟩ := hconfirmed.1
      have hlive : ¬ Published db c := fun hpublished => hnot ⟨row, hrow, .inr (.inl hpublished)⟩
      rw [reservedFor_iff (live_iff.mpr hlive)]
      by_cases hreserved : ReservedFor db x c
      · exact .inl hreserved
      · refine .inr ⟨t, reserves_iff.mpr ⟨hkept x t c hconfirmed hnot hreserved, hlive, ?_, ?_, row, hrow,
          ?_⟩⟩
        · rw [Bool.eq_false_iff]
          exact fun hcancelled => hnot ⟨row, hrow, .inl (htenant.symm ▸ hcancelled)⟩
        · rw [Bool.eq_false_iff]
          exact fun hbefore => hnot ⟨row, hrow, .inr (.inr (.inl hbefore))⟩
        · intro hstate
          by_cases hholder : row.reservedByContractId = some c
          · exact hreserved ⟨row, hrow, hstate, hholder⟩
          · exact hnot ⟨row, hrow, .inr (.inr (.inr ⟨hstate, hholder⟩))⟩

/-! ### An item freed on the way -/

/-- Contract 5 is confirmed, and its item is reserved for contract 3, which is cancelled. -/
def heldByCancelled : BackfillDb where
  items := (∅ : Table Uuid StockItem).insert 1
    { tenantId := 2, pipelineRef := some ⟨5, .manual⟩, reservationState := .reserved
      reservedByContractId := some 3, activeReservationId := some 9 }
  outbox := [⟨.contractConfirmed, some 2, 5, 10⟩, ⟨.contractCancelled "C-3", some 2, 3, 11⟩]

/-- Every query gives its rows the other way round. -/
def reversed : RunReads where
  draw := fun _ => ⟨21, 31⟩
  items := List.reverse
  confirmations := List.reverse
  cancellations := List.reverse
  items_perm := List.reverse_perm
  confirmations_perm := List.reverse_perm
  cancellations_perm := List.reverse_perm

theorem backfill_sound_iff_heldByCancelled :
    (∃ report after, Sound { draw := fun _ => ⟨20, 30⟩ } reversed reversed heldByCancelled report after) ↔
      ¬ Overtaken { draw := fun _ => ⟨20, 30⟩ } heldByCancelled ∧
        WaitingKept { draw := fun _ => ⟨20, 30⟩ } heldByCancelled :=
  backfill_sound_iff _ _ _ _ (fun _ => ⟨rfl, rfl, rfl⟩) fun _ => ⟨rfl, rfl, rfl⟩

/-- **A dry run that does not foresee**: it reports the item as held, and the committing run, which
releases it first, as released before. -/
theorem overtaken_fails : ¬ ∃ report after,
    Sound { draw := fun _ => ⟨20, 30⟩ } { draw := fun _ => ⟨21, 31⟩ } { draw := fun _ => ⟨22, 32⟩ }
      heldByCancelled report after := by
  rintro ⟨report, after, hsound⟩
  have hlines : (backfill true { draw := fun _ => ⟨20, 30⟩ } heldByCancelled).toOption.map (·.1.lines) =
      (backfill false { draw := fun _ => ⟨22, 32⟩ } heldByCancelled).toOption.map (·.1.lines) := by
    rw [hsound.run, hsound.foreseen]
    rfl
  exact absurd hlines (by decide +kernel)

end Nexotec.Backfill
