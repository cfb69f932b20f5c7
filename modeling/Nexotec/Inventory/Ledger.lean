/-
The Wagenbuch of a stock item (`app/inventory/services/ledger.py`).

`record_cost` looks for an entry under the caller's key and inserts one where it finds
none; between the two other sessions may commit.  The table holds one entry for each
tenant and key, and amounts in hundredths.

* `lookUp`, `checkEntry`, `insertEntry` — the parts of `record_cost`.
-/
import Nexotec.Core.Columns
import Nexotec.Lib.Interleaving

namespace Nexotec.Ledger

open Interleaving

/-! ### Entries -/

inductive LedgerCategory where
  | einstandspreis
  | landedCost
  | aufbereitung
  | reparatur
  | gutachten
  | standkosten
  | werbung
  | garantie
  | abwertung
  | promotion
  | sonstigeKosten
  | verkaufserloes
  | kickback
  | zusatzerloes
  | foerderung
  | sonstigeErtraege
  deriving DecidableEq

def LedgerCategory.value : LedgerCategory → String
  | .einstandspreis => "einstandspreis"
  | .landedCost => "landed_cost"
  | .aufbereitung => "aufbereitung"
  | .reparatur => "reparatur"
  | .gutachten => "gutachten"
  | .standkosten => "standkosten"
  | .werbung => "werbung"
  | .garantie => "garantie"
  | .abwertung => "abwertung"
  | .promotion => "promotion"
  | .sonstigeKosten => "sonstige_kosten"
  | .verkaufserloes => "verkaufserloes"
  | .kickback => "kickback"
  | .zusatzerloes => "zusatzerloes"
  | .foerderung => "foerderung"
  | .sonstigeErtraege => "sonstige_ertraege"

inductive LedgerDirection where
  | cost
  | revenue

/-- `DIRECTION_BY_CATEGORY`. -/
def LedgerCategory.direction : LedgerCategory → LedgerDirection
  | .verkaufserloes | .kickback | .zusatzerloes | .foerderung | .sonstigeErtraege => .revenue
  | _ => .cost

/-- `AUTOMATIC_ONLY_CATEGORIES`. -/
def LedgerCategory.automaticOnly : LedgerCategory → Bool
  | .verkaufserloes | .foerderung => true
  | _ => false

/-- A row of `stock_item_ledger`. -/
structure LedgerEntry where
  tenantId : Uuid
  stockItemId : Uuid
  category : LedgerCategory
  direction : LedgerDirection
  amount : Decimal
  occurredAt : Time
  sourceRef : String
  isAuto : Bool
  createdBy : Option Uuid

abbrev LedgerEntry.key (e : LedgerEntry) : Uuid × String := (e.tenantId, e.sourceRef)

/-- A call of `record_cost`, with the item as its session has read it. -/
structure Call where
  tenantId : Uuid
  stockItemId : Uuid
  leftStockAt : Option Time := none
  category : LedgerCategory
  amount : Decimal
  occurredAt : Time
  sourceRef : String
  actorId : Option Uuid := none
  isAuto : Bool := false

abbrev Call.key (c : Call) : Uuid × String := (c.tenantId, c.sourceRef)

/-- The `SELECT` for an existing entry. -/
def lookUp (key : Uuid × String) (entries : List LedgerEntry) : Option LedgerEntry :=
  entries.find? (·.key = key)

/-- `is_period_closed`: there is no closed period yet. -/
def isPeriodClosed (_tenantId : Uuid) (_occurredAt : Time) : Bool := false

def checkEntry (c : Call) : Result Unit :=
  if c.category.automaticOnly = true ∧ c.isAuto = false then
    .error (unprocessableEntityError
      s!"'{c.category.value}' may only be booked automatically, never by hand."
      [("category", c.category.value)])
  else if c.leftStockAt.isSome then
    .error (unprocessableEntityError
      "This stock item has been sold — its Wagenbuch is closed to new entries."
      [("stockItemId", toString c.stockItemId)])
  else if isPeriodClosed c.tenantId c.occurredAt then
    .error (unprocessableEntityError "The accounting period for this date is closed."
      [("occurredAt", toString c.occurredAt)])
  else .ok ()

def newEntry (c : Call) : LedgerEntry where
  tenantId := c.tenantId
  stockItemId := c.stockItemId
  category := c.category
  direction := c.category.direction
  amount := column c.amount
  occurredAt := c.occurredAt
  sourceRef := c.sourceRef
  isAuto := c.isAuto
  createdBy := c.actorId

/-- The `INSERT` and its commit. -/
def insertEntry (c : Call) (entries : List LedgerEntry) : Result (List LedgerEntry) :=
  if fitsColumn c.amount = false then .error (internalError "DataError")
  else if (lookUp c.key entries).isSome then .error (internalError "IntegrityError")
  else .ok (newEntry c :: entries)

/-! ### Sessions -/

/-- What a call was answered, and the entry that was under its key by then. -/
structure Answer where
  call : Call
  present : Option LedgerEntry
  result : Result LedgerEntry

structure Shared where
  entries : List LedgerEntry := []
  answers : List Answer := []

/-- A session between calls, or one that has looked and not yet inserted. -/
inductive Local where
  | idle
  | inserting (call : Call)

/-- What a session does next: it takes a call and looks, it inserts, or it goes away. -/
inductive Move where
  | look (call : Call)
  | insert
  | abandon

def Shared.answer (sh : Shared) (c : Call) (result : Result LedgerEntry) : Shared :=
  { sh with answers := ⟨c, lookUp c.key sh.entries, result⟩ :: sh.answers }

/-- The look of `record_cost`, and its checks. -/
def look (c : Call) (sh : Shared) : Shared × Local :=
  match lookUp c.key sh.entries with
  | some existing => (sh.answer c (.ok existing), .idle)
  | none =>
    match checkEntry c with
    | .error e => (sh.answer c (.error e), .idle)
    | .ok () => (sh, .inserting c)

/-- The insert of `record_cost`. -/
def insert (c : Call) (sh : Shared) : Shared × Local :=
  match insertEntry c sh.entries with
  | .ok entries => ({ sh.answer c (.ok (newEntry c)) with entries := entries }, .idle)
  | .error e => (sh.answer c (.error e), .idle)

/-- Any number of sessions, each with call after call. -/
def step {ι : Type} (_ : ι) (move : Move) (sh : Shared) (lo : Local) : Option (Shared × Local) :=
  match move, lo with
  | .look c, .idle => some (look c sh)
  | .insert, .inserting c => some (insert c sh)
  | .abandon, .inserting _ => some (sh, .idle)
  | _, _ => none

/-! ### Idempotence -/

def Asked (c : Call) (e : LedgerEntry) : Prop :=
  e.stockItemId = c.stockItemId ∧ e.category = c.category ∧ e.amount = c.amount

/-- **Entries are idempotent by their key.** -/
structure LedgerSound (sh : Shared) : Prop where
  unique : (sh.entries.map (·.key)).Nodup
  found : ∀ a ∈ sh.answers, ∀ e, a.present = some e → a.result = .ok e
  asked : ∀ a ∈ sh.answers, ∀ e, a.result = .ok e →
    e ∈ sh.entries ∧ e.key = a.call.key ∧ Asked a.call e

/-- The moves that keep it so: a look finds nothing, or what it asks for; and an insert finds
the key still free, and its amount is in hundredths. -/
def Keeps (sh : Shared) (lo : Local) : Move → Prop
  | .look c => lo = .idle → ∀ e ∈ lookUp c.key sh.entries, Asked c e
  | .insert =>
    match lo with
    | .inserting c => lookUp c.key sh.entries = none ∧ (fitsColumn c.amount = true → Cents c.amount)
    | .idle => True
  | .abandon => True

section

variable {sh : Shared} {c : Call} {e : LedgerEntry}

theorem lookUp_eq_some (h : lookUp c.key sh.entries = some e) : e ∈ sh.entries ∧ e.key = c.key := by
  unfold lookUp at h
  have hmem : e ∈ sh.entries := List.mem_of_find?_eq_some h
  refine ⟨hmem, ?_⟩
  simpa using List.find?_some h

theorem lookUp_eq_none {key : Uuid × String} :
    lookUp key sh.entries = none ↔ key ∉ sh.entries.map (·.key) := by
  unfold lookUp
  rw [List.find?_eq_none, List.mem_map]
  simp only [decide_eq_true_eq, not_exists, not_and]

theorem ledgerSound_answer (h : LedgerSound sh) {result : Result LedgerEntry} :
    LedgerSound (sh.answer c result) ↔ (∀ e, lookUp c.key sh.entries = some e → result = .ok e) ∧
      (∀ e, result = .ok e → e ∈ sh.entries ∧ e.key = c.key ∧ Asked c e) := by
  constructor
  · intro hsound
    exact ⟨hsound.found _ List.mem_cons_self, hsound.asked _ List.mem_cons_self⟩
  · rintro ⟨hfound, hasked⟩
    refine ⟨h.unique, fun a ha => ?_, fun a ha => ?_⟩
    · rcases List.mem_cons.mp ha with rfl | ha
      · exact hfound
      · exact h.found a ha
    · rcases List.mem_cons.mp ha with rfl | ha
      · exact hasked
      · exact h.asked a ha

theorem ledgerSound_look (h : LedgerSound sh) :
    LedgerSound (look c sh).1 ↔ ∀ e ∈ lookUp c.key sh.entries, Asked c e := by
  unfold look
  cases hfind : lookUp c.key sh.entries with
  | some existing =>
    obtain ⟨hmem, hkey⟩ := lookUp_eq_some hfind
    dsimp only
    rw [ledgerSound_answer h, hfind]
    constructor
    · rintro ⟨-, hasked⟩ e he
      cases he
      exact (hasked existing rfl).2.2
    · intro hasked
      refine ⟨fun e he => ?_, fun e he => ?_⟩
      · cases he
        rfl
      · cases he
        exact ⟨hmem, hkey, hasked existing rfl⟩
  | none =>
    refine iff_of_true ?_ fun e he => by cases he
    dsimp only
    cases checkEntry c with
    | ok u => exact h
    | error e =>
      dsimp only
      rw [ledgerSound_answer h, hfind]
      exact ⟨fun e he => (by cases he), fun e he => by cases he⟩

theorem insert_taken (hfits : fitsColumn c.amount = true) (hfind : lookUp c.key sh.entries = some e) :
    insert c sh = (sh.answer c (.error (internalError "IntegrityError")), .idle) := by
  have htaken : insertEntry c sh.entries = .error (internalError "IntegrityError") := by
    simp [insertEntry, hfits, hfind]
  unfold insert
  rw [htaken]

theorem ledgerSound_insert (h : LedgerSound sh) : LedgerSound (insert c sh).1 ↔
      lookUp c.key sh.entries = none ∧ (fitsColumn c.amount = true → Cents c.amount) := by
  cases hfits : fitsColumn c.amount with
  | false =>
    -- the answer is an error
    unfold insert insertEntry
    rw [if_pos hfits]
    dsimp only
    rw [ledgerSound_answer h]
    cases hfind : lookUp c.key sh.entries with
    | none =>
      exact iff_of_true ⟨fun e he => (by cases he), fun e he => by cases he⟩
        ⟨rfl, nofun⟩
    | some existing =>
      refine iff_of_false (fun hanswer => ?_) fun hfree => by cases hfree.1
      cases hanswer.1 existing rfl
  | true =>
    cases hfind : lookUp c.key sh.entries with
    | some existing =>
      rw [insert_taken hfits hfind]
      dsimp only
      rw [ledgerSound_answer h]
      refine iff_of_false (fun hanswer => ?_) fun hfree => by cases hfree.1
      cases hanswer.1 existing hfind
    | none =>
      unfold insert insertEntry
      rw [if_neg (by simp [hfits]), if_neg (by simp [hfind])]
      dsimp only
      rw [and_iff_right rfl, forall_prop_of_true rfl]
      constructor
      · intro hsound
        obtain ⟨-, -, -, -, hamount⟩ := hsound.asked _ List.mem_cons_self (newEntry c) rfl
        rw [← show column c.amount = c.amount from hamount]
        exact cents_column c.amount
      · intro hcents
        have hamount : column c.amount = c.amount := column_of_cents hcents
        refine ⟨?_, fun a ha => ?_, fun a ha e he => ?_⟩
        · exact List.nodup_cons.mpr ⟨lookUp_eq_none.mp hfind, h.unique⟩
        · rcases List.mem_cons.mp ha with rfl | ha
          · intro e he
            rw [hfind] at he
            cases he
          · exact h.found a ha
        · rcases List.mem_cons.mp ha with rfl | ha
          · cases he
            exact ⟨List.mem_cons_self, rfl, rfl, rfl, hamount⟩
          · obtain ⟨hmem, hrest⟩ := h.asked a ha e he
            exact ⟨List.mem_cons_of_mem _ hmem, hrest⟩

end

section

variable {ι : Type} [DecidableEq ι] {config : Config ι Shared Local} {i : ι} {c : Call}

theorem move_look (hlo : config.locals i = .idle) : move step config (i, .look c) =
      ⟨(look c config.shared).1, Function.update config.locals i (look c config.shared).2⟩ := by
  have hstep : step i (.look c) config.shared (config.locals i) = some (look c config.shared) := by
    rw [hlo]
    rfl
  exact move_some hstep

theorem move_insert (hlo : config.locals i = .inserting c) : move step config (i, .insert) =
      ⟨(insert c config.shared).1, Function.update config.locals i (insert c config.shared).2⟩ := by
  have hstep : step i .insert config.shared (config.locals i) = some (insert c config.shared) := by
    rw [hlo]
    rfl
  exact move_some hstep

theorem ledgerSound_move (a : ι × Move) (h : LedgerSound config.shared) :
    LedgerSound (move step config a).shared ↔ Keeps config.shared (config.locals a.1) a.2 := by
  obtain ⟨i, ch⟩ := a
  cases hlo : config.locals i with
  | idle =>
    cases ch with
    | look c =>
      rw [move_look hlo]
      refine (ledgerSound_look h).trans ?_
      exact ⟨fun hasked _ => hasked, fun hkeeps => hkeeps rfl⟩
    | insert =>
      have hstep : step i .insert config.shared (config.locals i) = none := by rw [hlo]; rfl
      rw [move_none hstep]
      exact iff_of_true h trivial
    | abandon =>
      have hstep : step i .abandon config.shared (config.locals i) = none := by rw [hlo]; rfl
      rw [move_none hstep]
      exact iff_of_true h trivial
  | inserting c =>
    cases ch with
    | look c' =>
      have hstep : step i (.look c') config.shared (config.locals i) = none := by rw [hlo]; rfl
      rw [move_none hstep]
      exact iff_of_true h fun hidle => by cases hidle
    | insert =>
      rw [move_insert hlo]
      exact ledgerSound_insert h
    | abandon =>
      have hstep : step i .abandon config.shared (config.locals i) = some (config.shared, .idle) := by
        rw [hlo]; rfl
      rw [move_some hstep]
      exact iff_of_true h trivial

end

def start (ι : Type) : Config ι Shared Local := ⟨{}, fun _ => .idle⟩

theorem ledgerSound_start (ι : Type) : LedgerSound (start ι).shared :=
  ⟨List.nodup_nil, fun _ ha => (by cases ha), fun _ ha => by cases ha⟩

/-- **In every state of a run** of any number of sessions the entries are idempotent, just when
each move of it is one that keeps them so. -/
theorem record_cost_idempotent_iff {ι : Type} [DecidableEq ι] (moves : List (ι × Move)) :
    (∀ n, LedgerSound ((moves.take n).foldl (move step) (start ι)).shared) ↔
      Run.Along (move step) (fun config a => Keeps config.shared (config.locals a.1) a.2) (start ι)
        moves := by
  have hstep : ∀ (config : Config ι Shared Local) (a : ι × Move), LedgerSound config.shared →
      (LedgerSound (move step config a).shared ↔ Keeps config.shared (config.locals a.1) a.2) :=
    fun _ a h => ledgerSound_move a h
  exact Run.always_iff hstep (ledgerSound_start ι)

def lostRace (c : Call) : List (Bool × Move) :=
  [(true, .look c), (false, .look c), (true, .insert), (false, .insert)]

def resentKey (c : Call) (stockItemId : Uuid) (amount : Decimal) : List (Bool × Move) :=
  [(true, .look c), (true, .insert),
    (true, .look { c with stockItemId := stockItemId, amount := amount })]

section

variable {c : Call}

theorem lookUp_newEntry : lookUp c.key [newEntry c] = some (newEntry c) := by
  simp [lookUp, newEntry]

theorem look_empty (hchecked : checkEntry c = .ok ()) : look c {} = ({}, .inserting c) := by
  unfold look
  rw [hchecked]
  rfl

theorem insert_empty (hfits : fitsColumn c.amount = true) :
    insert c {} = ({ entries := [newEntry c], answers := [⟨c, none, .ok (newEntry c)⟩] }, .idle) := by
  have hinsert : insertEntry c [] = .ok [newEntry c] := by
    simp [insertEntry, hfits, lookUp]
  unfold insert
  rw [hinsert]
  rfl

theorem lostRace_answered (hchecked : checkEntry c = .ok ()) (hfits : fitsColumn c.amount = true) :
    ∃ a ∈ ((lostRace c).foldl (move step) (start Bool)).shared.answers,
      a.present = some (newEntry c) ∧ a.result = .error (internalError "IntegrityError") := by
  have hlooked : ∀ (locals : Bool → Local) (i : Bool), locals i = .idle →
      move step ⟨{}, locals⟩ (i, .look c) = ⟨{}, Function.update locals i (.inserting c)⟩ := by
    intro locals i hlo
    rw [move_look hlo]
    dsimp only
    rw [look_empty hchecked]
  simp only [lostRace, start, List.foldl_cons, List.foldl_nil]
  rw [hlooked _ true rfl, hlooked _ false rfl]
  rw [move_insert (i := true) (c := c)]
  · simp only [insert_empty hfits]
    rw [move_insert (i := false) (c := c)]
    · rw [insert_taken hfits lookUp_newEntry]
      exact ⟨_, List.mem_cons_self, lookUp_newEntry, rfl⟩
    · rfl
  · rfl

theorem resentKey_answered (hchecked : checkEntry c = .ok ()) (hfits : fitsColumn c.amount = true)
    (stockItemId : Uuid) (amount : Decimal) :
    ∃ a ∈ ((resentKey c stockItemId amount).foldl (move step) (start Bool)).shared.answers,
      a.call.stockItemId = stockItemId ∧ a.result = .ok (newEntry c) := by
  simp only [resentKey, List.foldl_cons, List.foldl_nil]
  rw [move_look (show (start Bool).locals true = .idle from rfl)]
  simp only [show (start Bool).shared = {} from rfl, look_empty hchecked]
  rw [move_insert (c := c) (by simp)]
  simp only [insert_empty hfits]
  rw [move_look (by simp)]
  have hkey : Call.key { c with stockItemId := stockItemId, amount := amount } = c.key := rfl
  simp only [look, hkey, lookUp_newEntry, Shared.answer]
  exact ⟨_, List.mem_cons_self, rfl, rfl⟩

end

def repair : Call where
  tenantId := 1
  stockItemId := 7
  category := .reparatur
  amount := 250
  occurredAt := 3
  sourceRef := "b1"

/-- The second insert of the repair fails though the entry is there; and its key, resent for
another car and amount, is answered with the repair. -/
theorem lostRace_fails : (∃ a ∈ ((lostRace repair).foldl (move step) (start Bool)).shared.answers,
      a.present = some (newEntry repair) ∧ a.result = .error (internalError "IntegrityError")) ∧
    ¬ LedgerSound ((lostRace repair).foldl (move step) (start Bool)).shared ∧
    ∃ a ∈ ((resentKey repair 8 90).foldl (move step) (start Bool)).shared.answers,
      a.call.stockItemId = 8 ∧ a.result = .ok (newEntry repair) := by
  have hchecked : checkEntry repair = .ok () := rfl
  have hfits : fitsColumn repair.amount = true := by decide +kernel
  have hlost := lostRace_answered hchecked hfits
  refine ⟨hlost, fun hsound => ?_, resentKey_answered hchecked hfits 8 90⟩
  obtain ⟨a, ha, hpresent, hresult⟩ := hlost
  rw [hsound.found a ha _ hpresent] at hresult
  cases hresult

end Nexotec.Ledger
