/-
The numbers on offers, contracts, stock items, customers and vehicles
(`app/sales/services/numbering.py`, `allocate_stock_number`,
`_allocate_customer_number`, `allocate_vehicle_number`).

All four allocators are one: lock the counter row of the series, or insert it at its
first use, take `next_value` and count it up. The insert runs in a savepoint, waits for
another one in flight, and survives losing to it.

  opened → counting → numbered → opened → … → opened       (the row is there)
  opened → missing → rereading → counting                  (it is not)
-/
import Nexotec.Core.Base
import Nexotec.Lib.Interleaving

namespace Nexotec.Numbering

open Interleaving

/-- A counter row: of a dealership, of a group, or the one of all vehicles. -/
inductive Series where
  | offer (tenantId : Uuid)
  | contract (tenantId : Uuid)
  | stockItem (tenantId : Uuid)
  | customer (groupId : Uuid)
  | vehicle
  deriving DecidableEq

def Series.letter : Series → Char
  | .offer _ => 'O'
  | .contract _ => 'C'
  | .stockItem _ => 'S'
  | .customer _ => 'K'
  | .vehicle => 'F'

/-- `f"{letter}-{value:06d}"`, character by character. -/
def numberText (series : Series) (value : ℕ) : List Char :=
  series.letter :: '-' :: (Nat.toDigits 10 value).leftpad 6 '0'

theorem numberText_injective (series : Series) : Function.Injective (numberText series) := by
  intro value value' h
  have hdigits : ∀ n, Nat.ofDigitChars 10 ((Nat.toDigits 10 n).leftpad 6 '0') 0 = n := by
    intro n
    rw [List.leftpad, Nat.ofDigitChars_append, Nat.ofDigitChars_replicate_zero, Nat.mul_zero,
      Nat.ofDigitChars_ten_toDigits]
  have hpadded := List.cons_inj_right _ |>.mp (List.cons_inj_right _ |>.mp h)
  rw [← hdigits value, hpadded, hdigits value']

/-- The committed counters and numbers. A counter is held by the session that has
locked its row, or has inserted it without having committed. -/
structure Shared (ι : Type) where
  nextValue : Series → Option ℕ := fun _ => none
  holder : Series → Option ι := fun _ => none
  numbers : Series → List ℕ := fun _ => []

/-- What a transaction has written: its version of the counters, and its numbered
rows, the last one first. -/
structure Tx where
  nextValue : Series → Option ℕ := fun _ => none
  rows : List (Series × ℕ) := []

/-- Where a session is within its transaction. -/
inductive Local where
  | opened (tx : Tx)
  /-- The counter was not there to be locked. -/
  | missing (tx : Tx) (series : Series)
  /-- The insert is done, or has lost to another one. -/
  | rereading (tx : Tx) (series : Series)
  /-- The counter is locked, and `next_value` read. -/
  | counting (tx : Tx) (series : Series) (value : ℕ)
  /-- The number is allocated, for a row to come. -/
  | numbered (tx : Tx) (series : Series) (value : ℕ)
  /-- The assertion on the second read has failed. -/
  | broken

inductive Choice where
  | allocate (series : Series)
  | insertCounter
  | reread
  | count
  | insertRow
  | commit
  | rollback

variable {ι : Type} [DecidableEq ι]

/-! ### The allocator -/

def hold (i : ι) (series : Series) (sh : Shared ι) : Shared ι :=
  { sh with holder := Function.update sh.holder series (some i) }

/-- `db.get(…, with_for_update=True)`: waits for a committed row that another session
has locked, and does not see one that is not committed. -/
def lockCounter (i : ι) (series : Series) (tx : Tx) (sh : Shared ι) :
    Option (Shared ι × Option ℕ) :=
  match tx.nextValue series, sh.nextValue series with
  | some value, _ => some (sh, some value)
  | none, none => some (sh, none)
  | none, some value =>
    if sh.holder series = none ∨ sh.holder series = some i then
      some (hold i series sh, some value)
    else none

def Tx.write (series : Series) (value : ℕ) (tx : Tx) : Tx :=
  { tx with nextValue := Function.update tx.nextValue series (some value) }

/-- The `INSERT` in its savepoint: a unique violation by a committed row undoes the
savepoint only, one in flight is waited for. -/
def insertCounter (i : ι) (series : Series) (tx : Tx) (sh : Shared ι) :
    Option (Shared ι × Local) :=
  if (sh.nextValue series).isSome then some (sh, .rereading tx series)
  else if sh.holder series = none then
    some (hold i series sh, .rereading (tx.write series 1) series)
  else none

def unlock (i : ι) (sh : Shared ι) : Shared ι :=
  { sh with holder := fun series => if sh.holder series = some i then none else sh.holder series }

def Tx.numbers (tx : Tx) (series : Series) : List ℕ :=
  (tx.rows.filter fun row => row.1 = series).map (·.2)

def commit (i : ι) (tx : Tx) (sh : Shared ι) : Shared ι :=
  unlock i { sh with
    nextValue := fun series => (tx.nextValue series).orElse fun _ => sh.nextValue series
    numbers := fun series => tx.numbers series ++ sh.numbers series }

/-- What session `i` does next. -/
def step (i : ι) (choice : Choice) (sh : Shared ι) (lo : Local) : Option (Shared ι × Local) :=
  match lo, choice with
  | .opened tx, .allocate series =>
    (lockCounter i series tx sh).map fun (sh, row) =>
      match row with
      | some value => (sh, .counting tx series value)
      | none => (sh, .missing tx series)
  | .missing tx series, .insertCounter => insertCounter i series tx sh
  | .rereading tx series, .reread =>
    (lockCounter i series tx sh).map fun (sh, row) =>
      match row with
      | some value => (sh, .counting tx series value)
      | none => (sh, .broken)
  | .counting tx series value, .count =>
    some (sh, .numbered (tx.write series (value + 1)) series value)
  | .numbered tx series value, .insertRow =>
    some (sh, .opened { tx with rows := (series, value) :: tx.rows })
  | .opened tx, .commit => some (commit i tx sh, .opened {})
  | _, .rollback => some (unlock i sh, .opened {})
  | _, _ => none

def start : Config ι (Shared ι) Local := ⟨{}, fun _ => .opened {}⟩

/-! ### The invariant -/

/-- `n` down to 1. -/
def countdown : ℕ → List ℕ
  | 0 => []
  | n + 1 => (n + 1) :: countdown n

theorem mem_countdown {n m : ℕ} : m ∈ countdown n ↔ 1 ≤ m ∧ m ≤ n := by
  induction n with
  | zero => simp only [countdown, List.not_mem_nil, false_iff]; omega
  | succ n ih => simp only [countdown, List.mem_cons, ih]; omega

theorem nodup_countdown (n : ℕ) : (countdown n).Nodup := by
  induction n with
  | zero => exact .nil
  | succ n ih =>
    refine List.nodup_cons.mpr ⟨fun hmem => ?_, ih⟩
    have := (mem_countdown.mp hmem).2
    omega

theorem length_countdown (n : ℕ) : (countdown n).length = n := by
  induction n with
  | zero => rfl
  | succ n ih => rw [countdown, List.length_cons, ih]

variable {value : ℕ}

theorem countdown_pred (h : 1 ≤ value) : value :: countdown (value - 1) = countdown value := by
  obtain ⟨n, rfl⟩ := Nat.exists_eq_add_of_le' h
  rfl

/-- The committed numbers are those below the counter; without one there are none. -/
structure Good (sh : Shared ι) : Prop where
  positive : ∀ series value, sh.nextValue series = some value → 1 ≤ value
  numbers : ∀ series, sh.numbers series = countdown ((sh.nextValue series).getD 1 - 1)

/-- The next number of the series is the session's to give. -/
def Next (i : ι) (sh : Shared ι) (tx : Tx) (series : Series) (value : ℕ) : Prop :=
  sh.holder series = some i ∧ 1 ≤ value ∧
    tx.numbers series ++ sh.numbers series = countdown (value - 1)

/-- A transaction has written nothing in a series, or its version of the counter. -/
def Written (i : ι) (sh : Shared ι) (tx : Tx) (series : Series) : Prop :=
  match tx.nextValue series with
  | none => tx.numbers series = []
  | some value => Next i sh tx series value

def Knows (i : ι) (sh : Shared ι) : Local → Prop
  | .opened tx => ∀ s, Written i sh tx s
  | .missing tx series => (∀ s, Written i sh tx s) ∧ tx.nextValue series = none
  | .rereading tx series => (∀ s, Written i sh tx s) ∧
      (tx.nextValue series = none → sh.nextValue series ≠ none)
  | .counting tx series value => (∀ s, Written i sh tx s) ∧ Next i sh tx series value
  | .numbered tx series value => (∀ s, s ≠ series → Written i sh tx s) ∧
      tx.nextValue series = some (value + 1) ∧ Next i sh tx series value
  | .broken => False

/-! ### The other sessions -/

/-- A step leaves alone what another session holds, and no counter goes away. -/
structure Leaves (i : ι) (sh sh' : Shared ι) : Prop where
  holder : ∀ series j, j ≠ i → sh.holder series = some j → sh'.holder series = some j
  numbers : ∀ series j, j ≠ i → sh.holder series = some j → sh'.numbers series = sh.numbers series
  counter : ∀ series, sh.nextValue series ≠ none → sh'.nextValue series ≠ none

omit [DecidableEq ι] in
theorem Leaves.refl (i : ι) (sh : Shared ι) : Leaves i sh sh :=
  ⟨fun _ _ _ h => h, fun _ _ _ _ => rfl, fun _ h => h⟩

variable {i j : ι} {sh sh' : Shared ι} {lo lo' : Local} {tx : Tx} {series : Series}

omit [DecidableEq ι] in
theorem Next.leaves (hj : j ≠ i) (h : Next j sh tx series value) (hleaves : Leaves i sh sh') :
    Next j sh' tx series value := by
  obtain ⟨hholder, hpositive, hnumbers⟩ := h
  refine ⟨hleaves.holder series j hj hholder, hpositive, ?_⟩
  rw [hleaves.numbers series j hj hholder]
  exact hnumbers

omit [DecidableEq ι] in
theorem Written.leaves (hj : j ≠ i) (h : Written j sh tx series) (hleaves : Leaves i sh sh') :
    Written j sh' tx series := by
  unfold Written at h ⊢
  split
  · next hnone => rw [hnone] at h; exact h
  · next value hvalue =>
    rw [hvalue] at h
    exact Next.leaves hj h hleaves

omit [DecidableEq ι] in
theorem Knows.leaves (hj : j ≠ i) (h : Knows j sh lo) (hleaves : Leaves i sh sh') :
    Knows j sh' lo := by
  cases lo with
  | opened tx => exact fun s => (h s).leaves hj hleaves
  | missing tx series => exact ⟨fun s => (h.1 s).leaves hj hleaves, h.2⟩
  | rereading tx series =>
    exact ⟨fun s => (h.1 s).leaves hj hleaves, fun hnone => hleaves.counter series (h.2 hnone)⟩
  | counting tx series value => exact ⟨fun s => (h.1 s).leaves hj hleaves, h.2.leaves hj hleaves⟩
  | numbered tx series value =>
    exact ⟨fun s hs => (h.1 s hs).leaves hj hleaves, h.2.1, h.2.2.leaves hj hleaves⟩
  | broken => exact h

omit [DecidableEq ι] in
theorem hold_leaves (hfree : sh.holder series = none ∨ sh.holder series = some i) :
    Leaves i sh (hold i series sh) := by
  refine ⟨fun s j hj hs => ?_, fun _ _ _ _ => rfl, fun _ h => h⟩
  have hne : s ≠ series := by
    rintro rfl
    rcases hfree with hnone | hmine
    · rw [hnone] at hs; cases hs
    · rw [hmine] at hs; exact hj (Option.some.inj hs).symm
  simpa only [hold, Function.update_of_ne hne] using hs

variable {s : Series}

theorem unlock_holder (hj : j ≠ i) (h : sh.holder s = some j) :
    (unlock i sh).holder s = some j := by
  have hne : ¬ some j = some i := fun heq => hj (Option.some.inj heq)
  simp only [unlock, h, if_neg hne]

theorem unlock_leaves (i : ι) (sh : Shared ι) : Leaves i sh (unlock i sh) :=
  ⟨fun _ _ hj h => unlock_holder hj h, fun _ _ _ _ => rfl, fun _ h => h⟩

theorem commit_leaves (h : ∀ s, Written i sh tx s) : Leaves i sh (commit i tx sh) := by
  refine ⟨fun s j hj hs => unlock_holder hj hs, fun s j hj hs => ?_, fun s hs => ?_⟩
  · -- a series that another session holds has none of this transaction's numbers
    have hwritten := h s
    unfold Written at hwritten
    split at hwritten
    · change tx.numbers s ++ sh.numbers s = sh.numbers s
      rw [hwritten, List.nil_append]
    · obtain ⟨hholder, -, -⟩ := hwritten
      rw [hs] at hholder
      exact absurd (Option.some.inj hholder) hj
  · change (tx.nextValue s).orElse (fun _ => sh.nextValue s) ≠ none
    cases tx.nextValue s with
    | none => exact hs
    | some value => exact Option.some_ne_none value

/-! ### The session itself -/

omit [DecidableEq ι] in
theorem Written.of_none (h : Written i sh tx series) (hnone : tx.nextValue series = none) :
    tx.numbers series = [] := by
  unfold Written at h
  rw [hnone] at h
  exact h

omit [DecidableEq ι] in
theorem Written.of_some (h : Written i sh tx series) (hvalue : tx.nextValue series = some value) :
    Next i sh tx series value := by
  unfold Written at h
  rw [hvalue] at h
  exact h

omit [DecidableEq ι] in
theorem Written.hold (h : Written i sh tx s) : Written i (Numbering.hold i series sh) tx s := by
  unfold Written at h ⊢
  split
  · next hnone => rw [hnone] at h; exact h
  · next value hvalue =>
    rw [hvalue] at h
    refine ⟨?_, h.2⟩
    by_cases hs : s = series
    · rw [hs]
      simp [Numbering.hold]
    · simp only [Numbering.hold, Function.update_of_ne hs]
      exact h.1

theorem lockCounter_eq_some {row : Option ℕ} (hgood : Good sh) (hwritten : ∀ s, Written i sh tx s)
    (h : lockCounter i series tx sh = some (sh', row)) :
    Good sh' ∧ Leaves i sh sh' ∧ (∀ s, Written i sh' tx s) ∧
      match row with
      | none => tx.nextValue series = none ∧ sh.nextValue series = none
      | some value => Next i sh' tx series value := by
  unfold lockCounter at h
  split at h
  · next value hvalue =>
    cases h
    exact ⟨hgood, .refl i sh, hwritten, (hwritten series).of_some hvalue⟩
  · next hnone hcounter =>
    cases h
    exact ⟨hgood, .refl i sh, hwritten, hnone, hcounter⟩
  · next value hnone hcounter =>
    split at h
    · next hfree =>
      cases h
      refine ⟨⟨hgood.positive, hgood.numbers⟩, hold_leaves hfree, fun s => (hwritten s).hold, ?_⟩
      refine ⟨by simp [hold], hgood.positive series value hcounter, ?_⟩
      change tx.numbers series ++ sh.numbers series = _
      rw [(hwritten series).of_none hnone, hgood.numbers series, hcounter]
      rfl
    · cases h

omit [DecidableEq ι] in
theorem Written.write (h : Written i sh tx s) (hs : s ≠ series) :
    Written i sh (tx.write series value) s := by
  have hsame : (tx.write series value).nextValue s = tx.nextValue s := Function.update_of_ne hs _ _
  unfold Written at h ⊢
  rw [hsame]
  exact h

omit [DecidableEq ι] in
theorem insertCounter_knows (hgood : Good sh) (hwritten : ∀ s, Written i sh tx s)
    (hnone : tx.nextValue series = none) (h : insertCounter i series tx sh = some (sh', lo')) :
    Good sh' ∧ Leaves i sh sh' ∧ Knows i sh' lo' := by
  unfold insertCounter at h
  split at h
  · next hcounter =>
    -- the insert has lost, and the winner's row is there
    cases h
    refine ⟨hgood, .refl i sh, hwritten, fun _ heq => ?_⟩
    rw [heq] at hcounter
    cases hcounter
  · next hcounter =>
    split at h
    · next hfree =>
      cases h
      refine ⟨⟨hgood.positive, hgood.numbers⟩, hold_leaves (.inl hfree), fun s => ?_, fun heq => ?_⟩
      · by_cases hs : s = series
        · subst hs
          have hvalue : (tx.write s 1).nextValue s = some 1 := Function.update_self _ _ _
          unfold Written
          rw [hvalue]
          refine ⟨by simp [hold], le_rfl, ?_⟩
          change tx.numbers s ++ sh.numbers s = _
          rw [(hwritten s).of_none hnone, hgood.numbers s,
            Option.not_isSome_iff_eq_none.mp hcounter]
          rfl
        · exact (hwritten s).hold.write hs
      · have hvalue : (tx.write series 1).nextValue series = some 1 := Function.update_self _ _ _
        rw [hvalue] at heq
        cases heq
    · cases h

theorem numbers_insert (tx : Tx) (series : Series) (value : ℕ) (s : Series) :
    ({ tx with rows := (series, value) :: tx.rows } : Tx).numbers s =
      if s = series then value :: tx.numbers s else tx.numbers s := by
  by_cases hs : s = series
  · subst hs
    simp [Tx.numbers]
  · simp [Tx.numbers, hs, Ne.symm hs]

omit [DecidableEq ι] in
theorem insertRow_knows (hwritten : ∀ s, s ≠ series → Written i sh tx s)
    (hvalue : tx.nextValue series = some (value + 1)) (hnext : Next i sh tx series value) :
    Knows i sh (.opened { tx with rows := (series, value) :: tx.rows }) := by
  intro s
  by_cases hs : s = series
  · subst hs
    obtain ⟨hholder, hpositive, hnumbers⟩ := hnext
    unfold Written
    rw [show ({ tx with rows := (s, value) :: tx.rows } : Tx).nextValue s = some (value + 1) from
      hvalue]
    refine ⟨hholder, Nat.succ_le_succ (Nat.zero_le value), ?_⟩
    rw [numbers_insert, if_pos rfl, List.cons_append, hnumbers, countdown_pred hpositive,
      Nat.add_sub_cancel]
  · have hold := hwritten s hs
    unfold Written Next at hold ⊢
    rw [numbers_insert, if_neg hs]
    exact hold

theorem commit_good (hgood : Good sh) (h : ∀ s, Written i sh tx s) : Good (commit i tx sh) := by
  constructor
  · intro s value hvalue
    change (tx.nextValue s).orElse (fun _ => sh.nextValue s) = some value at hvalue
    cases hown : tx.nextValue s with
    | none =>
      rw [hown] at hvalue
      exact hgood.positive s value hvalue
    | some own =>
      rw [hown] at hvalue
      cases hvalue
      exact ((h s).of_some hown).2.1
  · intro s
    change tx.numbers s ++ sh.numbers s =
      countdown (((tx.nextValue s).orElse fun _ => sh.nextValue s).getD 1 - 1)
    cases hown : tx.nextValue s with
    | none =>
      rw [(h s).of_none hown, List.nil_append]
      exact hgood.numbers s
    | some own => exact ((h s).of_some hown).2.2

omit [DecidableEq ι] in
theorem knows_opened_empty (i : ι) (sh : Shared ι) : Knows i sh (.opened {}) := fun _ => rfl

theorem step_knows {choice : Choice} (hgood : Good sh) (hknows : Knows i sh lo)
    (h : step i choice sh lo = some (sh', lo')) : Good sh' ∧ Leaves i sh sh' ∧ Knows i sh' lo' := by
  unfold step at h
  split at h
  · next tx series =>
    obtain ⟨⟨sh₁, row⟩, hlock, heq⟩ := Option.map_eq_some_iff.mp h
    obtain ⟨hgood₁, hleaves, hwritten, hrow⟩ := lockCounter_eq_some hgood hknows hlock
    cases row with
    | none => cases heq; exact ⟨hgood₁, hleaves, hwritten, hrow.1⟩
    | some value => cases heq; exact ⟨hgood₁, hleaves, hwritten, hrow⟩
  · exact insertCounter_knows hgood hknows.1 hknows.2 h
  · next tx series =>
    obtain ⟨⟨sh₁, row⟩, hlock, heq⟩ := Option.map_eq_some_iff.mp h
    obtain ⟨hgood₁, hleaves, hwritten, hrow⟩ := lockCounter_eq_some hgood hknows.1 hlock
    cases row with
    | none => exact absurd hrow.2 (hknows.2 hrow.1)
    | some value => cases heq; exact ⟨hgood₁, hleaves, hwritten, hrow⟩
  · next tx series value =>
    cases h
    exact ⟨hgood, .refl i sh, fun s hs => (hknows.1 s).write hs, Function.update_self _ _ _, hknows.2⟩
  · cases h
    exact ⟨hgood, .refl i sh, insertRow_knows hknows.1 hknows.2.1 hknows.2.2⟩
  · cases h
    exact ⟨commit_good hgood hknows, commit_leaves hknows, knows_opened_empty i _⟩
  · cases h
    exact ⟨⟨hgood.positive, hgood.numbers⟩, unlock_leaves i sh, knows_opened_empty i _⟩
  · cases h

/-! ### What a step does to the locks and the committed rows -/

omit [DecidableEq ι] in
theorem hold_holder (i : ι) (series : Series) (sh : Shared ι) (s : Series) :
    (hold i series sh).holder s = sh.holder s ∨ (hold i series sh).holder s = some i := by
  by_cases hs : s = series
  · rw [hs]
    exact .inr (Function.update_self _ _ _)
  · exact .inl (Function.update_of_ne hs _ _)

theorem unlock_own (i : ι) (sh : Shared ι) (s : Series) : (unlock i sh).holder s ≠ some i := by
  intro h
  simp only [unlock] at h
  split at h
  · cases h
  · next hne => exact hne h

theorem step_rollback (i : ι) (sh : Shared ι) (lo : Local) :
    step i .rollback sh lo = some (unlock i sh, .opened {}) := by
  cases lo <;> rfl

theorem lockCounter_frame {row : Option ℕ} (h : lockCounter i series tx sh = some (sh', row)) :
    sh'.numbers = sh.numbers ∧ ∀ s, sh'.holder s = sh.holder s ∨ sh'.holder s = some i := by
  unfold lockCounter at h
  split at h
  · cases h; exact ⟨rfl, fun _ => .inl rfl⟩
  · cases h; exact ⟨rfl, fun _ => .inl rfl⟩
  · split at h
    · cases h; exact ⟨rfl, hold_holder i series sh⟩
    · cases h

theorem step_frame {choice : Choice} (h : step i choice sh lo = some (sh', lo')) :
    (choice ≠ .commit → sh'.numbers = sh.numbers) ∧
      ∀ s j, j ≠ i → sh'.holder s = some j → sh.holder s = some j := by
  have hown : (∀ s, sh'.holder s = sh.holder s ∨ sh'.holder s = some i) →
      ∀ s j, j ≠ i → sh'.holder s = some j → sh.holder s = some j := by
    intro hlocks s j hj hs
    rcases hlocks s with hsame | hmine
    · rw [← hsame]; exact hs
    · rw [hmine] at hs; exact absurd (Option.some.inj hs).symm hj
  have hunlock : ∀ (sh : Shared ι) s j, (unlock i sh).holder s = some j → sh.holder s = some j := by
    intro sh s j hs
    simp only [unlock] at hs
    split at hs
    · cases hs
    · exact hs
  unfold step at h
  split at h
  · obtain ⟨⟨sh₁, row⟩, hlock, heq⟩ := Option.map_eq_some_iff.mp h
    obtain ⟨hnumbers, hlocks⟩ := lockCounter_frame hlock
    cases row <;> cases heq <;> exact ⟨fun _ => hnumbers, hown hlocks⟩
  · unfold insertCounter at h
    split at h
    · cases h; exact ⟨fun _ => rfl, fun _ _ _ hs => hs⟩
    · split at h
      · cases h; exact ⟨fun _ => rfl, hown (hold_holder i _ sh)⟩
      · cases h
  · obtain ⟨⟨sh₁, row⟩, hlock, heq⟩ := Option.map_eq_some_iff.mp h
    obtain ⟨hnumbers, hlocks⟩ := lockCounter_frame hlock
    cases row <;> cases heq <;> exact ⟨fun _ => hnumbers, hown hlocks⟩
  · cases h; exact ⟨fun _ => rfl, fun _ _ _ hs => hs⟩
  · cases h; exact ⟨fun _ => rfl, fun _ _ _ hs => hs⟩
  · cases h; exact ⟨fun hne => absurd rfl hne, fun s j _ hs => hunlock _ s j hs⟩
  · cases h; exact ⟨fun _ => rfl, fun s j _ hs => hunlock sh s j hs⟩
  · cases h

omit [DecidableEq ι] in
theorem inv_start : Holds Good Knows (start : Config ι (Shared ι) Local) :=
  ⟨⟨nofun, fun _ => rfl⟩, fun i => knows_opened_empty i _⟩

theorem inv_move {cfg : Config ι (Shared ι) Local} (h : Holds Good Knows cfg) (a : ι × Choice) :
    Holds Good Knows (move step cfg a) := by
  refine noninterference_all ?_ ?_ h a
  · intro i choice sh lo sh' lo' hgood hknows hstep
    obtain ⟨hgood', -, hknows'⟩ := step_knows hgood hknows hstep
    exact ⟨hgood', hknows'⟩
  · intro i j choice sh lo other sh' lo' hij hgood hknows hother hstep
    exact hother.leaves (Ne.symm hij) (step_knows hgood hknows hstep).2.1

/-- **Numbers are distinct and gapless.** In every state that any run of any number of
sessions reaches, the `n` committed rows of a series hold the numbers 1 to `n`, each
once, and texts of their own, and no session has failed the allocator's assertion. -/
theorem numbers_gapless (run : List (ι × Choice)) :
    let cfg := run.foldl (move step) start
    (∀ series, (cfg.shared.numbers series).Nodup ∧
      (∀ m, m ∈ cfg.shared.numbers series ↔ 1 ≤ m ∧ m ≤ (cfg.shared.numbers series).length) ∧
      ((cfg.shared.numbers series).map (numberText series)).Nodup) ∧
    ∀ i, cfg.locals i ≠ .broken := by
  intro cfg
  have hmove : ∀ (cfg : Config ι (Shared ι) Local) (a : ι × Choice), Holds Good Knows cfg →
      Holds Good Knows (move step cfg a) := fun _ a h => inv_move h a
  have hinv : Holds Good Knows cfg := Run.invariant hmove inv_start run
  refine ⟨fun series => ?_, fun i hbroken => ?_⟩
  · rw [hinv.1.numbers series, length_countdown]
    exact ⟨nodup_countdown _, fun m => mem_countdown,
      (nodup_countdown _).map (numberText_injective series)⟩
  · have hknows := hinv.2 i
    rw [hbroken] at hknows
    exact hknows

end Nexotec.Numbering
