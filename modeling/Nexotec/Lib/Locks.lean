/-
Lock tables and wait-for graphs.

A lock table is the list of the locks granted: who holds which resource in
which mode.  The modes are the row-lock modes of PostgreSQL with their
conflict table; an exclusive lock of another kind is `update`.  A transaction
keeps its locks to its end, so a holder gives all of them back at once.

* `Compatible` — no two holders have conflicting locks on one resource; it is
  kept by granting a lock that is `Free` and by releasing;
* `WaitsFor` — the wait-for graph of a table, given what each session asks for;
* `not_deadlocked` — a rank that grows along the waits of waiting sessions
  leaves no cycle.
-/
import Mathlib.Logic.Relation
import Mathlib.Order.Basic

namespace Locks

/-- `FOR KEY SHARE`, `FOR SHARE`, `FOR NO KEY UPDATE`, `FOR UPDATE`. -/
inductive Mode where
  | keyShare
  | share
  | noKeyUpdate
  | update
  deriving DecidableEq

/-- The conflict table of the row-lock modes. -/
def Mode.conflicts : Mode → Mode → Bool
  | .keyShare, .update => true
  | .keyShare, _ => false
  | .share, .noKeyUpdate | .share, .update => true
  | .share, _ => false
  | .noKeyUpdate, .keyShare => false
  | .noKeyUpdate, _ => true
  | .update, _ => true

theorem Mode.conflicts_comm (m m' : Mode) : m.conflicts m' = m'.conflicts m := by
  cases m <;> cases m' <;> rfl

structure Grant (ι ρ : Type*) where
  holder : ι
  resource : ρ
  mode : Mode
  deriving DecidableEq

variable {ι ρ : Type*}

/-- `i` holds a lock on `r` in mode `m`. -/
def Held (grants : List (Grant ι ρ)) (i : ι) (r : ρ) (m : Mode) : Prop := ⟨i, r, m⟩ ∈ grants

/-- Nobody else holds a lock on `r` that conflicts with `m`. -/
def Free (grants : List (Grant ι ρ)) (i : ι) (r : ρ) (m : Mode) : Prop :=
  ∀ g ∈ grants, g.resource = r → m.conflicts g.mode = true → g.holder = i

instance [DecidableEq ι] [DecidableEq ρ] (grants : List (Grant ι ρ)) (i : ι) (r : ρ) (m : Mode) :
    Decidable (Free grants i r m) :=
  inferInstanceAs (Decidable (∀ g ∈ grants, g.resource = r → m.conflicts g.mode = true →
    g.holder = i))

def acquire (i : ι) (r : ρ) (m : Mode) (grants : List (Grant ι ρ)) : List (Grant ι ρ) :=
  ⟨i, r, m⟩ :: grants

/-- Several locks in one statement. -/
def acquireAll (i : ι) (rs : List ρ) (m : Mode) (grants : List (Grant ι ρ)) : List (Grant ι ρ) :=
  rs.foldr (fun r => acquire i r m) grants

/-- The end of a transaction. -/
def release [DecidableEq ι] (i : ι) (grants : List (Grant ι ρ)) : List (Grant ι ρ) :=
  grants.filter fun g => g.holder ≠ i

/-- Locks of different holders on one resource do not conflict. -/
def Compatible (grants : List (Grant ι ρ)) : Prop :=
  ∀ i j r m m', Held grants i r m → Held grants j r m' → m.conflicts m' = true → i = j

section

variable {grants : List (Grant ι ρ)} {i j : ι} {r r' : ρ} {m m' : Mode}

@[simp] theorem held_acquire :
    Held (acquire i r m grants) j r' m' ↔ (j = i ∧ r' = r ∧ m' = m) ∨ Held grants j r' m' := by
  simp [Held, acquire]

theorem held_acquireAll {rs : List ρ} :
    Held (acquireAll i rs m grants) j r m' ↔ (j = i ∧ r ∈ rs ∧ m' = m) ∨ Held grants j r m' := by
  induction rs with
  | nil => simp [acquireAll]
  | cons r' rs ih =>
    change Held (acquire i r' m (acquireAll i rs m grants)) j r m' ↔ _
    rw [held_acquire, ih, List.mem_cons]
    grind

@[simp] theorem held_release [DecidableEq ι] :
    Held (release i grants) j r m ↔ Held grants j r m ∧ j ≠ i := by
  simp [Held, release]

theorem Compatible.nil : Compatible ([] : List (Grant ι ρ)) := fun _ _ _ _ _ h => by cases h

theorem Compatible.acquire (h : Compatible grants) (hfree : Free grants i r m) :
    Compatible (acquire i r m grants) := by
  intro j k s m₁ m₂ hj hk hconflict
  rw [held_acquire] at hj hk
  rcases hj with ⟨rfl, rfl, rfl⟩ | hj
  · rcases hk with ⟨rfl, -, -⟩ | hk
    · rfl
    · exact (hfree ⟨k, _, m₂⟩ hk rfl hconflict).symm
  · rcases hk with ⟨rfl, rfl, rfl⟩ | hk
    · rw [Mode.conflicts_comm] at hconflict
      exact hfree ⟨j, _, m₁⟩ hj rfl hconflict
    · exact h j k s m₁ m₂ hj hk hconflict

theorem Compatible.acquireAll (h : Compatible grants) {rs : List ρ}
    (hfree : ∀ r ∈ rs, Free grants i r m) : Compatible (acquireAll i rs m grants) := by
  induction rs with
  | nil => exact h
  | cons r rs ih =>
    refine (ih fun r' hr' => hfree r' (List.mem_cons_of_mem r hr')).acquire ?_
    -- the locks granted meanwhile are the same session's
    rintro ⟨j, r', m'⟩ hg hr hconflict
    rcases held_acquireAll.mp (show Held _ j r' m' from hg) with ⟨rfl, -, -⟩ | hold
    · rfl
    · exact hfree r List.mem_cons_self _ hold hr hconflict

theorem Compatible.release [DecidableEq ι] (h : Compatible grants) : Compatible (release i grants) := by
  intro j k s m₁ m₂ hj hk hconflict
  exact h j k s m₁ m₂ (held_release.mp hj).1 (held_release.mp hk).1 hconflict

end

/-! ### Waiting -/

variable {grants : List (Grant ι ρ)}

/-- `i` asks for a lock that `j` keeps it from. -/
def WaitsFor (grants : List (Grant ι ρ)) (request : ι → Option (ρ × Mode)) (i j : ι) : Prop :=
  ∃ r m m', request i = some (r, m) ∧ i ≠ j ∧ Held grants j r m' ∧ m.conflicts m' = true

/-- Somebody waits, through others, for itself. -/
def Deadlocked (grants : List (Grant ι ρ)) (request : ι → Option (ρ × Mode)) : Prop :=
  ∃ i, Relation.TransGen (WaitsFor grants request) i i

/-- **No deadlock by rank.**  A rank that grows from a session to one it waits
for, while that one waits itself, leaves no cycle. -/
theorem not_deadlocked {request : ι → Option (ρ × Mode)} {α : Type*} [Preorder α] (rank : ι → α)
    (h : ∀ i j k, WaitsFor grants request i j → WaitsFor grants request j k → rank i < rank j) :
    ¬ Deadlocked grants request := by
  have hpath : ∀ i j, Relation.TransGen (WaitsFor grants request) i j →
      ∀ k, WaitsFor grants request j k → rank i < rank j := by
    intro i j hij
    induction hij with
    | single hstep => exact fun k hk => h _ _ k hstep hk
    | tail _ hstep ih => exact fun k hk => (ih _ hstep).trans (h _ _ k hstep hk)
  rintro ⟨i, hcycle⟩
  -- the first edge of the cycle leaves `i` itself
  obtain ⟨k, hk, -⟩ := Relation.TransGen.head'_iff.mp hcycle
  exact lt_irrefl _ (hpath i i hcycle k hk)

end Locks
