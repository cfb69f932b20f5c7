/-
A limit on the distinct keys of a log in every window of one length.

An entry is added to the log when its key has an entry in the window that ends now, or when that
window has fewer keys than the limit.

* `keysSince`, `keysIn` — the keys of the entries from an instant on, and of those in a window;
* `Bounded` — no window has more keys than the limit;
* **`Bounded.concat`** — an entry added by the rule leaves every window bounded, those that begin
  between two entries too.
-/
import Mathlib.Algebra.Order.Group.Defs
import Mathlib.Algebra.Order.Sub.Basic
import Mathlib.Data.Finset.Card
import Mathlib.Data.List.Basic

namespace SlidingWindow

variable {κ τ : Type*} [DecidableEq κ] [LinearOrder τ]
  {log : List (κ × τ)} {k : κ} {length now stamp start stop : τ} {limit : ℕ}

/-- The keys with an entry at `start` or later. -/
def keysSince (log : List (κ × τ)) (start : τ) : Finset κ :=
  ((log.filter fun e => start ≤ e.2).map Prod.fst).toFinset

/-- The keys with an entry between `start` and `stop`. -/
def keysIn (log : List (κ × τ)) (start stop : τ) : Finset κ :=
  ((log.filter fun e => start ≤ e.2 ∧ e.2 ≤ stop).map Prod.fst).toFinset

theorem mem_keysSince : k ∈ keysSince log start ↔ ∃ e ∈ log, start ≤ e.2 ∧ e.1 = k := by
  simp [keysSince, and_assoc]

theorem mem_keysIn :
    k ∈ keysIn log start stop ↔ ∃ e ∈ log, (start ≤ e.2 ∧ e.2 ≤ stop) ∧ e.1 = k := by
  simp [keysIn, and_assoc]

variable [AddCommGroup τ]

/-- No window of the length has more keys than the limit. -/
def Bounded (length : τ) (limit : ℕ) (log : List (κ × τ)) : Prop :=
  ∀ start, (keysIn log start (start + length)).card ≤ limit

theorem bounded_nil : Bounded length limit ([] : List (κ × τ)) := fun _ => Nat.zero_le limit

theorem Bounded.keysSince_card (h : Bounded length limit log) (hpast : ∀ e ∈ log, e.2 ≤ now) :
    (keysSince log (now - length)).card ≤ limit := by
  have hsubset : keysSince log (now - length) ⊆ keysIn log (now - length) (now - length + length) := by
    intro k hk
    obtain ⟨e, he, hstart, hkey⟩ := mem_keysSince.mp hk
    rw [sub_add_cancel]
    exact mem_keysIn.mpr ⟨e, he, ⟨hstart, hpast e he⟩, hkey⟩
  exact (Finset.card_le_card hsubset).trans (h (now - length))

variable [IsOrderedAddMonoid τ]

/-- **An entry added by the rule** leaves every window bounded. -/
theorem Bounded.concat (h : Bounded length limit log) (hpast : ∀ e ∈ log, e.2 ≤ now)
    (hstamp : now ≤ stamp)
    (hrule : k ∈ keysSince log (now - length) ∨ (keysSince log (now - length)).card < limit) :
    Bounded length limit (log ++ [(k, stamp)]) := by
  intro start
  by_cases hinside : start ≤ stamp ∧ stamp ≤ start + length
  · -- the window began no earlier than the one that was counted
    have hbegan : now - length ≤ start :=
      sub_le_iff_le_add.mpr (hstamp.trans hinside.2)
    have hsubset : keysIn (log ++ [(k, stamp)]) start (start + length) ⊆
        insert k (keysSince log (now - length)) := by
      intro key hkey
      obtain ⟨e, he, ⟨hfrom, -⟩, rfl⟩ := mem_keysIn.mp hkey
      rcases List.mem_append.mp he with hold | hnew
      · exact Finset.mem_insert_of_mem (mem_keysSince.mpr ⟨e, hold, hbegan.trans hfrom, rfl⟩)
      · rw [List.mem_singleton.mp hnew]
        exact Finset.mem_insert_self k _
    refine (Finset.card_le_card hsubset).trans ?_
    rcases hrule with hknown | hfew
    · rw [Finset.insert_eq_of_mem hknown]
      exact h.keysSince_card hpast
    · exact (Finset.card_insert_le k _).trans hfew
  · -- the entry is outside the window
    have hsubset : keysIn (log ++ [(k, stamp)]) start (start + length) ⊆
        keysIn log start (start + length) := by
      intro key hkey
      obtain ⟨e, he, hwindow, hkey⟩ := mem_keysIn.mp hkey
      rcases List.mem_append.mp he with hold | hnew
      · exact mem_keysIn.mpr ⟨e, hold, hwindow, hkey⟩
      · rw [List.mem_singleton.mp hnew] at hwindow
        exact absurd hwindow hinside
    exact (Finset.card_le_card hsubset).trans (h start)

end SlidingWindow
