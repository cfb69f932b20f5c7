/-
Reading a list page by page.

A client asks for a page, is answered with some rows and the cursor of the next
page, and goes on until there is no next cursor.

* `filter_after` — in a strictly ordered list, the rows after a row are the rest
  of the list: what a "greater than the last row" predicate selects;
* `follow` — the client, with a bound on the number of requests;
* `Serves` — what the answers owe to one reading of a list: a last page, a full
  page with a usable cursor, or a refusal at a page end that does not pass;
* `Serves.follow_complete`, `Serves.follow_stuck` — the client reads exactly the
  list iff every page end passes, and it always comes to an end;
* `Serves.follow_begins` — what it has read is a beginning of the list.
-/
import Mathlib.Data.List.Basic

namespace Keyset

variable {ρ κ ε : Type*}

/-- **The rows after a row are the rest of the list.** -/
theorem filter_after {r : ρ → ρ → Bool} {pre post : List ρ} {c : ρ}
    (hsorted : (pre ++ c :: post).Pairwise (fun a b => r a b = true))
    (hasymm : ∀ a b, r a b = true → r b a = false) : (pre ++ c :: post).filter (r c) = post := by
  obtain ⟨_, hrest, hcross⟩ := List.pairwise_append.mp hsorted
  have hafter := (List.pairwise_cons.mp hrest).1
  have hpre : pre.filter (r c) = [] := by
    refine List.filter_eq_nil_iff.mpr fun a ha => ?_
    have hac : r a c = true := hcross a ha c (by simp)
    simp [hasymm a c hac]
  have hself : r c c = false := by
    cases h : r c c with
    | false => rfl
    | true => exact h.symm.trans (hasymm c c h)
  have hpost : post.filter (r c) = post :=
    List.filter_eq_self.mpr fun a ha => hafter a ha
  rw [List.filter_append, hpre, List.filter_cons, hself, hpost]
  simp

variable {limit : ℕ} {rest : List ρ} {row : ρ}

/-- The last row of a full page that is not the last page. -/
def PageEnd (limit : ℕ) (rest : List ρ) (row : ρ) : Prop :=
  ∃ k, k * limit + limit < rest.length ∧ rest[k * limit + limit - 1]? = some row

theorem not_pageEnd (hshort : rest.length ≤ limit) : ¬ PageEnd limit rest row := by
  rintro ⟨k, hk, _⟩
  have : limit ≤ k * limit + limit := Nat.le_add_left _ _
  omega

theorem pageEnd_iff (hlimit : 0 < limit) (hlong : limit < rest.length) : PageEnd limit rest row ↔
      rest[limit - 1]? = some row ∨ PageEnd limit (rest.drop limit) row := by
  constructor
  · rintro ⟨k, hk, hrow⟩
    cases k with
    | zero => exact .inl (by simpa using hrow)
    | succ k =>
      refine .inr ⟨k, ?_, ?_⟩
      · rw [List.length_drop]
        rw [Nat.succ_mul] at hk
        omega
      · rw [List.getElem?_drop, ← hrow]
        congr 1
        rw [Nat.succ_mul]
        omega
  · rintro (hfirst | ⟨k, hk, hrow⟩)
    · exact ⟨0, by simpa using hlong, by simpa using hfirst⟩
    · refine ⟨k + 1, ?_, ?_⟩
      · rw [List.length_drop] at hk
        rw [Nat.succ_mul]
        omega
      · rw [List.getElem?_drop] at hrow
        rw [← hrow, Nat.succ_mul]
        congr 1
        omega

/-! ### The client -/

/-- How a reading ends: at the last page, at an error, or out of requests. -/
inductive Ending (ε : Type*) where
  | finished
  | refused (e : ε)
  | unfinished

/-- What a client has read, and why it stopped. -/
structure Reading (ρ ε : Type*) where
  rows : List ρ
  ending : Ending ε

/-- Follow the cursors, for at most so many requests. -/
def follow (fetch : Option κ → Except ε (List ρ × Option κ)) : ℕ → Option κ → Reading ρ ε
  | 0, _ => ⟨[], .unfinished⟩
  | n + 1, cursor =>
    match fetch cursor with
    | .error e => ⟨[], .refused e⟩
    | .ok (page, none) => ⟨page, .finished⟩
    | .ok (page, some next) =>
      let later := follow fetch n (some next)
      ⟨page ++ later.rows, later.ending⟩

variable {fetch : Option κ → Except ε (List ρ × Option κ)} {cursor : Option κ}

theorem follow_error {e : ε} (h : fetch cursor = .error e) (n : ℕ) :
    follow fetch (n + 1) cursor = ⟨[], .refused e⟩ := by
  rw [follow, h]

theorem follow_last {page : List ρ} (h : fetch cursor = .ok (page, none)) (n : ℕ) :
    follow fetch (n + 1) cursor = ⟨page, .finished⟩ := by
  rw [follow, h]

theorem follow_next {page : List ρ} {next : κ} (h : fetch cursor = .ok (page, some next)) (n : ℕ) :
    follow fetch (n + 1) cursor =
      ⟨page ++ (follow fetch n (some next)).rows, (follow fetch n (some next)).ending⟩ := by
  rw [follow, h]

/-! ### What the answers owe -/

/-- `serves cursor rest`: at `cursor`, `rest` is still to be read. A page end that
`passes` has a cursor that serves what follows; at any other one the request, or
the next, is refused. -/
structure Serves (fetch : Option κ → Except ε (List ρ × Option κ)) (limit : ℕ)
    (passes : ρ → Prop) (serves : Option κ → List ρ → Prop) : Prop where
  last : ∀ cursor rest, serves cursor rest → rest.length ≤ limit →
    fetch cursor = .ok (rest, none)
  next : ∀ cursor rest row, serves cursor rest → limit < rest.length →
    rest[limit - 1]? = some row → passes row →
    ∃ k, fetch cursor = .ok (rest.take limit, some k) ∧ serves (some k) (rest.drop limit)
  stuck : ∀ cursor rest row, serves cursor rest → limit < rest.length →
    rest[limit - 1]? = some row → ¬ passes row →
    (∃ e, fetch cursor = .error e) ∨
      ∃ k e, fetch cursor = .ok (rest.take limit, some k) ∧ fetch (some k) = .error e

section

variable {passes : ρ → Prop} {serves : Option κ → List ρ → Prop}

/-- **If every page end passes, the client reads exactly the list.** -/
theorem Serves.follow_complete (hserves : Serves fetch limit passes serves) (hlimit : 0 < limit) :
    ∀ (n : ℕ) (cursor : Option κ) (rest : List ρ), serves cursor rest → rest.length < n →
      (∀ row, PageEnd limit rest row → passes row) → follow fetch n cursor = ⟨rest, .finished⟩ := by
  intro n
  induction n with
  | zero => intro cursor rest _ hn; omega
  | succ n ih =>
    intro cursor rest hcursor hn hpasses
    by_cases hshort : rest.length ≤ limit
    · exact follow_last (hserves.last cursor rest hcursor hshort) n
    · have hlong : limit < rest.length := by omega
      have hrow : rest[limit - 1]? = some rest[limit - 1] := List.getElem?_eq_getElem (by omega)
      have hpass := hpasses _ ((pageEnd_iff hlimit hlong).mpr (.inl hrow))
      obtain ⟨k, hfetch, hnext⟩ := hserves.next cursor rest _ hcursor hlong hrow hpass
      have hlater := ih (some k) (rest.drop limit) hnext (by rw [List.length_drop]; omega)
        fun row hend => hpasses row ((pageEnd_iff hlimit hlong).mpr (.inr hend))
      rw [follow_next hfetch, hlater, List.take_append_drop]

/-- **A page end that does not pass stops the client with an error.** -/
theorem Serves.follow_stuck (hserves : Serves fetch limit passes serves) (hlimit : 0 < limit) :
    ∀ (n : ℕ) (cursor : Option κ) (rest : List ρ), serves cursor rest → rest.length < n →
      (∃ row, PageEnd limit rest row ∧ ¬ passes row) →
      ∃ e, (follow fetch n cursor).ending = .refused e := by
  intro n
  induction n with
  | zero => intro cursor rest _ hn; omega
  | succ n ih =>
    rintro cursor rest hcursor hn ⟨row, hend, hnot⟩
    have hlong : limit < rest.length := by
      by_contra hshort
      exact not_pageEnd (by omega) hend
    have hfirst : rest[limit - 1]? = some rest[limit - 1] := List.getElem?_eq_getElem (by omega)
    by_cases hpass : passes rest[limit - 1]
    · obtain ⟨k, hfetch, hnext⟩ := hserves.next cursor rest _ hcursor hlong hfirst hpass
      have hlater : PageEnd limit (rest.drop limit) row := by
        rcases (pageEnd_iff hlimit hlong).mp hend with heq | hlater
        · rw [hfirst] at heq
          cases heq
          exact absurd hpass hnot
        · exact hlater
      obtain ⟨e, he⟩ := ih (some k) (rest.drop limit) hnext (by rw [List.length_drop]; omega)
        ⟨row, hlater, hnot⟩
      exact ⟨e, by rw [follow_next hfetch]; exact he⟩
    · rcases hserves.stuck cursor rest _ hcursor hlong hfirst hpass with ⟨e, hfetch⟩ |
        ⟨k, e, hfetch, hrefused⟩
      · exact ⟨e, by rw [follow_error hfetch]⟩
      · -- the cursor was handed out, but the request that brings it back is refused
        obtain ⟨m, rfl⟩ : ∃ m, n = m + 1 := ⟨n - 1, by omega⟩
        exact ⟨e, by rw [follow_next hfetch, follow_error hrefused]⟩

/-- However far the client gets, what it has read is a beginning of the list. -/
theorem Serves.follow_begins (hserves : Serves fetch limit passes serves) :
    ∀ (n : ℕ) (cursor : Option κ) (rest : List ρ), serves cursor rest →
      (follow fetch n cursor).rows <+: rest := by
  intro n
  induction n with
  | zero => exact fun _ _ _ => List.nil_prefix
  | succ n ih =>
    intro cursor rest hcursor
    by_cases hshort : rest.length ≤ limit
    · simp [follow_last (hserves.last cursor rest hcursor hshort) n]
    · have hlong : limit < rest.length := by omega
      have hfirst : rest[limit - 1]? = some rest[limit - 1] := List.getElem?_eq_getElem (by omega)
      by_cases hpass : passes rest[limit - 1]
      · obtain ⟨k, hfetch, hnext⟩ := hserves.next cursor rest _ hcursor hlong hfirst hpass
        rw [follow_next hfetch]
        obtain ⟨later, heq⟩ := ih (some k) _ hnext
        exact ⟨later, by rw [List.append_assoc, heq, List.take_append_drop]⟩
      · rcases hserves.stuck cursor rest _ hcursor hlong hfirst hpass with ⟨e, hfetch⟩ |
          ⟨k, e, hfetch, hrefused⟩
        · rw [follow_error hfetch]
          exact List.nil_prefix
        · -- the rows are there, the request for the next ones is refused
          rw [follow_next hfetch]
          cases n with
          | zero => simpa [follow] using List.take_prefix limit rest
          | succ n => simpa [follow_error hrefused] using List.take_prefix limit rest

theorem Serves.follow_ends (hserves : Serves fetch limit passes serves) (hlimit : 0 < limit)
    {n : ℕ} {cursor : Option κ} (hcursor : serves cursor rest)
    (hn : rest.length < n) : (follow fetch n cursor).ending ≠ .unfinished := by
  by_cases hpasses : ∀ row, PageEnd limit rest row → passes row
  · rw [hserves.follow_complete hlimit n cursor rest hcursor hn hpasses]
    simp
  · push Not at hpasses
    obtain ⟨e, he⟩ := hserves.follow_stuck hlimit n cursor rest hcursor hn hpasses
    rw [he]
    simp

theorem Serves.follow_iff (hserves : Serves fetch limit passes serves) (hlimit : 0 < limit)
    {n : ℕ} {cursor : Option κ} (hcursor : serves cursor rest) (hn : rest.length < n) :
    follow fetch n cursor = ⟨rest, .finished⟩ ↔ ∀ row, PageEnd limit rest row → passes row := by
  refine ⟨fun hfollow => ?_, hserves.follow_complete hlimit n cursor rest hcursor hn⟩
  by_contra hpasses
  push Not at hpasses
  obtain ⟨e, he⟩ := hserves.follow_stuck hlimit n cursor rest hcursor hn hpasses
  rw [hfollow] at he
  cases he

end

end Keyset
