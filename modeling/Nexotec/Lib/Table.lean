/-
Database tables as keyed lists.

A table holds rows under a primary key; it is Mathlib's association list, so
no two rows share a key.  On top of `lookup` and `insert` this file adds the
bulk forms a relational program uses:

* `modify k f` — `UPDATE … WHERE key = k`, `updateAll f` — an `UPDATE` over
  every row, `keep p` — a `DELETE` of the other rows;
* `mapRows f` — a view of every row;
* `insertAll new` — an `INSERT` of several rows;
* `search p` — `SELECT … WHERE p … LIMIT 1`, with the two directions of its
  specification (`search_eq_some`, `search_eq_none`), and `selectKeys p`, the keys
  of all rows that match.

Every later proof reads a table through `lookup` only.
-/
import Mathlib.Data.List.AList

/-- Rows of type `ρ` under primary keys of type `κ`. -/
abbrev Table (κ ρ : Type*) := AList fun _ : κ => ρ

namespace Table

variable {κ ρ : Type*}

/-- Rewrite every row. -/
def updateAll (f : κ → ρ → ρ) (t : Table κ ρ) : Table κ ρ :=
  ⟨t.entries.map (.map id f), t.nodupKeys.map₂ f _⟩

/-- Each row seen through `f`. -/
def mapRows {ρ' : Type*} (f : κ → ρ → ρ') (t : Table κ ρ) : Table κ ρ' :=
  ⟨t.entries.map (.map id f), t.nodupKeys.map₂ f _⟩

/-- Some row that satisfies `p`, with its key. -/
def search (p : κ → ρ → Bool) (t : Table κ ρ) : Option (κ × ρ) :=
  (t.entries.find? fun e => p e.1 e.2).map fun e => (e.1, e.2)

/-- `DELETE` of the rows that do not satisfy `p`. -/
def keep (p : κ → ρ → Bool) (t : Table κ ρ) : Table κ ρ :=
  ⟨t.entries.filter fun e => p e.1 e.2, t.nodupKeys.sublist List.filter_sublist⟩

/-- `SELECT key … WHERE p`. -/
def selectKeys (p : κ → ρ → Bool) (t : Table κ ρ) : List κ := (keep p t).keys

variable [DecidableEq κ]

/-- Rewrite the row under one key. -/
def modify (k : κ) (f : ρ → ρ) (t : Table κ ρ) : Table κ ρ :=
  updateAll (fun j r => if j = k then f r else r) t

/-- `INSERT` of several rows. -/
def insertAll (new : List (κ × ρ)) (t : Table κ ρ) : Table κ ρ :=
  new.foldl (fun t e => t.insert e.1 e.2) t

variable {t : Table κ ρ} {k j : κ} {r r' : ρ} {new : List (κ × ρ)} {p : κ → ρ → Bool}
  {f : κ → ρ → ρ}

@[simp] theorem lookup_updateAll (f : κ → ρ → ρ) (t : Table κ ρ) (k : κ) :
    (updateAll f t).lookup k = (t.lookup k).map (f k) :=
  List.dlookup_map₂ k

@[simp] theorem lookup_mapRows {ρ' : Type*} (f : κ → ρ → ρ') (t : Table κ ρ) (k : κ) :
    (mapRows f t).lookup k = (t.lookup k).map (f k) :=
  List.dlookup_map₂ k

/-- A view that changes no row there is. -/
theorem lookup_mapRows_of_fixed (h : ∀ k r, t.lookup k = some r → f k r = r) (k : κ) :
    (mapRows f t).lookup k = t.lookup k := by
  rw [lookup_mapRows]
  cases hrow : t.lookup k with
  | none => rfl
  | some r => exact congrArg some (h k r hrow)

theorem lookup_modify (k j : κ) (f : ρ → ρ) (t : Table κ ρ) :
    (modify k f t).lookup j = if j = k then (t.lookup j).map f else t.lookup j := by
  rw [modify, lookup_updateAll]
  by_cases h : j = k
  · simp [h]
  · simp [h]

@[simp] theorem lookup_modify_self (k : κ) (f : ρ → ρ) (t : Table κ ρ) :
    (modify k f t).lookup k = (t.lookup k).map f := by
  simp [lookup_modify]

theorem lookup_modify_ne (h : j ≠ k) (f : ρ → ρ) (t : Table κ ρ) :
    (modify k f t).lookup j = t.lookup j := by
  simp [lookup_modify, h]

theorem lookup_insert_iff (k j : κ) (r : ρ) (t : Table κ ρ) :
    (t.insert k r).lookup j = if j = k then some r else t.lookup j := by
  by_cases h : j = k
  · subst h
    simp
  · rw [if_neg h, AList.lookup_insert_ne h]

theorem lookup_insert_cases (h : (t.insert k r).lookup j = some r') :
    (j = k ∧ r' = r) ∨ (j ≠ k ∧ t.lookup j = some r') := by
  rw [lookup_insert_iff] at h
  split at h
  · next heq => exact .inl ⟨heq, (Option.some.inj h).symm⟩
  · next hne => exact .inr ⟨hne, h⟩

theorem forall_empty {P : κ → ρ → Prop} : ∀ j r, (∅ : Table κ ρ).lookup j = some r → P j r :=
  nofun

theorem forall_insert {P : κ → ρ → Prop} (hnew : P k r)
    (h : ∀ j r', t.lookup j = some r' → P j r') :
    ∀ j r', (t.insert k r).lookup j = some r' → P j r' := by
  intro j r' hrow
  rcases lookup_insert_cases hrow with ⟨rfl, rfl⟩ | ⟨-, hold⟩
  · exact hnew
  · exact h j r' hold

/-- A row found after several insertions is one of the new ones, or was there
under a key none of them has. -/
theorem lookup_insertAll_cases (h : (insertAll new t).lookup k = some r) :
    (k, r) ∈ new ∨ (k ∉ new.map Prod.fst ∧ t.lookup k = some r) := by
  induction new generalizing t with
  | nil => exact .inr ⟨List.not_mem_nil, h⟩
  | cons e new ih =>
    rcases ih h with hmem | ⟨hnot, hold⟩
    · exact .inl (List.mem_cons_of_mem e hmem)
    · rcases lookup_insert_cases hold with ⟨rfl, rfl⟩ | ⟨hne, hold⟩
      · exact .inl List.mem_cons_self
      · exact .inr ⟨List.not_mem_cons_of_ne_of_not_mem hne hnot, hold⟩

theorem lookup_insertAll_of_notMem
    (h : k ∉ new.map Prod.fst) : (insertAll new t).lookup k = t.lookup k := by
  induction new generalizing t with
  | nil => rfl
  | cons e new ih =>
    have hne : k ≠ e.1 := List.ne_of_not_mem_cons h
    have hnot : k ∉ new.map Prod.fst := List.not_mem_of_not_mem_cons h
    exact (ih hnot).trans (AList.lookup_insert_ne hne)

theorem lookup_insertAll_of_mem
    (hkeys : (new.map Prod.fst).Nodup) (h : (k, r) ∈ new) : (insertAll new t).lookup k = some r := by
  induction new generalizing t with
  | nil => cases h
  | cons e new ih =>
    rw [List.map_cons, List.nodup_cons] at hkeys
    rcases List.mem_cons.mp h with rfl | h
    · exact (lookup_insertAll_of_notMem hkeys.1).trans (AList.lookup_insert t)
    · exact ih hkeys.2 h

theorem lookup_insertAll (new : List (κ × ρ)) (t : Table κ ρ) (k : κ) : (insertAll new t).lookup k =
      (((new.filter fun e => e.1 = k).getLast?).map Prod.snd).or (t.lookup k) := by
  induction new generalizing t with
  | nil => rfl
  | cons e new ih =>
    have hrest : (insertAll (e :: new) t).lookup k =
        (((new.filter fun e => e.1 = k).getLast?).map Prod.snd).or ((t.insert e.1 e.2).lookup k) :=
      ih (t.insert e.1 e.2)
    rw [hrest]
    by_cases hk : e.1 = k
    · subst hk
      rw [List.filter_cons_of_pos (by simp), List.getLast?_cons, AList.lookup_insert]
      cases (new.filter fun e' => e'.1 = e.1).getLast? with
      | none => rfl
      | some last => rfl
    · rw [List.filter_cons_of_neg (by simpa using hk), AList.lookup_insert_ne fun heq => hk heq.symm]

theorem lookup_insert_ne_none (h : t.lookup j ≠ none) (r : ρ) : (t.insert k r).lookup j ≠ none := by
  rw [lookup_insert_iff]
  split
  · exact Option.some_ne_none r
  · exact h

theorem lookup_insertAll_ne_none (h : t.lookup k ≠ none) : (insertAll new t).lookup k ≠ none := by
  induction new generalizing t with
  | nil => exact h
  | cons e new ih => exact ih (lookup_insert_ne_none h e.2)

theorem exists_lookup_insertAll (h : new ≠ []) (t : Table κ ρ) :
    ∃ e ∈ new, (insertAll new t).lookup e.1 = some e.2 := by
  obtain ⟨front, last, rfl⟩ := List.eq_nil_or_concat new |>.resolve_left h
  refine ⟨last, by simp, ?_⟩
  rw [insertAll, List.concat_eq_append, List.foldl_append]
  exact AList.lookup_insert _

theorem modify_insert_self (h : t.lookup k = none) (r : ρ) (f : ρ → ρ) :
    modify k f (t.insert k r) = t.insert k (f r) := by
  have hk : k ∉ t := AList.lookup_eq_none.mp h
  have hrest : t.entries.map (.map id fun j r => if j = k then f r else r) = t.entries := by
    conv_rhs => rw [← List.map_id t.entries]
    refine List.map_congr_left fun e he => ?_
    have hne : e.1 ≠ k := fun heq => hk (heq ▸ AList.mem_keys.mpr (List.mem_map_of_mem he))
    simp [Sigma.map, hne]
  refine AList.ext ?_
  rw [AList.entries_insert_of_notMem hk, modify, updateAll]
  simp only [AList.entries_insert_of_notMem hk, List.map_cons, hrest]
  simp [Sigma.map]

theorem lookup_eq_some_iff_mem : t.lookup k = some r ↔ (⟨k, r⟩ : Σ _ : κ, ρ) ∈ t.entries :=
  AList.mem_lookup_iff (s := t)

theorem forall_lookup {p : κ → ρ → Prop} :
    (∀ k r, t.lookup k = some r → p k r) ↔ ∀ e ∈ t.entries, p e.1 e.2 := by
  constructor
  · exact fun h e he => h e.1 e.2 (lookup_eq_some_iff_mem.mpr he)
  · exact fun h k r hr => h ⟨k, r⟩ (lookup_eq_some_iff_mem.mp hr)

theorem exists_lookup {p : κ → ρ → Prop} :
    (∃ k r, t.lookup k = some r ∧ p k r) ↔ ∃ e ∈ t.entries, p e.1 e.2 := by
  constructor
  · rintro ⟨k, r, hr, h⟩
    exact ⟨⟨k, r⟩, lookup_eq_some_iff_mem.mp hr, h⟩
  · rintro ⟨e, he, h⟩
    exact ⟨e.1, e.2, lookup_eq_some_iff_mem.mpr he, h⟩

/-- `SELECT … WHERE`, with the keys. -/
theorem mem_map_filter {q : (Σ _ : κ, ρ) → Bool} :
    (k, r) ∈ (t.entries.filter q).map (fun e => (e.1, e.2)) ↔
      t.lookup k = some r ∧ q ⟨k, r⟩ = true := by
  rw [lookup_eq_some_iff_mem, ← List.mem_filter, List.mem_map]
  constructor
  · rintro ⟨e, he, heq⟩
    cases heq
    exact he
  · exact fun hmem => ⟨⟨k, r⟩, hmem, rfl⟩

theorem mem_keys_filter {q : (Σ _ : κ, ρ) → Bool} :
    k ∈ (t.entries.filter q).map (·.1) ↔ ∃ r, t.lookup k = some r ∧ q ⟨k, r⟩ = true := by
  simp only [lookup_eq_some_iff_mem, ← List.mem_filter, List.mem_map]
  constructor
  · rintro ⟨e, he, rfl⟩
    exact ⟨e.2, he⟩
  · exact fun ⟨r, hmem⟩ => ⟨⟨k, r⟩, hmem, rfl⟩

theorem lookup_keep (p : κ → ρ → Bool) (t : Table κ ρ) (k : κ) :
    (keep p t).lookup k = (t.lookup k).filter (p k) := by
  refine Option.ext fun r => ?_
  rw [Option.filter_eq_some_iff, lookup_eq_some_iff_mem, lookup_eq_some_iff_mem]
  exact List.mem_filter

theorem mem_selectKeys : k ∈ selectKeys p t ↔ ∃ r, t.lookup k = some r ∧ p k r = true := by
  rw [selectKeys, ← AList.mem_keys, ← AList.lookup_isSome, lookup_keep, Option.isSome_iff_exists]
  simp only [Option.filter_eq_some_iff]

theorem updateAll_congr {g : κ → ρ → ρ}
    (h : ∀ k r, t.lookup k = some r → f k r = g k r) : updateAll f t = updateAll g t := by
  refine AList.ext (List.map_congr_left fun e he => ?_)
  simp only [Sigma.map, id_eq, h e.1 e.2 (lookup_eq_some_iff_mem.mpr he)]

omit [DecidableEq κ] in
theorem updateAll_id (t : Table κ ρ) : updateAll (fun _ r => r) t = t :=
  AList.ext (List.map_id t.entries)

theorem selectKeys_updateAll (h : ∀ k r, t.lookup k = some r → p k (f k r) = p k r) :
    selectKeys p (updateAll f t) = selectKeys p t := by
  have hfilter : (t.entries.map fun e => (⟨e.1, f e.1 e.2⟩ : Σ _ : κ, ρ)).filter (fun e => p e.1 e.2) =
      (t.entries.filter fun e => p e.1 e.2).map fun e => (⟨e.1, f e.1 e.2⟩ : Σ _ : κ, ρ) := by
    rw [List.filter_map]
    congr 1
    exact List.filter_congr fun e he => h e.1 e.2 (lookup_eq_some_iff_mem.mpr he)
  have hkeys : ((t.entries.filter fun e => p e.1 e.2).map
      fun e => (⟨e.1, f e.1 e.2⟩ : Σ _ : κ, ρ)).map Sigma.fst =
      (t.entries.filter fun e => p e.1 e.2).map Sigma.fst := by
    rw [List.map_map]
    rfl
  exact (congrArg (List.map Sigma.fst) hfilter).trans hkeys

theorem search_eq_some (h : search p t = some (k, r)) : t.lookup k = some r ∧ p k r = true := by
  obtain ⟨e, he, heq⟩ := Option.map_eq_some_iff.mp h
  have hp := List.find?_some he
  have hm := List.mem_of_find?_eq_some he
  cases heq
  exact ⟨lookup_eq_some_iff_mem.mpr hm, hp⟩

theorem search_eq_none (h : search p t = none) (hr : t.lookup k = some r) : p k r = false := by
  rw [search, Option.map_eq_none_iff, List.find?_eq_none] at h
  have := h _ (lookup_eq_some_iff_mem.mp hr)
  simpa using this

theorem search_isSome_iff :
    (search p t).isSome = true ↔ ∃ k r, t.lookup k = some r ∧ p k r = true := by
  constructor
  · intro h
    obtain ⟨⟨k, r⟩, hkr⟩ := Option.isSome_iff_exists.mp h
    exact ⟨k, r, search_eq_some hkr⟩
  · rintro ⟨k, r, hr, hp⟩
    by_contra hnone
    have hfalse : p k r = false := search_eq_none (by simpa using hnone) hr
    rw [hfalse] at hp
    cases hp

theorem search_insert (h : t.lookup k = none)
    (hp : p k r = false) : search p (t.insert k r) = search p t := by
  have hk : k ∉ t := AList.lookup_eq_none.mp h
  rw [search, search, AList.entries_insert_of_notMem hk, List.find?_cons_of_neg (by simp [hp])]

end Table
