/-
What each write does to the primaries of a group (`_fixup_single_primary`,
`_prepare_primary_change`, `_repoint_contacts`).

A row stands in the group of its customer and type with its flag and its usability; nothing
else of a row matters here.

* `settled_fixup`, `stands_fixup` — settling a group settles it, and a usable primary that is
  alone stays;
* `settled_create`, `settled_update`, `settled_delete`, `settled_repoint` — each write leaves
  every group settled;
* `create_stands`, `update_stands`, `delete_stands` — and a usable primary where it is, unless it
  is the row written or the request names another row of its type.
-/
import Nexotec.Customer.MergedContacts

namespace Nexotec.Contacts

open ContactSessions (unflagged_eq)

section

variable {τ ν : Type} [DecidableEq τ]

/-! ### Groups -/

/-- The row stands in the group with that flag and that usability. -/
def Stands (rows : Table Uuid (ContactRow τ ν)) (customerId : Uuid) (typeValue : τ) (id : Uuid)
    (isPrimary usable : Bool) : Prop :=
  ∃ row, rows.lookup id = some row ∧ row.inGroup customerId typeValue = true ∧
    row.isPrimary = isPrimary ∧ row.isUsableRow = usable

/-- **One usable primary**: no unusable row is primary, and of the usable ones, if any, one is. -/
structure Settled (rows : Table Uuid (ContactRow τ ν)) (customerId : Uuid) (typeValue : τ) : Prop where
  dead : ∀ id, ¬ Stands rows customerId typeValue id true false
  one : (∃ id flag, Stands rows customerId typeValue id flag true) →
    ∃! id, Stands rows customerId typeValue id true true

/-- A write that leaves a group as it was. -/
def SameGroup (rows rows' : Table Uuid (ContactRow τ ν)) (customerId : Uuid) (typeValue : τ) : Prop :=
  ∀ id flag usable, Stands rows' customerId typeValue id flag usable ↔
    Stands rows customerId typeValue id flag usable

variable {rows rows' : Table Uuid (ContactRow τ ν)} {customerId customerId' : Uuid}
  {typeValue typeValue' : τ} {id : Uuid} {flag usable : Bool}

theorem SameGroup.refl (rows : Table Uuid (ContactRow τ ν)) (customerId : Uuid) (typeValue : τ) :
    SameGroup rows rows customerId typeValue := fun _ _ _ => Iff.rfl

theorem SameGroup.settled (h : SameGroup rows rows' customerId typeValue)
    (hsettled : Settled rows customerId typeValue) : Settled rows' customerId typeValue := by
  refine ⟨fun id hdead => hsettled.dead id ((h _ _ _).mp hdead), ?_⟩
  rintro ⟨id, flag, husable⟩
  obtain ⟨primary, hprimary, hone⟩ := hsettled.one ⟨id, flag, (h _ _ _).mp husable⟩
  exact ⟨primary, (h _ _ _).mpr hprimary, fun other hother => hone other ((h _ _ _).mp hother)⟩

theorem settled_of_empty (h : ∀ id flag usable, ¬ Stands rows customerId typeValue id flag usable) :
    Settled rows customerId typeValue :=
  ⟨fun id hdead => h id _ _ hdead, fun ⟨id, flag, husable⟩ => absurd husable (h id flag true)⟩

theorem Settled.primary_unique (h : Settled rows customerId typeValue) {other : Uuid}
    (hid : Stands rows customerId typeValue id true usable)
    (hother : Stands rows customerId typeValue other true flag) : other = id := by
  cases usable with
  | false => exact absurd hid (h.dead id)
  | true =>
    cases flag with
    | false => exact absurd hother (h.dead other)
    | true => exact (h.one ⟨id, true, hid⟩).unique hother hid

variable {row : ContactRow τ ν}

theorem inGroup_iff : row.inGroup customerId typeValue = true ↔
      row.customerId = customerId ∧ row.contactType = typeValue := by
  simp [ContactRow.inGroup]

omit [DecidableEq τ] in
theorem unflagged_type {row' : ContactRow τ ν} (h : row'.unflagged = row.unflagged) :
    row'.contactType = row.contactType := by
  have htype : row'.unflagged.contactType = row.unflagged.contactType := by rw [h]
  exact htype

/-! ### Settling -/

theorem mem_groupRows : (id, row) ∈ groupRows rows customerId typeValue ↔
      rows.lookup id = some row ∧ row.inGroup customerId typeValue = true := by
  rw [groupRows, List.mem_insertionSort]
  exact Table.mem_map_filter

theorem elected_usable (h : elected (groupRows rows customerId typeValue) = some id) :
    ∃ flag, Stands rows customerId typeValue id flag true := by
  obtain ⟨⟨id', row⟩, hfound, rfl⟩ := Option.map_eq_some_iff.mp h
  have hmem : (id', row) ∈ (groupRows rows customerId typeValue).filter (·.2.isUsableRow) := by
    rcases Option.or_eq_some_iff.mp hfound with hfirst | ⟨-, hhead⟩
    · exact List.mem_of_find?_eq_some hfirst
    · exact List.mem_of_head? hhead
  obtain ⟨hgroup, husable⟩ := List.mem_filter.mp hmem
  obtain ⟨hrow, hin⟩ := mem_groupRows.mp hgroup
  exact ⟨row.isPrimary, row, hrow, hin, rfl, husable⟩

theorem elected_isSome (h : Stands rows customerId typeValue id flag true) :
    ∃ primary, elected (groupRows rows customerId typeValue) = some primary := by
  obtain ⟨row, hrow, hin, -, husable⟩ := h
  have hmem : (id, row) ∈ (groupRows rows customerId typeValue).filter (·.2.isUsableRow) :=
    List.mem_filter.mpr ⟨mem_groupRows.mpr ⟨hrow, hin⟩, husable⟩
  rw [elected]
  cases hlist : (groupRows rows customerId typeValue).filter (·.2.isUsableRow) with
  | nil =>
    rw [hlist] at hmem
    cases hmem
  | cons head rest =>
    cases ((head :: rest).find? (·.2.isPrimary)) with
    | none => exact ⟨head.1, rfl⟩
    | some found => exact ⟨found.1, rfl⟩

theorem elected_alone (h : Stands rows customerId typeValue id true true)
    (halone : ∀ other, Stands rows customerId typeValue other true true → other = id) :
    elected (groupRows rows customerId typeValue) = some id := by
  obtain ⟨row, hrow, hin, hprimary, husable⟩ := h
  have hmem : (id, row) ∈ (groupRows rows customerId typeValue).filter (·.2.isUsableRow) :=
    List.mem_filter.mpr ⟨mem_groupRows.mpr ⟨hrow, hin⟩, husable⟩
  have hsome : (((groupRows rows customerId typeValue).filter (·.2.isUsableRow)).find?
      (·.2.isPrimary)).isSome = true := by
    rw [List.find?_isSome]
    exact ⟨(id, row), hmem, hprimary⟩
  obtain ⟨⟨id', row'⟩, hfound⟩ := Option.isSome_iff_exists.mp hsome
  obtain ⟨hgroup, husable'⟩ := List.mem_filter.mp (List.mem_of_find?_eq_some hfound)
  obtain ⟨hrow', hin'⟩ := mem_groupRows.mp hgroup
  have hprimary' : row'.isPrimary = true := by simpa using List.find?_some hfound
  rw [elected, hfound, ← halone id' ⟨row', hrow', hin', hprimary', husable'⟩]
  rfl

/-- A loop over a group that writes each row's flag. -/
theorem stands_setFlags (flags : Uuid → Bool) :
    Stands (rows.updateAll fun id row => if row.inGroup customerId typeValue then
      { row with isPrimary := flags id } else row) customerId typeValue id flag usable ↔
      (∃ flag', Stands rows customerId typeValue id flag' usable) ∧ flag = flags id := by
  unfold Stands
  constructor
  · rintro ⟨row', hrow', hin', hflag, husable⟩
    rw [Table.lookup_updateAll, Option.map_eq_some_iff] at hrow'
    obtain ⟨row, hrow, rfl⟩ := hrow'
    by_cases hin : row.inGroup customerId typeValue = true
    · rw [if_pos hin] at hflag husable
      exact ⟨⟨row.isPrimary, row, hrow, hin, rfl, husable⟩, hflag.symm⟩
    · rw [if_neg hin] at hin'
      exact absurd hin' hin
  · rintro ⟨⟨flag', row, hrow, hin, -, husable⟩, rfl⟩
    refine ⟨{ row with isPrimary := flags id }, ?_, hin, rfl, husable⟩
    rw [Table.lookup_updateAll, hrow, Option.map_some, if_pos hin]

theorem stands_fixup :
    Stands (fixupSinglePrimary customerId rows typeValue) customerId typeValue id flag usable ↔
      (∃ flag', Stands rows customerId typeValue id flag' usable) ∧
        flag = decide (elected (groupRows rows customerId typeValue) = some id) :=
  stands_setFlags _

theorem settled_fixup : Settled (fixupSinglePrimary customerId rows typeValue) customerId typeValue := by
  constructor
  · intro id hdead
    obtain ⟨⟨flag', hstands⟩, helected⟩ := stands_fixup.mp hdead
    obtain ⟨flag'', husable⟩ := elected_usable (of_decide_eq_true helected.symm)
    obtain ⟨row, hrow, -, -, hfalse⟩ := hstands
    obtain ⟨row', hrow', -, -, htrue⟩ := husable
    rw [hrow] at hrow'
    rw [Option.some.inj hrow', htrue] at hfalse
    cases hfalse
  · rintro ⟨id, flag, husable⟩
    obtain ⟨⟨flag', hstands⟩, -⟩ := stands_fixup.mp husable
    obtain ⟨primary, hprimary⟩ := elected_isSome hstands
    refine ⟨primary, stands_fixup.mpr ⟨elected_usable hprimary, (decide_eq_true hprimary).symm⟩, ?_⟩
    intro other hother
    obtain ⟨-, helected⟩ := stands_fixup.mp hother
    have helected := of_decide_eq_true helected.symm
    rw [hprimary] at helected
    exact (Option.some.inj helected).symm

theorem sameGroup_updateAll {f : Uuid → ContactRow τ ν → ContactRow τ ν}
    (hin : ∀ id row, (f id row).inGroup customerId typeValue = row.inGroup customerId typeValue)
    (hsame : ∀ id row, row.inGroup customerId typeValue = true → f id row = row) :
    SameGroup rows (rows.updateAll f) customerId typeValue := by
  intro id flag usable
  constructor
  · rintro ⟨row', hrow', hin', hflag, husable⟩
    rw [Table.lookup_updateAll, Option.map_eq_some_iff] at hrow'
    obtain ⟨row, hrow, rfl⟩ := hrow'
    rw [hin] at hin'
    rw [hsame id row hin'] at hflag husable
    exact ⟨row, hrow, hin', hflag, husable⟩
  · rintro ⟨row, hrow, hin', hflag, husable⟩
    refine ⟨row, ?_, hin', hflag, husable⟩
    rw [Table.lookup_updateAll, hrow, Option.map_some, hsame id row hin']

theorem setFlags_sameGroup (flags : Uuid → Bool)
    (hne : ¬ (customerId' = customerId ∧ typeValue' = typeValue)) :
    SameGroup rows (rows.updateAll fun id row => if row.inGroup customerId typeValue then
      { row with isPrimary := flags id } else row) customerId' typeValue' := by
  refine sameGroup_updateAll (fun id row => ?_) fun id row hin => ?_
  · split <;> rfl
  · rw [if_neg]
    intro hin'
    obtain ⟨hcustomer, htype⟩ := inGroup_iff.mp hin
    obtain ⟨hcustomer', htype'⟩ := inGroup_iff.mp hin'
    exact hne ⟨hcustomer.symm.trans hcustomer', htype.symm.trans htype'⟩

theorem fixup_sameGroup (hne : ¬ (customerId' = customerId ∧ typeValue' = typeValue)) :
    SameGroup rows (fixupSinglePrimary customerId rows typeValue) customerId' typeValue' :=
  setFlags_sameGroup _ hne

theorem unset_sameGroup (hne : ¬ (customerId' = customerId ∧ typeValue' = typeValue)) :
    SameGroup rows (unsetOtherPrimaries rows customerId typeValue) customerId' typeValue' :=
  setFlags_sameGroup (fun _ => false) hne

theorem settled_groups {groups : List τ}
    (h : (customerId' = customerId ∧ typeValue' ∈ groups) ∨ Settled rows customerId' typeValue') :
    Settled (groups.foldl (fixupSinglePrimary customerId) rows) customerId' typeValue' := by
  induction groups generalizing rows with
  | nil => exact h.resolve_left fun hmem => by cases hmem.2
  | cons first groups ih =>
    refine ih ?_
    by_cases hfirst : customerId' = customerId ∧ typeValue' = first
    · obtain ⟨rfl, rfl⟩ := hfirst
      exact .inr settled_fixup
    · rcases h with ⟨hcustomer, hmem⟩ | hsettled
      · exact .inl ⟨hcustomer, (List.mem_cons.mp hmem).resolve_left fun heq => hfirst ⟨hcustomer, heq⟩⟩
      · exact .inr ((fixup_sameGroup hfirst).settled hsettled)

theorem groups_stands {groups : List τ} (h : Stands rows customerId' typeValue' id true true)
    (halone : ∀ other, Stands rows customerId' typeValue' other true true → other = id) :
    Stands (groups.foldl (fixupSinglePrimary customerId) rows) customerId' typeValue' id true true := by
  induction groups generalizing rows with
  | nil => exact h
  | cons first groups ih =>
    by_cases hfirst : customerId' = customerId ∧ typeValue' = first
    · obtain ⟨rfl, rfl⟩ := hfirst
      have hkept : Stands (fixupSinglePrimary customerId' rows typeValue') customerId' typeValue' id
          true true :=
        stands_fixup.mpr ⟨⟨true, h⟩, (decide_eq_true (elected_alone h halone)).symm⟩
      exact ih hkept fun other hother => settled_fixup.primary_unique hkept hother
    · have hsame : SameGroup rows (fixupSinglePrimary customerId rows first) customerId' typeValue' :=
        fixup_sameGroup hfirst
      exact ih ((hsame _ _ _).mpr h) fun other hother => halone other ((hsame _ _ _).mp hother)

theorem stands_unset :
    Stands (unsetOtherPrimaries rows customerId typeValue) customerId typeValue id flag usable ↔
      (∃ flag', Stands rows customerId typeValue id flag' usable) ∧ flag = false :=
  stands_setFlags fun _ => false

theorem hasUsablePrimary_iff : hasUsablePrimary rows customerId typeValue = true ↔
      ∃ id, Stands rows customerId typeValue id true true := by
  unfold hasUsablePrimary Stands
  rw [Table.search_isSome_iff]
  simp only [Bool.and_eq_true, and_assoc]

theorem stands_insert {new : ContactRow τ ν} {other : Uuid} (hfresh : rows.lookup id = none) :
    Stands (rows.insert id new) customerId typeValue other flag usable ↔
      (other = id ∧ new.inGroup customerId typeValue = true ∧ new.isPrimary = flag ∧
        new.isUsableRow = usable) ∨ Stands rows customerId typeValue other flag usable := by
  unfold Stands
  constructor
  · rintro ⟨row, hrow, hin, hflag, husable⟩
    rcases Table.lookup_insert_cases hrow with ⟨rfl, rfl⟩ | ⟨-, hrow⟩
    · exact .inl ⟨rfl, hin, hflag, husable⟩
    · exact .inr ⟨row, hrow, hin, hflag, husable⟩
  · rintro (⟨rfl, hin, hflag, husable⟩ | ⟨row, hrow, hin, hflag, husable⟩)
    · exact ⟨new, AList.lookup_insert _, hin, hflag, husable⟩
    · have hne : other ≠ id := by
        rintro rfl
        rw [hfresh] at hrow
        cases hrow
      exact ⟨row, (AList.lookup_insert_ne hne).trans hrow, hin, hflag, husable⟩

theorem lookup_unset_none (h : rows.lookup id = none) :
    (unsetOtherPrimaries rows customerId typeValue).lookup id = none := by
  rw [unsetOtherPrimaries, Table.lookup_updateAll, h]
  rfl

section Create

variable [DecidableEq ν] {table : ContactTable ν} {now : Time} {groupId : Uuid}
  {data : ContactCreate τ ν}

theorem create_cases (h : createContact table rows now groupId customerId id data = .ok rows') :
    ((data.isPrimary = true ∨ hasUsablePrimary rows customerId data.contactType = false) ∧
      rows' = (unsetOtherPrimaries rows customerId data.contactType).insert id
        (data.row now groupId customerId true)) ∨
    ((data.isPrimary = false ∧ hasUsablePrimary rows customerId data.contactType = true) ∧
      rows' = rows.insert id (data.row now groupId customerId false)) := by
  unfold createContact at h
  have hrows := flush_eq_ok h
  cases hprimary : data.isPrimary with
  | true =>
    left
    rw [hprimary] at hrows
    exact ⟨.inl rfl, hrows⟩
  | false =>
    rw [hprimary] at hrows
    cases hhas : hasUsablePrimary rows customerId data.contactType with
    | true =>
      right
      rw [hhas] at hrows
      exact ⟨⟨rfl, rfl⟩, hrows⟩
    | false =>
      left
      rw [hhas] at hrows
      exact ⟨.inr rfl, hrows⟩

omit [DecidableEq ν] in
theorem row_inGroup {isPrimary : Bool} :
    (data.row now groupId customerId isPrimary).inGroup customerId' typeValue' = true ↔
      customerId = customerId' ∧ data.contactType = typeValue' :=
  inGroup_iff

omit [DecidableEq ν] in
theorem insert_sameGroup (hfresh : rows.lookup id = none)
    (hne : ¬ (customerId' = customerId ∧ typeValue' = data.contactType)) (isPrimary : Bool) :
    SameGroup rows (rows.insert id (data.row now groupId customerId isPrimary)) customerId' typeValue' := by
  intro other flag usable
  rw [stands_insert hfresh]
  refine or_iff_right fun hnew => ?_
  obtain ⟨hcustomer, htype⟩ := row_inGroup.mp hnew.2.1
  exact hne ⟨hcustomer.symm, htype.symm⟩

theorem settled_create (hfresh : rows.lookup id = none)
    (hsettled : ∀ customerId' typeValue', Settled rows customerId' typeValue')
    (h : createContact table rows now groupId customerId id data = .ok rows') :
    Settled rows' customerId' typeValue' := by
  by_cases hsame : customerId' = customerId ∧ typeValue' = data.contactType
  · obtain ⟨rfl, rfl⟩ := hsame
    rcases create_cases h with ⟨-, rfl⟩ | ⟨⟨-, hhas⟩, rfl⟩
    · -- the new row is the only one with the flag
      have hstands : ∀ other usable, Stands ((unsetOtherPrimaries rows customerId'
          data.contactType).insert id (data.row now groupId customerId' true)) customerId'
          data.contactType other true usable → other = id ∧ usable = true := by
        intro other usable hother
        rcases (stands_insert (lookup_unset_none hfresh)).mp hother with ⟨rfl, -, -, husable⟩ | hold
        · exact ⟨rfl, husable.symm⟩
        · exact absurd (stands_unset.mp hold).2 (by decide)
      refine ⟨fun other hdead => ?_, fun _ => ⟨id, ?_, fun other hother => ?_⟩⟩
      · exact absurd (hstands other false hdead).2 (by decide)
      · exact (stands_insert (lookup_unset_none hfresh)).mpr
          (.inl ⟨rfl, row_inGroup.mpr ⟨rfl, rfl⟩, rfl, rfl⟩)
      · exact (hstands other true hother).1
    · -- the usable primary stays
      obtain ⟨primary, hprimary⟩ := hasUsablePrimary_iff.mp hhas
      have hstands : ∀ other usable, Stands (rows.insert id (data.row now groupId customerId' false))
          customerId' data.contactType other true usable ↔
          Stands rows customerId' data.contactType other true usable := by
        intro other usable
        rw [stands_insert hfresh]
        exact or_iff_right fun hnew => by cases hnew.2.2.1
      refine ⟨fun other hdead => (hsettled _ _).dead other ((hstands _ _).mp hdead), fun _ => ?_⟩
      refine ⟨primary, (hstands _ _).mpr hprimary, fun other hother => ?_⟩
      exact (hsettled _ _).primary_unique hprimary ((hstands _ _).mp hother)
  · rcases create_cases h with ⟨-, rfl⟩ | ⟨-, rfl⟩
    · exact (insert_sameGroup (lookup_unset_none hfresh) hsame true).settled
        ((unset_sameGroup hsame).settled (hsettled _ _))
    · exact (insert_sameGroup hfresh hsame false).settled (hsettled _ _)

theorem create_stands {other : Uuid} (hfresh : rows.lookup id = none)
    (h : createContact table rows now groupId customerId id data = .ok rows')
    (hother : Stands rows customerId' typeValue' other true true)
    (hnot : ¬ (data.isPrimary = true ∧ customerId' = customerId ∧ typeValue' = data.contactType)) :
    Stands rows' customerId' typeValue' other true true := by
  rcases create_cases h with ⟨hprimary, rfl⟩ | ⟨-, rfl⟩
  · refine (stands_insert (lookup_unset_none hfresh)).mpr (.inr ?_)
    by_cases hsame : customerId' = customerId ∧ typeValue' = data.contactType
    · obtain ⟨rfl, rfl⟩ := hsame
      rcases hprimary with hprimary | hnone
      · exact absurd ⟨hprimary, rfl, rfl⟩ hnot
      · rw [hasUsablePrimary_iff.mpr ⟨other, hother⟩] at hnone
        cases hnone
    · exact (unset_sameGroup hsame _ _ _).mpr hother
  · exact (stands_insert hfresh).mpr (.inr hother)

end Create

section Update

variable {table : ContactTable ν} {data : ContactUpdate τ ν} {loaded : ContactRow τ ν}

def ContactUpdate.newType (data : ContactUpdate τ ν) (row : ContactRow τ ν) : τ :=
  data.contactType.join.getD row.contactType

def ContactUpdate.groups (data : ContactUpdate τ ν) (row : ContactRow τ ν) : List τ :=
  if data.newType row ≠ row.contactType then [row.contactType, data.newType row]
  else if row.isUsableRow ≠ data.usableAfter row ∨ data.isPrimary.isSome then [data.newType row]
  else []

/-- What stands before the row is written: the others of its new group are unset only if the
request says it is the primary, and else a row that leaves may be demoted. -/
theorem prepare_cases {noun : String} {groups : List τ} {demoted : Bool}
    (h : preparePrimaryChange rows loaded data noun = .ok (groups, rows', demoted)) :
    groups = data.groups loaded ∧ ((data.isPrimary.join = some true ∧
        (rows' = rows ∨ rows' = unsetOtherPrimaries rows loaded.customerId (data.newType loaded))) ∨
      (data.isPrimary.join ≠ some true ∧ rows' = rows ∧
        demoted = (decide (data.newType loaded ≠ loaded.contactType) && loaded.isPrimary &&
          hasUsablePrimary rows loaded.customerId (data.newType loaded)))) := by
  simp only [preparePrimaryChange] at h
  split at h
  · next hprimary =>
    split at h
    · obtain ⟨hgroups, hrest⟩ := Prod.mk.inj (Except.ok.inj h)
      obtain ⟨hrows, -⟩ := Prod.mk.inj hrest
      exact ⟨hgroups.symm, .inl ⟨hprimary, .inr hrows.symm⟩⟩
    · obtain ⟨hgroups, hrest⟩ := Prod.mk.inj (Except.ok.inj h)
      obtain ⟨hrows, -⟩ := Prod.mk.inj hrest
      exact ⟨hgroups.symm, .inl ⟨hprimary, .inl hrows.symm⟩⟩
  · next hprimary =>
    split at h
    · cases h
    · obtain ⟨hgroups, hrest⟩ := Prod.mk.inj (Except.ok.inj h)
      obtain ⟨hrows, hdemoted⟩ := Prod.mk.inj hrest
      exact ⟨hgroups.symm, .inr ⟨hprimary, hrows.symm, hdemoted.symm⟩⟩

variable {f : ContactRow τ ν → ContactRow τ ν}

theorem stands_modify_ne {other : Uuid} (hne : other ≠ id) :
    Stands (rows.modify id f) customerId typeValue other flag usable ↔
      Stands rows customerId typeValue other flag usable := by
  unfold Stands
  rw [Table.lookup_modify_ne hne]

theorem modify_sameGroup
    (h : ∀ row, rows.lookup id = some row → row.inGroup customerId typeValue = false ∧
      (f row).inGroup customerId typeValue = false) :
    SameGroup rows (rows.modify id f) customerId typeValue := by
  intro other flag usable
  by_cases hother : other = id
  · subst hother
    refine iff_of_false ?_ ?_
    · rintro ⟨row', hrow', hin, -⟩
      rw [Table.lookup_modify_self, Option.map_eq_some_iff] at hrow'
      obtain ⟨row, hrow, rfl⟩ := hrow'
      rw [(h row hrow).2] at hin
      cases hin
    · rintro ⟨row, hrow, hin, -⟩
      rw [(h row hrow).1] at hin
      cases hin
  · exact stands_modify_ne hother

theorem modify_sameGroup_of_same (hrow : rows.lookup id = some loaded)
    (hgroup : (f loaded).inGroup customerId typeValue = loaded.inGroup customerId typeValue)
    (hflag : (f loaded).isPrimary = loaded.isPrimary)
    (husable : (f loaded).isUsableRow = loaded.isUsableRow) :
    SameGroup rows (rows.modify id f) customerId typeValue := by
  intro other flag usable
  by_cases hother : other = id
  · subst hother
    unfold Stands
    rw [Table.lookup_modify_self, hrow]
    constructor
    · rintro ⟨row', heq, hin, hp, hu⟩
      cases heq
      exact ⟨loaded, rfl, hgroup.symm.trans hin, hflag.symm.trans hp, husable.symm.trans hu⟩
    · rintro ⟨row, heq, hin, hp, hu⟩
      cases heq
      exact ⟨f loaded, rfl, hgroup.trans hin, hflag.trans hp, husable.trans hu⟩
  · exact stands_modify_ne hother

variable [DecidableEq ν]

theorem update_cases (h : updateContact table rows id loaded data = .ok rows') :
    ∃ before demoted, preparePrimaryChange rows loaded data table.noun =
        .ok (data.groups loaded, before, demoted) ∧ data.hasNull = false ∧
      rows' = (data.groups loaded).foldl (fixupSinglePrimary loaded.customerId)
        (before.modify id (data.write demoted loaded)) := by
  obtain ⟨⟨groups, before, demoted⟩, hprepare, h⟩ := Result.of_bind h
  obtain ⟨rfl, -⟩ := prepare_cases hprepare
  refine ⟨before, demoted, hprepare, ?_⟩
  simp only at h
  split at h
  · cases h
  · next hnull =>
    split at h
    · cases h
    · obtain ⟨rows₂, hflush, h⟩ := Result.of_bind h
      obtain rfl := flush_eq_ok hflush
      exact ⟨by simpa using hnull, (Except.ok.inj h).symm⟩

theorem write_type (data : ContactUpdate τ ν) (demoted : Bool) (stored : ContactRow τ ν)
    (htype : stored.contactType = loaded.contactType) :
    (data.write demoted loaded stored).contactType = data.newType loaded := by
  unfold ContactUpdate.write ContactUpdate.newType
  dsimp only
  rw [htype, setColumn_same]

theorem write_usable (demoted : Bool) (hnull : data.hasNull = false) :
    (data.write demoted loaded loaded).isUsableRow = data.usableAfter loaded := by
  unfold ContactUpdate.write ContactRow.isUsableRow ContactUpdate.usableAfter
  dsimp only
  rw [setColumn_same, setColumn_same]
  simp only [ContactUpdate.hasNull, Bool.or_eq_false_iff] at hnull
  cases hmark : data.doNotUse with
  | none => rfl
  | some mark =>
    cases mark with
    | none =>
      rw [hmark] at hnull
      exact absurd hnull.2 (by decide)
    | some flag => rfl

theorem update_sameGroup {before : Table Uuid (ContactRow τ ν)} {demoted : Bool}
    (hrow : rows.lookup id = some loaded) (hnull : data.hasNull = false)
    (hprepare : preparePrimaryChange rows loaded data table.noun =
      .ok (data.groups loaded, before, demoted))
    (hnot : ¬ (customerId' = loaded.customerId ∧ typeValue' ∈ data.groups loaded)) :
    SameGroup rows (before.modify id (data.write demoted loaded)) customerId' typeValue' := by
  obtain ⟨-, hcases⟩ := prepare_cases hprepare
  by_cases hgroups : data.groups loaded = []
  · -- neither the type nor the usability changes, and nothing is said of the flag
    unfold ContactUpdate.groups at hgroups
    split at hgroups
    · cases hgroups
    · next hmoves =>
      have hmoves : data.newType loaded = loaded.contactType := not_not.mp hmoves
      split at hgroups
      · cases hgroups
      · next hquiet =>
        obtain ⟨husable, hsaid⟩ := not_or.mp hquiet
        have hsaid : data.isPrimary = none := by simpa using hsaid
        rw [hsaid] at hcases
        obtain ⟨-, rfl, rfl⟩ := hcases.resolve_left fun hyes => by cases hyes.1
        have htype := write_type data (decide (data.newType loaded ≠ loaded.contactType) &&
          loaded.isPrimary && hasUsablePrimary before loaded.customerId (data.newType loaded)) loaded rfl
        refine modify_sameGroup_of_same hrow ?_ ?_ ?_
        · unfold ContactRow.inGroup
          rw [htype, hmoves]
          rfl
        · unfold ContactUpdate.write
          dsimp only
          rw [hsaid, hmoves, setColumn_same]
          simp
        · rw [write_usable _ hnull]
          exact (not_not.mp husable).symm
  · have hold : customerId' = loaded.customerId → typeValue' ≠ loaded.contactType ∧
        typeValue' ≠ data.newType loaded := by
      intro hcustomer
      have hmem : typeValue' ∉ data.groups loaded := fun hmem => hnot ⟨hcustomer, hmem⟩
      unfold ContactUpdate.groups at hmem hgroups
      split at hmem
      · simpa using hmem
      · next hmoves =>
        have hmoves : data.newType loaded = loaded.contactType := not_not.mp hmoves
        rw [if_neg (not_not.mpr hmoves)] at hgroups
        split at hmem
        · have hne : typeValue' ≠ data.newType loaded := by simpa using hmem
          exact ⟨hmoves ▸ hne, hne⟩
        · next hquiet => exact absurd (if_neg hquiet) hgroups
    have hbefore : SameGroup rows before customerId' typeValue' := by
      rcases hcases with ⟨-, rfl | rfl⟩ | ⟨-, rfl, -⟩
      · exact .refl _ _ _
      · exact unset_sameGroup fun hsame => (hold hsame.1).2 hsame.2
      · exact .refl _ _ _
    have hflags : FlagsOnly rows before := preparePrimaryChange_eq_ok hprepare
    refine fun other flag usable => (modify_sameGroup (fun row hstored => ?_) other flag usable).trans
      (hbefore other flag usable)
    -- the row has its customer and its type whatever its flag is
    obtain ⟨row', hrow', hsame⟩ := hflags.lookup hrow
    rw [hstored] at hrow'
    cases hrow'
    have hcustomer : row.customerId = loaded.customerId := (unflagged_eq hsame).1
    have htype := unflagged_type hsame
    have hnew := write_type data demoted row htype
    constructor
    · rw [Bool.eq_false_iff]
      intro hin
      obtain ⟨hc, ht⟩ := inGroup_iff.mp hin
      exact (hold (hc.symm.trans hcustomer)).1 (ht.symm.trans htype)
    · rw [Bool.eq_false_iff]
      intro hin
      obtain ⟨hc, ht⟩ := inGroup_iff.mp hin
      exact (hold (hc.symm.trans hcustomer)).2 (ht.symm.trans hnew)

theorem settled_update (hrow : rows.lookup id = some loaded)
    (hsettled : ∀ customerId' typeValue', Settled rows customerId' typeValue')
    (h : updateContact table rows id loaded data = .ok rows') :
    Settled rows' customerId' typeValue' := by
  obtain ⟨before, demoted, hprepare, hnull, rfl⟩ := update_cases h
  refine settled_groups ?_
  by_cases hgroup : customerId' = loaded.customerId ∧ typeValue' ∈ data.groups loaded
  · exact .inl hgroup
  · exact .inr ((update_sameGroup hrow hnull hprepare hgroup).settled (hsettled _ _))

/-- **A usable primary stays** unless it is the row written, or the request says that this one is
to be the primary of its group. -/
theorem update_stands {other : Uuid} (hrow : rows.lookup id = some loaded)
    (hsettled : ∀ customerId' typeValue', Settled rows customerId' typeValue')
    (h : updateContact table rows id loaded data = .ok rows') (hne : other ≠ id)
    (hother : Stands rows customerId' typeValue' other true true)
    (hnot : ¬ (data.isPrimary.join = some true ∧ customerId' = loaded.customerId ∧
      typeValue' = data.newType loaded)) : Stands rows' customerId' typeValue' other true true := by
  obtain ⟨before, demoted, hprepare, -, rfl⟩ := update_cases h
  obtain ⟨-, hcases⟩ := prepare_cases hprepare
  have hbefore : SameGroup rows before customerId' typeValue' := by
    rcases hcases with ⟨hsaid, rfl | rfl⟩ | ⟨-, rfl, -⟩
    · exact .refl _ _ _
    · exact unset_sameGroup fun hsame => hnot ⟨hsaid, hsame⟩
    · exact .refl _ _ _
  refine groups_stands ((stands_modify_ne hne).mpr ((hbefore _ _ _).mpr hother)) fun rival hrival => ?_
  by_cases hid : rival = id
  · -- the row written is no rival: it does not say so, and if it joins the group it is demoted
    subst hid
    exfalso
    obtain ⟨written, hwritten, hin, hflag, -⟩ := hrival
    rw [Table.lookup_modify_self, Option.map_eq_some_iff] at hwritten
    obtain ⟨stored, hstored, rfl⟩ := hwritten
    obtain ⟨row', hrow', hsame⟩ := (preparePrimaryChange_eq_ok hprepare).lookup hrow
    rw [hstored] at hrow'
    cases hrow'
    obtain ⟨hjoins, hnew⟩ := inGroup_iff.mp hin
    have hcustomer : loaded.customerId = customerId' := (unflagged_eq hsame).1.symm.trans hjoins
    rw [write_type data demoted stored (unflagged_type hsame)] at hnew
    rcases hcases with ⟨hsaid, -⟩ | ⟨hsaid, rfl, rfl⟩
    · exact hnot ⟨hsaid, hcustomer.symm, hnew.symm⟩
    · rw [hrow] at hstored
      cases hstored
      have hhas : hasUsablePrimary before loaded.customerId (data.newType loaded) = true := by
        rw [hcustomer, hnew]
        exact hasUsablePrimary_iff.mpr ⟨other, hother⟩
      unfold ContactUpdate.write at hflag
      dsimp only at hflag
      rw [hhas, setColumn_same] at hflag
      cases hbody : data.isPrimary.join with
      | some value =>
        rw [hbody] at hflag hsaid
        cases value with
        | true => exact hsaid rfl
        | false => cases hflag
      | none =>
        rw [hbody] at hflag
        by_cases hmoves : data.newType loaded = loaded.contactType
        · -- two primaries of one group
          have hprimary : loaded.isPrimary = true := by
            rw [hmoves] at hflag
            simpa using hflag
          have hstands : Stands before customerId' typeValue' rival true loaded.isUsableRow :=
            ⟨loaded, hrow, inGroup_iff.mpr ⟨hcustomer, hmoves.symm.trans hnew⟩, hprimary, rfl⟩
          exact hne ((hsettled _ _).primary_unique hstands hother)
        · cases hprimary : loaded.isPrimary with
          | true =>
            rw [hprimary, decide_eq_true hmoves] at hflag
            cases hflag
          | false =>
            rw [hprimary] at hflag
            simp at hflag
  · exact (hsettled _ _).primary_unique hother ((hbefore _ _ _).mp ((stands_modify_ne hid).mp hrival))

end Update

section Delete

variable {loaded : ContactRow τ ν} {other : Uuid}

theorem stands_erase (h : Stands (rows.erase id) customerId typeValue other flag usable) :
    other ≠ id ∧ Stands rows customerId typeValue other flag usable := by
  obtain ⟨row, hrow, hin, hflag, husable⟩ := h
  have hne : other ≠ id := by
    rintro rfl
    rw [AList.lookup_erase] at hrow
    cases hrow
  rw [AList.lookup_erase_ne hne] at hrow
  exact ⟨hne, row, hrow, hin, hflag, husable⟩

theorem stands_erase_ne (hne : other ≠ id) (h : Stands rows customerId typeValue other flag usable) :
    Stands (rows.erase id) customerId typeValue other flag usable := by
  obtain ⟨row, hrow, hin, hflag, husable⟩ := h
  exact ⟨row, (AList.lookup_erase_ne hne).trans hrow, hin, hflag, husable⟩

theorem settled_delete (hrow : rows.lookup id = some loaded)
    (hsettled : ∀ customerId' typeValue', Settled rows customerId' typeValue') :
    Settled (deleteContact rows id loaded) customerId' typeValue' := by
  have hgroups : Settled ([loaded.contactType].foldl (fixupSinglePrimary loaded.customerId)
      (rows.erase id)) customerId' typeValue' := by
    refine settled_groups ?_
    by_cases hgroup : customerId' = loaded.customerId ∧ typeValue' ∈ [loaded.contactType]
    · exact .inl hgroup
    · refine .inr (SameGroup.settled (fun other flag usable => ?_) (hsettled _ _))
      refine ⟨fun h => (stands_erase h).2, fun h => stands_erase_ne ?_ h⟩
      rintro rfl
      obtain ⟨row, hrow', hin, -⟩ := h
      rw [hrow] at hrow'
      cases hrow'
      obtain ⟨hcustomer, htype⟩ := inGroup_iff.mp hin
      exact hgroup ⟨hcustomer.symm, List.mem_singleton.mpr htype.symm⟩
  exact hgroups

theorem delete_stands (hsettled : ∀ customerId' typeValue', Settled rows customerId' typeValue')
    (hne : other ≠ id) (hother : Stands rows customerId' typeValue' other true true) :
    Stands (deleteContact rows id loaded) customerId' typeValue' other true true := by
  have hgroups : Stands ([loaded.contactType].foldl (fixupSinglePrimary loaded.customerId)
      (rows.erase id)) customerId' typeValue' other true true :=
    groups_stands (stands_erase_ne hne hother) fun rival hrival =>
      (hsettled _ _).primary_unique hother (stands_erase hrival).2
  exact hgroups

end Delete

section Merge

variable {κ : Type} [DecidableEq κ] [DecidableEq ν] {key : ContactRow τ ν → κ}
  {table : ContactTable ν} {duplicateId targetId : Uuid}

omit [DecidableEq ν] in
theorem stands_repointed
    (h : Stands (repointRows targetId (mergePlan key duplicateId targetId rows) rows) customerId
      typeValue id flag usable) :
    (customerId ≠ duplicateId ∧ Stands rows customerId typeValue id flag usable) ∨
      customerId = targetId ∧ (mergePlan key duplicateId targetId rows).any (·.2 = .move) = true := by
  obtain ⟨row, hrow, hin, hflag, husable⟩ := h
  obtain ⟨rfl, htype⟩ := inGroup_iff.mp hin
  rcases repointed_origin hrow with ⟨hbefore, hother⟩ | ⟨own, hown, hof, hgoes, rfl⟩
  · exact .inl ⟨hother, row, hbefore, hin, hflag, husable⟩
  · refine .inr ⟨rfl, List.any_eq_true.mpr ⟨(id, .move), ?_, decide_eq_true rfl⟩⟩
    have hplan := (mergePlan_lookup hof hown).1 hgoes
    obtain ⟨l₁, l₂, hsplit, -⟩ := List.lookup_eq_some_iff.mp hplan
    rw [hsplit]
    exact List.mem_append_right _ List.mem_cons_self

omit [DecidableEq ν] in
theorem stands_repointed_of (hne : customerId ≠ duplicateId)
    (h : Stands rows customerId typeValue id flag usable) :
    Stands (repointRows targetId (mergePlan key duplicateId targetId rows) rows) customerId typeValue
      id flag usable := by
  obtain ⟨row, hrow, hin, hflag, husable⟩ := h
  have hother : row.customerId ≠ duplicateId := by
    rw [(inGroup_iff.mp hin).1]
    exact hne
  exact ⟨row, repointed_other hother hrow, hin, hflag, husable⟩

theorem settled_repoint (hne : duplicateId ≠ targetId)
    (hsettled : ∀ customerId' typeValue', Settled rows customerId' typeValue')
    (h : repointContacts table key duplicateId targetId rows = .ok rows') :
    Settled rows' customerId' typeValue' := by
  have hrows : rows' = settleTarget targetId (mergePlan key duplicateId targetId rows)
      (repointRows targetId (mergePlan key duplicateId targetId rows) rows) := by
    unfold repointContacts flushPlan at h
    split at h
    · cases h
    · obtain ⟨rows₁, hflush, h⟩ := Result.of_bind h
      obtain rfl := flush_eq_ok hflush
      exact (Except.ok.inj h).symm
  -- a group of anyone but the survivor, or of a survivor to whom no row has moved
  have hquiet : customerId' ≠ targetId ∨
      (mergePlan key duplicateId targetId rows).any (·.2 = .move) = false →
      Settled (repointRows targetId (mergePlan key duplicateId targetId rows) rows) customerId'
        typeValue' := by
    intro hquiet
    have hold : ∀ id flag usable,
        Stands (repointRows targetId (mergePlan key duplicateId targetId rows) rows) customerId'
          typeValue' id flag usable →
        customerId' ≠ duplicateId ∧ Stands rows customerId' typeValue' id flag usable := by
      intro id flag usable hstands
      rcases stands_repointed hstands with hold | ⟨htarget, hmove⟩
      · exact hold
      · rcases hquiet with hother | hnone
        · exact absurd htarget hother
        · rw [hnone] at hmove
          cases hmove
    by_cases hof : customerId' = duplicateId
    · exact settled_of_empty fun id flag usable hstands => (hold id flag usable hstands).1 hof
    · exact SameGroup.settled
        (fun id flag usable => ⟨fun h => (hold id flag usable h).2, stands_repointed_of hof⟩)
        (hsettled _ _)
  rw [hrows, settleTarget]
  split
  · refine settled_groups ?_
    by_cases htarget : customerId' = targetId
    · subst htarget
      by_cases hmem : typeValue' ∈ ((rowsOf (repointRows customerId'
          (mergePlan key duplicateId customerId' rows) rows) customerId').map (·.2.contactType)).dedup
      · exact .inl ⟨rfl, hmem⟩
      · refine .inr (settled_of_empty ?_)
        rintro id flag usable ⟨row, hrow, hin, -⟩
        obtain ⟨hof, htype⟩ := inGroup_iff.mp hin
        refine hmem (List.mem_dedup.mpr (List.mem_map.mpr ⟨(id, row), mem_rowsOf.mpr ⟨hrow, hof⟩, htype⟩))
    · exact .inr (hquiet (.inl htarget))
  · next hnone => exact hquiet (.inr (Bool.eq_false_iff.mpr hnone))

end Merge

end

end Nexotec.Contacts
