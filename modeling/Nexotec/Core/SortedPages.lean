/-
Sorted keyset pagination is complete where its cursors are.

Following the cursors of `paginate_query_sorted` and `build_sorted_page` reads every
selected row exactly once, in the requested order with NULLs last and ties by id —
unless a page ends in a row whose sort values cannot be put in a cursor, or cannot
be compared with: `_serialize_sort_value` raises on a `Decimal` and on a plain date,
and the query builder refuses `column < True`.
-/
import Mathlib.Data.Prod.Lex
import Mathlib.Data.String.Basic
import Mathlib.Logic.Equiv.Nat
import Nexotec.Core.Pagination

namespace Nexotec.Pagination

open Sql Keyset

section

variable {ρ : Type} [LinearOrder SortValue] (id : ρ → Uuid)

/-! ### The order asked for -/

/-- One value comes before another in the direction of the field; NULL comes last. -/
def SortField.Before (field : SortField ρ) : Option SortValue → Option SortValue → Prop
  | none, _ => False
  | some _, none => True
  | some x, some y =>
    match field.direction with
    | .asc => x < y
    | .desc => y < x

/-- **The requested order**: the first field that differs decides, then the id. -/
def Precedes : List (SortField ρ) → ρ → ρ → Prop
  | [], a, b => SortValue.uuid (id a) < SortValue.uuid (id b)
  | field :: rest, a, b =>
    field.Before (field.column a) (field.column b) ∨
      field.column a = field.column b ∧ Precedes rest a b

variable {a b : ρ}

theorem SortField.orderTerm_eq_lt {field : SortField ρ} :
    field.orderTerm a b = .lt ↔ field.Before (field.column a) (field.column b) := by
  unfold orderTerm Before
  cases field.direction <;> cases field.column a <;> cases field.column b <;>
    simp [nullsLast, Sql.asc, Sql.desc, compare_lt_iff_lt]

theorem SortField.orderTerm_eq_eq {field : SortField ρ} :
    field.orderTerm a b = .eq ↔ field.column a = field.column b := by
  unfold orderTerm
  cases field.direction with
  | asc =>
    cases field.column a <;> cases field.column b <;>
      simp [nullsLast, Sql.asc]
  | desc =>
    rw [eq_comm (a := field.column a)]
    cases field.column a <;> cases field.column b <;>
      simp [nullsLast, Sql.desc]

theorem compareBy_cons (field : SortField ρ) (rest : List (SortField ρ)) (a b : ρ) :
    Select.compareBy (orderTerms id (field :: rest)) a b =
      (field.orderTerm a b).then (Select.compareBy (orderTerms id rest) a b) := rfl

theorem compareBy_nil (a b : ρ) : Select.compareBy (orderTerms id ([] : List (SortField ρ))) a b =
      (compare (SortValue.uuid (id a)) (SortValue.uuid (id b))).then .eq := rfl

/-- The order terms are the order asked for. -/
theorem compareBy_eq_lt {fields : List (SortField ρ)} :
    Select.compareBy (orderTerms id fields) a b = .lt ↔ Precedes id fields a b := by
  induction fields with
  | nil => simp [compareBy_nil, Precedes, compare_lt_iff_lt]
  | cons field rest ih =>
    rw [compareBy_cons, Ordering.then_eq_lt, SortField.orderTerm_eq_lt,
      SortField.orderTerm_eq_eq, ih]
    rfl

theorem id_eq_of_compareBy_eq {fields : List (SortField ρ)}
    (heq : Select.compareBy (orderTerms id fields) a b = .eq) : id a = id b := by
  induction fields with
  | nil =>
    rw [compareBy_nil, Ordering.then_eq_eq, compare_eq_iff_eq] at heq
    exact SortValue.uuid.inj heq.1
  | cons field rest ih =>
    rw [compareBy_cons, Ordering.then_eq_eq] at heq
    exact ih heq.2

theorem transCmp_orderTerms (fields : List (SortField ρ)) :
    ∀ term ∈ orderTerms id fields, Std.TransCmp term := by
  intro term hterm
  rcases List.mem_append.mp hterm with hterm | hterm
  · obtain ⟨field, -, rfl⟩ := List.mem_map.mp hterm
    cases hdir : field.direction with
    | asc =>
      have heq : field.orderTerm =
          fun a b => nullsLast Sql.asc (field.column a) (field.column b) := by
        funext a b
        simp only [SortField.orderTerm, hdir]
      rw [heq]
      exact transCmp_column inferInstance field.column
    | desc =>
      have heq : field.orderTerm =
          fun a b => nullsLast Sql.desc (field.column a) (field.column b) := by
        funext a b
        simp only [SortField.orderTerm, hdir]
      rw [heq]
      exact transCmp_column inferInstance field.column
  · rw [List.mem_singleton.mp hterm]
    exact transCmp_column inferInstance (idColumn id)

end

section

variable {ρ : Type} [LinearOrder SortValue] (lib : Libraries) (id : ρ → Uuid)

/-! ### The predicate "after this row" -/

variable {cs ds : List (ρ → Truth)} {row : ρ}

omit [LinearOrder SortValue] in
theorem allOf_append_eq_true :
    allOf (cs ++ ds) row = some true ↔ allOf cs row = some true ∧ allOf ds row = some true := by
  simp only [allOf, conj_eq_true, List.map_append, List.mem_append, or_imp, forall_and]

omit [LinearOrder SortValue] in
theorem anyOf_append_eq_true :
    anyOf (cs ++ ds) row = some true ↔ anyOf cs row = some true ∨ anyOf ds row = some true := by
  simp only [anyOf, disj_eq_true, List.map_append, List.mem_append, or_and_right, exists_or]

variable {c : ρ → Truth}

omit [LinearOrder SortValue] in
@[simp] theorem allOf_singleton : allOf [c] row = some true ↔ c row = some true := by
  simp [allOf, conj_eq_true]

omit [LinearOrder SortValue] in
@[simp] theorem anyOf_singleton : anyOf [c] row = some true ↔ c row = some true := by
  simp only [anyOf, disj_eq_true, List.map_cons, List.map_nil, List.mem_singleton, exists_eq_left]

theorem strictlyAfter_spec (field : SortField ρ) {value : SortValue}
    (horders : lib.orders (some value) = true) :
    ∃ after, strictlyAfter lib field value = .ok after ∧
      ∀ row, after row = some true ↔ field.Before (some value) (field.column row) := by
  unfold strictlyAfter
  rw [if_pos horders]
  cases hdir : field.direction with
  | asc =>
    refine ⟨_, rfl, fun row => ?_⟩
    rw [Truth.or_eq_true, isNull_eq_true, gt_eq_true]
    cases field.column row <;> simp [SortField.Before, hdir]
  | desc =>
    refine ⟨_, rfl, fun row => ?_⟩
    rw [Truth.or_eq_true, isNull_eq_true, lt_eq_true]
    cases field.column row <;> simp [SortField.Before, hdir]

theorem strictlyAfter_error (field : SortField ρ) {value : SortValue}
    (horders : lib.orders (some value) = false) :
    ∃ e, strictlyAfter lib field value = .error e := by
  unfold strictlyAfter
  rw [if_neg (by simp [horders])]
  exact ⟨_, rfl⟩

/-- The last conjunct: the same on every field, and a greater id. -/
def afterId (c row : ρ) : Truth := Sql.gt (idColumn id row) (.uuid (id c))

theorem afterId_eq_true {c : ρ} : afterId id c row = some true ↔ Precedes id [] c row := by
  simp [afterId, idColumn, Precedes]

/-- **The generated disjunction is "after this row"**: on top of what the clauses
before say, and where the fields before are equal. -/
theorem keysetClauses_spec (c : ρ) :
    ∀ (fields : List (SortField ρ)) (clauses equalSoFar : List (ρ → Truth)),
      (∀ field ∈ fields, ∀ v, field.column c = some v → lib.orders (some v) = true) →
      ∃ clauses' equalSoFar',
        keysetClauses lib (fields.map fun field => (field, field.column c)) clauses equalSoFar =
          .ok (clauses', equalSoFar') ∧
        ∀ row, anyOf (clauses' ++ [allOf (equalSoFar' ++ [afterId id c])]) row = some true ↔
          anyOf clauses row = some true ∨
            allOf equalSoFar row = some true ∧ Precedes id fields c row := by
  intro fields
  induction fields with
  | nil =>
    intro clauses equalSoFar _
    refine ⟨clauses, equalSoFar, rfl, fun row => ?_⟩
    rw [anyOf_append_eq_true, anyOf_singleton, allOf_append_eq_true, allOf_singleton,
      afterId_eq_true]
  | cons field rest ih =>
    intro clauses equalSoFar horders
    have hrest := fun f hf => horders f (List.mem_cons_of_mem field hf)
    cases hvalue : field.column c with
    | none =>
      -- nothing comes after NULL on this field: the later ones decide
      obtain ⟨clauses', equal', hok, hspec⟩ :=
        ih clauses (equalSoFar ++ [fun row => isNull (field.column row)]) hrest
      refine ⟨clauses', equal', by rw [List.map_cons, hvalue]; exact hok, fun row => ?_⟩
      rw [hspec row, allOf_append_eq_true, allOf_singleton, isNull_eq_true]
      simp only [Precedes, hvalue, SortField.Before, false_or, and_assoc, eq_comm (a := none)]
    | some v =>
      obtain ⟨after, hafter, hspecAfter⟩ :=
        strictlyAfter_spec lib field (horders field (List.mem_cons_self ..) v hvalue)
      obtain ⟨clauses', equal', hok, hspec⟩ := ih (clauses ++ [allOf (equalSoFar ++ [after])])
        (equalSoFar ++ [fun row => Sql.eq (field.column row) v]) hrest
      refine ⟨clauses', equal', ?_, fun row => ?_⟩
      · rw [List.map_cons, hvalue]
        exact Result.bind_eq_ok.mpr ⟨after, hafter, hok⟩
      · rw [hspec row, anyOf_append_eq_true, anyOf_singleton, allOf_append_eq_true,
          allOf_singleton, hspecAfter row, allOf_append_eq_true, allOf_singleton, eq_eq_true]
        simp only [Precedes, hvalue, eq_comm (a := some v)]
        tauto

theorem keysetClauses_error (c : ρ) :
    ∀ (fields : List (SortField ρ)) (clauses equalSoFar : List (ρ → Truth)),
      (∃ field ∈ fields, ∃ v, field.column c = some v ∧ lib.orders (some v) = false) →
      ∃ e, keysetClauses lib (fields.map fun field => (field, field.column c)) clauses
        equalSoFar = .error e := by
  intro fields
  induction fields with
  | nil => rintro clauses equalSoFar ⟨field, hmem, _⟩; cases hmem
  | cons field rest ih =>
    rintro clauses equalSoFar ⟨bad, hmem, v, hv, hrefused⟩
    rw [List.map_cons]
    cases hvalue : field.column c with
    | none =>
      rcases List.mem_cons.mp hmem with rfl | hmem
      · rw [hvalue] at hv; cases hv
      · exact ih _ _ ⟨bad, hmem, v, hv, hrefused⟩
    | some w =>
      by_cases hw : lib.orders (some w) = true
      · obtain ⟨after, hafter, -⟩ := strictlyAfter_spec lib field hw
        rcases List.mem_cons.mp hmem with rfl | hmem
        · rw [hvalue] at hv
          cases hv
          rw [hw] at hrefused
          cases hrefused
        · obtain ⟨e, he⟩ := ih (clauses ++ [allOf (equalSoFar ++ [after])])
            (equalSoFar ++ [fun row => Sql.eq (field.column row) w]) ⟨bad, hmem, v, hv, hrefused⟩
          refine ⟨e, ?_⟩
          simp only [keysetClauses, hafter]
          exact he
      · obtain ⟨e, he⟩ := strictlyAfter_error lib field (by simpa using hw)
        exact ⟨e, by simp only [keysetClauses, he]; rfl⟩

end

section

variable (lib : Libraries)

/-! ### Cursors there and back -/

/-- `_serialize_sort_value` has a tag for the value: it is neither a decimal nor a
plain date. -/
def serializes : Option SortValue → Bool
  | some (.decimal _) => false
  | some (.date _) => false
  | _ => true

theorem serializeSortValue_spec {value : Option SortValue} (h : serializes value = true) :
    ∃ tagged, serializeSortValue lib value = .ok tagged ∧
      deserializeSortValue lib tagged = .ok value := by
  match value, h with
  | none, _ => exact ⟨_, rfl, by simp [deserializeSortValue]⟩
  | some (.datetime t), _ =>
    exact ⟨_, rfl, by simp [deserializeSortValue, lib.fromisoformat_isoformat]⟩
  | some (.uuid u), _ => exact ⟨_, rfl, by simp [deserializeSortValue, lib.parseUuid_uuidText]⟩
  | some (.bool b), _ => exact ⟨_, rfl, by simp [deserializeSortValue, Json.toValue]⟩
  | some (.int n), _ => exact ⟨_, rfl, by simp [deserializeSortValue, Json.toValue]⟩
  | some (.str s), _ => exact ⟨_, rfl, by simp [deserializeSortValue, Json.toValue]⟩

theorem serializeSortValue_error {value : Option SortValue} (h : serializes value = false) :
    ∃ e, serializeSortValue lib value = .error e := by
  match value, h with
  | some (.decimal q), _ => exact ⟨_, rfl⟩
  | some (.date d), _ => exact ⟨_, rfl⟩

theorem mapM_serialize_spec {values : List (Option SortValue)}
    (h : ∀ v ∈ values, serializes v = true) :
    ∃ items, values.mapM (serializeSortValue lib) = .ok items ∧
      items.mapM (deserializeSortValue lib) = .ok values := by
  induction values with
  | nil => exact ⟨[], rfl, rfl⟩
  | cons v rest ih =>
    obtain ⟨tagged, hto, hback⟩ := serializeSortValue_spec lib (h v (List.mem_cons_self ..))
    obtain ⟨items, hitems, hvalues⟩ := ih fun w hw => h w (List.mem_cons_of_mem v hw)
    refine ⟨tagged :: items, ?_, ?_⟩
    · rw [List.mapM_cons, hto, hitems]; rfl
    · rw [List.mapM_cons, hback, hvalues]; rfl

theorem mapM_serialize_error {values : List (Option SortValue)}
    (h : ∃ v ∈ values, serializes v = false) :
    ∃ e, values.mapM (serializeSortValue lib) = .error e := by
  induction values with
  | nil => obtain ⟨v, hv, _⟩ := h; cases hv
  | cons v rest ih =>
    rw [List.mapM_cons]
    cases hv : serializeSortValue lib v with
    | error e => exact ⟨e, rfl⟩
    | ok tagged =>
      have hrest : ∃ w ∈ rest, serializes w = false := by
        obtain ⟨w, hw, hbad⟩ := h
        rcases List.mem_cons.mp hw with rfl | hw
        · obtain ⟨e, he⟩ := serializeSortValue_error lib hbad
          rw [hv] at he
          cases he
        · exact ⟨w, hw, hbad⟩
      obtain ⟨e, he⟩ := ih hrest
      exact ⟨e, by rw [he]; rfl⟩

theorem encodeSortCursor_spec (values : List (Option SortValue)) (id : Uuid)
    (h : ∀ v ∈ values, serializes v = true) :
    ∃ cursor, encodeSortCursor lib values id = .ok cursor ∧
      decodeSortCursor lib cursor = .ok ⟨values, some (.uuid id)⟩ := by
  obtain ⟨items, hitems, hvalues⟩ := mapM_serialize_spec lib h
  refine ⟨items ++ [⟨"uuid", .text (lib.uuidText id)⟩], ?_, ?_⟩
  · rw [encodeSortCursor, hitems]; rfl
  · have hid : deserializeSortValue lib ⟨"uuid", .text (lib.uuidText id)⟩ =
        .ok (some (.uuid id)) := by
      simp [deserializeSortValue, lib.parseUuid_uuidText]
    rw [decodeSortCursor, List.getLast?_concat, List.dropLast_concat]
    simp only [hvalues, hid]
    rfl

theorem encodeSortCursor_error (values : List (Option SortValue)) (id : Uuid)
    (h : ∃ v ∈ values, serializes v = false) : ∃ e, encodeSortCursor lib values id = .error e := by
  obtain ⟨e, he⟩ := mapM_serialize_error lib h
  exact ⟨e, by rw [encodeSortCursor, he]; rfl⟩

end

section

variable {ρ : Type} [LinearOrder SortValue] (lib : Libraries) (id : ρ → Uuid)

/-! ### One request -/

/-- The row can end a page: every sort value of it has a tag, and can be compared
with. -/
def Passes (fields : List (SortField ρ)) (row : ρ) : Prop :=
  ∀ field ∈ fields, serializes (field.column row) = true ∧
    ∀ v, field.column row = some v → lib.orders (some v) = true

variable {rows : List ρ}

omit [LinearOrder SortValue] in
theorem buildSortedPage_last {params : SortPageParams ρ} (hshort : rows.length ≤ params.limit) :
    buildSortedPage lib id rows params = .ok (rows, none) := by
  have htake : rows.take params.limit = rows := List.take_of_length_le hshort
  unfold buildSortedPage
  simp only [htake, if_neg (not_lt.mpr hshort)]
  cases rows.getLast? <;> rfl

omit [LinearOrder SortValue] in
theorem buildSortedPage_more {params : SortPageParams ρ} {row : ρ}
    (hlong : params.limit < rows.length) (hrow : rows[params.limit - 1]? = some row)
    (hlimit : 0 < params.limit) : buildSortedPage lib id rows params =
      (encodeSortCursor lib (params.sortFields.map fun field => field.column row) (id row)).map
        fun cursor => (rows.take params.limit, some cursor) := by
  have hlast : (rows.take params.limit).getLast? = some row := by
    rw [List.getLast?_eq_getElem?, List.length_take, min_eq_left (le_of_lt hlong),
      List.getElem?_take_of_lt (by omega), hrow]
  unfold buildSortedPage
  simp only [hlast, if_pos hlong]
  rfl

variable {table : List ρ} {criteria : List (ρ → Truth)} {fields : List (SortField ρ)}

/-- The statement of a list endpoint: its own conditions, no order and no limit. -/
def statement (criteria : List (ρ → Truth)) : Select ρ := ⟨criteria, [], none⟩

theorem transCmp_statement :
    ∀ term ∈ ((statement criteria).orderBy (orderTerms id fields)).order, Std.TransCmp term :=
  transCmp_orderTerms id fields

theorem separates_of_nodup (hids : (table.map id).Nodup) :
    Select.Separates (orderTerms id fields) table := fun _ ha _ hb heq =>
  List.inj_on_of_nodup_map hids ha hb (id_eq_of_compareBy_eq id heq)

theorem unpaged_ordered (hids : (table.map id).Nodup) :
    (unpaged id table (statement criteria) fields).Pairwise (Precedes id fields) := by
  have hstrict := Select.strict_run (q := (statement criteria).orderBy (orderTerms id fields))
    rfl (transCmp_statement id) (List.Nodup.of_map id hids) (separates_of_nodup id hids)
  exact hstrict.imp fun hlt => (compareBy_eq_lt id).mp hlt

theorem unpaged_perm : (unpaged id table (statement criteria) fields).Perm
      (table.filter (statement criteria).selects) :=
  Select.perm_run rfl table

variable {rest : List ρ} {c : ρ}

theorem run_after (hids : (table.map id).Nodup) {pre : List ρ}
    (hsplit : unpaged id table (statement criteria) fields = pre ++ c :: rest)
    {condition : ρ → Truth}
    (hcondition : ∀ row, condition row = some true ↔ Precedes id fields c row) (n : ℕ) :
    ((((statement criteria).orderBy (orderTerms id fields)).where_ condition).limitTo n).run
      table = rest.take n := by
  have hfilter := Select.run_where (q := (statement criteria).orderBy (orderTerms id fields))
    rfl (transCmp_statement id) (separates_of_nodup id hids) condition
  have hcmp : ∀ row, decide (condition row = some true) =
      decide (Select.compareBy (orderTerms id fields) c row = .lt) := fun row => by
    rw [decide_eq_decide, hcondition row, compareBy_eq_lt]
  have hafter : (unpaged id table (statement criteria) fields).filter
      (fun row => decide (condition row = some true)) = rest := by
    have htrans := Select.transCmp_compareBy (transCmp_orderTerms id fields)
    simp only [hcmp, hsplit]
    refine filter_after (r := fun a b =>
      decide (Select.compareBy (orderTerms id fields) a b = .lt)) ?_ ?_
    · rw [← hsplit]
      exact (unpaged_ordered id hids).imp fun h => decide_eq_true ((compareBy_eq_lt id).mpr h)
    · intro a b hab
      rw [decide_eq_false_iff_not]
      intro hba
      have hswap : Select.compareBy (orderTerms id fields) b a =
          (Select.compareBy (orderTerms id fields) a b).swap := htrans.eq_swap
      rw [hswap, of_decide_eq_true hab] at hba
      cases hba
  change List.take n
    ((((statement criteria).orderBy (orderTerms id fields)).where_ condition).run table) = _
  rw [hfilter]
  exact congrArg (List.take n) hafter

/-- What is left at a cursor: everything at the start, and the rows after the row the
cursor was made of. -/
def LeftAt (all : List ρ) (fields : List (SortField ρ)) : Option Cursor → List ρ → Prop
  | none, rest => rest = all
  | some k, rest => ∃ pre c, all = pre ++ c :: rest ∧
      decodeSortCursor lib k =
        .ok ⟨fields.map fun field => field.column c, some (.uuid (id c))⟩ ∧
      ∀ field ∈ fields, ∀ v, field.column c = some v → lib.orders (some v) = true

theorem leftAt_start (table : List ρ) (criteria : List (ρ → Truth)) (fields : List (SortField ρ)) :
    LeftAt lib id (unpaged id table (statement criteria) fields) fields none
      (unpaged id table (statement criteria) fields) := rfl

omit [LinearOrder SortValue] in
theorem zip_map_column (c : ρ) (fields : List (SortField ρ)) :
    fields.zip (fields.map fun field => field.column c) =
      fields.map fun field => (field, field.column c) := by
  induction fields with
  | nil => rfl
  | cons field rest ih => rw [List.map_cons, List.zip_cons_cons, ih, List.map_cons]

theorem listPage_leftAt (hids : (table.map id).Nodup) (limit : ℕ) {cursor : Option Cursor}
    (hleft : LeftAt lib id (unpaged id table (statement criteria) fields) fields cursor rest) :
    ∃ position, listPage lib id table (statement criteria) fields limit cursor =
      buildSortedPage lib id (rest.take (limit + 1)) ⟨limit, position, fields⟩ := by
  cases cursor with
  | none =>
    rw [show rest = unpaged id table (statement criteria) fields from hleft]
    exact ⟨none, rfl⟩
  | some k =>
    obtain ⟨pre, c, hsplit, hdecode, horders⟩ := hleft
    obtain ⟨clauses, equal, hclauses, hspec⟩ := keysetClauses_spec lib id c fields [] [] horders
    refine ⟨some ⟨fields.map fun field => field.column c, some (.uuid (id c))⟩, ?_⟩
    have hcondition : ∀ row, anyOf (clauses ++ [allOf (equal ++ [afterId id c])]) row = some true ↔
        Precedes id fields c row := fun row => by
      rw [hspec row]
      simp [anyOf, allOf, disj, conj]
    have hid : idAfter lib id (some (.uuid (id c))) = .ok (afterId id c) := by
      simp only [idAfter, lib.orders_uuid, if_true]
      rfl
    have hquery : paginateQuerySorted lib id (statement criteria)
        ⟨limit, some ⟨fields.map fun field => field.column c, some (.uuid (id c))⟩, fields⟩ =
        .ok ((((statement criteria).orderBy (orderTerms id fields)).where_
          (anyOf (clauses ++ [allOf (equal ++ [afterId id c])]))).limitTo (limit + 1)) := by
      simp only [paginateQuerySorted, zip_map_column, hclauses, hid]
      rfl
    rw [← run_after id hids hsplit hcondition (limit + 1)]
    simp only [listPage, hdecode]
    change paginateQuerySorted lib id (statement criteria) _ >>= _ = _
    rw [hquery]
    rfl

theorem listPage_refused (table : List ρ) (criteria : List (ρ → Truth)) (limit : ℕ) {k : Cursor}
    (hdecode : decodeSortCursor lib k =
      .ok ⟨fields.map fun field => field.column c, some (.uuid (id c))⟩)
    (hrefused : ∃ field ∈ fields, ∃ v, field.column c = some v ∧ lib.orders (some v) = false) :
    ∃ e, listPage lib id table (statement criteria) fields limit (some k) = .error e := by
  obtain ⟨e, he⟩ := keysetClauses_error lib c fields [] [] hrefused
  refine ⟨e, ?_⟩
  simp only [listPage, hdecode]
  change paginateQuerySorted lib id (statement criteria) _ >>= _ = _
  simp only [paginateQuerySorted, zip_map_column, he]
  rfl

variable {limit : ℕ}

omit [LinearOrder SortValue] in
/-- The last row of the first page, between the rows before and after it. -/
theorem split_at_pageEnd {α : Type*} {rest : List α} {row : α} (hlimit : 0 < limit)
    (hrow : rest[limit - 1]? = some row) :
    rest = rest.take (limit - 1) ++ row :: rest.drop limit := by
  have hlt : limit - 1 < rest.length := (List.getElem?_eq_some_iff.mp hrow).1
  have hget : rest[limit - 1] = row := (List.getElem?_eq_some_iff.mp hrow).2
  have hdrop : rest.drop (limit - 1) = row :: rest.drop limit := by
    rw [List.drop_eq_getElem_cons hlt, hget, Nat.sub_add_cancel hlimit]
  rw [← hdrop, List.take_append_drop]

/-- One request serves what is left. -/
theorem listPage_serves (hids : (table.map id).Nodup) (hlimit : 0 < limit) :
    Serves (listPage lib id table (statement criteria) fields limit) limit (Passes lib fields)
      (LeftAt lib id (unpaged id table (statement criteria) fields) fields) := by
  -- a page with more to come, as `build_sorted_page` is given it
  have hmore : ∀ (cursor : Option Cursor) (rest : List ρ) (row : ρ),
      LeftAt lib id (unpaged id table (statement criteria) fields) fields cursor rest →
      limit < rest.length → rest[limit - 1]? = some row →
      listPage lib id table (statement criteria) fields limit cursor =
        (encodeSortCursor lib (fields.map fun field => field.column row) (id row)).map
          fun k => (rest.take limit, some k) := by
    intro cursor rest row hleft hlong hrow
    obtain ⟨position, hpage⟩ := listPage_leftAt lib id hids limit hleft
    have hlong' : limit < (rest.take (limit + 1)).length := by
      rw [List.length_take]
      exact lt_min (Nat.lt_succ_self limit) hlong
    have hrow' : (rest.take (limit + 1))[limit - 1]? = some row := by
      rw [List.getElem?_take_of_lt (by omega), hrow]
    rw [hpage, buildSortedPage_more lib id hlong' hrow' hlimit, List.take_take,
      min_eq_left (Nat.le_succ limit)]
  refine ⟨?_, ?_, ?_⟩
  · intro cursor rest hleft hshort
    obtain ⟨position, hpage⟩ := listPage_leftAt lib id hids limit hleft
    rw [hpage, List.take_of_length_le (by omega)]
    exact buildSortedPage_last lib id hshort
  · intro cursor rest row hleft hlong hrow hpasses
    obtain ⟨k, hencode, hdecode⟩ := encodeSortCursor_spec lib
      (fields.map fun field => field.column row) (id row)
      (List.forall_mem_map.mpr fun field hfield => (hpasses field hfield).1)
    refine ⟨k, by rw [hmore cursor rest row hleft hlong hrow, hencode]; rfl, ?_⟩
    have hsplit := split_at_pageEnd hlimit hrow
    have horders := fun field hfield => (hpasses field hfield).2
    cases cursor with
    | none =>
      rw [show rest = unpaged id table (statement criteria) fields from hleft] at hsplit ⊢
      exact ⟨_, row, hsplit, hdecode, horders⟩
    | some k₀ =>
      obtain ⟨pre, c, hall, -, -⟩ := hleft
      refine ⟨pre ++ c :: rest.take (limit - 1), row, ?_, hdecode, horders⟩
      rw [hall, List.append_assoc, List.cons_append, ← hsplit]
  · intro cursor rest row hleft hlong hrow hnot
    by_cases hserial : ∀ field ∈ fields, serializes (field.column row) = true
    · -- the cursor can be made, and the request that brings it back is refused
      right
      obtain ⟨k, hencode, hdecode⟩ := encodeSortCursor_spec lib
        (fields.map fun field => field.column row) (id row) (List.forall_mem_map.mpr hserial)
      have hrefused : ∃ field ∈ fields, ∃ v,
          field.column row = some v ∧ lib.orders (some v) = false := by
        unfold Passes at hnot
        push Not at hnot
        obtain ⟨field, hfield, hbad⟩ := hnot
        obtain ⟨v, hv, horders⟩ := hbad (hserial field hfield)
        exact ⟨field, hfield, v, hv, by simpa using horders⟩
      obtain ⟨e, he⟩ := listPage_refused lib id table criteria limit hdecode hrefused
      exact ⟨k, e, by rw [hmore cursor rest row hleft hlong hrow, hencode]; rfl, he⟩
    · left
      push Not at hserial
      obtain ⟨field, hfield, hbad⟩ := hserial
      obtain ⟨e, he⟩ := encodeSortCursor_error lib (fields.map fun field => field.column row)
        (id row) ⟨field.column row, List.mem_map_of_mem hfield, by simpa using hbad⟩
      exact ⟨e, by rw [hmore cursor rest row hleft hlong hrow, he]; rfl⟩

/-! ### Following the cursors -/

/-- Following the cursors comes to the end without an error, and has read every
selected row exactly once, in the requested order: the unpaged list. -/
def ReadsAll (table : List ρ) (criteria : List (ρ → Truth)) (fields : List (SortField ρ))
    (limit : ℕ) : Prop :=
  ∃ rows : List ρ,
    (∀ n, (table.filter (statement criteria).selects).length < n →
      follow (listPage lib id table (statement criteria) fields limit) n none =
        ⟨rows, .finished⟩) ∧
    rows.Perm (table.filter (statement criteria).selects) ∧
    rows.Pairwise (Precedes id fields) ∧
    rows = unpaged id table (statement criteria) fields

/-- **Whatever the sort values are, the client reads a beginning of the unpaged list**, and
comes to an end. -/
theorem following_reads (hids : (table.map id).Nodup) (hlimit : 1 ≤ limit) (n : ℕ) :
    let reading := follow (listPage lib id table (statement criteria) fields limit) n none
    reading.rows <+: unpaged id table (statement criteria) fields ∧
      (table.length < n → reading.ending ≠ .unfinished) := by
  have hstart := leftAt_start lib id table criteria fields
  refine ⟨(listPage_serves lib id hids hlimit).follow_begins n none _ hstart, fun hn =>
    (listPage_serves lib id hids hlimit).follow_ends hlimit hstart ?_⟩
  rw [(unpaged_perm id).length_eq]
  exact lt_of_le_of_lt (List.length_filter_le _ _) hn

/-- **Sorted pagination is complete iff every page but the last one ends in a row
whose sort values can be put in a cursor and compared with.** -/
theorem sorted_pages_complete_iff (hids : (table.map id).Nodup) {limit : ℕ} (hlimit : 1 ≤ limit) :
    ReadsAll lib id table criteria fields limit ↔
      ∀ row, PageEnd limit (unpaged id table (statement criteria) fields) row →
        Passes lib fields row := by
  have hserves := fun n => (listPage_serves lib id hids hlimit).follow_iff hlimit
    (n := n) (leftAt_start lib id table criteria fields)
  have hlength : (unpaged id table (statement criteria) fields).length =
      (table.filter (statement criteria).selects).length := (unpaged_perm id).length_eq
  constructor
  · rintro ⟨rows, hfollow, -, -, rfl⟩
    exact (hserves _ (hlength ▸ Nat.lt_succ_self _)).mp (hfollow _ (Nat.lt_succ_self _))
  · intro hpasses
    refine ⟨_, fun n hn => ?_, unpaged_perm id, unpaged_ordered id hids, rfl⟩
    exact (hserves n (by rw [hlength]; exact hn)).mpr hpasses

end

section

/-! ### Two deals, one to a page -/

/-- Values of one kind in their own order; a column has one kind only. -/
def SortValue.key : SortValue → ℕ ×ₗ ℤ ×ₗ ℚ ×ₗ String
  | .datetime t => toLex (0, toLex (t, toLex (0, "")))
  | .uuid u => toLex (1, toLex ((u : ℤ), toLex (0, "")))
  | .bool b => toLex (2, toLex (if b then 1 else 0, toLex (0, "")))
  | .int n => toLex (3, toLex (n, toLex (0, "")))
  | .str s => toLex (4, toLex (0, toLex (0, s)))
  | .decimal q => toLex (5, toLex (0, toLex (q, "")))
  | .date d => toLex (6, toLex (d, toLex (0, "")))

theorem SortValue.key_injective : Function.Injective SortValue.key := by
  intro x y heq
  cases x <;> cases y <;> simp [SortValue.key] at heq <;> try simp [heq]
  case bool b c => cases b <;> cases c <;> simp_all

@[reducible] def valueOrder : LinearOrder SortValue :=
  LinearOrder.lift' SortValue.key SortValue.key_injective

attribute [local instance] valueOrder

/-- Texts that keep instants and keys apart; the query builder refuses NULL and the
truth values on the right of `<` and `>`. -/
def plainLibraries : Libraries where
  isoformat t := String.ofList (List.replicate (Equiv.intEquivNat t) '0')
  fromisoformat s := some (Equiv.intEquivNat.symm s.length)
  fromisoformat_isoformat t := by simp
  uuidText u := String.ofList (List.replicate u '0')
  parseUuid s := some s.length
  parseUuid_uuidText u := by simp
  orders
    | none => false
    | some (.bool _) => false
    | some _ => true
  orders_uuid _ := rfl

/-- A row of the deals list, with two of its sort columns. -/
structure DealRow where
  id : Uuid
  customerLabel : Option String
  grossPrice : Option Decimal

def twoDeals : List DealRow := [⟨1, some "Meier", some 10⟩, ⟨2, none, some 20⟩]

def byCustomerLabel : SortField DealRow := ⟨fun deal => deal.customerLabel.map .str, .desc⟩

def byGrossPrice : SortField DealRow := ⟨fun deal => deal.grossPrice.map .decimal, .asc⟩

theorem following_reads_twoDeals :
    let reading := follow
      (listPage plainLibraries DealRow.id twoDeals (statement []) [byGrossPrice] 1) 3 none
    reading.rows <+: unpaged DealRow.id twoDeals (statement []) [byGrossPrice] ∧
      reading.ending ≠ .unfinished :=
  (following_reads plainLibraries DealRow.id (by decide) (le_refl 1) 3).imp_right fun h =>
    h (by decide)

theorem sorted_pages_complete_iff_twoDeals :
    ReadsAll plainLibraries DealRow.id twoDeals [] [byCustomerLabel] 1 := by
  refine (sorted_pages_complete_iff plainLibraries DealRow.id (by decide) (le_refl 1)).mpr ?_
  intro row _ field hfield
  rw [List.mem_singleton.mp hfield]
  cases hlabel : row.customerLabel <;>
    simp [byCustomerLabel, hlabel, serializes, plainLibraries]

/-- By gross price, the first page of two deals has no cursor: the request is a
server error. -/
theorem grossPrice_page_refused :
    ¬ ReadsAll plainLibraries DealRow.id twoDeals [] [byGrossPrice] 1 := by
  rintro ⟨rows, hfollow, -, -, hrows⟩
  have hids : (twoDeals.map DealRow.id).Nodup := by decide
  have hperm : (unpaged DealRow.id twoDeals (statement []) [byGrossPrice]).Perm twoDeals :=
    unpaged_perm DealRow.id
  have hlength : (unpaged DealRow.id twoDeals (statement []) [byGrossPrice]).length = 2 :=
    hperm.length_eq
  have hfirst := List.getElem?_eq_getElem (l := unpaged DealRow.id twoDeals (statement [])
    [byGrossPrice]) (i := 0) (by omega)
  have hpriced : ∀ deal ∈ twoDeals, ¬ Passes plainLibraries [byGrossPrice] deal := by
    intro deal hdeal hpasses
    have hserial := (hpasses byGrossPrice (List.mem_singleton_self _)).1
    simp only [twoDeals, List.mem_cons, List.not_mem_nil, or_false] at hdeal
    rcases hdeal with rfl | rfl <;> simp [byGrossPrice, serializes] at hserial
  obtain ⟨e, he⟩ := (listPage_serves plainLibraries DealRow.id hids Nat.one_pos).follow_stuck
    Nat.one_pos 3 none _ (leftAt_start plainLibraries DealRow.id twoDeals [] [byGrossPrice])
    (by omega) ⟨_, ⟨0, by omega, hfirst⟩, hpriced _ (hperm.subset (List.getElem_mem _))⟩
  rw [hfollow 3 (by decide)] at he
  cases he

end

end Nexotec.Pagination
