/-
The version of a stock item and the requests that carry it.

`check_version` compares the version once, on an unlocked read, and no `UPDATE` has it
in its `WHERE` clause. A session that comes to its flush after somebody else's commit
overwrites it and stores the version it had counted for itself.
-/
import Nexotec.Inventory.StockEffects

namespace Nexotec.Stock

open Interleaving RowWrites

variable {ι : Type} {spelling : Spelling} {i j : ι} {sh sh' : Shared ι} {lo lo' : Local}

/-! ### The claim -/

/-- The changes committed to item `x`, the last one first. -/
def changesOf (history : List (Uuid × Change)) (x : Uuid) : List Change :=
  (history.filter fun e => e.1 = x).map (·.2)

def serially (changes : List Change) (first : StockItem) : StockItem :=
  changes.foldr (fun change item => change.apply item) first

/-- The row was there from the start, or is one that `create_stock_item` builds. -/
def FirstRow (items : Table Uuid StockItem) (x : Uuid) (first : StockItem) : Prop :=
  items.lookup x = some first ∨
    ∃ now stockNumber data vehicle, first = builtItem now stockNumber data vehicle

def AnsweredAfter (later earlier : Answer) : Prop :=
  earlier.verdict = .committed → later.stockItemId = earlier.stockItemId →
    later.ifMatch = earlier.ifMatch → later.verdict = .versionConflict

/-- No update of an item is lost. -/
structure NoneLost (items : Table Uuid StockItem) (sh : Shared ι) : Prop where
  /-- Once a request with a version has committed, the others are conflicts. -/
  answers : sh.answers.Pairwise AnsweredAfter
  /-- So is every one that is still to come. -/
  refused : ∀ (call : Edit) item, ⟨call.stockItemId, call.ifMatch, .committed⟩ ∈ sh.answers →
    sh.items.lookup call.stockItemId = some item → item.tenantId = call.tenantId →
      openEdit call sh = (sh.answer call .versionConflict, .idle)
  /-- Each row is the serial application of what was committed, and counts it. -/
  rows : ∀ x item, sh.items.lookup x = some item → ∃ first, FirstRow items x first ∧
    item = serially (changesOf sh.history x) first ∧
    item.version = first.version + (changesOf sh.history x).length

def MeetsVersion (sh : Shared ι) (lo : Local) : Prop :=
  ∀ c ∈ lo.copy, ∀ stored ∈ sh.items.lookup c.1, stored.version = c.2.version

instance (sh : Shared ι) (lo : Local) : Decidable (MeetsVersion sh lo) :=
  inferInstanceAs (Decidable (∀ c ∈ lo.copy, ∀ stored ∈ sh.items.lookup c.1, _))

def VersionStands (cfg : Config ι (Shared ι) Local) (a : ι × Choice) : Prop :=
  a.2.isCommit = true → MeetsVersion cfg.shared (cfg.locals a.1)

instance (cfg : Config ι (Shared ι) Local) (a : ι × Choice) : Decidable (VersionStands cfg a) :=
  inferInstanceAs (Decidable (_ → _))

/-! ### Serial writes -/

@[simp] theorem changesOf_self (history : List (Uuid × Change)) (x : Uuid) (change : Change) :
    changesOf ((x, change) :: history) x = change :: changesOf history x := by
  simp [changesOf]

variable {x : Uuid}

theorem changesOf_ne {y : Uuid} (h : y ≠ x) (history : List (Uuid × Change)) (change : Change) :
    changesOf ((x, change) :: history) y = changesOf history y := by
  simp [changesOf, Ne.symm h]

/-- What a step does to the rows, said of the stored ones. -/
inductive Serial (sh sh' : Shared ι) : Prop
  | quiet (items : sh'.items = sh.items) (history : sh'.history = sh.history)
  | changed (x : Uuid) (change : Change) (stored : StockItem)
      (row : sh.items.lookup x = some stored)
      (version : (change.apply stored).version = stored.version + 1)
      (rows : ∀ y, sh'.items.lookup y =
        if y = x then some (change.apply stored) else sh.items.lookup y)
      (history : sh'.history = (x, change) :: sh.history)
  | created (x : Uuid) (row : StockItem)
      (built : ∃ now stockNumber data vehicle, row = builtItem now stockNumber data vehicle)
      (fresh : sh.items.lookup x = none) (items : sh'.items = sh.items.insert x row)
      (history : sh'.history = sh.history)

theorem serial_modify (change : Change) {stored : StockItem} {f : StockItem → StockItem}
    (hrow : sh.items.lookup x = some stored) (hf : f stored = change.apply stored)
    (hversion : (change.apply stored).version = stored.version + 1)
    (hitems : sh'.items = sh.items.modify x f) (hhistory : sh'.history = (x, change) :: sh.history) :
    Serial sh sh' := by
  refine .changed x change stored hrow hversion (fun y => ?_) hhistory
  rw [hitems, Table.lookup_modify]
  split
  · next hy => rw [hy, hrow, Option.map_some, hf]
  · rfl

variable {now : Time} {new : StockItem} {purchased : Bool} {item : StockItem}

theorem perform_options {actorId : Option Uuid} {stockItemId : Uuid} {request : Request}
    (h : request.perform now actorId stockItemId item = .ok (new, purchased)) :
    (∃ basePrice, request = .options basePrice new.options) ∨
      (∀ basePrice list, request ≠ .options basePrice list) ∧ new.options = item.options := by
  cases request with
  | patch data =>
    obtain ⟨row, hrow, heq⟩ := Result.map_eq_ok.mp h
    cases heq
    obtain ⟨vehicleLabel, -, hrow⟩ := Result.of_bind hrow
    obtain ⟨condition, -, hrow⟩ := Result.of_bind hrow
    cases hrow
    exact .inr ⟨nofun, rfl⟩
  | condition value =>
    cases h
    exact .inr ⟨nofun, rfl⟩
  | purchase data vatRate =>
    obtain ⟨booked, hbooked, heq⟩ := Result.of_bind h
    have hnew : (markPurchasedIfReady booked).1 = new := congrArg Prod.fst (Except.ok.inj heq)
    refine .inr ⟨nofun, ?_⟩
    rw [← hnew, markPurchasedIfReady_fst]
    obtain ⟨amount, -, hbooked⟩ := Result.of_bind hbooked
    cases hbooked
    rfl
  | notionalInputTax data =>
    obtain ⟨row, hrow, heq⟩ := Result.map_eq_ok.mp h
    cases heq
    obtain ⟨amount, -, hrow⟩ := Result.of_bind hrow
    cases hrow
    exact .inr ⟨nofun, rfl⟩
  | options basePrice list =>
    obtain ⟨row, hrow, heq⟩ := Result.map_eq_ok.mp h
    cases heq
    unfold setOptions at hrow
    split at hrow
    · cases hrow
    · obtain ⟨listPrice, -, hrow⟩ := Result.of_bind hrow
      cases hrow
      exact .inl ⟨basePrice, rfl⟩

variable {base : StockItem} {call : Edit}

theorem writeEdit_base
    (h : call.request.perform now call.actorId call.stockItemId base = .ok (new, purchased)) :
    writeEdit call base new base.options base = new := by
  unfold writeEdit
  rcases perform_options h with ⟨basePrice, heq⟩ | ⟨hnot, hsame⟩
  · rw [heq]
    simp only [writeItem_base, writeOptions_base]
  · split
    · next basePrice list heq => exact absurd heq (hnot basePrice list)
    · rw [writeItem_base, ← hsame]

/-! ### What a session has read -/

/-- The copy is the row, or the row has a later version by now. -/
def Copy (sh : Shared ι) (x : Uuid) (base : StockItem) : Prop :=
  ∃ stored, sh.items.lookup x = some stored ∧ base.version ≤ stored.version ∧
    (stored.version = base.version → stored = base)

theorem Copy.refl (h : sh.items.lookup x = some base) :
    Copy sh x base := ⟨base, h, le_rfl, fun _ => rfl⟩

/-- The option rows were read with the item, or the row has a later version. -/
def OptionsRead (sh : Shared ι) (x : Uuid) (base : StockItem) (read : List StockItemOption) : Prop :=
  ∀ stored, sh.items.lookup x = some stored → stored.version = base.version → read = base.options

def HasRead (sh : Shared ι) : Local → Prop
  | .editing call base read => Copy sh call.stockItemId base ∧ base.version = call.ifMatch ∧
      OptionsRead sh call.stockItemId base read
  | .promoting x _ base => Copy sh x base
  | .resolving x _ base => Copy sh x base
  | .assigning x _ base _ => Copy sh x base
  | .selling x base => Copy sh x base
  | .reserving call _ => sh.items.lookup call.stockItemId ≠ none
  | .answering call _ _ => sh.items.lookup call.stockItemId ≠ none
  | .releasing _ x _ => sh.items.lookup x ≠ none
  | _ => True

theorem Serial.row (h : Serial sh sh') {x : Uuid} {stored : StockItem}
    (hrow : sh.items.lookup x = some stored) : ∃ stored', sh'.items.lookup x = some stored' ∧
      (stored' = stored ∨ stored'.version = stored.version + 1) := by
  cases h with
  | quiet items history => exact ⟨stored, by rw [items]; exact hrow, .inl rfl⟩
  | changed y change row hy version rows history =>
    by_cases hx : x = y
    · rw [hx, hy] at hrow
      cases hrow
      exact ⟨_, by rw [rows, if_pos hx], .inr version⟩
    · exact ⟨stored, by rw [rows, if_neg hx]; exact hrow, .inl rfl⟩
  | created y row built fresh items history =>
    have hx : x ≠ y := by
      intro heq
      rw [heq, fresh] at hrow
      cases hrow
    refine ⟨stored, ?_, .inl rfl⟩
    rw [items, Table.lookup_insert_iff, if_neg hx]
    exact hrow

theorem Serial.present (h : Serial sh sh') (hx : sh.items.lookup x ≠ none) :
    sh'.items.lookup x ≠ none := by
  obtain ⟨stored, hrow⟩ := Option.ne_none_iff_exists'.mp hx
  obtain ⟨stored', hrow', -⟩ := h.row hrow
  rw [hrow']
  exact Option.some_ne_none _

theorem Serial.copy (h : Serial sh sh') (hcopy : Copy sh x base) : Copy sh' x base := by
  obtain ⟨stored, hrow, hle, heq⟩ := hcopy
  obtain ⟨stored', hrow', rfl | hnext⟩ := h.row hrow
  · exact ⟨stored', hrow', hle, heq⟩
  · exact ⟨stored', hrow', by omega, fun hsame => by omega⟩

variable {read : List StockItemOption}

theorem Serial.optionsRead (h : Serial sh sh') (hcopy : Copy sh x base)
    (hread : OptionsRead sh x base read) : OptionsRead sh' x base read := by
  obtain ⟨stored, hrow, hle, -⟩ := hcopy
  obtain ⟨stored', hrow', hcases⟩ := h.row hrow
  intro row hlookup hversion
  rw [hrow'] at hlookup
  cases hlookup
  rcases hcases with rfl | hnext
  · exact hread _ hrow hversion
  · omega

theorem Serial.hasRead (h : Serial sh sh') (hread : HasRead sh lo) : HasRead sh' lo := by
  cases lo with
  | editing call base read => exact ⟨h.copy hread.1, hread.2.1, h.optionsRead hread.1 hread.2.2⟩
  | promoting x vin base => exact h.copy hread
  | resolving x vin base => exact h.copy hread
  | assigning x vin base vehicleId => exact h.copy hread
  | selling x base => exact h.copy hread
  | reserving call item => exact h.present hread
  | answering call item cached => exact h.present hread
  | releasing call x back => exact h.present hread
  | _ => trivial

/-! ### Each commit is serial -/

theorem Copy.stands (h : Copy sh x base)
    (hversion : ∀ stored, sh.items.lookup x = some stored → stored.version = base.version) :
    sh.items.lookup x = some base := by
  obtain ⟨stored, hrow, -, heq⟩ := h
  rw [hrow, heq (hversion stored hrow)]

theorem assignVin_version (now : Time) (vehicleId : Uuid) (vin : String) (item : StockItem) :
    (assignVin now vehicleId vin item).1.version = item.version + 1 := by
  rw [assignVin, markPurchasedIfReady_fst]

theorem assignVin_options (now : Time) (vehicleId : Uuid) (vin : String) (item : StockItem) :
    (assignVin now vehicleId vin item).1.options = item.options := by
  rw [assignVin, markPurchasedIfReady_fst]


theorem edited_serial
    (hperform : call.request.perform now call.actorId call.stockItemId base = .ok (new, purchased))
    (hrow : sh.items.lookup call.stockItemId = some base) (hread : read = base.options)
    (hitems : sh'.items = sh.items.modify call.stockItemId (writeEdit call base new read))
    (hhistory : sh'.history = (call.stockItemId, .edit now call) :: sh.history) :
    Serial sh sh' := by
  have happly : (Change.edit now call).apply base = new := by
    simp only [Change.apply, hperform]
  refine serial_modify (.edit now call) hrow ?_ ?_ hitems hhistory
  · rw [happly, hread, writeEdit_base hperform]
  · rw [happly, (perform_framed hperform).version]

theorem assigned_serial {vehicleId : Uuid} {vin : String} (hrow : sh.items.lookup x = some base)
    (hitems : sh'.items = sh.items.modify x (writeItem base (assignVin now vehicleId vin base).1))
    (hhistory : sh'.history = (x, .assignVin now vehicleId vin) :: sh.history) : Serial sh sh' := by
  refine serial_modify (.assignVin now vehicleId vin) hrow ?_ ?_ hitems hhistory
  · change _ = (assignVin now vehicleId vin base).1
    rw [writeItem_base, ← assignVin_options now vehicleId vin base]
  · exact assignVin_version now vehicleId vin base

theorem sold_serial (hrow : sh.items.lookup x = some base)
    (hitems : sh'.items = sh.items.modify x (writeItem base (sellItem now base)))
    (hhistory : sh'.history = (x, .sell now) :: sh.history) : Serial sh sh' := by
  refine serial_modify (.sell now) hrow ?_ rfl hitems hhistory
  rw [writeItem_base]
  rfl

section

variable [DecidableEq ι]

theorem Effect.serial (h : Effect i sh sh' lo) (hread : HasRead sh lo)
    (hmeets : MeetsVersion sh lo) : Serial sh sh' := by
  cases h with
  | quiet stock published history answers => exact .quiet (congrArg StockDb.items stock) history
  | edited now call base new read purchased hlo hperform hfree result =>
    subst hlo
    obtain ⟨hcopy, -, hoptions⟩ := hread
    have hrow := hcopy.stands fun stored hrow => hmeets _ rfl stored hrow
    obtain ⟨hstock, hhistory, -, -⟩ := publishPurchased_same call.stockItemId purchased
      (((sh.withItems (sh.items.modify call.stockItemId (writeEdit call base new read))).record
        call.stockItemId (.edit now call)).answer call .committed)
    rw [← result] at hstock hhistory
    exact edited_serial hperform hrow (hoptions base hrow rfl) (congrArg StockDb.items hstock)
      hhistory
  | assigned now x vin base vehicleId hlo hfree index items history published answers =>
    subst hlo
    have hrow := Copy.stands hread fun stored hrow => hmeets _ rfl stored hrow
    exact assigned_serial hrow items history
  | created now x stockNumber data vehicle hlo index fresh result =>
    subst result
    exact .created x _ ⟨now, stockNumber, data, vehicle, rfl⟩ fresh rfl rfl
  | sold now x base hlo hfree result =>
    subst hlo result
    have hrow := Copy.stands hread fun stored hrow => hmeets _ rfl stored hrow
    exact sold_serial hrow rfl rfl
  | reserved now newId call item cached records hlo stays unreserved result =>
    subst hlo result
    obtain ⟨stored, hrow⟩ := Option.ne_none_iff_exists'.mp hread
    exact serial_modify (.reserve now call.contractId newId) hrow rfl rfl rfl rfl
  | released now call x back records hlo result =>
    subst hlo result
    obtain ⟨stored, hrow⟩ := Option.ne_none_iff_exists'.mp hread
    exact serial_modify (.release now) hrow rfl rfl rfl rfl

/-- The answer a step gives, if it gives one: a conflict, or one to a request whose
version stands, and passed it if it was committed. -/
theorem Effect.answers (h : Effect i sh sh' lo) (hread : HasRead sh lo)
    (hmeets : MeetsVersion sh lo) :
    sh'.answers = sh.answers ∨ ∃ a : Answer, sh'.answers = a :: sh.answers ∧
      (a.verdict = .versionConflict ∨ a.verdict ≠ .versionConflict ∧
        ∃ stored, sh.items.lookup a.stockItemId = some stored ∧ stored.version = a.ifMatch ∧
          (a.verdict = .committed → ∃ stored', sh'.items.lookup a.stockItemId = some stored' ∧
            a.ifMatch < stored'.version)) := by
  have hserial := h.serial hread hmeets
  cases h with
  | quiet stock published history answers =>
    rcases answers with hsame | ⟨a, hnew, hconflict | ⟨call, base, read, rfl, rfl⟩⟩
    · exact .inl hsame
    · exact .inr ⟨a, hnew, .inl hconflict⟩
    · obtain ⟨hcopy, hmatch, -⟩ := hread
      have hrow := hcopy.stands fun stored hrow => hmeets _ rfl stored hrow
      exact .inr ⟨_, hnew, .inr ⟨by simp, base, hrow, hmatch, nofun⟩⟩
  | edited now call base new read purchased hlo hperform hfree result =>
    subst hlo
    obtain ⟨hcopy, hmatch, hoptions⟩ := hread
    have hrow := hcopy.stands fun stored hrow => hmeets _ rfl stored hrow
    obtain ⟨hstock, -, hanswers, -⟩ := publishPurchased_same call.stockItemId purchased
      (((sh.withItems (sh.items.modify call.stockItemId (writeEdit call base new read))).record
        call.stockItemId (.edit now call)).answer call .committed)
    rw [← result] at hstock hanswers
    refine .inr ⟨_, hanswers, .inr ⟨by simp, base, hrow, hmatch, fun _ => ⟨new, ?_, ?_⟩⟩⟩
    · change sh'.stock.items.lookup call.stockItemId = some new
      rw [hstock]
      change (sh.items.modify call.stockItemId _).lookup call.stockItemId = some new
      rw [Table.lookup_modify, if_pos rfl, hrow, Option.map_some, hoptions base hrow rfl,
        writeEdit_base hperform]
    · have hversion := (perform_framed hperform).version
      change call.ifMatch < new.version
      omega
  | assigned now x vin base vehicleId hlo hfree index items history published answers =>
    exact .inl answers
  | created now x stockNumber data vehicle hlo index fresh result =>
    subst result
    exact .inl rfl
  | sold now x base hlo hfree result =>
    subst result
    exact .inl rfl
  | reserved now newId call item cached records hlo stays unreserved result =>
    subst result
    exact .inl rfl
  | released now call x back records hlo result =>
    subst result
    exact .inl rfl

end

theorem present_of_row (h : sh.items.lookup x = some item) : sh.items.lookup x ≠ none := by
  rw [h]
  exact Option.some_ne_none _

theorem step_hasRead [DecidableEq ι] {choice : Choice} (hread : HasRead sh lo)
    (h : step spelling i choice sh lo = some (sh', lo')) : HasRead sh' lo' := by
  cases step_turn h with
  | rest lo' rests =>
    cases lo' with
    | idle => trivial
    | sweeping rest => trivial
    | creating data vin => trivial
    | locating data vin => trivial
    | inserting data vehicle => trivial
    | _ => cases rests
  | reserving call item row locked => subst locked; exact present_of_row row
  | answering call item cached hlo same => subst hlo same; exact hread
  | releasing call x item back row locked => subst locked; exact present_of_row row
  | editing call item row matched same =>
    subst same
    exact ⟨.refl row, matched, fun _ _ _ => rfl⟩
  | rereading call base read hlo same =>
    subst hlo same
    obtain ⟨⟨stored, hrow, hle, heq⟩, hmatch, -⟩ := hread
    refine ⟨⟨stored, hrow, hle, heq⟩, hmatch, fun row hlookup hversion => ?_⟩
    rw [hlookup] at hrow
    cases hrow
    rw [hlookup, Option.map_some, Option.getD_some, heq hversion]
  | promoting x vin item row pipeline same => subst same; exact .refl row
  | resolving x vin base hlo same => subst hlo same; exact hread
  | assigning x vin base vehicleId hlo stock =>
    subst hlo
    obtain ⟨stored, hrow, hrest⟩ := hread
    exact ⟨stored, by rw [show sh'.items = sh.items from congrArg StockDb.items stock]; exact hrow,
      hrest⟩
  | selling x item row same => subst same; exact .refl row

/-! ### Every run -/

/-- What every state of such a run meets. -/
structure VersionsHold (items : Table Uuid StockItem) (sh : Shared ι) : Prop where
  answers : sh.answers.Pairwise AnsweredAfter
  passed : ∀ a ∈ sh.answers, a.verdict = .committed →
    ∃ stored, sh.items.lookup a.stockItemId = some stored ∧ a.ifMatch < stored.version
  known : ∀ e ∈ sh.history, sh.items.lookup e.1 ≠ none
  rows : ∀ x item, sh.items.lookup x = some item → ∃ first, FirstRow items x first ∧
    item = serially (changesOf sh.history x) first ∧
    item.version = first.version + (changesOf sh.history x).length

variable {items : Table Uuid StockItem}

theorem VersionsHold.noneLost (h : VersionsHold items sh) : NoneLost items sh where
  answers := h.answers
  rows := h.rows
  refused := by
    intro call item hcommitted hrow htenant
    obtain ⟨stored, hstored, hpassed⟩ := h.passed _ hcommitted rfl
    rw [hrow] at hstored
    cases hstored
    have hfound : getStockItemOr404 sh.items call.tenantId call.stockItemId = .ok item := by
      rw [getStockItemOr404, orNotFound_eq_ok, hrow]
      simp [htenant]
    have hne : ¬ item.version = call.ifMatch := by
      change call.ifMatch < item.version at hpassed
      omega
    simp only [openEdit, checkVersion, hfound, if_neg hne]

theorem Serial.rows {items : Table Uuid StockItem} (h : Serial sh sh') (hold : VersionsHold items sh) :
    ∀ x item, sh'.items.lookup x = some item → ∃ first, FirstRow items x first ∧
      item = serially (changesOf sh'.history x) first ∧
      item.version = first.version + (changesOf sh'.history x).length := by
  intro x item hitem
  cases h with
  | quiet same history =>
    rw [same] at hitem
    rw [history]
    exact hold.rows x item hitem
  | changed y change stored hrow hversion rows history =>
    rw [rows] at hitem
    rw [history]
    by_cases hx : x = y
    · subst hx
      rw [if_pos rfl] at hitem
      cases hitem
      obtain ⟨first, hfirst, hstored, hcount⟩ := hold.rows x stored hrow
      refine ⟨first, hfirst, ?_, ?_⟩
      · rw [changesOf_self, serially, List.foldr_cons]
        exact congrArg change.apply hstored
      · rw [changesOf_self, List.length_cons, hversion, hcount]
        omega
    · rw [if_neg hx] at hitem
      rw [changesOf_ne hx]
      exact hold.rows x item hitem
  | created y row built fresh inserted history =>
    rw [inserted] at hitem
    rw [history]
    rcases Table.lookup_insert_cases hitem with ⟨rfl, rfl⟩ | ⟨-, hitem⟩
    · -- nothing was committed to a row that was not there
      have hnone : changesOf sh.history x = [] := by
        rw [changesOf, List.map_eq_nil_iff, List.filter_eq_nil_iff]
        intro e he
        rw [decide_eq_true_eq]
        intro heq
        exact hold.known e he (heq ▸ fresh)
      rw [hnone]
      exact ⟨item, .inr built, rfl, rfl⟩
    · exact hold.rows x item hitem

theorem Serial.known (h : Serial sh sh') (hold : VersionsHold items sh) :
    ∀ e ∈ sh'.history, sh'.items.lookup e.1 ≠ none := by
  intro e he
  have hhistory : (sh'.items.lookup e.1 ≠ none) ∨ e ∈ sh.history := by
    cases h with
    | quiet same history => exact .inr (history ▸ he)
    | changed y change stored hrow hversion rows history =>
      rw [history] at he
      rcases List.mem_cons.mp he with rfl | he
      · exact .inl (by rw [rows, if_pos rfl]; exact Option.some_ne_none _)
      · exact .inr he
    | created y row built fresh inserted history => exact .inr (history ▸ he)
  rcases hhistory with hthere | hold'
  · exact hthere
  · exact h.present (hold.known e hold')

section

variable [DecidableEq ι] {items : Table Uuid StockItem}

theorem Effect.versionsHold (h : Effect i sh sh' lo) (hold : VersionsHold items sh)
    (hread : HasRead sh lo) (hmeets : MeetsVersion sh lo) : VersionsHold items sh' := by
  have hserial := h.serial hread hmeets
  have hpassed : ∀ a ∈ sh.answers, a.verdict = .committed →
      ∃ stored, sh'.items.lookup a.stockItemId = some stored ∧ a.ifMatch < stored.version := by
    intro a ha hcommitted
    obtain ⟨stored, hrow, hlt⟩ := hold.passed a ha hcommitted
    obtain ⟨stored', hrow', rfl | hnext⟩ := hserial.row hrow
    · exact ⟨stored', hrow', hlt⟩
    · exact ⟨stored', hrow', by omega⟩
  rcases h.answers hread hmeets with hsame | ⟨a, hnew, hcase⟩
  · exact ⟨by rw [hsame]; exact hold.answers, by rw [hsame]; exact hpassed, hserial.known hold,
      hserial.rows hold⟩
  · refine ⟨?_, ?_, hserial.known hold, hserial.rows hold⟩
    · rw [hnew, List.pairwise_cons]
      refine ⟨fun earlier hearlier hcommitted hitem hmatch => ?_, hold.answers⟩
      rcases hcase with hconflict | ⟨-, stored, hrow, hversion, -⟩
      · exact hconflict
      · -- an earlier commit under this version has moved the row past it
        obtain ⟨stored', hrow', hlt⟩ := hold.passed earlier hearlier hcommitted
        rw [← hitem, hrow] at hrow'
        cases hrow'
        omega
    · rw [hnew]
      intro b hb hcommitted
      rcases List.mem_cons.mp hb with rfl | hb
      · rcases hcase with hconflict | ⟨-, stored, -, -, hafter⟩
        · rw [hconflict] at hcommitted
          cases hcommitted
        · exact hafter hcommitted
      · exact hpassed b hb hcommitted

theorem step_versions {choice : Choice} (h : step spelling i choice sh lo = some (sh', lo'))
    (hold : VersionsHold items sh) (hread : HasRead sh lo)
    (hok : choice.isCommit = true → MeetsVersion sh lo) :
    Serial sh sh' ∧ VersionsHold items sh' := by
  have heffect := step_effect h
  have hmet : MeetsVersion sh lo → Serial sh sh' ∧ VersionsHold items sh' := fun hmeets =>
    ⟨heffect.serial hread hmeets, heffect.versionsHold hold hread hmeets⟩
  by_cases hcopy : lo.copy = none
  · exact hmet fun c hc => by rw [hcopy] at hc; cases hc
  rcases commit_or_quiet h hcopy with hcommit | ⟨hstock, -, hhistory, hanswers⟩
  · exact hmet (hok hcommit)
  · have hitems : sh'.items = sh.items := congrArg StockDb.items hstock
    have hserial : Serial sh sh' := .quiet hitems hhistory
    refine ⟨hserial, ⟨?_, ?_, hserial.known hold, hserial.rows hold⟩⟩
    · rw [hanswers]; exact hold.answers
    · rw [hanswers, hitems]; exact hold.passed

end

section

variable [DecidableEq ι]

omit [DecidableEq ι] in
theorem versionsHold_start (items : Table Uuid StockItem) :
    Holds (VersionsHold items) (fun _ => HasRead) (start items : Config ι (Shared ι) Local) := by
  refine ⟨⟨.nil, fun a ha => (by cases ha), fun e he => (by cases he), fun x item hitem => ?_⟩,
    fun i => trivial⟩
  exact ⟨item, .inl hitem, rfl, rfl⟩

theorem versionsHold_move {cfg : Config ι (Shared ι) Local} {a : ι × Choice}
    (hold : Holds (VersionsHold items) (fun _ => HasRead) cfg) (hok : VersionStands cfg a) :
    Holds (VersionsHold items) (fun _ => HasRead) (move (step spelling) cfg a) := by
  refine noninterference
    (fun (_ : ι) (choice : Choice) sh lo => choice.isCommit = true → MeetsVersion sh lo)
    ?_ ?_ hold hok
  · intro i choice sh lo sh' lo' hold hread hok h
    exact ⟨(step_versions h hold hread hok).2, step_hasRead hread h⟩
  · intro i j choice sh lo other sh' lo' _ hold hread hother hok h
    exact (step_versions h hold hread hok).1.hasRead hother

/-- **No update of a stock item is lost** in a run whose flushes meet the versions that
their sessions have read. -/
theorem no_lost_update (spelling : Spelling) (items : Table Uuid StockItem)
    (run : List (ι × Choice))
    (hrun : Run.Along (move (step spelling)) VersionStands (start items) run) :
    NoneLost items (run.foldl (move (step spelling)) (start items)).shared := by
  have hmove : ∀ (cfg : Config ι (Shared ι) Local) (a : ι × Choice),
      Holds (VersionsHold items) (fun _ => HasRead) cfg → VersionStands cfg a →
        Holds (VersionsHold items) (fun _ => HasRead) (move (step spelling) cfg a) :=
    fun _ _ hold hok => versionsHold_move hold hok
  exact (Run.invariant_along hmove (versionsHold_start items) hrun).1.noneLost

end

/-! ### Two requests with one version -/

def onLot : Table Uuid StockItem :=
  (∅ : Table Uuid StockItem).insert 5 { tenantId := 1, lifecycleStatus := .inStock }

def relabel (label : String) : Edit := ⟨1, 5, 1, .patch { vehicleLabel := some (some label) }, none⟩

def asWritten : Spelling := ⟨fun value => value, fun _ => false⟩

/-- The second request opens after the first one's commit. -/
def inTurn : List (Bool × Choice) :=
  [(false, .edit (relabel "Golf")), (false, .commit 2 0 ""), (true, .edit (relabel "Polo"))]

theorem no_lost_update_inTurn :
    NoneLost onLot (inTurn.foldl (move (step asWritten)) (start onLot)).shared ∧
      (inTurn.foldl (move (step asWritten)) (start onLot)).shared.answers =
        [⟨5, 1, .versionConflict⟩, ⟨5, 1, .committed⟩] :=
  ⟨no_lost_update asWritten onLot inTurn (by decide +kernel), by decide +kernel⟩

/-- Both requests have passed `check_version` when the first one commits. -/
def overlapping : List (Bool × Choice) :=
  [(false, .edit (relabel "Golf")), (true, .edit (relabel "Polo")), (false, .commit 2 0 ""),
    (true, .commit 3 0 "")]

/-- Two requests that read before either commits. -/
theorem no_lost_update_refuted :
    ¬ NoneLost onLot (overlapping.foldl (move (step asWritten)) (start onLot)).shared := by
  intro hlost
  have hanswers : (overlapping.foldl (move (step asWritten)) (start onLot)).shared.answers =
      [⟨5, 1, .committed⟩, ⟨5, 1, .committed⟩] := by decide +kernel
  have hpair := hlost.answers
  rw [hanswers, List.pairwise_cons] at hpair
  have hconflict := hpair.1 _ (List.mem_singleton.mpr rfl) rfl rfl rfl
  cases hconflict

end Nexotec.Stock
