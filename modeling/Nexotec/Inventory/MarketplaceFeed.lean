/-
The marketplace shows the published set.

An event is committed with every publication and withdrawal, and whoever processes it
reads the rows afterwards.  What goes wrong is the order of the slow calls: a set that was
read earlier may be stored later.
-/
import Nexotec.Inventory.Marketplace
import Nexotec.Lib.Run

namespace Nexotec.Marketplace

open Listing Run

variable {kundennummer : String} {items : Table Uuid StockItem} {rows : Rows} {id : Uuid}
  {now : Time} {loaded : Uuid → Option StockItemPublishing} {status : TransmissionStatus}
  {error : Uuid → Option String}

section

variable {set : Snapshot}

/-! ### Published items -/

def Published (rows : Rows) (id : Uuid) : Prop :=
  ∃ row, rows.lookup id = some row ∧ row.state = .published

theorem mem_publishedIds : id ∈ publishedIds rows ↔ Published rows id := by
  rw [publishedIds, Table.mem_selectKeys]
  simp only [decide_eq_true_eq]
  rfl

theorem nodup_publishedIds (rows : Rows) : (publishedIds rows).Nodup :=
  AList.keys_nodup _

theorem publishedIds_perm {rows rows' : Rows} (h : ∀ id, Published rows id ↔ Published rows' id) :
    (publishedIds rows).Perm (publishedIds rows') := by
  rw [List.perm_ext_iff_of_nodup (nodup_publishedIds rows) (nodup_publishedIds rows')]
  intro id
  rw [mem_publishedIds, mem_publishedIds, h]

theorem row_eq_some {row : StockItemPublishing} :
    set.row id = some row ↔ set.table.lookup id = some row ∧ row.state = .published := by
  rw [Snapshot.row, Option.filter_eq_some_iff]
  simp only [decide_eq_true_eq]

theorem lookup_markAll (loaded : Uuid → Option StockItemPublishing) (status : TransmissionStatus)
    (error : Uuid → Option String) (now : Time) (rows : Rows) (id : Uuid) :
    (markAll loaded status error now rows).lookup id =
      (rows.lookup id).map fun stored =>
        match loaded id with
        | some row => mark status (error id) now row stored
        | none => stored :=
  Table.lookup_updateAll _ _ _

theorem published_markAll :
    Published (markAll loaded status error now rows) id ↔ Published rows id := by
  unfold Published
  rw [lookup_markAll]
  constructor
  · rintro ⟨row, hrow, hstate⟩
    obtain ⟨stored, hstored, rfl⟩ := Option.map_eq_some_iff.mp hrow
    refine ⟨stored, hstored, ?_⟩
    cases hloaded : loaded id with
    | none => rw [hloaded] at hstate; exact hstate
    | some _ => rw [hloaded] at hstate; exact hstate
  · rintro ⟨stored, hstored, hstate⟩
    refine ⟨_, by rw [hstored, Option.map_some], ?_⟩
    cases loaded id with
    | none => exact hstate
    | some _ => exact hstate

theorem not_transmitted_markAll {row : StockItemPublishing}
    (hrow : (markAll set.row .transmitted error now rows).lookup id = some row)
    (hstatus : row.transmissionStatus ≠ .transmitted) :
    (∃ stored, rows.lookup id = some stored ∧ stored.transmissionStatus ≠ .transmitted ∧
        stored.state = row.state) ∧
      ∀ loaded, set.row id = some loaded → loaded.transmissionStatus = .transmitted := by
  rw [lookup_markAll] at hrow
  obtain ⟨stored, hstored, rfl⟩ := Option.map_eq_some_iff.mp hrow
  cases hloaded : set.row id with
  | none =>
    rw [hloaded] at hstatus
    exact ⟨⟨stored, hstored, hstatus, rfl⟩, nofun⟩
  | some loaded =>
    rw [hloaded] at hstatus
    simp only [mark, write] at hstatus ⊢
    split at hstatus
    · next hsame =>
      exact ⟨⟨stored, hstored, hstatus, rfl⟩, fun _ h => Option.some.inj h ▸ hsame⟩
    · exact absurd rfl hstatus

/-! ### Feeds -/

def listedIds (feed : List FieldRow) : List Uuid := feed.map (·.fahrzeugNr)

theorem examine_eq_ok {row : FieldRow} (h : examine kundennummer items id = .ok row) :
    ∃ item, items.lookup id = some item ∧ fieldRow kundennummer (buildListing id item) = .ok row := by
  unfold examine at h
  split at h
  · cases h
  · next item hitem =>
    split at h
    · next row' hrow => cases h; exact ⟨item, hitem, hrow⟩
    · cases h

def Fails (kundennummer : String) (set : Snapshot) (items : Table Uuid StockItem) (id : Uuid) :
    Prop :=
  Published set.table id ∧ ∃ message, examine kundennummer items id = .error message

theorem mem_examineAll {examined : Except String FieldRow} :
    (id, examined) ∈ examineAll kundennummer set items ↔
      Published set.table id ∧ examine kundennummer items id = examined := by
  rw [examineAll, List.mem_map, ← mem_publishedIds]
  constructor
  · rintro ⟨id', hmem, heq⟩
    cases heq
    exact ⟨hmem, rfl⟩
  · rintro ⟨hmem, rfl⟩
    exact ⟨id, hmem, rfl⟩

theorem mem_failures {listed : Examined} {message : String} :
    (id, message) ∈ failures listed ↔ (id, .error message) ∈ listed := by
  rw [failures, List.mem_filterMap]
  constructor
  · rintro ⟨⟨id', examined⟩, hmem, heq⟩
    cases examined with
    | ok row => cases heq
    | error message' => cases heq; exact hmem
  · exact fun hmem => ⟨_, hmem, rfl⟩

theorem fails_iff : ((failures (examineAll kundennummer set items)).lookup id).isSome ↔
      Fails kundennummer set items id := by
  rw [Fails, ← not_iff_not, Bool.not_eq_true, Option.isSome_eq_false_iff, Option.isNone_iff_eq_none,
    List.lookup_eq_none_iff]
  constructor
  · rintro hnone ⟨hpublished, message, hexamine⟩
    have hmem := mem_failures.mpr (mem_examineAll.mpr ⟨hpublished, hexamine⟩)
    simpa using hnone _ hmem
  · rintro hfine ⟨id', message⟩ hmem
    obtain ⟨hpublished, hexamine⟩ := mem_examineAll.mp (mem_failures.mp hmem)
    simp only [bne_iff_ne, ne_eq]
    rintro rfl
    exact hfine ⟨hpublished, message, hexamine⟩

theorem listedIds_feedOf (hnone : failures (examineAll kundennummer set items) = []) :
    listedIds (feedOf (examineAll kundennummer set items)) = publishedIds set.table := by
  unfold examineAll at hnone ⊢
  generalize publishedIds set.table = ids at hnone ⊢
  induction ids with
  | nil => rfl
  | cons id ids ih =>
    rw [List.map_cons] at hnone ⊢
    cases hexamine : examine kundennummer items id with
    | error message => rw [hexamine] at hnone; cases hnone
    | ok row =>
      rw [hexamine] at hnone
      obtain ⟨item, -, hrow⟩ := examine_eq_ok hexamine
      change row.fahrzeugNr :: listedIds (feedOf _) = _
      rw [fahrzeugNr_of_fieldRow hrow, ih hnone]
      rfl

theorem valid_of_mem_feedOf {row : FieldRow}
    (hmem : row ∈ feedOf (examineAll kundennummer set items)) :
    ∃ item, items.lookup row.fahrzeugNr = some item ∧
      fieldRow kundennummer (buildListing row.fahrzeugNr item) = .ok row := by
  obtain ⟨⟨id, examined⟩, hentry, heq⟩ := List.mem_filterMap.mp hmem
  cases examined with
  | error message => cases heq
  | ok row' =>
    cases heq
    obtain ⟨item, hitem, hrow⟩ := examine_eq_ok (mem_examineAll.mp hentry).2
    have hid : row.fahrzeugNr = id := fahrzeugNr_of_fieldRow hrow
    rw [hid]
    exact ⟨item, hitem, hrow⟩

end

/-! ### What is still to come -/

/-- The selected set of a transmission that has read its rows. -/
def Stage.set : Stage → Option Snapshot
  | .selected set | .assembled set _ | .sending set _ | .stored set | .accepted set
  | .failing set _ => some set
  | .pending | .delivering | .returned _ | .processed _ => none

/-- The event is still to bring the marketplace up to date, or has come to nothing. -/
def CoversFeed (changes : ℕ) : Stage → Prop
  | .pending | .delivering | .failing _ _ => True
  | .selected set | .assembled set _ | .sending set _ => set.seen = changes
  | .stored _ | .accepted _ => False
  | .returned transmitted | .processed transmitted => transmitted = false

/-- The event is still to mark the row, or has come to nothing. -/
def CoversRow (id : Uuid) : Stage → Prop
  | .pending | .delivering | .failing _ _ => True
  | .selected set | .assembled set _ | .sending set _ | .stored set | .accepted set =>
    ∃ row, set.row id = some row ∧ row.transmissionStatus ≠ .transmitted
  | .returned transmitted | .processed transmitted => transmitted = false

/-- A row that a dealer wants published and no transmission has marked. -/
def Unmarked (rows : Rows) (id : Uuid) : Prop :=
  ∃ row, rows.lookup id = some row ∧ row.state = .published ∧ row.transmissionStatus ≠ .transmitted

def State.feed (st : State) : List FieldRow := st.marketplace.getD []

def StageOk : Stage → Prop
  | .sending set feed => listedIds feed = publishedIds set.table
  | _ => True

/-- A feed that `transmit_feed` was called with: complete, and of valid listings. -/
structure SentOk (kundennummer : String) (sent : Sent) : Prop where
  complete : listedIds sent.feed = publishedIds sent.set.table
  valid : ∀ row ∈ sent.feed, ∃ item, sent.items.lookup row.fahrzeugNr = some item ∧
    fieldRow kundennummer (buildListing row.fahrzeugNr item) = .ok row

/-- The invariant of every run. -/
structure Sound (kundennummer : String) (st : State) : Prop where
  events : ∀ event, st.count ≤ event → st.stage event = .pending
  stages : ∀ event, StageOk (st.stage event)
  sent : ∀ sent ∈ st.sent, SentOk kundennummer sent
  seen : ∀ event set, (st.stage event).set = some set → set.seen ≤ st.changes ∧
    (set.seen = st.changes → ∀ id, Published set.table id ↔ Published st.rows id)
  newest : st.newest ≤ st.changes
  marked : ∀ id, Unmarked st.rows id → ∃ event < st.count, CoversRow id (st.stage event)

/-- The invariant of a run that stores no older set: the marketplace is up to date, or an
event is to bring it. -/
def UpToDate (st : State) : Prop :=
  (st.newest = st.changes ∧ (listedIds st.feed).Perm (publishedIds st.rows)) ∨
    ∃ event < st.count, CoversFeed st.changes (st.stage event)

/-! ### Requests -/

variable {st : State}

/-- A row is written, and an event for it. -/
def State.changed (st : State) (id : Uuid) (row : StockItemPublishing) : State := { st with
  rows := st.rows.insert id row
  count := st.count + 1
  stage := Function.update st.stage st.count .pending
  changes := st.changes + 1 }

theorem commitRequest_eq (now : Time) (actorId : Option Uuid) (request : Request) (st : State) :
    commitRequest now actorId request st = st ∨
      ∃ row, commitRequest now actorId request st = st.changed request.id row := by
  unfold commitRequest
  split
  · exact .inr ⟨_, rfl⟩
  · exact .inr ⟨_, rfl⟩
  · exact .inl rfl

theorem sound_changed (h : Sound kundennummer st) (id : Uuid) (row : StockItemPublishing) :
    Sound kundennummer (st.changed id row) := by
  unfold State.changed
  refine ⟨fun event hle => ?_, fun event => ?_, h.sent, fun event set hset => ?_,
    h.newest.trans (Nat.le_succ _),
    fun id' _ => ⟨st.count, Nat.lt_succ_self _, by simp only [Function.update_self]; trivial⟩⟩
  · have hevent : event ≠ st.count := (Nat.lt_of_succ_le hle).ne'
    simp only [Function.update_of_ne hevent]
    exact h.events event (Nat.le_of_succ_le hle)
  · by_cases hevent : event = st.count
    · subst hevent
      simp only [Function.update_self]
      trivial
    · simp only [Function.update_of_ne hevent]
      exact h.stages event
  · by_cases hevent : event = st.count
    · subst hevent
      simp only [Function.update_self, Stage.set] at hset
      cases hset
    · simp only [Function.update_of_ne hevent] at hset
      have hseen := (h.seen event set hset).1
      exact ⟨hseen.trans (Nat.le_succ _), fun heq => absurd heq (by change set.seen ≠ st.changes + 1; omega)⟩

theorem upToDate_changed (st : State) (id : Uuid) (row : StockItemPublishing) :
    UpToDate (st.changed id row) :=
  .inr ⟨st.count, Nat.lt_succ_self _, by simp only [State.changed, Function.update_self]; trivial⟩

theorem published_open {id' : Uuid} (hnone : rows.lookup id = none) :
    Published (rows.insert id {}) id' ↔ Published rows id' := by
  unfold Published
  rw [Table.lookup_insert_iff]
  split
  · next heq =>
    subst heq
    rw [hnone]
    constructor
    · rintro ⟨row, hrow, hstate⟩
      cases hrow
      cases hstate
    · rintro ⟨row, hrow, -⟩
      cases hrow
  · exact Iff.rfl

theorem unmarked_open {id' : Uuid} (h : Unmarked (rows.insert id {}) id') : Unmarked rows id' := by
  obtain ⟨row, hrow, hstate, hstatus⟩ := h
  rcases Table.lookup_insert_cases hrow with ⟨-, rfl⟩ | ⟨-, hold⟩
  · cases hstate
  · exact ⟨row, hold, hstate, hstatus⟩

/-! ### Transmissions -/

variable {event : ℕ} {stage before : Stage}

/-- A step of one event, with the rows it leaves: they are published as before, and what is
left unmarked this event covers, or another one does. -/
theorem sound_moved (h : Sound kundennummer st) (hlt : event < st.count)
    (hok : StageOk stage) (hpublished : ∀ id, Published rows id ↔ Published st.rows id)
    (hset : ∀ set, stage.set = some set → (st.stage event).set = some set ∨
      (set.table = st.rows ∧ set.seen = st.changes))
    (hcovers : ∀ id, Unmarked rows id → CoversRow id stage ∨
      (Unmarked st.rows id ∧ ¬ CoversRow id (st.stage event))) :
    Sound kundennummer ({ st with rows := rows }.at event stage) := by
  have hold : ∀ event' set, (st.stage event').set = some set → set.seen ≤ st.changes ∧
      (set.seen = st.changes → ∀ id, Published set.table id ↔ Published rows id) :=
    fun event' set hset => ⟨(h.seen event' set hset).1,
      fun heq id => ((h.seen event' set hset).2 heq id).trans (hpublished id).symm⟩
  refine ⟨fun event' hle => ?_, fun event' => ?_, h.sent, fun event' set hset' => ?_, h.newest,
    fun id hid => ?_⟩
  · have hevent : event' ≠ event := (lt_of_lt_of_le hlt hle).ne'
    simp only [State.at, Function.update_of_ne hevent]
    exact h.events event' hle
  · by_cases hevent : event' = event
    · subst hevent
      simp only [State.at, Function.update_self]
      exact hok
    · simp only [State.at, Function.update_of_ne hevent]
      exact h.stages event'
  · by_cases hevent : event' = event
    · subst hevent
      simp only [State.at, Function.update_self] at hset'
      rcases hset set hset' with hset | ⟨htable, hseen⟩
      · exact hold event' set hset
      · exact ⟨hseen.le, fun _ id => by rw [htable]; exact (hpublished id).symm⟩
    · simp only [State.at, Function.update_of_ne hevent] at hset'
      exact hold event' set hset'
  · rcases hcovers id hid with hcover | ⟨hbefore, hnot⟩
    · exact ⟨event, hlt, by simp only [State.at, Function.update_self]; exact hcover⟩
    · obtain ⟨event', hlt, hcover⟩ := h.marked id hbefore
      have hevent : event' ≠ event := by rintro rfl; exact hnot hcover
      exact ⟨event', hlt, by simp only [State.at, Function.update_of_ne hevent]; exact hcover⟩

theorem sound_at (h : Sound kundennummer st) (hlt : event < st.count) (hok : StageOk stage)
    (hset : ∀ set, stage.set = some set → (st.stage event).set = some set ∨
      (set.table = st.rows ∧ set.seen = st.changes))
    (hcovers : ∀ id, Unmarked st.rows id → CoversRow id (st.stage event) → CoversRow id stage) :
    Sound kundennummer (st.at event stage) := by
  refine sound_moved h hlt hok (fun _ => Iff.rfl) hset fun id hid => ?_
  by_cases hcover : CoversRow id (st.stage event)
  · exact .inl (hcovers id hid hcover)
  · exact .inr ⟨hid, hcover⟩

theorem Sound.lt_count (h : Sound kundennummer st)
    (hstage : st.stage event ≠ .pending) : event < st.count := by
  by_contra hle
  exact hstage (h.events event (Nat.le_of_not_lt hle))

/-- A step that keeps the selected set, and covers what was covered. -/
theorem sound_kept (h : Sound kundennummer st) (hstage : st.stage event = before)
    (hne : before ≠ .pending) (hok : StageOk stage) (hset : stage.set = before.set)
    (hcovers : ∀ id, CoversRow id before → CoversRow id stage) :
    Sound kundennummer (st.at event stage) := by
  subst hstage
  exact sound_at h (h.lt_count hne) hok (fun _ hsome => .inl (hset ▸ hsome)) fun id _ => hcovers id

theorem sound_mark (h : Sound kundennummer st) (hlt : event < st.count)
    (hok : StageOk stage) (hset : stage.set = none)
    (hcovers : ∀ id, Unmarked (markAll loaded status error now st.rows) id → CoversRow id stage ∨
      (Unmarked st.rows id ∧ ¬ CoversRow id (st.stage event))) : Sound kundennummer
      ({ st with rows := markAll loaded status error now st.rows }.at event stage) :=
  sound_moved h hlt hok (fun _ => published_markAll)
    (fun _ hsome => by rw [hset] at hsome; cases hsome) hcovers

theorem sound_crash (h : Sound kundennummer st) : Sound kundennummer (st.at event .pending) := by
  by_cases hlt : event < st.count
  · exact sound_at h hlt trivial (nofun) fun _ _ _ => trivial
  · have hpending := h.events event (Nat.le_of_not_lt hlt)
    have hsame : st.at event .pending = st := by rw [State.at, ← hpending, Function.update_eq_self]
    rw [hsame]
    exact h

theorem sound_transmit (move : Move) (h : Sound kundennummer st) :
    Sound kundennummer (transmit kundennummer event move st) := by
  have hevent : ∀ stage, st.stage event = stage → stage ≠ .pending → event < st.count :=
    fun stage heq hne => h.lt_count (heq ▸ hne)
  unfold transmit
  split
  · exact h
  · exact sound_crash h
  · split
    · next hlt => exact sound_at h hlt trivial (nofun) fun _ _ _ => trivial
    · exact h
  · next hstage =>
    refine sound_at h (hevent _ hstage nofun) trivial (fun set hset => ?_) fun id hid _ => ?_
    · cases hset
      exact .inr ⟨rfl, rfl⟩
    · obtain ⟨row, hrow, hstate, hstatus⟩ := hid
      exact ⟨row, row_eq_some.mpr ⟨hrow, hstate⟩, hstatus⟩
  · next hstage => exact sound_mark h (hevent _ hstage nofun) trivial rfl fun _ _ => .inl rfl
  · next hstage => exact sound_kept h hstage nofun trivial rfl fun _ => id
  · next set items now hstage =>
    have hlt := hevent _ hstage nofun
    dsimp only
    split
    · next hnone =>
      have hcomplete := listedIds_feedOf hnone
      have hsound : Sound kundennummer
          (st.at event (.sending set (feedOf (examineAll kundennummer set items)))) :=
        sound_kept h hstage nofun hcomplete rfl fun _ => id
      refine ⟨hsound.events, hsound.stages, fun sent hsent => ?_, hsound.seen, hsound.newest,
        hsound.marked⟩
      rcases List.mem_cons.mp hsent with rfl | hsent
      · exact ⟨hcomplete, fun row hrow => valid_of_mem_feedOf hrow⟩
      · exact h.sent sent hsent
    · exact sound_mark h hlt trivial rfl fun _ _ => .inl rfl
  · next set feed hstage =>
    have hsound : Sound kundennummer (st.at event (.stored set)) :=
      sound_kept h hstage nofun trivial rfl fun _ => id
    have hseen : set.seen ≤ st.changes := (h.seen event set (by rw [hstage]; rfl)).1
    exact ⟨hsound.events, hsound.stages, hsound.sent, hsound.seen, max_le h.newest hseen,
      hsound.marked⟩
  · next hstage => exact sound_kept h hstage nofun trivial rfl fun _ _ => trivial
  · next hstage => exact sound_kept h hstage nofun trivial rfl fun _ _ => trivial
  · next hstage => exact sound_kept h hstage nofun trivial rfl fun _ => id
  · next hstage => exact sound_mark h (hevent _ hstage nofun) trivial rfl fun _ _ => .inl trivial
  · next set now hstage =>
    refine sound_mark h (hevent _ hstage nofun) trivial rfl fun id hid => .inr ?_
    -- the rows this transmission was to mark are marked
    obtain ⟨row, hrow, hstate, hstatus⟩ := hid
    obtain ⟨⟨stored, hstored, hbefore, hsame⟩, hloaded⟩ := not_transmitted_markAll hrow hstatus
    refine ⟨⟨stored, hstored, hsame.trans hstate, hbefore⟩, fun hcover => ?_⟩
    rw [hstage] at hcover
    obtain ⟨loaded, hset, hne⟩ := hcover
    exact hne (hloaded loaded hset)
  · next hstage => exact sound_kept h hstage nofun trivial rfl fun _ => id
  · exact h

theorem sound_next (a : Action) (h : Sound kundennummer st) :
    Sound kundennummer (next kundennummer st a) := by
  cases a with
  | edit id item => exact ⟨h.events, h.stages, h.sent, h.seen, h.newest, h.marked⟩
  | getPublishing id =>
    simp only [next]
    split
    · exact h
    · next hnone =>
      have hnone := Option.not_isSome_iff_eq_none.mp hnone
      exact ⟨h.events, h.stages, h.sent, fun event set hset => ⟨(h.seen event set hset).1,
        fun heq id' => ((h.seen event set hset).2 heq id').trans (published_open hnone).symm⟩,
        h.newest, fun id' hid => h.marked id' (unmarked_open hid)⟩
  | publish request id reads =>
    simp only [next]
    split
    · split
      · exact ⟨h.events, h.stages, h.sent, h.seen, h.newest, h.marked⟩
      · exact h
    · exact h
  | unpublish request id confirm =>
    simp only [next]
    split
    · split
      · exact ⟨h.events, h.stages, h.sent, h.seen, h.newest, h.marked⟩
      · exact h
    · exact h
  | commit request now actorId =>
    simp only [next]
    split
    · next found _ =>
      have hdone : Sound kundennummer
          { st with requests := Function.update st.requests request none } :=
        ⟨h.events, h.stages, h.sent, h.seen, h.newest, h.marked⟩
      rcases commitRequest_eq now actorId found
        { st with requests := Function.update st.requests request none } with heq | ⟨row, heq⟩
      · rw [heq]; exact hdone
      · rw [heq]; exact sound_changed hdone found.id row
    · exact h
  | rollback request => exact ⟨h.events, h.stages, h.sent, h.seen, h.newest, h.marked⟩
  | transmit event move => exact sound_transmit move h

/-! ### The order of the stored sets -/

def storing (st : State) : Action → Option (Snapshot × List FieldRow)
  | .transmit event .store =>
    match st.stage event with
    | .sending set feed => some (set, feed)
    | _ => none
  | _ => none

/-- No set that is stored is older than one stored before, unless it lists the same items. -/
def InOrder (st : State) (a : Action) : Prop :=
  ∀ entry ∈ storing st a,
    st.newest ≤ entry.1.seen ∨ (listedIds entry.2).Perm (listedIds st.feed)

instance (st : State) (a : Action) : Decidable (InOrder st a) :=
  inferInstanceAs (Decidable (∀ entry ∈ storing st a, _ ∨ _))

theorem UpToDate.mono {st' : State} (h : UpToDate st) (hchanges : st'.changes = st.changes)
    (hcount : st'.count = st.count) (hnewest : st'.newest = st.newest)
    (hfeed : st'.marketplace = st.marketplace)
    (hrows : ∀ id, Published st.rows id ↔ Published st'.rows id)
    (hstage : ∀ event, CoversFeed st.changes (st.stage event) →
      CoversFeed st.changes (st'.stage event)) : UpToDate st' := by
  rcases h with ⟨hlatest, hshown⟩ | ⟨event, hlt, hcover⟩
  · refine .inl ⟨by rw [hnewest, hlatest, hchanges], ?_⟩
    rw [State.feed, hfeed]
    exact hshown.trans (publishedIds_perm hrows)
  · exact .inr ⟨event, hcount ▸ hlt, by rw [hchanges]; exact hstage event hcover⟩

theorem covers_at
    (h : CoversFeed st.changes (st.stage event) → CoversFeed st.changes stage) (event' : ℕ)
    (hcover : CoversFeed st.changes (st.stage event')) :
    CoversFeed st.changes ((st.at event stage).stage event') := by
  by_cases hevent : event' = event
  · subst hevent
    simp only [State.at, Function.update_self]
    exact h hcover
  · simp only [State.at, Function.update_of_ne hevent]
    exact hcover

theorem upToDate_store {set : Snapshot} {feed : List FieldRow}
    (hsound : Sound kundennummer st) (h : UpToDate st) (hstage : st.stage event = .sending set feed)
    (horder : st.newest ≤ set.seen ∨ (listedIds feed).Perm (listedIds st.feed)) :
    UpToDate ({ st with marketplace := some feed, newest := max st.newest set.seen }.at event
      (.stored set)) := by
  have hlists := hsound.stages event
  rw [hstage] at hlists
  change listedIds feed = publishedIds set.table at hlists
  obtain ⟨hseen, hsame⟩ := hsound.seen event set (by rw [hstage]; rfl)
  by_cases hlatest : set.seen = st.changes
  · -- the set is as the rows are now
    refine .inl ⟨?_, ?_⟩
    · change max st.newest set.seen = st.changes
      rw [hlatest]
      exact max_eq_right hsound.newest
    · change (listedIds feed).Perm (publishedIds st.rows)
      rw [hlists]
      exact publishedIds_perm (hsame hlatest)
  · rcases h with ⟨hnewest, hshown⟩ | ⟨event', hlt, hcover⟩
    · -- the marketplace is up to date, so an older set can only list the same
      rcases horder with hle | hperm
      · exact absurd (le_antisymm hseen (hnewest ▸ hle)) hlatest
      · refine .inl ⟨?_, hperm.trans hshown⟩
        change max st.newest set.seen = st.changes
        rw [hnewest]
        exact max_eq_left hseen
    · have hevent : event' ≠ event := by
        rintro rfl
        rw [hstage] at hcover
        exact hlatest hcover
      exact .inr ⟨event', hlt, by simp only [State.at, Function.update_of_ne hevent]; exact hcover⟩

theorem upToDate_transmit (move : Move) (hsound : Sound kundennummer st)
    (h : UpToDate st) (horder : InOrder st (.transmit event move)) :
    UpToDate (transmit kundennummer event move st) := by
  have hat : ∀ stage, (CoversFeed st.changes (st.stage event) → CoversFeed st.changes stage) →
      UpToDate (st.at event stage) := fun stage hcovers =>
    h.mono rfl rfl rfl rfl (fun _ => Iff.rfl) (covers_at hcovers)
  have hmark : ∀ stage loaded status error now, CoversFeed st.changes stage ∨
      ¬ CoversFeed st.changes (st.stage event) →
      UpToDate ({ st with rows := markAll loaded status error now st.rows }.at event stage) := by
    intro stage loaded status error now hcovers
    refine h.mono rfl rfl rfl rfl (fun _ => published_markAll.symm) (covers_at fun hcover => ?_)
    exact hcovers.resolve_right fun hnot => hnot hcover
  unfold transmit
  split
  · exact h
  · exact hat _ fun _ => trivial
  · split
    · exact hat _ fun _ => trivial
    · exact h
  · exact hat _ fun _ => rfl
  · exact hmark _ _ _ _ _ (.inl rfl)
  · next hstage => exact hat _ fun hcover => by rw [hstage] at hcover; exact hcover
  · next hstage =>
    dsimp only
    split
    · exact h.mono rfl rfl rfl rfl (fun _ => Iff.rfl)
        (covers_at fun hcover => by rw [hstage] at hcover; exact hcover)
    · exact hmark _ _ _ _ _ (.inl rfl)
  · next set feed hstage =>
    refine upToDate_store hsound h hstage (horder (set, feed) ?_)
    simp only [storing, hstage]
    rfl
  · exact hat _ fun _ => trivial
  · exact hat _ fun _ => trivial
  · next hstage => exact hat _ fun hcover => by rw [hstage] at hcover; exact hcover
  · exact hmark _ _ _ _ _ (.inl trivial)
  · next hstage => exact hmark _ _ _ _ _ (.inr fun hcover => by rw [hstage] at hcover; exact hcover)
  · next hstage => exact hat _ fun hcover => by rw [hstage] at hcover; exact hcover
  · exact h

theorem upToDate_next (a : Action) (hsound : Sound kundennummer st) (h : UpToDate st)
    (horder : InOrder st a) : UpToDate (next kundennummer st a) := by
  cases a with
  | edit id item => exact h
  | getPublishing id =>
    simp only [next]
    split
    · exact h
    · next hnone =>
      have hnone := Option.not_isSome_iff_eq_none.mp hnone
      exact h.mono rfl rfl rfl rfl (fun _ => (published_open hnone).symm) fun _ hcover => hcover
  | publish request id reads =>
    simp only [next]
    split
    · split
      · exact h
      · exact h
    · exact h
  | unpublish request id confirm =>
    simp only [next]
    split
    · split
      · exact h
      · exact h
    · exact h
  | commit request now actorId =>
    simp only [next]
    split
    · next found _ =>
      rcases commitRequest_eq now actorId found
        { st with requests := Function.update st.requests request none } with heq | ⟨row, heq⟩
      · rw [heq]; exact h
      · rw [heq]; exact upToDate_changed _ found.id row
    · exact h
  | rollback request => exact h
  | transmit event move => exact upToDate_transmit move hsound h horder

/-! ### The marketplace shows the published set -/

/-- Every event is processed, after a transmission that succeeded. -/
def Done (st : State) : Prop := ∀ event < st.count, st.stage event = .processed true

/-- What is sent, and what a refusal does. -/
structure Safe (kundennummer : String) (st : State) : Prop where
  /-- Nothing is omitted that was published when it was read. -/
  complete : ∀ sent ∈ st.sent, ∀ id, Published sent.set.table id →
    ∃ row ∈ sent.feed, row.fahrzeugNr = id
  /-- Every line is the listing of its item, which passes the validation. -/
  valid : ∀ sent ∈ st.sent, ∀ row ∈ sent.feed, ∃ item,
    sent.items.lookup row.fahrzeugNr = some item ∧
      fieldRow kundennummer (buildListing row.fahrzeugNr item) = .ok row
  /-- Where an item fails, nothing is sent, and no row changes but of the items that fail. -/
  refused : ∀ event set items now, st.stage event = .assembled set items →
    ((∃ id, Fails kundennummer set items id) →
      (transmit kundennummer event (.decide now) st).sent = st.sent) ∧
    ∀ id, ¬ Fails kundennummer set items id →
      (transmit kundennummer event (.decide now) st).rows.lookup id = st.rows.lookup id

/-- At the end the feed lists the published items, and each row says so. -/
def Shown (st : State) : Prop :=
  Done st → (listedIds st.feed).Perm (publishedIds st.rows) ∧
    ∀ id row, st.rows.lookup id = some row → row.state = .published →
      row.transmissionStatus = .transmitted

theorem complete_of_sound (h : Sound kundennummer st) :
    ∀ sent ∈ st.sent, ∀ id, Published sent.set.table id → ∃ row ∈ sent.feed, row.fahrzeugNr = id := by
  intro sent hsent id hid
  have hmem : id ∈ listedIds sent.feed := (h.sent sent hsent).complete ▸ mem_publishedIds.mpr hid
  exact List.mem_map.mp hmem

theorem decide_refused {set : Snapshot} (hstage : st.stage event = .assembled set items) :
    ((∃ id, Fails kundennummer set items id) →
      (transmit kundennummer event (.decide now) st).sent = st.sent) ∧
    ∀ id, ¬ Fails kundennummer set items id →
      (transmit kundennummer event (.decide now) st).rows.lookup id = st.rows.lookup id := by
  unfold transmit
  rw [hstage]
  by_cases hnone : failures (examineAll kundennummer set items) = []
  · simp only [if_pos hnone]
    refine ⟨fun ⟨id, hfails⟩ => ?_, fun _ _ => rfl⟩
    rw [← fails_iff, hnone] at hfails
    cases hfails
  · simp only [if_neg hnone]
    refine ⟨fun _ => rfl, fun id hfine => ?_⟩
    change (markAll _ _ _ now st.rows).lookup id = _
    rw [lookup_markAll, if_neg (fun hsome => hfine (fails_iff.mp hsome))]
    exact Option.map_id'

theorem not_covered_of_done (hdone : Done st) :
    (∀ event < st.count, ¬ CoversFeed st.changes (st.stage event)) ∧
      ∀ id, ∀ event < st.count, ¬ CoversRow id (st.stage event) := by
  constructor
  · intro event hlt hcover
    rw [hdone event hlt] at hcover
    cases hcover
  · intro id event hlt hcover
    rw [hdone event hlt] at hcover
    cases hcover

theorem shown_of_sound (hsound : Sound kundennummer st) (h : UpToDate st) : Shown st := by
  intro hdone
  obtain ⟨hfeed, hrows⟩ := not_covered_of_done hdone
  constructor
  · rcases h with ⟨-, hshown⟩ | ⟨event, hlt, hcover⟩
    · exact hshown
    · exact absurd hcover (hfeed event hlt)
  · intro id row hrow hstate
    by_contra hstatus
    obtain ⟨event, hlt, hcover⟩ := hsound.marked id ⟨row, hrow, hstate, hstatus⟩
    exact hrows id event hlt hcover

theorem sound_start (kundennummer : String) : Sound kundennummer {} :=
  ⟨fun _ _ => rfl, fun _ => trivial, nofun, nofun, le_rfl,
    fun _ ⟨_, hrow, _⟩ => (by cases hrow)⟩

theorem upToDate_start : UpToDate {} := .inl ⟨rfl, .refl _⟩

theorem sound_run (kundennummer : String) (run : List Action) :
    Sound kundennummer (run.foldl (next kundennummer) {}) := by
  have hstep : ∀ st a, Sound kundennummer st → Sound kundennummer (next kundennummer st a) :=
    fun _ a h => sound_next a h
  exact invariant hstep (sound_start kundennummer) run

/-- **The marketplace shows the published set.**  Whatever the requests and the workers do,
what is sent is complete and valid, and a refusal marks the failing rows only.  Where no
older set is stored over a newer one, the last feed lists exactly the published items, all
of them transmitted, once every event is processed and its transmission succeeded. -/
theorem marketplace_shows_published (kundennummer : String) (run : List Action) :
    Safe kundennummer (run.foldl (next kundennummer) {}) ∧
      (Along (next kundennummer) InOrder {} run → Shown (run.foldl (next kundennummer) {})) := by
  have hsound := sound_run kundennummer run
  refine ⟨⟨complete_of_sound hsound, fun sent hsent => (hsound.sent sent hsent).valid,
    fun _ _ _ _ hstage => decide_refused hstage⟩, fun horder => ?_⟩
  have hstep : ∀ st a, (Sound kundennummer st ∧ UpToDate st) → InOrder st a →
      Sound kundennummer (next kundennummer st a) ∧ UpToDate (next kundennummer st a) :=
    fun st a h horder => ⟨sound_next a h.1, upToDate_next a h.1 h.2 horder⟩
  have hdate := (invariant_along hstep ⟨sound_start kundennummer, upToDate_start⟩ horder).2
  exact shown_of_sound hsound hdate

/-! ### Two publications -/

instance (stage : Stage) (transmitted : Bool) : Decidable (stage = .processed transmitted) :=
  match stage with
  | .processed transmitted' =>
    decidable_of_iff (transmitted' = transmitted) ⟨congrArg _, Stage.processed.inj⟩
  | .pending | .delivering | .selected _ | .assembled _ _ | .sending _ _ | .stored _ | .accepted _
  | .failing _ _ | .returned _ => isFalse nofun

instance (st : State) : Decidable (Done st) :=
  inferInstanceAs (Decidable (∀ event < st.count, st.stage event = .processed true))

def car : StockItem :=
  { tenantId := 1, vehicleLabel := "Volkswagen Golf", lifecycleStatus := .inStock
    effectivePrice := some 18000, odometerKm := some 42000, exteriorColour := some "Rot"
    bodyStyle := some "Limousine", firstRegistrationDate := some 18000 }

/-- The publication of a car, by a request of the same number. -/
def published (id : Uuid) : List Action :=
  [.edit id car, .publish id id ⟨true, fun _ => .ok true⟩, .commit id 10 none]

def called (event : ℕ) : List Action :=
  [.transmit event .deliver, .transmit event .selectRows, .transmit event .selectItems,
    .transmit event (.decide 20)]

def answered (event : ℕ) : List Action :=
  [.transmit event .store, .transmit event .reply, .transmit event (.commit 30),
    .transmit event (.commit 40)]

/-- Both transmissions have called before the second one is through; the first one fails and
is delivered again. -/
theorem marketplace_shows_published_retried :
    let run := published 1 ++ called 0 ++ published 2 ++ called 1 ++
      [.transmit 0 (.fail "timed out"), .transmit 0 (.commit 25)] ++ answered 1 ++ called 0 ++ answered 0
    let st := run.foldl (next "4711") {}
    Done st ∧ (listedIds st.feed).Perm (publishedIds st.rows) := by
  intro run st
  have hdone : Done st := by decide +kernel
  exact ⟨hdone, ((marketplace_shows_published "4711" run).2 (by decide +kernel) hdone).1⟩

/-- The transmission that read the first car only is the last one stored. -/
theorem marketplace_shows_published_refuted : ¬ ∀ (kundennummer : String) (run : List Action),
      Safe kundennummer (run.foldl (next kundennummer) {}) ∧
        Shown (run.foldl (next kundennummer) {}) := by
  intro hall
  let run := published 1 ++ called 0 ++ published 2 ++ called 1 ++ answered 1 ++ answered 0
  have hdone : Done (run.foldl (next "4711") {}) := by decide +kernel
  have hshown := ((hall "4711" run).2 hdone).1
  exact absurd hshown (by decide +kernel)

end Nexotec.Marketplace
