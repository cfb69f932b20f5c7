/-
One VIN, one car.

A session that allocates a vehicle number holds the counter from there to its commit, so
at most one row is in flight, and a lost insert always loses to a committed row.  Who
looks once more finds that row; `POST /vehicle-mdm` does not look once more.
-/
import Mathlib.Data.Fintype.EquivFin
import Nexotec.Vehicle.VinResolution

namespace Nexotec.VinResolution

open Interleaving Run

variable {ι : Type}

/-! ### What a session knows -/

/-- Where the allocator of a vehicle number is, within a transaction of its own. -/
def Allocating : Numbering.Local → Prop
  | .opened tx => tx.rows = []
  | .missing tx series => tx.rows = [] ∧ series = .vehicle
  | .rereading tx series => tx.rows = [] ∧ series = .vehicle
  | .counting tx series _ => tx.rows = [] ∧ series = .vehicle
  | .numbered tx series _ => tx.rows = [] ∧ series = .vehicle
  | .broken => False

def Busy (lo : Local) : Prop :=
  match lo.stage, lo.tx with
  | .creating, .rereading _ _ => True
  | .creating, .counting _ _ _ => True
  | .creating, .numbered _ _ _ => True
  | .flushed _, _ => True
  | _, _ => False

/-- The committed vehicles have VINs of their own and the committed numbers, and a row
in flight belongs to who holds the counter. -/
structure Good (sh : Shared ι) : Prop where
  numbering : Numbering.Good sh.numbering
  numbers : sh.vehicles.map (·.vehicleNumber) =
    (sh.numbering.numbers .vehicle).map (Numbering.numberText .vehicle)
  vins : (sh.vehicles.map (·.vin)).Nodup
  flushed : ∀ row ∈ sh.flushed, sh.numbering.holder .vehicle = some row.1

/-- The row in flight has a number that the commit will count, and a VIN of its own. -/
structure InFlight (i : ι) (sh : Shared ι) (lo : Local) (vehicle : VehicleMdm) : Prop where
  tx : ∃ tx value, lo.tx = .opened tx ∧ tx.rows = [(.vehicle, value)] ∧
    vehicle.vehicleNumber = Numbering.numberText .vehicle value
  vin : vehicle.vin = lo.call.vin
  holds : sh.numbering.holder .vehicle = some i
  fresh : ∀ other ∈ sh.vehicles, other.vin ≠ vehicle.vin
  id : ∀ other ∈ sh.vehicles, other.id ≠ vehicle.id

def AtStage (i : ι) (sh : Shared ι) (lo : Local) : Prop :=
  match lo.stage with
  | .looking => lo.tx = .opened {}
  | .creating => Allocating lo.tx
  | .flushed vehicle => InFlight i sh lo vehicle
  | .answered vehicle _ => vehicle ∈ sh.vehicles ∧ vehicle.vin = lo.call.vin
  | .refused _ => True

structure Knows (i : ι) (sh : Shared ι) (lo : Local) : Prop where
  numbering : Numbering.Knows i sh.numbering lo.tx
  stage : AtStage i sh lo
  busy : sh.numbering.holder .vehicle = some i → Busy lo
  mine : ∀ row ∈ sh.flushed, row.1 = i → lo.stage = .flushed row.2
  call : lo.call.stammnummer = none

variable {variants : Uuid → Bool} {i j : ι} {choice : Choice} {sh sh' : Shared ι} {lo lo' : Local}

/-! ### What a step leaves to the others -/

structure Moves (i : ι) (sh sh' : Shared ι) : Prop where
  leaves : Numbering.Leaves i sh.numbering sh'.numbering
  locks : ∀ j, j ≠ i → sh'.numbering.holder .vehicle = some j →
    sh.numbering.holder .vehicle = some j
  vehicles : sh'.vehicles = sh.vehicles ∨
    (sh.numbering.holder .vehicle = some i ∧ ∃ vehicle, sh'.vehicles = vehicle :: sh.vehicles)
  flushed : ∀ row ∈ sh'.flushed, row.1 ≠ i → row ∈ sh.flushed

theorem Moves.refl (i : ι) (sh : Shared ι) : Moves i sh sh :=
  ⟨.refl i _, fun _ _ h => h, .inl rfl, fun _ h _ => h⟩

variable {vehicle : VehicleMdm}

theorem Moves.mem (h : Moves i sh sh') (hmem : vehicle ∈ sh.vehicles) : vehicle ∈ sh'.vehicles := by
  rcases h.vehicles with hsame | ⟨-, new, hnew⟩
  · rw [hsame]; exact hmem
  · rw [hnew]; exact List.mem_cons_of_mem _ hmem

theorem Moves.vehicles_of_holder (h : Moves i sh sh') (hj : j ≠ i)
    (hholder : sh.numbering.holder .vehicle = some j) : sh'.vehicles = sh.vehicles := by
  rcases h.vehicles with hsame | ⟨hmine, -⟩
  · exact hsame
  · rw [hholder] at hmine
    exact absurd (Option.some.inj hmine) hj

theorem Knows.moves (hj : j ≠ i) (hknows : Knows j sh lo) (h : Moves i sh sh') :
    Knows j sh' lo := by
  obtain ⟨hnumbering, hstage, hbusy, hmine, hcall⟩ := hknows
  refine ⟨hnumbering.leaves hj h.leaves, ?_, fun hholder => hbusy (h.locks j hj hholder),
    fun row hrow hown => hmine row (h.flushed row hrow (hown ▸ hj)) hown, hcall⟩
  unfold AtStage at hstage ⊢
  split
  · next heq => rw [heq] at hstage; exact hstage
  · next heq => rw [heq] at hstage; exact hstage
  · next vehicle heq =>
    rw [heq] at hstage
    obtain ⟨htx, hvin, hholds, hfresh, hid⟩ := hstage
    have hsame := h.vehicles_of_holder hj hholds
    exact ⟨htx, hvin, h.leaves.holder _ j hj hholds, hsame ▸ hfresh, hsame ▸ hid⟩
  · next heq => rw [heq] at hstage; exact ⟨h.mem hstage.1, hstage.2⟩
  · trivial

theorem Knows.not_mine (hknows : Knows i sh lo) (hstage : ∀ vehicle, lo.stage ≠ .flushed vehicle) :
    ∀ row ∈ sh.flushed, row.1 ≠ i :=
  fun row hrow hown => hstage _ (hknows.mine row hrow hown)

theorem look_knows {stage : Stage} (hknows : Knows i sh lo) (hlooking : lo.stage = .looking)
    (hstage : AtStage i sh { lo with stage := stage }) : Knows i sh { lo with stage := stage } := by
  have hmine := hknows.not_mine (fun vehicle => by rw [hlooking]; exact Stage.noConfusion)
  refine ⟨hknows.numbering, hstage, fun hholder => ?_, fun row hrow hown =>
    absurd hown (hmine row hrow), hknows.call⟩
  have hbusy := hknows.busy hholder
  rw [Busy, hlooking] at hbusy
  exact hbusy.elim

variable [DecidableEq ι]

/-! ### The allocator within its caller -/

variable {c : Numbering.Choice}

theorem number_eq_some : number i c sh lo = some (sh', lo') ↔
      ∃ numbering tx, Numbering.step i c sh.numbering lo.tx = some (numbering, tx) ∧
        sh' = { sh with numbering := numbering } ∧ lo' = { lo with tx := tx } := by
  rw [number, Option.map_eq_some_iff]
  constructor
  · rintro ⟨⟨numbering, tx⟩, hstep, heq⟩
    cases heq
    exact ⟨numbering, tx, hstep, rfl, rfl⟩
  · rintro ⟨numbering, tx, hstep, rfl, rfl⟩
    exact ⟨(numbering, tx), hstep, rfl⟩

variable {numbering : Numbering.Shared ι}

theorem allocates_step {numbering' : Numbering.Shared ι} {tx tx' : Numbering.Local}
    (hc : allocates c = true) (htx : Allocating tx) (hknows : Numbering.Knows i numbering' tx')
    (hbusy : numbering.holder .vehicle = some i → Busy { lo with stage := .creating, tx := tx })
    (h : Numbering.step i c numbering tx = some (numbering', tx')) :
    Allocating tx' ∧
      (numbering'.holder .vehicle = some i → Busy { lo with stage := .creating, tx := tx' }) := by
  unfold Numbering.step at h
  split at h
  · next txn series =>
    have hseries : series = .vehicle := of_decide_eq_true hc
    obtain ⟨⟨sh₁, row⟩, hlock, heq⟩ := Option.map_eq_some_iff.mp h
    cases row with
    | some value => cases heq; exact ⟨⟨htx, hseries⟩, fun _ => trivial⟩
    | none =>
      cases heq
      -- the counter was not there, and nothing is locked
      have hsame : numbering' = numbering := by
        unfold Numbering.lockCounter at hlock
        split at hlock
        · cases hlock
        · cases hlock; rfl
        · split at hlock
          · cases hlock
          · cases hlock
      exact ⟨⟨htx, hseries⟩, fun hholds => hbusy (hsame ▸ hholds)⟩
  · unfold Numbering.insertCounter at h
    split at h
    · cases h; exact ⟨htx, fun _ => trivial⟩
    · split at h
      · cases h; exact ⟨htx, fun _ => trivial⟩
      · cases h
  · obtain ⟨⟨sh₁, row⟩, hlock, heq⟩ := Option.map_eq_some_iff.mp h
    cases row with
    | some value => cases heq; exact ⟨htx, fun _ => trivial⟩
    | none => cases heq; exact hknows.elim
  · cases h; exact ⟨htx, fun _ => trivial⟩
  · cases hc
  · cases hc
  · cases hc
  · cases h

/-! ### The steps -/

theorem moves_numbering {tx tx' : Numbering.Local} (hgood : Good sh)
    (hknows : Numbering.Knows i sh.numbering tx) (hmine : ∀ row ∈ sh.flushed, row.1 ≠ i)
    (hc : c ≠ .commit) (h : Numbering.step i c sh.numbering tx = some (numbering, tx')) :
    Good { sh with numbering := numbering } ∧ Moves i sh { sh with numbering := numbering } ∧
      Numbering.Knows i numbering tx' := by
  obtain ⟨hgood', hleaves, hknows'⟩ := Numbering.step_knows hgood.numbering hknows h
  obtain ⟨hnumbers, hlocks⟩ := Numbering.step_frame h
  refine ⟨⟨hgood', ?_, hgood.vins, ?_⟩, ⟨hleaves, hlocks _, .inl rfl, fun _ h _ => h⟩, hknows'⟩
  · change _ = (numbering.numbers .vehicle).map _
    rw [hnumbers hc]
    exact hgood.numbers
  · intro row hrow
    exact hleaves.holder _ _ (hmine row hrow) (hgood.flushed row hrow)

def LastAttempt (lo : Local) : Prop := lo.call.caller = .createVehicle ∨ lo.again = true

instance (lo : Local) : Decidable (LastAttempt lo) := inferInstanceAs (Decidable (_ ∨ _))

theorem conflict_eq (lo : Local) : conflict (vinExists lo.call.vin) lo =
      if LastAttempt lo then { lo with stage := .refused (vinExists lo.call.vin) }
      else { lo with again := true, stage := .looking } := by
  have hlost := lostTheInsertRace_vinExists lo.call.vin
  obtain ⟨⟨caller, vin, variant, stammnummer, approval, registered⟩, again, stage, tx⟩ := lo
  unfold conflict LastAttempt
  cases caller <;> cases again <;> simp_all

theorem beaten_knows (hgood : Good sh) (hknows : Knows i sh lo) (hcreating : lo.stage = .creating)
    (h : (number i .rollback sh lo).map (fun (sh, lo) =>
      (sh, conflict (vinExists lo.call.vin) lo)) = some (sh', lo')) :
    Good sh' ∧ Moves i sh sh' ∧ Knows i sh' lo' := by
  obtain ⟨⟨sh₁, lo₁⟩, hnumber, heq⟩ := Option.map_eq_some_iff.mp h
  obtain ⟨numbering, tx, hstep, rfl, rfl⟩ := number_eq_some.mp hnumber
  cases heq
  have hmine := hknows.not_mine (fun vehicle => by rw [hcreating]; exact Stage.noConfusion)
  obtain ⟨hgood', hmoves, hknows'⟩ :=
    moves_numbering hgood hknows.numbering hmine (by exact nofun) hstep
  -- the rollback leaves an empty transaction, and no lock
  have hrolled : numbering = Numbering.unlock i sh.numbering ∧ tx = .opened {} := by
    rw [Numbering.step_rollback] at hstep
    cases hstep
    exact ⟨rfl, rfl⟩
  obtain ⟨rfl, rfl⟩ := hrolled
  refine ⟨hgood', hmoves, ?_⟩
  rw [conflict_eq]
  split
  · exact ⟨hknows', trivial, fun hholder => absurd hholder (Numbering.unlock_own i _ _),
      fun row hrow hown => absurd hown (hmine row hrow), hknows.call⟩
  · exact ⟨hknows', rfl, fun hholder => absurd hholder (Numbering.unlock_own i _ _),
      fun row hrow hown => absurd hown (hmine row hrow), hknows.call⟩

variable {id : Uuid} {row : VehicleMdm}

omit [DecidableEq ι] in
/-- The new row has the number that is the session's to give, and a key of its own. -/
theorem newRow_eq_some (h : newRow sh lo id = some row) :
    ∃ tx series value, lo.tx = .numbered tx series value ∧
      row = lo.call.row id (Numbering.numberText series value) ∧
      ∀ vehicle ∈ sh.vehicles, vehicle.id ≠ id := by
  unfold newRow at h
  split at h
  · next tx series value htx =>
    split at h
    · next hid => cases h; exact ⟨tx, series, value, htx, rfl, hid.1⟩
    · cases h
  · cases h

omit [DecidableEq ι] in
theorem number_new {tx : Numbering.Tx} {value : ℕ} (hgood : Good sh)
    (hnext : Numbering.Next i sh.numbering tx .vehicle value) :
    ∀ vehicle ∈ sh.vehicles, vehicle.vehicleNumber ≠ Numbering.numberText .vehicle value := by
  intro vehicle hmem heq
  have hnumber : vehicle.vehicleNumber ∈ sh.vehicles.map (·.vehicleNumber) :=
    List.mem_map_of_mem hmem
  rw [hgood.numbers, heq] at hnumber
  obtain ⟨m, hm, hsame⟩ := List.mem_map.mp hnumber
  rw [Numbering.numberText_injective _ hsame] at hm
  -- all committed numbers are below the next one
  obtain ⟨-, hpositive, hcount⟩ := hnext
  have hbelow : value ∈ Numbering.countdown (value - 1) := hcount ▸ List.mem_append_right _ hm
  have := (Numbering.mem_countdown.mp hbelow).2
  omega

omit [DecidableEq ι] in
/-- **A new row clashes by its VIN only.** -/
theorem clash_iff (hgood : Good sh) (hknows : Knows i sh lo) (hcreating : lo.stage = .creating)
    (hrow : newRow sh lo id = some row) (hmem : vehicle ∈ sh.vehicles) :
    Clash row vehicle ↔ vehicle.vin = row.vin := by
  obtain ⟨tx, series, value, htx, rfl, -⟩ := newRow_eq_some hrow
  have hstage := hknows.stage
  rw [AtStage, hcreating, htx] at hstage
  obtain ⟨-, rfl⟩ : tx.rows = [] ∧ series = .vehicle := hstage
  have hnumbering := hknows.numbering
  rw [htx] at hnumbering
  have hnumber := number_new hgood hnumbering.2.2 vehicle hmem
  constructor
  · rintro (hvin | hsame | ⟨hstamm, -⟩)
    · exact hvin.symm
    · exact absurd hsame.symm hnumber
    · exact absurd hknows.call hstamm
  · exact fun hvin => .inl hvin.symm

theorem flush_knows (hgood : Good sh) (hknows : Knows i sh lo) (hcreating : lo.stage = .creating)
    (hrow : newRow sh lo id = some row) (hfree : ¬ ∃ vehicle ∈ sh.vehicles, Clash row vehicle)
    (h : (number i .insertRow sh lo).map (fun (sh, lo) =>
      (({ sh with flushed := (i, row) :: sh.flushed } : Shared ι),
        { lo with stage := .flushed row })) = some (sh', lo')) :
    Good sh' ∧ Moves i sh sh' ∧ Knows i sh' lo' := by
  obtain ⟨⟨sh₁, lo₁⟩, hnumber, heq⟩ := Option.map_eq_some_iff.mp h
  obtain ⟨numbering, tx', hstep, rfl, rfl⟩ := number_eq_some.mp hnumber
  cases heq
  have hmine := hknows.not_mine (fun vehicle => by rw [hcreating]; exact Stage.noConfusion)
  obtain ⟨hgood', hmoves, hknows'⟩ :=
    moves_numbering hgood hknows.numbering hmine (by exact nofun) hstep
  have hfresh : ∀ other ∈ sh.vehicles, other.vin ≠ row.vin := fun other hmem hvin =>
    hfree ⟨other, hmem, (clash_iff hgood hknows hcreating hrow hmem).mpr hvin⟩
  obtain ⟨tx, series, value, htx, rfl, hid⟩ := newRow_eq_some hrow
  have hstage := hknows.stage
  rw [AtStage, hcreating, htx] at hstage
  obtain ⟨hrows, rfl⟩ : tx.rows = [] ∧ series = .vehicle := hstage
  have hnumbering := hknows.numbering
  rw [htx] at hnumbering hstep
  have hholds : sh.numbering.holder .vehicle = some i := hnumbering.2.2.1
  obtain ⟨rfl, rfl⟩ : numbering = sh.numbering ∧
      tx' = .opened { tx with rows := (.vehicle, value) :: tx.rows } := by
    cases hstep
    exact ⟨rfl, rfl⟩
  refine ⟨⟨hgood'.numbering, hgood'.numbers, hgood'.vins, ?_⟩,
    ⟨hmoves.leaves, hmoves.locks, hmoves.vehicles, ?_⟩, hknows', ?_, fun _ => trivial, ?_, hknows.call⟩
  · exact List.forall_mem_cons.mpr ⟨hholds, hgood'.flushed⟩
  · intro other hother hne
    rcases List.mem_cons.mp hother with rfl | hother
    · exact absurd rfl hne
    · exact hother
  · exact ⟨⟨_, value, rfl, by rw [hrows], rfl⟩, rfl, hholds, hfresh, hid⟩
  · intro other hother hown
    rcases List.mem_cons.mp hother with rfl | hother
    · rfl
    · exact absurd hown (hmine other hother)

theorem commit_knows (hgood : Good sh) (hknows : Knows i sh lo)
    (hflushed : lo.stage = .flushed vehicle) (h : commit i vehicle sh lo = some (sh', lo')) :
    Good sh' ∧ Moves i sh sh' ∧ Knows i sh' lo' := by
  obtain ⟨⟨sh₁, lo₁⟩, hnumber, heq⟩ := Option.map_eq_some_iff.mp h
  obtain ⟨numbering, tx', hstep, rfl, rfl⟩ := number_eq_some.mp hnumber
  cases heq
  have hstage := hknows.stage
  rw [AtStage, hflushed] at hstage
  obtain ⟨⟨tx, value, htx, hrows, hvalue⟩, hvin, hholds, hfresh, -⟩ := hstage
  have hnumbering := hknows.numbering
  rw [htx] at hnumbering hstep
  obtain ⟨hgood', hleaves, hknows'⟩ := Numbering.step_knows hgood.numbering hnumbering hstep
  obtain ⟨-, hlocks⟩ := Numbering.step_frame hstep
  obtain ⟨rfl, rfl⟩ : numbering = Numbering.commit i tx sh.numbering ∧ tx' = .opened {} := by
    cases hstep
    exact ⟨rfl, rfl⟩
  refine ⟨⟨hgood', ?_, List.nodup_cons.mpr ⟨?_, hgood.vins⟩, ?_⟩,
    ⟨hleaves, hlocks _, .inr ⟨hholds, vehicle, rfl⟩, fun row hrow _ => (List.mem_filter.mp hrow).1⟩,
    hknows', ⟨List.mem_cons_self, hvin⟩,
    fun hholder => absurd hholder (Numbering.unlock_own i _ _), ?_, hknows.call⟩
  · change vehicle.vehicleNumber :: sh.vehicles.map (·.vehicleNumber) =
      (tx.numbers .vehicle ++ sh.numbering.numbers .vehicle).map _
    have hone : tx.numbers .vehicle = [value] := by rw [Numbering.Tx.numbers, hrows]; rfl
    rw [hone, List.singleton_append, List.map_cons, hvalue, hgood.numbers]
  · intro hmem
    obtain ⟨other, hother, hsame⟩ := List.mem_map.mp hmem
    exact hfresh other hother hsame
  · intro row hrow
    obtain ⟨hold, hne⟩ := List.mem_filter.mp hrow
    exact hleaves.holder _ _ (of_decide_eq_true hne) (hgood.flushed row hold)
  · intro row hrow hown
    exact absurd hown (of_decide_eq_true (List.mem_filter.mp hrow).2)

theorem step_knows (hgood : Good sh) (hknows : Knows i sh lo)
    (h : step variants i choice sh lo = some (sh', lo')) :
    Good sh' ∧ Moves i sh sh' ∧ Knows i sh' lo' := by
  have hstage := hknows.stage
  unfold step at h
  split at h
  · next hlooking =>
    rw [AtStage, hlooking] at hstage
    split at h
    · next vehicle hfound =>
      cases h
      unfold getVehicleMdmByVin at hfound
      have hvin : vehicle.vin = lo.call.vin := by simpa using List.find?_some hfound
      exact ⟨hgood, .refl i sh,
        look_knows hknows hlooking ⟨List.mem_of_find?_eq_some hfound, hvin⟩⟩
    · cases h
      have hallocating : Allocating lo.tx := by rw [hstage]; rfl
      exact ⟨hgood, .refl i sh, look_knows hknows hlooking hallocating⟩
  · next c hcreating =>
    rw [AtStage, hcreating] at hstage
    split at h
    · next hc =>
      obtain ⟨numbering, tx', hstep, rfl, rfl⟩ := number_eq_some.mp h
      have hmine := hknows.not_mine (fun vehicle => by rw [hcreating]; exact Stage.noConfusion)
      obtain ⟨hgood', hmoves, hknows'⟩ := moves_numbering hgood hknows.numbering hmine
        (by rintro rfl; cases hc) hstep
      have hbusy := hknows.busy
      rw [show lo = { lo with stage := .creating, tx := lo.tx } by rw [← hcreating]] at hbusy
      obtain ⟨hallocating, hbusy'⟩ := allocates_step hc hstage hknows' hbusy hstep
      rw [← hcreating] at hbusy'
      refine ⟨hgood', hmoves, hknows', ?_, hbusy', fun row hrow hown => absurd hown (hmine row hrow),
        hknows.call⟩
      rw [AtStage, hcreating]
      exact hallocating
    · cases h
  · next id hcreating =>
    obtain ⟨row, hrow, hinsert⟩ := Option.bind_eq_some_iff.mp h
    unfold insert at hinsert
    split at hinsert
    · exact beaten_knows hgood hknows hcreating hinsert
    · next hfree =>
      split at hinsert
      · cases hinsert
      · split at hinsert
        · exact beaten_knows hgood hknows hcreating hinsert
        · exact flush_knows hgood hknows hcreating hrow hfree hinsert
  · next vehicle hflushed => exact commit_knows hgood hknows hflushed h
  · cases h

omit [DecidableEq ι] in
theorem inv_start (calls : ι → Call) (hcalls : ∀ i, (calls i).stammnummer = none) :
    Holds Good Knows (start calls) := by
  refine ⟨⟨Numbering.inv_start.1, rfl, .nil, nofun⟩, fun i => ?_⟩
  exact ⟨Numbering.knows_opened_empty i _, rfl, nofun, nofun, hcalls i⟩

variable {cfg : Config ι (Shared ι) Local}

theorem inv_move (h : Holds Good Knows cfg) (a : ι × Choice) :
    Holds Good Knows (move (step variants) cfg a) := by
  refine noninterference_all ?_ ?_ h a
  · intro i choice sh lo sh' lo' hgood hknows hstep
    obtain ⟨hgood', -, hknows'⟩ := step_knows hgood hknows hstep
    exact ⟨hgood', hknows'⟩
  · intro i j choice sh lo other sh' lo' hij hgood hknows hother hstep
    exact hother.moves (Ne.symm hij) (step_knows hgood hknows hstep).2.1

/-! ### Conflicts -/

def inserting (sh : Shared ι) (lo : Local) (choice : Choice) : Option VehicleMdm :=
  match lo.stage, choice with
  | .creating, .insert id => newRow sh lo id
  | _, _ => none

/-- A last attempt inserts a VIN that has been committed since its lookup, or names a
variant that is not there. -/
def Beaten (variants : Uuid → Bool) (cfg : Config ι (Shared ι) Local) (a : ι × Choice) : Prop :=
  LastAttempt (cfg.locals a.1) ∧
    ∃ row ∈ inserting cfg.shared (cfg.locals a.1) a.2,
      (∃ vehicle ∈ cfg.shared.vehicles, vehicle.vin = row.vin) ∨
        ∃ variant ∈ row.catalogueVariantId, variants variant = false

omit [DecidableEq ι] in
instance (variants : Uuid → Bool) (cfg : Config ι (Shared ι) Local) (a : ι × Choice) :
    Decidable (Beaten variants cfg a) :=
  inferInstanceAs (Decidable (_ ∧ ∃ row ∈ inserting cfg.shared (cfg.locals a.1) a.2,
    (∃ vehicle ∈ cfg.shared.vehicles, vehicle.vin = row.vin) ∨
      ∃ variant ∈ row.catalogueVariantId, variants variant = false))

omit [DecidableEq ι] in
theorem inserting_eq_some (h : inserting sh lo choice = some row) :
    ∃ id, lo.stage = .creating ∧ choice = .insert id ∧ newRow sh lo id = some row := by
  unfold inserting at h
  split at h
  · next id hcreating => exact ⟨id, hcreating, rfl, h⟩
  · cases h

theorem conflict_step (i : ι) (sh : Shared ι) (lo : Local) :
    (number i .rollback sh lo).map (fun (sh, lo) => (sh, conflict (vinExists lo.call.vin) lo)) =
      some ({ sh with numbering := Numbering.unlock i sh.numbering },
        if LastAttempt lo then
          { lo with stage := .refused (vinExists lo.call.vin), tx := .opened {} }
        else { lo with again := true, stage := .looking, tx := .opened {} }) := by
  have hconflict := conflict_eq { lo with tx := .opened {} }
  rw [number, Numbering.step_rollback]
  exact congrArg (fun lo => some (_, lo)) hconflict

omit [DecidableEq ι] in
/-- Nobody else has a row in flight while a session is past its number. -/
theorem no_clash_in_flight (hgood : Good sh) (hknows : Knows i sh lo)
    (hcreating : lo.stage = .creating) (hrow : newRow sh lo id = some row) :
    ¬ ∃ other ∈ sh.flushed, other.1 ≠ i ∧ Clash row other.2 := by
  rintro ⟨other, hother, hne, -⟩
  obtain ⟨tx, series, value, htx, -, -⟩ := newRow_eq_some hrow
  have hstage := hknows.stage
  rw [AtStage, hcreating, htx] at hstage
  obtain ⟨-, rfl⟩ : tx.rows = [] ∧ series = .vehicle := hstage
  have hnumbering := hknows.numbering
  rw [htx] at hnumbering
  have hholds : sh.numbering.holder .vehicle = some i := hnumbering.2.2.1
  rw [hgood.flushed other hother] at hholds
  exact hne (Option.some.inj hholds)

theorem beaten_of_refused {a : ι × Choice} {exc : AppError} (hinv : Holds Good Knows cfg)
    (h : step variants a.1 a.2 cfg.shared (cfg.locals a.1) = some (sh', lo'))
    (hrefused : lo'.stage = .refused exc) : Beaten variants cfg a := by
  obtain ⟨i, choice⟩ := a
  have hgood := hinv.1
  have hknows := hinv.2 i
  have hconflict : (number i .rollback cfg.shared (cfg.locals i)).map
      (fun (sh, lo) => (sh, conflict (vinExists lo.call.vin) lo)) = some (sh', lo') →
      LastAttempt (cfg.locals i) := by
    intro heq
    rw [conflict_step] at heq
    by_contra hlast
    rw [if_neg hlast] at heq
    cases heq
    cases hrefused
  change step variants i choice cfg.shared (cfg.locals i) = _ at h
  unfold step at h
  split at h
  · split at h <;> cases h <;> cases hrefused
  · next c hcreating =>
    split at h
    · obtain ⟨numbering, tx', -, rfl, rfl⟩ := number_eq_some.mp h
      rw [hcreating] at hrefused
      cases hrefused
    · cases h
  · next id hcreating =>
    obtain ⟨row, hrow, hinsert⟩ := Option.bind_eq_some_iff.mp h
    have hinserting : row ∈ inserting cfg.shared (cfg.locals i) (.insert id) := by
      unfold inserting
      rw [hcreating]
      exact hrow
    unfold insert at hinsert
    split at hinsert
    · next hclash =>
      obtain ⟨vehicle, hmem, hclash⟩ := hclash
      have hvin := (clash_iff hgood hknows hcreating hrow hmem).mp hclash
      exact ⟨hconflict hinsert, row, hinserting, .inl ⟨vehicle, hmem, hvin⟩⟩
    · split at hinsert
      · cases hinsert
      · split at hinsert
        · next hvariant => exact ⟨hconflict hinsert, row, hinserting, .inr hvariant⟩
        · obtain ⟨⟨sh₁, lo₁⟩, -, heq⟩ := Option.map_eq_some_iff.mp hinsert
          cases heq
          cases hrefused
  · obtain ⟨⟨sh₁, lo₁⟩, -, heq⟩ := Option.map_eq_some_iff.mp h
    cases heq
    cases hrefused
  · cases h

theorem refused_of_beaten {a : ι × Choice} (hinv : Holds Good Knows cfg) (h : Beaten variants cfg a) :
    ∃ exc, ((move (step variants) cfg a).locals a.1).stage = .refused exc := by
  obtain ⟨i, choice⟩ := a
  obtain ⟨hlast, row, hinserting, hbeaten⟩ := h
  have hgood := hinv.1
  have hknows := hinv.2 i
  obtain ⟨id, hcreating, rfl, hrow⟩ := inserting_eq_some hinserting
  have hstep : step variants i (.insert id) cfg.shared (cfg.locals i) =
      some ({ cfg.shared with numbering := Numbering.unlock i cfg.shared.numbering },
        { cfg.locals i with
          stage := .refused (vinExists (cfg.locals i).call.vin), tx := .opened {} }) := by
    have hconflict := conflict_step i cfg.shared (cfg.locals i)
    rw [if_pos hlast] at hconflict
    unfold step
    rw [hcreating]
    change (newRow cfg.shared (cfg.locals i) id).bind _ = _
    rw [hrow, Option.bind_some, insert]
    split
    · exact hconflict
    · next hfree =>
      rw [if_neg (no_clash_in_flight hgood hknows hcreating hrow)]
      rcases hbeaten with ⟨vehicle, hmem, hvin⟩ | hvariant
      · exact absurd ⟨vehicle, hmem, (clash_iff hgood hknows hcreating hrow hmem).mpr hvin⟩ hfree
      · rw [if_pos hvariant]
        exact hconflict
  refine ⟨vinExists (cfg.locals i).call.vin, ?_⟩
  rw [move_some hstep]
  exact congrArg Local.stage (Function.update_self i _ cfg.locals)

/-! ### Answers -/

theorem step_answers (h : step variants i choice sh lo = some (sh', lo')) :
    lo'.call = lo.call ∧ (∀ vehicle created, lo.stage ≠ .answered vehicle created) ∧
      ((sh'.vehicles = sh.vehicles ∧ ∀ vehicle, lo'.stage ≠ .answered vehicle true) ∨
        ∃ vehicle, lo.stage = .flushed vehicle ∧ sh'.vehicles = vehicle :: sh.vehicles ∧
          lo'.stage = .answered vehicle true) := by
  have hconflict : (number i .rollback sh lo).map
      (fun (sh, lo) => (sh, conflict (vinExists lo.call.vin) lo)) = some (sh', lo') →
      lo'.call = lo.call ∧ sh'.vehicles = sh.vehicles ∧
        ∀ vehicle, lo'.stage ≠ .answered vehicle true := by
    intro heq
    rw [conflict_step] at heq
    split at heq <;> cases heq <;> exact ⟨rfl, rfl, fun _ => Stage.noConfusion⟩
  unfold step at h
  split at h
  · next hstage =>
    have hnot : ∀ vehicle created, lo.stage ≠ .answered vehicle created := fun _ _ heq => by
      rw [hstage] at heq; cases heq
    split at h <;> cases h <;> exact ⟨rfl, hnot, .inl ⟨rfl, nofun⟩⟩
  · next c hstage =>
    split at h
    · obtain ⟨numbering, tx', -, rfl, rfl⟩ := number_eq_some.mp h
      exact ⟨rfl, fun _ _ heq => (by rw [hstage] at heq; cases heq),
        .inl ⟨rfl, fun _ heq => by rw [hstage] at heq; cases heq⟩⟩
    · cases h
  · next id hstage =>
    have hsame : lo'.call = lo.call ∧ sh'.vehicles = sh.vehicles ∧
        ∀ vehicle, lo'.stage ≠ .answered vehicle true := by
      obtain ⟨row, -, hinsert⟩ := Option.bind_eq_some_iff.mp h
      unfold insert at hinsert
      split at hinsert
      · exact hconflict hinsert
      · split at hinsert
        · cases hinsert
        · split at hinsert
          · exact hconflict hinsert
          · obtain ⟨⟨sh₁, lo₁⟩, hnumber, heq⟩ := Option.map_eq_some_iff.mp hinsert
            obtain ⟨numbering, tx', -, rfl, rfl⟩ := number_eq_some.mp hnumber
            cases heq
            exact ⟨rfl, rfl, fun _ => Stage.noConfusion⟩
    exact ⟨hsame.1, fun _ _ heq => (by rw [hstage] at heq; cases heq), .inl hsame.2⟩
  · next vehicle hstage =>
    obtain ⟨⟨sh₁, lo₁⟩, hnumber, heq⟩ := Option.map_eq_some_iff.mp h
    obtain ⟨numbering, tx', -, rfl, rfl⟩ := number_eq_some.mp hnumber
    cases heq
    exact ⟨rfl, fun _ _ heq => (by rw [hstage] at heq; cases heq), .inr ⟨vehicle, hstage, rfl, rfl⟩⟩
  · cases h

def Created (cfg : Config ι (Shared ι) Local) : Prop :=
  ∀ vehicle ∈ cfg.shared.vehicles, ∃! i, (cfg.locals i).stage = .answered vehicle true

theorem created_move (hinv : Holds Good Knows cfg) (hcreated : Created cfg) (a : ι × Choice) :
    Created (move (step variants) cfg a) := by
  obtain ⟨i, choice⟩ := a
  cases hstep : step variants i choice cfg.shared (cfg.locals i) with
  | none => rw [move_none hstep]; exact hcreated
  | some result =>
    obtain ⟨sh', lo'⟩ := result
    rw [move_some hstep]
    obtain ⟨-, hbefore, ⟨hsame, hafter⟩ | ⟨new, hflushed, hnew, hanswered⟩⟩ := step_answers hstep
    · -- nobody is told anything about a new vehicle
      intro vehicle hmem
      obtain ⟨j, hj, hunique⟩ := hcreated vehicle (hsame ▸ hmem)
      have hne : j ≠ i := by rintro rfl; exact hbefore _ _ hj
      refine ⟨j, by simpa only [Function.update_of_ne hne] using hj, fun k hk => ?_⟩
      by_cases hki : k = i
      · subst hki
        simp only [Function.update_self] at hk
        exact absurd hk (hafter vehicle)
      · simp only [Function.update_of_ne hki] at hk
        exact hunique k hk
    · have hstage := (hinv.2 i).stage
      rw [AtStage, hflushed] at hstage
      intro vehicle hmem
      change vehicle ∈ sh'.vehicles at hmem
      rw [hnew] at hmem
      rcases List.mem_cons.mp hmem with rfl | hmem
      · -- the new one: nobody else has been answered with it
        refine ⟨i, by simpa only [Function.update_self] using hanswered, fun k hk => ?_⟩
        by_contra hki
        simp only [Function.update_of_ne hki] at hk
        have hother := (hinv.2 k).stage
        rw [AtStage, hk] at hother
        exact hstage.id vehicle hother.1 rfl
      · obtain ⟨j, hj, hunique⟩ := hcreated vehicle hmem
        have hne : j ≠ i := by rintro rfl; exact hbefore _ _ hj
        refine ⟨j, by simpa only [Function.update_of_ne hne] using hj, fun k hk => ?_⟩
        by_cases hki : k = i
        · subst hki
          simp only [Function.update_self, hanswered] at hk
          cases hk
          exact absurd rfl (hstage.id _ hmem)
        · simp only [Function.update_of_ne hki] at hk
          exact hunique k hk

/-! ### Nobody waits for ever -/

omit [DecidableEq ι] in
theorem exists_new_id (sh : Shared ι) :
    ∃ id, (∀ vehicle ∈ sh.vehicles, vehicle.id ≠ id) ∧ ∀ row ∈ sh.flushed, row.2.id ≠ id := by
  obtain ⟨id, hid⟩ := Infinite.exists_notMem_finset
    (sh.vehicles.map (·.id) ++ sh.flushed.map (·.2.id)).toFinset
  rw [List.mem_toFinset, List.mem_append, not_or] at hid
  exact ⟨id, fun vehicle hmem heq => hid.1 (heq ▸ List.mem_map_of_mem hmem),
    fun row hmem heq => hid.2 (List.mem_map.mpr ⟨row, hmem, heq⟩)⟩

theorem step_of_holder (variants : Uuid → Bool) (hgood : Good sh) (hknows : Knows i sh lo)
    (hholder : sh.numbering.holder .vehicle = some i) :
    ∃ choice, (step variants i choice sh lo).isSome := by
  have hbusy := hknows.busy hholder
  have hstage := hknows.stage
  unfold Busy at hbusy
  split at hbusy
  · next tx series hcreating htx =>
    rw [AtStage, hcreating, htx] at hstage
    obtain ⟨-, rfl⟩ : tx.rows = [] ∧ series = .vehicle := hstage
    have hnumbering := hknows.numbering
    rw [htx] at hnumbering
    refine ⟨.allocator .reread, ?_⟩
    have hlock : (Numbering.lockCounter i .vehicle tx sh.numbering).isSome := by
      unfold Numbering.lockCounter
      split
      · rfl
      · rfl
      · rw [if_pos (.inr hholder)]; rfl
    unfold step
    rw [hcreating]
    change (number i .reread sh lo).isSome
    rw [number, htx, Option.isSome_map]
    exact (Option.isSome_map ..).trans hlock
  · next tx series value hcreating htx =>
    refine ⟨.allocator .count, ?_⟩
    unfold step
    rw [hcreating]
    change (number i .count sh lo).isSome
    rw [number, htx]
    rfl
  · next tx series value hcreating htx =>
    -- any id that is not taken goes through
    obtain ⟨id, hid⟩ := exists_new_id sh
    refine ⟨.insert id, ?_⟩
    have hrow : newRow sh lo id = some (lo.call.row id (Numbering.numberText series value)) := by
      rw [newRow, htx]
      exact if_pos hid
    unfold step
    rw [hcreating]
    change ((newRow sh lo id).bind fun row => insert variants i row sh lo).isSome
    rw [hrow, Option.bind_some, insert, if_neg (no_clash_in_flight hgood hknows hcreating hrow),
      conflict_step]
    split
    · rfl
    · split
      · rfl
      · rw [number, htx]; rfl
  · next tx vehicle hflushed =>
    rw [AtStage, hflushed] at hstage
    obtain ⟨tx, value, htx, -, -⟩ := hstage.tx
    refine ⟨.commit, ?_⟩
    unfold step
    rw [hflushed]
    change (commit i vehicle sh lo).isSome
    rw [commit, number, htx]
    rfl
  · exact hbusy.elim

theorem lockCounter_eq_none {tx : Numbering.Tx}
    (h : Numbering.lockCounter i .vehicle tx numbering = none) :
    ∃ j, numbering.holder .vehicle = some j := by
  unfold Numbering.lockCounter at h
  split at h
  · cases h
  · cases h
  · split at h
    · cases h
    · next hfree => exact Option.ne_none_iff_exists'.mp fun hnone => hfree (.inl hnone)

theorem holder_of_unanswered (hknows : Knows i sh lo)
    (hblocked : ∀ choice, step variants i choice sh lo = none)
    (hrefused : ∀ exc, lo.stage ≠ .refused exc)
    (hanswered : ∀ vehicle created, lo.stage ≠ .answered vehicle created) :
    ∃ j, sh.numbering.holder .vehicle = some j := by
  have hstage := hknows.stage
  rw [AtStage] at hstage
  split at hstage
  · next hlooking =>
    have hlook := hblocked .look
    unfold step at hlook
    rw [hlooking] at hlook
    cases hfound : getVehicleMdmByVin sh lo.call.vin <;> simp [hfound] at hlook
  · next hcreating =>
    have hallocator : ∀ c, allocates c = true → Numbering.step i c sh.numbering lo.tx = none := by
      intro c hc
      have hnone := hblocked (.allocator c)
      unfold step at hnone
      rw [hcreating] at hnone
      change (if allocates c then number i c sh lo else none) = none at hnone
      rw [if_pos hc, number, Option.map_eq_none_iff] at hnone
      exact hnone
    have hnumbering := hknows.numbering
    cases htx : lo.tx with
    | opened tx =>
      have hnone := hallocator (.allocate .vehicle) rfl
      rw [htx] at hnone
      exact lockCounter_eq_none (Option.map_eq_none_iff.mp hnone)
    | missing tx series =>
      have hnone := hallocator .insertCounter rfl
      rw [htx] at hstage hnone
      obtain ⟨-, rfl⟩ : tx.rows = [] ∧ series = .vehicle := hstage
      change Numbering.insertCounter i .vehicle tx sh.numbering = none at hnone
      unfold Numbering.insertCounter at hnone
      split at hnone
      · cases hnone
      · split at hnone
        · cases hnone
        · next hfree => exact Option.ne_none_iff_exists'.mp hfree
    | rereading tx series =>
      have hnone := hallocator .reread rfl
      rw [htx] at hstage hnone
      obtain ⟨-, rfl⟩ : tx.rows = [] ∧ series = .vehicle := hstage
      exact lockCounter_eq_none (Option.map_eq_none_iff.mp hnone)
    | counting tx series value =>
      have hnone := hallocator .count rfl
      rw [htx] at hnone
      cases hnone
    | numbered tx series value =>
      rw [htx] at hstage hnumbering
      obtain ⟨-, rfl⟩ : tx.rows = [] ∧ series = .vehicle := hstage
      exact ⟨i, hnumbering.2.2.1⟩
    | broken =>
      rw [htx] at hstage
      exact hstage.elim
  · -- the row is flushed: the session itself holds the counter
    exact ⟨i, hstage.holds⟩
  · next heq => exact absurd heq (hanswered _ _)
  · next heq => exact absurd heq (hrefused _)

theorem answered_of_blocked (hinv : Holds Good Knows cfg)
    (hrefused : ∀ i exc, (cfg.locals i).stage ≠ .refused exc)
    (hblocked : ∀ i choice, step variants i choice cfg.shared (cfg.locals i) = none) (i : ι) :
    ∃ vehicle created, (cfg.locals i).stage = .answered vehicle created := by
  by_contra hunanswered
  obtain ⟨j, hholder⟩ := holder_of_unanswered (hinv.2 i) (hblocked i) (hrefused i)
    (fun vehicle created heq => hunanswered ⟨vehicle, created, heq⟩)
  obtain ⟨choice, hmoves⟩ := step_of_holder variants hinv.1 (hinv.2 j) hholder
  rw [hblocked j choice] at hmoves
  cases hmoves

/-! ### One car -/

/-- What a run is to leave: one vehicle for each VIN, every answer that vehicle, one
caller that has created it, no refusal, and nobody waiting for ever. -/
structure OneCar (variants : Uuid → Bool) (calls : ι → Call) (cfg : Config ι (Shared ι) Local) :
    Prop where
  vins : (cfg.shared.vehicles.map (·.vin)).Nodup
  answered : ∀ i vehicle created, (cfg.locals i).stage = .answered vehicle created →
    vehicle ∈ cfg.shared.vehicles ∧ vehicle.vin = (calls i).vin
  created : Created cfg
  notRefused : ∀ i exc, (cfg.locals i).stage ≠ .refused exc
  finished : (∀ i choice, step variants i choice cfg.shared (cfg.locals i) = none) →
    ∀ i, ∃ vehicle created, (cfg.locals i).stage = .answered vehicle created

/-- The sessions, their calls, and the creators. -/
structure Inv (calls : ι → Call) (cfg : Config ι (Shared ι) Local) : Prop where
  holds : Holds Good Knows cfg
  calls : ∀ i, (cfg.locals i).call = calls i
  created : Created cfg

theorem Inv.move {calls : ι → Call} {cfg : Config ι (Shared ι) Local} (h : Inv calls cfg)
    (a : ι × Choice) : Inv calls (move (step variants) cfg a) := by
  refine ⟨inv_move h.holds a, fun j => ?_, created_move h.holds h.created a⟩
  cases hstep : step variants a.1 a.2 cfg.shared (cfg.locals a.1) with
  | none => rw [move_none hstep]; exact h.calls j
  | some result =>
    rw [move_some hstep]
    by_cases hj : j = a.1
    · subst hj
      simp only [Function.update_self]
      rw [(step_answers hstep).1]
      exact h.calls a.1
    · simp only [Function.update_of_ne hj]
      exact h.calls j

theorem refused_move {i : ι} {exc : AppError} (h : (cfg.locals i).stage = .refused exc)
    (a : ι × Choice) : ((move (step variants) cfg a).locals i).stage = .refused exc := by
  cases hstep : step variants a.1 a.2 cfg.shared (cfg.locals a.1) with
  | none => rw [move_none hstep]; exact h
  | some result =>
    rw [move_some hstep]
    by_cases hi : i = a.1
    · subst hi
      unfold step at hstep
      rw [h] at hstep
      cases hstep
    · simp only [Function.update_of_ne hi]
      exact h

theorem not_refused_iff {calls : ι → Call} (run : List (ι × Choice)) :
    ∀ {cfg : Config ι (Shared ι) Local}, Inv calls cfg →
      (∀ i exc, (cfg.locals i).stage ≠ .refused exc) →
      ((∀ i exc, ((run.foldl (move (step variants)) cfg).locals i).stage ≠ .refused exc) ↔
        Along (move (step variants)) (fun cfg a => ¬ Beaten variants cfg a) cfg run) := by
  induction run with
  | nil => exact fun _ hrefused => ⟨fun _ => trivial, fun _ => hrefused⟩
  | cons a run ih =>
    intro cfg hinv hrefused
    rw [List.foldl_cons]
    by_cases hbeaten : Beaten variants cfg a
    · -- refused by this step, and still at the end
      refine ⟨fun hend => ?_, fun halong => absurd hbeaten halong.1⟩
      obtain ⟨exc, hnow⟩ := refused_of_beaten hinv.holds hbeaten
      have hstable : ∀ (cfg : Config ι (Shared ι) Local) (b : ι × Choice),
          (cfg.locals a.1).stage = .refused exc →
          ((move (step variants) cfg b).locals a.1).stage = .refused exc :=
        fun _ b h => refused_move h b
      exact absurd (Run.invariant hstable hnow run) (hend a.1 exc)
    · have hnow : ∀ i exc, ((move (step variants) cfg a).locals i).stage ≠ .refused exc := by
        intro i exc hi
        cases hstep : step variants a.1 a.2 cfg.shared (cfg.locals a.1) with
        | none => rw [move_none hstep] at hi; exact hrefused i exc hi
        | some result =>
          rw [move_some hstep] at hi
          by_cases hai : i = a.1
          · subst hai
            simp only [Function.update_self] at hi
            exact hbeaten (beaten_of_refused hinv.holds hstep hi)
          · simp only [Function.update_of_ne hai] at hi
            exact hrefused i exc hi
      rw [ih (hinv.move a) hnow]
      exact ⟨fun halong => ⟨hbeaten, halong⟩, fun halong => halong.2⟩

/-- **One VIN, one car.**  For any callers without a Stammnummer and any interleaving:
the run leaves one vehicle for each VIN, every caller answered with it and none refused,
exactly when no last attempt is beaten. -/
theorem one_vin_one_car (variants : Uuid → Bool) (calls : ι → Call)
    (hcalls : ∀ i, (calls i).stammnummer = none) (run : List (ι × Choice)) :
    OneCar variants calls (run.foldl (move (step variants)) (start calls)) ↔
      Along (move (step variants)) (fun cfg a => ¬ Beaten variants cfg a) (start calls) run := by
  have hstart : Inv calls (start calls) :=
    ⟨inv_start calls hcalls, fun _ => rfl, nofun⟩
  have hmove : ∀ (cfg : Config ι (Shared ι) Local) (a : ι × Choice), Inv calls cfg →
      Inv calls (move (step variants) cfg a) := fun _ a h => h.move a
  have hinv := Run.invariant hmove hstart run
  rw [← not_refused_iff run hstart (fun _ _ => Stage.noConfusion)]
  refine ⟨fun h => h.notRefused, fun hrefused => ⟨hinv.holds.1.vins, ?_, hinv.created, hrefused,
    fun hblocked i => answered_of_blocked hinv.holds hrefused hblocked i⟩⟩
  intro i vehicle created hi
  have hstage := (hinv.holds.2 i).stage
  rw [AtStage, hi] at hstage
  exact ⟨hstage.1, hstage.2.trans (congrArg Call.vin (hinv.calls i))⟩

/-- Both callers look before the first of them inserts the first vehicle there is. -/
def raced (vin : String) (first second : Caller) : (Bool → Call) × List (Bool × Choice) :=
  (fun i => ⟨bif i then second else first, vin, none, none, none, none⟩,
    [(false, .look), (true, .look), (false, .allocator (.allocate .vehicle)),
      (false, .allocator .insertCounter), (false, .allocator .reread), (false, .allocator .count),
      (false, .insert 1), (false, .commit), (true, .allocator (.allocate .vehicle)),
      (true, .allocator .count), (true, .insert 2), (true, .look)])

theorem one_vin_one_car_raced :
    let (calls, run) := raced "ZAR94000007123456" .createVehicle .resolveVehicleId
    OneCar (fun _ => false) calls (run.foldl (move (step fun _ => false)) (start calls)) :=
  (one_vin_one_car (fun _ => false) _ (fun _ => rfl) _).mpr (by decide +kernel)

/-- Two `POST /vehicle-mdm` with one VIN: the second is answered with a conflict. -/
theorem one_vin_one_car_refuted :
    ¬ ∀ (calls : Bool → Call) (run : List (Bool × Choice)), (∀ i, (calls i).stammnummer = none) →
      OneCar (fun _ => false) calls (run.foldl (move (step fun _ => false)) (start calls)) := by
  intro hall
  let scene := raced "ZAR94000007123456" .createVehicle .createVehicle
  have hrefused : ((scene.2.foldl (move (step fun _ => false)) (start scene.1)).locals true).stage =
      .refused (vinExists "ZAR94000007123456") := by decide +kernel
  exact (hall scene.1 scene.2 fun _ => rfl).notRefused true _ hrefused

end Nexotec.VinResolution
