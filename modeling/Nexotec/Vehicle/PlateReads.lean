/-
The limit on reads of plate histories (`app/vehicle/services/plate_read_guard.py`).

A read takes the advisory lock of its user, counts the vehicles whose plates the user has read in
the window that ends now, writes its audit row and commits, and only then reads the plates.  The
lock is held until the commit.

  idle → waiting → locked → counted → decided → (answered)

* `Sound`, `Knows` — what holds of the committed rows, and what a session knows of them.
-/
import Nexotec.Lib.Locks
import Nexotec.Lib.SlidingWindow
import Nexotec.Vehicle.VehicleMerge

namespace Nexotec.PlateReads

open VehicleMerge Locks Interleaving SlidingWindow

/-! ### Reads -/

inductive Action where
  | plateRead
  | plateReadRefused
  deriving DecidableEq

def refusalReason : String := "plate_read_limit_reached"

/-- A call of `read_plate_history`. -/
structure Call where
  actorId : Uuid
  tenantId : Uuid
  vehicleId : Uuid
  purpose : String

/-- An audit row of entity type `vehicle_plate_history`; `read` is the session's read it stands for. -/
structure AuditEvent (ι : Type) where
  entityId : Uuid
  tenantId : Uuid
  actorId : Uuid
  action : Action
  reason : String
  createdAt : Time
  read : ι × ℕ

/-- What a read returned. -/
structure Outcome (ι : Type) where
  read : ι × ℕ
  call : Call
  plates : Option (List (Uuid × VehiclePlate))

structure Settings where
  plateReadLimit : ℕ := 60
  plateReadWindowSeconds : ℕ := 3600

/-- `timedelta(seconds=plate_read_window_seconds)`. -/
def Settings.window (settings : Settings) : Time := settings.plateReadWindowSeconds * 1000000

/-- The committed rows, the advisory locks and the answers so far. -/
structure Shared (ι : Type) where
  events : List (AuditEvent ι) := []
  grants : List (Grant ι ℤ) := []
  outcomes : List (Outcome ι) := []
  db : Db := {}

inductive Phase where
  | idle
  | waiting (call : Call)
  | locked (call : Call)
  | counted (call : Call) (now : Time) (alreadyRead : Finset Uuid)
  | decided (call : Call) (allowed : Bool)

/-- A session with the number of its reads so far. -/
structure Session where
  count : ℕ := 0
  phase : Phase := .idle

inductive Choice where
  | call (call : Call)
  | go
  | read (now : Time)
  | commit (stamp : Time)
  | fail

section

variable {ι : Type} [DecidableEq ι]

/-- The reads of an actor that were answered, with the vehicle and the time of each. -/
def answered (events : List (AuditEvent ι)) (actorId : Uuid) : List (Uuid × Time) :=
  (events.filter fun e => e.action = .plateRead ∧ e.actorId = actorId).map fun e =>
    (e.entityId, e.createdAt)

/-- `allowed`. -/
def isAllowed (settings : Settings) (alreadyRead : Finset Uuid) (vehicleId : Uuid) : Bool :=
  vehicleId ∈ alreadyRead ∨ alreadyRead.card < settings.plateReadLimit

def auditRow (call : Call) (allowed : Bool) (createdAt : Time) (read : ι × ℕ) : AuditEvent ι where
  entityId := call.vehicleId
  tenantId := call.tenantId
  actorId := call.actorId
  action := if allowed then .plateRead else .plateReadRefused
  reason := if allowed then call.purpose else call.purpose ++ ": " ++ refusalReason
  createdAt := createdAt
  read := read

/-- The next statement of a session.  `lockKey` is the key of an actor's lock; under one lock the
clock does not go back. -/
def step (settings : Settings) (lockKey : Uuid → ℤ) (i : ι) (ch : Choice) (sh : Shared ι)
    (lo : Session) : Option (Shared ι × Session) :=
  match lo.phase, ch with
  | .idle, .call call => some (sh, { lo with phase := .waiting call })
  | .waiting call, .go =>
    if Free sh.grants i (lockKey call.actorId) .update then
      some ({ sh with grants := acquire i (lockKey call.actorId) .update sh.grants },
        { lo with phase := .locked call })
    else none
  | .locked call, .read now =>
    if ∀ e ∈ sh.events, lockKey e.actorId = lockKey call.actorId → e.createdAt ≤ now then
      let alreadyRead := keysSince (answered sh.events call.actorId) (now - settings.window)
      some (sh, { lo with phase := .counted call now alreadyRead })
    else none
  | .counted call now alreadyRead, .commit stamp =>
    if now ≤ stamp then
      let allowed := isAllowed settings alreadyRead call.vehicleId
      some ({ sh with
          events := sh.events ++ [auditRow call allowed stamp (i, lo.count)]
          grants := Locks.release i sh.grants },
        { count := lo.count + 1, phase := .decided call allowed })
    else none
  | .decided call allowed, .go =>
    some ({ sh with outcomes := sh.outcomes ++ [{
          read := (i, lo.count - 1)
          call := call
          plates := if allowed then some (plateHistory sh.db call.vehicleId) else none }] },
      { lo with phase := .idle })
  | .waiting _, .fail | .locked _, .fail | .counted .., .fail | .decided .., .fail =>
    some ({ sh with grants := Locks.release i sh.grants }, { lo with phase := .idle })
  | _, _ => none

def opening (db : Db) : Config ι (Shared ι) Session :=
  ⟨{ db := db }, fun _ => {}⟩

end

section Steps

variable {ι : Type} [DecidableEq ι] {settings : Settings} {lockKey : Uuid → ℤ} {i j : ι} {ch : Choice}
  {sh sh' : Shared ι} {lo lo' : Session}

/-- The moves of a session. -/
inductive Moves (settings : Settings) (lockKey : Uuid → ℤ) (i : ι) (sh : Shared ι) :
    Session → Shared ι → Session → Prop where
  | begins (n : ℕ) (call : Call) : Moves settings lockKey i sh ⟨n, .idle⟩ sh ⟨n, .waiting call⟩
  | locks (n : ℕ) (call : Call) (hfree : Free sh.grants i (lockKey call.actorId) .update) :
    Moves settings lockKey i sh ⟨n, .waiting call⟩
      { sh with grants := acquire i (lockKey call.actorId) .update sh.grants } ⟨n, .locked call⟩
  | counts (n : ℕ) (call : Call) (now : Time)
      (hpast : ∀ e ∈ sh.events, lockKey e.actorId = lockKey call.actorId → e.createdAt ≤ now) :
    Moves settings lockKey i sh ⟨n, .locked call⟩ sh
      ⟨n, .counted call now (keysSince (answered sh.events call.actorId) (now - settings.window))⟩
  | commits (n : ℕ) (call : Call) (now stamp : Time) (alreadyRead : Finset Uuid)
      (hstamp : now ≤ stamp) :
    Moves settings lockKey i sh ⟨n, .counted call now alreadyRead⟩
      { sh with
        events := sh.events ++
          [auditRow call (isAllowed settings alreadyRead call.vehicleId) stamp (i, n)]
        grants := Locks.release i sh.grants }
      ⟨n + 1, .decided call (isAllowed settings alreadyRead call.vehicleId)⟩
  | answers (n : ℕ) (call : Call) (allowed : Bool) :
    Moves settings lockKey i sh ⟨n, .decided call allowed⟩
      { sh with outcomes := sh.outcomes ++ [{
          read := (i, n - 1)
          call := call
          plates := if allowed then some (plateHistory sh.db call.vehicleId) else none }] }
      ⟨n, .idle⟩
  | fails (n : ℕ) (phase : Phase) :
    Moves settings lockKey i sh ⟨n, phase⟩ { sh with grants := Locks.release i sh.grants } ⟨n, .idle⟩

theorem moves_of_step (h : step settings lockKey i ch sh lo = some (sh', lo')) :
    Moves settings lockKey i sh lo sh' lo' := by
  obtain ⟨n, phase⟩ := lo
  unfold step at h
  dsimp only at h
  split at h
  · cases h
    exact .begins n _
  · split at h
    · next hfree =>
      cases h
      exact .locks n _ hfree
    · cases h
  · split at h
    · next hpast =>
      cases h
      exact .counts n _ _ hpast
    · cases h
  · split at h
    · next hstamp =>
      cases h
      exact .commits n _ _ _ _ hstamp
    · cases h
  · cases h
    exact .answers n _ _
  all_goals first
    | cases h
      exact .fails n _
    | cases h

end Steps

section Rows

variable {ι : Type} {settings : Settings} {lockKey : Uuid → ℤ} {i j : ι}
  {sh sh' : Shared ι} {lo lo' : Session}

/-- The row is the one of that read, with its outcome. -/
structure Records (event : AuditEvent ι) (read : ι × ℕ) (call : Call) (allowed : Bool) : Prop where
  read : event.read = read
  actor : event.actorId = call.actorId
  tenant : event.tenantId = call.tenantId
  vehicle : event.entityId = call.vehicleId
  action : event.action = .plateRead ↔ allowed = true

/-- A vehicle that was answered is not refused within the window. -/
def NotRefused (settings : Settings) (before refused : AuditEvent ι) : Prop :=
  refused.action = .plateReadRefused → before.action = .plateRead →
    before.actorId = refused.actorId → before.entityId = refused.entityId →
    before.createdAt + settings.window < refused.createdAt

structure Sound (settings : Settings) (sh : Shared ι) : Prop where
  compatible : Compatible sh.grants
  limited : ∀ actorId, Bounded settings.window settings.plateReadLimit (answered sh.events actorId)
  once : (sh.events.map (·.read)).Nodup
  audited : ∀ o ∈ sh.outcomes, ∃ e ∈ sh.events, Records e o.read o.call o.plates.isSome
  kept : sh.events.Pairwise (NotRefused settings)

/-- What a session knows where it stands: under the lock, what it has counted is what there is. -/
def Phase.Knows (settings : Settings) (lockKey : Uuid → ℤ) (i : ι) (sh : Shared ι) (n : ℕ) :
    Phase → Prop
  | .idle | .waiting _ => True
  | .locked call => Held sh.grants i (lockKey call.actorId) .update
  | .counted call now alreadyRead => Held sh.grants i (lockKey call.actorId) .update ∧
      alreadyRead = keysSince (answered sh.events call.actorId) (now - settings.window) ∧
      ∀ e ∈ sh.events, e.actorId = call.actorId → e.createdAt ≤ now
  | .decided call allowed => ∃ e ∈ sh.events, Records e (i, n - 1) call allowed

/-- A session's reads are numbered; it knows what its phase says. -/
structure Knows (settings : Settings) (lockKey : Uuid → ℤ) (i : ι) (sh : Shared ι) (lo : Session) :
    Prop where
  fresh : ∀ e ∈ sh.events, e.read.1 = i → e.read.2 < lo.count
  phase : lo.phase.Knows settings lockKey i sh lo.count

theorem records_auditRow (call : Call) (allowed : Bool) (stamp : Time) (read : ι × ℕ) :
    Records (auditRow call allowed stamp read) read call allowed := by
  refine ⟨rfl, rfl, rfl, rfl, ?_⟩
  cases allowed <;> simp [auditRow]

theorem answered_concat (events : List (AuditEvent ι)) (call : Call) (allowed : Bool) (stamp : Time)
    (read : ι × ℕ) (actorId : Uuid) :
    answered (events ++ [auditRow call allowed stamp read]) actorId =
      if allowed = true ∧ call.actorId = actorId then
        answered events actorId ++ [(call.vehicleId, stamp)] else answered events actorId := by
  unfold answered
  rw [List.filter_append, List.map_append]
  by_cases hnew : allowed = true ∧ call.actorId = actorId
  · obtain ⟨rfl, rfl⟩ := hnew
    rw [if_pos ⟨rfl, rfl⟩]
    simp [auditRow]
  · rw [if_neg hnew, List.filter_cons_of_neg, List.filter_nil, List.map_nil, List.append_nil]
    cases allowed with
    | false => simp [auditRow]
    | true =>
      have hother : call.actorId ≠ actorId := fun h => hnew ⟨rfl, h⟩
      simpa [auditRow] using hother

theorem mem_answered {events : List (AuditEvent ι)} {actorId : Uuid} {entry : Uuid × Time} :
    entry ∈ answered events actorId ↔ ∃ e ∈ events, e.action = .plateRead ∧ e.actorId = actorId ∧
      (e.entityId, e.createdAt) = entry := by
  simp [answered, and_assoc]

variable {n : ℕ} {call : Call} {now stamp : Time} {alreadyRead : Finset Uuid}

theorem isAllowed_iff : isAllowed settings alreadyRead call.vehicleId = true ↔
    call.vehicleId ∈ alreadyRead ∨ alreadyRead.card < settings.plateReadLimit := by
  simp [isAllowed]

theorem commit_limited (hsound : Sound settings sh) (hstamp : now ≤ stamp)
    (hcount : alreadyRead = keysSince (answered sh.events call.actorId) (now - settings.window))
    (hpast : ∀ e ∈ sh.events, e.actorId = call.actorId → e.createdAt ≤ now) (actorId : Uuid) :
    Bounded settings.window settings.plateReadLimit (answered (sh.events ++
        [auditRow call (isAllowed settings alreadyRead call.vehicleId) stamp (i, n)]) actorId) := by
  rw [answered_concat]
  split
  · next hnew =>
    obtain ⟨hallowed, rfl⟩ := hnew
    refine (hsound.limited call.actorId).concat (fun entry hentry => ?_) hstamp ?_
    · obtain ⟨e, he, -, hactor, rfl⟩ := mem_answered.mp hentry
      exact hpast e he hactor
    · rw [← hcount]
      exact isAllowed_iff.mp hallowed
  · exact hsound.limited actorId

theorem commit_notRefused (hstamp : now ≤ stamp)
    (hcount : alreadyRead = keysSince (answered sh.events call.actorId) (now - settings.window))
    {before : AuditEvent ι} (hbefore : before ∈ sh.events) : NotRefused settings before
      (auditRow call (isAllowed settings alreadyRead call.vehicleId) stamp (i, n)) := by
  intro hrefused hanswered hactor hvehicle
  have hnot : isAllowed settings alreadyRead call.vehicleId ≠ true := by
    intro hallowed
    rw [hallowed] at hrefused
    cases hrefused
  by_contra hlate
  refine hnot (isAllowed_iff.mpr (.inl ?_))
  have hwithin : now - settings.window ≤ before.createdAt :=
    sub_le_iff_le_add.mpr (hstamp.trans (not_lt.mp hlate))
  rw [hcount]
  exact mem_keysSince.mpr ⟨(before.entityId, before.createdAt),
    mem_answered.mpr ⟨before, hbefore, hanswered, hactor, rfl⟩, hwithin, hvehicle⟩

variable [DecidableEq ι]

theorem Sound.commit (hsound : Sound settings sh)
    (hknows : Knows settings lockKey i sh ⟨n, .counted call now alreadyRead⟩) (hstamp : now ≤ stamp) :
    Sound settings { sh with
      events := sh.events ++
        [auditRow call (isAllowed settings alreadyRead call.vehicleId) stamp (i, n)]
      grants := Locks.release i sh.grants } := by
  obtain ⟨-, hcount, hpast⟩ := hknows.phase
  refine ⟨hsound.compatible.release, commit_limited hsound hstamp hcount hpast, ?_, ?_, ?_⟩
  · rw [List.map_append, List.nodup_append]
    refine ⟨hsound.once, List.nodup_singleton _, fun read hread read' hread' => ?_⟩
    obtain ⟨e, he, rfl⟩ := List.mem_map.mp hread
    rw [List.mem_singleton.mp hread']
    intro heq
    -- the session has committed no read of this number
    have hlt := hknows.fresh e he (congrArg Prod.fst heq)
    exact absurd (congrArg Prod.snd heq) hlt.ne
  · intro o ho
    obtain ⟨e, he, hrecords⟩ := hsound.audited o ho
    exact ⟨e, List.mem_append_left _ he, hrecords⟩
  · rw [List.pairwise_append]
    refine ⟨hsound.kept, List.pairwise_singleton _ _, fun before hbefore refused hrefused => ?_⟩
    rw [List.mem_singleton.mp hrefused]
    exact commit_notRefused hstamp hcount hbefore

theorem sound_moves (hsound : Sound settings sh) (hknows : Knows settings lockKey i sh lo)
    (h : Moves settings lockKey i sh lo sh' lo') : Sound settings sh' := by
  cases h with
  | begins => exact hsound
  | locks n call hfree => exact { hsound with compatible := hsound.compatible.acquire hfree }
  | counts => exact hsound
  | commits n call now stamp alreadyRead hstamp => exact hsound.commit hknows hstamp
  | answers n call allowed =>
    obtain ⟨e, he, hrecords⟩ := hknows.phase
    refine { hsound with audited := fun o ho => ?_ }
    rcases List.mem_append.mp ho with hold | hnew
    · exact hsound.audited o hold
    · rw [List.mem_singleton.mp hnew]
      refine ⟨e, he, hrecords.read, hrecords.actor, hrecords.tenant, hrecords.vehicle, ?_⟩
      refine hrecords.action.trans ?_
      cases allowed <;> simp
  | fails => exact { hsound with compatible := hsound.compatible.release }

theorem knows_moves (hknows : Knows settings lockKey i sh lo)
    (h : Moves settings lockKey i sh lo sh' lo') : Knows settings lockKey i sh' lo' := by
  cases h with
  | begins => exact ⟨hknows.fresh, trivial⟩
  | locks n call hfree => exact ⟨hknows.fresh, held_acquire.mpr (.inl ⟨rfl, rfl, rfl⟩)⟩
  | counts n call now hpast =>
    exact ⟨hknows.fresh, hknows.phase, rfl, fun e he hactor => hpast e he (by rw [hactor])⟩
  | commits n call now stamp alreadyRead hstamp =>
    refine ⟨fun e he hi => ?_, ?_⟩
    · rcases List.mem_append.mp he with hold | hnew
      · exact (hknows.fresh e hold hi).trans (Nat.lt_succ_self n)
      · rw [List.mem_singleton.mp hnew]
        exact Nat.lt_succ_self n
    · exact ⟨_, List.mem_append_right _ List.mem_cons_self, records_auditRow call _ stamp (i, n)⟩
  | answers => exact ⟨hknows.fresh, trivial⟩
  | fails => exact ⟨hknows.fresh, trivial⟩

omit [DecidableEq ι] in
/-- What a session knows depends on its locks, on the rows that there are, and on those of the actor
it has locked. -/
theorem Knows.mono (h : Knows settings lockKey j sh lo)
    (hfresh : ∀ e ∈ sh'.events, e.read.1 = j → e ∈ sh.events)
    (hrows : ∀ e ∈ sh.events, e ∈ sh'.events)
    (hheld : ∀ r, Held sh.grants j r .update → Held sh'.grants j r .update)
    (hactor : ∀ actorId, Held sh.grants j (lockKey actorId) .update →
      answered sh'.events actorId = answered sh.events actorId ∧
        ∀ e ∈ sh'.events, e.actorId = actorId → e ∈ sh.events) :
    Knows settings lockKey j sh' lo := by
  obtain ⟨n, phase⟩ := lo
  refine ⟨fun e he hj => h.fresh e (hfresh e he hj) hj, ?_⟩
  have hknown := h.phase
  cases phase with
  | idle => trivial
  | waiting call => trivial
  | locked call => exact hheld _ hknown
  | counted call now alreadyRead =>
    obtain ⟨hlock, hcount, hpast⟩ := hknown
    obtain ⟨hsame, hold⟩ := hactor call.actorId hlock
    refine ⟨hheld _ hlock, ?_, fun e he heq => hpast e (hold e he heq) heq⟩
    rw [hsame]
    exact hcount
  | decided call allowed =>
    obtain ⟨e, he, hrecords⟩ := hknown
    exact ⟨e, hrows e he, hrecords⟩

theorem knows_others (hij : j ≠ i) (hsound : Sound settings sh) {lo₂ : Session}
    (hmover : Knows settings lockKey i sh lo) (hknows : Knows settings lockKey j sh lo₂)
    (h : Moves settings lockKey i sh lo sh' lo') : Knows settings lockKey j sh' lo₂ := by
  have hreleased : ∀ r, Held sh.grants j r .update → Held (Locks.release i sh.grants) j r .update :=
    fun r hheld => held_release.mpr ⟨hheld, hij⟩
  cases h with
  | begins => exact hknows
  | locks n call hfree =>
    exact hknows.mono (fun e he _ => he) (fun e he => he) (fun r hheld => held_acquire.mpr (.inr hheld))
      fun actorId _ => ⟨rfl, fun e he _ => he⟩
  | counts => exact hknows
  | commits n call now stamp alreadyRead hstamp =>
    refine hknows.mono (fun e he hread => ?_) (fun e he => List.mem_append_left _ he) hreleased
      fun actorId hheld => ?_
    · rcases List.mem_append.mp he with hold | hnew
      · exact hold
      · rw [List.mem_singleton.mp hnew] at hread
        exact absurd hread.symm hij
    · -- the row is of another actor, whose lock is another one
      have hother : call.actorId ≠ actorId := by
        rintro rfl
        exact hij (hsound.compatible j i _ _ _ hheld hmover.phase.1 rfl)
      refine ⟨?_, fun e he hactor => ?_⟩
      · rw [answered_concat, if_neg fun hnew => hother hnew.2]
      · rcases List.mem_append.mp he with hold | hnew
        · exact hold
        · rw [List.mem_singleton.mp hnew] at hactor
          exact absurd hactor hother
  | answers n call allowed =>
    exact hknows.mono (fun e he _ => he) (fun e he => he) (fun r hheld => hheld)
      fun actorId _ => ⟨rfl, fun e he _ => he⟩
  | fails n phase =>
    exact hknows.mono (fun e he _ => he) (fun e he => he) hreleased
      fun actorId _ => ⟨rfl, fun e he _ => he⟩

end Rows

section Runs

variable {ι : Type}

theorem opening_holds (settings : Settings) (lockKey : Uuid → ℤ) (db : Db) :
    Holds (Sound settings) (Knows settings lockKey) (opening db : Config ι (Shared ι) Session) := by
  refine ⟨⟨Compatible.nil, fun _ => bounded_nil, List.nodup_nil, fun o ho => ?_, List.Pairwise.nil⟩,
    fun i => ⟨fun e he => ?_, trivial⟩⟩
  · exact absurd ho List.not_mem_nil
  · exact absurd he List.not_mem_nil

variable [DecidableEq ι]

/-- **What is promised of the reads.** -/
structure Guarded (settings : Settings) (sh : Shared ι) : Prop where
  /-- In every window the answered reads of an actor name no more vehicles than the limit. -/
  limited : ∀ actorId start, (keysIn (answered sh.events actorId) start
    (start + settings.window)).card ≤ settings.plateReadLimit
  /-- Every read that returned has one audit row, and it says whether the read was answered. -/
  audited : ∀ o ∈ sh.outcomes, (sh.events.map (·.read)).count o.read = 1 ∧
    ∃ e ∈ sh.events, Records e o.read o.call o.plates.isSome
  /-- Who was answered for a vehicle within the window before is not refused it. -/
  kept : sh.events.Pairwise (NotRefused settings)

theorem Sound.guarded {settings : Settings} {sh : Shared ι} (h : Sound settings sh) :
    Guarded settings sh := by
  refine ⟨h.limited, fun o ho => ?_, h.kept⟩
  obtain ⟨e, he, hrecords⟩ := h.audited o ho
  refine ⟨List.count_eq_one_of_mem h.once ?_, e, he, hrecords⟩
  rw [← hrecords.read]
  exact List.mem_map_of_mem he

/-- **Plate reads stay under the limit.**  In every run of any number of sessions, whatever lock keys
the actors have: no window of an actor's answered reads names more vehicles than the limit, every
answer and every refusal has one audit row, and no vehicle is refused that was answered within the
window. -/
theorem reads_guarded (settings : Settings) (lockKey : Uuid → ℤ) (db : Db)
    (actions : List (ι × Choice)) :
    Guarded settings (actions.foldl (move (step settings lockKey)) (opening db)).shared := by
  refine Sound.guarded (Run.invariant (fun c a hc => ?_) (opening_holds settings lockKey db) actions).1
  refine noninterference_all (fun i ch sh lo sh' lo' hsound hknows h => ?_)
    (fun i j ch sh lo lo' sh' lo'' hij hsound hmover hknows h => ?_) hc a
  · exact ⟨sound_moves hsound hknows (moves_of_step h), knows_moves hknows (moves_of_step h)⟩
  · exact knows_others hij.symm hsound hmover hknows (moves_of_step h)

end Runs

end Nexotec.PlateReads
