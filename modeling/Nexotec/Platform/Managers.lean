/-
The last-manager rule with the user administration at work together
(`app/platform/services/user.py`, `membership.py`, `app/platform/daily_jobs.py`, FR-A-13).

Every request locks the row of the user it is about, `FOR NO KEY UPDATE`, until
it ends.  `_assert_not_last_manager` reads the other managers in two statements
that lock nothing, so what it found may be gone when the request commits.
-/
import Nexotec.Lib.Interleaving
import Nexotec.Lib.Locks
import Nexotec.Platform.Users

namespace Nexotec.Managers

open Platform Locks Interleaving

/-! ### The system -/

/-- The committed tables and the locks on user rows. -/
structure Shared (ι : Type) where
  now : Time := 0
  db : PlatformDb := {}
  grants : List (Grant ι Uuid) := []

inductive Session where
  | idle
  | waiting (call : Call)
  | judging (call : Call) (user : User)
  /-- `todo` are the checks of the plan still to make. -/
  | checking (userId : Uuid) (p : Plan) (todo : List ManagerCheck)
  /-- The first statement of a check has been answered. -/
  | halfway (userId : Uuid) (p : Plan) (check : ManagerCheck) (otherHome : Option Uuid)
      (todo : List ManagerCheck)

inductive Choice where
  | call (call : Call)
  | go
  | fail
  | tick (now : Time)

section

variable {ι : Type} [DecidableEq ι]

def rollback (i : ι) (sh : Shared ι) : Shared ι := { sh with grants := Locks.release i sh.grants }

/-- The checks between the lock and the service: the `If-Match`. -/
def checkCall (call : Call) (user : User) : Result Unit :=
  match call.request.ifMatch with
  | some ifMatch => checkVersion user.version ifMatch "User"
  | none => .ok ()

def go (i : ι) (sh : Shared ι) : Session → Option (Shared ι × Session)
  | .idle => none
  | .waiting call =>
    match getUserForUpdateOr404 sh.db call.dealershipId call.userId with
    | .error _ => some (sh, .idle)
    | .ok user =>
      if Free sh.grants i call.userId .noKeyUpdate then
        match checkCall call user with
        | .ok _ => some ({ sh with grants := acquire i call.userId .noKeyUpdate sh.grants },
            .judging call user)
        | .error _ => some (sh, .idle)
      else none
  | .judging call user =>
    match plan sh.db sh.now call user with
    | .ok (some p) => some (sh, .checking call.userId p p.checks)
    | .ok none | .error _ => some (rollback i sh, .idle)
  | .checking userId p (check :: todo) =>
    some (sh, .halfway userId p check (otherHomeManager sh.db check.dealershipId userId) todo)
  | .halfway userId p check otherHome todo =>
    match assertNotLastManager check otherHome
        (otherManagerByMembership sh.db sh.now check.dealershipId userId) with
    | .ok _ => some (sh, .checking userId p todo)
    | .error _ => some (rollback i sh, .idle)
  | .checking userId p [] =>
    match p.write.commit sh.now userId sh.db with
    | .ok db => some (rollback i { sh with db := db }, .idle)
    | .error _ => some (rollback i sh, .idle)

def step (i : ι) : Choice → Shared ι → Session → Option (Shared ι × Session)
  | .call call, sh, .idle => some (sh, .waiting call)
  | .call _, _, _ => none
  | .go, sh, lo => go i sh lo
  | .fail, sh, _ => some (rollback i sh, .idle)
  | .tick now, sh, lo => some ({ sh with now := max sh.now now }, lo)

def opening (now : Time) (db : PlatformDb) : Config ι (Shared ι) Session :=
  ⟨{ now := now, db := db }, fun _ => .idle⟩

end

/-- The dealership has an active manager in the committed state. -/
def Managed {ι : Type} (dealershipId : Uuid) (sh : Shared ι) : Prop :=
  HasManager sh.db sh.now dealershipId

/-- **The condition on a step**: a request commits only while each
`_assert_not_last_manager` it has made would still pass. -/
def StillPasses {ι : Type} (ch : Choice) (sh : Shared ι) : Session → Prop
  | .checking userId p [] => ch matches .go → ∀ check ∈ p.checks,
    assertNotLastManager check (otherHomeManager sh.db check.dealershipId userId)
      (otherManagerByMembership sh.db sh.now check.dealershipId userId) = .ok ()
  | .checking _ _ (_ :: _) | .idle | .waiting _ | .judging .. | .halfway .. => True

/-! ### What a session knows -/

/-- The lock table is sound and no membership ends in the future. -/
structure Sound {ι : Type} (sh : Shared ι) : Prop where
  compatible : Compatible sh.grants
  future : NoFutureEnd sh.db sh.now

/-- The row is locked and the plan was made from the user's rows as they are. -/
structure Owns {ι : Type} (i : ι) (sh : Shared ι) (userId : Uuid) (p : Plan) : Prop where
  held : Held sh.grants i userId .noKeyUpdate
  planned : ∃ db now user, now ≤ sh.now ∧ NoFutureEnd db now ∧
    db.users.lookup userId = some user ∧ Planned db now userId user p ∧ SameUser userId db sh.db

def Knows {ι : Type} (i : ι) (sh : Shared ι) : Session → Prop
  | .idle | .waiting _ => True
  | .judging call user => Held sh.grants i call.userId .noKeyUpdate ∧
    sh.db.users.lookup call.userId = some user
  | .checking userId p _ | .halfway userId p _ _ _ => Owns i sh userId p

/-- What a step leaves to a session: its locks, and the rows of the users it
has locked. -/
structure Respects {ι : Type} (j : ι) (sh sh' : Shared ι) : Prop where
  held : ∀ userId m, Held sh.grants j userId m → Held sh'.grants j userId m
  later : sh.now ≤ sh'.now
  rows : ∀ userId, Held sh.grants j userId .noKeyUpdate → SameUser userId sh.db sh'.db

theorem Owns.respects {ι : Type} {j : ι} {sh sh' : Shared ι} {userId : Uuid} {p : Plan}
    (h : Owns j sh userId p) (hrespects : Respects j sh sh') : Owns j sh' userId p := by
  obtain ⟨hheld, db, now, user, hle, hfuture, huser, hplanned, hsame⟩ := h
  exact ⟨hrespects.held _ _ hheld, db, now, user, hle.trans hrespects.later, hfuture, huser,
    hplanned, hsame.trans (hrespects.rows userId hheld)⟩

theorem knows_respects {ι : Type} {j : ι} {sh sh' : Shared ι} {lo : Session} (h : Knows j sh lo)
    (hrespects : Respects j sh sh') : Knows j sh' lo := by
  cases lo with
  | idle | waiting => trivial
  | judging call user =>
    obtain ⟨hheld, huser⟩ := h
    exact ⟨hrespects.held _ _ hheld, (hrespects.rows _ hheld).user.trans huser⟩
  | checking userId p todo => exact Owns.respects h hrespects
  | halfway userId p check otherHome todo => exact Owns.respects h hrespects

/-! ### What a step can do -/

inductive Moves {ι : Type} [DecidableEq ι] (i : ι) (sh : Shared ι) :
    Choice → Session → Shared ι → Session → Prop
  | asked (call : Call) : Moves i sh (.call call) .idle sh (.waiting call)
  | locked (call : Call) (user : User) (huser : sh.db.users.lookup call.userId = some user)
      (hfree : Free sh.grants i call.userId .noKeyUpdate) :
      Moves i sh .go (.waiting call)
        { sh with grants := acquire i call.userId .noKeyUpdate sh.grants } (.judging call user)
  | planned (call : Call) (user : User) (p : Plan) (hp : plan sh.db sh.now call user = .ok (some p)) :
      Moves i sh .go (.judging call user) sh (.checking call.userId p p.checks)
  | home (userId : Uuid) (p : Plan) (check : ManagerCheck) (todo : List ManagerCheck) :
      Moves i sh .go (.checking userId p (check :: todo)) sh
        (.halfway userId p check (otherHomeManager sh.db check.dealershipId userId) todo)
  | passed (userId : Uuid) (p : Plan) (check : ManagerCheck) (otherHome : Option Uuid)
      (todo : List ManagerCheck) :
      Moves i sh .go (.halfway userId p check otherHome todo) sh (.checking userId p todo)
  | committed (userId : Uuid) (p : Plan) :
      Moves i sh .go (.checking userId p [])
        (rollback i { sh with db := p.write.apply sh.now userId sh.db }) .idle
  | refused (ch : Choice) (lo : Session) : Moves i sh ch lo sh .idle
  | rolledBack (ch : Choice) (lo : Session) : Moves i sh ch lo (rollback i sh) .idle
  | tick (now : Time) (lo : Session) : Moves i sh (.tick now) lo { sh with now := max sh.now now } lo

section

variable {ι : Type} [DecidableEq ι] {i : ι} {sh sh' : Shared ι} {ch : Choice} {lo lo' : Session}

theorem moves_of_go (h : go i sh lo = some (sh', lo')) : Moves i sh .go lo sh' lo' := by
  cases lo with
  | idle => cases h
  | waiting call =>
    simp only [go] at h
    split at h
    · cases h
      exact .refused _ _
    · next user huser =>
      split at h
      · next hfree =>
        split at h
        · cases h
          exact .locked call user (Option.filter_eq_some_iff.mp (orNotFound_eq_ok.mp huser)).1 hfree
        · cases h
          exact .refused _ _
      · cases h
  | judging call user =>
    simp only [go] at h
    split at h
    · next p hp =>
      cases h
      exact .planned call user p hp
    · cases h
      exact .rolledBack _ _
    · cases h
      exact .rolledBack _ _
  | checking userId p todo =>
    cases todo with
    | nil =>
      simp only [go] at h
      split at h
      · next db hdb =>
        cases h
        rw [Write.commit_eq_ok hdb]
        exact .committed userId p
      · cases h
        exact .rolledBack _ _
    | cons check todo =>
      cases h
      exact .home userId p check todo
  | halfway userId p check otherHome todo =>
    simp only [go] at h
    split at h
    · cases h
      exact .passed userId p check otherHome todo
    · cases h
      exact .rolledBack _ _

theorem moves_of_step (h : step i ch sh lo = some (sh', lo')) : Moves i sh ch lo sh' lo' := by
  cases ch with
  | call call =>
    cases lo with
    | idle =>
      cases h
      exact .asked call
    | waiting | judging | checking | halfway => cases h
  | go => exact moves_of_go h
  | fail =>
    cases h
    exact .rolledBack _ _
  | tick now =>
    cases h
    exact .tick now lo

theorem sound_moves (hsound : Sound sh) (h : Moves i sh ch lo sh' lo') : Sound sh' := by
  cases h with
  | asked | planned | home | passed | refused => exact hsound
  | locked call user huser hfree => exact ⟨hsound.compatible.acquire hfree, hsound.future⟩
  | committed userId p => exact ⟨hsound.compatible.release, hsound.future.apply p.write userId⟩
  | rolledBack => exact ⟨hsound.compatible.release, hsound.future⟩
  | tick now => exact ⟨hsound.compatible, hsound.future.later (le_max_left _ _)⟩

theorem knows_moves (hsound : Sound sh) (hknows : Knows i sh lo) (h : Moves i sh ch lo sh' lo') :
    Knows i sh' lo' := by
  cases h with
  | asked | committed | refused | rolledBack => trivial
  | locked call user huser hfree => exact ⟨held_acquire.mpr (.inl ⟨rfl, rfl, rfl⟩), huser⟩
  | planned call user p hp =>
    obtain ⟨hheld, huser⟩ := hknows
    exact ⟨hheld, sh.db, sh.now, user, le_rfl, hsound.future, huser, planned_of_plan hp, .refl⟩
  | home | passed => exact hknows
  | tick now => exact knows_respects hknows ⟨fun _ _ => id, le_max_left _ _, fun _ _ => .refl⟩

theorem respects_moves {j : ι} (hne : j ≠ i) (hsound : Sound sh) (hknows : Knows i sh lo)
    (h : Moves i sh ch lo sh' lo') : Respects j sh sh' := by
  cases h with
  | asked | planned | home | passed | refused => exact ⟨fun _ _ => id, le_rfl, fun _ _ => .refl⟩
  | locked call user huser hfree =>
    exact ⟨fun _ _ hheld => held_acquire.mpr (.inr hheld), le_rfl, fun _ _ => .refl⟩
  | committed userId p =>
    refine ⟨fun _ _ hheld => held_release.mpr ⟨hheld, hne⟩, le_rfl, fun id hheld => ?_⟩
    -- two sessions never have one user locked
    refine sameUser_apply fun hid => hne ?_
    subst hid
    exact hsound.compatible _ _ _ _ _ hheld hknows.held rfl
  | rolledBack =>
    exact ⟨fun _ _ hheld => held_release.mpr ⟨hheld, hne⟩, le_rfl, fun _ _ => .refl⟩
  | tick now => exact ⟨fun _ _ => id, le_max_left _ _, fun _ _ => .refl⟩

def Passes (sh : Shared ι) (userId : Uuid) (check : ManagerCheck) : Prop :=
  assertNotLastManager check (otherHomeManager sh.db check.dealershipId userId)
    (otherManagerByMembership sh.db sh.now check.dealershipId userId) = .ok ()

/-- The checks that are still to be made pass. -/
def ToPass (sh : Shared ι) : Session → Prop
  | .idle => False
  | .waiting _ | .judging .. => True
  | .checking userId _ todo => ∀ check ∈ todo, Passes sh userId check
  | .halfway userId _ check otherHome todo =>
    otherHome = otherHomeManager sh.db check.dealershipId userId →
      ∀ next ∈ check :: todo, Passes sh userId next

/-- A request with nothing committed between its checks and its commit meets the condition. -/
theorem stillPasses_of_quiet {userId : Uuid} {p : Plan}
    (h : Relation.ReflTransGen (fun lo lo' => go i sh lo = some (sh, lo'))
      (.checking userId p p.checks) (.checking userId p [])) :
    StillPasses .go sh (.checking userId p []) := by
  have htoPass : ToPass sh (.checking userId p p.checks) := by
    -- backwards from the commit: a check that is made passes, and the later ones do
    refine Relation.ReflTransGen.head_induction_on (motive := fun lo _ => ToPass sh lo) h
      (fun check hcheck => absurd hcheck List.not_mem_nil) fun {lo lo'} hstep _ ih => ?_
    cases lo with
    | idle => cases hstep
    | waiting | judging => trivial
    | checking userId p todo =>
      cases todo with
      | nil => exact fun check hcheck => absurd hcheck List.not_mem_nil
      | cons check todo =>
        cases hstep
        exact ih rfl
    | halfway userId p check otherHome todo =>
      rintro rfl
      simp only [go] at hstep
      split at hstep
      · next hpasses =>
        cases hstep
        exact List.forall_mem_cons.mpr ⟨(hpasses : Passes sh userId check), ih⟩
      · obtain ⟨-, rfl⟩ := Prod.mk.inj (Option.some.inj hstep)
        exact ih.elim
  exact fun _ => htoPass

/-! ### Managers stay -/

omit [DecidableEq ι] in
/-- A commit whose checks still pass leaves every dealership a manager. -/
theorem hasManager_apply {userId : Uuid} {p : Plan} {dealershipId : Uuid} (howns : Owns i sh userId p)
    (hok : ∀ check ∈ p.checks,
      assertNotLastManager check (otherHomeManager sh.db check.dealershipId userId)
        (otherManagerByMembership sh.db sh.now check.dealershipId userId) = .ok ())
    (h : HasManager sh.db sh.now dealershipId) :
    HasManager (p.write.apply sh.now userId sh.db) sh.now dealershipId := by
  obtain ⟨id, hid⟩ := h
  by_cases hother : id = userId
  · subst hother
    cases hstays : isActiveManager (p.write.apply sh.now id sh.db) sh.now dealershipId id with
    | true => exact ⟨id, hstays⟩
    | false =>
      -- the dealership loses this one, so the request asked about it
      obtain ⟨-, db, now, user, hle, hfuture, huser, hplanned, hsame⟩ := howns
      have hasked : ∃ check ∈ p.checks, check.dealershipId = dealershipId := by
        refine plan_covers hfuture hle huser hplanned ?_ ?_
        · rw [← hfuture.isActiveManager_later hle, ← hsame.isActiveManager_eq]
          exact hid
        · rw [← (hsame.apply p.write).isActiveManager_eq]
          exact hstays
      obtain ⟨check, hcheck, rfl⟩ := hasked
      obtain ⟨id', hne, hid'⟩ := assertNotLastManager_iff.mp (hok check hcheck)
      exact ⟨id', (sameUser_apply hne).isActiveManager_eq.trans hid'⟩
  · exact ⟨id, (sameUser_apply hother).isActiveManager_eq.trans hid⟩

theorem hasManager_moves (hsound : Sound sh) (hknows : Knows i sh lo) (hok : StillPasses ch sh lo)
    (h : Moves i sh ch lo sh' lo') {dealershipId : Uuid}
    (hmanaged : Managed dealershipId sh) : Managed dealershipId sh' := by
  cases h with
  | asked | locked | planned | home | passed | refused | rolledBack => exact hmanaged
  | committed userId p => exact hasManager_apply hknows (hok rfl) hmanaged
  | tick now =>
    obtain ⟨id, hid⟩ := hmanaged
    exact ⟨id, (hsound.future.isActiveManager_later (le_max_left _ _)).trans hid⟩

end

/-! ### Runs -/

abbrev Ok {ι : Type} (c : Config ι (Shared ι) Session) (a : ι × Choice) : Prop :=
  StillPasses a.2 c.shared (c.locals a.1)

section

variable {ι : Type} [DecidableEq ι]

omit [DecidableEq ι] in
theorem opening_holds {now : Time} {db : PlatformDb} (h : NoFutureEnd db now) :
    Holds Sound Knows (opening now db : Config ι (Shared ι) Session) :=
  ⟨⟨Compatible.nil, h⟩, fun _ => trivial⟩

theorem move_holds {c : Config ι (Shared ι) Session} {a : ι × Choice} (hc : Holds Sound Knows c) :
    Holds Sound Knows (move step c a) := by
  refine noninterference_all (G := Sound) (L := Knows)
    (fun i ch sh lo sh' lo' hG hL h => ?_) (fun i j ch sh lo lo' sh' lo'' hij hG hLi hLj h => ?_) hc a
  · exact ⟨sound_moves hG (moves_of_step h), knows_moves hG hL (moves_of_step h)⟩
  · exact knows_respects hLj (respects_moves hij.symm hG hLi (moves_of_step h))

/-- **A dealership keeps a manager.**  In every run whose commits happen while
the last-manager checks made for them still pass, a dealership that has an
active manager in some committed state has one in every later one. -/
theorem dealership_keeps_manager (now : Time) (db : PlatformDb) (hdb : NoFutureEnd db now)
    (earlier later : List (ι × Choice)) (dealershipId : Uuid)
    (hok : Run.Along (move step) Ok (opening now db) (earlier ++ later))
    (hmanaged : Managed dealershipId (earlier.foldl (move step) (opening now db)).shared) :
    Managed dealershipId ((earlier ++ later).foldl (move step) (opening now db)).shared := by
  have hholds : Holds Sound Knows (earlier.foldl (move step) (opening now db)) :=
    Run.invariant (fun _ _ hc => move_holds hc) (opening_holds hdb) earlier
  have hlater := (Run.Along.append.mp hok).2
  rw [List.foldl_append]
  generalize earlier.foldl (move step) (opening now db) = s at hholds hlater hmanaged ⊢
  have hstep : ∀ (c : Config ι (Shared ι) Session) (a : ι × Choice),
      (Holds Sound Knows c ∧ Managed dealershipId c.shared) → Ok c a →
      Holds Sound Knows (move step c a) ∧ Managed dealershipId (move step c a).shared := by
    rintro c a ⟨hc, hkept⟩ ha
    refine ⟨move_holds hc, move_shared hkept fun sh' lo' h => ?_⟩
    exact hasManager_moves hc.1 (hc.2 a.1) ha (moves_of_step h) hkept
  exact (Run.invariant_along hstep ⟨hholds, hmanaged⟩ hlater).2

end

instance {ι : Type} (sh : Shared ι) : ∀ ch lo, Decidable (StillPasses ch sh lo)
  | .go, .checking userId p [] => inferInstanceAs (Decidable (true = true → ∀ check ∈ p.checks,
      assertNotLastManager check (otherHomeManager sh.db check.dealershipId userId)
        (otherManagerByMembership sh.db sh.now check.dealershipId userId) = .ok ()))
  | .call _, .checking _ _ [] | .fail, .checking _ _ [] | .tick _, .checking _ _ [] => .isTrue nofun
  | _, .checking _ _ (_ :: _) | _, .idle | _, .waiting _ | _, .judging .. | _, .halfway .. =>
    inferInstanceAs (Decidable True)

instance {ι : Type} (dealershipId : Uuid) (sh : Shared ι) : Decidable (Managed dealershipId sh) :=
  decidable_of_iff (∃ id ∈ sh.db.users.keys, isActiveManager sh.db sh.now dealershipId id = true) <| by
    refine exists_congr fun id => and_iff_right_of_imp fun h => ?_
    obtain ⟨user, huser, -⟩ := isActiveManager_iff.mp h
    exact AList.mem_keys.mpr (AList.lookup_isSome.mp (Option.isSome_iff_exists.mpr ⟨user, huser⟩))

/-- A dealership with two managers and a sister dealership. -/
def twoManagers : PlatformDb where
  dealerships := [1, 2]
  users := ((∅ : Table Uuid User).insert 10
    { tenantId := 1, status := .active, isDealerManager := true }).insert 11
    { tenantId := 1, email := "b@c.ch", status := .active, isDealerManager := true }

theorem twoManagers_noFutureEnd (now : Time) : NoFutureEnd twoManagers now :=
  fun _ _ hm => by cases hm

/-- A request of platform staff on a user of the first dealership. -/
def staffCall (userId : Uuid) (request : Request) : Choice :=
  .call { dealershipId := 1, userId := userId, actorId := 99, actorRoles := [.platformAdmin]
          request := request }

def steps (i n : ℕ) : List (ℕ × Choice) := List.replicate n (i, .go)

/-- The second manager becomes one of the sister dealership too, and the first
one is deactivated; then nobody can demote the second. -/
def handOver : List (ℕ × Choice) :=
  (0, staffCall 11 (.grantMembership 2 true)) :: steps 0 3 ++
    (1, staffCall 10 (.deactivate 1 "left" (some .terminated))) :: steps 1 5 ++
    (0, staffCall 11 (.setHomeManagerFlag 1 false)) :: steps 0 4

theorem dealership_keeps_manager_handOver :
    ((handOver.foldl (move step) (opening 0 twoManagers)).shared.db.users.lookup 10).map
      (·.status) = some .deactivated ∧
    Managed 1 (handOver.foldl (move step) (opening 0 twoManagers)).shared := by
  have hok : Run.Along (move step) Ok (opening 0 twoManagers) handOver := by decide +kernel
  exact ⟨by decide +kernel, dealership_keeps_manager 0 twoManagers (twoManagers_noFutureEnd 0)
    [] handOver 1 hok (by decide)⟩

/-- One session demotes the first manager while another suspends the second. -/
def bothDemoted : List (ℕ × Choice) :=
  [(0, staffCall 10 (.setHomeManagerFlag 1 false)),
    (1, staffCall 11 (.patch 1 { status := some .suspended }))] ++
    steps 0 4 ++ steps 1 4 ++ steps 0 1 ++ steps 1 1

/-- Each check finds the manager the other session is about to take away. -/
theorem bothDemoted_unmanaged : ¬ ∀ (now : Time) (db : PlatformDb), NoFutureEnd db now →
      ∀ (earlier later : List (ℕ × Choice)) (dealershipId : Uuid),
        Managed dealershipId (earlier.foldl (move step) (opening now db)).shared →
        Managed dealershipId ((earlier ++ later).foldl (move step) (opening now db)).shared := by
  intro h
  have hstart : Managed 1 (([] : List (ℕ × Choice)).foldl (move step) (opening 0 twoManagers)).shared := by
    decide
  have hend := h 0 twoManagers (twoManagers_noFutureEnd 0) [] bothDemoted 1 hstart
  have hnone : ¬ Managed 1 (bothDemoted.foldl (move step) (opening 0 twoManagers)).shared := by
    decide +kernel
  exact hnone hend

end Nexotec.Managers
