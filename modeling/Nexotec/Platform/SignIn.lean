/-
The front door with any number of requests at work
(`app/platform/api/auth.py`, `app/platform/services/identity.py`).

A request finds the user without a lock, locks the user row and works on the
account as it stands then; its writes become visible at its commit.  Between
the lock and the commit it reads the clock again, and a sign-in is judged,
checked and finished in three statements.
-/
import Nexotec.Lib.Interleaving
import Nexotec.Lib.Locks
import Nexotec.Platform.Auth

namespace Nexotec.SignIn

open Platform Auth Locks Interleaving

/-- A check of a password or of an answer to a challenge, a session that was
minted on one and a password that was set, of an account. -/
inductive Event where
  /-- A check at `time` for a request that read its clock first at `began`. -/
  | checked (challenge : Option Uuid) (began time : Time) (verdict : Option Factor)
  | completed (challenge : Option Uuid) (factor : Factor)
  | passwordSet
  deriving DecidableEq

/-! ### Requests -/

/-- What a request does once it has the user row. -/
inductive Work where
  /-- `started` is the clock as `resolve` read it first. -/
  | login (started : Time) (password : String)
  | answer (raw : Uuid) (given : Answer)
  | reset (raw : Uuid) (password : String)
  | accept (raw : Uuid) (password : String)
  | requestReset (email : String)
  | invite
  | changeEmail (actorId : Uuid) (email : String)
  deriving DecidableEq

/-- A request as it comes in. -/
inductive Request where
  | login (email password : String)
  | answer (raw : Uuid) (given : Answer)
  | reset (raw : Uuid) (password : String)
  | accept (raw : Uuid) (password : String)
  | requestReset (email : String)
  | invite (userId : Uuid)
  | changeEmail (userId actorId : Uuid) (email : String)

inductive Session where
  | idle
  /-- `now` is the clock as the request began. -/
  | started (now : Time) (request : Request)
  | waiting (userId : Uuid) (work : Work)
  | locked (userId : Uuid) (work : Work) (draft : Account)
  /-- The throttle has let the attempt through. -/
  | judged (userId : Uuid) (work : Work) (draft : Account)
  /-- The password or the answer was checked at `time`. -/
  | decided (userId : Uuid) (work : Work) (draft : Account) (time : Time) (verdict : Option Factor)

/-- The committed accounts, the locks on the user rows, the ids drawn so far and
the history of each account, the newest event first. -/
structure Shared (ι : Type) where
  now : Time := 0
  accounts : Table Uuid Account := ∅
  grants : List (Grant ι Uuid) := []
  drawn : List Uuid := []
  history : Uuid → List Event := fun _ => []

inductive Choice where
  | request (request : Request)
  /-- The next statement; `id` is the id of a row it may insert. -/
  | go (id : Uuid)
  | fail
  | tick (now : Time)

section

/-- `find_user_by_email`: addresses are stored in lower case. -/
def findUserByEmail (accounts : Table Uuid Account) (email : String) : Option (Uuid × Account) :=
  accounts.search fun _ a => a.user.email = email

def tokenUser (accounts : Table Uuid Account) (now : Time) (kind : AuthTokenKind) (raw : Uuid) :
    Option Uuid :=
  (accounts.search fun _ a => (peek now kind raw a).isSome).map (·.1)

/-- What a request reads before it locks the user row: the user, and what is left
to do. -/
def Request.find (env : Env) (accounts : Table Uuid Account) (started now : Time) :
    Request → Option (Uuid × Work)
  | .login email password =>
    (findUserByEmail accounts email).bind fun found =>
      if found.2.credential.isNone ∨ accountThrottled env found.2.credential started then none
      else some (found.1, .login started password)
  | .answer raw given =>
    (tokenUser accounts now .mfaChallenge raw).map fun userId => (userId, .answer raw given)
  | .reset raw password =>
    (tokenUser accounts now .passwordReset raw).map fun userId => (userId, .reset raw password)
  | .accept raw password =>
    (tokenUser accounts now .invitation raw).map fun userId => (userId, .accept raw password)
  | .requestReset email =>
    (findUserByEmail accounts email).map fun found => (found.1, .requestReset email)
  | .invite userId => (accounts.lookup userId).map fun _ => (userId, .invite)
  | .changeEmail userId actorId email =>
    (accounts.lookup userId).map fun _ => (userId, .changeEmail actorId email)

def passwordAccepted (env : Env) (now : Time) (id : Uuid) (a : Account) :
    Result (Account × List Event) :=
  if hasFactor a then .ok (issue now .mfaChallenge id a, [])
  else do
    let a ← finishLogin env now id .password a.replaced a
    pure (a, [.completed none .password])

/-- What the throttle does with an attempt. -/
inductive Judgement where
  | refused
  | ended (a : Account)
  | allowed (a : Account)

/-- The throttle, judged under the lock: `resolve` and `_challenged_user`. -/
def Work.judge (env : Env) (now : Time) (a : Account) : Work → Judgement
  | .login _ _ =>
    if a.credential.isNone ∨ accountThrottled env a.credential now then .refused else .allowed a
  | .answer raw _ =>
    match if accountThrottled env a.credential now then none else claimAttempt raw mfaMaxAttempts a with
    | some claimed => .allowed claimed
    | none =>
      -- the challenge ends, and the user starts over
      match consume now .mfaChallenge raw a with
      | some ended => .ended ended
      | none => .refused
  | .reset .. | .accept .. | .requestReset _ | .invite | .changeEmail .. => .refused

def Work.check (env : Env) (now : Time) (a : Account) : Work → Result (Option Factor × Account)
  | .login _ password =>
    .ok (if a.credential.any (·.password = password) then some .password else none, a)
  | .answer _ given => do
    match ← checkAnswer env now given a with
    | some (factor, a) => pure (some factor, a)
    | none => pure (none, a)
  | .reset .. | .accept .. | .requestReset _ | .invite | .changeEmail .. => .ok (none, a)

/-- What follows the check; an error rolls everything back. -/
def Work.finish (env : Env) (now : Time) (id : Uuid) (a : Account) (verdict : Option Factor) :
    Work → Result (Account × List Event)
  | .login started _ =>
    match verdict with
    | none => .ok (passwordFailed env started a, [])
    | some _ =>
      if isInactive a.user.status ∨ accessWindowOpen env a.user now = false then .ok (a, [])
      else passwordAccepted env now id a
  | .answer raw _ =>
    match verdict with
    | none => .ok (secondStepFailed env now a, [])
    | some factor => do
      let token ← orNotFound (a.tokens.lookup raw) "The sign-in step has expired — start again."
      match consume now .mfaChallenge raw a with
      | some spent =>
        let a ← finishLogin env now id factor token.acceptedIn spent
        pure (a, [.completed (some raw) factor])
      | none => throw (unauthorizedError "The sign-in step has expired — start again."
          [("step", "expired")])
  | .reset .. | .accept .. | .requestReset _ | .invite | .changeEmail .. => .ok (a, [])

/-- The requests that are not attempts.  `taken` says that another user has the
address. -/
def Work.run (env : Env) (now : Time) (userId id : Uuid) (taken : Bool) (a : Account) :
    Work → Result (Account × List Event)
  | .login .. | .answer .. => .ok (a, [])
  | .reset raw password => do
    let a ← confirmPasswordReset env now userId raw password a
    pure (a, [.passwordSet])
  | .accept raw password => do
    let a ← acceptInvitation env now userId raw password a
    if accessWindowOpen env a.user now then
      let (a, events) ← passwordAccepted env now id a
      pure (a, events ++ [.passwordSet])
    else pure (a, [.passwordSet])
  | .requestReset email =>
    if a.user.email ≠ email ∨ isInactive a.user.status then .ok (a, [])
    else .ok (issue now .passwordReset id a, [])
  | .invite => .ok (issue now .invitation id a, [])
  | .changeEmail actorId email =>
    if a.user.status = .deactivated ∨ a.user.email = email ∨ taken then
      .error (conflictError "A user with this email address already exists.")
    else .ok (Auth.changeEmail now actorId email a, [])

/-- The request is an attempt, judged and checked before it is finished. -/
def Work.isAttempt : Work → Bool
  | .login .. | .answer .. => true
  | .reset .. | .accept .. | .requestReset _ | .invite | .changeEmail .. => false

def Work.challenge : Work → Option Uuid
  | .answer raw _ => some raw
  | .login .. | .reset .. | .accept .. | .requestReset _ | .invite | .changeEmail .. => none

/-- The clock that dates a failure of the attempt, which an answer reads anew. -/
def Work.began (now : Time) : Work → Time
  | .login started _ => started
  | .answer .. | .reset .. | .accept .. | .requestReset _ | .invite | .changeEmail .. => now

def Work.checked (work : Work) (time : Time) (verdict : Option Factor) : Event :=
  .checked work.challenge (work.began time) time verdict

/-- Somebody has the address the request moves the user to. -/
def Work.taken (accounts : Table Uuid Account) : Work → Bool
  | .changeEmail _ email => (findUserByEmail accounts email).isSome
  | .login .. | .answer .. | .reset .. | .accept .. | .requestReset _ | .invite => false

end

section

variable {ι : Type} [DecidableEq ι]

def rollback (i : ι) (sh : Shared ι) : Shared ι := { sh with grants := Locks.release i sh.grants }

/-- The account as the request leaves it becomes the committed one, and the lock
ends. -/
def commit (i : ι) (userId : Uuid) (out : Account × List Event) (sh : Shared ι) : Shared ι :=
  { sh with
    accounts := sh.accounts.insert userId out.1
    grants := Locks.release i sh.grants
    history := Function.update sh.history userId (out.2 ++ sh.history userId) }

def record (userId : Uuid) (event : Event) (sh : Shared ι) : Shared ι :=
  { sh with history := Function.update sh.history userId (event :: sh.history userId) }

def settle (i : ι) (userId : Uuid) (sh : Shared ι) :
    Result (Account × List Event) → Shared ι × Session
  | .ok out => (commit i userId out sh, .idle)
  | .error _ => (rollback i sh, .idle)

def go (env : Env) (i : ι) (id : Uuid) (sh : Shared ι) : Session → Option (Shared ι × Session)
  | .idle => none
  | .started now request =>
    match request.find env sh.accounts now sh.now with
    | some (userId, work) => some (sh, .waiting userId work)
    | none => some (sh, .idle)
  | .waiting userId work =>
    match sh.accounts.lookup userId with
    | some a =>
      if Free sh.grants i userId .noKeyUpdate then
        some ({ sh with grants := acquire i userId .noKeyUpdate sh.grants }, .locked userId work a)
      else none
    | none => some (sh, .idle)
  | .locked userId work a =>
    if work.isAttempt then
      match work.judge env sh.now a with
      | .allowed a => some (sh, .judged userId work a)
      | .ended a => some (commit i userId (a, []) sh, .idle)
      | .refused => some (rollback i sh, .idle)
    else some (settle i userId sh (work.run env sh.now userId id (work.taken sh.accounts) a))
  | .judged userId work a =>
    match work.check env sh.now a with
    | .ok (verdict, a) => some (record userId (work.checked sh.now verdict) sh,
        .decided userId work a sh.now verdict)
    | .error _ => some (rollback i sh, .idle)
  | .decided userId work a _ verdict =>
    some (settle i userId sh (work.finish env sh.now id a verdict))

/-- One statement of one request; `Work` lists the requests. -/
def step (env : Env) (i : ι) : Choice → Shared ι → Session → Option (Shared ι × Session)
  | .request request, sh, .idle => some (sh, .started sh.now request)
  | .request _, _, _ => none
  | .go id, sh, lo =>
    if id ∈ sh.drawn then none
    else (go env i id sh lo).map fun out => ({ out.1 with drawn := id :: out.1.drawn }, out.2)
  | .fail, sh, _ => some (rollback i sh, .idle)
  | .tick now, sh, lo => some ({ sh with now := max sh.now now }, lo)

end

section Judge

variable {env : Env} {now : Time} {work : Work} {a b : Account}

theorem judge_allowed (h : work.judge env now a = .allowed b) :
    accountThrottled env a.credential now = false ∧
      ((work.challenge = none ∧ a.credential ≠ none ∧ b = a) ∨
        ∃ raw given, work = .answer raw given ∧ claimAttempt raw mfaMaxAttempts a = some b) := by
  cases work with
  | login started password =>
    simp only [Work.judge] at h
    split at h
    · cases h
    · next hopen =>
      cases h
      refine ⟨by simpa using (not_or.mp hopen).2, .inl ⟨rfl, fun hnone => hopen (.inl ?_), rfl⟩⟩
      rw [hnone]
      rfl
  | answer raw given =>
    simp only [Work.judge] at h
    split at h
    · next claimed hclaimed =>
      cases h
      split at hclaimed
      · cases hclaimed
      · next hopen => exact ⟨by simpa using hopen, .inr ⟨raw, given, rfl, hclaimed⟩⟩
    · split at h <;> cases h
  | reset | accept | requestReset | invite | changeEmail => cases h

theorem judge_ended (h : work.judge env now a = .ended b) :
    ∃ raw given, work = .answer raw given ∧ consume now .mfaChallenge raw a = some b := by
  cases work with
  | answer raw given =>
    simp only [Work.judge] at h
    split at h
    · cases h
    · split at h
      · next hconsume =>
        cases h
        exact ⟨raw, given, rfl, hconsume⟩
      · cases h
  | login started password =>
    simp only [Work.judge] at h
    split at h <;> cases h
  | reset | accept | requestReset | invite | changeEmail => cases h

theorem check_cases {verdict : Option Factor} (h : work.check env now a = .ok (verdict, b)) :
    (verdict = none ∧ b = a) ∨
      (verdict = some .password ∧ b = a ∧ a.credential ≠ none ∧ work.challenge = none) ∨
      ∃ raw given factor, work = .answer raw given ∧ verdict = some factor ∧ Accepts now a factor b := by
  cases work with
  | login started password =>
    cases h
    cases hright : a.credential.any (·.password = password) with
    | false => exact .inl ⟨by simp, rfl⟩
    | true =>
      refine .inr (.inl ⟨by simp, rfl, fun hnone => ?_, rfl⟩)
      rw [hnone] at hright
      cases hright
  | answer raw given =>
    obtain ⟨found, hfound, h⟩ := Result.of_bind h
    split at h
    · cases h
      exact .inr (.inr ⟨raw, given, _, rfl, rfl, accepts_checkAnswer hfound⟩)
    · cases h
      exact .inl ⟨rfl, rfl⟩
  | reset | accept | requestReset | invite | changeEmail =>
    cases h
    exact .inl ⟨rfl, rfl⟩

end Judge

section Moves

variable {ι : Type} [DecidableEq ι]

def draw (id : Uuid) (sh : Shared ι) : Shared ι := { sh with drawn := id :: sh.drawn }

inductive Moves (env : Env) (i : ι) (sh : Shared ι) :
    Choice → Session → Shared ι → Session → Prop
  | asked (request : Request) :
      Moves env i sh (.request request) .idle sh (.started sh.now request)
  | found (id : Uuid) (now : Time) (request : Request) (userId : Uuid) (work : Work)
      (hfind : request.find env sh.accounts now sh.now = some (userId, work)) :
      Moves env i sh (.go id) (.started now request) (draw id sh) (.waiting userId work)
  | locked (id userId : Uuid) (work : Work) (a : Account)
      (ha : sh.accounts.lookup userId = some a) (hfree : Free sh.grants i userId .noKeyUpdate) :
      Moves env i sh (.go id) (.waiting userId work)
        (draw id { sh with grants := acquire i userId .noKeyUpdate sh.grants })
        (.locked userId work a)
  | allowed (id userId : Uuid) (work : Work) (a a' : Account) (hattempt : work.isAttempt = true)
      (hjudge : work.judge env sh.now a = .allowed a') :
      Moves env i sh (.go id) (.locked userId work a) (draw id sh) (.judged userId work a')
  | ended (id userId : Uuid) (work : Work) (a a' : Account) (hattempt : work.isAttempt = true)
      (hjudge : work.judge env sh.now a = .ended a') :
      Moves env i sh (.go id) (.locked userId work a) (draw id (commit i userId (a', []) sh)) .idle
  | ran (id userId : Uuid) (work : Work) (a : Account) (taken : Bool) (out : Account × List Event)
      (hfresh : id ∉ sh.drawn) (hattempt : work.isAttempt = false)
      (hrun : work.run env sh.now userId id taken a = .ok out) :
      Moves env i sh (.go id) (.locked userId work a) (draw id (commit i userId out sh)) .idle
  | checked (id userId : Uuid) (work : Work) (a a' : Account) (verdict : Option Factor)
      (hcheck : work.check env sh.now a = .ok (verdict, a')) :
      Moves env i sh (.go id) (.judged userId work a)
        (draw id (record userId (work.checked sh.now verdict) sh))
        (.decided userId work a' sh.now verdict)
  | finished (id userId : Uuid) (work : Work) (a : Account) (time : Time) (verdict : Option Factor)
      (out : Account × List Event) (hfresh : id ∉ sh.drawn)
      (hfinish : work.finish env sh.now id a verdict = .ok out) :
      Moves env i sh (.go id) (.decided userId work a time verdict)
        (draw id (commit i userId out sh)) .idle
  | refused (id : Uuid) (now : Time) (request : Request) :
      Moves env i sh (.go id) (.started now request) (draw id sh) .idle
  | missing (id userId : Uuid) (work : Work) :
      Moves env i sh (.go id) (.waiting userId work) (draw id sh) .idle
  /-- The throttle, the service or the check raises. -/
  | raised (id userId : Uuid) (work : Work) (a : Account) :
      Moves env i sh (.go id) (.locked userId work a) (draw id (rollback i sh)) .idle
  | checkRaised (id userId : Uuid) (work : Work) (a : Account) (e : AppError)
      (hcheck : work.check env sh.now a = .error e) :
      Moves env i sh (.go id) (.judged userId work a) (draw id (rollback i sh)) .idle
  | unfinished (id userId : Uuid) (work : Work) (a : Account) (time : Time)
      (verdict : Option Factor) (e : AppError)
      (hfinish : work.finish env sh.now id a verdict = .error e) :
      Moves env i sh (.go id) (.decided userId work a time verdict) (draw id (rollback i sh)) .idle
  | failed (lo : Session) : Moves env i sh .fail lo (rollback i sh) .idle
  | tick (now : Time) (lo : Session) :
      Moves env i sh (.tick now) lo { sh with now := max sh.now now } lo

variable {env : Env} {i : ι} {id : Uuid} {sh sh' : Shared ι} {ch : Choice} {lo lo' : Session}

theorem moves_of_go (hfresh : id ∉ sh.drawn) (h : go env i id sh lo = some (sh', lo')) :
    Moves env i sh (.go id) lo (draw id sh') lo' := by
  cases lo with
  | idle => cases h
  | started now request =>
    simp only [go] at h
    split at h
    · next userId work hfind =>
      cases h
      exact .found id now request userId work hfind
    · cases h
      exact .refused id now request
  | waiting userId work =>
    simp only [go] at h
    split at h
    · next a ha =>
      split at h
      · next hfree =>
        cases h
        exact .locked id userId work a ha hfree
      · cases h
    · cases h
      exact .missing id userId work
  | locked userId work a =>
    simp only [go] at h
    split at h
    · next hattempt =>
      split at h
      · next a' hjudge =>
        cases h
        exact .allowed id userId work a a' hattempt hjudge
      · next a' hjudge =>
        cases h
        exact .ended id userId work a a' hattempt hjudge
      · cases h
        exact .raised id userId work a
    · next hattempt =>
      obtain ⟨rfl, rfl⟩ := some_inj h
      cases hrun : work.run env sh.now userId id (work.taken sh.accounts) a with
      | ok out => exact .ran id userId work a _ out hfresh (by simpa using hattempt) hrun
      | error e => exact .raised id userId work a
  | judged userId work a =>
    simp only [go] at h
    split at h
    · next verdict a' hcheck =>
      cases h
      exact .checked id userId work a a' verdict hcheck
    · next e hcheck =>
      cases h
      exact .checkRaised id userId work a e hcheck
  | decided userId work a time verdict =>
    simp only [go] at h
    obtain ⟨rfl, rfl⟩ := some_inj h
    cases hfinish : work.finish env sh.now id a verdict with
    | ok out => exact .finished id userId work a time verdict out hfresh hfinish
    | error e => exact .unfinished id userId work a time verdict e hfinish

/-- Everything a step can do to the committed accounts. -/
theorem moves_of_step (h : step env i ch sh lo = some (sh', lo')) : Moves env i sh ch lo sh' lo' := by
  cases ch with
  | request request =>
    cases lo with
    | idle =>
      cases h
      exact .asked request
    | started | waiting | locked | judged | decided => cases h
  | go id =>
    simp only [step] at h
    split at h
    · cases h
    · next hfresh =>
      obtain ⟨⟨sh₁, lo₁⟩, hgo, hout⟩ := Option.map_eq_some_iff.mp h
      obtain ⟨rfl, rfl⟩ := Prod.mk.inj hout
      exact moves_of_go hfresh hgo
  | fail =>
    cases h
    exact .failed lo
  | tick now =>
    cases h
    exact .tick now lo

end Moves

section Knows

variable {ι : Type} [DecidableEq ι]

/-- The request has this user row, and no other. -/
structure Holding (i : ι) (sh : Shared ι) (userId : Uuid) : Prop where
  held : Held sh.grants i userId .noKeyUpdate
  only : ∀ r m, Held sh.grants i r m → r = userId

def Knows (env : Env) (i : ι) (sh : Shared ι) : Session → Prop
  | .idle | .started .. | .waiting .. => ∀ r m, ¬ Held sh.grants i r m
  | .locked userId _ a => Holding i sh userId ∧ sh.accounts.lookup userId = some a
  | .judged userId work draft => Holding i sh userId ∧ work.isAttempt = true ∧
    ∃ a time, time ≤ sh.now ∧ sh.accounts.lookup userId = some a ∧
      work.judge env time a = .allowed draft
  | .decided userId work draft time verdict => Holding i sh userId ∧ work.isAttempt = true ∧
    ∃ a judged judgedAt, judgedAt ≤ time ∧ time ≤ sh.now ∧
      sh.accounts.lookup userId = some a ∧ work.judge env judgedAt a = .allowed judged ∧
      work.check env time judged = .ok (verdict, draft)

/-- What a step leaves to a session: its locks, and what belongs to the users it
has locked. -/
structure Respects (j : ι) (sh sh' : Shared ι) : Prop where
  held : ∀ r m, Held sh'.grants j r m ↔ Held sh.grants j r m
  later : sh.now ≤ sh'.now
  drawn : sh.drawn ⊆ sh'.drawn
  account : ∀ userId, Held sh.grants j userId .noKeyUpdate →
    sh'.accounts.lookup userId = sh.accounts.lookup userId
  history : ∀ userId, Held sh.grants j userId .noKeyUpdate →
    sh'.history userId = sh.history userId

variable {env : Env} {i j : ι} {sh sh' : Shared ι} {ch : Choice} {lo lo' : Session} {userId : Uuid}

omit [DecidableEq ι] in
theorem Holding.respects (h : Holding j sh userId) (hrespects : Respects j sh sh') :
    Holding j sh' userId :=
  ⟨(hrespects.held _ _).mpr h.held, fun r m hheld => h.only r m ((hrespects.held r m).mp hheld)⟩

omit [DecidableEq ι] in
theorem knows_respects (h : Knows env j sh lo) (hrespects : Respects j sh sh') :
    Knows env j sh' lo := by
  cases lo with
  | idle | started | waiting => exact fun r m hheld => h r m ((hrespects.held r m).mp hheld)
  | locked userId work a =>
    obtain ⟨hholding, ha⟩ := h
    exact ⟨hholding.respects hrespects, (hrespects.account _ hholding.held).trans ha⟩
  | judged userId work draft =>
    obtain ⟨hholding, hattempt, a, time, hle, ha, hjudge⟩ := h
    exact ⟨hholding.respects hrespects, hattempt, a, time, hle.trans hrespects.later,
      (hrespects.account _ hholding.held).trans ha, hjudge⟩
  | decided userId work draft time verdict =>
    obtain ⟨hholding, hattempt, a, judged, judgedAt, hle, hle', ha, h⟩ := h
    exact ⟨hholding.respects hrespects, hattempt, a, judged, judgedAt, hle,
      hle'.trans hrespects.later, (hrespects.account _ hholding.held).trans ha, h⟩

theorem not_held_release (r : Uuid) (m : Mode) : ¬ Held (Locks.release i sh.grants) i r m :=
  fun hheld => (held_release.mp hheld).2 rfl

omit [DecidableEq ι] in
theorem Respects.refl : Respects j sh sh :=
  ⟨fun _ _ => Iff.rfl, le_rfl, List.Subset.refl _, fun _ _ => rfl, fun _ _ => rfl⟩

omit [DecidableEq ι] in
theorem Respects.draw (h : Respects j sh sh') (id : Uuid) : Respects j sh (draw id sh') :=
  ⟨h.held, h.later, List.subset_cons_of_subset _ h.drawn, h.account, h.history⟩

theorem respects_rollback (hne : j ≠ i) : Respects j sh (rollback i sh) :=
  ⟨fun _ _ => held_release.trans (and_iff_left hne), le_rfl, List.Subset.refl _, fun _ _ => rfl,
    fun _ _ => rfl⟩

omit [DecidableEq ι] in
theorem respects_acquire (hne : j ≠ i) (userId : Uuid) (m : Mode) :
    Respects j sh { sh with grants := acquire i userId m sh.grants } :=
  ⟨fun _ _ => held_acquire.trans (or_iff_right fun h => hne h.1), le_rfl, List.Subset.refl _,
    fun _ _ => rfl, fun _ _ => rfl⟩

omit [DecidableEq ι] in
theorem respects_tick {now : Time} : Respects j sh { sh with now := max sh.now now } :=
  ⟨fun _ _ => Iff.rfl, le_max_left _ _, List.Subset.refl _, fun _ _ => rfl, fun _ _ => rfl⟩

omit [DecidableEq ι] in
theorem Holding.ne (h : Holding i sh userId) (hcompatible : Compatible sh.grants) (hne : j ≠ i)
    {id : Uuid} (hheld : Held sh.grants j id .noKeyUpdate) : id ≠ userId := by
  rintro rfl
  exact hne (hcompatible _ _ _ _ _ hheld h.held rfl)

theorem respects_commit (hne : j ≠ i) (hcompatible : Compatible sh.grants)
    (h : Holding i sh userId) (out : Account × List Event) :
    Respects j sh (commit i userId out sh) := by
  refine ⟨fun _ _ => held_release.trans (and_iff_left hne), le_rfl, List.Subset.refl _,
    fun id hheld => ?_, fun id hheld => ?_⟩
  · exact AList.lookup_insert_ne (h.ne hcompatible hne hheld)
  · exact Function.update_of_ne (h.ne hcompatible hne hheld) _ _

omit [DecidableEq ι] in
theorem respects_record (hne : j ≠ i) (hcompatible : Compatible sh.grants)
    (h : Holding i sh userId) (event : Event) : Respects j sh (record userId event sh) :=
  ⟨fun _ _ => Iff.rfl, le_rfl, List.Subset.refl _, fun _ _ => rfl,
    fun _ hheld => Function.update_of_ne (h.ne hcompatible hne hheld) _ _⟩

theorem respects_moves (hne : j ≠ i) (hcompatible : Compatible sh.grants)
    (hknows : Knows env i sh lo) (h : Moves env i sh ch lo sh' lo') : Respects j sh sh' := by
  cases h with
  | asked => exact .refl
  | found | allowed | refused | missing => exact Respects.refl.draw _
  | locked => exact (respects_acquire hne _ _).draw _
  | ended => exact (respects_commit hne hcompatible hknows.1 _).draw _
  | ran => exact (respects_commit hne hcompatible hknows.1 _).draw _
  | checked => exact (respects_record hne hcompatible hknows.1 _).draw _
  | finished => exact (respects_commit hne hcompatible hknows.1 _).draw _
  | raised | checkRaised | unfinished => exact (respects_rollback hne).draw _
  | failed => exact respects_rollback hne
  | tick => exact respects_tick

theorem compatible_moves (hcompatible : Compatible sh.grants)
    (h : Moves env i sh ch lo sh' lo') : Compatible sh'.grants := by
  cases h with
  | asked | found | allowed | refused | missing | checked | tick => exact hcompatible
  | locked id userId work a ha hfree => exact hcompatible.acquire hfree
  | ended | ran | finished | raised | checkRaised | unfinished | failed => exact hcompatible.release

theorem knows_moves (hknows : Knows env i sh lo) (h : Moves env i sh ch lo sh' lo') :
    Knows env i sh' lo' := by
  cases h with
  | asked | found | refused | missing => exact hknows
  | locked id userId work a ha hfree =>
    refine ⟨⟨held_acquire.mpr (.inl ⟨rfl, rfl, rfl⟩), fun r m hheld => ?_⟩, ha⟩
    rcases held_acquire.mp hheld with ⟨-, rfl, -⟩ | hheld
    · rfl
    · exact (hknows r m hheld).elim
  | allowed id userId work a a' hattempt hjudge =>
    exact ⟨⟨hknows.1.held, hknows.1.only⟩, hattempt, a, sh.now, le_rfl, hknows.2, hjudge⟩
  | checked id userId work a a' verdict hcheck =>
    obtain ⟨hholding, hattempt, b, time, hle, hb, hjudge⟩ := hknows
    exact ⟨⟨hholding.held, hholding.only⟩, hattempt, b, a, time, hle, le_rfl, hb, hjudge, hcheck⟩
  | ended | ran | finished | raised | checkRaised | unfinished | failed =>
    exact fun r m => not_held_release r m
  | tick => exact knows_respects hknows respects_tick

/-! ### Runs -/

def Account.ids (a : Account) : List Uuid := a.tokens.keys ++ a.sessions.keys

def opening (now : Time) (accounts : Table Uuid Account) : Config ι (Shared ι) Session :=
  ⟨{ now := now, accounts := accounts, drawn := accounts.entries.flatMap fun e => Account.ids e.2 },
    fun _ => .idle⟩

def Sound (sh : Shared ι) : Prop := Compatible sh.grants

omit [DecidableEq ι] in
theorem opening_holds (env : Env) (now : Time) (accounts : Table Uuid Account) :
    Holds Sound (Knows env) (opening now accounts : Config ι (Shared ι) Session) :=
  ⟨Compatible.nil, nofun⟩

theorem move_holds {c : Config ι (Shared ι) Session} {a : ι × Choice}
    (hc : Holds Sound (Knows env) c) : Holds Sound (Knows env) (move (step env) c a) := by
  refine noninterference_all (G := Sound) (L := Knows env)
    (fun i ch sh lo sh' lo' hG hL h => ?_) (fun i j ch sh lo lo' sh' lo'' hij hG hLi hLj h => ?_) hc a
  · exact ⟨compatible_moves hG (moves_of_step h), knows_moves hL (moves_of_step h)⟩
  · exact knows_respects hLj (respects_moves hij.symm hG hLi (moves_of_step h))

end Knows


/-- An environment with the codes of one authenticator app. -/
def oneAuthenticator : Env where
  today := fun _ => ⟨2026, 10, 1⟩
  absoluteExpiry := fun now => now + minutes (24 * 60)
  totpAt := fun secret step =>
    if secret = "JBSWY3DPEHPK3PXP" then
      ["282760", "996554", "602287", "143627", "960129", "768897", "883951"].getD step.toNat ""
    else ""
  hashCode := id
  validateNewPassword := fun _ _ => .ok ()

/-- An active user with a password, an authenticator and a recovery code. -/
def withAuthenticator : Account where
  user := { tenantId := 1, email := "a@b.ch", status := .active }
  credential := some { password := "old" }
  totp := some { secret := "JBSWY3DPEHPK3PXP", confirmedAt := some 0 }
  recoveryCodes := (∅ : Table Uuid MfaRecoveryCode).insert 30 { codeHash := "abcde12345" }

def oneAccount : Table Uuid Account := (∅ : Table Uuid Account).insert 1 withAuthenticator

/-- A request and its statements; the ids are drawn from `first` on. -/
def served (i : ℕ) (request : Request) (first statements : ℕ) : List (ℕ × Choice) :=
  (i, .request request) :: (List.range statements).map fun k => (i, .go (first + k))

end Nexotec.SignIn
