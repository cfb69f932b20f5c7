/-
The account axis of the throttle (FR-AU-08/09, `app/platform/services/identity.py`).

`LocalPasswordProvider.resolve` reads the clock when the request begins, may
wait for the user row, and dates a wrong password by that first reading; the
pause it writes may have passed before the failure was decided.
-/
import Nexotec.Platform.SignInRule

namespace Nexotec.Throttle

open Platform Auth SignIn Locks Interleaving

/-! ### The property and the condition -/

/-- The failed checks since the last completed sign-in or new password. -/
def failures : List Event → ℕ
  | [] => 0
  | .checked _ _ _ none :: h => failures h + 1
  | .checked _ _ _ (some _) :: h => failures h
  | .completed .. :: _ | .passwordSet :: _ => 0

/-- At `t` the pauses of the failed checks are over: the back-off after the
`k`-th failure in a row, and the lockout once `k` reaches
`auth_lockout_failures`.  A new password ends the pauses before it.  `dated` is
the instant a pause is counted from, of the two that a check has. -/
def Waited (env : Env) (dated : Time → Time → Time) (t : Time) : List Event → Prop
  | [] => True
  | .checked _ began time none :: h =>
    dated began time + backoff env (failures h + 1) ≤ t ∧
      (env.authLockoutFailures ≤ failures h + 1 →
        dated began time + minutes env.authLockoutMinutes ≤ t) ∧
      Waited env dated t h
  | .checked _ _ _ (some _) :: h => Waited env dated t h
  | .completed .. :: h => Waited env dated t h
  | .passwordSet :: _ => True

/-- Every check of the history has waited for the failures before it. -/
def Paced (env : Env) (dated : Time → Time → Time) : List Event → Prop
  | [] => True
  | .checked _ _ time _ :: h => Waited env dated time h ∧ Paced env dated h
  | .completed .. :: h | .passwordSet :: h => Paced env dated h

def asBegun : Time → Time → Time := fun began _ => began

def asDecided : Time → Time → Time := fun _ time => time

/-- The transaction of a failed check does not fail. -/
def committed (ch : Choice) : Session → Bool
  | .decided _ _ _ _ none => !(ch matches .fail)
  | _ => true

/-- One more failure of the account is followed by a back-off or by the lockout. -/
def startsPause (env : Env) (a : Account) : Bool :=
  let k := (a.credential.map (·.failedLoginAttempts)).getD 0 + 1
  0 < backoff env k || env.authLockoutFailures ≤ k

/-- **The condition on a step**: a wrong password that starts a pause is decided at the
instant its request began. -/
def decidedAtOnce (env : Env) : Session → Bool
  | .decided _ (.login started _) draft time none => !startsPause env draft || started = time
  | _ => true

/-! ### The credential and the history -/

/-- The credential counts the failures of the history and keeps its pauses. -/
structure Tracks (env : Env) (dated : Time → Time → Time) (now : Time) (h : List Event)
    (c : Option Credential) : Prop where
  counted : failures h ≤ (c.map (·.failedLoginAttempts)).getD 0
  guarded : ∀ t, now ≤ t → accountThrottled env c t = false → Waited env dated t h

section

variable {env : Env} {dated : Time → Time → Time} {now now' t t' : Time} {h : List Event}
  {c : Option Credential}

theorem backoff_mono {k k' : ℕ} (hle : k ≤ k') : backoff env k ≤ backoff env k' := by
  unfold backoff
  by_cases hk : k < 3
  · rw [if_pos hk]
    split
    · exact le_rfl
    · exact mul_nonneg (by positivity) (by decide)
  · rw [if_neg hk, if_neg (by omega)]
    have hmin : min (2 ^ (k - 2)) (env.authLockoutMinutes * 60) ≤
        min (2 ^ (k' - 2)) (env.authLockoutMinutes * 60) :=
      min_le_min_right _ (Nat.pow_le_pow_right (by omega) (by omega))
    exact mul_le_mul_of_nonneg_right (Int.ofNat_le.mpr hmin) (by decide)

theorem Waited.later (hle : t ≤ t') (hwaited : Waited env dated t h) : Waited env dated t' h := by
  induction h with
  | nil => trivial
  | cons e h ih =>
    match e, hwaited with
    | .checked _ _ _ none, ⟨hpause, hlock, hrest⟩ =>
      exact ⟨hpause.trans hle, fun hk => (hlock hk).trans hle, ih hrest⟩
    | .checked _ _ _ (some _), hrest => exact ih hrest
    | .completed .., hrest => exact ih hrest
    | .passwordSet, _ => trivial

theorem Tracks.later (htracks : Tracks env dated now h c) (hle : now ≤ now') :
    Tracks env dated now' h c :=
  ⟨htracks.counted, fun t ht => htracks.guarded t (hle.trans ht)⟩

theorem not_throttled_iff {c : Credential} : accountThrottled env (some c) t = false ↔
    (∀ lockedUntil ∈ c.lockedUntil, lockedUntil ≤ t) ∧
      ∀ lastFailedAt ∈ c.lastFailedAt, lastFailedAt + backoff env c.failedLoginAttempts ≤ t := by
  obtain ⟨password, history, attempts, lastFailedAt, lockedUntil⟩ := c
  cases lockedUntil with
  | none => cases lastFailedAt <;> simp [accountThrottled]
  | some lockedUntil => cases lastFailedAt <;> simp [accountThrottled]

variable {challenge : Option Uuid} {began time : Time}

theorem Tracks.failed {c : Credential} {failedAt : Time} (htracks : Tracks env dated now h (some c))
    (hwaited : Waited env dated time h) (hdated : dated began time ≤ failedAt) :
    Tracks env dated time (.checked challenge began time none :: h)
      (some (c.failed env failedAt failedAt)) := by
  have hcounted : failures h + 1 ≤ c.failedLoginAttempts + 1 := Nat.succ_le_succ htracks.counted
  refine ⟨hcounted, fun t ht hfree => ⟨?_, fun hk => ?_, hwaited.later ht⟩⟩
  · have hpause := (not_throttled_iff.mp hfree).2 failedAt rfl
    calc dated began time + backoff env (failures h + 1)
        ≤ failedAt + backoff env (c.failedLoginAttempts + 1) :=
          add_le_add hdated (backoff_mono hcounted)
      _ ≤ t := hpause
  · have hlocked : (c.failed env failedAt failedAt).lockedUntil =
        some (failedAt + minutes env.authLockoutMinutes) := if_pos (hk.trans hcounted)
    exact (add_le_add_left hdated _).trans ((not_throttled_iff.mp hfree).1 _ hlocked)

/-- A failure that starts no pause may be dated at any time. -/
theorem Tracks.failed_early {c : Credential} {failedAt : Time} {a : Account}
    (htracks : Tracks env dated now h (some c)) (ha : a.credential = some c)
    (hwaited : Waited env dated time h) (hdated : dated began time ≤ time)
    (hnone : startsPause env a = false) :
    Tracks env dated time (.checked challenge began time none :: h)
      (some (c.failed env failedAt failedAt)) := by
  have hcounted : failures h + 1 ≤ c.failedLoginAttempts + 1 := Nat.succ_le_succ htracks.counted
  simp only [startsPause, ha, Option.map_some, Option.getD_some, Bool.or_eq_false_iff,
    decide_eq_false_iff_not, not_lt, not_le] at hnone
  refine ⟨hcounted, fun t ht _ => ⟨?_, fun hk => ?_, hwaited.later ht⟩⟩
  · calc dated began time + backoff env (failures h + 1)
        ≤ time + 0 := add_le_add hdated ((backoff_mono hcounted).trans hnone.1)
      _ ≤ t := (add_zero time).le.trans ht
  · exact absurd (hk.trans hcounted) hnone.2.not_ge

theorem Tracks.passed {factor : Factor} (htracks : Tracks env dated now h c)
    (hwaited : Waited env dated time h) :
    Tracks env dated time (.checked challenge began time (some factor) :: h) c :=
  ⟨htracks.counted, fun _ ht _ => hwaited.later ht⟩

theorem Tracks.completed {factor : Factor} {c' : Option Credential}
    (hwaited : Waited env dated now h) : Tracks env dated now (.completed challenge factor :: h) c' :=
  ⟨Nat.zero_le _, fun _ ht _ => hwaited.later ht⟩

end

/-! ### What the services do to the credential -/

/-- An account with an MFA challenge has a password: the challenge was issued on
it, and a credential is never deleted. -/
def Keyed (a : Account) : Prop :=
  ∀ raw token, a.tokens.lookup raw = some token → token.kind = .mfaChallenge → a.credential ≠ none

section

variable {env : Env} {now : Time} {a b : Account} {work : Work} {events : List Event}
  {kind : AuthTokenKind} {raw : Uuid}

theorem credential_consume (h : consume now kind raw a = some b) : b.credential = a.credential := by
  obtain ⟨-, -, rfl⟩ := Option.map_eq_some_iff.mp h
  rfl

theorem kind_consume {raw' : Uuid} {token : AuthToken} (h : consume now kind raw a = some b)
    (htoken : b.tokens.lookup raw' = some token) :
    ∃ token', a.tokens.lookup raw' = some token' ∧ token.kind = token'.kind := by
  obtain ⟨-, -, rfl⟩ := Option.map_eq_some_iff.mp h
  rw [Table.lookup_modify] at htoken
  split at htoken
  · next hraw =>
    subst hraw
    obtain ⟨token', htoken', rfl⟩ := Option.map_eq_some_iff.mp htoken
    exact ⟨token', htoken', rfl⟩
  · exact ⟨token, htoken, rfl⟩

theorem credential_judge (h : work.judge env now a = .allowed b) : b.credential = a.credential := by
  rcases (judge_allowed h).2 with ⟨-, -, rfl⟩ | ⟨raw, given, -, hclaimed⟩
  · rfl
  · obtain ⟨-, -, rfl⟩ := Option.map_eq_some_iff.mp hclaimed
    rfl

theorem credential_check {verdict : Option Factor} (h : work.check env now a = .ok (verdict, b)) :
    b.credential = a.credential := by
  rcases check_cases h with ⟨-, rfl⟩ | ⟨-, rfl, -⟩ | ⟨raw, given, factor, -, -, haccepts⟩
  · rfl
  · rfl
  · cases haccepts <;> rfl

variable {id : Uuid}

theorem finish_wrong (hattempt : work.isAttempt = true)
    (h : work.finish env now id a none = .ok (b, events)) :
    events = [] ∧
      b.credential = a.credential.map (·.failed env (work.began now) (work.began now)) := by
  cases work with
  | login | answer =>
    cases h
    exact ⟨rfl, rfl⟩
  | reset | accept | requestReset | invite | changeEmail => cases hattempt

theorem finishLogin_credential {sid : Uuid} {factor : Factor} {acceptedIn : ℕ}
    (h : finishLogin env now sid factor acceptedIn a = .ok b) :
    b.credential = a.credential.map (·.cleared) := by
  obtain ⟨minted, hmint, hb⟩ := Result.of_bind h
  cases hb
  unfold mintSession at hmint
  split at hmint
  · cases hmint
  · cases hmint
    rfl

theorem passwordAccepted_credential (h : passwordAccepted env now id a = .ok (b, events)) :
    (events = [] ∧ b.credential = a.credential) ∨
      (events = [.completed none .password] ∧ b.credential = a.credential.map (·.cleared)) := by
  unfold passwordAccepted at h
  split at h
  · cases h
    exact .inl ⟨rfl, rfl⟩
  · obtain ⟨minted, hmint, hb⟩ := Result.of_bind h
    cases hb
    exact .inr ⟨rfl, finishLogin_credential hmint⟩

theorem finish_right {factor : Factor}
    (h : work.finish env now id a (some factor) = .ok (b, events)) :
    (events = [] ∧ b.credential = a.credential) ∨
      ∃ challenge factor', events = [.completed challenge factor'] ∧
        b.credential = a.credential.map (·.cleared) := by
  cases work with
  | login started password =>
    simp only [Work.finish] at h
    split at h
    · cases h
      exact .inl ⟨rfl, rfl⟩
    · rcases passwordAccepted_credential h with hissued | ⟨hevents, hcred⟩
      · exact .inl hissued
      · exact .inr ⟨none, .password, hevents, hcred⟩
  | answer raw given =>
    simp only [Work.finish] at h
    obtain ⟨token, -, h⟩ := Result.of_bind h
    split at h
    · next spent hspent =>
      obtain ⟨minted, hmint, hb⟩ := Result.of_bind h
      cases hb
      refine .inr ⟨some raw, factor, rfl, ?_⟩
      rw [finishLogin_credential hmint, credential_consume hspent]
    · cases h
  | reset | accept | requestReset | invite | changeEmail =>
    cases h
    exact .inl ⟨rfl, rfl⟩

theorem kind_consumeAllForUser {kinds : List AuthTokenKind} {token : AuthToken}
    (h : (consumeAllForUser now kinds a).tokens.lookup raw = some token) :
    ∃ token', a.tokens.lookup raw = some token' ∧ token.kind = token'.kind := by
  rw [consumeAllForUser, Table.lookup_updateAll] at h
  obtain ⟨token', htoken', rfl⟩ := Option.map_eq_some_iff.mp h
  refine ⟨token', htoken', ?_⟩
  split
  · rfl
  · rfl

theorem Keyed.issue (hkeyed : Keyed a) (hkind : kind ≠ .mfaChallenge) (raw : Uuid) :
    Keyed (Auth.issue now kind raw a) := by
  intro raw' token htoken hchallenge
  rcases Table.lookup_insert_cases htoken with ⟨-, rfl⟩ | ⟨-, hold⟩
  · exact (hkind hchallenge).elim
  · obtain ⟨token', htoken', hsame⟩ := kind_consumeAllForUser hold
    exact hkeyed raw' token' htoken' (hsame.symm.trans hchallenge)

theorem Keyed.allowed (hkeyed : Keyed a) (h : work.judge env now a = .allowed b) :
    a.credential ≠ none := by
  rcases (judge_allowed h).2 with ⟨-, hpresent, -⟩ | ⟨raw, given, -, hclaimed⟩
  · exact hpresent
  · obtain ⟨token, htoken, -⟩ := Option.map_eq_some_iff.mp hclaimed
    obtain ⟨hrow, hlive⟩ := Option.filter_eq_some_iff.mp htoken
    simp only [Bool.and_eq_true, decide_eq_true_eq] at hlive
    exact hkeyed raw token hrow hlive.1.1

theorem Keyed.of_credential (h : b.credential ≠ none) : Keyed b := fun _ _ _ _ => h

variable {password : String}

theorem setPassword_credential (h : setPassword env password a = .ok b) : b.credential ≠ none := by
  obtain ⟨-, -, h⟩ := Result.of_bind h
  dsimp only at h
  split at h
  · cases h
  · cases h
    exact Option.some_ne_none _

variable {userId : Uuid}

theorem confirmPasswordReset_credential
    (h : confirmPasswordReset env now userId raw password a = .ok b) : b.credential ≠ none := by
  obtain ⟨consumed, set, -, -, hset, rfl⟩ := confirmPasswordReset_eq_ok h
  exact activate_credential.trans_ne (setPassword_credential hset)

theorem acceptInvitation_credential (h : acceptInvitation env now userId raw password a = .ok b) :
    b.credential ≠ none := by
  obtain ⟨consumed, set, -, -, hset, rfl⟩ := acceptInvitation_eq_ok h
  exact activate_credential.trans_ne (setPassword_credential hset)

theorem run_effect {newId : Uuid} {taken : Bool}
    (h : work.run env now userId newId taken a = .ok (b, events)) :
    (events = [] ∧ b.credential = a.credential ∧ (Keyed a → Keyed b)) ∨
      (b.credential ≠ none ∧
        (events = [.passwordSet] ∨ events = [.completed none .password, .passwordSet])) := by
  cases work with
  | login | answer =>
    cases h
    exact .inl ⟨rfl, rfl, id⟩
  | reset raw password =>
    obtain ⟨c, hc, hb⟩ := Result.of_bind h
    cases hb
    exact .inr ⟨confirmPasswordReset_credential hc, .inl rfl⟩
  | accept raw password =>
    obtain ⟨c, hc, hb⟩ := Result.of_bind h
    have hset := acceptInvitation_credential hc
    split at hb
    · obtain ⟨⟨d, events'⟩, hd, hb⟩ := Result.of_bind hb
      cases hb
      rcases passwordAccepted_credential hd with ⟨rfl, hcred⟩ | ⟨rfl, hcred⟩
      · exact .inr ⟨hcred.trans_ne hset, .inl rfl⟩
      · refine .inr ⟨fun hnone => hset ?_, .inr rfl⟩
        exact Option.map_eq_none_iff.mp (hcred.symm.trans hnone)
    · cases hb
      exact .inr ⟨hset, .inl rfl⟩
  | requestReset email =>
    simp only [Work.run] at h
    split at h
    · cases h
      exact .inl ⟨rfl, rfl, id⟩
    · cases h
      exact .inl ⟨rfl, rfl, fun hkeyed => hkeyed.issue (by decide) newId⟩
  | invite =>
    cases h
    exact .inl ⟨rfl, rfl, fun hkeyed => hkeyed.issue (by decide) newId⟩
  | changeEmail actorId email =>
    simp only [Work.run] at h
    split at h
    · cases h
    · cases h
      refine .inl ⟨rfl, rfl, fun hkeyed raw token htoken hchallenge => ?_⟩
      obtain ⟨token', htoken', hsame⟩ := kind_consumeAllForUser htoken
      exact hkeyed raw token' htoken' (hsame.symm.trans hchallenge)

end

/-! ### Every run is paced -/

/-- The history is paced and the credential keeps its pauses. -/
structure Kept (env : Env) (dated : Time → Time → Time) (v : View) : Prop where
  keyed : Keyed v.account
  paced : Paced env dated v.history
  tracks : Tracks env dated v.now v.history v.account.credential

/-- The pauses of an attempt that was let through are over. -/
structure LetThrough (env : Env) (dated : Time → Time → Time) (v : View) (draft : Account) : Prop
    extends Kept env dated v where
  credential : draft.credential = v.account.credential
  waited : Waited env dated v.now v.history
  present : v.account.credential ≠ none

/-- The check of the attempt is the newest event. -/
structure Checked (env : Env) (dated : Time → Time → Time) (v : View) (work : Work)
    (draft : Account) (time : Time) (verdict : Option Factor) : Prop where
  keyed : Keyed v.account
  paced : Paced env dated v.history
  credential : draft.credential = v.account.credential
  present : v.account.credential ≠ none
  decided : time ≤ v.now
  past : ∃ h, v.history = work.checked time verdict :: h ∧
    Tracks env dated time h v.account.credential ∧ Waited env dated time h

def throttle (env : Env) (dated : Time → Time → Time) : Assertions where
  free := Kept env dated
  judged := fun v _ draft => LetThrough env dated v draft
  decided := Checked env dated

/-- What the steps must keep to for a failure to be dated by `dated`. -/
structure Dates (env : Env) (dated : Time → Time → Time) (ok : Time → Choice → Session → Prop) :
    Prop where
  same : ∀ time, dated time time ≤ time
  committed : ∀ {now userId work draft time}, ¬ ok now .fail (.decided userId work draft time none)
  login : ∀ {now id userId started password draft time},
    ok now (.go id) (.decided userId (.login started password) draft time none) →
      dated started time ≤ started ∨ dated started time ≤ time ∧ startsPause env draft = false

section

variable {env : Env} {dated : Time → Time → Time} {ok : Time → Choice → Session → Prop} {v : View}
  {work : Work} {a b draft draft' : Account} {events : List Event} {newId : Uuid}

theorem Kept.ran {userId : Uuid} {taken : Bool} (h : Kept env dated v)
    (hrun : work.run env v.now userId newId taken v.account = .ok (b, events)) :
    Kept env dated { v with drawn := newId :: v.drawn, history := events ++ v.history, account := b } := by
  rcases run_effect hrun with ⟨rfl, hcred, hkeyed⟩ | ⟨hcred, rfl | rfl⟩
  · refine ⟨hkeyed h.keyed, h.paced, ?_⟩
    change Tracks env dated v.now v.history b.credential
    rw [hcred]
    exact h.tracks
  · exact ⟨.of_credential hcred, h.paced, Nat.zero_le _, fun _ _ _ => trivial⟩
  · exact ⟨.of_credential hcred, h.paced, Nat.zero_le _, fun _ _ _ => trivial⟩

theorem Kept.ended (h : Kept env dated v) (hjudge : work.judge env v.now v.account = .ended b) :
    Kept env dated { v with account := b } := by
  obtain ⟨raw, given, -, hconsume⟩ := judge_ended hjudge
  have hcred := credential_consume hconsume
  refine ⟨fun raw' token htoken hkind => ?_, h.paced, ?_⟩
  · obtain ⟨token', htoken', hsame⟩ := kind_consume hconsume htoken
    exact hcred.trans_ne (h.keyed raw' token' htoken' (hsame.symm.trans hkind))
  · change Tracks env dated v.now v.history b.credential
    rw [hcred]
    exact h.tracks

theorem Kept.allowed (h : Kept env dated v)
    (hjudge : work.judge env v.now v.account = .allowed draft) : LetThrough env dated v draft := by
  have hopen := (judge_allowed hjudge).1
  exact ⟨h, credential_judge hjudge, h.tracks.guarded v.now le_rfl hopen, h.keyed.allowed hjudge⟩

theorem LetThrough.checked {verdict : Option Factor} (h : LetThrough env dated v draft)
    (hcheck : work.check env v.now draft = .ok (verdict, draft')) :
    Checked env dated { v with history := work.checked v.now verdict :: v.history } work draft'
      v.now verdict :=
  ⟨h.keyed, ⟨h.waited, h.paced⟩, (credential_check hcheck).trans h.credential, h.present, le_rfl,
    v.history, rfl, h.tracks, h.waited⟩

variable {time : Time}

theorem Checked.kept_right {factor : Factor} (h : Checked env dated v work draft time (some factor)) :
    Kept env dated v := by
  obtain ⟨past, hhistory, htracks, hwaited⟩ := h.past
  refine ⟨h.keyed, h.paced, ?_⟩
  rw [hhistory]
  exact (htracks.passed hwaited).later h.decided

theorem Checked.finished_right {factor : Factor} (h : Checked env dated v work draft time (some factor))
    (hfinish : work.finish env v.now newId draft (some factor) = .ok (b, events)) :
    Kept env dated { v with drawn := newId :: v.drawn, history := events ++ v.history, account := b } := by
  obtain ⟨past, hhistory, htracks, hwaited⟩ := h.past
  have hpresent : draft.credential ≠ none := h.credential.trans_ne h.present
  rcases finish_right hfinish with ⟨rfl, hcred⟩ | ⟨-, -, rfl, hcred⟩
  · refine ⟨.of_credential (hcred.trans_ne hpresent), h.paced, ?_⟩
    change Tracks env dated v.now v.history b.credential
    rw [hcred, h.credential]
    exact h.kept_right.tracks
  · refine ⟨.of_credential fun hnone => hpresent ?_, h.paced, Tracks.completed ?_⟩
    · exact Option.map_eq_none_iff.mp (hcred.symm.trans hnone)
    · rw [hhistory]
      exact hwaited.later h.decided

theorem Checked.finished_wrong {userId : Uuid} (hdates : Dates env dated ok)
    (h : Checked env dated v work draft time none) (hattempt : work.isAttempt = true)
    (hok : ok v.now (.go newId) (.decided userId work draft time none))
    (hfinish : work.finish env v.now newId draft none = .ok (b, events)) :
    Kept env dated { v with drawn := newId :: v.drawn, history := events ++ v.history, account := b } := by
  obtain ⟨past, hhistory, htracks, hwaited⟩ := h.past
  obtain ⟨rfl, hcred⟩ := finish_wrong hattempt hfinish
  obtain ⟨c, hc⟩ := Option.ne_none_iff_exists'.mp h.present
  have hdraft : draft.credential = some c := h.credential.trans hc
  rw [hdraft] at hcred
  rw [hc] at htracks
  have hkept : Tracks env dated time v.history
      (some (c.failed env (work.began v.now) (work.began v.now))) := by
    rw [hhistory]
    cases work with
    | login started password =>
      -- the failure is dated by the first reading, long past perhaps
      rcases hdates.login hok with hearly | ⟨hdated, hnone⟩
      · exact htracks.failed hwaited hearly
      · exact htracks.failed_early hdraft hwaited hdated hnone
    | answer raw given => exact htracks.failed hwaited ((hdates.same time).trans h.decided)
    | reset | accept | requestReset | invite | changeEmail => cases hattempt
  refine ⟨.of_credential (hcred.trans_ne (Option.some_ne_none _)), h.paced, ?_⟩
  change Tracks env dated v.now v.history b.credential
  rw [hcred]
  exact hkept.later h.decided

end

/-! ### Runs -/

theorem Kept.later {env : Env} {dated : Time → Time → Time} {v : View} (h : Kept env dated v)
    {now : Time} (hle : v.now ≤ now) (drawn : List Uuid) :
    Kept env dated { v with now := now, drawn := drawn } :=
  ⟨h.keyed, h.paced, h.tracks.later hle⟩

theorem finish_none {env : Env} {now : Time} {id : Uuid} {work : Work} {a : Account} {e : AppError} :
    work.finish env now id a none ≠ .error e := by
  cases work <;> nofun

theorem throttle_valid {env : Env} {dated : Time → Time → Time}
    {ok : Time → Choice → Session → Prop} (hdates : Dates env dated ok) :
    Valid env ok (throttle env dated) where
  later_free := fun hle _ h => h.later hle _
  later_judged := fun hle _ h =>
    ⟨h.toKept.later hle _, h.credential, h.waited.later hle, h.present⟩
  later_decided := fun hle _ h =>
    ⟨h.keyed, h.paced, h.credential, h.present, h.decided.trans hle, h.past⟩
  ran := fun h _ _ hrun => h.ran hrun
  ended := fun h hjudge => h.ended hjudge
  allowed := fun h _ hjudge => h.allowed hjudge
  checked := fun h _ hcheck => h.checked hcheck
  finished := by
    intro v work userId id draft b time verdict events h hok hattempt _ hfinish
    cases verdict with
    | none => exact h.finished_wrong hdates hattempt hok hfinish
    | some factor => exact h.finished_right hfinish
  unfinished := by
    intro v work userId id draft time verdict e h _ hfinish
    cases verdict with
    | none => exact (finish_none hfinish).elim
    | some factor => exact h.kept_right
  failed_judged := fun h => h.toKept
  failed := by
    intro v work userId draft time verdict h hok
    cases verdict with
    | none => exact (hdates.committed hok).elim
    | some factor => exact h.kept_right

section

variable {ι : Type} [DecidableEq ι] {env : Env} {now : Time} {accounts : Table Uuid Account}

abbrev Committed (c : Config ι (Shared ι) Session) (a : ι × Choice) : Prop :=
  committed a.2 (c.locals a.1)

abbrev Ok (env : Env) (c : Config ι (Shared ι) Session) (a : ι × Choice) : Prop :=
  committed a.2 (c.locals a.1) ∧ decidedAtOnce env (c.locals a.1)

theorem paced_run {dated : Time → Time → Time} {ok : Time → Choice → Session → Prop}
    (hdates : Dates env dated ok)
    (hstart : ∀ userId a, accounts.lookup userId = some a → Keyed a) (actions : List (ι × Choice))
    (hok : Run.Along (move (step env)) (fun c a => ok c.shared.now a.2 (c.locals a.1))
      (opening now accounts) actions) (userId : Uuid) (a : Account)
    (ha : (actions.foldl (move (step env)) (opening now accounts)).shared.accounts.lookup userId =
      some a) : Paced env dated
        ((actions.foldl (move (step env)) (opening now accounts)).shared.history userId) := by
  have hfree : ∀ userId a, accounts.lookup userId = some a → (throttle env dated).free
      (view (opening now accounts : Config ι _ _).shared userId a) :=
    fun userId a ha => ⟨hstart userId a ha, trivial, Nat.zero_le _, fun _ _ _ => trivial⟩
  rcases guarded_run (throttle_valid hdates) now accounts actions hfree hok userId a ha with
    h | ⟨_, _, h⟩ | ⟨_, _, _, _, h⟩
  · exact h.paced
  · exact h.paced
  · exact h.paced

theorem dates_asBegun : Dates env asBegun fun _ ch lo => committed ch lo where
  same := fun _ => le_rfl
  committed := nofun
  login := fun _ => .inl le_rfl

theorem dates_asDecided :
    Dates env asDecided fun _ ch lo => committed ch lo ∧ decidedAtOnce env lo where
  same := fun _ => le_rfl
  committed := fun h => nomatch h.1
  login := fun ⟨_, hok⟩ => by
    simp only [decidedAtOnce, Bool.or_eq_true, Bool.not_eq_true', decide_eq_true_eq] at hok
    rcases hok with hnone | rfl
    · exact .inr ⟨le_rfl, hnone⟩
    · exact .inl le_rfl

/-- **A throttled account is not checked.**  In every run whose failed checks are
committed, no password and no second factor of an account is checked before the
back-off after each failure in a row is over, and before the lockout is over once
they are `auth_lockout_failures`, both counted from the clock that dates the
failure; and counted from the failure itself when the wrong passwords that start a
pause are decided as their requests began. -/
theorem account_throttled (env : Env) (now : Time) (accounts : Table Uuid Account)
    (hstart : ∀ userId a, accounts.lookup userId = some a → Keyed a) (actions : List (ι × Choice))
    (hcommitted : Run.Along (move (step env)) Committed (opening now accounts) actions) :
    (∀ userId a,
      (actions.foldl (move (step env)) (opening now accounts)).shared.accounts.lookup userId = some a →
      Paced env asBegun
        ((actions.foldl (move (step env)) (opening now accounts)).shared.history userId)) ∧
    (Run.Along (move (step env)) (Ok env) (opening now accounts) actions → ∀ userId a,
      (actions.foldl (move (step env)) (opening now accounts)).shared.accounts.lookup userId = some a →
      Paced env asDecided
        ((actions.foldl (move (step env)) (opening now accounts)).shared.history userId)) :=
  ⟨paced_run dates_asBegun hstart actions hcommitted,
    fun hok => paced_run dates_asDecided hstart actions hok⟩

end

theorem oneAccount_keyed (userId : Uuid) (a : Account) (ha : oneAccount.lookup userId = some a) :
    Keyed a := by
  rcases Table.lookup_insert_cases ha with ⟨-, rfl⟩ | ⟨-, hold⟩
  · exact fun raw token ht => (by cases ht)
  · cases hold

/-- Three wrong passwords; a fourth guess comes too early, and the owner waits. -/
def threeGuesses : List (ℕ × Choice) :=
  served 0 (.login "a@b.ch" "one") 100 5 ++ served 1 (.login "a@b.ch" "two") 110 5 ++
    served 0 (.login "a@b.ch" "three") 120 5 ++ served 1 (.login "a@b.ch" "four") 130 5 ++
    (0, .tick (minutes 1)) :: served 0 (.login "a@b.ch" "old") 140 5

theorem account_throttled_threeGuesses :
    (threeGuesses.foldl (move (step oneAuthenticator)) (opening 0 oneAccount)).shared.history 1 =
      [.checked none (minutes 1) (minutes 1) (some .password), .checked none 0 0 none,
        .checked none 0 0 none, .checked none 0 0 none] ∧ ∀ userId a,
      (threeGuesses.foldl (move (step oneAuthenticator)) (opening 0 oneAccount)).shared.accounts.lookup
        userId = some a → Paced oneAuthenticator asDecided
        ((threeGuesses.foldl (move (step oneAuthenticator)) (opening 0 oneAccount)).shared.history
          userId) := by
  have hcommitted : Run.Along (move (step oneAuthenticator)) Committed (opening 0 oneAccount)
      threeGuesses := by decide +kernel
  have hok : Run.Along (move (step oneAuthenticator)) (Ok oneAuthenticator) (opening 0 oneAccount)
      threeGuesses := by decide +kernel
  obtain ⟨-, hpaced⟩ := account_throttled oneAuthenticator 0 oneAccount oneAccount_keyed
    threeGuesses hcommitted
  exact ⟨by decide +kernel, @hpaced hok⟩

/-- The third guess reads the clock, finds the row taken and waits a minute for it;
the fourth follows at once. -/
def waitingGuess : List (ℕ × Choice) :=
  served 0 (.login "a@b.ch" "one") 100 5 ++ served 0 (.login "a@b.ch" "two") 110 5 ++
    [(1, .request (.login "a@b.ch" "three")), (1, .go 120), (1, .tick (minutes 1)), (1, .go 121),
      (1, .go 122), (1, .go 123), (1, .go 124)] ++
    served 0 (.login "a@b.ch" "four") 130 5

/-- The failure is dated before the wait, and the pause after it is over when it
begins. -/
theorem waitingGuess_unpaused : ¬ ∀ (env : Env) (now : Time) (accounts : Table Uuid Account),
      (∀ userId a, accounts.lookup userId = some a → Keyed a) →
      ∀ (actions : List (ℕ × Choice)) (userId : Uuid) (a : Account),
        (actions.foldl (move (step env)) (opening now accounts)).shared.accounts.lookup userId = some a →
        Paced env asDecided
          ((actions.foldl (move (step env)) (opening now accounts)).shared.history userId) := by
  intro h
  have hhistory : (waitingGuess.foldl (move (step oneAuthenticator))
      (opening 0 oneAccount)).shared.history 1 =
        [.checked none (minutes 1) (minutes 1) none, .checked none 0 (minutes 1) none,
          .checked none 0 0 none, .checked none 0 0 none] := by decide +kernel
  have hthere : ((waitingGuess.foldl (move (step oneAuthenticator))
      (opening 0 oneAccount)).shared.accounts.lookup 1).isSome = true := by decide +kernel
  obtain ⟨a, ha⟩ := Option.isSome_iff_exists.mp hthere
  have hpaced := @h oneAuthenticator 0 oneAccount oneAccount_keyed waitingGuess 1
  rw [hhistory] at hpaced
  -- the check a minute in comes two seconds too early for the failure of that minute
  have hpause : minutes 1 + backoff oneAuthenticator 3 ≤ minutes 1 := (hpaced a ha).1.1
  exact absurd hpause (by decide)

end Nexotec.Throttle
