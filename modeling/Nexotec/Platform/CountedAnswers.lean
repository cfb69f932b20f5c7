/-
Wrong answers at the second step, and what is kept of them
(`app/platform/api/auth.py`, `verify_mfa`; `mfa.py`, `_verify_totp_code`, `use_recovery_code`;
`identity.py`, `second_step_failed`).

An answer is counted on its challenge and on the account, in the transaction that checks it.  The
digits of `str.isdigit` are those of every script, and `hmac.compare_digest` takes ASCII alone; when it
raises, both counts are rolled back.

Six full-width digits: `fullWidth_uncounted`.
-/
import Nexotec.Platform.Throttle

namespace Nexotec.CountedAnswers

open Platform Auth SignIn Locks Interleaving
open Throttle (Keyed)

/-! ### The request -/

/-- What the request is answered. -/
inductive Reply where
  /-- The step has expired. -/
  | expired
  /-- "The code is not valid." -/
  | invalid
  | completed (factor : Factor)
  /-- The code was right, and no session was minted. -/
  | notMinted
  /-- The check raised. -/
  | raised
  deriving DecidableEq

def Reply.accepts : Reply → Bool
  | .completed _ | .notMinted => true
  | .expired | .invalid | .raised => false

/-- `verify_mfa` of a user whose row is locked: the reply, and the account that is committed. -/
def verifyMfa (env : Env) (now : Time) (id raw : Uuid) (code : String) (a : Account) :
    Reply × Account :=
  let work := Work.answer raw (.code code)
  match work.judge env now a with
  | .refused => (.expired, a)
  | .ended b => (.expired, b)
  | .allowed b =>
    match work.check env now b with
    | .error _ => (.raised, a)
    | .ok (verdict, c) =>
      match work.finish env now id c verdict with
      | .error _ => (.notMinted, a)
      | .ok (d, _) => ((verdict.map Reply.completed).getD .invalid, d)

/-- What an attempt makes of the account where no other request is between its statements, each of
which reads the clock; what is refused, or raises, leaves it. -/
def attempt (env : Env) (judged checked finished : Time) (id : Uuid) (work : Work) (a : Account) :
    Account :=
  match work.judge env judged a with
  | .refused => a
  | .ended b => b
  | .allowed b =>
    match work.check env checked b with
    | .error _ => a
    | .ok (verdict, c) => ((work.finish env finished id c verdict).toOption.map Prod.fst).getD a

/-- The user whose row the session has, and what it is at. -/
def serves : Session → Option (Uuid × Work)
  | .locked userId work _ | .judged userId work _ | .decided userId work _ _ _ => some (userId, work)
  | .idle | .started .. | .waiting .. => none

section
variable {ι : Type} [DecidableEq ι] {env : Env} {i j : ι} {sh sh' : Shared ι} {ch : Choice}
  {lo lo' : Session} {userId : Uuid} {work : Work} {a : Account}

theorem verifyMfa_eq_attempt (now : Time) (id raw : Uuid) (code : String) :
    (verifyMfa env now id raw code a).2 = attempt env now now now id (.answer raw (.code code)) a := by
  unfold verifyMfa attempt
  dsimp only
  split
  · rfl
  · rfl
  · split
    · rfl
    · next verdict c hcheck =>
      cases (Work.answer raw (.code code)).finish env now id c verdict <;> rfl

/-- The statement leaves the account, or ends the request with what the attempt makes of it. -/
def Ends (env : Env) (sh : Shared ι) (userId : Uuid) (work : Work) (a : Account) (sh' : Shared ι)
    (lo' : Session) : Prop :=
  sh'.accounts.lookup userId = some a ∨ lo' = .idle ∧ ∃ judged checked id, judged ≤ checked ∧
    checked ≤ sh.now ∧ sh'.accounts.lookup userId = some (attempt env judged checked sh.now id work a)

omit [DecidableEq ι] in
theorem held_of_serves (hknows : Knows env i sh lo) (h : serves lo = some (userId, work)) :
    Held sh.grants i userId .noKeyUpdate := by
  cases lo with
  | idle | started | waiting => cases h
  | locked | judged | decided =>
    cases h
    exact hknows.1.held

theorem ends_of_moves (hknows : Knows env i sh lo) (hserves : serves lo = some (userId, work))
    (hattempt : work.isAttempt = true) (ha : sh.accounts.lookup userId = some a)
    (h : Moves env i sh ch lo sh' lo') :
    Ends env sh userId work a sh' lo' := by
  cases h with
  | asked | found | locked | refused | missing => cases hserves
  | allowed | checked | raised | checkRaised | unfinished | failed | tick => exact .inl ha
  | ended id userId' work' a₀ b _ hjudge =>
    cases hserves
    obtain rfl : a₀ = a := Option.mem_unique hknows.2 ha
    refine .inr ⟨rfl, sh.now, sh.now, id, le_rfl, le_rfl, ?_⟩
    rw [attempt, hjudge]
    exact AList.lookup_insert sh.accounts
  | ran id userId' work' a₀ taken out hfresh hnone hrun =>
    cases hserves
    rw [hattempt] at hnone
    cases hnone
  | finished id userId' work' draft time verdict out hfresh hfinish =>
    obtain ⟨-, -, a₀, claimed, judgedAt, hle, hlater, ha₀, hjudge, hcheck⟩ := hknows
    cases hserves
    obtain rfl : a₀ = a := Option.mem_unique ha₀ ha
    refine .inr ⟨rfl, judgedAt, time, id, hle, hlater, ?_⟩
    rw [attempt, hjudge]
    dsimp only
    rw [hcheck]
    dsimp only
    rw [hfinish]
    exact AList.lookup_insert sh.accounts

/-- **Attempts are atomic.**  In every run, while a session is at an attempt no other session changes
the account it works on, and the statement of its own that does ends it, with what the attempt makes
of the committed account at the times of its statements. -/
theorem attempts_atomic (env : Env) (start : Time) (accounts : Table Uuid Account)
    (actions : List (ι × Choice)) (c : Config ι (Shared ι) Session)
    (hc : c = actions.foldl (move (step env)) (opening start accounts)) (i : ι) (userId : Uuid)
    (work : Work) (a : Account) (hserves : serves (c.locals i) = some (userId, work))
    (hattempt : work.isAttempt = true) (ha : c.shared.accounts.lookup userId = some a) (j : ι) (ch : Choice) :
    (j ≠ i → (move (step env) c (j, ch)).shared.accounts.lookup userId = some a) ∧
      Ends env c.shared userId work a (move (step env) c (i, ch)).shared
        ((move (step env) c (i, ch)).locals i) := by
  obtain ⟨hsound, hknows⟩ : Holds Sound (Knows env) c :=
    hc ▸ Run.invariant (fun _ _ => move_holds) (opening_holds env start accounts) actions
  constructor
  · intro hne
    cases hstep : step env j ch c.shared (c.locals j) with
    | none =>
      rw [move_none hstep]
      exact ha
    | some out =>
      rw [move_some hstep]
      have hrespects := respects_moves hne.symm hsound (hknows j) (moves_of_step hstep)
      exact (hrespects.account userId (held_of_serves (hknows i) hserves)).trans ha
  · cases hstep : step env i ch c.shared (c.locals i) with
    | none =>
      rw [move_none hstep]
      exact .inl ha
    | some out =>
      rw [move_some hstep]
      dsimp only
      rw [Function.update_self]
      exact ends_of_moves (hknows i) hserves hattempt ha (moves_of_step hstep)

end

/-! ### The codes that raise -/

/-- **Six digits of which one is not ASCII**, while one of the three steps is still open. -/
structure ForeignDigits (now : Time) (totp : MfaTotp) (code : String) : Prop where
  six : (cleanCode code).length = 6
  digits : ∀ c ∈ cleanCode code, inRanges digitRanges c = true
  foreign : ∃ c ∈ cleanCode code, 128 ≤ c.toNat
  fresh : ∃ step ∈ candidateSteps now, ∀ last ∈ totp.lastUsedStep, last < step

/-- The codes of `pyotp` are ASCII. -/
def AsciiCodes (env : Env) : Prop :=
  ∀ secret step, ∀ c ∈ (env.totpAt secret step).toList, c.toNat < 128

section
variable {env : Env} {now : Time} {totp : MfaTotp} {code expected : String} {clean : List Char}

theorem compareDigest_ascii (hexpected : ∀ c ∈ expected.toList, c.toNat < 128)
    (hgiven : ∀ c ∈ clean, c.toNat < 128) :
    compareDigest expected clean = .ok (expected.toList = clean) := by
  unfold compareDigest
  rw [if_pos]
  rw [List.all_append, Bool.and_eq_true, List.all_eq_true, List.all_eq_true]
  exact ⟨fun c hc => decide_eq_true (hexpected c hc), fun c hc => decide_eq_true (hgiven c hc)⟩

theorem compareDigest_foreign (expected : String) (hgiven : ∃ c ∈ clean, 128 ≤ c.toNat) :
    ∃ e, compareDigest expected clean = .error e := by
  obtain ⟨c, hc, hlarge⟩ := hgiven
  unfold compareDigest
  rw [if_neg]
  · exact ⟨_, rfl⟩
  · rw [List.all_append, Bool.and_eq_true, List.all_eq_true, List.all_eq_true]
    rintro ⟨-, hascii⟩
    exact absurd (of_decide_eq_true (hascii c hc)) (by omega)

theorem isUsed_iff (step : ℤ) : totp.lastUsedStep.any (step ≤ ·) = true ↔
    ¬∀ last ∈ totp.lastUsedStep, last < step := by
  cases hlast : totp.lastUsedStep with
  | none => simp
  | some last => simp

theorem matchStep_ascii (hcodes : AsciiCodes env) (hclean : ∀ c ∈ clean, c.toNat < 128)
    (steps : List ℤ) : ∃ found, matchStep env totp clean steps = .ok found := by
  induction steps with
  | nil => exact ⟨none, rfl⟩
  | cons step steps ih =>
    unfold matchStep
    split
    · exact ih
    · rw [compareDigest_ascii (hcodes totp.secret step) hclean]
      by_cases hequal : (env.totpAt totp.secret step).toList = clean
      · exact ⟨some step, by simp [bind, Except.bind, hequal]; rfl⟩
      · obtain ⟨found, hfound⟩ := ih
        exact ⟨found, by simp [bind, Except.bind, hequal, hfound]⟩

theorem matchStep_foreign (hclean : ∃ c ∈ clean, 128 ≤ c.toNat) (steps : List ℤ) :
    (∃ found, matchStep env totp clean steps = .ok found) ↔
      ¬∃ step ∈ steps, ∀ last ∈ totp.lastUsedStep, last < step := by
  induction steps with
  | nil => simp [matchStep]
  | cons step steps ih =>
    unfold matchStep
    rw [List.exists_mem_cons_iff]
    split
    · next hused =>
      rw [ih, not_or]
      exact ⟨fun hrest => ⟨(isUsed_iff step).mp hused, hrest⟩, And.right⟩
    · next hopen =>
      obtain ⟨e, he⟩ := compareDigest_foreign (env.totpAt totp.secret step) hclean
      rw [he]
      constructor
      · rintro ⟨found, hfound⟩
        cases hfound
      · intro hnone
        exact absurd (not_not.mp fun hused => hopen ((isUsed_iff step).mpr hused))
          fun hfresh => hnone (Or.inl hfresh)

/-- A code is judged, and nothing raises, just when it has no foreign digits. -/
theorem verifyTotpCode_returns_iff (hcodes : AsciiCodes env) :
    (∃ found, verifyTotpCode env now totp code = .ok found) ↔ ¬ForeignDigits now totp code := by
  have through : (∃ found, verifyTotpCode env now totp code = .ok found) ↔
      ((∀ c ∈ cleanCode code, inRanges digitRanges c = true) ∧ (cleanCode code).length = 6 →
        ∃ found, matchStep env totp (cleanCode code) (candidateSteps now) = .ok found) := by
    unfold verifyTotpCode
    dsimp only
    by_cases hshape : (cleanCode code).all (inRanges digitRanges) && (cleanCode code).length = 6
    · rw [if_pos hshape]
      obtain ⟨hdigits, hsix⟩ := Bool.and_eq_true_iff.mp hshape
      have hboth : (∀ c ∈ cleanCode code, inRanges digitRanges c = true) ∧ (cleanCode code).length = 6 :=
        ⟨List.all_eq_true.mp hdigits, of_decide_eq_true hsix⟩
      constructor
      · rintro ⟨found, hfound⟩ -
        obtain ⟨step, hstep, -⟩ := Result.of_bind hfound
        exact ⟨step, hstep⟩
      · intro h
        obtain ⟨step, hstep⟩ := h hboth
        rw [hstep]
        cases step with
        | none => exact ⟨none, rfl⟩
        | some step => exact ⟨some (step, { totp with lastUsedStep := some step }), rfl⟩
    · rw [if_neg hshape]
      refine ⟨fun _ hboth => absurd ?_ hshape, fun _ => ⟨none, rfl⟩⟩
      exact Bool.and_eq_true_iff.mpr ⟨List.all_eq_true.mpr hboth.1, decide_eq_true hboth.2⟩
  rw [through]
  by_cases hforeign : ∃ c ∈ cleanCode code, 128 ≤ c.toNat
  · rw [matchStep_foreign hforeign]
    constructor
    · intro h hraises
      exact h ⟨hraises.digits, hraises.six⟩ hraises.fresh
    · intro h hboth hfresh
      exact h ⟨hboth.2, hboth.1, hforeign, hfresh⟩
  · have hascii : ∀ c ∈ cleanCode code, c.toNat < 128 := fun c hc =>
      Nat.lt_of_not_le fun hlarge => hforeign ⟨c, hc, hlarge⟩
    exact ⟨fun _ hraises => hforeign hraises.foreign, fun _ _ => matchStep_ascii hcodes hascii _⟩

end

/-! ### What a request keeps -/

/-- The challenge is open to an answer: it is live, answers are left, and the account is not
throttled. -/
def TakesAnswer (env : Env) (now : Time) (raw : Uuid) (a : Account) : Prop :=
  ∃ token, peek now .mfaChallenge raw a = some token ∧ token.attempts < mfaMaxAttempts ∧
    accountThrottled env a.credential now = false

def failures (a : Account) : ℕ := (a.credential.map (·.failedLoginAttempts)).getD 0

def attempts (raw : Uuid) (a : Account) : ℕ := ((a.tokens.lookup raw).map (·.attempts)).getD 0

/-- **The request is answered, and unless its code is accepted it is counted**, on the account and on
the challenge. -/
structure Counts (env : Env) (now : Time) (id raw : Uuid) (code : String) (a : Account) : Prop where
  answered : (verifyMfa env now id raw code a).1 ≠ .raised
  counted : (verifyMfa env now id raw code a).1.accepts = false →
    failures (verifyMfa env now id raw code a).2 = failures a + 1 ∧
      attempts raw (verifyMfa env now id raw code a).2 = attempts raw a + 1

def Raises (now : Time) (code : String) (a : Account) : Prop :=
  ∃ totp, a.totp = some totp ∧ totp.confirmedAt.isSome = true ∧ ForeignDigits now totp code

section
variable {env : Env} {now : Time} {id raw : Uuid} {code : String} {a : Account}

def claimed (raw : Uuid) (a : Account) : Account :=
  { a with tokens := a.tokens.modify raw fun token => { token with attempts := token.attempts + 1 } }

def ended (now : Time) (raw : Uuid) (a : Account) : Account :=
  { a with tokens := a.tokens.modify raw fun token => { token with consumedAt := some now } }

theorem judge_open (h : TakesAnswer env now raw a) :
    (Work.answer raw (.code code)).judge env now a = .allowed (claimed raw a) := by
  obtain ⟨token, hpeek, hleft, hopen⟩ := h
  obtain ⟨hlookup, hlive⟩ := Option.filter_eq_some_iff.mp hpeek
  obtain ⟨hkind, hlive⟩ := Bool.and_eq_true_iff.mp hlive
  have hclaim : claimAttempt raw mfaMaxAttempts a = some (claimed raw a) := by
    unfold claimAttempt
    rw [hlookup, Option.filter_some, if_pos]
    · rfl
    · rw [hkind, (Bool.and_eq_true_iff.mp hlive).1, decide_eq_true hleft]
      rfl
  simp only [Work.judge, hopen, Bool.false_eq_true, if_false, hclaim]

theorem attempts_claimed (h : TakesAnswer env now raw a) :
    attempts raw (claimed raw a) = attempts raw a + 1 := by
  obtain ⟨token, hpeek, -⟩ := h
  obtain ⟨hlookup, -⟩ := Option.filter_eq_some_iff.mp hpeek
  unfold attempts claimed
  rw [Table.lookup_modify_self, hlookup]
  rfl

theorem check_returns_iff (hcodes : AsciiCodes env) :
    (∃ found, (Work.answer raw (.code code)).check env now a = .ok found) ↔ ¬Raises now code a := by
  have hverify : (∃ found, (Work.answer raw (.code code)).check env now a = .ok found) ↔
      ∃ found, verifyTotp env now code a = .ok found := by
    constructor
    · rintro ⟨found, hfound⟩
      obtain ⟨answer, hanswer, -⟩ := Result.of_bind hfound
      obtain ⟨totp, htotp, -⟩ := Result.of_bind hanswer
      exact ⟨totp, htotp⟩
    · rintro ⟨found, hfound⟩
      unfold Work.check checkAnswer
      dsimp only
      rw [hfound]
      -- a code of no use goes on to the recovery codes
      cases found with
      | some found => exact ⟨_, rfl⟩
      | none =>
        cases hcode : useRecoveryCode env now code a with
        | none => exact ⟨_, rfl⟩
        | some found => exact ⟨_, rfl⟩
  rw [hverify]
  unfold verifyTotp
  cases hrow : a.totp.filter (·.confirmedAt.isSome) with
  | none =>
    refine ⟨fun _ hraises => ?_, fun _ => ⟨none, rfl⟩⟩
    obtain ⟨totp, htotp, hconfirmed, -⟩ := hraises
    rw [htotp, Option.filter_some, if_pos hconfirmed] at hrow
    cases hrow
  | some totp =>
    obtain ⟨htotp, hconfirmed⟩ := Option.filter_eq_some_iff.mp hrow
    have hraises : Raises now code a ↔ ForeignDigits now totp code := by
      constructor
      · rintro ⟨other, hother, -, hforeign⟩
        obtain rfl : totp = other := Option.mem_unique htotp hother
        exact hforeign
      · exact fun hforeign => ⟨totp, htotp, hconfirmed, hforeign⟩
    rw [hraises, ← verifyTotpCode_returns_iff hcodes]
    constructor
    · rintro ⟨found, hfound⟩
      obtain ⟨step, hstep, -⟩ := Result.of_bind hfound
      exact ⟨step, hstep⟩
    · rintro ⟨found, hfound⟩
      dsimp only
      rw [hfound]
      cases found with
      | none => exact ⟨none, rfl⟩
      | some found => exact ⟨_, rfl⟩

theorem raises_claimed : Raises now code (claimed raw a) ↔ Raises now code a := Iff.rfl

theorem verifyMfa_raises (hcodes : AsciiCodes env) (hopen : TakesAnswer env now raw a)
    (h : Raises now code a) : verifyMfa env now id raw code a = (.raised, a) := by
  unfold verifyMfa
  dsimp only
  rw [judge_open hopen]
  dsimp only
  cases hcheck : (Work.answer raw (.code code)).check env now (claimed raw a) with
  | error e => rfl
  | ok found =>
    exact absurd (raises_claimed.mpr h) ((check_returns_iff hcodes).mp ⟨found, hcheck⟩)

theorem verifyMfa_counts (hcodes : AsciiCodes env) (hopen : TakesAnswer env now raw a)
    (hcredential : a.credential ≠ none) (h : ¬Raises now code a) : Counts env now id raw code a := by
  obtain ⟨found, hcheck⟩ := (check_returns_iff hcodes).mpr (mt raises_claimed.mp h)
  obtain ⟨verdict, b⟩ := found
  obtain ⟨credential, hsome⟩ := Option.ne_none_iff_exists'.mp hcredential
  have hreply : verifyMfa env now id raw code a =
      match (Work.answer raw (.code code)).finish env now id b verdict with
      | .error _ => (.notMinted, a)
      | .ok (d, _) => ((verdict.map Reply.completed).getD .invalid, d) := by
    unfold verifyMfa
    dsimp only
    rw [judge_open hopen]
    dsimp only
    rw [hcheck]
  cases verdict with
  | some factor =>
    cases hfinish : (Work.answer raw (.code code)).finish env now id b (some factor) with
    | error e =>
      rw [hfinish] at hreply
      exact ⟨by rw [hreply]; exact Reply.noConfusion,
        fun hrefused => by rw [hreply] at hrefused; cases hrefused⟩
    | ok out =>
      rw [hfinish] at hreply
      exact ⟨by rw [hreply]; exact Reply.noConfusion,
        fun hrefused => by rw [hreply] at hrefused; cases hrefused⟩
  | none =>
    -- a wrong code leaves the account as the claim of the attempt left it
    have hsame : b = claimed raw a := by
      rcases check_cases hcheck with ⟨-, hb⟩ | ⟨hsome, -⟩ | ⟨_, _, _, -, hsome, -⟩
      · exact hb
      · cases hsome
      · cases hsome
    have hdone : verifyMfa env now id raw code a = (.invalid, secondStepFailed env now b) := hreply
    refine ⟨by rw [hdone]; exact Reply.noConfusion, fun _ => ?_⟩
    rw [hdone, hsame]
    refine ⟨?_, attempts_claimed hopen⟩
    unfold failures secondStepFailed claimed
    dsimp only
    rw [hsome]
    rfl

theorem verifyMfa_closed {token : AuthToken} (hlive : peek now .mfaChallenge raw a = some token)
    (hclosed : ¬TakesAnswer env now raw a) :
    verifyMfa env now id raw code a = (.expired, ended now raw a) ∧
      peek now .mfaChallenge raw (ended now raw a) = none := by
  have hconsume : consume now .mfaChallenge raw a = some (ended now raw a) := by
    unfold consume
    rw [hlive]
    rfl
  constructor
  · unfold verifyMfa
    dsimp only
    have hjudge : (Work.answer raw (.code code)).judge env now a = .ended (ended now raw a) := by
      have hnone : (if accountThrottled env a.credential now then none
          else claimAttempt raw mfaMaxAttempts a) = none := by
        by_cases hthrottled : accountThrottled env a.credential now = true
        · rw [if_pos hthrottled]
        · rw [if_neg hthrottled]
          unfold claimAttempt
          rw [(Option.filter_eq_some_iff.mp hlive).1, Option.filter_some, if_neg]
          · rfl
          · intro hleft
            refine hclosed ⟨token, hlive, ?_, by simpa using hthrottled⟩
            exact of_decide_eq_true (Bool.and_eq_true_iff.mp hleft).2
      unfold Work.judge
      dsimp only
      rw [hnone, hconsume]
    rw [hjudge]
  · unfold peek ended
    dsimp only
    rw [Table.lookup_modify_self, (Option.filter_eq_some_iff.mp hlive).1, Option.map_some,
      Option.filter_some, if_neg]
    intro hagain
    have := (Bool.and_eq_true_iff.mp (Bool.and_eq_true_iff.mp hagain).2).1
    cases this

end

/-! ### Every run -/

/-- An account with a challenge has a credential; an attempt leaves it there until it is finished. -/
def keyed : Assertions where
  free := fun v => Keyed v.account
  judged := fun v _ draft => Keyed v.account ∧ draft.credential = v.account.credential ∧
    v.account.credential ≠ none
  decided := fun v _ draft _ _ => Keyed v.account ∧ draft.credential = v.account.credential ∧
    v.account.credential ≠ none

variable {env : Env} {now : Time} {work : Work} {a b : Account}

theorem keyed_ended (h : Keyed a) (hjudge : work.judge env now a = .ended b) : Keyed b := by
  obtain ⟨raw, given, -, hconsume⟩ := judge_ended hjudge
  intro raw' token htoken hkind
  obtain ⟨token', htoken', hsame⟩ := Throttle.kind_consume hconsume htoken
  exact (Throttle.credential_consume hconsume).trans_ne
    (h raw' token' htoken' (hsame.symm.trans hkind))

theorem keyed_finished {id : Uuid} {verdict : Option Factor} {events : List Event}
    (hpresent : a.credential ≠ none) (hattempt : work.isAttempt = true)
    (h : work.finish env now id a verdict = .ok (b, events)) : Keyed b := by
  refine .of_credential fun hnone => ?_
  cases verdict with
  | none =>
    obtain ⟨-, hcredential⟩ := Throttle.finish_wrong hattempt h
    exact hpresent (Option.map_eq_none_iff.mp (hcredential.symm.trans hnone))
  | some factor =>
    rcases Throttle.finish_right h with ⟨-, hcredential⟩ | ⟨-, -, -, hcredential⟩
    · exact hpresent (hcredential.symm.trans hnone)
    · exact hpresent (Option.map_eq_none_iff.mp (hcredential.symm.trans hnone))

theorem keyed_valid (env : Env) : Valid env (fun _ _ _ => True) keyed where
  later_free := fun _ _ h => h
  later_judged := fun _ _ h => h
  later_decided := fun _ _ h => h
  ran := by
    intro v work userId id taken b events h _ _ hrun
    rcases Throttle.run_effect hrun with ⟨-, -, hkeyed⟩ | ⟨hcredential, -⟩
    · exact hkeyed h
    · exact .of_credential hcredential
  ended := fun h hjudge => keyed_ended h hjudge
  allowed := fun h _ hjudge => ⟨h, Throttle.credential_judge hjudge, h.allowed hjudge⟩
  checked := fun h _ hcheck => ⟨h.1, (Throttle.credential_check hcheck).trans h.2.1, h.2.2⟩
  finished := fun h _ hattempt _ hfinish => keyed_finished (h.2.1.trans_ne h.2.2) hattempt hfinish
  unfinished := fun h _ _ => h.1
  failed_judged := fun h => h.1
  failed := fun h _ => h.1

section
variable {ι : Type} [DecidableEq ι]

/-- An account with a challenge has a credential, in every run. -/
theorem keyed_run (env : Env) (start : Time) (accounts : Table Uuid Account)
    (hstart : ∀ userId a, accounts.lookup userId = some a → Keyed a) (actions : List (ι × Choice))
    {userId : Uuid}
    (ha : (actions.foldl (move (step env)) (opening start accounts)).shared.accounts.lookup userId =
      some a) : Keyed a := by
  have hok : Run.Along (move (step env)) (fun _ _ => True) (opening start accounts) actions :=
    Run.Along.of_forall (fun _ _ => trivial) _ _
  rcases guarded_run (keyed_valid env) start accounts actions (fun userId a h => hstart userId a h) hok
    userId a ha with h | ⟨_, _, h⟩ | ⟨_, _, _, _, h⟩
  · exact h
  · exact h.1
  · exact h.1

/-- **Which wrong answers are counted.**  In every run, of every user and every code:
`_verify_totp_code` returns just where the code is no six digits of which one is not ASCII, or no step
is open; an answer to an open challenge is answered, and counted unless it is accepted, just where the
user's authenticator does not raise on it; and an answer that comes too late is not read. -/
theorem answers_counted_iff (env : Env) (hcodes : AsciiCodes env) (start : Time)
    (accounts : Table Uuid Account)
    (hstart : ∀ userId a, accounts.lookup userId = some a → Keyed a) (actions : List (ι × Choice))
    (userId : Uuid) (a : Account)
    (ha : (actions.foldl (move (step env)) (opening start accounts)).shared.accounts.lookup userId =
      some a) (now : Time) (id raw : Uuid) (code : String) :
    (∀ totp, (∃ found, verifyTotpCode env now totp code = .ok found) ↔
      ¬ForeignDigits now totp code) ∧
    (TakesAnswer env now raw a → (Counts env now id raw code a ↔ ¬Raises now code a)) ∧
    (∀ token, peek now .mfaChallenge raw a = some token → ¬TakesAnswer env now raw a →
      verifyMfa env now id raw code a = (.expired, ended now raw a) ∧
        peek now .mfaChallenge raw (ended now raw a) = none) := by
  refine ⟨fun totp => verifyTotpCode_returns_iff hcodes, fun hopen => ⟨fun hcounts hraises => ?_,
    fun hreturns => ?_⟩, fun token hlive hclosed => verifyMfa_closed hlive hclosed⟩
  · exact hcounts.answered (by rw [verifyMfa_raises hcodes hopen hraises])
  · have hcredential : a.credential ≠ none := by
      obtain ⟨token, hpeek, -⟩ := hopen
      obtain ⟨hlookup, hlive⟩ := Option.filter_eq_some_iff.mp hpeek
      exact keyed_run env start accounts hstart actions ha raw token hlookup
        (of_decide_eq_true (Bool.and_eq_true_iff.mp hlive).1)
    exact verifyMfa_counts hcodes hopen hcredential hreturns

end

/-! ### Six digits of another script -/

def atStep : Account :=
  { withAuthenticator with
    tokens := (∅ : Table Uuid AuthToken).insert 9 { kind := .mfaChallenge, expiresAt := minutes 5 } }

def oneAtStep : Table Uuid Account := (∅ : Table Uuid Account).insert 1 atStep

/-- The answer's request has the row. -/
def rowTaken : Config ℕ (Shared ℕ) Session :=
  [(0, .request (.answer 9 (.code "282760"))), (0, .go 100), (0, .go 101)].foldl
    (move (step oneAuthenticator)) (opening 0 oneAtStep)

theorem attempts_atomic_rowTaken :
    (1 ≠ 0 → (move (step oneAuthenticator) rowTaken (1, .go 102)).shared.accounts.lookup 1 =
        some atStep) ∧ Ends oneAuthenticator rowTaken.shared 1 (.answer 9 (.code "282760")) atStep
        (move (step oneAuthenticator) rowTaken (0, .go 102)).shared
        ((move (step oneAuthenticator) rowTaken (0, .go 102)).locals 0) :=
  attempts_atomic oneAuthenticator 0 oneAtStep _ rowTaken rfl 0 1 _ atStep (by decide +kernel) rfl
    (by rfl) 1 (.go 102)

theorem atStep_open : TakesAnswer oneAuthenticator 0 9 atStep :=
  ⟨{ kind := .mfaChallenge, expiresAt := minutes 5 }, by decide +kernel, by decide, by decide +kernel⟩

theorem oneAtStep_keyed (userId : Uuid) (a : Account) (ha : oneAtStep.lookup userId = some a) :
    Keyed a := by
  rcases Table.lookup_insert_cases ha with ⟨-, rfl⟩ | ⟨-, hold⟩
  · exact .of_credential (Option.some_ne_none _)
  · cases hold

theorem oneAuthenticator_ascii : AsciiCodes oneAuthenticator := by
  intro secret step
  have hcodes : (["282760", "996554", "602287", "143627", "960129", "768897", "883951", ""].all
      fun code => code.toList.all fun c => decide (c.toNat < 128)) = true := by decide +kernel
  have hascii : ∀ code ∈ ["282760", "996554", "602287", "143627", "960129", "768897", "883951", ""],
      ∀ c ∈ code.toList, c.toNat < 128 := fun code hcode c hc =>
    of_decide_eq_true (List.all_eq_true.mp (List.all_eq_true.mp hcodes code hcode) c hc)
  refine hascii _ ?_
  unfold oneAuthenticator
  dsimp only
  split
  · rw [List.getD_eq_getElem?_getD]
    cases hcode : (["282760", "996554", "602287", "143627", "960129", "768897", "883951"] :
        List String)[step.toNat]? with
    | none => decide
    | some code => exact List.mem_append_left [""] (List.mem_of_getElem? hcode)
  · decide

theorem wrongCode_counted : Counts oneAuthenticator 0 100 9 "000000" atStep :=
  ((answers_counted_iff oneAuthenticator oneAuthenticator_ascii 0 oneAtStep oneAtStep_keyed
    ([] : List (ℕ × Choice)) 1 atStep (AList.lookup_insert _) 0 100 9 "000000").2.1 atStep_open).mpr
      fun hraises => by
        obtain ⟨totp, -, -, hforeign⟩ := hraises
        obtain ⟨c, hc, hlarge⟩ := hforeign.foreign
        have hascii : ((cleanCode "000000").all fun c => decide (c.toNat < 128)) = true := by
          decide +kernel
        exact absurd hlarge (of_decide_eq_true (List.all_eq_true.mp hascii c hc)).not_ge

/-- The digits one to six, in full width: the request fails, and nothing is counted. -/
theorem fullWidth_uncounted :
    ¬ ∀ (env : Env), AsciiCodes env → ∀ (start : Time) (accounts : Table Uuid Account),
      (∀ userId a, accounts.lookup userId = some a → Keyed a) →
      ∀ (actions : List (ℕ × Choice)) (userId : Uuid) (a : Account),
        (actions.foldl (move (step env)) (opening start accounts)).shared.accounts.lookup userId =
          some a →
        ∀ (now : Time) (id raw : Uuid) (code : String), 1 ≤ code.length → code.length ≤ 32 →
          TakesAnswer env now raw a → Counts env now id raw code a := by
  intro h
  have hcounts := h oneAuthenticator oneAuthenticator_ascii 0 oneAtStep oneAtStep_keyed [] 1 atStep
    (AList.lookup_insert _) 0 100 9 "１２３４５６" (by decide) (by decide) atStep_open
  exact hcounts.answered (by decide +kernel)

end Nexotec.CountedAnswers
