/-
Credentials, one-time tokens, second factors and sessions
(`app/platform/services/identity.py`, `auth_tokens.py`, `auth_sessions.py`, `mfa.py`).

An account is a user row with its credential, tokens, sessions and factors.
Everything that writes them holds the user row, so each service is a function
of the account as it stands under that lock.  A password hash is modelled by
the password it verifies and a token by its raw value; what the settings, the
time zone and the libraries (`pyotp`, `webauthn`, `argon2`) decide is in `Env`.

* `accountThrottled`, `passwordFailed`, `secondStepFailed` — the account axis of
  the throttle (FR-AU-08/09);
* `issue`, `consume`, `claimAttempt`, `consumeAllForUser` — the tokens;
* `verifyTotpCode`, `useRecoveryCode` — the second factors;
* `mintSession`, `setPassword`, `emailChanged` — what ends and starts sign-ins.
-/
import Nexotec.Platform.Users

namespace Nexotec.Auth

open Platform

/-! ### Rows -/

/-- What the code takes from its settings and libraries. -/
structure Env where
  authLockoutFailures : ℕ := 5
  authLockoutMinutes : ℕ := 15
  sessionIdleMinutes : ℕ := 120
  /-- The calendar day in the platform zone. -/
  today : Time → Platform.Date
  /-- The next midnight in the platform zone. -/
  absoluteExpiry : Time → Time
  /-- `pyotp.TOTP(secret).at(step * 30)`. -/
  totpAt : (secret : String) → (step : ℤ) → String
  /-- `_hash_code`. -/
  hashCode : String → String
  /-- `validate_new_password`. -/
  validateNewPassword : User → String → Result Unit

def second : Time := 1000000

def minutes (n : ℕ) : Time := n * 60 * second

/-- `Credential`. -/
structure Credential where
  password : String
  passwordHistory : List String := []
  failedLoginAttempts : ℕ := 0
  lastFailedAt : Option Time := none
  lockedUntil : Option Time := none

inductive AuthTokenKind where
  | invitation
  | passwordReset
  | mfaChallenge
  | passkeyRegistration
  deriving DecidableEq

/-- `AuthToken`.  `acceptedIn` is history: how often the account's credential
had been replaced when the password behind a challenge was accepted. -/
structure AuthToken where
  kind : AuthTokenKind
  expiresAt : Time
  consumedAt : Option Time := none
  attempts : ℕ := 0
  acceptedIn : ℕ := 0
  deriving DecidableEq

def AuthToken.isLive (token : AuthToken) (now : Time) : Bool :=
  token.consumedAt.isNone && now < token.expiresAt

/-- `AuthSession`.  `acceptedIn` and `mintedIn` are history: how often the
credential had been replaced when the password was accepted, and when the
session was minted. -/
structure AuthSession where
  amr : List String
  idleExpiresAt : Time
  absoluteExpiresAt : Time
  revokedAt : Option Time := none
  revokedReason : Option String := none
  acceptedIn : ℕ := 0
  mintedIn : ℕ := 0

def AuthSession.isLive (session : AuthSession) (now : Time) : Bool :=
  session.revokedAt.isNone && now < session.idleExpiresAt && now < session.absoluteExpiresAt

/-- `MfaTotp`. -/
structure MfaTotp where
  secret : String
  confirmedAt : Option Time := none
  lastUsedStep : Option ℤ := none

/-- `MfaRecoveryCode`. -/
structure MfaRecoveryCode where
  codeHash : String
  usedAt : Option Time := none

/-- A user with what hangs off the user row.  `replaced` is history: how often
the password or the e-mail address has been replaced. -/
structure Account where
  user : User
  credential : Option Credential := none
  tokens : Table Uuid AuthToken := ∅
  sessions : Table Uuid AuthSession := ∅
  totp : Option MfaTotp := none
  recoveryCodes : Table Uuid MfaRecoveryCode := ∅
  passkeys : List String := []
  replaced : ℕ := 0

/-- `_INACTIVE`. -/
def isInactive (status : UserStatus) : Bool := status = .suspended || status = .deactivated

def accessWindowOpen (env : Env) (user : User) (now : Time) : Bool :=
  !(user.validFrom.any fun validFrom => (env.today now).before validFrom) &&
    !(user.validTo.any fun validTo => validTo.before (env.today now))

/-! ### The throttle -/

def backoff (env : Env) (failures : ℕ) : Time :=
  if failures < 3 then 0
  else min (2 ^ (failures - 2)) (env.authLockoutMinutes * 60) * second

def accountThrottled (env : Env) (credential : Option Credential) (now : Time) : Bool :=
  credential.any fun c =>
    c.lockedUntil.any (now < ·) ||
      c.lastFailedAt.any fun lastFailedAt => now < lastFailedAt + backoff env c.failedLoginAttempts

/-- One more failure, dated `failedAt`; the lock is counted from `lockedAt`. -/
def Credential.failed (env : Env) (failedAt lockedAt : Time) (c : Credential) : Credential :=
  { c with
    failedLoginAttempts := c.failedLoginAttempts + 1
    lastFailedAt := some failedAt
    lockedUntil := if env.authLockoutFailures ≤ c.failedLoginAttempts + 1 then
      some (lockedAt + minutes env.authLockoutMinutes) else c.lockedUntil }

def Credential.cleared (c : Credential) : Credential :=
  { c with failedLoginAttempts := 0, lastFailedAt := none, lockedUntil := none }

/-- A wrong password in `LocalPasswordProvider.resolve`; `started` is the clock
as the request read it first. -/
def passwordFailed (env : Env) (started : Time) (a : Account) : Account :=
  { a with credential := a.credential.map (·.failed env started started) }

def secondStepFailed (env : Env) (now : Time) (a : Account) : Account :=
  { a with credential := a.credential.map (·.failed env now now) }

/-- `login_completed`, less `last_login_at`. -/
def loginCompleted (a : Account) : Account :=
  { a with credential := a.credential.map (·.cleared) }

/-! ### Tokens -/

def AuthTokenKind.ttl : AuthTokenKind → Time
  | .invitation => minutes (14 * 24 * 60)
  | .passwordReset => minutes 60
  | .mfaChallenge | .passkeyRegistration => minutes 5

def consumeAllForUser (now : Time) (kinds : List AuthTokenKind) (a : Account) : Account :=
  { a with tokens := a.tokens.updateAll fun _ token =>
      if token.kind ∈ kinds ∧ token.consumedAt = none then { token with consumedAt := some now }
      else token }

/-- `issue`: the previous token of the kind ends. -/
def issue (now : Time) (kind : AuthTokenKind) (raw : Uuid) (a : Account) : Account :=
  let ended := consumeAllForUser now [kind] a
  { ended with tokens := ended.tokens.insert raw {
      kind := kind
      expiresAt := now + kind.ttl
      acceptedIn := a.replaced } }

def peek (now : Time) (kind : AuthTokenKind) (raw : Uuid) (a : Account) : Option AuthToken :=
  (a.tokens.lookup raw).filter fun token => token.kind = kind && token.isLive now

/-- `consume`; `none` when the token is not live. -/
def consume (now : Time) (kind : AuthTokenKind) (raw : Uuid) (a : Account) : Option Account :=
  (peek now kind raw a).map fun _ =>
    { a with tokens := a.tokens.modify raw fun token => { token with consumedAt := some now } }

def mfaMaxAttempts : ℕ := 5

/-- `claim_attempt` on a challenge; `none` when it has ended or its answers are
spent. -/
def claimAttempt (raw : Uuid) (limit : ℕ) (a : Account) : Option Account :=
  ((a.tokens.lookup raw).filter fun token => token.kind = .mfaChallenge &&
      token.consumedAt.isNone && token.attempts < limit).map fun _ =>
    { a with tokens := a.tokens.modify raw fun token => { token with attempts := token.attempts + 1 } }

/-! ### Second factors -/

def hasFactor (a : Account) : Bool :=
  a.totp.any (·.confirmedAt.isSome) || !a.passkeys.isEmpty

/-- The characters whose Unicode numeric type is decimal or digit. -/
def digitRanges : List (ℕ × ℕ) :=
  [(0x30, 0x39), (0xb2, 0xb3), (0xb9, 0xb9), (0x660, 0x669), (0x6f0, 0x6f9), (0x7c0, 0x7c9),
    (0x966, 0x96f), (0x9e6, 0x9ef), (0xa66, 0xa6f), (0xae6, 0xaef), (0xb66, 0xb6f), (0xbe6, 0xbef),
    (0xc66, 0xc6f), (0xce6, 0xcef), (0xd66, 0xd6f), (0xde6, 0xdef), (0xe50, 0xe59), (0xed0, 0xed9),
    (0xf20, 0xf29), (0x1040, 0x1049), (0x1090, 0x1099), (0x1369, 0x1371), (0x17e0, 0x17e9),
    (0x1810, 0x1819), (0x1946, 0x194f), (0x19d0, 0x19da), (0x1a80, 0x1a89), (0x1a90, 0x1a99),
    (0x1b50, 0x1b59), (0x1bb0, 0x1bb9), (0x1c40, 0x1c49), (0x1c50, 0x1c59), (0x2070, 0x2070),
    (0x2074, 0x2079), (0x2080, 0x2089), (0x2460, 0x2468), (0x2474, 0x247c), (0x2488, 0x2490),
    (0x24ea, 0x24ea), (0x24f5, 0x24fd), (0x24ff, 0x24ff), (0x2776, 0x277e), (0x2780, 0x2788),
    (0x278a, 0x2792), (0xa620, 0xa629), (0xa8d0, 0xa8d9), (0xa900, 0xa909), (0xa9d0, 0xa9d9),
    (0xa9f0, 0xa9f9), (0xaa50, 0xaa59), (0xabf0, 0xabf9), (0xff10, 0xff19), (0x104a0, 0x104a9),
    (0x10a40, 0x10a43), (0x10d30, 0x10d39), (0x10e60, 0x10e68), (0x11052, 0x1105a),
    (0x11066, 0x1106f), (0x110f0, 0x110f9), (0x11136, 0x1113f), (0x111d0, 0x111d9),
    (0x112f0, 0x112f9), (0x11450, 0x11459), (0x114d0, 0x114d9), (0x11650, 0x11659),
    (0x116c0, 0x116c9), (0x11730, 0x11739), (0x118e0, 0x118e9), (0x11950, 0x11959),
    (0x11c50, 0x11c59), (0x11d50, 0x11d59), (0x11da0, 0x11da9), (0x11f50, 0x11f59),
    (0x16a60, 0x16a69), (0x16ac0, 0x16ac9), (0x16b50, 0x16b59), (0x1d7ce, 0x1d7ff),
    (0x1e140, 0x1e149), (0x1e2f0, 0x1e2f9), (0x1e4f0, 0x1e4f9), (0x1e950, 0x1e959),
    (0x1f100, 0x1f10a), (0x1fbf0, 0x1fbf9)]

/-- The characters `str.strip` removes. -/
def spaceRanges : List (ℕ × ℕ) :=
  [(0x9, 0xd), (0x1c, 0x20), (0x85, 0x85), (0xa0, 0xa0), (0x1680, 0x1680), (0x2000, 0x200a),
    (0x2028, 0x2029), (0x202f, 0x202f), (0x205f, 0x205f), (0x3000, 0x3000)]

def inRanges (ranges : List (ℕ × ℕ)) (c : Char) : Bool :=
  ranges.any fun r => r.1 ≤ c.toNat && c.toNat ≤ r.2

/-- `code.strip().replace(" ", "")`. -/
def cleanCode (code : String) : List Char :=
  let stripped := (code.toList.dropWhile (inRanges spaceRanges)).reverse.dropWhile
    (inRanges spaceRanges)
  stripped.reverse.filter (· ≠ ' ')

/-- `hmac.compare_digest` on two strings: it raises unless both are ASCII. -/
def compareDigest (expected : String) (given : List Char) : Result Bool :=
  if (expected.toList ++ given).all (·.toNat < 128) then .ok (expected.toList = given)
  else .error (internalError "comparing strings with non-ASCII characters is not supported")

def candidateSteps (now : Time) : List ℤ :=
  [0, -1, 1].map fun offset => now.tdiv second / 30 + offset

/-- The loop of `_verify_totp_code`: the step the code is good for. -/
def matchStep (env : Env) (totp : MfaTotp) (clean : List Char) : List ℤ → Result (Option ℤ)
  | [] => .ok none
  | step :: steps =>
    -- RFC 6238: a code is good once
    if totp.lastUsedStep.any (step ≤ ·) then matchStep env totp clean steps
    else do
      if ← compareDigest (env.totpAt totp.secret step) clean then pure (some step)
      else matchStep env totp clean steps

/-- `_verify_totp_code`, with the row after the claim of the step.  The guarded
`UPDATE` that claims it meets the row as it was read: the user row is held. -/
def verifyTotpCode (env : Env) (now : Time) (totp : MfaTotp) (code : String) :
    Result (Option (ℤ × MfaTotp)) :=
  let clean := cleanCode code
  if clean.all (inRanges digitRanges) && clean.length = 6 then do
    match ← matchStep env totp clean (candidateSteps now) with
    | some step => pure (some (step, { totp with lastUsedStep := some step }))
    | none => pure none
  else .ok none

/-- What a check accepted. -/
inductive Factor where
  | password
  | totp (step : ℤ)
  | recoveryCode (id : Uuid)
  | passkey (credentialId : String)
  deriving DecidableEq

def verifyTotp (env : Env) (now : Time) (code : String) (a : Account) :
    Result (Option (Factor × Account)) :=
  match a.totp.filter (·.confirmedAt.isSome) with
  | none => .ok none
  | some totp => do
    match ← verifyTotpCode env now totp code with
    | some (step, totp) => pure (some (.totp step, { a with totp := some totp }))
    | none => pure none

def useRecoveryCode (env : Env) (now : Time) (code : String) (a : Account) :
    Option (Factor × Account) :=
  (a.recoveryCodes.search fun _ row => row.codeHash = env.hashCode code && row.usedAt.isNone).map
    fun found => (.recoveryCode found.1,
      { a with recoveryCodes := a.recoveryCodes.modify found.1 fun row =>
          { row with usedAt := some now } })

/-- An answer to a challenge.  For a passkey, `valid` is what the library says of
the assertion. -/
inductive Answer where
  | code (code : String)
  | passkey (credentialId : String) (valid : Bool)
  deriving DecidableEq

/-- The check of `verify_mfa` and of `passkey_login_verify`. -/
def checkAnswer (env : Env) (now : Time) (answer : Answer) (a : Account) :
    Result (Option (Factor × Account)) :=
  match answer with
  | .code code => do
    match ← verifyTotp env now code a with
    | some found => pure (some found)
    | none => pure (useRecoveryCode env now code a)
  | .passkey credentialId valid =>
    pure (if credentialId ∈ a.passkeys ∧ valid = true then some (.passkey credentialId, a) else none)

def Factor.amr : Factor → List String
  | .password => ["pwd"]
  | .totp _ => ["pwd", "otp", "mfa"]
  | .recoveryCode _ => ["pwd", "mfa"]
  | .passkey _ => ["pwd", "hwk", "mfa"]

/-! ### Sessions and passwords -/

def revokeAllForUser (now : Time) (reason : String) (a : Account) : Account :=
  { a with sessions := a.sessions.updateAll fun _ session =>
      if session.revokedAt = none then
        { session with revokedAt := some now, revokedReason := some reason }
      else session }

/-- `_mint_session` for the home dealership, with the row under the id drawn for
it. -/
def mintSession (env : Env) (now : Time) (sid : Uuid) (factor : Factor) (acceptedIn : ℕ)
    (a : Account) : Result Account :=
  if isInactive a.user.status ∨ accessWindowOpen env a.user now = false then
    .error (unauthorizedError "This user account is not active.")
  else .ok { a with sessions := a.sessions.insert sid {
      amr := factor.amr
      idleExpiresAt := now + minutes env.sessionIdleMinutes
      absoluteExpiresAt := env.absoluteExpiry now
      acceptedIn := acceptedIn
      mintedIn := a.replaced } }

def passwordHistoryDepth : ℕ := 5

/-- The current password and the ones before it, the newest first. -/
def previousPasswords (credential : Option Credential) : List String :=
  match credential with
  | some c => c.password :: c.passwordHistory
  | none => []

def setPassword (env : Env) (password : String) (a : Account) : Result Account := do
  env.validateNewPassword a.user password
  let previous := previousPasswords a.credential
  if password ∈ previous.take passwordHistoryDepth then
    throw (badRequestError "This password was used recently — choose a new one." [("rule", "reused")])
  pure { a with
    credential := some {
      password := password
      passwordHistory := previous.take (passwordHistoryDepth - 1) }
    replaced := a.replaced + 1 }

def activate (userId : Uuid) (a : Account) : Account :=
  if a.user.status = .invited then
    { a with user := { a.user with
        status := .active, updatedBy := some userId, version := a.user.version + 1 } }
  else a

/-- `confirm_password_reset`, with the user row locked. -/
def confirmPasswordReset (env : Env) (now : Time) (userId raw : Uuid) (password : String)
    (a : Account) : Result Account := do
  match consume now .passwordReset raw a with
  | some consumed =>
    if isInactive consumed.user.status then
      throw (badRequestError "This link is no longer valid — request a new one." [("rule", "link")])
    let a ← setPassword env password consumed
    let a := consumeAllForUser now [.invitation] (activate userId a)
    pure (revokeAllForUser now "password_reset" a)
  | none =>
    throw (badRequestError "This link is no longer valid — request a new one." [("rule", "link")])

/-- `accept_invitation`, with the user row locked. -/
def acceptInvitation (env : Env) (now : Time) (userId raw : Uuid) (password : String)
    (a : Account) : Result Account := do
  match consume now .invitation raw a with
  | some consumed =>
    if isInactive consumed.user.status then
      throw (badRequestError "This invitation is no longer valid — ask your business for a new one."
        [("rule", "link")])
    let a ← setPassword env password consumed
    let a := revokeAllForUser now "invitation" (activate userId a)
    pure (consumeAllForUser now [.passwordReset] a)
  | none =>
    throw (badRequestError "This invitation is no longer valid — ask your business for a new one."
      [("rule", "link")])

/-- A new address with `email_changed`, as the user's `PATCH` and the recovery
door write it. -/
def changeEmail (now : Time) (actorId : Uuid) (email : String) (a : Account) : Account :=
  let moved := { a with
    user := { a.user with email := email, updatedBy := some actorId, version := a.user.version + 1 }
    replaced := a.replaced + 1 }
  revokeAllForUser now "email_changed" (consumeAllForUser now [.invitation, .passwordReset] moved)

/-- `_finish_login`: the session and the cleared counter. -/
def finishLogin (env : Env) (now : Time) (sid : Uuid) (factor : Factor) (acceptedIn : ℕ)
    (a : Account) : Result Account := do
  let minted ← mintSession env now sid factor acceptedIn a
  pure (loginCompleted minted)

/-! ### What a check accepts -/

/-- An accepted answer with the account after it. -/
inductive Accepts (now : Time) (a : Account) : Factor → Account → Prop
  | totp (row : MfaTotp) (step : ℤ) (hrow : a.totp = some row)
      (hlater : ∀ last ∈ row.lastUsedStep, last < step) :
      Accepts now a (.totp step) { a with totp := some { row with lastUsedStep := some step } }
  | recoveryCode (id : Uuid) (row : MfaRecoveryCode) (hrow : a.recoveryCodes.lookup id = some row)
      (hunused : row.usedAt = none) :
      Accepts now a (.recoveryCode id) { a with
        recoveryCodes := a.recoveryCodes.modify id fun row => { row with usedAt := some now } }
  | passkey (credentialId : String) : Accepts now a (.passkey credentialId) a

section

variable {env : Env} {now : Time} {userId raw : Uuid} {password : String} {a b : Account}

@[simp] theorem activate_credential : (activate userId a).credential = a.credential := by
  unfold activate
  split
  · rfl
  · rfl

theorem confirmPasswordReset_eq_ok (h : confirmPasswordReset env now userId raw password a = .ok b) :
    ∃ consumed set, consume now .passwordReset raw a = some consumed ∧
      isInactive consumed.user.status = false ∧ setPassword env password consumed = .ok set ∧
      b = revokeAllForUser now "password_reset"
        (consumeAllForUser now [.invitation] (activate userId set)) := by
  unfold confirmPasswordReset at h
  split at h
  · next consumed hconsume =>
    split at h
    · cases h
    · next hactive =>
      obtain ⟨set, hset, h⟩ := Result.of_bind h
      cases h
      exact ⟨consumed, set, hconsume, Bool.eq_false_of_not_eq_true hactive, hset, rfl⟩
  · cases h

theorem acceptInvitation_eq_ok (h : acceptInvitation env now userId raw password a = .ok b) :
    ∃ consumed set, consume now .invitation raw a = some consumed ∧
      isInactive consumed.user.status = false ∧ setPassword env password consumed = .ok set ∧
      b = consumeAllForUser now [.passwordReset]
        (revokeAllForUser now "invitation" (activate userId set)) := by
  unfold acceptInvitation at h
  split at h
  · next consumed hconsume =>
    split at h
    · cases h
    · next hactive =>
      obtain ⟨set, hset, h⟩ := Result.of_bind h
      cases h
      exact ⟨consumed, set, hconsume, Bool.eq_false_of_not_eq_true hactive, hset, rfl⟩
  · cases h

end

section

variable {env : Env} {now : Time} {a b : Account} {factor : Factor}

theorem matchStep_later {totp : MfaTotp} {clean : List Char} {steps : List ℤ} {step : ℤ}
    (h : matchStep env totp clean steps = .ok (some step)) :
    ∀ last ∈ totp.lastUsedStep, last < step := by
  induction steps with
  | nil => cases h
  | cons step' steps ih =>
    unfold matchStep at h
    split at h
    · exact ih h
    · next hused =>
      obtain ⟨equal, -, h⟩ := Result.of_bind h
      split at h
      · cases h
        intro last hlast
        have hlast : totp.lastUsedStep = some last := hlast
        simpa [hlast] using hused
      · exact ih h

theorem accepts_verifyTotp {code : String}
    (h : verifyTotp env now code a = .ok (some (factor, b))) : Accepts now a factor b := by
  unfold verifyTotp at h
  split at h
  · cases h
  · next row hrow =>
    obtain ⟨found, hfound, h⟩ := Result.of_bind h
    split at h
    · cases h
      simp only [verifyTotpCode] at hfound
      split at hfound
      · obtain ⟨step, hstep, hfound⟩ := Result.of_bind hfound
        split at hfound
        · cases hfound
          exact .totp row _ (Option.filter_eq_some_iff.mp hrow).1 (matchStep_later hstep)
        · cases hfound
      · cases hfound
    · cases h

theorem accepts_useRecoveryCode {code : String}
    (h : useRecoveryCode env now code a = some (factor, b)) : Accepts now a factor b := by
  obtain ⟨⟨id, row⟩, hfound, h⟩ := Option.map_eq_some_iff.mp h
  cases h
  obtain ⟨hrow, hmatch⟩ := Table.search_eq_some hfound
  exact .recoveryCode id row hrow (by simpa using (Bool.and_eq_true_iff.mp hmatch).2)

theorem accepts_checkAnswer {given : Answer}
    (h : checkAnswer env now given a = .ok (some (factor, b))) : Accepts now a factor b := by
  cases given with
  | code code =>
    obtain ⟨found, hfound, h⟩ := Result.of_bind h
    split at h
    · cases h
      exact accepts_verifyTotp hfound
    · exact accepts_useRecoveryCode (Except.ok.inj h)
  | passkey credentialId valid =>
    have h := Except.ok.inj h
    split at h
    · cases h
      exact .passkey credentialId
    · cases h

end

end Nexotec.Auth
