/-
Enrolling and removing a second factor (`app/platform/services/mfa.py`, `app/platform/api/auth.py`;
`recover` of `recovery.py`).

Every transaction here has the user row, so it reads what it writes.  A session row says in `amr` what
the session has proved; whoever takes the last factor away has to see to every row.

* `beginTotp`, `confirmTotp`, `registerPasskey`, `regenerateRecoveryCodes` — the enrolments;
* `removeTotp`, `removePasskey`, `removeAllFactors` — the removals;
* `recordFactorOnSession`, `dropFactorFromSessionIfNoneLeft` — what they write on the sessions.
-/
import Mathlib.Data.List.Dedup
import Mathlib.Data.List.Sort
import Nexotec.Platform.SignIn

namespace Nexotec.Factors

open Platform Auth SignIn

/-- `sorted(set(texts))` -/
def sortedSet (texts : List String) : List String := texts.dedup.insertionSort (· ≤ ·)

def proves (a : Account) (sid : Uuid) : Bool :=
  (a.sessions.lookup sid).any fun row => "mfa" ∈ row.amr

def recordFactorOnSession (sid : Uuid) (method : String) (a : Account) : Account :=
  { a with sessions := a.sessions.modify sid fun row =>
      { row with amr := sortedSet (row.amr ++ [method, "mfa"]) } }

/-- `_drop_factor_from_session_if_none_left`: the session owes a factor again, and the others end. -/
def dropFactorFromSessionIfNoneLeft (now : Time) (sid : Uuid) (a : Account) : Account :=
  if hasFactor a then a
  else { a with sessions := a.sessions.updateAll fun id row =>
      if id = sid then
        { row with amr := sortedSet (row.amr.filter (· ∉ ["mfa", "otp", "hwk"])) }
      else if row.revokedAt = none then
        { row with revokedAt := some now, revokedReason := some "mfa_removed" }
      else row }

/-! ### Enrolments -/

/-- `begin_totp`: the row that is there keeps its last step. -/
def beginTotp (secret : String) (a : Account) : Result Account :=
  match a.totp with
  | none => .ok { a with totp := some { secret } }
  | some totp =>
    if totp.confirmedAt.isSome then
      .error (conflictError
        "An authenticator app is already enrolled — remove it before enrolling another.")
    else .ok { a with totp := some { totp with secret := secret } }

/-- `_new_recovery_codes`, as they were drawn. -/
def newRecoveryCodes (env : Env) (codes : List (Uuid × String)) (a : Account) : Account :=
  let rows : List (Uuid × MfaRecoveryCode) :=
    codes.map fun code => (code.1, { codeHash := env.hashCode code.2 })
  { a with recoveryCodes := Table.insertAll rows ∅ }

def confirmTotp (env : Env) (checkedAt now : Time) (code : String) (codes : List (Uuid × String))
    (a : Account) : Result Account :=
  match a.totp.filter (·.confirmedAt.isNone) with
  | none => .error (conflictError "No authenticator enrolment is waiting for confirmation.")
  | some totp => do
    match ← verifyTotpCode env checkedAt totp code with
    | none => .error (unprocessableEntityError "The code is not valid." [("factor", "totp")])
    | some (_, used) =>
      pure (newRecoveryCodes env codes { a with totp := some { used with confirmedAt := some now } })

/-- `register_passkey`; `valid` is the verdict on the attestation. -/
def registerPasskey (credentialId : String) (valid : Bool) (a : Account) : Result Account :=
  if !valid then
    .error (unprocessableEntityError "The passkey could not be verified." [("factor", "passkey")])
  else if credentialId ∈ a.passkeys then .error (internalError "duplicate key")
  else .ok { a with passkeys := a.passkeys ++ [credentialId] }

def regenerateRecoveryCodes (env : Env) (codes : List (Uuid × String)) (a : Account) :
    Result Account :=
  if hasFactor a then .ok (newRecoveryCodes env codes a)
  else .error (conflictError
    "Recovery codes belong to an enrolled second factor — enrol one first.")

/-! ### Removals -/

def dropRecoveryCodesIfNoFactor (a : Account) : Account :=
  if hasFactor a then a else { a with recoveryCodes := ∅ }

/-- `remove_totp`: whether a confirmed factor went. -/
def removeTotp (a : Account) : Bool × Account :=
  match a.totp with
  | none => (false, a)
  | some totp => (totp.confirmedAt.isSome, dropRecoveryCodesIfNoFactor { a with totp := none })

/-- `remove_passkey`; a passkey is named by its credential. -/
def removePasskey (credentialId : String) (a : Account) : Option Account :=
  if credentialId ∈ a.passkeys then
    some (dropRecoveryCodesIfNoFactor { a with passkeys := a.passkeys.filter (· ≠ credentialId) })
  else none

def removeAllFactors (a : Account) : Account :=
  { a with totp := none, passkeys := [], recoveryCodes := ∅ }

/-! ### The transactions of a user -/

/-- The routes of «My account» that lock the user row. -/
inductive AccountRoute where
  | totpEnrol (secret : String)
  | totpConfirm (code : String)
  | totpRemove
  | recoveryCodesRegenerate
  | passkeyRegisterOptions
  | passkeyRegister (raw : Uuid) (credentialId : String) (valid : Bool)
  | passkeyRemove (credentialId : String)

/-- What one transaction draws, and the clock as it reads it.  `taken`: another user has the address. -/
structure Drawn where
  id : Uuid := 0
  judgedAt : Time := 0
  checkedAt : Time := 0
  now : Time := 0
  codes : List (Uuid × String) := []
  taken : Bool := false

def totpConfirm (env : Env) (d : Drawn) (sid : Uuid) (code : String) (a : Account) :
    Result Account := do
  let confirmed ← confirmTotp env d.checkedAt d.now code d.codes a
  pure (recordFactorOnSession sid "otp" confirmed)

def totpRemove (now : Time) (sid : Uuid) (a : Account) : Account :=
  let (confirmed, removed) := removeTotp a
  if confirmed then dropFactorFromSessionIfNoneLeft now sid removed else removed

def passkeyRegister (d : Drawn) (sid raw : Uuid) (credentialId : String) (valid : Bool)
    (a : Account) : Result Account :=
  match peek d.judgedAt .passkeyRegistration raw a with
  | none => .error (unauthorizedError "The passkey step has expired — start again.")
  | some _ => do
    let registered ← registerPasskey credentialId valid a
    match consume d.now .passkeyRegistration raw registered with
    | none => .error (unauthorizedError "The passkey step has expired — start again.")
    | some spent => pure (recordFactorOnSession sid "hwk" spent)

def passkeyRemove (now : Time) (sid : Uuid) (credentialId : String) (a : Account) : Result Account :=
  match removePasskey credentialId a with
  | none => .error (notFoundError "Passkey not found.")
  | some removed => .ok (dropFactorFromSessionIfNoneLeft now sid removed)

def AccountRoute.run (env : Env) (d : Drawn) (sid : Uuid) (a : Account) :
    AccountRoute → Result Account
  | .totpEnrol secret => beginTotp secret a
  | .totpConfirm code => Factors.totpConfirm env d sid code a
  | .totpRemove => .ok (Factors.totpRemove d.now sid a)
  | .recoveryCodesRegenerate => regenerateRecoveryCodes env d.codes a
  | .passkeyRegisterOptions => .ok (issue d.now .passkeyRegistration d.id a)
  | .passkeyRegister raw credentialId valid => Factors.passkeyRegister d sid raw credentialId valid a
  | .passkeyRemove credentialId => Factors.passkeyRemove d.now sid credentialId a

/-- A request at the front door, from the lock to the commit; `none`: it is rolled back. -/
def frontDoor (env : Env) (d : Drawn) (userId : Uuid) (a : Account) (work : Work) : Option Account :=
  if work.isAttempt then
    match work.judge env d.judgedAt a with
    | .refused => none
    | .ended ended => some ended
    | .allowed judged =>
      match work.check env d.checkedAt judged with
      | .error _ => none
      | .ok (verdict, checked) =>
        ((work.finish env d.now d.id checked verdict).toOption).map (·.1)
  else ((work.run env d.now userId d.id d.taken a).toOption).map (·.1)

/-- A transaction that has the user row. -/
inductive Body where
  | frontDoor (work : Work)
  | account (sid : Uuid) (route : AccountRoute)
  /-- `RecoveryAction.RESET_MFA` -/
  | resetMfa

def Body.run (env : Env) (d : Drawn) (userId : Uuid) (a : Account) : Body → Option Account
  | .frontDoor work => Factors.frontDoor env d userId a work
  | .account sid route => (route.run env d sid a).toOption
  | .resetMfa => some (revokeAllForUser d.now "mfa_removed" (removeAllFactors a))

section Strength
variable {env : Env} {d : Drawn} {now : Time} {userId sid id : Uuid} {a b c : Account}

theorem mem_sortedSet {texts : List String} {text : String} :
    text ∈ sortedSet texts ↔ text ∈ texts := by
  rw [sortedSet, List.mem_insertionSort, List.mem_dedup]

theorem proves_iff : proves a sid = true ↔
    ∃ row, a.sessions.lookup sid = some row ∧ "mfa" ∈ row.amr := by
  unfold proves
  rw [Option.any_eq_true]
  simp only [decide_eq_true_eq]

/-- The factors and what the sessions proved stay as they are; sessions may end. -/
structure Quiet (a b : Account) : Prop where
  totp : b.totp.any (·.confirmedAt.isSome) = a.totp.any (·.confirmedAt.isSome)
  passkeys : b.passkeys = a.passkeys
  codes : ∀ id row, b.recoveryCodes.lookup id = some row → ∃ old, a.recoveryCodes.lookup id = some old
  amr : ∀ sid, (b.sessions.lookup sid).map (·.amr) = (a.sessions.lookup sid).map (·.amr)
  ended : ∀ sid row row', a.sessions.lookup sid = some row → b.sessions.lookup sid = some row' →
    row'.revokedAt = none → row.revokedAt = none

theorem Quiet.of_eq (htotp : b.totp = a.totp) (hpasskeys : b.passkeys = a.passkeys)
    (hcodes : b.recoveryCodes = a.recoveryCodes) (hsessions : b.sessions = a.sessions) :
    Quiet a b := by
  refine ⟨by rw [htotp], hpasskeys, fun id row h => ⟨row, hcodes ▸ h⟩, fun sid => by rw [hsessions],
    fun sid row row' hrow hrow' hlive => ?_⟩
  rw [hsessions, hrow] at hrow'
  exact Option.some.inj hrow' ▸ hlive

theorem Quiet.refl (a : Account) : Quiet a a := .of_eq rfl rfl rfl rfl

theorem Quiet.trans (hab : Quiet a b) (hbc : Quiet b c) : Quiet a c := by
  refine ⟨hbc.totp.trans hab.totp, hbc.passkeys.trans hab.passkeys, fun id row h => ?_,
    fun sid => (hbc.amr sid).trans (hab.amr sid), fun sid row row' hrow hrow' hlive => ?_⟩
  · obtain ⟨old, hold⟩ := hbc.codes id row h
    exact hab.codes id old hold
  · have hmiddle := hab.amr sid
    rw [hrow] at hmiddle
    obtain ⟨middle, hmiddle, -⟩ := Option.map_eq_some_iff.mp hmiddle
    exact hab.ended sid row middle hrow hmiddle (hbc.ended sid middle row' hmiddle hrow' hlive)

theorem Quiet.hasFactor (h : Quiet a b) : hasFactor b = hasFactor a := by
  unfold Auth.hasFactor
  rw [h.totp, h.passkeys]

theorem Quiet.lookup (h : Quiet a b) {row' : AuthSession} (hrow' : b.sessions.lookup sid = some row') :
    ∃ row, a.sessions.lookup sid = some row ∧ row.amr = row'.amr := by
  have hmap := h.amr sid
  rw [hrow'] at hmap
  exact Option.map_eq_some_iff.mp hmap.symm

theorem Quiet.lookup_none (h : Quiet a b) (hnone : a.sessions.lookup sid = none) :
    b.sessions.lookup sid = none := by
  have hmap := h.amr sid
  rw [hnone] at hmap
  exact Option.map_eq_none_iff.mp hmap

theorem Quiet.proves (h : Quiet a b) (sid : Uuid) : proves b sid = proves a sid := by
  have hany : ∀ row : Option AuthSession, row.any (fun row => decide ("mfa" ∈ row.amr)) =
      (row.map (·.amr)).any fun amr => decide ("mfa" ∈ amr) := fun row => by
    cases row <;> rfl
  unfold Factors.proves
  rw [hany, hany, h.amr sid]

/-! ### What a transaction may do -/

/-- **No session is stronger than its user**: one that carries «mfa» and has not ended is of a user who
holds a factor; recovery codes belong to a factor too. -/
structure Proven (a : Account) : Prop where
  sessions : ∀ sid row, a.sessions.lookup sid = some row → row.revokedAt = none → "mfa" ∈ row.amr →
    Auth.hasFactor a = true
  codes : ∀ id row, a.recoveryCodes.lookup id = some row → Auth.hasFactor a = true

theorem Quiet.proven (h : Quiet a b) (hproven : Proven a) : Proven b := by
  refine ⟨fun sid row' hrow' hlive hmfa => ?_, fun id row hrow => ?_⟩
  · obtain ⟨row, hrow, hamr⟩ := h.lookup hrow'
    rw [h.hasFactor]
    exact hproven.sessions sid row hrow (h.ended sid row row' hrow hrow' hlive) (hamr ▸ hmfa)
  · obtain ⟨old, hold⟩ := h.codes id row hrow
    rw [h.hasFactor]
    exact hproven.codes id old hold

/-- What a transaction does to the strength of the sessions. -/
structure Transacts (a b : Account) : Prop where
  proven : Proven a → Proven b
  minted : ∀ sid row, a.sessions.lookup sid = none → b.sessions.lookup sid = some row →
    Auth.hasFactor b = true → "mfa" ∈ row.amr
  keeps : ∀ sid, Factors.proves a sid = true →
    Factors.proves b sid = true ∨ Auth.hasFactor b = false

theorem Quiet.transacts (h : Quiet a b) : Transacts a b := by
  refine ⟨h.proven, fun sid row hnone hrow => ?_, fun sid hsid => .inl (h.proves sid ▸ hsid)⟩
  rw [h.lookup_none hnone] at hrow
  cases hrow

theorem Quiet.mint {row : AuthSession} (h : Quiet a b) (hfresh : a.sessions.lookup sid = none)
    (hsessions : c.sessions = b.sessions.insert sid row)
    (hfactors : c.totp = b.totp ∧ c.passkeys = b.passkeys ∧ c.recoveryCodes = b.recoveryCodes)
    (howed : Auth.hasFactor b = true → "mfa" ∈ row.amr)
    (hheld : Proven a → "mfa" ∈ row.amr → Auth.hasFactor b = true) : Transacts a c := by
  have hfactor : Auth.hasFactor c = Auth.hasFactor b := by
    unfold Auth.hasFactor
    rw [hfactors.1, hfactors.2.1]
  refine ⟨fun hproven => ⟨fun sid' row' hrow' hlive hmfa => ?_, fun id code hcode => ?_⟩,
    fun sid' row' hnone hrow' hholds => ?_, fun sid' hsid => .inl ?_⟩
  · rw [hfactor]
    rw [hsessions] at hrow'
    rcases Table.lookup_insert_cases hrow' with ⟨-, rfl⟩ | ⟨-, hold⟩
    · exact hheld hproven hmfa
    · exact (h.proven hproven).sessions sid' row' hold hlive hmfa
  · rw [hfactor]
    exact (h.proven hproven).codes id code (hfactors.2.2 ▸ hcode)
  · rw [hsessions] at hrow'
    rcases Table.lookup_insert_cases hrow' with ⟨-, rfl⟩ | ⟨-, hold⟩
    · exact howed (hfactor ▸ hholds)
    · rw [h.lookup_none hnone] at hold
      cases hold
  · obtain ⟨old, hold, hmfa⟩ := proves_iff.mp (h.proves sid' ▸ hsid)
    have hne : sid' ≠ sid := fun heq => by
      rw [heq, h.lookup_none hfresh] at hold
      cases hold
    refine proves_iff.mpr ⟨old, ?_, hmfa⟩
    rw [hsessions, AList.lookup_insert_ne hne]
    exact hold

/-! ### The front door -/

theorem quiet_consumeAllForUser (now : Time) (kinds : List AuthTokenKind) (a : Account) :
    Quiet a (consumeAllForUser now kinds a) := .of_eq rfl rfl rfl rfl

theorem quiet_issue (now : Time) (kind : AuthTokenKind) (raw : Uuid) (a : Account) :
    Quiet a (issue now kind raw a) := .of_eq rfl rfl rfl rfl

variable {raw : Uuid}

theorem quiet_consume {kind : AuthTokenKind} (h : consume now kind raw a = some b) : Quiet a b := by
  obtain ⟨-, -, rfl⟩ := Option.map_eq_some_iff.mp h
  exact .of_eq rfl rfl rfl rfl

theorem quiet_claimAttempt {limit : ℕ} (h : claimAttempt raw limit a = some b) : Quiet a b := by
  obtain ⟨-, -, rfl⟩ := Option.map_eq_some_iff.mp h
  exact .of_eq rfl rfl rfl rfl

theorem quiet_revokeAllForUser (now : Time) (reason : String) (a : Account) :
    Quiet a (revokeAllForUser now reason a) := by
  refine ⟨rfl, rfl, fun id row h => ⟨row, h⟩, fun sid => ?_, fun sid row row' hrow hrow' hlive => ?_⟩
  · rw [revokeAllForUser, Table.lookup_updateAll, Option.map_map]
    congr 1
    funext row
    rw [Function.comp_apply]
    split <;> rfl
  · rw [revokeAllForUser, Table.lookup_updateAll, hrow] at hrow'
    have hrow' := Option.some.inj hrow'
    dsimp only at hrow'
    split at hrow'
    · next hopen => exact hopen
    · exact hrow' ▸ hlive

variable {password : String}

theorem quiet_setPassword (h : setPassword env password a = .ok b) : Quiet a b := by
  obtain ⟨-, -, h⟩ := Result.of_bind h
  dsimp only at h
  split at h
  · cases h
  · cases h
    exact .of_eq rfl rfl rfl rfl

theorem quiet_activate (userId : Uuid) (a : Account) : Quiet a (activate userId a) := by
  unfold activate
  split
  · exact .of_eq rfl rfl rfl rfl
  · exact .refl a

theorem quiet_confirmPasswordReset (h : confirmPasswordReset env now userId raw password a = .ok b) :
    Quiet a b := by
  obtain ⟨consumed, set, hconsume, -, hset, rfl⟩ := confirmPasswordReset_eq_ok h
  have hactive := ((quiet_consume hconsume).trans (quiet_setPassword hset)).trans
    (quiet_activate userId set)
  exact (hactive.trans (quiet_consumeAllForUser ..)).trans (quiet_revokeAllForUser ..)

theorem quiet_acceptInvitation (h : acceptInvitation env now userId raw password a = .ok b) :
    Quiet a b := by
  obtain ⟨consumed, set, hconsume, -, hset, rfl⟩ := acceptInvitation_eq_ok h
  have hactive := ((quiet_consume hconsume).trans (quiet_setPassword hset)).trans
    (quiet_activate userId set)
  exact (hactive.trans (quiet_revokeAllForUser ..)).trans (quiet_consumeAllForUser ..)

theorem quiet_changeEmail (now : Time) (actorId : Uuid) (email : String) (a : Account) :
    Quiet a (Auth.changeEmail now actorId email a) := by
  unfold Auth.changeEmail
  refine Quiet.trans ?_ (quiet_revokeAllForUser ..)
  exact .of_eq rfl rfl rfl rfl

variable {factor : Factor}

theorem quiet_checkAnswer {given : Answer}
    (h : checkAnswer env now given a = .ok (some (factor, b))) :
    Quiet a b ∧ (Proven a → Auth.hasFactor a = true) ∧ "mfa" ∈ factor.amr := by
  cases given with
  | code code =>
    obtain ⟨found, hfound, h⟩ := Result.of_bind h
    split at h
    · cases h
      unfold verifyTotp at hfound
      split at hfound
      · cases hfound
      · next totp htotp =>
        obtain ⟨htotp, hconfirmed⟩ := Option.filter_eq_some_iff.mp htotp
        obtain ⟨used, hused, hfound⟩ := Result.of_bind hfound
        split at hfound
        · next step row =>
          cases hfound
          refine ⟨⟨?_, rfl, fun id row h => ⟨row, h⟩, fun _ => rfl, ?_⟩, fun _ => ?_, by simp [Factor.amr]⟩
          · have hkept : row.confirmedAt = totp.confirmedAt := by
              unfold verifyTotpCode at hused
              dsimp only at hused
              split at hused
              · obtain ⟨matched, -, hused⟩ := Result.of_bind hused
                split at hused
                · cases hused
                  rfl
                · cases hused
              · cases hused
            rw [htotp]
            exact congrArg Option.isSome hkept
          · intro sid row row' hrow hrow' hlive
            rw [hrow] at hrow'
            exact Option.some.inj hrow' ▸ hlive
          · unfold Auth.hasFactor
            rw [htotp]
            exact Bool.or_eq_true_iff.mpr (.inl hconfirmed)
        · cases hfound
    · -- a recovery code
      have h := Except.ok.inj h
      obtain ⟨⟨id, row⟩, hsearch, h⟩ := Option.map_eq_some_iff.mp h
      cases h
      obtain ⟨hrow, -⟩ := Table.search_eq_some hsearch
      refine ⟨⟨rfl, rfl, fun id' row' hrow' => ?_, fun _ => rfl, ?_⟩,
        fun hproven => hproven.codes id row hrow, by simp [Factor.amr]⟩
      · dsimp only at hrow'
        rw [Table.lookup_modify] at hrow'
        split at hrow'
        · obtain ⟨old, hold, -⟩ := Option.map_eq_some_iff.mp hrow'
          exact ⟨old, hold⟩
        · exact ⟨row', hrow'⟩
      · intro sid row row' hrow hrow' hlive
        rw [hrow] at hrow'
        exact Option.some.inj hrow' ▸ hlive
  | passkey credentialId valid =>
    have h := Except.ok.inj h
    split at h
    · next hheld =>
      cases h
      refine ⟨.refl a, fun _ => ?_, by simp [Factor.amr]⟩
      unfold Auth.hasFactor
      have hnonempty : a.passkeys ≠ [] := List.ne_nil_of_mem hheld.1
      simp [hnonempty]
    · cases h

theorem finishLogin_eq_ok {acceptedIn : ℕ} (h : finishLogin env now sid factor acceptedIn a = .ok b) :
    ∃ row : AuthSession, row.amr = factor.amr ∧ b.sessions = a.sessions.insert sid row ∧
      b.totp = a.totp ∧ b.passkeys = a.passkeys ∧ b.recoveryCodes = a.recoveryCodes := by
  obtain ⟨minted, hmint, h⟩ := Result.of_bind h
  cases h
  unfold mintSession at hmint
  split at hmint
  · cases hmint
  · cases hmint
    exact ⟨_, rfl, rfl, rfl, rfl, rfl⟩

variable {events : List Event}

theorem Quiet.passwordAccepted (h : Quiet a b) (hfresh : a.sessions.lookup id = none)
    (haccepted : SignIn.passwordAccepted env now id b = .ok (c, events)) : Transacts a c := by
  unfold SignIn.passwordAccepted at haccepted
  split at haccepted
  · cases haccepted
    exact (h.trans (quiet_issue ..)).transacts
  · next hnone =>
    obtain ⟨minted, hmint, haccepted⟩ := Result.of_bind haccepted
    cases haccepted
    obtain ⟨row, hamr, hsessions, hfactors⟩ := finishLogin_eq_ok hmint
    refine h.mint hfresh hsessions hfactors (fun hholds => absurd hholds hnone) fun _ hmfa => ?_
    rw [hamr] at hmfa
    exact absurd hmfa (by decide)

variable {work : Work} {checkedAt : Time}

theorem transacts_attempt {verdict : Option Factor} {judged checked : Account} {judgedAt : Time}
    (hfresh : a.sessions.lookup id = none) (hjudge : work.judge env judgedAt a = .allowed judged)
    (hcheck : work.check env checkedAt judged = .ok (verdict, checked))
    (hfinish : work.finish env now id checked verdict = .ok (b, events)) : Transacts a b := by
  have hjudged : Quiet a judged := by
    rcases (judge_allowed hjudge).2 with ⟨-, -, rfl⟩ | ⟨raw, given, -, hclaim⟩
    · exact .refl _
    · exact quiet_claimAttempt hclaim
  cases work with
  | login started password =>
    obtain ⟨-, rfl⟩ := Prod.mk.inj (Except.ok.inj hcheck)
    simp only [Work.finish] at hfinish
    split at hfinish
    · cases hfinish
      have hfailed : Quiet judged (passwordFailed env started judged) := .of_eq rfl rfl rfl rfl
      exact (hjudged.trans hfailed).transacts
    · split at hfinish
      · cases hfinish
        exact hjudged.transacts
      · exact hjudged.passwordAccepted hfresh hfinish
  | answer raw given =>
    obtain ⟨found, hfound, hcheck⟩ := Result.of_bind hcheck
    split at hcheck
    · next factor accepted =>
      cases hcheck
      obtain ⟨hquiet, hheld, hmfa⟩ := quiet_checkAnswer hfound
      obtain ⟨token, -, hfinish⟩ := Result.of_bind hfinish
      split at hfinish
      · next spent hspent =>
        obtain ⟨minted, hmint, hfinish⟩ := Result.of_bind hfinish
        cases hfinish
        obtain ⟨row, hamr, hsessions, hfactors⟩ := finishLogin_eq_ok hmint
        have hspent := hquiet.trans (quiet_consume hspent)
        refine (hjudged.trans hspent).mint hfresh hsessions hfactors (fun _ => hamr ▸ hmfa) ?_
        intro hproven _
        rw [hspent.hasFactor]
        exact hheld (hjudged.proven hproven)
      · cases hfinish
    · cases hcheck
      cases hfinish
      have hfailed : Quiet judged (secondStepFailed env now judged) := .of_eq rfl rfl rfl rfl
      exact (hjudged.trans hfailed).transacts
  | reset | accept | requestReset | invite | changeEmail => cases hjudge

theorem transacts_run {taken : Bool} (hfresh : a.sessions.lookup id = none)
    (hrun : work.run env now userId id taken a = .ok (b, events)) : Transacts a b := by
  cases work with
  | login | answer =>
    cases hrun
    exact (Quiet.refl _).transacts
  | reset raw password =>
    obtain ⟨c, hc, hb⟩ := Result.of_bind hrun
    cases hb
    exact (quiet_confirmPasswordReset hc).transacts
  | accept raw password =>
    obtain ⟨c, hc, hb⟩ := Result.of_bind hrun
    have hquiet := quiet_acceptInvitation hc
    split at hb
    · obtain ⟨⟨e, events'⟩, he, hb⟩ := Result.of_bind hb
      cases hb
      exact hquiet.passwordAccepted hfresh he
    · cases hb
      exact hquiet.transacts
  | requestReset email =>
    simp only [Work.run] at hrun
    split at hrun
    · cases hrun
      exact (Quiet.refl _).transacts
    · cases hrun
      exact (quiet_issue ..).transacts
  | invite =>
    cases hrun
    exact (quiet_issue ..).transacts
  | changeEmail actorId email =>
    simp only [Work.run] at hrun
    split at hrun
    · cases hrun
    · cases hrun
      exact (quiet_changeEmail ..).transacts

theorem toOption_eq_some {α : Type} {x : Result α} {y : α} (h : x.toOption = some y) : x = .ok y := by
  cases x with
  | error e => cases h
  | ok z => exact congrArg Except.ok (Option.some.inj h)

theorem transacts_frontDoor (hfresh : a.sessions.lookup d.id = none)
    (h : frontDoor env d userId a work = some b) : Transacts a b := by
  unfold frontDoor at h
  split at h
  · split at h
    · cases h
    · next ended hjudge =>
      cases h
      obtain ⟨raw, given, -, hconsume⟩ := judge_ended hjudge
      exact (quiet_consume hconsume).transacts
    · next judged hjudge =>
      split at h
      · cases h
      · next verdict checked hcheck =>
        obtain ⟨⟨b', events⟩, hfinish, rfl⟩ := Option.map_eq_some_iff.mp h
        exact transacts_attempt hfresh hjudge hcheck (toOption_eq_some hfinish)
  · obtain ⟨⟨b', events⟩, hrun, rfl⟩ := Option.map_eq_some_iff.mp h
    exact transacts_run hfresh (toOption_eq_some hrun)

/-! ### Enrolments and removals -/

theorem transacts_enrol {method : String} (hfactor : Auth.hasFactor b = true)
    (hsessions : b.sessions = a.sessions) : Transacts a (recordFactorOnSession sid method b) := by
  have hheld : Auth.hasFactor (recordFactorOnSession sid method b) = true := hfactor
  refine ⟨fun _ => ⟨fun _ _ _ _ _ => hheld, fun _ _ _ => hheld⟩, fun sid' row hnone hrow _ => ?_,
    fun sid' hsid => .inl ?_⟩
  · -- no session is minted
    rw [recordFactorOnSession, Table.lookup_modify, hsessions, hnone] at hrow
    split at hrow <;> cases hrow
  · obtain ⟨row, hrow, hmfa⟩ := proves_iff.mp hsid
    rw [← hsessions] at hrow
    refine proves_iff.mpr ?_
    by_cases heq : sid' = sid
    · subst heq
      refine ⟨{ row with amr := sortedSet (row.amr ++ [method, "mfa"]) }, ?_, ?_⟩
      · rw [recordFactorOnSession, Table.lookup_modify_self, hrow]
        rfl
      · exact mem_sortedSet.mpr (List.mem_append_left _ hmfa)
    · refine ⟨row, ?_, hmfa⟩
      rw [recordFactorOnSession, Table.lookup_modify_ne heq]
      exact hrow

theorem transacts_remove (hsessions : b.sessions = a.sessions) (hcodes : Proven a → ∀ id row,
      b.recoveryCodes.lookup id = some row → Auth.hasFactor b = true) :
    Transacts a (dropFactorFromSessionIfNoneLeft now sid b) := by
  unfold dropFactorFromSessionIfNoneLeft
  split
  · next hheld =>
    refine ⟨fun hproven => ⟨fun _ _ _ _ _ => hheld, hcodes hproven⟩, fun sid' row hnone hrow => ?_,
      fun sid' hsid => .inl ?_⟩
    · rw [hsessions, hnone] at hrow
      cases hrow
    · unfold proves at hsid ⊢
      rw [hsessions]
      exact hsid
  · next hnone =>
    have hnone : Auth.hasFactor b = false := Bool.not_eq_true _ ▸ hnone
    refine ⟨fun hproven => ⟨fun sid' row' hrow' hlive hmfa => ?_, hcodes hproven⟩,
      fun sid' row _ _ hheld => ?_, fun _ _ => .inr hnone⟩
    · -- stripped, or ended
      exfalso
      dsimp only at hrow'
      rw [Table.lookup_updateAll] at hrow'
      obtain ⟨row, -, rfl⟩ := Option.map_eq_some_iff.mp hrow'
      split at hmfa
      · have hkept := List.of_mem_filter (mem_sortedSet.mp hmfa)
        simp at hkept
      · next hother =>
        rw [if_neg hother] at hlive
        split at hlive
        · cases hlive
        · next hended => exact hended hlive
    · have hfactor : Auth.hasFactor b = true := hheld
      rw [hnone] at hfactor
      cases hfactor

theorem newRecoveryCodes_sessions (codes : List (Uuid × String)) (a : Account) :
    (newRecoveryCodes env codes a).sessions = a.sessions ∧
      Auth.hasFactor (newRecoveryCodes env codes a) = Auth.hasFactor a := ⟨rfl, rfl⟩

variable {code : String} {codes : List (Uuid × String)}

theorem confirmTotp_eq_ok (h : confirmTotp env checkedAt now code codes a = .ok b) :
    Auth.hasFactor b = true ∧ b.sessions = a.sessions := by
  unfold confirmTotp at h
  split at h
  · cases h
  · obtain ⟨used, -, h⟩ := Result.of_bind h
    split at h
    · cases h
    · cases h
      exact ⟨rfl, rfl⟩

variable {credentialId : String} {valid : Bool}

theorem registerPasskey_eq_ok (h : registerPasskey credentialId valid a = .ok b) :
    Auth.hasFactor b = true ∧ b.sessions = a.sessions := by
  unfold registerPasskey at h
  split at h
  · cases h
  · split at h
    · cases h
    · cases h
      refine ⟨?_, rfl⟩
      simp [Auth.hasFactor]

theorem dropRecoveryCodes_lookup {row : MfaRecoveryCode}
    (h : (dropRecoveryCodesIfNoFactor a).recoveryCodes.lookup id = some row) :
    Auth.hasFactor (dropRecoveryCodesIfNoFactor a) = true := by
  unfold dropRecoveryCodesIfNoFactor at h ⊢
  split at h
  · next hheld =>
    rw [if_pos hheld]
    exact hheld
  · cases h

theorem dropRecoveryCodes_sessions (a : Account) :
    (dropRecoveryCodesIfNoFactor a).sessions = a.sessions := by
  unfold dropRecoveryCodesIfNoFactor
  split <;> rfl

theorem transacts_beginTotp {secret : String} (h : beginTotp secret a = .ok b) : Transacts a b := by
  have hsame : ∀ sid row row', a.sessions.lookup sid = some row → a.sessions.lookup sid = some row' →
      row'.revokedAt = none → row.revokedAt = none := fun sid row row' hrow hrow' hlive => by
    rw [hrow] at hrow'
    exact Option.some.inj hrow' ▸ hlive
  unfold beginTotp at h
  split at h
  · next hnone =>
    cases h
    refine Quiet.transacts ⟨?_, rfl, fun id row hrow => ⟨row, hrow⟩, fun _ => rfl, hsame⟩
    rw [hnone]
    rfl
  · next totp htotp =>
    split at h
    · cases h
    · cases h
      refine Quiet.transacts ⟨?_, rfl, fun id row hrow => ⟨row, hrow⟩, fun _ => rfl, hsame⟩
      rw [htotp]
      rfl

theorem transacts_totpConfirm (h : totpConfirm env d sid code a = .ok b) : Transacts a b := by
  obtain ⟨confirmed, hconfirmed, h⟩ := Result.of_bind h
  cases h
  obtain ⟨hfactor, hsessions⟩ := confirmTotp_eq_ok hconfirmed
  exact transacts_enrol hfactor hsessions

theorem transacts_totpRemove (now : Time) (sid : Uuid) (a : Account) :
    Transacts a (totpRemove now sid a) := by
  unfold totpRemove removeTotp
  cases htotp : a.totp with
  | none => exact (Quiet.refl a).transacts
  | some totp =>
    dsimp only
    split
    · exact transacts_remove (dropRecoveryCodes_sessions _) fun _ id row => dropRecoveryCodes_lookup
    · next hunconfirmed =>
      -- an enrolment that was never confirmed is no factor
      refine Quiet.transacts ⟨?_, ?_, fun id row hrow => ?_, fun sid' => ?_,
        fun sid' row row' hrow hrow' hlive => ?_⟩
      · have hgone : ∀ b : Account, b.totp = none →
            (dropRecoveryCodesIfNoFactor b).totp.any (·.confirmedAt.isSome) = false := by
          intro b hb
          unfold dropRecoveryCodesIfNoFactor
          split <;> rw [hb] <;> rfl
        rw [hgone _ rfl, htotp]
        exact (Bool.eq_false_iff.mpr hunconfirmed).symm
      · unfold dropRecoveryCodesIfNoFactor
        split <;> rfl
      · unfold dropRecoveryCodesIfNoFactor at hrow
        split at hrow
        · exact ⟨row, hrow⟩
        · cases hrow
      · rw [dropRecoveryCodes_sessions]
      · rw [dropRecoveryCodes_sessions, hrow] at hrow'
        exact Option.some.inj hrow' ▸ hlive

theorem transacts_regenerate (h : regenerateRecoveryCodes env codes a = .ok b) : Transacts a b := by
  unfold regenerateRecoveryCodes at h
  split at h
  · next hheld =>
    cases h
    refine ⟨fun _ => ⟨fun _ _ _ _ _ => hheld, fun _ _ _ => hheld⟩, fun sid' row hnone hrow => ?_,
      fun sid' hsid => .inl hsid⟩
    rw [(newRecoveryCodes_sessions _ _).1, hnone] at hrow
    cases hrow
  · cases h

theorem transacts_passkeyRegister (h : passkeyRegister d sid raw credentialId valid a = .ok b) :
    Transacts a b := by
  unfold passkeyRegister at h
  split at h
  · cases h
  · obtain ⟨registered, hregistered, h⟩ := Result.of_bind h
    split at h
    · cases h
    · next spent hspent =>
      cases h
      obtain ⟨hfactor, hsessions⟩ := registerPasskey_eq_ok hregistered
      have hquiet := quiet_consume hspent
      obtain ⟨-, -, rfl⟩ := Option.map_eq_some_iff.mp hspent
      exact transacts_enrol (hquiet.hasFactor.trans hfactor) hsessions

theorem transacts_passkeyRemove (h : passkeyRemove now sid credentialId a = .ok b) :
    Transacts a b := by
  unfold passkeyRemove removePasskey at h
  split at h
  · cases h
  · next removed hremoved =>
    cases h
    split at hremoved
    · cases hremoved
      exact transacts_remove (dropRecoveryCodes_sessions _) fun _ id row => dropRecoveryCodes_lookup
    · cases hremoved

theorem transacts_account {route : AccountRoute} (h : route.run env d sid a = .ok b) :
    Transacts a b := by
  cases route with
  | totpEnrol secret => exact transacts_beginTotp h
  | totpConfirm code => exact transacts_totpConfirm h
  | totpRemove =>
    cases h
    exact transacts_totpRemove d.now sid a
  | recoveryCodesRegenerate => exact transacts_regenerate h
  | passkeyRegisterOptions =>
    cases h
    exact (quiet_issue ..).transacts
  | passkeyRegister raw credentialId valid => exact transacts_passkeyRegister h
  | passkeyRemove credentialId => exact transacts_passkeyRemove h

theorem transacts_resetMfa (now : Time) (a : Account) :
    Transacts a (revokeAllForUser now "mfa_removed" (removeAllFactors a)) := by
  refine ⟨fun _ => ⟨fun sid row' hrow' hlive _ => ?_, fun id row hrow => ?_⟩,
    fun _ _ _ _ hheld => ?_, fun _ _ => .inr rfl⟩
  · -- every session has ended
    rw [revokeAllForUser, Table.lookup_updateAll] at hrow'
    obtain ⟨row, -, rfl⟩ := Option.map_eq_some_iff.mp hrow'
    split at hlive
    · cases hlive
    · next hended => exact absurd hlive hended
  · cases hrow
  · cases hheld

/-- What any of them does to the strength of the sessions. -/
theorem Body.transacts {body : Body} (hfresh : a.sessions.lookup d.id = none)
    (h : body.run env d userId a = some b) : Transacts a b := by
  cases body with
  | frontDoor work => exact transacts_frontDoor hfresh h
  | account sid route => exact transacts_account (toOption_eq_some h)
  | resetMfa =>
    cases h
    exact transacts_resetMfa d.now a

end Strength

end Nexotec.Factors
