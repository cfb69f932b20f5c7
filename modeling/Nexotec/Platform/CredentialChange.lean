/-
A changed credential ends the sign-ins begun with the old one
(`app/platform/services/identity.py`, `app/platform/api/auth.py`).

A reset, an acceptance and a change of the address revoke every session and end
the other one-time links of the user.  None of them ends an MFA challenge, so a
sign-in that has passed the password step before goes on afterwards.
-/
import Nexotec.Platform.SignIn

namespace Nexotec.CredentialChange

open Platform Auth SignIn Locks Interleaving

/-! ### The property and the condition -/

/-- No session of the account rests on a password accepted before a replacement
that came before the session, and none from before a replacement is live. -/
def SignInsEnded (a : Account) : Prop :=
  ∀ sid session, a.sessions.lookup sid = some session →
    session.acceptedIn = session.mintedIn ∧
      (session.mintedIn < a.replaced → ∀ now, session.isLive now = false)

/-- No MFA challenge of the account can still be answered. -/
def NoOpenStep (now : Time) (a : Account) : Prop :=
  ∀ raw token, a.tokens.lookup raw = some token → token.kind = .mfaChallenge →
    token.isLive now = false

def replaces : Work → Bool
  | .reset .. | .accept .. | .changeEmail .. => true
  | .login .. | .answer .. | .requestReset _ | .invite => false

/-- An acceptance that begins an MFA step ends the open one. -/
def beginsStep (env : Env) (now : Time) (a : Account) : Work → Bool
  | .accept .. => accessWindowOpen env a.user now && hasFactor a
  | .login .. | .answer .. | .reset .. | .requestReset _ | .invite | .changeEmail .. => false

/-- **The condition on a step**: a credential is replaced only while no MFA
challenge of the user is open, or by a request that begins one itself. -/
def ClosesSteps {ι : Type} (env : Env) (ch : Choice) (sh : Shared ι) : Session → Prop
  | .locked _ work a => ch matches .go _ → replaces work = true →
    beginsStep env sh.now a work = false → NoOpenStep sh.now a
  | .idle | .started .. | .waiting .. | .judged .. | .decided .. => True

/-! ### Accounts -/

/-- Every session that is not revoked, and every open challenge, goes back to the
current credential. -/
structure Current (now : Time) (a : Account) : Prop where
  matched : ∀ sid session, a.sessions.lookup sid = some session →
    session.acceptedIn = session.mintedIn
  revoked : ∀ sid session, a.sessions.lookup sid = some session → session.revokedAt = none →
    session.mintedIn = a.replaced
  challenges : ∀ raw token, a.tokens.lookup raw = some token → token.kind = .mfaChallenge →
    token.isLive now = true → token.acceptedIn = a.replaced

/-- The account's tokens have at most ended. -/
structure Narrows (a b : Account) : Prop where
  sessions : b.sessions = a.sessions
  replaced : b.replaced = a.replaced
  tokens : ∀ raw token', b.tokens.lookup raw = some token' →
    ∃ token, a.tokens.lookup raw = some token ∧ token'.kind = token.kind ∧
      token'.acceptedIn = token.acceptedIn ∧
      ∀ now, token'.isLive now = true → token.isLive now = true

section

variable {a b : Account} {now : Time}

theorem Narrows.of_eq (hsessions : b.sessions = a.sessions) (hreplaced : b.replaced = a.replaced)
    (htokens : b.tokens = a.tokens) : Narrows a b :=
  ⟨hsessions, hreplaced, fun _ token' h => ⟨token', htokens ▸ h, rfl, rfl, fun _ => id⟩⟩

theorem Narrows.refl : Narrows a a := .of_eq rfl rfl rfl

theorem Current.narrows (h : Current now a) (hb : Narrows a b) : Current now b where
  matched := fun sid session hs => h.matched sid session (hb.sessions ▸ hs)
  revoked := fun sid session hs hlive =>
    (h.revoked sid session (hb.sessions ▸ hs) hlive).trans hb.replaced.symm
  challenges := fun raw token' ht hkind hlive => by
    obtain ⟨token, htoken, hkind', haccepted, hold⟩ := hb.tokens raw token' ht
    rw [haccepted, hb.replaced]
    exact h.challenges raw token htoken (hkind' ▸ hkind) (hold now hlive)

variable {token : AuthToken} {now' : Time}

theorem AuthToken.isLive_mono (hle : now ≤ now') (h : token.isLive now' = true) :
    token.isLive now = true := by
  simp only [AuthToken.isLive, Bool.and_eq_true, decide_eq_true_eq] at h ⊢
  exact ⟨h.1, hle.trans_lt h.2⟩

theorem Current.later (h : Current now a) (hle : now ≤ now') : Current now' a :=
  ⟨h.matched, h.revoked, fun raw token ht hkind hlive =>
    h.challenges raw token ht hkind (AuthToken.isLive_mono hle hlive)⟩

theorem narrows_consumeAllForUser (now : Time) (kinds : List AuthTokenKind) (a : Account) :
    Narrows a (consumeAllForUser now kinds a) := by
  refine ⟨rfl, rfl, fun raw token' hlookup => ?_⟩
  rw [consumeAllForUser, Table.lookup_updateAll] at hlookup
  obtain ⟨token, htoken, rfl⟩ := Option.map_eq_some_iff.mp hlookup
  refine ⟨token, htoken, ?_⟩
  split
  · exact ⟨rfl, rfl, fun t ht => by simp [AuthToken.isLive] at ht⟩
  · exact ⟨rfl, rfl, fun _ => id⟩

variable {raw : Uuid}

theorem narrows_modify {f : AuthToken → AuthToken}
    (hf : ∀ token, (f token).kind = token.kind ∧ (f token).acceptedIn = token.acceptedIn ∧
      ∀ now, (f token).isLive now = true → token.isLive now = true) :
    Narrows a { a with tokens := a.tokens.modify raw f } := by
  refine ⟨rfl, rfl, fun raw' token' hlookup => ?_⟩
  rw [Table.lookup_modify] at hlookup
  split at hlookup
  · next hraw =>
    subst hraw
    obtain ⟨token, htoken, rfl⟩ := Option.map_eq_some_iff.mp hlookup
    exact ⟨token, htoken, hf token⟩
  · exact ⟨token', hlookup, rfl, rfl, fun _ => id⟩

variable {kind : AuthTokenKind}

theorem narrows_consume (h : consume now kind raw a = some b) : Narrows a b := by
  obtain ⟨token, -, rfl⟩ := Option.map_eq_some_iff.mp h
  exact narrows_modify fun token => ⟨rfl, rfl, fun t ht => by simp [AuthToken.isLive] at ht⟩

theorem narrows_claimAttempt {limit : ℕ} (h : claimAttempt raw limit a = some b) : Narrows a b := by
  obtain ⟨token, -, rfl⟩ := Option.map_eq_some_iff.mp h
  exact narrows_modify fun token => ⟨rfl, rfl, fun _ => id⟩

variable {env : Env} {work : Work} {verdict : Option Factor}

theorem narrows_check (h : work.check env now a = .ok (verdict, b)) : Narrows a b := by
  rcases check_cases h with ⟨-, rfl⟩ | ⟨-, rfl, -⟩ | ⟨raw, given, factor, -, -, haccepts⟩
  · exact .refl
  · exact .refl
  · cases haccepts with
    | totp | recoveryCode => exact .of_eq rfl rfl rfl
    | passkey => exact .refl

theorem narrows_judge (h : work.judge env now a = .allowed b) : Narrows a b := by
  rcases (judge_allowed h).2 with ⟨-, -, rfl⟩ | ⟨raw, given, -, hclaimed⟩
  · exact .refl
  · exact narrows_claimAttempt hclaimed

/-! #### New tokens and sessions -/

theorem Current.issue (h : Current now a) (kind : AuthTokenKind) (raw : Uuid) :
    Current now (issue now kind raw a) := by
  have hended := h.narrows (narrows_consumeAllForUser now [kind] a)
  refine ⟨hended.matched, hended.revoked, fun raw' token ht hkind hlive => ?_⟩
  rcases Table.lookup_insert_cases ht with ⟨-, rfl⟩ | ⟨-, hold⟩
  · rfl
  · exact hended.challenges raw' token hold hkind hlive

theorem issue_challenges {raw' : Uuid}
    (ht : (issue now .mfaChallenge raw a).tokens.lookup raw' = some token)
    (hkind : token.kind = .mfaChallenge) (hlive : token.isLive now = true) :
    token.acceptedIn = a.replaced := by
  rcases Table.lookup_insert_cases ht with ⟨-, rfl⟩ | ⟨-, hold⟩
  · rfl
  · rw [consumeAllForUser, Table.lookup_updateAll] at hold
    obtain ⟨old, -, rfl⟩ := Option.map_eq_some_iff.mp hold
    split at hlive
    · simp [AuthToken.isLive] at hlive
    · next hopen =>
      rw [if_neg hopen] at hkind
      have hnone : old.consumedAt = none := by
        simpa using (Bool.and_eq_true_iff.mp hlive).1
      exact (hopen ⟨by simp [hkind], hnone⟩).elim

variable {sid : Uuid} {factor : Factor} {acceptedIn : ℕ}

theorem Current.mint (h : Current now a) (haccepted : acceptedIn = a.replaced)
    (hmint : mintSession env now sid factor acceptedIn a = .ok b) : Current now b := by
  unfold mintSession at hmint
  split at hmint
  · cases hmint
  · cases hmint
    refine ⟨fun sid' session hs => ?_, fun sid' session hs hlive => ?_, h.challenges⟩
    · rcases Table.lookup_insert_cases hs with ⟨-, rfl⟩ | ⟨-, hold⟩
      · exact haccepted
      · exact h.matched sid' session hold
    · rcases Table.lookup_insert_cases hs with ⟨-, rfl⟩ | ⟨-, hold⟩
      · rfl
      · exact h.revoked sid' session hold hlive

theorem Current.finishLogin (h : Current now a) (haccepted : acceptedIn = a.replaced)
    (hfinish : Auth.finishLogin env now sid factor acceptedIn a = .ok b) : Current now b := by
  obtain ⟨minted, hmint, hb⟩ := Result.of_bind hfinish
  cases hb
  exact (h.mint haccepted hmint).narrows (.of_eq rfl rfl rfl)

variable {id : Uuid} {events : List Event}

theorem Current.passwordAccepted (h : Current now a)
    (haccept : SignIn.passwordAccepted env now id a = .ok (b, events)) : Current now b := by
  unfold SignIn.passwordAccepted at haccept
  split at haccept
  · cases haccept
    exact h.issue .mfaChallenge id
  · obtain ⟨minted, hmint, hb⟩ := Result.of_bind haccept
    cases hb
    exact h.finishLogin rfl hmint

theorem Current.finish (h : Current now a)
    (hfinish : work.finish env now id a verdict = .ok (b, events)) : Current now b := by
  cases work with
  | login started password =>
    simp only [Work.finish] at hfinish
    split at hfinish
    · cases hfinish
      exact h.narrows (.of_eq rfl rfl rfl)
    · split at hfinish
      · cases hfinish
        exact h
      · exact h.passwordAccepted hfinish
  | answer raw given =>
    simp only [Work.finish] at hfinish
    split at hfinish
    · cases hfinish
      exact h.narrows (.of_eq rfl rfl rfl)
    · obtain ⟨token, htoken, hfinish⟩ := Result.of_bind hfinish
      split at hfinish
      · next spent hspent =>
        obtain ⟨minted, hmint, hb⟩ := Result.of_bind hfinish
        cases hb
        -- the challenge is open, so it was issued on the current credential
        have haccepted : token.acceptedIn = a.replaced := by
          obtain ⟨token', hpeek, -⟩ := Option.map_eq_some_iff.mp hspent
          obtain ⟨htoken', hlive⟩ := Option.filter_eq_some_iff.mp hpeek
          obtain rfl : token = token' :=
            Option.mem_unique (orNotFound_eq_ok.mp htoken) htoken'
          simp only [Bool.and_eq_true, decide_eq_true_eq] at hlive
          exact h.challenges raw token htoken' hlive.1 hlive.2
        have hspent := narrows_consume hspent
        exact (h.narrows hspent).finishLogin (haccepted.trans hspent.replaced.symm) hmint
      · cases hfinish
  | reset | accept | requestReset | invite | changeEmail =>
    cases hfinish
    exact h

/-! #### Replacements -/

/-- The credential has been replaced and every session revoked. -/
structure Replaced (a b : Account) : Prop where
  replaced : b.replaced = a.replaced + 1
  sessions : ∀ sid session', b.sessions.lookup sid = some session' → session'.revokedAt ≠ none ∧
    ∃ session, a.sessions.lookup sid = some session ∧ session'.acceptedIn = session.acceptedIn ∧
      session'.mintedIn = session.mintedIn
  tokens : ∀ raw token', b.tokens.lookup raw = some token' →
    ∃ token, a.tokens.lookup raw = some token ∧ token'.kind = token.kind ∧
      ∀ now, token'.isLive now = true → token.isLive now = true
  factors : hasFactor b = hasFactor a
  window : ∀ env now, accessWindowOpen env b.user now = accessWindowOpen env a.user now

/-- The account with the new credential, before anything of the old one ends. -/
structure Rekeyed (a b : Account) : Prop where
  replaced : b.replaced = a.replaced + 1
  sessions : b.sessions = a.sessions
  tokens : b.tokens = a.tokens
  totp : b.totp = a.totp
  passkeys : b.passkeys = a.passkeys
  window : b.user.validFrom = a.user.validFrom ∧ b.user.validTo = a.user.validTo

variable {password : String}

theorem rekeyed_setPassword (h : setPassword env password a = .ok b) : Rekeyed a b := by
  obtain ⟨-, -, h⟩ := Result.of_bind h
  dsimp only at h
  split at h
  · cases h
  · cases h
    exact ⟨rfl, rfl, rfl, rfl, rfl, rfl, rfl⟩

theorem Rekeyed.activate {userId : Uuid} (h : Rekeyed a b) : Rekeyed a (activate userId b) := by
  unfold Auth.activate
  split
  · exact ⟨h.replaced, h.sessions, h.tokens, h.totp, h.passkeys, h.window⟩
  · exact h

variable {c : Account}

theorem Rekeyed.revoke {reason : String} (h : Rekeyed a b)
    (hsessions : c.sessions = (revokeAllForUser now reason b).sessions)
    (htokens : Narrows b { b with tokens := c.tokens }) (hreplaced : c.replaced = b.replaced)
    (hfactors : c.totp = b.totp ∧ c.passkeys = b.passkeys) (huser : c.user = b.user) :
    Replaced a c := by
  refine ⟨hreplaced.trans h.replaced, fun sid session' hs => ?_, fun raw token' ht => ?_, ?_, ?_⟩
  · rw [hsessions, revokeAllForUser, Table.lookup_updateAll, h.sessions] at hs
    obtain ⟨session, hsession, rfl⟩ := Option.map_eq_some_iff.mp hs
    refine ⟨?_, session, hsession, ?_⟩
    · split
      · simp
      · next hrevoked => exact hrevoked
    · split
      · exact ⟨rfl, rfl⟩
      · exact ⟨rfl, rfl⟩
  · obtain ⟨token, htoken, hkind, -, hlive⟩ := htokens.tokens raw token' ht
    exact ⟨token, h.tokens ▸ htoken, hkind, hlive⟩
  · simp only [hasFactor, hfactors.1, hfactors.2, h.totp, h.passkeys]
  · intro env t
    simp only [accessWindowOpen, huser, h.window.1, h.window.2]

theorem Replaced.of_consume (hconsume : consume now kind raw a = some b) (h : Replaced b c) :
    Replaced a c := by
  have hnarrows := narrows_consume hconsume
  obtain ⟨-, -, rfl⟩ := Option.map_eq_some_iff.mp hconsume
  refine ⟨h.replaced, h.sessions, fun raw' token' ht => ?_, h.factors, h.window⟩
  obtain ⟨token, htoken, hkind, hlive⟩ := h.tokens raw' token' ht
  obtain ⟨token₀, htoken₀, hkind₀, -, hlive₀⟩ := hnarrows.tokens raw' token htoken
  exact ⟨token₀, htoken₀, hkind.trans hkind₀, fun t ht => hlive₀ t (hlive t ht)⟩

variable {userId : Uuid}

theorem replaced_confirmPasswordReset
    (h : confirmPasswordReset env now userId raw password a = .ok b) : Replaced a b := by
  obtain ⟨consumed, set, hconsume, -, hset, rfl⟩ := confirmPasswordReset_eq_ok h
  refine Replaced.of_consume hconsume ?_
  exact ((rekeyed_setPassword hset).activate).revoke rfl
    (narrows_consumeAllForUser now [.invitation] _) rfl ⟨rfl, rfl⟩ rfl

theorem replaced_acceptInvitation (h : acceptInvitation env now userId raw password a = .ok b) :
    Replaced a b := by
  obtain ⟨consumed, set, hconsume, -, hset, rfl⟩ := acceptInvitation_eq_ok h
  refine Replaced.of_consume hconsume ?_
  exact ((rekeyed_setPassword hset).activate).revoke rfl
    (narrows_consumeAllForUser now [.passwordReset] _) rfl ⟨rfl, rfl⟩ rfl

theorem replaced_changeEmail (now : Time) (actorId : Uuid) (email : String) (a : Account) :
    Replaced a (Auth.changeEmail now actorId email a) := by
  have hmoved : Rekeyed a { a with
      user := { a.user with email := email, updatedBy := some actorId, version := a.user.version + 1 }
      replaced := a.replaced + 1 } := ⟨rfl, rfl, rfl, rfl, rfl, rfl, rfl⟩
  exact hmoved.revoke rfl (narrows_consumeAllForUser now [.invitation, .passwordReset] _) rfl
    ⟨rfl, rfl⟩ rfl

theorem Replaced.current (h : Replaced a b) (ha : Current now a) (hopen : NoOpenStep now a) :
    Current now b := by
  refine ⟨fun sid session' hs => ?_, fun sid session' hs hlive => ?_,
    fun raw token' ht hkind hlive => ?_⟩
  · obtain ⟨-, session, hsession, haccepted, hminted⟩ := h.sessions sid session' hs
    rw [haccepted, hminted]
    exact ha.matched sid session hsession
  · exact ((h.sessions sid session' hs).1 hlive).elim
  · obtain ⟨token, htoken, hkind', hlive'⟩ := h.tokens raw token' ht
    have hclosed := hopen raw token htoken (hkind' ▸ hkind)
    rw [hlive' now hlive] at hclosed
    cases hclosed

theorem Replaced.current_issue (h : Replaced a b) (ha : Current now a) (raw : Uuid) :
    Current now (Auth.issue now .mfaChallenge raw b) := by
  refine ⟨fun sid session' hs => ?_, fun sid session' hs hlive => ?_,
    fun raw' token ht hkind hlive => issue_challenges (a := b) ht hkind hlive⟩
  · obtain ⟨-, session, hsession, haccepted, hminted⟩ := h.sessions sid session' hs
    rw [haccepted, hminted]
    exact ha.matched sid session hsession
  · exact ((h.sessions sid session' hs).1 hlive).elim

theorem Current.run {taken : Bool} (h : Current now a)
    (hopen : replaces work = true → beginsStep env now a work = false → NoOpenStep now a)
    (hrun : work.run env now userId id taken a = .ok (b, events)) : Current now b := by
  cases work with
  | login | answer =>
    cases hrun
    exact h
  | reset raw password =>
    obtain ⟨c, hc, hb⟩ := Result.of_bind hrun
    cases hb
    exact (replaced_confirmPasswordReset hc).current h (hopen rfl rfl)
  | accept raw password =>
    obtain ⟨c, hc, hb⟩ := Result.of_bind hrun
    have hreplaced := replaced_acceptInvitation hc
    split at hb
    · next hwindow =>
      obtain ⟨⟨d, events'⟩, hd, hb⟩ := Result.of_bind hb
      cases hb
      by_cases hfactor : hasFactor a = true
      · -- the new challenge ends the open one
        rw [SignIn.passwordAccepted, if_pos (hreplaced.factors.trans hfactor)] at hd
        cases hd
        exact hreplaced.current_issue h id
      · refine (hreplaced.current h (hopen rfl ?_)).passwordAccepted hd
        simp [beginsStep, hfactor]
    · next hwindow =>
      cases hb
      refine hreplaced.current h (hopen rfl ?_)
      rw [hreplaced.window] at hwindow
      simp [beginsStep, hwindow]
  | requestReset email =>
    simp only [Work.run] at hrun
    split at hrun
    · cases hrun
      exact h
    · cases hrun
      exact h.issue .passwordReset id
  | invite =>
    cases hrun
    exact h.issue .invitation id
  | changeEmail actorId email =>
    simp only [Work.run] at hrun
    split at hrun
    · cases hrun
    · cases hrun
      exact (replaced_changeEmail now actorId email a).current h (hopen rfl rfl)

end

section Runs

variable {ι : Type} [DecidableEq ι] {env : Env}

def AllCurrent (sh : Shared ι) : Prop :=
  ∀ userId a, sh.accounts.lookup userId = some a → Current sh.now a

abbrev Ok (env : Env) (c : Config ι (Shared ι) Session) (a : ι × Choice) : Prop :=
  ClosesSteps env a.2 c.shared (c.locals a.1)

variable {sh : Shared ι}

omit [DecidableEq ι] in
theorem AllCurrent.insert (h : AllCurrent sh) {userId : Uuid} {b : Account} (hb : Current sh.now b) :
    ∀ id a, (sh.accounts.insert userId b).lookup id = some a → Current sh.now a :=
  Table.forall_insert hb h

theorem allCurrent_moves {i : ι} {sh' : Shared ι} {ch : Choice} {lo lo' : Session}
    (h : AllCurrent sh) (hknows : Knows env i sh lo) (hok : ClosesSteps env ch sh lo)
    (hmoves : Moves env i sh ch lo sh' lo') : AllCurrent sh' := by
  cases hmoves with
  | asked | found | locked | allowed | checked | refused | missing | raised | checkRaised
  | unfinished | failed => exact h
  | ended id userId work a a' hattempt hjudge =>
    obtain ⟨raw, given, -, hconsume⟩ := judge_ended hjudge
    exact h.insert ((h userId a hknows.2).narrows (narrows_consume hconsume))
  | ran id userId work a taken out hfresh hattempt hrun =>
    exact h.insert ((h userId a hknows.2).run (hok rfl) hrun)
  | finished id userId work draft time verdict out hfresh hfinish =>
    obtain ⟨-, -, a, judged, judgedAt, -, -, ha, hjudge, hcheck⟩ := hknows
    have hdraft := ((h userId a ha).narrows (narrows_judge hjudge)).narrows (narrows_check hcheck)
    exact h.insert (hdraft.finish hfinish)
  | tick now => exact fun userId a ha => (h userId a ha).later (le_max_left _ _)

/-- The history starts with the run: nothing has been replaced yet. -/
def Unreplaced (a : Account) : Prop :=
  a.replaced = 0 ∧
    (∀ sid session, a.sessions.lookup sid = some session →
      session.acceptedIn = 0 ∧ session.mintedIn = 0) ∧
    ∀ raw token, a.tokens.lookup raw = some token → token.acceptedIn = 0

variable {a : Account}

theorem Unreplaced.current (h : Unreplaced a) (now : Time) : Current now a := by
  obtain ⟨hreplaced, hsessions, htokens⟩ := h
  refine ⟨fun sid session hs => ?_, fun sid session hs _ => ?_, fun raw token ht _ _ => ?_⟩
  · obtain ⟨haccepted, hminted⟩ := hsessions sid session hs
    rw [haccepted, hminted]
  · rw [(hsessions sid session hs).2, hreplaced]
  · rw [htokens raw token ht, hreplaced]

theorem Current.signInsEnded {now : Time} (h : Current now a) : SignInsEnded a := by
  intro sid session hs
  refine ⟨h.matched sid session hs, fun hold t => ?_⟩
  cases hrevoked : session.revokedAt with
  | none =>
    have hminted := h.revoked sid session hs hrevoked
    omega
  | some revokedAt => simp [AuthSession.isLive, hrevoked]

/-- **A changed credential ends every sign-in begun with the old one.**  In every
run whose replacements of a password or an address find no MFA challenge open,
every session goes back to a password accepted after the last replacement
before it, and no session from before a replacement is live after it. -/
theorem changed_credential_ends (env : Env) (now : Time) (accounts : Table Uuid Account)
    (hstart : ∀ userId a, accounts.lookup userId = some a → Unreplaced a)
    (actions : List (ι × Choice))
    (hok : Run.Along (move (step env)) (Ok env) (opening now accounts) actions) : ∀ userId a,
      (actions.foldl (move (step env)) (opening now accounts)).shared.accounts.lookup userId = some a →
      SignInsEnded a := by
  have hstep : ∀ (c : Config ι (Shared ι) Session) (a : ι × Choice),
      (Holds Sound (Knows env) c ∧ AllCurrent c.shared) → Ok env c a →
      Holds Sound (Knows env) (move (step env) c a) ∧ AllCurrent (move (step env) c a).shared := by
    rintro c a ⟨hc, hcurrent⟩ ha
    refine ⟨move_holds hc, move_shared hcurrent fun sh' lo' h => ?_⟩
    exact allCurrent_moves hcurrent (hc.2 a.1) ha (moves_of_step h)
  have hfirst : AllCurrent (opening now accounts : Config ι (Shared ι) Session).shared :=
    fun userId a ha => (hstart userId a ha).current now
  have hend := (Run.invariant_along hstep ⟨opening_holds env now accounts, hfirst⟩ hok).2
  exact fun userId a ha => (hend userId a ha).signInsEnded

end Runs

instance (now : Time) (a : Account) : Decidable (NoOpenStep now a) :=
  decidable_of_iff (∀ e ∈ a.tokens.entries, e.2.kind = .mfaChallenge → e.2.isLive now = false) <| by
    rw [NoOpenStep, Table.forall_lookup]

instance {ι : Type} (env : Env) (sh : Shared ι) : ∀ ch lo, Decidable (ClosesSteps env ch sh lo)
  | .go _, .locked _ work a => inferInstanceAs (Decidable (true = true → replaces work = true →
      beginsStep env sh.now a work = false → NoOpenStep sh.now a))
  | .request _, .locked .. | .fail, .locked .. | .tick _, .locked .. => .isTrue nofun
  | _, .idle | _, .started .. | _, .waiting .. | _, .judged .. | _, .decided .. =>
    inferInstanceAs (Decidable True)

theorem oneAccount_unreplaced (userId : Uuid) (a : Account)
    (ha : oneAccount.lookup userId = some a) : Unreplaced a := by
  rcases Table.lookup_insert_cases ha with ⟨-, rfl⟩ | ⟨-, hold⟩
  · exact ⟨rfl, fun sid session hs => (by cases hs), fun raw token ht => (by cases ht)⟩
  · cases hold

/-- A sign-in with both steps, a reset, and a sign-in with the new password. -/
def resetBetween : List (ℕ × Choice) :=
  served 0 (.login "a@b.ch" "old") 100 5 ++ served 1 (.answer 104 (.code "282760")) 110 5 ++
    served 0 (.requestReset "a@b.ch") 120 3 ++ served 0 (.reset 122 "new") 130 3 ++
    (0, .tick (minutes 1)) :: served 0 (.login "a@b.ch" "new") 140 5 ++
    served 1 (.answer 144 (.code "602287")) 150 5

theorem changed_credential_ends_resetBetween :
    ((resetBetween.foldl (move (step oneAuthenticator)) (opening 0 oneAccount)).shared.accounts.lookup
      1).map (fun a => a.sessions.entries.map fun e => (e.1, e.2.mintedIn, e.2.revokedAt)) =
        some [(154, 1, none), (114, 0, some 0)] ∧ ∀ userId a,
      (resetBetween.foldl (move (step oneAuthenticator)) (opening 0 oneAccount)).shared.accounts.lookup
        userId = some a → SignInsEnded a := by
  have hok : Run.Along (move (step oneAuthenticator)) (Ok oneAuthenticator) (opening 0 oneAccount)
      resetBetween := by decide +kernel
  exact ⟨by decide +kernel, changed_credential_ends oneAuthenticator 0 oneAccount
    oneAccount_unreplaced resetBetween hok⟩

/-- The password is reset while a sign-in is at its MFA step. -/
def resetDuringStep : List (ℕ × Choice) :=
  served 0 (.login "a@b.ch" "old") 100 5 ++ served 1 (.requestReset "a@b.ch") 120 3 ++
    served 1 (.reset 122 "new") 130 3 ++ served 0 (.answer 104 (.code "282760")) 140 5

/-- The challenge issued on the old password mints a session after the reset. -/
theorem resetDuringStep_survives : ¬ ∀ (env : Env) (now : Time) (accounts : Table Uuid Account),
      (∀ userId a, accounts.lookup userId = some a → Unreplaced a) →
      ∀ (actions : List (ℕ × Choice)) (userId : Uuid) (a : Account),
        (actions.foldl (move (step env)) (opening now accounts)).shared.accounts.lookup userId = some a →
        SignInsEnded a := by
  intro h
  have hminted : ∃ a, (resetDuringStep.foldl (move (step oneAuthenticator))
      (opening 0 oneAccount)).shared.accounts.lookup 1 = some a ∧
        (a.sessions.lookup 144).map (fun s => (s.acceptedIn, s.mintedIn)) = some (0, 1) :=
    Option.map_eq_some_iff.mp (by decide +kernel)
  obtain ⟨a, ha, hsession⟩ := hminted
  obtain ⟨session, hsession, hboth⟩ := Option.map_eq_some_iff.mp hsession
  have hended :=
      (h oneAuthenticator 0 oneAccount oneAccount_unreplaced resetDuringStep 1 a ha 144 session hsession).1
  obtain ⟨haccepted, hminted⟩ := Prod.mk.inj hboth
  omega

end Nexotec.CredentialChange
