/-
The second step of a sign-in (`app/platform/api/auth.py`, `mfa.py`, `auth_tokens.py`).

An answer is counted on its challenge before it is checked, an accepted TOTP
step or recovery code is marked, and the challenge is spent — all in the
transaction that mints the session.  When the mint or the spending raises,
the count and the mark are rolled back with it.
-/
import Nexotec.Platform.SignInRule

namespace Nexotec.SecondFactor

open Platform Auth SignIn Locks Interleaving

/-! ### The property and the condition -/

/-- The answers that were accepted, each with its challenge, the newest first. -/
def accepted (h : List Event) : List (Uuid × Factor) :=
  h.filterMap fun
    | .checked (some raw) _ _ (some factor) => some (raw, factor)
    | .checked .. | .completed .. | .passwordSet => none

def minted (h : List Event) : List (Uuid × Factor) :=
  h.filterMap fun
    | .completed (some raw) factor => some (raw, factor)
    | .checked .. | .completed .. | .passwordSet => none

def checks (raw : Uuid) (h : List Event) : ℕ :=
  h.countP fun
    | .checked challenge .. => challenge = some raw
    | .completed .. | .passwordSet => false

def Factor.step : Factor → Option ℤ
  | .totp step => some step
  | .password | .recoveryCode _ | .passkey _ => none

def Factor.code : Factor → Option Uuid
  | .recoveryCode id => some id
  | .password | .totp _ | .passkey _ => none

def steps (h : List Event) : List ℤ := (accepted h).filterMap fun answer => Factor.step answer.2

def codes (h : List Event) : List Uuid := (accepted h).filterMap fun answer => Factor.code answer.2

def lastStep (a : Option Account) : Option ℤ := (a.bind (·.totp)).bind (·.lastUsedStep)

/-- Second factors are single-use; `last` is the last step accepted before the
history begins. -/
structure SingleUse (last : Option ℤ) (h : List Event) : Prop where
  /-- Every accepted step is later than all steps accepted before it. -/
  stepsRise : (steps h ++ last.toList).Pairwise (· > ·)
  codesOnce : (codes h).Nodup
  challengesOnce : ((accepted h).map (·.1)).Nodup
  /-- Every session of a second step stands on an accepted answer of its own. -/
  mintedOnce : (minted h).Sublist (accepted h)
  checksLimited : ∀ raw, checks raw h ≤ mfaMaxAttempts

/-- **The condition on a step**: an answer that was checked is not rolled back.
It does not fail, and when it was right the challenge has not expired since, the
user is active and the access window is open. -/
def Settles (env : Env) (now : Time) : Choice → Session → Prop
  | .fail, .decided _ (.answer ..) _ _ _ => False
  | .go _, .decided _ (.answer raw _) draft _ (some _) =>
    (peek now .mfaChallenge raw draft).isSome ∧ isInactive draft.user.status = false ∧
      accessWindowOpen env draft.user now = true
  | _, _ => True

/-! ### What is spent stays spent -/

/-- Everything spent in `a` is spent in `b`; a token of `b` is one of `a` or has
the id `newId`. -/
structure Spends (newId : Option Uuid) (a b : Account) : Prop where
  tokens : ∀ raw token, a.tokens.lookup raw = some token →
    ∃ token', b.tokens.lookup raw = some token' ∧ token.attempts ≤ token'.attempts ∧
      (token.consumedAt ≠ none → token'.consumedAt ≠ none)
  drawn : ∀ raw token, b.tokens.lookup raw = some token →
    a.tokens.lookup raw ≠ none ∨ newId = some raw
  steps : ∀ step ∈ lastStep (some a), ∃ step' ∈ lastStep (some b), step ≤ step'
  codes : ∀ id row, a.recoveryCodes.lookup id = some row → row.usedAt ≠ none →
    ∃ row', b.recoveryCodes.lookup id = some row' ∧ row'.usedAt ≠ none

section

variable {newId : Option Uuid} {a b c : Account} {now : Time} {raw : Uuid}

theorem Spends.of_eq (htokens : b.tokens = a.tokens) (htotp : b.totp = a.totp)
    (hcodes : b.recoveryCodes = a.recoveryCodes) : Spends newId a b := by
  refine ⟨fun raw token h => ?_, fun raw token h => ?_, fun step h => ?_, fun id row h hused => ?_⟩
  · exact ⟨token, htokens ▸ h, le_rfl, id⟩
  · exact .inl (htokens ▸ h ▸ Option.some_ne_none token)
  · refine ⟨step, ?_, le_rfl⟩
    simpa [lastStep, htotp] using h
  · exact ⟨row, hcodes ▸ h, hused⟩

theorem Spends.refl : Spends newId a a := .of_eq rfl rfl rfl

theorem Spends.trans (h : Spends newId a b) (h' : Spends newId b c) : Spends newId a c := by
  refine ⟨fun raw token ht => ?_, fun raw token ht => ?_, fun step hs => ?_, fun id row hr hused => ?_⟩
  · obtain ⟨token', ht', hle', hconsumed'⟩ := h.tokens raw token ht
    obtain ⟨token'', ht'', hle'', hconsumed''⟩ := h'.tokens raw token' ht'
    exact ⟨token'', ht'', hle'.trans hle'', fun hc => hconsumed'' (hconsumed' hc)⟩
  · rcases h'.drawn raw token ht with hold | hnew
    · obtain ⟨token', ht'⟩ := Option.ne_none_iff_exists'.mp hold
      exact h.drawn raw token' ht'
    · exact .inr hnew
  · obtain ⟨step', hs', hle'⟩ := h.steps step hs
    obtain ⟨step'', hs'', hle''⟩ := h'.steps step' hs'
    exact ⟨step'', hs'', hle'.trans hle''⟩
  · obtain ⟨row', hr', hused'⟩ := h.codes id row hr hused
    exact h'.codes id row' hr' hused'

theorem Spends.of_tokens {tokens : Table Uuid AuthToken}
    (h : ∀ raw, ∃ f : AuthToken → AuthToken, tokens.lookup raw = (a.tokens.lookup raw).map f ∧
      ∀ token, token.attempts ≤ (f token).attempts ∧
        (token.consumedAt ≠ none → (f token).consumedAt ≠ none)) :
    Spends newId a { a with tokens := tokens } := by
  refine ⟨fun raw token ht => ?_, fun raw token ht => .inl ?_, fun step hs => ⟨step, hs, le_rfl⟩,
    fun id row hr hused => ⟨row, hr, hused⟩⟩
  · obtain ⟨f, hf, hspent⟩ := h raw
    exact ⟨f token, by rw [hf, ht]; rfl, hspent token⟩
  · obtain ⟨f, hf, -⟩ := h raw
    intro hnone
    rw [hf, hnone] at ht
    cases ht

theorem spends_modify {f : AuthToken → AuthToken} (hf : ∀ token, token.attempts ≤ (f token).attempts ∧
    (token.consumedAt ≠ none → (f token).consumedAt ≠ none)) :
    Spends newId a { a with tokens := a.tokens.modify raw f } := by
  refine .of_tokens fun raw' => ?_
  rw [Table.lookup_modify]
  split
  · exact ⟨f, by simp_all, hf⟩
  · exact ⟨id, by simp, fun token => ⟨le_rfl, id⟩⟩

variable {kind : AuthTokenKind}

theorem spends_consume (h : consume now kind raw a = some b) : Spends newId a b := by
  obtain ⟨-, -, rfl⟩ := Option.map_eq_some_iff.mp h
  exact spends_modify fun token => ⟨le_rfl, fun _ => Option.some_ne_none _⟩

theorem spends_claimAttempt {limit : ℕ} (h : claimAttempt raw limit a = some b) :
    Spends newId a b := by
  obtain ⟨-, -, rfl⟩ := Option.map_eq_some_iff.mp h
  exact spends_modify fun token => ⟨Nat.le_succ _, id⟩

theorem spends_consumeAllForUser (kinds : List AuthTokenKind) :
    Spends newId a (consumeAllForUser now kinds a) := by
  refine .of_tokens fun raw => ⟨_, Table.lookup_updateAll .., fun token => ?_⟩
  split
  · exact ⟨le_rfl, fun _ => Option.some_ne_none _⟩
  · exact ⟨le_rfl, id⟩

theorem spends_issue (hfresh : a.tokens.lookup raw = none) :
    Spends (some raw) a (issue now kind raw a) := by
  have hended : Spends (some raw) a (consumeAllForUser now [kind] a) := spends_consumeAllForUser [kind]
  refine ⟨fun raw' token ht => ?_, fun raw' token ht => ?_, hended.steps, hended.codes⟩
  · obtain ⟨token', ht', hspent⟩ := hended.tokens raw' token ht
    refine ⟨token', ?_, hspent⟩
    have hne : raw' ≠ raw := by
      rintro rfl
      rw [hfresh] at ht
      cases ht
    exact (AList.lookup_insert_ne hne).trans ht'
  · rcases Table.lookup_insert_cases ht with ⟨rfl, -⟩ | ⟨-, hold⟩
    · exact .inr rfl
    · exact hended.drawn raw' token hold

theorem spends_accepts {factor : Factor} (h : Accepts now a factor b) : Spends newId a b := by
  cases h with
  | totp row step hrow hlater =>
    refine ⟨fun raw token ht => ⟨token, ht, le_rfl, id⟩, fun raw token ht => .inl ?_, fun last hlast => ?_,
      fun id row hr hused => ⟨row, hr, hused⟩⟩
    · exact ht ▸ Option.some_ne_none token
    · refine ⟨step, rfl, (hlater last ?_).le⟩
      simpa [lastStep, hrow] using hlast
  | recoveryCode id row hrow hunused =>
    refine ⟨fun raw token ht => ⟨token, ht, le_rfl, fun hc => hc⟩, fun raw token ht => .inl ?_,
      fun last hlast => ⟨last, hlast, le_rfl⟩, fun id' row' hr hused => ?_⟩
    · exact ht ▸ Option.some_ne_none token
    · by_cases hid : id' = id
      · subst hid
        exact ⟨_, (Table.lookup_modify ..).trans ((if_pos rfl).trans (by rw [hr]; rfl)),
          Option.some_ne_none _⟩
      · exact ⟨row', (Table.lookup_modify ..).trans ((if_neg hid).trans hr), hused⟩
  | passkey => exact .refl

end

section Services

variable {env : Env} {now : Time} {userId id : Uuid} {work : Work} {a b : Account}
  {newId : Option Uuid} {events : List Event} {password : String}

theorem spends_setPassword (h : setPassword env password a = .ok b) : Spends newId a b := by
  obtain ⟨-, -, h⟩ := Result.of_bind h
  dsimp only at h
  split at h
  · cases h
  · cases h
    exact .of_eq rfl rfl rfl

theorem spends_activate : Spends newId a (activate userId a) := by
  unfold activate
  split
  · exact .of_eq rfl rfl rfl
  · exact .refl

variable {raw : Uuid}

theorem spends_confirmPasswordReset (h : confirmPasswordReset env now userId raw password a = .ok b) :
    Spends newId a b := by
  obtain ⟨consumed, set, hconsume, -, hset, rfl⟩ := confirmPasswordReset_eq_ok h
  have hactive : Spends newId a (activate userId set) :=
    ((spends_consume hconsume).trans (spends_setPassword hset)).trans spends_activate
  exact (hactive.trans (spends_consumeAllForUser _)).trans (.of_eq rfl rfl rfl)

theorem spends_acceptInvitation (h : acceptInvitation env now userId raw password a = .ok b) :
    Spends newId a b := by
  obtain ⟨consumed, set, hconsume, -, hset, rfl⟩ := acceptInvitation_eq_ok h
  have hactive : Spends newId a (activate userId set) :=
    ((spends_consume hconsume).trans (spends_setPassword hset)).trans spends_activate
  have hrevoked : Spends newId a (revokeAllForUser now "invitation" (activate userId set)) :=
    hactive.trans (.of_eq rfl rfl rfl)
  exact hrevoked.trans (spends_consumeAllForUser _)

theorem spends_finishLogin {sid : Uuid} {factor : Factor} {acceptedIn : ℕ}
    (h : finishLogin env now sid factor acceptedIn a = .ok b) : Spends newId a b := by
  obtain ⟨minted, hmint, hb⟩ := Result.of_bind h
  cases hb
  unfold mintSession at hmint
  split at hmint
  · cases hmint
  · cases hmint
    exact .of_eq rfl rfl rfl

theorem spends_passwordAccepted (hfresh : a.tokens.lookup id = none)
    (h : passwordAccepted env now id a = .ok (b, events)) :
    Spends (some id) a b ∧ (events = [] ∨ events = [.completed none .password]) := by
  unfold passwordAccepted at h
  split at h
  · cases h
    exact ⟨spends_issue hfresh, .inl rfl⟩
  · obtain ⟨minted, hmint, hb⟩ := Result.of_bind h
    cases hb
    exact ⟨spends_finishLogin hmint, .inr rfl⟩

def Quiet : Event → Prop
  | .checked none .. | .completed none _ | .passwordSet => True
  | .checked (some _) .. | .completed (some _) _ => False

theorem Spends.fresh (h : Spends none a b) (hfresh : a.tokens.lookup id = none) :
    b.tokens.lookup id = none := by
  by_contra hsome
  obtain ⟨token, ht⟩ := Option.ne_none_iff_exists'.mp hsome
  rcases h.drawn id token ht with hold | hnew
  · exact hold hfresh
  · cases hnew

theorem spends_run {taken : Bool} (hfresh : a.tokens.lookup id = none)
    (h : work.run env now userId id taken a = .ok (b, events)) :
    Spends (some id) a b ∧ ∀ e ∈ events, Quiet e := by
  cases work with
  | login | answer =>
    cases h
    exact ⟨.refl, nofun⟩
  | reset raw password =>
    obtain ⟨c, hc, hb⟩ := Result.of_bind h
    cases hb
    exact ⟨spends_confirmPasswordReset hc, by simp [Quiet]⟩
  | accept raw password =>
    obtain ⟨c, hc, hb⟩ := Result.of_bind h
    have hset : ∀ newId, Spends newId a c := fun _ => spends_acceptInvitation hc
    split at hb
    · obtain ⟨⟨d, events'⟩, hd, hb⟩ := Result.of_bind hb
      cases hb
      obtain ⟨hspends, rfl | rfl⟩ := spends_passwordAccepted ((hset none).fresh hfresh) hd
      · exact ⟨(hset _).trans hspends, by simp [Quiet]⟩
      · exact ⟨(hset _).trans hspends, by simp [Quiet]⟩
    · cases hb
      exact ⟨hset _, by simp [Quiet]⟩
  | requestReset email =>
    simp only [Work.run] at h
    split at h
    · cases h
      exact ⟨.refl, nofun⟩
    · cases h
      exact ⟨spends_issue hfresh, nofun⟩
  | invite =>
    cases h
    exact ⟨spends_issue hfresh, nofun⟩
  | changeEmail actorId email =>
    simp only [Work.run] at h
    split at h
    · cases h
    · cases h
      have hended : Spends (some id) a (consumeAllForUser now [.invitation, .passwordReset] a) :=
        spends_consumeAllForUser _
      exact ⟨hended.trans (.of_eq rfl rfl rfl), nofun⟩

end Services

section History

variable {last : Option ℤ} {h events : List Event} {raw raw' : Uuid} {time : Time} {factor : Factor}

theorem accepted_wrong (challenge : Option Uuid) :
    accepted (.checked challenge began time none :: h) = accepted h := by
  cases challenge <;> rfl

theorem checks_checked (challenge : Option Uuid) (verdict : Option Factor) :
    checks raw (.checked challenge began time verdict :: h) =
      checks raw h + if challenge = some raw then 1 else 0 := by
  simp [checks, List.countP_cons]

theorem quiet_append (hquiet : ∀ e ∈ events, Quiet e) (h : List Event) :
    accepted (events ++ h) = accepted h ∧ minted (events ++ h) = minted h ∧
      ∀ raw, checks raw (events ++ h) = checks raw h := by
  induction events with
  | nil => exact ⟨rfl, rfl, fun _ => rfl⟩
  | cons e events ih =>
    obtain ⟨haccepted, hminted, hchecks⟩ := ih fun e' he' => hquiet e' (List.mem_cons_of_mem _ he')
    match e, hquiet e List.mem_cons_self with
    | .checked none .., _ => exact ⟨haccepted, hminted, fun raw => by simp [checks_checked, hchecks]⟩
    | .completed none _, _ => exact ⟨haccepted, hminted, hchecks⟩
    | .passwordSet, _ => exact ⟨haccepted, hminted, hchecks⟩

variable {h' : List Event}

theorem SingleUse.of_eq (hsingle : SingleUse last h) (haccepted : accepted h' = accepted h)
    (hminted : minted h' = minted h) (hchecks : ∀ raw, checks raw h' = checks raw h) :
    SingleUse last h' := by
  obtain ⟨hsteps, hcodes, hchallenges, hsub, hlimit⟩ := hsingle
  refine ⟨?_, ?_, ?_, ?_, fun raw => (hchecks raw).trans_le (hlimit raw)⟩
  · rw [steps, haccepted]
    exact hsteps
  · rw [codes, haccepted]
    exact hcodes
  · rw [haccepted]
    exact hchallenges
  · rw [haccepted, hminted]
    exact hsub

/-- What the history has used up is used up in the account. -/
structure Spent (last : Option ℤ) (h : List Event) (a : Account) : Prop where
  attempts : ∀ raw, checks raw h ≤ ((a.tokens.lookup raw).map (·.attempts)).getD 0
  stepsUsed : ∀ step ∈ steps h ++ last.toList, ∃ step' ∈ lastStep (some a), step ≤ step'
  codesUsed : ∀ id ∈ codes h, ∃ row, a.recoveryCodes.lookup id = some row ∧ row.usedAt ≠ none

def Closed (h : List Event) (a : Account) : Prop :=
  ∀ answer ∈ accepted h, ∃ token, a.tokens.lookup answer.1 = some token ∧ token.consumedAt ≠ none

variable {newId : Option Uuid} {a b : Account}

theorem Spent.of_eq (hspent : Spent last h a) (haccepted : accepted h' = accepted h)
    (hchecks : ∀ raw, checks raw h' = checks raw h) : Spent last h' a := by
  refine ⟨fun raw => (hchecks raw).trans_le (hspent.attempts raw), ?_, ?_⟩
  · rw [steps, haccepted]
    exact hspent.stepsUsed
  · rw [codes, haccepted]
    exact hspent.codesUsed

theorem Spent.spends (hspent : Spent last h a) (hspends : Spends newId a b) : Spent last h b := by
  refine ⟨fun raw => ?_, fun step hstep => ?_, fun id hid => ?_⟩
  · have hattempts := hspent.attempts raw
    cases ht : a.tokens.lookup raw with
    | none =>
      rw [ht] at hattempts
      exact hattempts.trans (Nat.zero_le _)
    | some token =>
      obtain ⟨token', ht', hle, -⟩ := hspends.tokens raw token ht
      rw [ht] at hattempts
      rw [ht']
      exact hattempts.trans hle
  · obtain ⟨step', hstep', hle⟩ := hspent.stepsUsed step hstep
    obtain ⟨step'', hstep'', hle'⟩ := hspends.steps step' hstep'
    exact ⟨step'', hstep'', hle.trans hle'⟩
  · obtain ⟨row, hrow, hused⟩ := hspent.codesUsed id hid
    exact hspends.codes id row hrow hused

theorem Closed.spends (hclosed : Closed h a) (hspends : Spends newId a b) : Closed h b := by
  intro answer hanswer
  obtain ⟨token, ht, hconsumed⟩ := hclosed answer hanswer
  obtain ⟨token', ht', -, hconsumed'⟩ := hspends.tokens answer.1 token ht
  exact ⟨token', ht', hconsumed' hconsumed⟩

/-- The answer that is about to be checked has been counted on its challenge. -/
def Claimed (h : List Event) (raw : Uuid) (a : Account) : Prop :=
  ∃ token, a.tokens.lookup raw = some token ∧ token.consumedAt = none ∧
    checks raw h + 1 ≤ token.attempts ∧ token.attempts ≤ mfaMaxAttempts

theorem claimed_claimAttempt (hspent : Spent last h a)
    (hclaim : claimAttempt raw mfaMaxAttempts a = some b) : Claimed h raw b := by
  obtain ⟨token, htoken, rfl⟩ := Option.map_eq_some_iff.mp hclaim
  obtain ⟨ht, hopen⟩ := Option.filter_eq_some_iff.mp htoken
  simp only [Bool.and_eq_true, decide_eq_true_eq, Option.isNone_iff_eq_none] at hopen
  have hattempts := hspent.attempts raw
  rw [ht] at hattempts
  refine ⟨{ token with attempts := token.attempts + 1 }, ?_, hopen.1.2, Nat.succ_le_succ hattempts,
    hopen.2⟩
  rw [Table.lookup_modify_self, ht]
  rfl

theorem SingleUse.limit (hsingle : SingleUse last h) (hclaimed : Claimed h raw a)
    (verdict : Option Factor) :
    ∀ raw', checks raw' (.checked (some raw) began time verdict :: h) ≤ mfaMaxAttempts := by
  intro raw'
  rw [checks_checked]
  split
  · next hraw =>
    cases hraw
    obtain ⟨token, -, -, hcounted, hlimit⟩ := hclaimed
    exact hcounted.trans hlimit
  · exact hsingle.checksLimited raw'

theorem Spent.counted (hspent : Spent last h a) (hclaimed : Claimed h raw a)
    (verdict : Option Factor) (raw' : Uuid) : checks raw' (.checked (some raw) began time verdict :: h) ≤
      ((a.tokens.lookup raw').map (·.attempts)).getD 0 := by
  rw [checks_checked]
  split
  · next hraw =>
    cases hraw
    obtain ⟨token, ht, -, hcounted, -⟩ := hclaimed
    rw [ht]
    exact hcounted
  · exact hspent.attempts raw'

end History

section Check

variable {last : Option ℤ} {h : List Event} {raw : Uuid} {time now : Time} {factor : Factor}
  {a b : Account}

theorem single_wrong (hsingle : SingleUse last h) (hclaimed : Claimed h raw a) :
    SingleUse last (.checked (some raw) began time none :: h) :=
  ⟨hsingle.stepsRise, hsingle.codesOnce, hsingle.challengesOnce, hsingle.mintedOnce,
    hsingle.limit hclaimed none⟩

theorem spent_wrong (hspent : Spent last h a) (hclaimed : Claimed h raw a) :
    Spent last (.checked (some raw) began time none :: h) a :=
  ⟨hspent.counted hclaimed none, hspent.stepsUsed, hspent.codesUsed⟩

theorem single_right (hsingle : SingleUse last h) (hspent : Spent last h a) (hclosed : Closed h a)
    (hclaimed : Claimed h raw a) (haccepts : Accepts now a factor b) :
    SingleUse last (.checked (some raw) began time (some factor) :: h) := by
  refine ⟨?_, ?_, ?_, hsingle.mintedOnce.cons _, hsingle.limit hclaimed _⟩
  · cases haccepts with
    | totp row step hrow hlater =>
      refine List.pairwise_cons.mpr ⟨fun earlier hearlier => ?_, hsingle.stepsRise⟩
      obtain ⟨used, hused, hle⟩ := hspent.stepsUsed earlier hearlier
      exact hle.trans_lt (hlater used (by simpa [lastStep, hrow] using hused))
    | recoveryCode | passkey => exact hsingle.stepsRise
  · cases haccepts with
    | recoveryCode id row hrow hunused =>
      refine List.nodup_cons.mpr ⟨fun hused => ?_, hsingle.codesOnce⟩
      obtain ⟨row', hrow', hused'⟩ := hspent.codesUsed id hused
      obtain rfl : row' = row := Option.mem_unique hrow' hrow
      exact hused' hunused
    | totp | passkey => exact hsingle.codesOnce
  · refine List.nodup_cons.mpr ⟨fun hbefore => ?_, hsingle.challengesOnce⟩
    obtain ⟨answer, hanswer, hraw⟩ := List.mem_map.mp hbefore
    obtain ⟨token, ht, hconsumed⟩ := hclosed answer hanswer
    obtain ⟨token', ht', hopen, -⟩ := hclaimed
    rw [hraw] at ht
    obtain rfl : token = token' := Option.mem_unique ht ht'
    exact hconsumed hopen

theorem spent_right (hspent : Spent last h a) (hclaimed : Claimed h raw a)
    (haccepts : Accepts now a factor b) :
    Spent last (.checked (some raw) began time (some factor) :: h) b := by
  have hspends : Spends none a b := spends_accepts haccepts
  have hafter := hspent.spends hspends
  have htokens : b.tokens = a.tokens := by cases haccepts <;> rfl
  refine ⟨fun raw' => htokens ▸ hspent.counted hclaimed (some factor) raw', ?_, ?_⟩
  · cases haccepts with
    | totp row step hrow hlater =>
      exact List.forall_mem_cons.mpr ⟨⟨_, rfl, le_rfl⟩, hafter.stepsUsed⟩
    | recoveryCode | passkey => exact hafter.stepsUsed
  · cases haccepts with
    | recoveryCode id row hrow hunused =>
      rintro id' hid'
      rcases List.mem_cons.mp hid' with rfl | hbefore
      · refine ⟨{ row with usedAt := some now }, ?_, Option.some_ne_none _⟩
        rw [Table.lookup_modify_self, hrow]
        rfl
      · exact hafter.codesUsed id' hbefore
    | totp | passkey => exact hafter.codesUsed

end Check

section Assertions

variable (start : Table Uuid Account)

def Drawn (drawn : List Uuid) (a : Account) : Prop :=
  ∀ raw token, a.tokens.lookup raw = some token → raw ∈ drawn

/-- Between two requests. -/
structure Kept (v : View) : Prop where
  single : SingleUse (lastStep (start.lookup v.userId)) v.history
  spent : Spent (lastStep (start.lookup v.userId)) v.history v.account
  closed : Closed v.history v.account
  drawn : Drawn v.drawn v.account

/-- The answer has been counted. -/
structure Counted (v : View) (work : Work) (draft : Account) : Prop extends Kept start v where
  spends : Spends none v.account draft
  claimed : ∀ raw, work.challenge = some raw → Claimed v.history raw draft

/-- The check is the newest event; its challenge may still be open. -/
structure Checked (v : View) (work : Work) (draft : Account) (time : Time)
    (verdict : Option Factor) : Prop where
  single : SingleUse (lastStep (start.lookup v.userId)) v.history
  spent : Spent (lastStep (start.lookup v.userId)) v.history draft
  drawn : Drawn v.drawn draft
  past : ∃ h, v.history = work.checked time verdict :: h ∧
    (minted h).Sublist (accepted h) ∧ Closed h draft
  /-- A password says nothing about a second step. -/
  login : work.challenge = none → Kept start v

def singleUse : Assertions where
  free := Kept start
  judged := Counted start
  decided := Checked start

variable {start} {env : Env} {v : View} {work : Work} {draft draft' b : Account} {id : Uuid}
  {events : List Event} {drawn : List Uuid} {a : Account}

theorem Drawn.spends {newId : Option Uuid} (h : Drawn drawn a) (hspends : Spends newId a b) :
    Drawn (newId.toList ++ drawn) b := by
  intro raw token ht
  rcases hspends.drawn raw token ht with hold | rfl
  · obtain ⟨token', ht'⟩ := Option.ne_none_iff_exists'.mp hold
    exact List.mem_append_right _ (h raw token' ht')
  · exact List.mem_cons_self

theorem Drawn.fresh (h : Drawn drawn a) (hfresh : id ∉ drawn) : a.tokens.lookup id = none := by
  by_contra hsome
  obtain ⟨token, ht⟩ := Option.ne_none_iff_exists'.mp hsome
  exact hfresh (h id token ht)

theorem Drawn.later {drawn' : List Uuid} (h : Drawn drawn a) (hsub : drawn ⊆ drawn') :
    Drawn drawn' a :=
  fun raw token ht => hsub (h raw token ht)

variable {now : Time}

theorem Kept.later (h : Kept start v) (hsub : v.drawn ⊆ drawn) :
    Kept start { v with now := now, drawn := drawn } :=
  ⟨h.single, h.spent, h.closed, h.drawn.later hsub⟩

theorem Kept.quiet (h : Kept start v) (hspends : Spends (some id) v.account b)
    (hquiet : ∀ e ∈ events, Quiet e) :
    Kept start { v with drawn := id :: v.drawn, history := events ++ v.history, account := b } := by
  obtain ⟨haccepted, hminted, hchecks⟩ := quiet_append hquiet v.history
  refine ⟨h.single.of_eq haccepted hminted hchecks,
    (h.spent.of_eq haccepted hchecks).spends hspends, ?_, h.drawn.spends hspends⟩
  change Closed (events ++ v.history) b
  rw [Closed, haccepted]
  exact h.closed.spends hspends

theorem spends_judge (h : work.judge env now a = .allowed b) : Spends none a b := by
  rcases (judge_allowed h).2 with ⟨-, -, rfl⟩ | ⟨raw, given, -, hclaimed⟩
  · exact .refl
  · exact spends_claimAttempt hclaimed

theorem Kept.allowed (h : Kept start v) (hjudge : work.judge env v.now v.account = .allowed draft) :
    Counted start v work draft := by
  refine ⟨h, spends_judge hjudge, fun raw hchallenge => ?_⟩
  rcases (judge_allowed hjudge).2 with ⟨hnone, -, -⟩ | ⟨raw', given, rfl, hclaimed⟩
  · rw [hnone] at hchallenge
    cases hchallenge
  · cases hchallenge
    exact claimed_claimAttempt h.spent hclaimed

variable {verdict : Option Factor}

theorem Counted.checked (h : Counted start v work draft) (hattempt : work.isAttempt = true)
    (hcheck : work.check env v.now draft = .ok (verdict, draft')) :
    Checked start { v with history := work.checked v.now verdict :: v.history } work draft'
      v.now verdict := by
  have hspent := h.spent.spends h.spends
  have hclosed := h.closed.spends h.spends
  have hdrawn : Drawn v.drawn draft := h.drawn.spends h.spends
  cases work with
  | login started password =>
    obtain rfl : draft' = draft := by
      rcases check_cases hcheck with ⟨-, rfl⟩ | ⟨-, rfl, -⟩ | ⟨raw, given, factor, hwork, -⟩
      · rfl
      · rfl
      · cases hwork
    have hquiet : ∀ e ∈ [Event.checked none started v.now verdict], Quiet e := by simp [Quiet]
    obtain ⟨haccepted, hminted, hchecks⟩ := quiet_append hquiet v.history
    have hsingle := h.single.of_eq haccepted hminted hchecks
    exact ⟨hsingle, hspent.of_eq haccepted hchecks, hdrawn,
      ⟨v.history, rfl, h.single.mintedOnce, hclosed⟩,
      fun _ => ⟨hsingle, h.spent.of_eq haccepted hchecks, h.closed, h.drawn⟩⟩
  | answer raw given =>
    have hclaimed := h.claimed raw rfl
    rcases check_cases hcheck with ⟨rfl, rfl⟩ | ⟨-, -, -, hnone⟩ | ⟨_, _, factor, -, rfl, haccepts⟩
    · exact ⟨single_wrong h.single hclaimed, spent_wrong hspent hclaimed, hdrawn,
        ⟨v.history, rfl, h.single.mintedOnce, hclosed⟩, nofun⟩
    · cases hnone
    · have hspends : Spends none draft draft' := spends_accepts haccepts
      exact ⟨single_right h.single hspent hclosed hclaimed haccepts,
        spent_right hspent hclaimed haccepts, hdrawn.spends hspends,
        ⟨v.history, rfl, h.single.mintedOnce, hclosed.spends hspends⟩, nofun⟩
  | reset | accept | requestReset | invite | changeEmail => cases hattempt

variable {time : Time}

theorem Checked.finished_quiet (h : Checked start v work draft time verdict)
    (hquiet : accepted v.history = accepted (v.history.drop 1)) (hspends : Spends (some id) draft b)
    (hevents : ∀ e ∈ events, Quiet e) :
    Kept start { v with drawn := id :: v.drawn, history := events ++ v.history, account := b } := by
  obtain ⟨past, hhistory, -, hclosed⟩ := h.past
  obtain ⟨haccepted, hminted, hchecks⟩ := quiet_append hevents v.history
  refine ⟨h.single.of_eq haccepted hminted hchecks,
    (h.spent.of_eq haccepted hchecks).spends hspends, ?_, h.drawn.spends hspends⟩
  change Closed (events ++ v.history) b
  rw [hhistory] at hquiet
  rw [Closed, haccepted, hhistory, hquiet]
  exact hclosed.spends hspends

variable {raw : Uuid} {given : Answer} {factor : Factor}

theorem Checked.finished_right {spent : Account}
    (h : Checked start v (.answer raw given) draft time (some factor))
    (hspend : consume v.now .mfaChallenge raw draft = some spent)
    (hspends : Spends (some id) spent b) :
    Kept start { v with
      drawn := id :: v.drawn, history := .completed (some raw) factor :: v.history, account := b } := by
  obtain ⟨past, hhistory, hminted, hclosed⟩ := h.past
  have hall : Spends (some id) draft b := (spends_consume hspend).trans hspends
  refine ⟨⟨h.single.stepsRise, h.single.codesOnce, h.single.challengesOnce, ?_,
    h.single.checksLimited⟩, ⟨(h.spent.spends hall).attempts, (h.spent.spends hall).stepsUsed,
      (h.spent.spends hall).codesUsed⟩, ?_, h.drawn.spends hall⟩
  · rw [hhistory]
    exact hminted.cons_cons (raw, factor)
  · change Closed (.completed (some raw) factor :: v.history) b
    rw [hhistory]
    rintro answer hanswer
    rcases List.mem_cons.mp hanswer with rfl | hbefore
    · obtain ⟨token, htoken, rfl⟩ := Option.map_eq_some_iff.mp hspend
      have ht := (Option.filter_eq_some_iff.mp htoken).1
      have hspent : (draft.tokens.modify raw fun token => { token with consumedAt := some v.now }).lookup
          raw = some { token with consumedAt := some v.now } := by
        rw [Table.lookup_modify_self, ht]
        rfl
      obtain ⟨token', ht', -, hconsumed⟩ := hspends.tokens raw _ hspent
      exact ⟨token', ht', hconsumed (Option.some_ne_none _)⟩
    · exact hclosed.spends hall answer hbefore

theorem Checked.finished (h : Checked start v work draft time verdict)
    (hattempt : work.isAttempt = true) (hfresh : id ∉ v.drawn)
    (hfinish : work.finish env v.now id draft verdict = .ok (b, events)) :
    Kept start { v with drawn := id :: v.drawn, history := events ++ v.history, account := b } := by
  obtain ⟨past, hhistory, -, -⟩ := h.past
  cases work with
  | login started password =>
    have hquiet : accepted v.history = accepted (v.history.drop 1) := by rw [hhistory]; rfl
    cases verdict with
    | none =>
      cases hfinish
      exact h.finished_quiet hquiet (.of_eq rfl rfl rfl) nofun
    | some factor =>
      simp only [Work.finish] at hfinish
      split at hfinish
      · cases hfinish
        exact h.finished_quiet hquiet .refl nofun
      · obtain ⟨hspends, rfl | rfl⟩ := spends_passwordAccepted (h.drawn.fresh hfresh) hfinish
        · exact h.finished_quiet hquiet hspends nofun
        · exact h.finished_quiet hquiet hspends (by simp [Quiet])
  | answer raw given =>
    cases verdict with
    | none =>
      cases hfinish
      refine h.finished_quiet ?_ (.of_eq rfl rfl rfl) nofun
      rw [hhistory]
      exact accepted_wrong _
    | some factor =>
      simp only [Work.finish] at hfinish
      obtain ⟨token, -, hfinish⟩ := Result.of_bind hfinish
      split at hfinish
      · next spent hspend =>
        obtain ⟨done, hmint, hdone⟩ := Result.of_bind hfinish
        cases hdone
        exact h.finished_right hspend (spends_finishLogin hmint)
      · cases hfinish
  | reset | accept | requestReset | invite | changeEmail => cases hattempt

variable {e : AppError}

theorem finish_settled (hlive : (peek now .mfaChallenge raw draft).isSome = true)
    (hactive : isInactive draft.user.status = false)
    (hwindow : accessWindowOpen env draft.user now = true) :
    (Work.answer raw given).finish env now id draft (some factor) ≠ .error e := by
  intro hfinish
  obtain ⟨token, hpeek⟩ := Option.isSome_iff_exists.mp hlive
  have ht := (Option.filter_eq_some_iff.mp hpeek).1
  have hmint : ¬ (isInactive draft.user.status = true ∨ accessWindowOpen env draft.user now = false) := by
    simp [hactive, hwindow]
  simp only [Work.finish, ht, consume, hpeek, Option.map_some, finishLogin, mintSession,
    if_neg hmint] at hfinish
  cases hfinish

variable {userId : Uuid}

theorem Checked.unfinished (h : Checked start v work draft time verdict)
    (hok : Settles env v.now (.go id) (.decided userId work draft time verdict))
    (hfinish : work.finish env v.now id draft verdict = .error e) : Kept start v := by
  cases work with
  | answer raw given =>
    cases verdict with
    | none => cases hfinish
    | some factor => exact (finish_settled hok.1 hok.2.1 hok.2.2 hfinish).elim
  | login | reset | accept | requestReset | invite | changeEmail => exact h.login rfl

theorem Checked.failed (h : Checked start v work draft time verdict)
    (hok : Settles env v.now .fail (.decided userId work draft time verdict)) : Kept start v := by
  cases work with
  | answer raw given => exact hok.elim
  | login | reset | accept | requestReset | invite | changeEmail => exact h.login rfl

theorem singleUse_valid (env : Env) (start : Table Uuid Account) :
    Valid env (Settles env) (singleUse start) where
  later_free := fun _ hsub h => h.later hsub
  later_judged := fun _ hsub h => ⟨h.toKept.later hsub, h.spends, h.claimed⟩
  later_decided := fun _ hsub h =>
    ⟨h.single, h.spent, h.drawn.later hsub, h.past, fun hnone => (h.login hnone).later hsub⟩
  ran := fun h hfresh _ hrun =>
    h.quiet (spends_run (h.drawn.fresh hfresh) hrun).1 (spends_run (h.drawn.fresh hfresh) hrun).2
  ended := by
    intro v work b h hjudge
    obtain ⟨raw, given, -, hconsume⟩ := judge_ended hjudge
    have hspends : Spends none v.account b := spends_consume hconsume
    exact ⟨h.single, h.spent.spends hspends, h.closed.spends hspends, h.drawn.spends hspends⟩
  allowed := fun h _ hjudge => h.allowed hjudge
  checked := fun h hattempt hcheck => h.checked hattempt hcheck
  finished := fun h _ hattempt hfresh hfinish => h.finished hattempt hfresh hfinish
  unfinished := fun h hok hfinish => h.unfinished hok hfinish
  failed_judged := fun h => h.toKept
  failed := fun h hok => h.failed hok

end Assertions

section Runs

variable {ι : Type} [DecidableEq ι]

abbrev Ok (env : Env) (c : Config ι (Shared ι) Session) (a : ι × Choice) : Prop :=
  Settles env c.shared.now a.2 (c.locals a.1)

omit [DecidableEq ι] in
theorem kept_opening (now : Time) (accounts : Table Uuid Account) (userId : Uuid) (a : Account)
    (ha : accounts.lookup userId = some a) :
    Kept accounts (view (opening now accounts : Config ι (Shared ι) Session).shared userId a) := by
  refine ⟨⟨?_, List.nodup_nil, List.nodup_nil, List.Sublist.refl _, fun _ => Nat.zero_le _⟩,
    ⟨fun _ => Nat.zero_le _, fun step hstep => ?_, nofun⟩, nofun, fun raw token ht => ?_⟩
  · cases lastStep (accounts.lookup userId) <;> simp [view, opening, steps, accepted]
  · have hlast : step ∈ lastStep (accounts.lookup userId) := by
      simpa [view, opening, steps, accepted] using hstep
    rw [ha] at hlast
    exact ⟨step, hlast, le_rfl⟩
  · have hentry := AList.mem_lookup_iff.mp ha
    refine List.mem_flatMap.mpr ⟨⟨userId, a⟩, hentry, List.mem_append_left _ ?_⟩
    exact AList.mem_keys.mpr (AList.lookup_isSome.mp (ht ▸ rfl))

/-- **Second factors are single-use.**  In every run that rolls back no answer it
has checked, every TOTP step that is accepted is later than all steps accepted
before, every recovery code and every challenge is accepted at most once, each
session of a second step has an accepted answer of its own, and at most
`mfaMaxAttempts` answers are checked against one challenge. -/
theorem second_factor_single_use (env : Env) (now : Time) (accounts : Table Uuid Account)
    (actions : List (ι × Choice))
    (hok : Run.Along (move (step env)) (Ok env) (opening now accounts) actions) : ∀ userId a,
      (actions.foldl (move (step env)) (opening now accounts)).shared.accounts.lookup userId = some a →
      SingleUse (lastStep (accounts.lookup userId))
        ((actions.foldl (move (step env)) (opening now accounts)).shared.history userId) := by
  intro userId a ha
  rcases guarded_run (singleUse_valid env accounts) now accounts actions (kept_opening now accounts) hok
    userId a ha with h | ⟨_, _, h⟩ | ⟨_, _, _, _, h⟩
  · exact h.single
  · exact h.single
  · exact h.single

end Runs

instance (env : Env) (now : Time) : ∀ ch lo, Decidable (Settles env now ch lo)
  | .fail, .decided _ (.answer ..) _ _ _ => inferInstanceAs (Decidable False)
  | .go _, .decided _ (.answer raw _) draft _ (some _) =>
    inferInstanceAs (Decidable ((peek now .mfaChallenge raw draft).isSome = true ∧
      isInactive draft.user.status = false ∧ accessWindowOpen env draft.user now = true))
  | .go _, .decided _ (.answer ..) _ _ none => .isTrue trivial
  | .fail, .decided _ (.login ..) _ _ _ | .fail, .decided _ (.reset ..) _ _ _
  | .fail, .decided _ (.accept ..) _ _ _ | .fail, .decided _ (.requestReset _) _ _ _
  | .fail, .decided _ .invite _ _ _ | .fail, .decided _ (.changeEmail ..) _ _ _
  | .go _, .decided _ (.login ..) _ _ _ | .go _, .decided _ (.reset ..) _ _ _
  | .go _, .decided _ (.accept ..) _ _ _ | .go _, .decided _ (.requestReset _) _ _ _
  | .go _, .decided _ .invite _ _ _ | .go _, .decided _ (.changeEmail ..) _ _ _ => .isTrue trivial
  | .request _, _ | .tick _, _ => .isTrue trivial
  | .go _, .idle | .go _, .started .. | .go _, .waiting .. | .go _, .locked .. | .go _, .judged ..
  | .fail, .idle | .fail, .started .. | .fail, .waiting .. | .fail, .locked .. | .fail, .judged .. =>
    .isTrue trivial

/-- A wrong code and the right one; the right one again on a new challenge, where a
recovery code then helps. -/
def codeTwice : List (ℕ × Choice) :=
  served 0 (.login "a@b.ch" "old") 100 5 ++ served 0 (.answer 104 (.code "000000")) 110 5 ++
    served 0 (.answer 104 (.code "282760")) 120 5 ++ served 1 (.login "a@b.ch" "old") 130 5 ++
    served 1 (.answer 134 (.code "282760")) 140 5 ++ served 1 (.answer 134 (.code "abcde12345")) 150 5

theorem second_factor_single_use_codeTwice :
    accepted ((codeTwice.foldl (move (step oneAuthenticator)) (opening 0 oneAccount)).shared.history 1) =
      [(134, .recoveryCode 30), (104, .totp 0)] ∧ ∀ userId a,
      (codeTwice.foldl (move (step oneAuthenticator)) (opening 0 oneAccount)).shared.accounts.lookup
        userId = some a → SingleUse (lastStep (oneAccount.lookup userId))
        ((codeTwice.foldl (move (step oneAuthenticator)) (opening 0 oneAccount)).shared.history
          userId) := by
  have hok : Run.Along (move (step oneAuthenticator)) (Ok oneAuthenticator) (opening 0 oneAccount)
      codeTwice := by decide +kernel
  have hsingle := @second_factor_single_use ℕ _ oneAuthenticator 0 oneAccount codeTwice hok
  exact ⟨by decide +kernel, @hsingle⟩

def suspendedAtStep : Table Uuid Account :=
  (∅ : Table Uuid Account).insert 1 { withAuthenticator with
    user := { tenantId := 1, email := "a@b.ch", status := .suspended }
    tokens := (∅ : Table Uuid AuthToken).insert 9 { kind := .mfaChallenge, expiresAt := minutes 5 } }

def codeSixTimes : List (ℕ × Choice) :=
  (List.range 6).flatMap fun k => served 0 (.answer 9 (.code "282760")) (100 + 10 * k) 5

/-- A right code of a suspended user is checked again and again. -/
theorem suspendedUser_unlimited :
    ¬ ∀ (env : Env) (now : Time) (accounts : Table Uuid Account) (actions : List (ℕ × Choice))
      (userId : Uuid) (a : Account),
      (actions.foldl (move (step env)) (opening now accounts)).shared.accounts.lookup userId = some a →
      SingleUse (lastStep (accounts.lookup userId))
        ((actions.foldl (move (step env)) (opening now accounts)).shared.history userId) := by
  intro h
  have hthere : ((codeSixTimes.foldl (move (step oneAuthenticator))
      (opening 0 suspendedAtStep)).shared.accounts.lookup 1).isSome = true := by decide +kernel
  have hsix : checks 9 ((codeSixTimes.foldl (move (step oneAuthenticator))
      (opening 0 suspendedAtStep)).shared.history 1) = 6 := by decide +kernel
  obtain ⟨a, ha⟩ := Option.isSome_iff_exists.mp hthere
  have hlimit := (h oneAuthenticator 0 suspendedAtStep codeSixTimes 1 a ha).checksLimited 9
  rw [hsix] at hlimit
  exact absurd hlimit (by decide)

end Nexotec.SecondFactor
