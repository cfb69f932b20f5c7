/-
The passwords an account must not use again (`app/platform/services/identity.py`, `set_password` and
the rehash in `LocalPasswordProvider.resolve`; `password_hashing.py`).

Five hashes are compared with a new password: the current one and the four behind it.  The current
one may be replaced by another hash of the same password when its owner signs in.

* `setPassword`, `resolve` — the two writers of a hash;
* `Recalls`, `recalls_run` — the stored hashes are those of the last five passwords.
-/
import Mathlib.Data.List.Forall2
import Nexotec.Lib.Run
import Nexotec.Platform.Auth

namespace Nexotec.PasswordHistory

open Platform Auth

/-- `PasswordHasher`.  `draw` stands for the salt and for the settings in force. -/
structure Hasher where
  hash : (draw : ℕ) → (password : String) → String
  verify : (hash password : String) → Bool
  needsRehash : (draw : ℕ) → (hash : String) → Bool

/-- A hash verifies the password it was made of, and no other. -/
def Ideal (H : Hasher) : Prop :=
  ∀ draw password other, H.verify (H.hash draw password) other = true ↔ password = other

/-- `Credential`: its two columns of hashes are those of `Auth.Credential`. -/
structure Stored extends Credential where
  passwordSetAt : Time
  breachCheckPending : Bool
  createdBy : Uuid
  updatedBy : Uuid

variable (H : Hasher)

/-- The password behind a hash. -/
def Represents (hash password : String) : Prop :=
  ∀ other, H.verify hash other = true ↔ password = other

/-- A call of `set_password`; `policy` is the verdict of `validate_new_password`, whether the breach
check is pending. -/
structure SetPassword where
  password : String
  policy : Result Bool
  draw : ℕ
  now : Time
  actorId : Uuid

/-- The current hash and the ones before it, the newest first. -/
def previousHashes (credential : Option Stored) : List String :=
  previousPasswords (credential.map (·.toCredential))

def setPassword (call : SetPassword) (credential : Option Stored) : Result Stored := do
  let breachCheckPending ← call.policy
  let previous := previousHashes credential
  if (previous.take passwordHistoryDepth).any (H.verify · call.password) then
    .error (badRequestError "This password was used recently — choose a new one." [("rule", "reused")])
  else
    pure {
      password := H.hash call.draw call.password
      passwordHistory := match credential with
        | none => []
        | some _ => previous.take (passwordHistoryDepth - 1)
      passwordSetAt := call.now
      breachCheckPending
      createdBy := (credential.map (·.createdBy)).getD call.actorId
      updatedBy := call.actorId }

/-- A call of `resolve`.  `throttled`: the address is throttled; `inactive`: the user is not active, or
outside the access window. -/
structure Login where
  password : String
  throttled : Bool := false
  inactive : Bool := false
  userId : Uuid
  draw : ℕ
  started : Time
  now : Time

/-- `LocalPasswordProvider.resolve`: whether the user is signed in, and the credential. -/
def resolve (env : Env) (login : Login) (credential : Option Stored) : Bool × Option Stored :=
  match credential with
  | none => (false, none)
  | some c =>
    if login.throttled ∨ accountThrottled env (some c.toCredential) login.started ∨
        accountThrottled env (some c.toCredential) login.now then
      (false, some c)
    else if !H.verify c.password login.password then
      (false, some { c with toCredential := c.toCredential.failed env login.started login.started })
    else if login.inactive then (false, some c)
    else if H.needsRehash login.draw c.password then
      (true, some { c with password := H.hash login.draw login.password, updatedBy := login.userId })
    else (true, some c)

section Refinement
variable {H} {stored : Stored} {plain : Credential} {hashes passwords : List String}

/-- A password in the model of accounts stands for its hashes. -/
structure Shows (H : Hasher) (stored : Stored) (plain : Credential) : Prop where
  current : Represents H stored.password plain.password
  history : List.Forall₂ (Represents H) stored.passwordHistory plain.passwordHistory
  failedLoginAttempts : stored.failedLoginAttempts = plain.failedLoginAttempts
  lastFailedAt : stored.lastFailedAt = plain.lastFailedAt
  lockedUntil : stored.lockedUntil = plain.lockedUntil

/-- The hashes of an account and the model's passwords. -/
structure Related (H : Hasher) (credential : Option Stored) (a : Account) : Prop where
  absent : credential = none ↔ a.credential = none
  shows : ∀ c p, credential = some c → a.credential = some p → Shows H c p

theorem any_verify_iff (h : List.Forall₂ (Represents H) hashes passwords) (password : String) :
    hashes.any (H.verify · password) = true ↔ password ∈ passwords := by
  induction h with
  | nil => exact ⟨fun hany => absurd hany Bool.false_ne_true, fun hmem => absurd hmem List.not_mem_nil⟩
  | cons hhead _ ih =>
    rw [List.any_cons, Bool.or_eq_true, ih, hhead password, List.mem_cons]
    exact or_congr eq_comm Iff.rfl

theorem represents_hash (hideal : Ideal H) (draw : ℕ) (password : String) :
    Represents H (H.hash draw password) password := hideal draw password

variable {env : Env} {a : Account} {credential : Option Stored}

theorem Related.previous (h : Related H credential a) :
    List.Forall₂ (Represents H) (previousHashes credential) (previousPasswords a.credential) := by
  cases credential with
  | none =>
    rw [h.absent.mp rfl]
    exact .nil
  | some c =>
    obtain ⟨p, hp⟩ := Option.ne_none_iff_exists'.mp (mt h.absent.mpr (Option.some_ne_none c))
    have hshow := h.shows c p rfl hp
    rw [hp]
    exact .cons hshow.current hshow.history

/-- **The model of accounts does the same.**  It refuses what is refused, with the same error, and
what it stores stands for the hashes that are stored. -/
theorem setPassword_refines (hideal : Ideal H) {call : SetPassword}
    (hpolicy : call.policy.map (fun _ => ()) = env.validateNewPassword a.user call.password)
    (h : Related H credential a) : (setPassword H call credential).map (fun _ => ()) =
        (Auth.setPassword env call.password a).map (fun _ => ()) ∧
      Related H (((setPassword H call credential).map some).toOption.getD credential)
        ((Auth.setPassword env call.password a).toOption.getD a) ∧
      ((Auth.setPassword env call.password a).toOption.getD a).user = a.user := by
  have hprevious := h.previous
  have hreused : ((previousHashes credential).take passwordHistoryDepth).any
      (H.verify · call.password) = true ↔
        call.password ∈ (previousPasswords a.credential).take passwordHistoryDepth :=
    any_verify_iff (List.forall₂_take passwordHistoryDepth hprevious) call.password
  unfold setPassword Auth.setPassword
  cases hverdict : call.policy with
  | error e =>
    rw [hverdict] at hpolicy
    rw [← hpolicy]
    exact ⟨rfl, h, rfl⟩
  | ok pending =>
    rw [hverdict] at hpolicy
    rw [← hpolicy]
    dsimp only [bind, Except.bind, Except.map]
    by_cases hmem : call.password ∈ (previousPasswords a.credential).take passwordHistoryDepth
    · rw [if_pos (hreused.mpr hmem), if_pos hmem]
      exact ⟨rfl, h, rfl⟩
    · rw [if_neg (mt hreused.mp hmem), if_neg hmem]
      refine ⟨rfl, ⟨⟨nofun, nofun⟩, fun c p hc hp => ?_⟩, rfl⟩
      cases hc
      cases hp
      refine ⟨represents_hash hideal call.draw call.password, ?_, rfl, rfl, rfl⟩
      have htaken := List.forall₂_take (passwordHistoryDepth - 1) hprevious
      cases credential with
      | none =>
        have hempty : previousPasswords a.credential = [] := by rw [h.absent.mp rfl]; rfl
        dsimp only
        rw [hempty]
        exact .nil
      | some c => exact htaken

/-- The verdicts of calls one after another, and what is left; a refused one changes nothing. -/
def inTurn {κ σ : Type} (step : κ → σ → Result σ) : List κ → σ → List (Result Unit) × σ
  | [], s => ([], s)
  | call :: calls, s =>
    let later := inTurn step calls ((step call s).toOption.getD s)
    ((step call s).map (fun _ => ()) :: later.1, later.2)

/-- **And so it does for any calls, one after another**: the verdicts are the same, and what is
stored stays related. -/
theorem setPasswords_refine (hideal : Ideal H) (calls : List SetPassword)
    (hpolicy : ∀ call ∈ calls, call.policy.map (fun _ => ()) =
      env.validateNewPassword a.user call.password) (h : Related H credential a) :
    (inTurn (fun call c => (setPassword H call c).map some) calls credential).1 =
        (inTurn (fun call => Auth.setPassword env call.password) calls a).1 ∧
      Related H (inTurn (fun call c => (setPassword H call c).map some) calls credential).2
        (inTurn (fun call => Auth.setPassword env call.password) calls a).2 := by
  induction calls generalizing a credential with
  | nil => exact ⟨rfl, h⟩
  | cons call calls ih =>
    obtain ⟨hverdict, hrelated, huser⟩ :=
      setPassword_refines hideal (hpolicy call List.mem_cons_self) h
    obtain ⟨hverdicts, hleft⟩ := ih (fun later hlater => by
      rw [huser]
      exact hpolicy later (List.mem_cons_of_mem _ hlater)) hrelated
    have hsame : ((setPassword H call credential).map some).map (fun _ => ()) =
        (Auth.setPassword env call.password a).map (fun _ => ()) := by
      rw [← hverdict]
      cases setPassword H call credential <;> rfl
    exact ⟨congrArg₂ List.cons hsame hverdicts, hleft⟩

end Refinement

/-! ### Every run -/

/-- The passwords that were set, the newest first, beside the credential. -/
structure State where
  credential : Option Stored := none
  used : List String := []

inductive Action where
  | set (call : SetPassword)
  | login (login : Login)
  /-- `login_completed` -/
  | completed

def next (env : Env) (s : State) : Action → State
  | .set call =>
    match setPassword H call s.credential with
    | .error _ => s
    | .ok new => ⟨some new, call.password :: s.used⟩
  | .login login => { s with credential := (resolve H env login s.credential).2 }
  | .completed =>
    { s with credential := s.credential.map fun c => { c with toCredential := c.toCredential.cleared } }

/-- **The stored hashes are those of the last five passwords**, the current one first. -/
structure Recalls (s : State) : Prop where
  hashes : List.Forall₂ (Represents H) (previousHashes s.credential)
    (s.used.take passwordHistoryDepth)
  absent : s.credential = none ↔ s.used = []

section
variable {H} {env : Env} {s : State}

theorem forall₂_push {α β : Type} {R : α → β → Prop} {x : α} {y : β} {xs : List α} {ys : List β}
    {depth : ℕ} (hdepth : 0 < depth) (hhead : R x y) (h : List.Forall₂ R xs (ys.take depth)) :
    List.Forall₂ R (x :: xs.take (depth - 1)) ((y :: ys).take depth) := by
  obtain ⟨n, rfl⟩ := Nat.exists_eq_succ_of_ne_zero hdepth.ne'
  have htaken := List.forall₂_take n h
  rw [List.take_take, Nat.min_eq_left (Nat.le_succ n)] at htaken
  exact .cons hhead htaken

theorem setPassword_ok_iff (hrecalls : Recalls H s) {call : SetPassword} {pending : Bool}
    (hpolicy : call.policy = .ok pending) :
    (∃ stored, setPassword H call s.credential = .ok stored) ↔
      call.password ∉ s.used.take (min s.used.length passwordHistoryDepth) := by
  have hlength := hrecalls.hashes.length_eq
  have hall : (previousHashes s.credential).take passwordHistoryDepth = previousHashes s.credential := by
    refine List.take_of_length_le ?_
    rw [hlength, List.length_take]
    exact min_le_left ..
  have hmin : s.used.take (min s.used.length passwordHistoryDepth) =
      s.used.take passwordHistoryDepth := by
    rw [min_comm, ← List.take_take, List.take_length]
  rw [hmin, ← any_verify_iff hrecalls.hashes call.password]
  unfold setPassword
  rw [hpolicy]
  dsimp only [bind, Except.bind]
  rw [hall]
  split
  · next hany => exact ⟨fun ⟨_, h⟩ => (by cases h), fun h => absurd hany h⟩
  · next hany => exact ⟨fun _ => hany, fun _ => ⟨_, rfl⟩⟩

theorem recalls_set (hideal : Ideal H) (hrecalls : Recalls H s) (call : SetPassword) :
    Recalls H (next H env s (.set call)) := by
  unfold next
  dsimp only
  split
  · exact hrecalls
  · next new hnew =>
    unfold setPassword at hnew
    obtain ⟨pending, -, hnew⟩ := Result.of_bind hnew
    dsimp only at hnew
    split at hnew
    · cases hnew
    · cases hnew
      refine ⟨?_, ⟨fun h => absurd h (Option.some_ne_none _),
        fun h => absurd h (List.cons_ne_nil call.password s.used)⟩⟩
      have hpushed := forall₂_push (by decide) (represents_hash hideal call.draw call.password)
        hrecalls.hashes
      cases hcredential : s.credential with
      | none =>
        -- the first password: nothing is behind it
        rw [hcredential] at hpushed
        exact hpushed
      | some c =>
        rw [hcredential] at hpushed
        exact hpushed

theorem recalls_login (hideal : Ideal H) (hrecalls : Recalls H s) (login : Login) :
    Recalls H (next H env s (.login login)) := by
  unfold next resolve
  dsimp only
  split
  · next hnone =>
    rw [← hnone]
    exact hrecalls
  · next c hsome =>
    have hpresent : s.used ≠ [] := fun hempty => by
      rw [hrecalls.absent.mpr hempty] at hsome
      cases hsome
    have habsent : ∀ c' : Stored, some c' = none ↔ s.used = [] := fun c' =>
      ⟨fun h => absurd h (Option.some_ne_none c'), fun h => absurd h hpresent⟩
    have hhashes := hrecalls.hashes
    rw [hsome] at hhashes
    split
    · exact ⟨hhashes, habsent c⟩
    split
    · exact ⟨hhashes, habsent _⟩
    · next hverified =>
      split
      · exact ⟨hhashes, habsent c⟩
      split
      · refine ⟨?_, habsent _⟩
        obtain ⟨current, before, hcurrent, hbefore, hused⟩ := List.forall₂_cons_left_iff.mp hhashes
        have hsame : current = login.password :=
          (hcurrent login.password).mp (by simpa using hverified)
        dsimp only
        rw [hused, hsame]
        exact .cons (represents_hash hideal login.draw login.password) hbefore
      · exact ⟨hhashes, habsent c⟩

theorem recalls_completed (hrecalls : Recalls H s) : Recalls H (next H env s .completed) := by
  refine ⟨?_, Iff.trans Option.map_eq_none_iff hrecalls.absent⟩
  have hhashes := hrecalls.hashes
  unfold next
  dsimp only
  cases hsome : s.credential with
  | none =>
    rw [hsome] at hhashes
    exact hhashes
  | some c =>
    rw [hsome] at hhashes
    exact hhashes

theorem recalls_run (hideal : Ideal H) (env : Env) (actions : List Action) :
    Recalls H (actions.foldl (next H env) {}) := by
  refine Run.invariant (fun s action hrecalls => ?_) ⟨.nil, ⟨fun _ => rfl, fun _ => rfl⟩⟩ actions
  cases action with
  | set call => exact recalls_set hideal hrecalls call
  | login login => exact recalls_login hideal hrecalls login
  | completed => exact recalls_completed hrecalls

end

/-- **Password history.**  After any calls and sign-ins of a user, a password that passes the policy is
accepted just when it is none of the last five that were set, or of all where they are fewer; and the
history holds the hashes of the passwords before the current one that the next check needs, in
order. -/
theorem password_history (hideal : Ideal H) (env : Env) (actions : List Action) :
    (∀ call pending, call.policy = .ok pending →
      ((∃ stored, setPassword H call (actions.foldl (next H env) {}).credential = .ok stored) ↔
        call.password ∉ (actions.foldl (next H env) {}).used.take
          (min (actions.foldl (next H env) {}).used.length passwordHistoryDepth))) ∧
    ((actions.foldl (next H env) {}).credential = none ↔ (actions.foldl (next H env) {}).used = []) ∧
    ∀ stored, (actions.foldl (next H env) {}).credential = some stored →
      ∃ current before, (actions.foldl (next H env) {}).used = current :: before ∧
        Represents H stored.password current ∧ List.Forall₂ (Represents H) stored.passwordHistory
          (before.take (passwordHistoryDepth - 1)) := by
  have hrecalls := recalls_run hideal env actions
  refine ⟨fun call pending hpolicy => setPassword_ok_iff hrecalls hpolicy, hrecalls.absent,
    fun stored hsome => ?_⟩
  have hhashes := hrecalls.hashes
  rw [hsome] at hhashes
  obtain ⟨current, behind, hcurrent, hbehind, hused⟩ := List.forall₂_cons_left_iff.mp hhashes
  cases hlist : (actions.foldl (next H env) {}).used with
  | nil =>
    rw [hlist] at hused
    cases hused
  | cons newest before =>
    rw [hlist] at hused
    obtain ⟨rfl, rfl⟩ := List.cons.inj hused
    exact ⟨newest, before, rfl, hcurrent, hbehind⟩

/-! ### Six passwords -/

/-- The first character names the settings: they change with the tenth draw. -/
def versioned : Hasher where
  hash draw password := String.ofList ((if draw < 10 then '1' else '2') :: password.toList)
  verify hash password := hash.toList.tail = password.toList
  needsRehash draw hash := hash.toList.head? ≠ some (if draw < 10 then '1' else '2')

theorem versioned_ideal : Ideal versioned := by
  intro draw password other
  unfold versioned
  dsimp only
  rw [decide_eq_true_iff, String.toList_ofList, List.tail_cons, String.toList_inj]

/-- `set_password` for the owner; the breach check answers. -/
def setTo (draw : ℕ) (password : String) : SetPassword :=
  { password, policy := .ok false, draw, now := draw, actorId := 1 }

def plainEnv : Env where
  today _ := ⟨2026, 1, 1⟩
  absoluteExpiry now := now + minutes 720
  totpAt _ _ := ""
  hashCode code := code
  validateNewPassword _ _ := .ok ()

/-- Six passwords, with a sign-in under the new settings after the third. -/
def sixPasswords : List Action :=
  [.set (setTo 0 "amber"), .set (setTo 1 "birch"), .set (setTo 2 "cedar"),
    .login { password := "cedar", userId := 1, draw := 10, started := 3, now := 3 }, .completed,
    .set (setTo 11 "delta"), .set (setTo 12 "ember"), .set (setTo 13 "fjord")]

theorem setPasswords_refine_twice : (inTurn (fun call c => (setPassword versioned call c).map some)
        [setTo 0 "amber", setTo 1 "amber"] none).1 =
        (inTurn (fun call => Auth.setPassword plainEnv call.password)
          [setTo 0 "amber", setTo 1 "amber"] { user := { tenantId := 1, email := "a@b.ch" } }).1 ∧
      Related versioned (inTurn (fun call c => (setPassword versioned call c).map some)
          [setTo 0 "amber", setTo 1 "amber"] none).2
        (inTurn (fun call => Auth.setPassword plainEnv call.password)
          [setTo 0 "amber", setTo 1 "amber"] { user := { tenantId := 1, email := "a@b.ch" } }).2 :=
  setPasswords_refine versioned_ideal _ (by decide) ⟨⟨fun _ => rfl, fun _ => rfl⟩, nofun⟩

theorem sixPasswords_history : (∃ stored, setPassword versioned (setTo 14 "amber")
      (sixPasswords.foldl (next versioned plainEnv) {}).credential = .ok stored) ∧
    ¬ ∃ stored, setPassword versioned (setTo 14 "birch")
      (sixPasswords.foldl (next versioned plainEnv) {}).credential = .ok stored := by
  obtain ⟨haccepted, -, -⟩ := password_history versioned versioned_ideal plainEnv sixPasswords
  refine ⟨(haccepted (setTo 14 "amber") false rfl).mpr (by decide +kernel), fun hstored => ?_⟩
  exact (haccepted (setTo 14 "birch") false rfl).mp hstored (by decide +kernel)

end Nexotec.PasswordHistory
