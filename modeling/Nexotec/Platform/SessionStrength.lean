/-
How strong the sessions of a user are, with any number of requests at work
(`app/platform/session_guard.py`; `_mint_session` and `switch_dealership` of `app/platform/api/auth.py`).

A request shows its session to the guard, which reads the row and, where that carries no «mfa», the two
tables of factors, one after the other and without a lock.  What enrols, removes or checks a factor has
the user row until it commits; all it reads is written under that lock only, so it is one step here.

* `Phase`, `step` — the guard read by read, and the requests behind it.
-/
import Nexotec.Platform.Factors

namespace Nexotec.SessionStrength

open Platform Auth Factors Interleaving

/-! ### Requests -/

/-- A route behind the guard. -/
inductive Route where
  | account (route : AccountRoute)
  | switchDealership
  | revokeSession (target : Uuid)
  /-- Any other; `enrolmentPath` is the verdict of `_enrolment_path`. -/
  | other (enrolmentPath : Bool)

/-- `_enrolment_path` -/
def Route.isEnrolmentPath : Route → Bool
  | .account _ | .switchDealership | .revokeSession _ => true
  | .other enrolmentPath => enrolmentPath

inductive Request where
  | call (sid : Uuid) (route : Route)
  | frontDoor (work : SignIn.Work)
  | resetMfa
  | logout (sid : Uuid)

inductive Phase where
  | idle
  | asked (sid : Uuid) (route : Route)
  /-- The row of the session carries no «mfa». -/
  | unproven (sid : Uuid) (route : Route)
  /-- There was no confirmed authenticator either. -/
  | noTotp (sid : Uuid) (route : Route)
  | factorFound (sid : Uuid) (route : Route)
  | waiting (body : Body)
  | locked (body : Body)
  | switching (sid : Uuid)
  /-- About to revoke the session. -/
  | ending (sid : Uuid) (reason : String)

/-- The committed account of the user and the ones before it, the newest first.  `moments` are those each
request has seen since it came in; `passed` are the requests the guard let through, with what they had
seen, and `reissued` the claims of the tokens that switches signed, with the account at that time. -/
structure Shared (ι : Type) where
  account : Account
  past : List Account := []
  lastSeenAt : Uuid → Time := fun _ => 0
  holder : Option ι := none
  moments : ι → List Account := fun _ => []
  passed : List (Uuid × List Account) := []
  reissued : List (List String × Account) := []

inductive Choice where
  | request (request : Request)
  /-- The next statement, at the time `now`; `enforced`: platform staff, or the Betrieb requires a
  factor. -/
  | go (now : Time) (enforced : Bool)
  | commit (d : Drawn)
  | fail

section
variable {ι : Type}

def committed (sh : Shared ι) : List Account := sh.account :: sh.past

def publish (b : Account) (sh : Shared ι) : Shared ι :=
  { sh with account := b, past := committed sh, moments := fun j => b :: sh.moments j }

/-- `revoke` -/
def endSession (now : Time) (reason : String) (sid : Uuid) (a : Account) : Account :=
  { a with sessions := a.sessions.modify sid fun row =>
      if row.revokedAt = none then { row with revokedAt := some now, revokedReason := some reason }
      else row }

/-- `touch`: the idle end moves, at most once a minute. -/
def touch (env : Env) (now : Time) (sid : Uuid) (sh : Shared ι) : Shared ι :=
  if now - sh.lastSeenAt sid < minutes 1 then sh
  else
    let idle := now + minutes env.sessionIdleMinutes
    { publish { sh.account with sessions := sh.account.sessions.modify sid fun row =>
        { row with idleExpiresAt := min idle row.absoluteExpiresAt } } sh with
      lastSeenAt := Function.update sh.lastSeenAt sid now }

def letThrough (i : ι) (sid : Uuid) (route : Route) (sh : Shared ι) : Shared ι × Phase :=
  ({ sh with passed := (sid, sh.moments i) :: sh.passed },
    match route with
    | .account route => .waiting (.account sid route)
    | .switchDealership => .switching sid
    | .revokeSession target => .ending target "user"
    | .other _ => .idle)

variable [DecidableEq ι]

def step (env : Env) (userId : Uuid) (i : ι) (ch : Choice) (sh : Shared ι) (lo : Phase) :
    Option (Shared ι × Phase) :=
  match lo, ch with
  | .idle, .request (.call sid route) =>
    some ({ sh with moments := Function.update sh.moments i [sh.account] }, .asked sid route)
  | .idle, .request (.frontDoor work) => some (sh, .waiting (.frontDoor work))
  | .idle, .request .resetMfa => some (sh, .waiting .resetMfa)
  | .idle, .request (.logout sid) => some (sh, .ending sid "logout")
  | .asked sid route, .go now _ =>
    match sh.account.sessions.lookup sid with
    | none => some (sh, .idle)
    | some row =>
      if row.isLive now then
        if "mfa" ∈ row.amr then some (letThrough i sid route (touch env now sid sh))
        else some (touch env now sid sh, .unproven sid route)
      else some (sh, .idle)
  | .unproven sid route, .go _ _ =>
    if sh.account.totp.any (·.confirmedAt.isSome) then some (sh, .factorFound sid route)
    else some (sh, .noTotp sid route)
  | .noTotp sid route, .go _ enforced =>
    if sh.account.passkeys ≠ [] then some (sh, .factorFound sid route)
    else if enforced ∧ route.isEnrolmentPath = false then some (sh, .idle)
    else some (letThrough i sid route sh)
  | .factorFound sid route, .go _ _ =>
    -- the row is read again: it may have proved its factor meanwhile
    if proves sh.account sid then some (letThrough i sid route sh)
    else some (sh, .ending sid "factor_enrolled")
  | .waiting body, .go _ _ =>
    if sh.holder = none then some ({ sh with holder := some i }, .locked body) else none
  | .locked body, .commit d =>
    if sh.account.sessions.lookup d.id = none then
      match body.run env d userId sh.account with
      | none => some ({ sh with holder := none }, .idle)
      | some b => some ({ publish b sh with
          holder := none, lastSeenAt := Function.update sh.lastSeenAt d.id d.now }, .idle)
    else none
  | .switching sid, .go now _ =>
    match sh.account.sessions.lookup sid with
    | none => some (sh, .idle)
    | some row =>
      if isInactive sh.account.user.status ∨ accessWindowOpen env sh.account.user now = false then
        some (sh, .idle)
      else some ({ sh with reissued := (row.amr, sh.account) :: sh.reissued }, .idle)
  | .ending sid reason, .go now _ =>
    some (publish (endSession now reason sid sh.account) sh, .idle)
  | _, .fail => some ({ sh with holder := if sh.holder = some i then none else sh.holder }, .idle)
  | _, _ => none

/-- A new user, with or without a password; nobody is at work. -/
def opening (user : User) (credential : Option Credential) : Config ι (Shared ι) Phase :=
  ⟨{ account := { user, credential } }, fun _ => .idle⟩

end

section Promises
variable {ι : Type}

/-- Of two states one after the other: a session that was minted between them while its user holds a
factor carries «mfa». -/
def MintsStrong (b a : Account) : Prop :=
  ∀ sid row, a.sessions.lookup sid = none → b.sessions.lookup sid = some row →
    hasFactor b = true → "mfa" ∈ row.amr

/-- At some moment since the request came in, its user held no factor, or its session carried «mfa». -/
def Excused (sid : Uuid) (moments : List Account) : Prop :=
  ∃ a ∈ moments, hasFactor a = false ∨ proves a sid = true

/-- The four promises about minted, stored, refused and reissued sessions. -/
structure Strong (sh : Shared ι) : Prop where
  /-- Every session minted while the user holds a factor carries «mfa». -/
  minted : (committed sh).IsChain MintsStrong
  /-- In every committed state, a live session with «mfa» is of a user who holds a factor. -/
  stored : ∀ a ∈ committed sh, ∀ now sid row, a.sessions.lookup sid = some row →
    row.isLive now = true → "mfa" ∈ row.amr → hasFactor a = true
  /-- A request of a session without it is refused once its user holds a factor. -/
  refused : ∀ p ∈ sh.passed, Excused p.1 p.2
  /-- What a switch signs while the user holds a factor carries «mfa». -/
  reissued : ∀ t ∈ sh.reissued, hasFactor t.2 = true → "mfa" ∈ t.1

/-- The last passkey goes, and an authenticator has taken its place. -/
def SwapsFactor (a b : Account) : Prop :=
  a.passkeys ≠ [] ∧ b.passkeys = [] ∧ b.totp.any (·.confirmedAt.isSome) = true

/-- The transaction that the action commits leaves the account `b`. -/
def Commits [DecidableEq ι] (env : Env) (userId : Uuid) (c : Config ι (Shared ι) Phase)
    (action : ι × Choice) (b : Account) : Prop :=
  ∃ body d, c.locals action.1 = .locked body ∧ action.2 = .commit d ∧
    body.run env d userId c.shared.account = some b

/-- **The condition on a commit, for the guard**: no guard that has found no authenticator is still to
read the passkeys when the last of them makes way for one. -/
def Steady [DecidableEq ι] (env : Env) (userId : Uuid) (c : Config ι (Shared ι) Phase)
    (action : ι × Choice) : Prop :=
  ∀ b, Commits env userId c action b → SwapsFactor c.shared.account b →
    ∀ j sid route, c.locals j ≠ .noTotp sid route

/-- **The condition on a commit, for the switch**: when it gives the user a first factor, a switch on its
way is of the session that proved it. -/
def Unraced [DecidableEq ι] (env : Env) (userId : Uuid) (c : Config ι (Shared ι) Phase)
    (action : ι × Choice) : Prop :=
  ∀ b, Commits env userId c action b → hasFactor c.shared.account = false → hasFactor b = true →
    ∀ j sid, c.locals j = .switching sid ∨ c.locals j = .noTotp sid .switchDealership →
      proves b sid = true

end Promises

section Steps
variable {ι : Type} [DecidableEq ι] {env : Env} {userId : Uuid} {i : ι} {ch : Choice}
  {sh sh' : Shared ι} {lo lo' : Phase}

/-- The moves of a request. -/
inductive Moves (env : Env) (userId : Uuid) (i : ι) (sh : Shared ι) :
    Choice → Phase → Shared ι → Phase → Prop
  | called (sid : Uuid) (route : Route) : Moves env userId i sh (.request (.call sid route)) .idle
      { sh with moments := Function.update sh.moments i [sh.account] } (.asked sid route)
  | waits (ch : Choice) (body : Body) : Moves env userId i sh ch .idle sh (.waiting body)
  | leaves (ch : Choice) (sid : Uuid) (reason : String) :
      Moves env userId i sh ch .idle sh (.ending sid reason)
  | proved (now : Time) (enforced : Bool) (sid : Uuid) (route : Route)
      (hproves : proves sh.account sid = true) : Moves env userId i sh (.go now enforced)
        (.asked sid route) (letThrough i sid route (touch env now sid sh)).1
          (letThrough i sid route (touch env now sid sh)).2
  | unproven (now : Time) (enforced : Bool) (sid : Uuid) (route : Route) :
      Moves env userId i sh (.go now enforced) (.asked sid route) (touch env now sid sh)
        (.unproven sid route)
  | noTotp (ch : Choice) (sid : Uuid) (route : Route)
      (hnone : sh.account.totp.any (·.confirmedAt.isSome) = false) :
      Moves env userId i sh ch (.unproven sid route) sh (.noTotp sid route)
  | found (ch : Choice) (lo : Phase) (sid : Uuid) (route : Route)
      (hlo : lo = .unproven sid route ∨ lo = .noTotp sid route) :
      Moves env userId i sh ch lo sh (.factorFound sid route)
  | noFactor (ch : Choice) (sid : Uuid) (route : Route) (hnone : sh.account.passkeys = []) :
      Moves env userId i sh ch (.noTotp sid route) (letThrough i sid route sh).1 (letThrough i sid route sh).2
  | provedSince (ch : Choice) (sid : Uuid) (route : Route) (hproves : proves sh.account sid = true) :
      Moves env userId i sh ch (.factorFound sid route) (letThrough i sid route sh).1
        (letThrough i sid route sh).2
  | refuses (ch : Choice) (sid : Uuid) (route : Route) :
      Moves env userId i sh ch (.factorFound sid route) sh (.ending sid "factor_enrolled")
  | locks (ch : Choice) (body : Body) : Moves env userId i sh ch (.waiting body)
      { sh with holder := some i } (.locked body)
  | commits (d : Drawn) (body : Body) (b : Account) (hfresh : sh.account.sessions.lookup d.id = none)
      (hrun : body.run env d userId sh.account = some b) :
      Moves env userId i sh (.commit d) (.locked body) { publish b sh with
        holder := none, lastSeenAt := Function.update sh.lastSeenAt d.id d.now } .idle
  | reissues (ch : Choice) (sid : Uuid) (row : AuthSession)
      (hrow : sh.account.sessions.lookup sid = some row) : Moves env userId i sh ch (.switching sid)
        { sh with reissued := (row.amr, sh.account) :: sh.reissued } .idle
  | ends (ch : Choice) (now : Time) (sid : Uuid) (reason : String) :
      Moves env userId i sh ch (.ending sid reason)
        (publish (endSession now reason sid sh.account) sh) .idle
  | stops (ch : Choice) (lo : Phase) (holder : Option ι) :
      Moves env userId i sh ch lo { sh with holder := holder } .idle

theorem moves_of_step (h : step env userId i ch sh lo = some (sh', lo')) :
    Moves env userId i sh ch lo sh' lo' := by
  unfold step at h
  split at h
  · cases h
    exact .called _ _
  · cases h
    exact .waits _ _
  · cases h
    exact .waits _ _
  · cases h
    exact .leaves _ _ _
  · next sid route now enforced =>
    split at h
    · cases h
      exact .stops _ _ sh.holder
    · next row hrow =>
      split at h
      · split at h
        · next hmfa =>
          cases h
          exact .proved now enforced sid route (proves_iff.mpr ⟨row, hrow, hmfa⟩)
        · cases h
          exact .unproven now enforced sid route
      · cases h
        exact .stops _ _ sh.holder
  · next sid route now enforced =>
    split at h
    · cases h
      exact .found _ _ sid route (.inl rfl)
    · next hnone =>
      cases h
      exact .noTotp _ sid route (Bool.eq_false_iff.mpr hnone)
  · next sid route now enforced =>
    split at h
    · cases h
      exact .found _ _ sid route (.inr rfl)
    · next hnone =>
      split at h
      · cases h
        exact .stops _ _ sh.holder
      · cases h
        exact .noFactor _ sid route (not_not.mp hnone)
  · next sid route now enforced =>
    split at h
    · next hproves =>
      cases h
      exact .provedSince _ sid route hproves
    · cases h
      exact .refuses _ sid route
  · split at h
    · cases h
      exact .locks _ _
    · cases h
  · split at h
    · next hfresh =>
      split at h
      · cases h
        exact .stops _ _ none
      · next b hrun =>
        cases h
        exact .commits _ _ b hfresh hrun
    · cases h
  · next sid now enforced =>
    split at h
    · cases h
      exact .stops _ _ sh.holder
    · next row hrow =>
      split at h
      · cases h
        exact .stops _ _ sh.holder
      · cases h
        exact .reissues _ sid row hrow
  · next sid reason now enforced =>
    cases h
    exact .ends _ now sid reason
  · cases h
    exact .stops _ _ _
  · cases h

/-! ### What a step can do to the account -/

theorem quiet_modify {f : AuthSession → AuthSession} (hamr : ∀ row, (f row).amr = row.amr)
    (hended : ∀ row, (f row).revokedAt = none → row.revokedAt = none) (sid : Uuid) (a : Account) :
    Quiet a { a with sessions := a.sessions.modify sid f } := by
  refine ⟨rfl, rfl, fun id row h => ⟨row, h⟩, fun sid' => ?_, fun sid' row row' hrow hrow' hlive => ?_⟩
  · dsimp only
    rw [Table.lookup_modify]
    split
    · rw [Option.map_map]
      exact congrArg (Option.map · _) (funext hamr)
    · rfl
  · dsimp only at hrow'
    rw [Table.lookup_modify, hrow] at hrow'
    split at hrow'
    · cases hrow'
      exact hended row hlive
    · exact Option.some.inj hrow' ▸ hlive

theorem quiet_endSession (now : Time) (reason : String) (sid : Uuid) (a : Account) :
    Quiet a (endSession now reason sid a) := by
  refine quiet_modify (fun row => ?_) (fun row hlive => ?_) sid a
  · split <;> rfl
  · split at hlive
    · next hopen => exact hopen
    · exact hlive

omit [DecidableEq ι] in
theorem touch_cases (env : Env) (now : Time) (sid : Uuid) (sh : Shared ι) :
    touch env now sid sh = sh ∨ ∃ b last, Quiet sh.account b ∧
      touch env now sid sh = { publish b sh with lastSeenAt := last } := by
  unfold touch
  split
  · exact .inl rfl
  · have hquiet := quiet_modify (f := fun row => { row with
      idleExpiresAt := min (now + minutes env.sessionIdleMinutes) row.absoluteExpiresAt })
      (fun _ => rfl) (fun _ hlive => hlive) sid sh.account
    exact .inr ⟨_, _, hquiet, rfl⟩

/-- A step leaves the account alone, ends or extends sessions, or commits a transaction. -/
inductive Change (env : Env) (userId : Uuid) (i : ι) (ch : Choice) (lo : Phase) (sh sh' : Shared ι) :
    Prop
  | same (hcommitted : committed sh' = committed sh) (hmoments : ∀ j, i ≠ j → sh'.moments j = sh.moments j)
  | quiet (b : Account) (hquiet : Quiet sh.account b) (hcommitted : committed sh' = b :: committed sh)
      (hmoments : ∀ j, sh'.moments j = b :: sh.moments j)
  | commits (body : Body) (d : Drawn) (b : Account) (hlo : lo = .locked body) (hch : ch = .commit d)
      (hrun : body.run env d userId sh.account = some b) (htransacts : Transacts sh.account b)
      (hcommitted : committed sh' = b :: committed sh)
      (hmoments : ∀ j, sh'.moments j = b :: sh.moments j)

theorem change_of_moves (h : Moves env userId i sh ch lo sh' lo') :
    Change env userId i ch lo sh sh' := by
  cases h with
  | called sid route => exact .same rfl fun j hij => Function.update_of_ne (Ne.symm hij) _ _
  | waits | leaves | noTotp | found | refuses => exact .same rfl fun _ _ => rfl
  | noFactor | provedSince | locks | reissues | stops => exact .same rfl fun _ _ => rfl
  | proved now enforced sid route hproves =>
    unfold letThrough
    rcases touch_cases env now sid sh with htouch | ⟨b, last, hquiet, htouch⟩
    · rw [htouch]
      exact .same rfl fun _ _ => rfl
    · rw [htouch]
      exact .quiet b hquiet rfl fun _ => rfl
  | unproven now enforced sid route =>
    rcases touch_cases env now sid sh with htouch | ⟨b, last, hquiet, htouch⟩
    · rw [htouch]
      exact .same rfl fun _ _ => rfl
    · rw [htouch]
      exact .quiet b hquiet rfl fun _ => rfl
  | commits d body b hfresh hrun =>
    exact .commits body d b rfl rfl hrun (Body.transacts hfresh hrun) rfl fun _ => rfl
  | ends ch now sid reason =>
    exact .quiet _ (quiet_endSession now reason sid sh.account) rfl fun _ => rfl

/-! ### What holds of the committed states -/

/-- No session is stronger than its user, and each was minted as strong as its user. -/
structure Sound (sh : Shared ι) : Prop where
  proven : ∀ a ∈ committed sh, Proven a
  minted : (committed sh).IsChain MintsStrong

variable {b : Account}

omit [DecidableEq ι] in
theorem Sound.publish (h : Sound sh) (htransacts : Transacts sh.account b)
    (hcommitted : committed sh' = b :: committed sh) : Sound sh' := by
  refine ⟨fun a ha => ?_, ?_⟩
  · rw [hcommitted] at ha
    rcases List.mem_cons.mp ha with rfl | ha
    · exact htransacts.proven (h.proven sh.account List.mem_cons_self)
    · exact h.proven a ha
  · rw [hcommitted]
    exact List.isChain_cons_cons.mpr ⟨htransacts.minted, h.minted⟩

theorem sound_step (h : step env userId i ch sh lo = some (sh', lo')) (hsound : Sound sh) :
    Sound sh' := by
  cases change_of_moves (moves_of_step h) with
  | same hcommitted hmoments =>
    obtain ⟨hproven, hminted⟩ := hsound
    rw [← hcommitted] at hproven hminted
    exact ⟨hproven, hminted⟩
  | quiet b hquiet hcommitted hmoments => exact hsound.publish hquiet.transacts hcommitted
  | commits body d b hlo hch hrun htransacts hcommitted hmoments =>
    exact hsound.publish htransacts hcommitted

theorem proven_new (user : User) (credential : Option Credential) :
    Proven { user, credential } := by
  refine ⟨fun sid row h => ?_, fun id row h => ?_⟩
  · cases h
  · cases h

theorem sound_run (env : Env) (userId : Uuid) (user : User) (credential : Option Credential)
    (actions : List (ι × Choice)) :
    Sound (actions.foldl (move (step env userId)) (opening user credential)).shared := by
  have hstep : ∀ (c : Config ι (Shared ι) Phase) (action : ι × Choice), Sound c.shared →
      Sound (move (step env userId) c action).shared := fun c action hsound =>
    move_shared hsound fun sh' lo' h => sound_step h hsound
  have hopening : Sound (opening user credential : Config ι (Shared ι) Phase).shared := by
    refine ⟨fun a ha => ?_, .singleton _⟩
    obtain rfl := List.mem_singleton.mp ha
    exact proven_new user credential
  exact Run.invariant hstep hopening actions

/-! ### Requests of weak sessions -/

/-- What a guard knows between its reads: it has seen the committed account, and where it found no
authenticator and there is no passkey, there was a moment without a factor. -/
def Phase.Knows (i : ι) (sh : Shared ι) : Phase → Prop
  | .asked _ _ | .unproven _ _ | .factorFound _ _ => sh.account ∈ sh.moments i
  | .noTotp sid _ => sh.account ∈ sh.moments i ∧
      (sh.account.passkeys = [] → Excused sid (sh.moments i))
  | .idle | .waiting _ | .locked _ | .switching _ | .ending .. => True

theorem Excused.cons {sid : Uuid} {moments : List Account} (h : Excused sid moments) (b : Account) :
    Excused sid (b :: moments) := by
  obtain ⟨a, ha, hexcuse⟩ := h
  exact ⟨a, List.mem_cons_of_mem b ha, hexcuse⟩

variable {a : Account}

theorem hasFactor_eq_false (htotp : a.totp.any (·.confirmedAt.isSome) = false)
    (hpasskeys : a.passkeys = []) : hasFactor a = false := by
  unfold hasFactor
  rw [htotp, hpasskeys]
  rfl

omit [DecidableEq ι] in
theorem knows_letThrough (j : ι) (sid : Uuid) (route : Route) (sh sh₂ : Shared ι) :
    (letThrough i sid route sh).2.Knows j sh₂ := by
  unfold letThrough
  cases route <;> trivial

omit [DecidableEq ι] in
theorem touch_moments (env : Env) (now : Time) (sid : Uuid) (hseen : sh.account ∈ sh.moments i) :
    (touch env now sid sh).account ∈ (touch env now sid sh).moments i ∧
      ∀ a ∈ sh.moments i, a ∈ (touch env now sid sh).moments i := by
  rcases touch_cases env now sid sh with htouch | ⟨b, last, -, htouch⟩
  · rw [htouch]
    exact ⟨hseen, fun a ha => ha⟩
  · rw [htouch]
    exact ⟨List.mem_cons_self, fun a ha => List.mem_cons_of_mem b ha⟩

omit [DecidableEq ι] in
theorem touch_passed (now : Time) (sid : Uuid) (sh : Shared ι) :
    (touch env now sid sh).passed = sh.passed ∧ (touch env now sid sh).reissued = sh.reissued := by
  rcases touch_cases env now sid sh with htouch | ⟨b, last, -, htouch⟩ <;> rw [htouch] <;>
    exact ⟨rfl, rfl⟩

theorem knows_own (h : Moves env userId i sh ch lo sh' lo') (hknows : lo.Knows i sh)
    (hpassed : ∀ p ∈ sh.passed, Excused p.1 p.2) :
    (∀ p ∈ sh'.passed, Excused p.1 p.2) ∧ lo'.Knows i sh' := by
  cases h with
  | called sid route =>
    refine ⟨hpassed, ?_⟩
    unfold Phase.Knows
    dsimp only
    rw [Function.update_self]
    exact List.mem_singleton_self _
  | waits | leaves | locks => exact ⟨hpassed, trivial⟩
  | commits | reissues | ends | stops | refuses => exact ⟨hpassed, trivial⟩
  | proved now enforced sid route hproves =>
    obtain ⟨-, hmoments⟩ := touch_moments env now sid hknows
    refine ⟨fun p hp => ?_, knows_letThrough i sid route _ _⟩
    rcases List.mem_cons.mp hp with rfl | hp
    · exact ⟨sh.account, hmoments _ hknows, .inr hproves⟩
    · rw [(touch_passed now sid sh).1] at hp
      exact hpassed p hp
  | unproven now enforced sid route =>
    refine ⟨fun p hp => ?_, (touch_moments env now sid hknows).1⟩
    rw [(touch_passed now sid sh).1] at hp
    exact hpassed p hp
  | noTotp ch sid route hnone =>
    exact ⟨hpassed, hknows, fun hempty =>
      ⟨sh.account, hknows, .inl (hasFactor_eq_false hnone hempty)⟩⟩
  | found ch lo sid route hlo =>
    refine ⟨hpassed, ?_⟩
    rcases hlo with rfl | rfl
    · exact hknows
    · exact hknows.1
  | noFactor ch sid route hnone =>
    refine ⟨fun p hp => ?_, knows_letThrough i sid route sh _⟩
    rcases List.mem_cons.mp hp with rfl | hp
    · exact hknows.2 hnone
    · exact hpassed p hp
  | provedSince ch sid route hproves =>
    refine ⟨fun p hp => ?_, knows_letThrough i sid route sh _⟩
    rcases List.mem_cons.mp hp with rfl | hp
    · exact ⟨sh.account, hknows, .inr hproves⟩
    · exact hpassed p hp

variable {c : Config ι (Shared ι) Phase} {action : ι × Choice} {sid : Uuid}

/-- Where the passkeys are gone after a commit and were not before, the user is without a factor: no
authenticator has taken their place. -/
theorem factorless_of_steady {j : ι} {route : Route} (hsteady : Steady env userId c action)
    (hcommits : Commits env userId c action b) (hj : c.locals j = .noTotp sid route)
    (hbefore : c.shared.account.passkeys ≠ []) (hafter : b.passkeys = []) :
    hasFactor b = false := by
  have htotp : ¬ b.totp.any (·.confirmedAt.isSome) = true := fun htotp =>
    hsteady b hcommits ⟨hbefore, hafter, htotp⟩ j sid route hj
  exact hasFactor_eq_false (Bool.eq_false_iff.mpr htotp) hafter

omit [DecidableEq ι] in
theorem Phase.Knows.publish {j : ι} {lo : Phase} (hknows : lo.Knows j sh)
    (haccount : sh'.account = b) (hmoments : sh'.moments j = b :: sh.moments j)
    (hexcuse : ∀ sid route, lo = .noTotp sid route → b.passkeys = [] →
      sh.account.passkeys = [] ∨ hasFactor b = false) : lo.Knows j sh' := by
  have hseen : sh'.account ∈ sh'.moments j := by
    rw [haccount, hmoments]
    exact List.mem_cons_self
  cases lo with
  | idle | waiting | locked | switching | ending => trivial
  | asked | unproven | factorFound => exact hseen
  | noTotp sid route =>
    refine ⟨hseen, fun hempty => ?_⟩
    rw [hmoments]
    rcases hexcuse sid route rfl (haccount ▸ hempty) with hbefore | hnone
    · exact (hknows.2 hbefore).cons b
    · exact ⟨b, List.mem_cons_self, .inl hnone⟩

theorem refused_step (hsteady : Steady env userId c action)
    (hc : Holds (fun sh => ∀ p ∈ sh.passed, Excused p.1 p.2) (fun i sh lo => lo.Knows i sh) c) :
    Holds (fun sh => ∀ p ∈ sh.passed, Excused p.1 p.2) (fun i sh lo => lo.Knows i sh)
      (move (step env userId) c action) := by
  refine noninterference_config (Steady env userId) (fun sh' lo' hpassed hknows _ h => ?_)
    (fun j sh' lo' hij _ _ hknows _ h => ?_) hc hsteady
  · exact knows_own (moves_of_step h) hknows hpassed
  · cases change_of_moves (moves_of_step h) with
    | same hcommitted hmoments =>
      have haccount : sh'.account = c.shared.account := (List.cons.inj hcommitted).1
      cases hlo : c.locals j with
      | idle | waiting | locked | switching | ending => trivial
      | asked | unproven | factorFound | noTotp =>
        rw [hlo] at hknows
        unfold Phase.Knows at hknows ⊢
        rw [haccount, hmoments j hij]
        exact hknows
    | quiet b hquiet hcommitted hmoments =>
      refine hknows.publish (List.cons.inj hcommitted).1 (hmoments j) fun _ _ _ hempty => .inl ?_
      rw [← hquiet.passkeys]
      exact hempty
    | commits body d b hlo hch hrun htransacts hcommitted hmoments =>
      refine hknows.publish (List.cons.inj hcommitted).1 (hmoments j) fun sid route hj hempty => ?_
      by_cases hbefore : c.shared.account.passkeys = []
      · exact .inl hbefore
      · exact .inr (factorless_of_steady hsteady ⟨body, d, hlo, hch, hrun⟩ hj hbefore hempty)

/-! ### Switches -/

def Settled (a : Account) (sid : Uuid) : Prop := proves a sid = true ∨ hasFactor a = false

def Phase.Relies (sh : Shared ι) : Phase → Prop
  | .switching sid => Settled sh.account sid
  | .noTotp sid .switchDealership => sh.account.passkeys = [] → Settled sh.account sid
  | _ => True

theorem Settled.quiet (hquiet : Quiet a b) (h : Settled a sid) : Settled b sid := by
  unfold Settled
  rw [hquiet.proves sid, hquiet.hasFactor]
  exact h

theorem Settled.transacts (htransacts : Transacts a b)
    (hfirst : hasFactor a = false → hasFactor b = true → proves b sid = true) (h : Settled a sid) :
    Settled b sid := by
  rcases h with hproves | hnone
  · exact htransacts.keeps sid hproves
  · cases hheld : hasFactor b with
    | false => exact .inr hheld
    | true => exact .inl (hfirst hnone hheld)

omit [DecidableEq ι] in
theorem relies_letThrough (route : Route) (sh : Shared ι) {sh₂ : Shared ι}
    (h : Settled sh₂.account sid) : (letThrough i sid route sh).2.Relies sh₂ := by
  unfold letThrough
  cases route with
  | switchDealership => exact h
  | account | revokeSession | other => trivial

theorem relies_own (h : Moves env userId i sh ch lo sh' lo') (hrelies : lo.Relies sh)
    (hreissued : ∀ t ∈ sh.reissued, hasFactor t.2 = true → "mfa" ∈ t.1) :
    (∀ t ∈ sh'.reissued, hasFactor t.2 = true → "mfa" ∈ t.1) ∧ lo'.Relies sh' := by
  cases h with
  | called | waits | leaves | found | refuses | locks => exact ⟨hreissued, trivial⟩
  | commits | ends | stops => exact ⟨hreissued, trivial⟩
  | unproven now enforced sid route =>
    refine ⟨fun t ht => ?_, trivial⟩
    rw [(touch_passed now sid sh).2] at ht
    exact hreissued t ht
  | proved now enforced sid route hproves =>
    refine ⟨fun t ht => ?_, relies_letThrough route _ ?_⟩
    · have ht : t ∈ (touch env now sid sh).reissued := ht
      rw [(touch_passed now sid sh).2] at ht
      exact hreissued t ht
    · have hsettled : Settled sh.account sid := .inl hproves
      unfold letThrough
      rcases touch_cases env now sid sh with htouch | ⟨b, last, hquiet, htouch⟩
      · rw [htouch]
        exact hsettled
      · rw [htouch]
        exact hsettled.quiet hquiet
  | noTotp ch sid route hnone =>
    refine ⟨hreissued, ?_⟩
    cases route with
    | switchDealership => exact fun hempty => .inr (hasFactor_eq_false hnone hempty)
    | account | revokeSession | other => trivial
  | noFactor ch sid route hnone =>
    refine ⟨hreissued, ?_⟩
    cases route with
    | switchDealership => exact hrelies hnone
    | account | revokeSession | other => trivial
  | provedSince ch sid route hproves =>
    exact ⟨hreissued, relies_letThrough route sh (.inl hproves)⟩
  | reissues ch sid row hrow =>
    refine ⟨fun t ht hheld => ?_, trivial⟩
    rcases List.mem_cons.mp ht with rfl | ht
    · rcases hrelies with hproves | hnone
      · obtain ⟨row', hrow', hmfa⟩ := proves_iff.mp hproves
        rw [hrow] at hrow'
        exact Option.some.inj hrow' ▸ hmfa
      · rw [hnone] at hheld
        cases hheld
    · exact hreissued t ht hheld

theorem reissued_step (hok : Steady env userId c action ∧ Unraced env userId c action)
    (hc : Holds (fun sh => ∀ t ∈ sh.reissued, hasFactor t.2 = true → "mfa" ∈ t.1)
      (fun _ sh lo => lo.Relies sh) c) :
    Holds (fun sh => ∀ t ∈ sh.reissued, hasFactor t.2 = true → "mfa" ∈ t.1)
      (fun _ sh lo => lo.Relies sh) (move (step env userId) c action) := by
  refine noninterference_config (fun c action => Steady env userId c action ∧ Unraced env userId c action)
    (fun sh' lo' hreissued hrelies _ h => ?_) (fun j sh' lo' hij _ _ hrelies _ h => ?_) hc hok
  · exact relies_own (moves_of_step h) hrelies hreissued
  · have hsettled : ∀ sid, c.locals j = .switching sid ∨ c.locals j = .noTotp sid .switchDealership →
        Settled c.shared.account sid → Settled sh'.account sid := by
      intro sid hj hsettled
      cases change_of_moves (moves_of_step h) with
      | same hcommitted hmoments => exact (List.cons.inj hcommitted).1 ▸ hsettled
      | quiet b hquiet hcommitted hmoments =>
        exact (List.cons.inj hcommitted).1 ▸ hsettled.quiet hquiet
      | commits body d b hlo hch hrun htransacts hcommitted hmoments =>
        rw [(List.cons.inj hcommitted).1]
        exact hsettled.transacts htransacts fun hnone hfirst =>
          hok.2 b ⟨body, d, hlo, hch, hrun⟩ hnone hfirst j sid hj
    cases hlo : c.locals j with
    | idle | asked | unproven | factorFound | waiting | locked | ending => trivial
    | switching sid =>
      rw [hlo] at hrelies
      exact hsettled sid (.inl hlo) hrelies
    | noTotp sid route =>
      cases route with
      | account | revokeSession | other => trivial
      | switchDealership =>
        intro hempty
        rw [hlo] at hrelies
        by_cases hbefore : c.shared.account.passkeys = []
        · exact hsettled sid (.inr hlo) (hrelies hbefore)
        · -- the passkeys went with this step
          cases change_of_moves (moves_of_step h) with
          | same hcommitted hmoments =>
            rw [(List.cons.inj hcommitted).1] at hempty
            exact absurd hempty hbefore
          | quiet b hquiet hcommitted hmoments =>
            rw [(List.cons.inj hcommitted).1, hquiet.passkeys] at hempty
            exact absurd hempty hbefore
          | commits body d b hlo' hch hrun htransacts hcommitted hmoments =>
            have haccount : sh'.account = b := (List.cons.inj hcommitted).1
            rw [haccount] at hempty ⊢
            exact .inr (factorless_of_steady hok.1 ⟨body, d, hlo', hch, hrun⟩ hlo hbefore hempty)

/-- The request is past a read of its guard that found no factor. -/
def Phase.isUnderWay : Phase → Bool
  | .noTotp .. | .switching _ => true
  | _ => false

def Choice.isGo : Choice → Bool
  | .go .. => true
  | _ => false

theorem conditions_of_calm
    (hcalm : ∀ j, (c.locals j).isUnderWay = true → action.2.isGo = true) :
    Steady env userId c action ∧ Unraced env userId c action := by
  have hquiet : ∀ b, Commits env userId c action b → ∀ j, (c.locals j).isUnderWay ≠ true := by
    rintro b ⟨body, d, -, hcommit, -⟩ j hway
    have hgo := hcalm j hway
    rw [hcommit] at hgo
    cases hgo
  refine ⟨fun b hcommits _ j sid route hj => ?_, fun b hcommits _ _ j sid hj => ?_⟩
  · exact hquiet b hcommits j (by rw [hj]; rfl)
  · rcases hj with hj | hj <;> exact absurd (by rw [hj]; rfl) (hquiet b hcommits j)

end Steps

/-- **Session strength.**  In every run of any number of requests of a user: what is minted while the user
holds a factor carries «mfa», and what is live with «mfa» is of a user who holds one.  Where every commit
of the run leaves the guards steady, every request the guard let through had a moment without a factor, or
with its session proved; and where it leaves the switches unraced too, they sign no weaker token. -/
theorem session_strength {ι : Type} [DecidableEq ι] (env : Env) (userId : Uuid) (user : User)
    (credential : Option Credential) (actions : List (ι × Choice)) :
    (committed (actions.foldl (move (step env userId)) (opening user credential)).shared).IsChain
      MintsStrong ∧
    (∀ a ∈ committed (actions.foldl (move (step env userId)) (opening user credential)).shared,
      ∀ now sid row, a.sessions.lookup sid = some row → row.isLive now = true → "mfa" ∈ row.amr →
        hasFactor a = true) ∧
    (Run.Along (move (step env userId)) (Steady env userId) (opening user credential) actions →
      ∀ p ∈ (actions.foldl (move (step env userId)) (opening user credential)).shared.passed,
        Excused p.1 p.2) ∧ (Run.Along (move (step env userId))
        (fun c action => Steady env userId c action ∧ Unraced env userId c action)
        (opening user credential) actions →
      Strong (actions.foldl (move (step env userId)) (opening user credential)).shared) := by
  have hsound := sound_run env userId user credential actions
  have hstored : ∀ a ∈ committed (actions.foldl (move (step env userId))
      (opening user credential)).shared, ∀ now sid row, a.sessions.lookup sid = some row →
        row.isLive now = true → "mfa" ∈ row.amr → hasFactor a = true := by
    intro a ha now sid row hrow hlive hmfa
    unfold AuthSession.isLive at hlive
    simp only [Bool.and_eq_true, Option.isNone_iff_eq_none] at hlive
    exact (hsound.proven a ha).sessions sid row hrow hlive.1.1 hmfa
  have hrefused : Run.Along (move (step env userId)) (Steady env userId) (opening user credential)
      actions → ∀ p ∈ (actions.foldl (move (step env userId)) (opening user credential)).shared.passed,
        Excused p.1 p.2 := by
    intro halong
    have hopening : Holds (fun sh => ∀ p ∈ sh.passed, Excused p.1 p.2)
        (fun i sh lo => lo.Knows i sh) (opening user credential : Config ι (Shared ι) Phase) :=
      ⟨fun p hp => absurd hp List.not_mem_nil, fun _ => trivial⟩
    exact (Run.invariant_along (fun c action hc hsteady => refused_step hsteady hc) hopening halong).1
  refine ⟨hsound.minted, hstored, hrefused, fun halong => ⟨hsound.minted, hstored, ?_, ?_⟩⟩
  · exact hrefused (halong.mono fun _ _ hok => hok.1)
  · have hopening : Holds (fun sh => ∀ t ∈ sh.reissued, hasFactor t.2 = true → "mfa" ∈ t.1)
        (fun _ sh lo => lo.Relies sh) (opening user credential : Config ι (Shared ι) Phase) :=
      ⟨fun t ht => absurd ht List.not_mem_nil, fun _ => trivial⟩
    exact (Run.invariant_along (fun c action hc hok => reissued_step hok hc) hopening halong).1

/-! ### A swap, and a switch -/

def oneUser : User := { tenantId := 1, email := "a@b.ch", status := .active }

/-- A login of request `i`, which makes the session `sid`. -/
def logIn (i sid : ℕ) : List (ℕ × Choice) :=
  [(i, .request (.frontDoor (.login 0 "old"))), (i, .go 0 false), (i, .commit { id := sid })]

/-- Request `i` of the session `sid` for a route that locks the user row. -/
def call (i sid : ℕ) (route : AccountRoute) (reads id : ℕ) : List (ℕ × Choice) :=
  (i, .request (.call sid (.account route))) :: List.replicate reads (i, .go 0 false) ++
    [(i, .commit { id })]

/-- Two devices sign in; on the second, session 11, an authenticator is enrolled. -/
def enrolsTotp (reads : ℕ) : List (ℕ × Choice) :=
  call 2 11 (.totpEnrol "JBSWY3DPEHPK3PXP") reads 20 ++ call 2 11 (.totpConfirm "282760") reads 21

/-- Request `i` of the session `sid` for any other route. -/
def asks (i sid : ℕ) (route : Route) (reads : ℕ) : List (ℕ × Choice) :=
  (i, .request (.call sid route)) :: List.replicate reads (i, .go 0 false)

/-- Session 11 enrols an authenticator; session 10 is refused; the authenticator is removed, and session
11 switches the dealership. -/
def enrolledAndRemoved : List (Fin 3 × Choice) :=
  (logIn 1 10 ++ logIn 2 11 ++ enrolsTotp 4 ++ asks 1 10 (.other true) 4 ++ call 2 11 .totpRemove 2 40 ++
    asks 2 11 .switchDealership 4).map fun action => (Fin.ofNat 3 action.1, action.2)

theorem session_strength_enrolledAndRemoved :
    (enrolledAndRemoved.foldl (move (step SignIn.oneAuthenticator 1))
      (opening oneUser (some { password := "old" }))).shared.passed.map (·.1) = [11, 11, 11, 11] ∧
    (enrolledAndRemoved.foldl (move (step SignIn.oneAuthenticator 1))
      (opening oneUser (some { password := "old" }))).shared.reissued.map (·.1) = [["pwd"]] ∧
    Strong (enrolledAndRemoved.foldl (move (step SignIn.oneAuthenticator 1))
      (opening oneUser (some { password := "old" }))).shared := by
  -- whenever a transaction commits, no other request is between its guard and what it does
  have hcalm : Run.Along (move (step SignIn.oneAuthenticator 1)) (fun c action =>
      ∀ j, (c.locals j).isUnderWay = true → action.2.isGo = true)
      (opening oneUser (some { password := "old" })) enrolledAndRemoved := by decide +kernel
  refine ⟨by decide +kernel, by decide +kernel, ?_⟩
  exact (session_strength SignIn.oneAuthenticator 1 oneUser (some { password := "old" })
    enrolledAndRemoved).2.2.2 (hcalm.mono fun _ _ => conditions_of_calm)

/-- Session 10 asks for a route while session 11 puts an authenticator in the place of its passkey: the
guard finds no authenticator at first, and no passkey then. -/
def swappedBetween : List (ℕ × Choice) :=
  logIn 1 10 ++ logIn 2 11 ++ call 2 11 .passkeyRegisterOptions 4 30 ++
    call 2 11 (.passkeyRegister 30 "key" true) 4 31 ++
    [(1, .request (.call 10 (.other true))), (1, .go 0 false), (1, .go 0 false)] ++
    enrolsTotp 2 ++ call 2 11 (.passkeyRemove "key") 2 32 ++ [(1, .go 0 false)]

/-- Session 10 passes the guard to switch the dealership; session 11 enrols an authenticator, and then
the token is signed. -/
def enrolledMeanwhile : List (ℕ × Choice) :=
  logIn 1 10 ++ logIn 2 11 ++ [(1, .request (.call 10 .switchDealership)), (1, .go 0 false),
    (1, .go 0 false), (1, .go 0 false)] ++ enrolsTotp 4 ++ [(1, .go 0 false)]

/-- **A weak session gets through** while its user holds a factor all along; and a switch signs a token
without «mfa» when its user holds one. -/
theorem session_strength_fails :
    (¬ ∀ p ∈ (swappedBetween.foldl (move (step SignIn.oneAuthenticator 1))
      (opening oneUser (some { password := "old" }))).shared.passed, Excused p.1 p.2) ∧
    ¬ ∀ t ∈ (enrolledMeanwhile.foldl (move (step SignIn.oneAuthenticator 1))
      (opening oneUser (some { password := "old" }))).shared.reissued,
        hasFactor t.2 = true → "mfa" ∈ t.1 := by
  constructor
  · intro h
    have hpassed : ((swappedBetween.foldl (move (step SignIn.oneAuthenticator 1))
        (opening oneUser (some { password := "old" }))).shared.passed.any fun p =>
          p.2.all fun a => hasFactor a && !(proves a p.1)) = true := by decide +kernel
    obtain ⟨p, hp, hall⟩ := List.any_eq_true.mp hpassed
    obtain ⟨a, ha, hexcuse⟩ := h p hp
    have hweak := List.all_eq_true.mp hall a ha
    rw [Bool.and_eq_true, Bool.not_eq_true'] at hweak
    rcases hexcuse with hnone | hproves
    · rw [hnone] at hweak
      cases hweak.1
    · rw [hproves] at hweak
      cases hweak.2
  · intro h
    have hreissued : ((enrolledMeanwhile.foldl (move (step SignIn.oneAuthenticator 1))
        (opening oneUser (some { password := "old" }))).shared.reissued.any fun t =>
          hasFactor t.2 && t.1 == ["pwd"]) = true := by decide +kernel
    obtain ⟨t, ht, hweak⟩ := List.any_eq_true.mp hreissued
    rw [Bool.and_eq_true, beq_iff_eq] at hweak
    have hmfa := h t ht hweak.1
    rw [hweak.2] at hmfa
    exact absurd hmfa (by decide)

end Nexotec.SessionStrength
