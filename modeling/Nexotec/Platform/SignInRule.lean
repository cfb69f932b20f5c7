/-
A rule for what holds of an account in every run of the front door.

What an account and its history are, is known to the request that has the user
row; while nobody has it, an assertion `free` holds.  A request that has the row
carries `judged` once the throttle has let it through and `decided` once its
check is made; it may end at any point and has then to give `free` back.  The
rule turns one lemma per statement of the code into an invariant of every
interleaving.

* `Assertions`, `Valid` — the assertions and the lemmas about the statements.
-/
import Nexotec.Platform.SignIn

namespace Nexotec.SignIn

open Platform Auth Locks Interleaving

/-- What an assertion about one user speaks of. -/
structure View where
  userId : Uuid
  now : Time
  drawn : List Uuid
  history : List Event
  /-- The committed account. -/
  account : Account

structure Assertions where
  free : View → Prop
  judged : View → Work → Account → Prop
  decided : View → Work → Account → Time → Option Factor → Prop

/-- The lemmas about the statements.  `ok` restricts the steps. -/
structure Valid (env : Env) (ok : Time → Choice → Session → Prop) (A : Assertions) : Prop where
  later_free : ∀ {v : View} {now : Time} {drawn : List Uuid}, v.now ≤ now → v.drawn ⊆ drawn →
    A.free v → A.free { v with now := now, drawn := drawn }
  later_judged : ∀ {v : View} {now : Time} {drawn : List Uuid} {work : Work} {draft : Account},
    v.now ≤ now → v.drawn ⊆ drawn → A.judged v work draft →
    A.judged { v with now := now, drawn := drawn } work draft
  later_decided : ∀ {v : View} {now : Time} {drawn : List Uuid} {work : Work} {draft : Account}
    {time : Time} {verdict : Option Factor}, v.now ≤ now → v.drawn ⊆ drawn →
    A.decided v work draft time verdict →
    A.decided { v with now := now, drawn := drawn } work draft time verdict
  ran : ∀ {v : View} {work : Work} {userId id : Uuid} {taken : Bool} {b : Account}
    {events : List Event}, A.free v → id ∉ v.drawn → work.isAttempt = false →
    work.run env v.now userId id taken v.account = .ok (b, events) →
    A.free { v with drawn := id :: v.drawn, history := events ++ v.history, account := b }
  ended : ∀ {v : View} {work : Work} {b : Account}, A.free v →
    work.judge env v.now v.account = .ended b → A.free { v with account := b }
  allowed : ∀ {v : View} {work : Work} {draft : Account}, A.free v → work.isAttempt = true →
    work.judge env v.now v.account = .allowed draft → A.judged v work draft
  checked : ∀ {v : View} {work : Work} {draft draft' : Account} {verdict : Option Factor},
    A.judged v work draft → work.isAttempt = true →
    work.check env v.now draft = .ok (verdict, draft') →
    A.decided { v with history := work.checked v.now verdict :: v.history }
      work draft' v.now verdict
  finished : ∀ {v : View} {work : Work} {userId id : Uuid} {draft b : Account} {time : Time}
    {verdict : Option Factor} {events : List Event}, A.decided v work draft time verdict →
    ok v.now (.go id) (.decided userId work draft time verdict) → work.isAttempt = true →
    id ∉ v.drawn → work.finish env v.now id draft verdict = .ok (b, events) →
    A.free { v with drawn := id :: v.drawn, history := events ++ v.history, account := b }
  unfinished : ∀ {v : View} {work : Work} {userId id : Uuid} {draft : Account} {time : Time}
    {verdict : Option Factor} {e : AppError}, A.decided v work draft time verdict →
    ok v.now (.go id) (.decided userId work draft time verdict) →
    work.finish env v.now id draft verdict = .error e → A.free v
  failed_judged : ∀ {v : View} {work : Work} {draft : Account}, A.judged v work draft → A.free v
  failed : ∀ {v : View} {work : Work} {userId : Uuid} {draft : Account} {time : Time}
    {verdict : Option Factor}, A.decided v work draft time verdict →
    ok v.now .fail (.decided userId work draft time verdict) → A.free v

section

variable {ι : Type} {env : Env} {ok : Time → Choice → Session → Prop} {A : Assertions}

def Unheld (sh : Shared ι) (userId : Uuid) : Prop := ∀ j, ¬ Held sh.grants j userId .noKeyUpdate

def view (sh : Shared ι) (userId : Uuid) (a : Account) : View :=
  ⟨userId, sh.now, sh.drawn, sh.history userId, a⟩

/-- The lock table is sound and the accounts nobody has are free. -/
structure Guarded (A : Assertions) (sh : Shared ι) : Prop where
  compatible : Compatible sh.grants
  free : ∀ userId a, Unheld sh userId → sh.accounts.lookup userId = some a →
    A.free (view sh userId a)

def Asserts (A : Assertions) (sh : Shared ι) : Session → Prop
  | .idle | .started .. | .waiting .. => True
  | .locked userId _ a => A.free (view sh userId a)
  | .judged userId work draft => ∃ a, sh.accounts.lookup userId = some a ∧
    A.judged (view sh userId a) work draft
  | .decided userId work draft time verdict => ∃ a, sh.accounts.lookup userId = some a ∧
    A.decided (view sh userId a) work draft time verdict

variable {i : ι} {sh : Shared ι} {userId : Uuid}

theorem unheld_of_free (hfree : Free sh.grants i userId .noKeyUpdate)
    (hnone : ∀ r m, ¬ Held sh.grants i r m) : Unheld sh userId := by
  intro j hheld
  obtain rfl : j = i := hfree _ hheld rfl rfl
  exact hnone _ _ hheld

theorem unheld_of_release [DecidableEq ι] {id : Uuid} (hholding : Holding i sh userId)
    (hne : id ≠ userId) (h : ∀ j, ¬ Held (Locks.release i sh.grants) j id .noKeyUpdate) :
    Unheld sh id := by
  intro j hheld
  by_cases hj : j = i
  · subst hj
    exact hne (hholding.only _ _ hheld)
  · exact h j (held_release.mpr ⟨hheld, hj⟩)

theorem asserts_respects (hA : Valid env ok A) {j : ι} {sh' : Shared ι} {lo : Session}
    (hknows : Knows env j sh lo) (h : Asserts A sh lo) (hrespects : Respects j sh sh') :
    Asserts A sh' lo := by
  -- the view of a user the session has moves on in time only
  have hview : ∀ userId a, Held sh.grants j userId .noKeyUpdate →
      view sh' userId a = { view sh userId a with now := sh'.now, drawn := sh'.drawn } := by
    intro userId a hheld
    rw [view, view, hrespects.history userId hheld]
  cases lo with
  | idle | started | waiting => trivial
  | locked userId work a =>
    change A.free (view sh' userId a)
    rw [hview userId a hknows.1.held]
    exact hA.later_free hrespects.later hrespects.drawn h
  | judged userId work draft =>
    obtain ⟨a, ha, h⟩ := h
    refine ⟨a, (hrespects.account _ hknows.1.held).trans ha, ?_⟩
    rw [hview userId a hknows.1.held]
    exact hA.later_judged hrespects.later hrespects.drawn h
  | decided userId work draft time verdict =>
    obtain ⟨a, ha, h⟩ := h
    refine ⟨a, (hrespects.account _ hknows.1.held).trans ha, ?_⟩
    rw [hview userId a hknows.1.held]
    exact hA.later_decided hrespects.later hrespects.drawn h

section

variable [DecidableEq ι] {i : ι} {sh sh' : Shared ι} {ch : Choice} {lo lo' : Session} {id : Uuid}

omit [DecidableEq ι] in
/-- The accounts nobody has, after a step that leaves accounts and histories. -/
theorem Guarded.quiet (hA : Valid env ok A) (hguarded : Guarded A sh)
    (hcompatible : Compatible sh'.grants) (hunheld : ∀ userId, Unheld sh' userId → Unheld sh userId)
    (haccounts : sh'.accounts = sh.accounts) (hhistory : sh'.history = sh.history)
    (hlater : sh.now ≤ sh'.now) (hdrawn : sh.drawn ⊆ sh'.drawn) : Guarded A sh' := by
  refine ⟨hcompatible, fun userId a hfree ha => ?_⟩
  rw [haccounts] at ha
  have hview : view sh' userId a = { view sh userId a with now := sh'.now, drawn := sh'.drawn } := by
    rw [view, view, hhistory]
  rw [hview]
  exact hA.later_free hlater hdrawn (hguarded.free userId a (hunheld userId hfree) ha)

theorem Guarded.rollback (hguarded : Guarded A sh) {userId : Uuid} (hholding : Holding i sh userId)
    (hown : ∀ a, sh.accounts.lookup userId = some a → A.free (view sh userId a)) :
    Guarded A (rollback i sh) := by
  refine ⟨hguarded.compatible.release, fun id a hfree ha => ?_⟩
  by_cases hid : id = userId
  · subst hid
    exact hown a ha
  · exact hguarded.free id a (unheld_of_release hholding hid hfree) ha

theorem Guarded.commit (hA : Valid env ok A) (hguarded : Guarded A sh) {userId : Uuid}
    {out : Account × List Event} (hholding : Holding i sh userId)
    (hown : A.free { view sh userId out.1 with
      drawn := id :: sh.drawn, history := out.2 ++ sh.history userId }) :
    Guarded A (draw id (commit i userId out sh)) := by
  refine ⟨hguarded.compatible.release, fun id' a hfree ha => ?_⟩
  rcases Table.lookup_insert_cases ha with ⟨rfl, rfl⟩ | ⟨hne, hold⟩
  · have hview : view (draw id (SignIn.commit i id' out sh)) id' out.1 = { view sh id' out.1 with
        drawn := id :: sh.drawn, history := out.2 ++ sh.history id' } := by
      simp [view, draw, SignIn.commit]
    rw [hview]
    exact hown
  · have hview : view (draw id (SignIn.commit i userId out sh)) id' a =
        { view sh id' a with now := sh.now, drawn := id :: sh.drawn } := by
      simp [view, draw, SignIn.commit, Function.update_of_ne hne]
    rw [hview]
    exact hA.later_free le_rfl (List.subset_cons_self _ _)
      (hguarded.free id' a (unheld_of_release hholding hne hfree) hold)

omit [DecidableEq ι] in
theorem Guarded.draw (hA : Valid env ok A) (h : Guarded A sh) (id : Uuid) :
    Guarded A (SignIn.draw id sh) :=
  h.quiet hA h.compatible (fun _ h => h) rfl rfl le_rfl (List.subset_cons_self _ _)

theorem guarded_moves (hA : Valid env ok A) (hguarded : Guarded A sh) (hknows : Knows env i sh lo)
    (hasserts : Asserts A sh lo) (hok : ok sh.now ch lo) (h : Moves env i sh ch lo sh' lo') :
    Guarded A sh' := by
  cases h with
  | asked => exact hguarded
  | found | allowed | refused | missing => exact hguarded.draw hA _
  | locked id userId work a ha hfree =>
    have hacquired : Guarded A { sh with grants := acquire i userId .noKeyUpdate sh.grants } :=
      hguarded.quiet hA (hguarded.compatible.acquire hfree)
        (fun userId' hunheld j hheld => hunheld j (held_acquire.mpr (.inr hheld))) rfl rfl le_rfl
        (List.Subset.refl _)
    exact hacquired.draw hA id
  | ended id userId work a a' hattempt hjudge =>
    refine hguarded.commit hA hknows.1 ?_
    exact hA.later_free le_rfl (List.subset_cons_self _ _) (hA.ended hasserts hjudge)
  | ran id userId work a taken out hfresh hattempt hrun =>
    exact hguarded.commit hA hknows.1 (hA.ran (v := view sh userId a) hasserts hfresh hattempt hrun)
  | checked id userId work draft draft' verdict hcheck =>
    have hrecorded : Guarded A (record userId (work.checked sh.now verdict) sh) := by
      refine ⟨hguarded.compatible, fun userId' a hfree ha => ?_⟩
      -- the user of the check is not free
      have hne : userId' ≠ userId := by
        rintro rfl
        exact hfree i hknows.1.held
      have hview : view (record userId (work.checked sh.now verdict) sh) userId' a =
          view sh userId' a := by
        simp [view, record, Function.update_of_ne hne]
      rw [hview]
      exact hguarded.free userId' a hfree ha
    exact hrecorded.draw hA id
  | finished id userId work draft time verdict out hfresh hfinish =>
    obtain ⟨a, ha, hdecided⟩ := hasserts
    exact hguarded.commit hA hknows.1
      (hA.finished (v := view sh userId a) hdecided hok hknows.2.1 hfresh hfinish)
  | raised id userId work a =>
    refine Guarded.draw hA (hguarded.rollback hknows.1 fun a' ha' => ?_) _
    obtain rfl : a' = a := Option.mem_unique ha' hknows.2
    exact hasserts
  | checkRaised id userId work draft e hcheck =>
    obtain ⟨a, ha, hjudged⟩ := hasserts
    refine Guarded.draw hA (hguarded.rollback hknows.1 fun a' ha' => ?_) _
    obtain rfl : a' = a := Option.mem_unique ha' ha
    exact hA.failed_judged hjudged
  | unfinished id userId work draft time verdict e hfinish =>
    obtain ⟨a, ha, hdecided⟩ := hasserts
    refine Guarded.draw hA (hguarded.rollback hknows.1 fun a' ha' => ?_) _
    obtain rfl : a' = a := Option.mem_unique ha' ha
    exact hA.unfinished hdecided hok hfinish
  | failed lo =>
    cases lo with
    | idle | started | waiting =>
      refine hguarded.quiet hA hguarded.compatible.release (fun userId hunheld j hheld => ?_) rfl rfl
        le_rfl (List.Subset.refl _)
      refine hunheld j (held_release.mpr ⟨hheld, ?_⟩)
      rintro rfl
      exact hknows _ _ hheld
    | locked userId work a =>
      refine hguarded.rollback hknows.1 fun a' ha' => ?_
      obtain rfl : a' = a := Option.mem_unique ha' hknows.2
      exact hasserts
    | judged userId work draft =>
      obtain ⟨a, ha, hjudged⟩ := hasserts
      refine hguarded.rollback hknows.1 fun a' ha' => ?_
      obtain rfl : a' = a := Option.mem_unique ha' ha
      exact hA.failed_judged hjudged
    | decided userId work draft time verdict =>
      obtain ⟨a, ha, hdecided⟩ := hasserts
      refine hguarded.rollback hknows.1 fun a' ha' => ?_
      obtain rfl : a' = a := Option.mem_unique ha' ha
      exact hA.failed hdecided hok
  | tick now =>
    exact hguarded.quiet hA hguarded.compatible (fun _ h => h) rfl rfl (le_max_left _ _)
      (List.Subset.refl _)

theorem asserts_moves (hA : Valid env ok A) (hguarded : Guarded A sh) (hknows : Knows env i sh lo)
    (hasserts : Asserts A sh lo) (h : Moves env i sh ch lo sh' lo') : Asserts A sh' lo' := by
  cases h with
  | asked | found | refused | missing | ended | ran | finished | raised | checkRaised | unfinished
  | failed => trivial
  | locked id userId work a ha hfree =>
    exact hA.later_free le_rfl (List.subset_cons_self _ _)
      (hguarded.free userId a (unheld_of_free hfree hknows) ha)
  | allowed id userId work a draft hattempt hjudge =>
    refine ⟨a, hknows.2, ?_⟩
    exact hA.later_judged (v := view sh userId a) le_rfl (List.subset_cons_self _ _)
      (hA.allowed hasserts hattempt hjudge)
  | checked id userId work draft draft' verdict hcheck =>
    obtain ⟨a, ha, hjudged⟩ := hasserts
    refine ⟨a, ha, ?_⟩
    have hview : view (draw id (record userId (work.checked sh.now verdict) sh)) userId a =
        ⟨userId, sh.now, id :: sh.drawn, work.checked sh.now verdict :: sh.history userId, a⟩ := by
      simp [view, draw, record]
    rw [hview]
    exact hA.later_decided (v := { view sh userId a with
        history := work.checked sh.now verdict :: sh.history userId }) le_rfl
      (List.subset_cons_self _ _) (hA.checked hjudged hknows.2.1 hcheck)
  | tick now => exact asserts_respects hA hknows hasserts respects_tick

/-- What the system asserts of every user and every session. -/
abbrev Covered (env : Env) (A : Assertions) : Config ι (Shared ι) Session → Prop :=
  Holds (Guarded A) fun i sh lo => Knows env i sh lo ∧ Asserts A sh lo

variable {c : Config ι (Shared ι) Session}

theorem move_covered (hA : Valid env ok A) {a : ι × Choice} (hc : Covered env A c)
    (ha : ok c.shared.now a.2 (c.locals a.1)) : Covered env A (move (step env) c a) := by
  refine noninterference (fun _ ch sh lo => ok sh.now ch lo)
    (fun i ch sh lo sh' lo' hG hL hok h => ?_)
    (fun i j ch sh lo lo' sh' lo'' hij hG hLi hLj _ h => ?_) hc ha
  · have hmoves := moves_of_step h
    exact ⟨guarded_moves hA hG hL.1 hL.2 hok hmoves, knows_moves hL.1 hmoves,
      asserts_moves hA hG hL.1 hL.2 hmoves⟩
  · have hrespects := respects_moves hij.symm hG.compatible hLi.1 (moves_of_step h)
    exact ⟨knows_respects hLj.1 hrespects, asserts_respects hA hLj.1 hLj.2 hrespects⟩

def Assertions.Some (A : Assertions) (v : View) : Prop :=
  A.free v ∨ (∃ work draft, A.judged v work draft) ∨
    ∃ work draft time verdict, A.decided v work draft time verdict

omit [DecidableEq ι] in
theorem Covered.some (hc : Covered env A c) {a : Account}
    (ha : c.shared.accounts.lookup userId = some a) : A.Some (view c.shared userId a) := by
  by_cases hunheld : Unheld c.shared userId
  · exact .inl (hc.1.free userId a hunheld ha)
  · -- somebody has the row, and that one is past its lock
    simp only [Unheld, not_forall, not_not] at hunheld
    obtain ⟨j, hheld⟩ := hunheld
    obtain ⟨hknows, hasserts⟩ := hc.2 j
    cases hlo : c.locals j with
    | idle | started | waiting =>
      rw [hlo] at hknows
      exact (hknows _ _ hheld).elim
    | locked id work draft =>
      rw [hlo] at hknows hasserts
      obtain rfl := hknows.1.only _ _ hheld
      obtain rfl : draft = a := Option.mem_unique hknows.2 ha
      exact .inl hasserts
    | judged id work draft =>
      rw [hlo] at hknows hasserts
      obtain rfl := hknows.1.only _ _ hheld
      obtain ⟨a', ha', hjudged⟩ := hasserts
      obtain rfl : a' = a := Option.mem_unique ha' ha
      exact .inr (.inl ⟨work, draft, hjudged⟩)
    | decided id work draft time verdict =>
      rw [hlo] at hknows hasserts
      obtain rfl := hknows.1.only _ _ hheld
      obtain ⟨a', ha', hdecided⟩ := hasserts
      obtain rfl : a' = a := Option.mem_unique ha' ha
      exact .inr (.inr ⟨work, draft, time, verdict, hdecided⟩)

/-- In every run one of the assertions holds of each account. -/
theorem guarded_run (hA : Valid env ok A) (now : Time) (accounts : Table Uuid Account)
    (actions : List (ι × Choice)) (hstart : ∀ userId a, accounts.lookup userId = some a →
      A.free (view (opening now accounts : Config ι (Shared ι) Session).shared userId a))
    (hok : Run.Along (move (step env)) (fun c a => ok c.shared.now a.2 (c.locals a.1))
      (opening now accounts) actions) : ∀ userId a,
      (actions.foldl (move (step env)) (opening now accounts)).shared.accounts.lookup userId = some a →
      A.Some (view (actions.foldl (move (step env)) (opening now accounts)).shared userId a) := by
  have hfirst : Covered env A (opening now accounts : Config ι (Shared ι) Session) :=
    ⟨⟨Compatible.nil, fun userId a _ ha => hstart userId a ha⟩,
      fun _ => ⟨nofun, trivial⟩⟩
  have hend := Run.invariant_along (fun c a hc ha => move_covered hA hc ha) hfirst hok
  exact fun userId a ha => hend.some ha

end

end

end Nexotec.SignIn
