/-
An accepted token carries the current entitlements.

Minting reads the version before the rows.  A PUT that commits in between leaves a version
the token does not have, and one that has committed before has begun and ended its rows by a
time the minting session's clock has passed.
-/
import Nexotec.Platform.Entitlements

namespace Nexotec.Entitlements

open Interleaving Run

section Rows

variable {rows : Rows} {now now' : Time} {actorId : Uuid} {wanted : Finset ModuleCode}

/-- Every row has begun by `now`, and has ended by then if it ends. -/
def Past (rows : Rows) (now : Time) : Prop :=
  ∀ module row, rows module = some row → row.validFrom ≤ now ∧ ∀ validTo ∈ row.validTo, validTo ≤ now

def openModules (rows : Rows) : Finset ModuleCode :=
  Finset.univ.filter fun module => (rows module).any (·.validTo = none)

theorem Past.mono (h : Past rows now) (hnow : now ≤ now') : Past rows now' :=
  fun module row hrow => ⟨(h module row hrow).1.trans hnow,
    fun validTo hvalidTo => ((h module row hrow).2 validTo hvalidTo).trans hnow⟩

theorem isActive_of_past {row : ModuleEntitlement} (hfrom : row.validFrom ≤ now)
    (hto : ∀ validTo ∈ row.validTo, validTo ≤ now) :
    row.isActive now = decide (row.validTo = none) := by
  rw [ModuleEntitlement.isActive, decide_eq_decide]
  constructor
  · rintro ⟨-, hnone | ⟨validTo, hmem, hlt⟩⟩
    · exact hnone
    · exact absurd (hto validTo hmem) (not_le.mpr hlt)
  · exact fun hnone => ⟨hfrom, .inl hnone⟩

/-- Once every row has begun, and ended if it ends, the clock no longer matters. -/
theorem listActiveModules_of_past (h : Past rows now) : listActiveModules rows now = openModules rows := by
  ext module
  rw [listActiveModules, openModules, Finset.mem_filter, Finset.mem_filter]
  cases hrow : rows module with
  | none => simp
  | some row =>
    obtain ⟨hfrom, hto⟩ := h module row hrow
    rw [Option.any_some, Option.any_some, isActive_of_past hfrom hto]

theorem setRow_cases (h : ∀ row, rows module = some row → row.validFrom ≤ now ∧
      ∀ validTo ∈ row.validTo, validTo ≤ now) (keep : Bool) :
    ((setRow now actorId keep (rows module)).any (·.validTo = none) = keep) ∧
      (∀ row, setRow now actorId keep (rows module) = some row → row.validFrom ≤ now ∧
        ∀ validTo ∈ row.validTo, validTo ≤ now) ∧ (keep = (rows module).any (·.validTo = none) →
        setRow now actorId keep (rows module) = rows module) := by
  have hnew : (ModuleEntitlement.mk now (some actorId) now none).validFrom ≤ now ∧
      ∀ validTo ∈ (ModuleEntitlement.mk now (some actorId) now none).validTo, validTo ≤ now :=
    ⟨le_refl now, nofun⟩
  cases hrow : rows module with
  | none =>
    cases keep with
    | true =>
      refine ⟨rfl, fun row hset => ?_, nofun⟩
      cases hset
      exact hnew
    | false => exact ⟨rfl, (nofun), fun _ => rfl⟩
  | some row =>
    obtain ⟨hfrom, hto⟩ := h row hrow
    have hactive := isActive_of_past hfrom hto
    by_cases hend : row.validTo = none
    · -- an open row: kept, or ended now
      rw [decide_eq_true hend] at hactive
      cases keep with
      | true =>
        have hset : setRow now actorId true (some row) = some row := by
          simp [setRow, hactive]
        rw [hset]
        refine ⟨by simp [hend], fun row' hrow' => ?_, fun _ => rfl⟩
        cases hrow'
        exact ⟨hfrom, hto⟩
      | false =>
        have hset : setRow now actorId false (some row) = some { row with validTo := some now } := by
          simp [setRow, hactive]
        rw [hset]
        refine ⟨by simp, fun row' hrow' => ?_, fun heq => ?_⟩
        · cases hrow'
          exact ⟨hfrom, fun validTo hvalidTo => (Option.some.inj hvalidTo).symm.le⟩
        · rw [Option.any_some, decide_eq_true hend] at heq
          cases heq
    · -- an ended row: left alone, or reopened
      rw [decide_eq_false hend] at hactive
      cases keep with
      | true =>
        have hset : setRow now actorId true (some row) =
            some (ModuleEntitlement.mk now (some actorId) now none) := by
          simp [setRow, hactive]
        rw [hset]
        refine ⟨by simp, fun row' hrow' => ?_, fun heq => ?_⟩
        · cases hrow'
          exact hnew
        · rw [Option.any_some, decide_eq_false hend] at heq
          cases heq
      | false =>
        have hset : setRow now actorId false (some row) = some row := by
          simp [setRow, hactive]
        rw [hset]
        refine ⟨by simp [hend], fun row' hrow' => ?_, fun _ => rfl⟩
        cases hrow'
        exact ⟨hfrom, hto⟩

theorem openModules_setRows (h : Past rows now) : openModules (setRows now actorId wanted rows) = wanted := by
  ext module
  rw [openModules, Finset.mem_filter, setRows, (setRow_cases (h module) _).1]
  simp

theorem past_setRows (h : Past rows now) : Past (setRows now actorId wanted rows) now :=
  fun module row hrow => (setRow_cases (h module) _).2.1 row hrow

theorem setRows_openModules (h : Past rows now) : setRows now actorId (openModules rows) rows = rows := by
  funext module
  refine (setRow_cases (h module) _).2.2 ?_
  rw [openModules]
  simp

end Rows

/-! ### The invariant -/

variable {ι : Type} {i j : ι} {licences : Licences} {sh sh' : Shared ι} {lo lo' : Local}

/-- A version with a set: not newer than the dealership's, and if it is the dealership's the
set is what was last asked for. -/
def Vouched (licences : Licences) (sh : Shared ι) (dealershipId : Uuid) (version : ℕ)
    (modules : Finset ModuleCode) : Prop :=
  ∃ dealership, sh.dealerships.lookup dealershipId = some dealership ∧
    version ≤ dealership.entitlementsVersion ∧
    (version = dealership.entitlementsVersion → modules = lastAsked licences sh.commits dealershipId)

/-- What holds of the committed rows, the tokens and the PUTs. -/
structure Good (licences : Licences) (sh : Shared ι) : Prop where
  past : ∀ id, Past (sh.entitlements id) sh.clock
  asked : ∀ id, openModules (sh.entitlements id) = lastAsked licences sh.commits id
  commits : ∀ c ∈ sh.commits, Vouched licences sh c.dealershipId c.entitlementsVersion c.modules
  unique : ∀ c ∈ sh.commits, ∀ c' ∈ sh.commits, c.dealershipId = c'.dealershipId →
    c.entitlementsVersion = c'.entitlementsVersion → c.modules = c'.modules
  tokens : ∀ token ∈ sh.tokens,
    Vouched licences sh token.tenantId token.entitlementsVersion token.entitlements

/-- A session that mints: its version is not newer than the dealership's, and while that is
the version, the clock it has read is past every row. -/
def Minting (sh : Shared ι) (dealershipId : Uuid) (version : ℕ) (now : Option Time) : Prop :=
  ∃ dealership, sh.dealerships.lookup dealershipId = some dealership ∧
    version ≤ dealership.entitlementsVersion ∧ ∀ t ∈ now,
      version = dealership.entitlementsVersion → Past (sh.entitlements dealershipId) t

/-- A session that holds the row lock, with the row as it is. -/
def Holding (i : ι) (sh : Shared ι) (call : Call) (dealership : Dealership) : Prop :=
  sh.lock call.dealershipId = some i ∧ sh.dealerships.lookup call.dealershipId = some dealership

def Knows (i : ι) (sh : Shared ι) : Local → Prop
  | .idle => True
  | .minting dealershipId dealership =>
    Minting sh dealershipId dealership.entitlementsVersion none
  | .reading dealershipId dealership now =>
    Minting sh dealershipId dealership.entitlementsVersion (some now)
  | .setting call dealership => Holding i sh call dealership
  | .planning call dealership now => Holding i sh call dealership ∧ now ≤ sh.clock ∧
      Past (sh.entitlements call.dealershipId) now
  | .writing call dealership now rows => Holding i sh call dealership ∧ now ≤ sh.clock ∧
      Past (sh.entitlements call.dealershipId) now ∧ rows = sh.entitlements call.dealershipId

/-- What a step of session `i` does to the others: a version that stays vouches for the rows,
and a locked dealership stays as it is. -/
structure Frame (i : ι) (sh sh' : Shared ι) : Prop where
  clock : sh.clock ≤ sh'.clock
  lock : ∀ id j, j ≠ i → sh.lock id = some j → sh'.lock id = some j
  version : ∀ id dealership, sh.dealerships.lookup id = some dealership →
    ∃ dealership', sh'.dealerships.lookup id = some dealership' ∧
      dealership.entitlementsVersion ≤ dealership'.entitlementsVersion ∧
      (dealership.entitlementsVersion = dealership'.entitlementsVersion →
        sh'.entitlements id = sh.entitlements id)
  held : ∀ id j, j ≠ i → sh.lock id = some j →
    sh'.dealerships.lookup id = sh.dealerships.lookup id ∧ sh'.entitlements id = sh.entitlements id

theorem frame_of_same (hclock : sh.clock ≤ sh'.clock)
    (hlock : ∀ id j, j ≠ i → sh.lock id = some j → sh'.lock id = some j)
    (hdealerships : sh'.dealerships = sh.dealerships) (hrows : sh'.entitlements = sh.entitlements) :
    Frame i sh sh' where
  clock := hclock
  lock := hlock
  version id dealership hrow :=
    ⟨dealership, by rw [hdealerships, hrow], le_refl _, fun _ => by rw [hrows]⟩
  held id j _ _ := by rw [hdealerships, hrows]; exact ⟨rfl, rfl⟩

theorem Frame.trans {sh'' : Shared ι} (h : Frame i sh sh') (h' : Frame i sh' sh'') :
    Frame i sh sh'' where
  clock := h.clock.trans h'.clock
  lock id j hj hlock := h'.lock id j hj (h.lock id j hj hlock)
  version id dealership hrow := by
    obtain ⟨current, hcurrent, hle, hsame⟩ := h.version id dealership hrow
    obtain ⟨current', hcurrent', hle', hsame'⟩ := h'.version id current hcurrent
    refine ⟨current', hcurrent', hle.trans hle', fun heq => ?_⟩
    have hbetween : dealership.entitlementsVersion = current.entitlementsVersion :=
      le_antisymm hle (heq ▸ hle')
    rw [hsame' (hbetween.symm.trans heq), hsame hbetween]
  held id j hj hlock := by
    obtain ⟨hrow, hrows⟩ := h.held id j hj hlock
    obtain ⟨hrow', hrows'⟩ := h'.held id j hj (h.lock id j hj hlock)
    exact ⟨hrow'.trans hrow, hrows'.trans hrows⟩

theorem Minting.transfer {dealershipId : Uuid} {version : ℕ} {now : Option Time}
    (h : Minting sh dealershipId version now) (hf : Frame i sh sh') :
    Minting sh' dealershipId version now := by
  obtain ⟨dealership, hrow, hle, hpast⟩ := h
  obtain ⟨dealership', hrow', hle', hsame⟩ := hf.version dealershipId dealership hrow
  refine ⟨dealership', hrow', hle.trans hle', fun t ht heq => ?_⟩
  -- the version in between is the same, so are the rows
  have hbetween : version = dealership.entitlementsVersion :=
    le_antisymm hle (heq ▸ hle')
  rw [hsame (hbetween.symm.trans heq)]
  exact hpast t ht hbetween

theorem Holding.transfer {call : Call} {dealership : Dealership} (h : Holding j sh call dealership)
    (hf : Frame i sh sh') (hj : j ≠ i) : Holding j sh' call dealership :=
  ⟨hf.lock _ j hj h.1, by rw [(hf.held _ j hj h.1).1, h.2]⟩

theorem Knows.transfer (h : Knows j sh lo) (hf : Frame i sh sh') (hj : j ≠ i) : Knows j sh' lo := by
  cases lo with
  | idle => trivial
  | minting dealershipId dealership => exact Minting.transfer h hf
  | reading dealershipId dealership now => exact Minting.transfer h hf
  | setting call dealership => exact Holding.transfer h hf hj
  | planning call dealership now =>
    obtain ⟨hholding, hnow, hpast⟩ := h
    refine ⟨hholding.transfer hf hj, hnow.trans hf.clock, ?_⟩
    rw [(hf.held _ j hj hholding.1).2]
    exact hpast
  | writing call dealership now rows =>
    obtain ⟨hholding, hnow, hpast, hrows⟩ := h
    refine ⟨hholding.transfer hf hj, hnow.trans hf.clock, ?_⟩
    rw [(hf.held _ j hj hholding.1).2]
    exact ⟨hpast, hrows⟩

theorem Good.congr (h : Good licences sh) (hclock : sh.clock ≤ sh'.clock)
    (hdealerships : sh'.dealerships = sh.dealerships) (hrows : sh'.entitlements = sh.entitlements)
    (htokens : sh'.tokens = sh.tokens) (hcommits : sh'.commits = sh.commits) : Good licences sh' := by
  have hvouched : ∀ {id version modules}, Vouched licences sh id version modules →
      Vouched licences sh' id version modules := by
    rintro id version modules ⟨dealership, hrow, hle, hasked⟩
    exact ⟨dealership, by rw [hdealerships, hrow], hle, by rw [hcommits]; exact hasked⟩
  refine ⟨fun id => ?_, fun id => ?_, fun c hc => ?_, ?_, fun token htoken => ?_⟩
  · rw [hrows]
    exact (h.past id).mono hclock
  · rw [hrows, hcommits]
    exact h.asked id
  · rw [hcommits] at hc
    exact hvouched (h.commits c hc)
  · rw [hcommits]
    exact h.unique
  · rw [htokens] at htoken
    exact hvouched (h.tokens token htoken)

theorem good_issue {dealershipId : Uuid} {dealership : Dealership} {now : Time}
    (h : Good licences sh)
    (hminting : Minting sh dealershipId dealership.entitlementsVersion (some now)) :
    Good licences (issue dealershipId dealership now sh) := by
  refine ⟨h.past, h.asked, h.commits, h.unique, fun token htoken => ?_⟩
  rcases List.mem_cons.mp htoken with rfl | hold
  · obtain ⟨current, hrow, hle, hpast⟩ := hminting
    refine ⟨current, hrow, hle, fun heq => ?_⟩
    change listActiveModules (sh.entitlements dealershipId) now =
      lastAsked licences sh.commits dealershipId
    rw [listActiveModules_of_past (hpast now rfl heq), h.asked]
  · exact h.tokens token hold

/-! ### A PUT -/

theorem lastAsked_cons (licences : Licences) (c : Committed) (commits : List Committed) (id : Uuid) :
    lastAsked licences (c :: commits) id =
      if c.dealershipId = id then c.modules else lastAsked licences commits id := by
  unfold lastAsked
  by_cases h : c.dealershipId = id
  · rw [List.find?_cons_of_pos (by simpa using h), if_pos h]
  · rw [List.find?_cons_of_neg (by simpa using h), if_neg h]

section

variable {call : Call} {dealership : Dealership} {now : Time}

theorem bump_cases (call : Call) (dealership : Dealership) (now : Time) (rows : Rows) :
    (call.modules = listActiveModules rows now ∧
        bump now call.actorId call.modules rows dealership = dealership) ∨
      (bump now call.actorId call.modules rows dealership).entitlementsVersion =
        dealership.entitlementsVersion + 1 := by
  unfold bump
  split
  · next hsame => exact .inl ⟨hsame, rfl⟩
  · exact .inr rfl

theorem le_bump (call : Call) (dealership : Dealership) (now : Time) (rows : Rows) :
    dealership.entitlementsVersion ≤
      (bump now call.actorId call.modules rows dealership).entitlementsVersion := by
  rcases bump_cases call dealership now rows with ⟨-, heq⟩ | heq
  · rw [heq]
  · rw [heq]
    exact Nat.le_succ _

/-- What a PUT is about when it commits. -/
structure Ready (i : ι) (licences : Licences) (sh : Shared ι) (call : Call) (dealership : Dealership)
    (now : Time) : Prop where
  good : Good licences sh
  holding : Holding i sh call dealership
  clock : now ≤ sh.clock
  past : Past (sh.entitlements call.dealershipId) now

variable (h : Ready i licences sh call dealership now)
include h

theorem Ready.same_set (hsame : dealership.entitlementsVersion =
      (bump now call.actorId call.modules (sh.entitlements call.dealershipId)
        dealership).entitlementsVersion) :
    call.modules = lastAsked licences sh.commits call.dealershipId ∧
      call.modules = openModules (sh.entitlements call.dealershipId) := by
  rcases bump_cases call dealership now (sh.entitlements call.dealershipId) with ⟨hset, -⟩ | heq
  · rw [listActiveModules_of_past h.past] at hset
    exact ⟨hset.trans (h.good.asked _), hset⟩
  · rw [heq] at hsame
    exact absurd hsame (Nat.ne_of_lt (Nat.lt_succ_self _))

theorem Ready.vouched {id : Uuid} {version : ℕ} {modules : Finset ModuleCode}
    (hvouched : Vouched licences sh id version modules) :
    Vouched licences (writeSet call dealership now (sh.entitlements call.dealershipId) sh) id
      version modules := by
  obtain ⟨current, hrow, hle, hasked⟩ := hvouched
  by_cases hid : id = call.dealershipId
  · subst hid
    obtain rfl := Option.mem_unique hrow h.holding.2
    refine ⟨_, AList.lookup_insert _, hle.trans (le_bump _ _ _ _), fun heq => ?_⟩
    have hsame := le_antisymm (le_bump _ _ _ _) (heq ▸ hle)
    change modules = lastAsked licences (_ :: sh.commits) call.dealershipId
    rw [lastAsked_cons, if_pos rfl, hasked (heq.trans hsame.symm), (h.same_set hsame).1]
  · refine ⟨current, (AList.lookup_insert_ne hid).trans hrow, hle, fun heq => ?_⟩
    change modules = lastAsked licences (_ :: sh.commits) id
    rw [lastAsked_cons, if_neg (fun heq => hid heq.symm), hasked heq]

theorem Ready.good_write :
    Good licences (writeSet call dealership now (sh.entitlements call.dealershipId) sh) := by
  have hnew : Vouched licences (writeSet call dealership now (sh.entitlements call.dealershipId) sh)
      call.dealershipId (bump now call.actorId call.modules (sh.entitlements call.dealershipId)
        dealership).entitlementsVersion call.modules := by
    refine ⟨_, AList.lookup_insert _, le_refl _, fun _ => ?_⟩
    change call.modules = lastAsked licences (_ :: sh.commits) call.dealershipId
    rw [lastAsked_cons, if_pos rfl]
  -- a former PUT with the new version asked for this very set
  have hmeet : ∀ c ∈ sh.commits, c.dealershipId = call.dealershipId →
      c.entitlementsVersion = (bump now call.actorId call.modules
        (sh.entitlements call.dealershipId) dealership).entitlementsVersion →
      c.modules = call.modules := by
    intro c hc hid hversion
    obtain ⟨current, hrow, -, hasked⟩ := h.vouched (h.good.commits c hc)
    rw [hid] at hrow hasked
    obtain rfl := Option.mem_unique (AList.lookup_insert _) hrow
    have hlast := hasked hversion
    change c.modules = lastAsked licences (_ :: sh.commits) call.dealershipId at hlast
    rw [lastAsked_cons, if_pos rfl] at hlast
    exact hlast
  refine ⟨fun id => ?_, fun id => ?_, fun c hc => ?_, fun c hc c' hc' hid hversion => ?_,
    fun token htoken => h.vouched (h.good.tokens token htoken)⟩
  · change Past (Function.update sh.entitlements call.dealershipId _ id) sh.clock
    by_cases hid : id = call.dealershipId
    · subst hid
      rw [Function.update_self]
      exact (past_setRows h.past).mono h.clock
    · rw [Function.update_of_ne hid]
      exact h.good.past id
  · change openModules (Function.update sh.entitlements call.dealershipId _ id) =
      lastAsked licences (_ :: sh.commits) id
    rw [lastAsked_cons]
    by_cases hid : id = call.dealershipId
    · subst hid
      rw [Function.update_self, if_pos rfl, openModules_setRows h.past]
    · rw [Function.update_of_ne hid, if_neg (fun heq => hid heq.symm)]
      exact h.good.asked id
  · rcases List.mem_cons.mp hc with rfl | hold
    · exact hnew
    · exact h.vouched (h.good.commits c hold)
  · rcases List.mem_cons.mp hc with rfl | hold
    · rcases List.mem_cons.mp hc' with rfl | hold'
      · rfl
      · exact (hmeet c' hold' hid.symm hversion.symm).symm
    · rcases List.mem_cons.mp hc' with rfl | hold'
      · exact hmeet c hold hid hversion
      · exact h.good.unique c hold c' hold' hid hversion

theorem Ready.frame_write :
    Frame i sh (writeSet call dealership now (sh.entitlements call.dealershipId) sh) := by
  refine ⟨le_refl _, fun _ _ _ hlock => hlock, fun id current hrow => ?_, fun id j hj hlock => ?_⟩
  · by_cases hid : id = call.dealershipId
    · subst hid
      obtain rfl := Option.mem_unique hrow h.holding.2
      refine ⟨_, AList.lookup_insert _, (le_bump _ _ _ _), fun heq => ?_⟩
      change Function.update sh.entitlements call.dealershipId _ call.dealershipId = _
      rw [Function.update_self, (h.same_set heq).2]
      exact setRows_openModules h.past
    · exact ⟨current, (AList.lookup_insert_ne hid).trans hrow, le_refl _,
        fun _ => Function.update_of_ne hid _ _⟩
  · have hne : id ≠ call.dealershipId := by
      rintro rfl
      exact hj (Option.mem_unique hlock h.holding.1)
    exact ⟨AList.lookup_insert_ne hne, Function.update_of_ne hne _ _⟩

end

/-! ### A step -/

variable [DecidableEq ι]

theorem frame_close (i : ι) (sh : Shared ι) : Frame i sh (close i sh) := by
  refine frame_of_same (le_refl _) (fun id j hj hlock => ?_) rfl rfl
  change (if sh.lock id = some i then none else sh.lock id) = some j
  rw [if_neg (by rw [hlock]; exact fun heq => hj (Option.some.inj heq)), hlock]

theorem step_lands {choice : Choice} (hgood : Good licences sh) (hknows : Knows i sh lo)
    (h : step i choice sh lo = some (sh', lo')) :
    Good licences sh' ∧ Knows i sh' lo' ∧ Frame i sh sh' := by
  have hclosed : Good licences (close i sh) := hgood.congr (le_refl _) rfl rfl rfl rfl
  unfold step at h
  split at h
  · -- the clock
    next now =>
    cases h
    have hclock : sh.clock ≤ max sh.clock now := le_max_left _ _
    have hframe : ∀ k : ι, Frame k sh { sh with clock := max sh.clock now } :=
      fun k => frame_of_same hclock (fun _ _ _ hlock => hlock) rfl rfl
    refine ⟨hgood.congr hclock rfl rfl rfl rfl, ?_, hframe i⟩
    cases lo with
    | idle => trivial
    | minting dealershipId dealership => exact Minting.transfer hknows (hframe i)
    | reading dealershipId dealership t => exact Minting.transfer hknows (hframe i)
    | setting call dealership => exact hknows
    | planning call dealership t => exact ⟨hknows.1, hknows.2.1.trans hclock, hknows.2.2⟩
    | writing call dealership t rows => exact ⟨hknows.1, hknows.2.1.trans hclock, hknows.2.2⟩
  · obtain ⟨dealership, hrow, heq⟩ := Option.map_eq_some_iff.mp h
    cases heq
    exact ⟨hgood, ⟨dealership, hrow, le_refl _, nofun⟩,
      frame_of_same (le_refl _) (fun _ _ _ hlock => hlock) rfl rfl⟩
  · cases h
    obtain ⟨current, hrow, hle, -⟩ := hknows
    refine ⟨hgood, ⟨current, hrow, hle, fun t ht _ => ?_⟩,
      frame_of_same (le_refl _) (fun _ _ _ hlock => hlock) rfl rfl⟩
    cases ht
    exact hgood.past _
  · cases h
    exact ⟨good_issue hgood hknows, trivial,
      frame_of_same (le_refl _) (fun _ _ _ hlock => hlock) rfl rfl⟩
  · unfold beginPut at h
    split at h
    · next hfree =>
      split at h
      · next dealership hload =>
        cases h
        obtain ⟨dealership', hrow, hload⟩ := Result.of_bind hload
        obtain ⟨-, -, hload⟩ := Result.of_bind hload
        cases hload
        refine ⟨hgood.congr (le_refl _) rfl rfl rfl rfl,
          ⟨Function.update_self _ _ _, orNotFound_eq_ok.mp hrow⟩,
          frame_of_same (le_refl _) (fun id j _ hlock => ?_) rfl rfl⟩
        refine (Function.update_of_ne ?_ _ _).trans hlock
        rintro rfl
        rw [hfree] at hlock
        cases hlock
      · cases h
    · cases h
  · cases h
    exact ⟨hgood, ⟨hknows, le_refl _, hgood.past _⟩,
      frame_of_same (le_refl _) (fun _ _ _ hlock => hlock) rfl rfl⟩
  · cases h
    exact ⟨hgood, ⟨hknows.1, hknows.2.1, hknows.2.2, rfl⟩,
      frame_of_same (le_refl _) (fun _ _ _ hlock => hlock) rfl rfl⟩
  · next call dealership now rows outcome =>
    obtain ⟨hholding, hnow, hpast, rfl⟩ := hknows
    have hready : Ready i licences sh call dealership now := ⟨hgood, hholding, hnow, hpast⟩
    have hwritten : ∀ {sh' lo'},
        some (close i (writeSet call dealership now (sh.entitlements call.dealershipId) sh), Local.idle)
          = some (sh', lo') → Good licences sh' ∧ Knows i sh' lo' ∧ Frame i sh sh' := by
      intro sh' lo' heq
      cases heq
      exact ⟨hready.good_write.congr (le_refl _) rfl rfl rfl rfl, trivial,
        hready.frame_write.trans (frame_close i _)⟩
    cases outcome with
    | committed => exact hwritten h
    | lost => exact hwritten h
    | failed =>
      cases h
      exact ⟨hclosed, trivial, frame_close i sh⟩
  · cases h
    exact ⟨hclosed, trivial, frame_close i sh⟩
  · cases h

omit [DecidableEq ι] in
theorem good_start (licences : Licences) :
    Holds (Good licences) Knows (start licences : Config ι (Shared ι) Local) :=
  ⟨⟨licences.past, fun id => (listActiveModules_of_past (licences.past id)).symm,
    (nofun), (nofun), nofun⟩,
    fun _ => trivial⟩

theorem good_move (cfg : Config ι (Shared ι) Local) (a : ι × Choice)
    (h : Holds (Good licences) Knows cfg) : Holds (Good licences) Knows (move step cfg a) := by
  refine noninterference_all ?_ ?_ h a
  · intro i choice sh lo sh' lo' hgood hknows hstep
    obtain ⟨hgood', hknows', -⟩ := step_lands hgood hknows hstep
    exact ⟨hgood', hknows'⟩
  · intro i j choice sh lo lo' sh' lo'' hij hgood hknows hother hstep
    obtain ⟨-, -, hframe⟩ := step_lands hgood hknows hstep
    exact hother.transfer hframe hij.symm

/-- **An accepted token carries the current entitlements.**  However PUTs and minting
interleave: a token that the gate accepts or answers 404 carries the set the last committed PUT
of its dealership asked for, and PUTs of a dealership that leave the same version asked for the
same set. -/
theorem accepted_token_current (licences : Licences) (run : List (ι × Choice)) :
    let sh := (run.foldl (move step) (start licences)).shared
    (∀ token ∈ sh.tokens, ∀ module,
      (requireEntitlement sh.dealerships module token = .ok () ∨
        requireEntitlement sh.dealerships module token = .error (notFoundError "Not found.")) →
      token.entitlements = lastAsked licences sh.commits token.tenantId) ∧
    ∀ c ∈ sh.commits, ∀ c' ∈ sh.commits, c.dealershipId = c'.dealershipId →
      c.entitlementsVersion = c'.entitlementsVersion → c.modules = c'.modules := by
  intro sh
  have hgood : Good licences sh := (Run.invariant good_move (good_start licences) run).1
  refine ⟨fun token htoken module hanswer => ?_, hgood.unique⟩
  obtain ⟨dealership, hrow, -, hasked⟩ := hgood.tokens token htoken
  refine hasked ?_
  -- another version would have been answered 401
  by_contra hne
  have hrefused : requireEntitlement sh.dealerships module token =
      .error (unauthorizedError "Your session is out of date — sign in again.") := by
    unfold requireEntitlement
    rw [hrow, Option.map_some]
    exact if_pos ⟨Option.some_ne_none _, fun heq => hne (Option.some.inj heq).symm⟩
  rw [hrefused] at hanswer
  rcases hanswer with hok | hnotFound
  · cases hok
  · cases hnotFound

def oneDealership : Licences where
  clock := 0
  dealerships := (∅ : Table Uuid Dealership).insert 1 {}
  entitlements := fun _ _ => none
  past := fun _ _ _ h => by cases h

/-- A token is minted while the set is changed to Sales, and another one afterwards. -/
def grantRun : List (ℕ × Choice) :=
  [(0, .put ⟨1, {.sales}, 9⟩ 1), (1, .mint 1), (0, .readClock), (0, .readRows), (0, .commit .committed),
    (1, .readClock), (1, .readRows), (2, .tick 5), (2, .mint 1), (2, .readClock), (2, .readRows)]

theorem accepted_token_current_granted :
    let sh := (grantRun.foldl (move step) (start oneDealership)).shared
    ∃ token ∈ sh.tokens, requireEntitlement sh.dealerships .sales token = .ok () ∧
      token.entitlements = lastAsked oneDealership sh.commits token.tenantId := by
  have hminted : (⟨1, 1, {.sales}⟩ : Token) ∈
        (grantRun.foldl (move step) (start oneDealership)).shared.tokens ∧
      requireEntitlement (grantRun.foldl (move step) (start oneDealership)).shared.dealerships .sales
        ⟨1, 1, {.sales}⟩ = .ok () := by
    decide +kernel
  exact ⟨_, hminted.1, hminted.2,
    (accepted_token_current oneDealership grantRun).1 _ hminted.1 .sales (.inl hminted.2)⟩

end Nexotec.Entitlements
