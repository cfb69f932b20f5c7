/-
No changed key is lost.

What the cursor has passed is in the pending list, and what a run has taken from both it
carries to its end: it has synced the key, is still to come to it, or has skipped it, or
the key changed on a day the new cursor does not pass.  A run that aborts leaves cursor
and pending list as they were.

* `Claimed`, `Safe`, `Carried` — what is owed to a change, between runs and within one.
-/
import Nexotec.Lib.Run
import Nexotec.Vehicle.SyncRuns

namespace Nexotec.SyncRuns

section Days

variable {cursor : Option Day} {today today' day : Day}

theorem isStale_mono (h : isStale cursor today = true) (hle : today ≤ today') :
    isStale cursor today' = true := by
  cases cursor with
  | none => rfl
  | some since =>
    have hold : since < today - deltaLookbackHardLimitDays := of_decide_eq_true h
    have hnew : since < today' - deltaLookbackHardLimitDays := hold.trans_le (Nat.sub_le_sub_right hle _)
    exact decide_eq_true hnew

theorem deltaSince_mono (h : deltaSince cursor today ≤ day) (hle : today ≤ today') :
    deltaSince cursor today' ≤ day := by
  unfold deltaSince at h ⊢
  split
  · exact Nat.zero_le day
  · next hfresh =>
    rw [if_neg fun hstale => hfresh (isStale_mono hstale hle)] at h
    exact h

theorem deltaSince_le (h : ∀ since, cursor = some since → since ≤ day) : deltaSince cursor today ≤ day := by
  unfold deltaSince
  split
  · exact Nat.zero_le day
  · cases cursor with
    | none => exact Nat.zero_le day
    | some since => exact h since rfl

theorem deltaSince_recent (h : isStale cursor today = false) :
    today - deltaLookbackHardLimitDays ≤ deltaSince cursor today := by
  cases cursor with
  | none => cases h
  | some since =>
    have hrecent : ¬ since < today - deltaLookbackHardLimitDays := of_decide_eq_false h
    rw [deltaSince, h, if_neg Bool.false_ne_true]
    exact not_lt.mp hrecent

end Days

/-! ### What is owed -/

/-- After the events `newer`, a change of the key on that day that is still to be answered
for: since it was made, or since a delta was told of it. -/
def Claimed (history newer : List Event) (key : FzKey) (day : Day) : Prop :=
  ∃ older, history = newer ++ .changed key day :: older ∨
    ∃ keys plan, history = newer ++ .reported keys plan :: older ∧ plan.byDelta = true ∧ key ∈ keys ∧
      .changed key day ∈ older ∧ plan.since ≤ day

variable {history newer : List Event} {key : FzKey} {day : Day}

theorem Claimed.changed (h : Claimed history newer key day) : .changed key day ∈ history := by
  obtain ⟨older, rfl | ⟨keys, plan, rfl, -, -, hmem, -⟩⟩ := h
  · simp
  · exact List.mem_append_right _ (List.mem_cons_of_mem _ hmem)

theorem Claimed.cons {e : Event} {history newer : List Event} {key : FzKey} {day : Day}
    (h : Claimed (e :: history) newer key day) :
    (newer = [] ∧ (e = .changed key day ∨ ∃ keys plan, e = .reported keys plan ∧ plan.byDelta = true ∧
      key ∈ keys ∧ .changed key day ∈ history ∧ plan.since ≤ day)) ∨
    ∃ newer₀, newer = e :: newer₀ ∧ Claimed history newer₀ key day := by
  obtain ⟨older, heq | ⟨keys, plan, heq, hrest⟩⟩ := h
  · cases newer with
    | nil => exact .inl ⟨rfl, .inl (List.cons.inj heq).1⟩
    | cons e' newer₀ =>
      obtain ⟨rfl, rfl⟩ := List.cons.inj heq
      exact .inr ⟨newer₀, rfl, older, .inl rfl⟩
  · cases newer with
    | nil =>
      obtain ⟨rfl, rfl⟩ := List.cons.inj heq
      exact .inl ⟨rfl, .inr ⟨keys, plan, rfl, hrest⟩⟩
    | cons e' newer₀ =>
      obtain ⟨rfl, rfl⟩ := List.cons.inj heq
      exact .inr ⟨newer₀, rfl, older, .inr ⟨keys, plan, rfl, hrest⟩⟩

def System.pendingKeys (s : System) : List FzKey := s.state.pendingFzKeys.map (·.fzKey)

/-- The day on which the run at work has begun, or today. -/
def System.horizon (s : System) : Day :=
  match s.stage with
  | .asking plan | .syncing plan _ _ _ => plan.today
  | .idle | .saved _ => s.clock

def Safe (s : System) (newer : List Event) (key : FzKey) (day : Day) : Prop :=
  .visited key true ∈ newer ∨ key ∈ s.pendingKeys ∨ deltaSince s.state.lastDeltaCursor s.horizon ≤ day

/-- What holds of a claim if the run at work comes to its end. -/
def Carried (s : System) (newer : List Event) (key : FzKey) (day : Day) : Prop :=
  ∀ plan todo skipped connectionFailed, s.stage = .syncing plan todo skipped connectionFailed →
    .visited key true ∈ newer ∨ key ∈ todo ∨ key ∈ skipped.map (·.fzKey) ∨ plan.today ≤ day

def Planned (s : System) (plan : Plan) : Prop :=
  plan.today ≤ s.clock ∧ plan.since ≤ deltaSince s.state.lastDeltaCursor plan.today ∧
    (plan.byDelta = true → plan.since = deltaSince s.state.lastDeltaCursor plan.today)

structure Complies (s : System) : Prop where
  cursor : ∀ since, s.state.lastDeltaCursor = some since → since ≤ s.horizon
  asking : ∀ plan, s.stage = .asking plan → Planned s plan
  syncing : ∀ plan todo skipped connectionFailed,
    s.stage = .syncing plan todo skipped connectionFailed → plan.today ≤ s.clock
  claims : ∀ newer key day, Claimed s.history newer key day →
    Safe s newer key day ∧ Carried s newer key day

section Steps

variable {s : System}

theorem Safe.cons {newer : List Event} {key : FzKey} {day : Day} (h : Safe s newer key day) (e : Event) :
    Safe s (e :: newer) key day :=
  h.imp (List.mem_cons_of_mem e) id

variable {key : FzKey}

theorem Safe.of_horizon {s' : System} (h : Safe s newer key day)
    (hstate : s'.pendingKeys = s.pendingKeys)
    (hcursor : s'.state.lastDeltaCursor = s.state.lastDeltaCursor) (hle : s.horizon ≤ s'.horizon) :
    Safe s' newer key day := by
  unfold Safe
  rw [hstate, hcursor]
  exact h.imp id (Or.imp id fun hsince => deltaSince_mono hsince hle)

theorem horizon_le_clock (h : Complies s) : s.horizon ≤ s.clock := by
  cases hstage : s.stage with
  | idle => simp only [System.horizon, hstage, le_refl]
  | saved connectionFailed => simp only [System.horizon, hstage, le_refl]
  | asking plan => simpa only [System.horizon, hstage] using (h.asking plan hstage).1
  | syncing plan todo skipped connectionFailed =>
    simpa only [System.horizon, hstage] using h.syncing plan todo skipped connectionFailed hstage

theorem Complies.tick (h : Complies s) (days : ℕ) : Complies { s with clock := s.clock + days } := by
  have hclock : s.clock ≤ s.clock + days := Nat.le_add_right ..
  have hhorizon : s.horizon ≤ System.horizon { s with clock := s.clock + days } := by
    cases hstage : s.stage <;> simp [System.horizon, hstage]
  refine ⟨fun since hsince => (h.cursor since hsince).trans hhorizon, fun plan hplan => ?_,
    fun plan todo skipped failed hsync => (h.syncing plan todo skipped failed hsync).trans hclock,
    fun newer key day hclaim => ?_⟩
  · obtain ⟨htoday, hrest⟩ := h.asking plan hplan
    exact ⟨htoday.trans hclock, hrest⟩
  · obtain ⟨hsafe, hcarried⟩ := h.claims newer key day hclaim
    exact ⟨hsafe.of_horizon rfl rfl hhorizon, hcarried⟩

theorem Complies.change (h : Complies s) (key : FzKey) :
    Complies { s with history := .changed key s.clock :: s.history } := by
  refine ⟨h.cursor, h.asking, h.syncing, fun newer key' day hclaim => ?_⟩
  rcases hclaim.cons with ⟨rfl, heq | ⟨keys, plan, heq, -⟩⟩ | ⟨newer₀, rfl, hold⟩
  · -- the new change, of today
    cases heq
    refine ⟨.inr (.inr ?_), fun plan todo skipped failed hsync => .inr (.inr (.inr ?_))⟩
    · exact (deltaSince_le h.cursor).trans (horizon_le_clock h)
    · exact h.syncing plan todo skipped failed hsync
  · cases heq
  · obtain ⟨hsafe, hcarried⟩ := h.claims newer₀ key' day hold
    refine ⟨hsafe.cons _, fun plan todo skipped failed hsync => ?_⟩
    exact (hcarried plan todo skipped failed hsync).imp (List.mem_cons_of_mem _) id

variable {plan : Plan}

theorem Complies.start (h : Complies s) (hidle : s.stage = .idle) (htoday : plan.today = s.clock)
    (hplanned : Planned s plan) : Complies (s.start plan) := by
  have hhorizon : s.horizon = (s.start plan).horizon := by
    rw [System.horizon, hidle]
    exact htoday.symm
  refine ⟨fun since hsince => (h.cursor since hsince).trans hhorizon.le, fun plan' hplan' => ?_,
    nofun, fun newer key day hclaim => ⟨?_, nofun⟩⟩
  · cases hplan'
    exact hplanned
  · rcases hclaim.cons with ⟨-, heq | ⟨keys, plan', heq, -⟩⟩ | ⟨newer₀, rfl, hold⟩
    · cases heq
    · cases heq
    · exact ((h.claims newer₀ key day hold).1.cons _).of_horizon rfl rfl hhorizon.le

theorem Complies.answer (h : Complies s) (hasking : s.stage = .asking plan) {changed : List FzKey}
    (hcomplete : Complete s (.answer changed)) :
    Complies { s with
      stage := .syncing plan (keysToSync changed s.state) [] false
      history := .reported changed plan :: s.history } := by
  obtain ⟨htoday, hsince, hdelta⟩ := h.asking plan hasking
  have hhorizon : s.horizon = plan.today := by rw [System.horizon, hasking]
  have htodo : ∀ newer key day, Claimed s.history newer key day → .visited key true ∈ newer ∨
      key ∈ keysToSync changed s.state := by
    intro newer key day hclaim
    rcases (h.claims newer key day hclaim).1 with hsynced | hpending | hreach
    · exact .inl hsynced
    · exact .inr (mem_keysToSync.mpr (.inr hpending))
    · rw [hhorizon] at hreach
      have hreported := hcomplete changed plan rfl hasking key day hclaim.changed (hsince.trans hreach)
      exact .inr (mem_keysToSync.mpr (.inl hreported))
  refine ⟨fun since hcursor => ?_, nofun, fun plan' todo skipped failed hsync => ?_,
    fun newer key day hclaim => ?_⟩
  · exact (h.cursor since hcursor).trans hhorizon.le
  · cases hsync
    exact htoday
  · rcases hclaim.cons with ⟨rfl, heq | ⟨keys, plan', heq, hby, hkey, -, hday⟩⟩ | ⟨newer₀, rfl, hold⟩
    · cases heq
    · -- a key this delta is told of
      cases heq
      refine ⟨.inr (.inr ?_), fun plan' todo skipped failed hsync => ?_⟩
      · change deltaSince s.state.lastDeltaCursor plan.today ≤ day
        rw [← hdelta hby]
        exact hday
      · cases hsync
        exact .inr (.inl (mem_keysToSync.mpr (.inl hkey)))
    · refine ⟨?_, fun plan' todo skipped failed hsync => ?_⟩
      · exact ((h.claims newer₀ key day hold).1.cons _).of_horizon rfl rfl hhorizon.le
      · cases hsync
        exact (htodo newer₀ key day hold).imp (List.mem_cons_of_mem _) .inl

variable {skipped : List SkippedFzKey} {connectionFailed : Bool}

/-- A key that was left to do is visited, still left, or skipped. -/
theorem Complies.onward (h : Complies s) {todo todo' : List FzKey} {skipped' : List SkippedFzKey}
    {failed' : Bool} (hsyncing : s.stage = .syncing plan todo skipped connectionFailed)
    (visit : Option (FzKey × Bool))
    (hleft : ∀ k ∈ todo, (k, true) ∈ visit ∨ k ∈ todo' ∨ k ∈ skipped'.map (·.fzKey))
    (hskipped : skipped ⊆ skipped') :
    Complies { s with
      stage := .syncing plan todo' skipped' failed'
      history := (visit.map fun v => .visited v.1 v.2).toList ++ s.history } := by
  have hhorizon : s.horizon = plan.today := by rw [System.horizon, hsyncing]
  refine ⟨fun since hcursor => (h.cursor since hcursor).trans hhorizon.le, nofun,
    fun _ _ _ _ hsync => ?_, fun newer k day hclaim => ?_⟩
  · cases hsync
    exact h.syncing _ _ _ _ hsyncing
  · obtain ⟨newer₀, rfl, hold⟩ : ∃ newer₀,
        newer = (visit.map fun v => .visited v.1 v.2).toList ++ newer₀ ∧
          Claimed s.history newer₀ k day := by
      cases visit with
      | none => exact ⟨newer, rfl, hclaim⟩
      | some v =>
        rcases hclaim.cons with ⟨-, heq | ⟨keys, plan', heq, -⟩⟩ | hold
        · cases heq
        · cases heq
        · exact hold
    obtain ⟨hsafe, hcarried⟩ := h.claims newer₀ k day hold
    refine ⟨Safe.of_horizon (s := s) (hsafe.imp (List.mem_append_right _) id) rfl rfl hhorizon.le,
      fun _ _ _ _ hsync => ?_⟩
    cases hsync
    rcases hcarried _ _ _ _ hsyncing with hsynced | htodo | hskip | hlater
    · exact .inl (List.mem_append_right _ hsynced)
    · rcases hleft k htodo with hvisit | hrest
      · exact .inl (List.mem_append_left _ (by simp [Option.mem_def.mp hvisit]))
      · exact .inr (hrest.imp id .inl)
    · exact .inr (.inr (.inl (List.map_subset _ hskipped hskip)))
    · exact .inr (.inr (.inr hlater))

theorem Complies.visit (h : Complies s) {rest : List FzKey}
    (hsyncing : s.stage = .syncing plan (key :: rest) skipped connectionFailed) (outcome : Outcome) :
    Complies (visitKey s plan key rest skipped connectionFailed outcome) := by
  cases outcome with
  | synced =>
    refine h.onward hsyncing (some (key, true)) (fun k hk => ?_) (List.Subset.refl _)
    exact (List.mem_cons.mp hk).imp (fun heq => by rw [heq]; rfl) .inl
  | skipped field error =>
    refine h.onward hsyncing (some (key, false)) (fun k hk => .inr ?_) (List.subset_append_left ..)
    exact (List.mem_cons.mp hk).symm.imp id fun heq => by simp [heq]
  | connectionFailed error =>
    refine h.onward hsyncing none (fun k hk => .inr (.inr ?_)) (List.subset_append_left ..)
    rw [List.map_append, List.mem_append, List.map_map]
    exact .inr (List.mem_map.mpr ⟨k, hk, rfl⟩)

theorem Complies.save (h : Complies s)
    (hsyncing : s.stage = .syncing plan [] skipped connectionFailed) :
    Complies { s with
      stage := .saved connectionFailed
      state := saveRunProgress plan.today s.clock plan.fullSeed skipped s.state } := by
  have htoday := h.syncing _ _ _ _ hsyncing
  refine ⟨fun since hcursor => ?_, nofun, nofun,
    fun newer key day hclaim => ⟨?_, nofun⟩⟩
  · cases hcursor
    exact htoday
  · rcases (h.claims newer key day hclaim).2 _ _ _ _ hsyncing with hsynced | htodo | hskipped | hlater
    · exact .inl hsynced
    · cases htodo
    · refine .inr (.inl ?_)
      obtain ⟨entry, hentry, rfl⟩ := List.mem_map.mp hskipped
      simp only [System.pendingKeys, saveRunProgress, List.map_map]
      exact List.mem_map.mpr ⟨entry, hentry, rfl⟩
    · refine .inr (.inr ((deltaSince_le fun since hcursor => ?_).trans hlater))
      cases hcursor
      exact le_rfl

theorem Complies.stop (h : Complies s) {state : ProviderSyncState}
    (hcursor : state.lastDeltaCursor = s.state.lastDeltaCursor)
    (hpending : state.pendingFzKeys = s.state.pendingFzKeys) :
    Complies { s with stage := .idle, state := state } := by
  refine ⟨fun since hsince => ?_, nofun, nofun,
    fun newer key day hclaim => ⟨?_, nofun⟩⟩
  · exact (h.cursor since (hcursor.symm.trans hsince)).trans (horizon_le_clock h)
  · have hkeys : state.pendingFzKeys.map (·.fzKey) = s.pendingKeys := by rw [hpending, System.pendingKeys]
    exact (h.claims newer key day hclaim).1.of_horizon hkeys hcursor (horizon_le_clock h)

theorem next_complies (h : Complies s) {a : Action} (hcomplete : Complete s a) : Complies (next s a) := by
  have hmoves := moves_next s a
  generalize next s a = s' at hmoves ⊢
  cases hmoves with
  | refused => exact h
  | ticked days => exact h.tick days
  | changed key => exact h.change key
  | started a plan hidle hplan =>
    rcases hplan with rfl | rfl
    · exact h.start hidle rfl ⟨le_rfl, le_rfl, fun _ => rfl⟩
    · exact h.start hidle rfl ⟨le_rfl, Nat.zero_le _, nofun⟩
  | answered plan changed hasking => exact h.answer hasking hcomplete
  | visited plan key rest skipped connectionFailed outcome hsyncing => exact h.visit hsyncing outcome
  | saved plan skipped connectionFailed hsyncing => exact h.save hsyncing
  | stopped a state hcursor hpending => exact h.stop hcursor hpending

end Steps

section Visits

def visitsOf : List Event → List FzKey
  | [] => []
  | .asked _ :: _ => []
  | .visited key _ :: history => key :: visitsOf history
  | .changed _ _ :: history | .reported _ _ :: history => visitsOf history

/-- No key of a run is both visited and to be visited, and none twice. -/
def Once (s : System) : Prop :=
  match s.stage with
  | .asking _ => visitsOf s.history = []
  | .syncing _ todo _ _ => (todo ++ visitsOf s.history).Nodup
  | .idle | .saved _ => (visitsOf s.history).Nodup

variable {s : System}

theorem Once.nodup (h : Once s) : (visitsOf s.history).Nodup := by
  unfold Once at h
  split at h
  · rw [h]
    exact List.nodup_nil
  · exact (List.nodup_append.mp h).2.1
  · exact h
  · exact h

variable {plan : Plan}

theorem Once.visit {rest : List FzKey} {skipped : List SkippedFzKey} {connectionFailed : Bool}
    (h : (key :: rest ++ visitsOf s.history).Nodup) (outcome : Outcome) :
    Once (visitKey s plan key rest skipped connectionFailed outcome) := by
  have hmoved : (rest ++ key :: visitsOf s.history).Nodup := List.perm_middle.nodup_iff.mpr h
  cases outcome with
  | synced => exact hmoved
  | skipped field error => exact hmoved
  | connectionFailed error => exact (List.nodup_append.mp h).2.1

theorem next_once (h : Once s) (a : Action) : Once (next s a) := by
  have hmoves := moves_next s a
  generalize next s a = s' at hmoves ⊢
  cases hmoves with
  | refused => exact h
  | ticked days => exact h
  | changed key => exact h
  | started a plan hidle hplan => exact rfl
  | answered plan changed hasking =>
    have hnone : visitsOf s.history = [] := by simpa only [Once, hasking] using h
    change (keysToSync changed s.state ++ visitsOf s.history).Nodup
    rw [hnone, List.append_nil]
    exact nodup_keysToSync changed s.state
  | visited plan key rest skipped connectionFailed outcome hsyncing =>
    simp only [Once, hsyncing] at h
    exact Once.visit h outcome
  | saved plan skipped connectionFailed hsyncing => exact h.nodup
  | stopped a state hcursor hpending => exact h.nodup

def Recent (s : System) : Prop :=
  ∀ plan, .asked plan ∈ s.history →
    if plan.fullSeed then plan.since = 0 else plan.today - deltaLookbackHardLimitDays ≤ plan.since

theorem Recent.start (h : Recent s)
    (hplan : if plan.fullSeed then plan.since = 0 else plan.today - deltaLookbackHardLimitDays ≤ plan.since) :
    Recent (s.start plan) := by
  intro plan' hmem
  rcases List.mem_cons.mp hmem with heq | hold
  · cases heq
    exact hplan
  · exact h plan' hold

theorem recent_deltaPlan (s : System) : if (deltaPlan s).fullSeed then (deltaPlan s).since = 0
    else (deltaPlan s).today - deltaLookbackHardLimitDays ≤ (deltaPlan s).since := by
  cases hstale : isStale s.state.lastDeltaCursor s.clock with
  | true => simp [deltaPlan, deltaSince, hstale]
  | false =>
    simp only [deltaPlan, hstale, Bool.false_eq_true, if_false]
    exact deltaSince_recent hstale

theorem next_recent (h : Recent s) (a : Action) : Recent (next s a) := by
  have hmoves := moves_next s a
  generalize next s a = s' at hmoves ⊢
  cases hmoves with
  | refused => exact h
  | ticked | saved | stopped => exact h
  | changed key => exact fun plan hmem => h plan ((List.mem_cons.mp hmem).resolve_left nofun)
  | started a plan hidle hplan =>
    rcases hplan with rfl | rfl
    · exact h.start (recent_deltaPlan s)
    · exact h.start rfl
  | answered plan changed hasking => exact fun plan hmem => h plan ((List.mem_cons.mp hmem).resolve_left nofun)
  | visited plan key rest skipped connectionFailed outcome hsyncing =>
    cases outcome with
    | synced => exact fun plan hmem => h plan ((List.mem_cons.mp hmem).resolve_left nofun)
    | skipped field error => exact fun plan hmem => h plan ((List.mem_cons.mp hmem).resolve_left nofun)
    | connectionFailed error => exact h

end Visits

/-! ### Runs -/

def opening : System := {}

/-- The key has been synced since, is pending, or every later delta asks far enough
back, until a run comes to its end. -/
def Kept (s : System) (newer : List Event) (key : FzKey) (day : Day) : Prop :=
  .visited key true ∈ newer ∨ key ∈ s.pendingKeys ∨
    ∀ today, s.clock ≤ today → deltaSince s.state.lastDeltaCursor today ≤ day

/-- What is promised of the mirror when no run is at work, and of every run. -/
structure NoKeyLost (s : System) : Prop where
  /-- A change is synced by a visit after it, or will be. -/
  changes : s.stage = .idle → ∀ newer older key day,
    s.history = newer ++ .changed key day :: older → Kept s newer key day
  /-- A changed key a delta is told of is synced by a visit after that, or will be. -/
  reports : s.stage = .idle → ∀ newer older keys plan key day,
    s.history = newer ++ .reported keys plan :: older → plan.byDelta = true → key ∈ keys →
    .changed key day ∈ older → plan.since ≤ day → Kept s newer key day
  /-- No run visits a key twice. -/
  once : (visitsOf s.history).Nodup
  /-- A run asks at most 90 days back, unless it is a full seed, which asks from the epoch. -/
  recent : ∀ plan, .asked plan ∈ s.history →
    if plan.fullSeed then plan.since = 0 else plan.today - deltaLookbackHardLimitDays ≤ plan.since

theorem Complies.kept {s : System} (h : Complies s) (hidle : s.stage = .idle)
    (hclaim : Claimed s.history newer key day) : Kept s newer key day := by
  have hhorizon : s.horizon = s.clock := by rw [System.horizon, hidle]
  refine (h.claims newer key day hclaim).1.imp id (Or.imp id fun hreach today hle => ?_)
  rw [hhorizon] at hreach
  exact deltaSince_mono hreach hle

/-- **No changed key is lost**, whatever fails: after every run a change has been synced by
a visit that follows it, is pending, or will be reported again; no key is visited twice
in a run, and only a full seed asks more than 90 days back. -/
theorem no_changed_key_lost {actions : List Action} (hcomplete : Run.Along next Complete opening actions) :
    NoKeyLost (actions.foldl next opening) := by
  have hopening : Complies opening := by
    refine ⟨nofun, nofun, nofun,
      fun newer key day hclaim => ?_⟩
    exact absurd hclaim.changed List.not_mem_nil
  have hstep : ∀ s a, Complies s → Complete s a → Complies (next s a) := fun _ _ h ha => next_complies h ha
  have hcomplies := Run.invariant_along hstep hopening hcomplete
  have honceStep : ∀ s a, Once s → Once (next s a) := fun _ a h => next_once h a
  have hfirst : Once opening := List.nodup_nil
  have honce := Run.invariant honceStep hfirst actions
  have hrecentStep : ∀ s a, Recent s → Recent (next s a) := fun _ a h => next_recent h a
  have hnever : Recent opening := fun _ h => (by cases h)
  have hrecent := Run.invariant hrecentStep hnever actions
  refine ⟨fun hidle newer older key day heq => hcomplies.kept hidle ⟨older, .inl heq⟩, ?_,
    honce.nodup, hrecent⟩
  intro hidle newer older keys plan key day heq hby hkey hchanged hday
  exact hcomplies.kept hidle ⟨older, .inr ⟨keys, plan, heq, hby, hkey, hchanged, hday⟩⟩

def answersTo (changed : List FzKey) (since : Day) : Event → Bool
  | .changed key day => decide (since ≤ day → key ∈ changed)
  | .asked _ | .reported _ _ | .visited _ _ => true

theorem all_answersTo {changed : List FzKey} {since : Day} :
    history.all (answersTo changed since) = true ↔
      ∀ key day, .changed key day ∈ history → since ≤ day → key ∈ changed := by
  rw [List.all_eq_true]
  refine ⟨fun h key day hmem => of_decide_eq_true (h _ hmem), fun h e he => ?_⟩
  cases e with
  | changed key day => exact decide_eq_true (h key day he)
  | asked | reported | visited => rfl

instance decidableComplete (s : System) : ∀ a, Decidable (Complete s a)
  | .answer changed =>
    match hstage : s.stage with
    | .asking plan =>
      decidable_of_iff (s.history.all (answersTo changed plan.since) = true)
        ⟨fun h _ _ ha hplan => by
          cases ha
          cases hstage.symm.trans hplan
          exact all_answersTo.mp h,
        fun h => all_answersTo.mpr (h changed plan rfl hstage)⟩
    | .idle | .syncing .. | .saved _ => isTrue fun _ _ _ hplan => by cases hstage.symm.trans hplan
  | .tick _ | .change _ | .startDelta | .startSeed | .visit _ | .save | .watermark _ | .abort =>
    isTrue fun _ _ ha => by cases ha

/-- A seed that skips one key and never comes to the other, and the delta after it. -/
def brokenSeed : List Action :=
  [.tick 20000, .change "A", .change "B", .startDelta, .answer ["A", "B"],
    .visit (.skipped .options "ProviderGatewayError"), .visit (.connectionFailed "CircuitOpenError"),
    .save, .watermark none, .tick 1, .change "A", .startDelta, .answer ["A", "B"], .visit .synced, .abort]

theorem no_changed_key_lost_brokenSeed : (brokenSeed.foldl next opening).pendingKeys = ["A", "B"] ∧
      NoKeyLost (brokenSeed.foldl next opening) :=
  ⟨by decide +kernel, no_changed_key_lost (by decide +kernel)⟩

/-- A mirror that is up to date and seeded again, by a run that aborts. -/
def secondSeed : List Action :=
  [.tick 20000, .change "A", .tick 1, .startDelta, .answer ["A"], .visit .synced, .save, .watermark none,
    .startSeed, .answer ["A"], .abort]

/-- The first seed asks from the epoch; what the second one reports was synced before
that report and will not be reported again. -/
theorem seed_asks_epoch : (¬ ∀ actions, Run.Along next Complete opening actions → ∀ plan,
      .asked plan ∈ (actions.foldl next opening).history →
        plan.today - deltaLookbackHardLimitDays ≤ plan.since) ∧
    ¬ ∀ actions, Run.Along next Complete opening actions →
      (actions.foldl next opening).stage = .idle → ∀ newer older keys plan key day,
      (actions.foldl next opening).history = newer ++ .reported keys plan :: older →
      key ∈ keys → .changed key day ∈ older → Kept (actions.foldl next opening) newer key day := by
  constructor
  · intro h
    have hlate := h secondSeed (by decide +kernel) ⟨0, 20001, true, true⟩ (by decide +kernel)
    revert hlate
    decide
  · intro h
    have hhistory : (secondSeed.foldl next opening).history =
        [] ++ .reported ["A"] ⟨0, 20001, true, false⟩ ::
          (secondSeed.foldl next opening).history.tail := by decide +kernel
    rcases h secondSeed (by decide +kernel) (by decide +kernel) [] _ ["A"] _ "A" 20000 hhistory
        List.mem_cons_self (by decide +kernel) with hsynced | hpending | hreach
    · cases hsynced
    · revert hpending
      decide +kernel
    · have hagain := hreach 20001 (by decide +kernel)
      revert hagain
      decide +kernel

end Nexotec.SyncRuns
