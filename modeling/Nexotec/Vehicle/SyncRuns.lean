/-
Runs of the catalogue sync (`app/vehicle/services/catalogue_sync.py`): which keys a run
asks for, which it visits, and what it leaves for the next run.

The mirror of one tenant and provider keeps a cursor, the day of the last run that came
to its end, and the keys that run did not sync.  Both are written by one commit after
the loop over the keys, so a run that aborts before it leaves them as they were.

* `keysToSync`, `saveRunProgress` — the two ends of a run;
* `Moves`, `moves_next` — everything a step can do.
-/
import Mathlib.Data.List.Basic
import Nexotec.Core.Base

namespace Nexotec.SyncRuns

/-- A day, counted from `_EPOCH_FOR_FULL_SEED`. -/
abbrev Day := ℕ

abbrev FzKey := String

/-- `SkippedField`. -/
inductive SkippedField where
  | masterData
  | options
  | colours
  | tyreSpecs
  | images
  | notAttempted
  deriving DecidableEq

structure SkippedFzKey where
  fzKey : FzKey
  field : SkippedField
  error : String
  deriving DecidableEq

/-- An entry of `pending_fz_keys`. -/
structure PendingFzKey where
  fzKey : FzKey
  field : SkippedField
  error : String
  failedAt : Day

/-- `ProviderSyncState`; a row that is not there yet has the defaults. -/
structure ProviderSyncState where
  lastFullSeedAt : Option Day := none
  lastDeltaCursor : Option Day := none
  lastSystemWatermarkDate : Option Day := none
  lastSystemCheckedAt : Option Day := none
  pendingFzKeys : List PendingFzKey := []

def deltaLookbackHardLimitDays : ℕ := 90

/-- Whether `run_daily_delta_for_tenant` falls back to a full reseed. -/
def isStale (cursor : Option Day) (today : Day) : Bool :=
  match cursor with
  | none => true
  | some since => since < today - deltaLookbackHardLimitDays

/-- The `since` of `run_daily_delta_for_tenant`: the cursor, or the epoch. -/
def deltaSince (cursor : Option Day) (today : Day) : Day :=
  if isStale cursor today then 0 else cursor.getD 0

/-- `if key not in seen: keys.append(key)`. -/
def appendNew (keys : List FzKey) (key : FzKey) : List FzKey :=
  if key ∈ keys then keys else keys ++ [key]

def keysToSync (changed : List FzKey) (state : ProviderSyncState) : List FzKey :=
  (state.pendingFzKeys.map (·.fzKey)).foldl appendNew (changed.foldl appendNew [])

def saveRunProgress (today runAt : Day) (fullSeed : Bool) (skipped : List SkippedFzKey)
    (state : ProviderSyncState) : ProviderSyncState :=
  { state with
    lastFullSeedAt := if fullSeed then some runAt else state.lastFullSeedAt
    lastDeltaCursor := some today
    pendingFzKeys := skipped.map fun s => ⟨s.fzKey, s.field, s.error, runAt⟩ }

/-! ### The system -/

/-- What a run has been asked to do. -/
structure Plan where
  since : Day
  today : Day
  fullSeed : Bool
  /-- By `run_daily_delta_for_tenant`, and not by `seed_tenant_catalogue` itself. -/
  byDelta : Bool
  deriving DecidableEq

/-- What happens around a mirror, oldest last. -/
inductive Event where
  /-- The provider changes a key. -/
  | changed (key : FzKey) (day : Day)
  | asked (plan : Plan)
  /-- The answer of `list_changed_keys`. -/
  | reported (keys : List FzKey) (plan : Plan)
  /-- The key's own `call_capability` block has been entered. -/
  | visited (key : FzKey) (synced : Bool)
  deriving DecidableEq

/-- The run at work. -/
inductive Stage where
  | idle
  | asking (plan : Plan)
  /-- In the loop of `_sync_keys`. -/
  | syncing (plan : Plan) (todo : List FzKey) (skipped : List SkippedFzKey) (connectionFailed : Bool)
  | saved (connectionFailed : Bool)
  deriving DecidableEq

structure System where
  clock : Day := 0
  state : ProviderSyncState := {}
  stage : Stage := .idle
  history : List Event := []

/-- How `_sync_one_key` ends, but for an exception that aborts the run. -/
inductive Outcome where
  | synced
  | skipped (field : SkippedField) (error : String)
  | connectionFailed (error : String)

inductive Action where
  | tick (days : ℕ)
  | change (key : FzKey)
  /-- `run_daily_delta_for_tenant` and `seed_tenant_catalogue`, at `utcnow().date()`. -/
  | startDelta
  | startSeed
  | answer (changed : List FzKey)
  | visit (outcome : Outcome)
  | save
  /-- The watermark's date; `none` is a `CircuitOpenError`. -/
  | watermark (date : Option Day)
  /-- Any other exception, at any point. -/
  | abort

def deltaPlan (s : System) : Plan where
  since := deltaSince s.state.lastDeltaCursor s.clock
  today := s.clock
  fullSeed := isStale s.state.lastDeltaCursor s.clock
  byDelta := true

def seedPlan (s : System) : Plan := ⟨0, s.clock, true, false⟩

def System.start (s : System) (plan : Plan) : System :=
  { s with stage := .asking plan, history := .asked plan :: s.history }

def visitKey (s : System) (plan : Plan) (key : FzKey) (rest : List FzKey) (skipped : List SkippedFzKey)
    (connectionFailed : Bool) : Outcome → System
  | .synced =>
    { s with stage := .syncing plan rest skipped connectionFailed, history := .visited key true :: s.history }
  | .skipped field error =>
    { s with
      stage := .syncing plan rest (skipped ++ [⟨key, field, error⟩]) connectionFailed
      history := .visited key false :: s.history }
  | .connectionFailed error =>
    -- this key and every later one
    let left := (key :: rest).map fun k => ⟨k, .notAttempted, error⟩
    { s with stage := .syncing plan [] (skipped ++ left) true }

/-- One step of the provider, the clock or the run at work. -/
def next (s : System) (a : Action) : System :=
  match a, s.stage with
  | .tick days, _ => { s with clock := s.clock + days }
  | .change key, _ => { s with history := .changed key s.clock :: s.history }
  | .startDelta, .idle => s.start (deltaPlan s)
  | .startSeed, .idle => s.start (seedPlan s)
  | .answer changed, .asking plan =>
    { s with
      stage := .syncing plan (keysToSync changed s.state) [] false
      history := .reported changed plan :: s.history }
  | .visit outcome, .syncing plan (key :: rest) skipped connectionFailed =>
    visitKey s plan key rest skipped connectionFailed outcome
  | .save, .syncing plan [] skipped connectionFailed =>
    { s with
      stage := .saved connectionFailed
      state := saveRunProgress plan.today s.clock plan.fullSeed skipped s.state }
  | .watermark date, .saved false =>
    match date with
    | some day =>
      { s with
        stage := .idle
        state := { s.state with lastSystemWatermarkDate := some day, lastSystemCheckedAt := some s.clock } }
    | none => { s with stage := .idle }
  -- a run whose connection has failed ends without the watermark
  | .watermark _, .saved true => { s with stage := .idle }
  | .abort, _ => { s with stage := .idle }
  | .startDelta, _ | .startSeed, _ | .answer _, _ | .visit _, _ | .save, _ | .watermark _, _ => s

/-! ### What a step can do -/

/-- Everything `next` can make of the system. -/
inductive Moves (s : System) : Action → System → Prop
  | refused (a : Action) : Moves s a s
  | ticked (days : ℕ) : Moves s (.tick days) { s with clock := s.clock + days }
  | changed (key : FzKey) : Moves s (.change key) { s with history := .changed key s.clock :: s.history }
  | started (a : Action) (plan : Plan) (hidle : s.stage = .idle)
      (hplan : plan = deltaPlan s ∨ plan = seedPlan s) :
      Moves s a (s.start plan)
  | answered (plan : Plan) (changed : List FzKey) (hasking : s.stage = .asking plan) :
      Moves s (.answer changed) { s with
        stage := .syncing plan (keysToSync changed s.state) [] false
        history := .reported changed plan :: s.history }
  | visited (plan : Plan) (key : FzKey) (rest : List FzKey) (skipped : List SkippedFzKey)
      (connectionFailed : Bool) (outcome : Outcome)
      (hsyncing : s.stage = .syncing plan (key :: rest) skipped connectionFailed) :
      Moves s (.visit outcome) (visitKey s plan key rest skipped connectionFailed outcome)
  | saved (plan : Plan) (skipped : List SkippedFzKey) (connectionFailed : Bool)
      (hsyncing : s.stage = .syncing plan [] skipped connectionFailed) :
      Moves s .save { s with
        stage := .saved connectionFailed
        state := saveRunProgress plan.today s.clock plan.fullSeed skipped s.state }
  /-- The run is over; cursor and pending list are as they were. -/
  | stopped (a : Action) (state : ProviderSyncState)
      (hcursor : state.lastDeltaCursor = s.state.lastDeltaCursor)
      (hpending : state.pendingFzKeys = s.state.pendingFzKeys) :
      Moves s a { s with stage := .idle, state := state }

theorem moves_next (s : System) (a : Action) : Moves s a (next s a) := by
  cases a with
  | tick days => exact .ticked days
  | change key => exact .changed key
  | startDelta =>
    cases hstage : s.stage with
    | idle =>
      simp only [next, hstage]
      exact .started _ _ hstage (.inl rfl)
    | asking | syncing | saved =>
      simp only [next, hstage]
      exact .refused _
  | startSeed =>
    cases hstage : s.stage with
    | idle =>
      simp only [next, hstage]
      exact .started _ _ hstage (.inr rfl)
    | asking | syncing | saved =>
      simp only [next, hstage]
      exact .refused _
  | answer changed =>
    cases hstage : s.stage with
    | asking plan =>
      simp only [next, hstage]
      exact .answered plan changed hstage
    | idle | syncing | saved =>
      simp only [next, hstage]
      exact .refused _
  | visit outcome =>
    cases hstage : s.stage with
    | syncing plan todo skipped connectionFailed =>
      cases todo with
      | nil =>
        simp only [next, hstage]
        exact .refused _
      | cons key rest =>
        simp only [next, hstage]
        exact .visited plan key rest skipped connectionFailed outcome hstage
    | idle | asking | saved =>
      simp only [next, hstage]
      exact .refused _
  | save =>
    cases hstage : s.stage with
    | syncing plan todo skipped connectionFailed =>
      cases todo with
      | nil =>
        simp only [next, hstage]
        exact .saved plan skipped connectionFailed hstage
      | cons key rest =>
        simp only [next, hstage]
        exact .refused _
    | idle | asking | saved =>
      simp only [next, hstage]
      exact .refused _
  | watermark date =>
    cases hstage : s.stage with
    | saved connectionFailed =>
      simp only [next, hstage]
      cases connectionFailed with
      | true => exact .stopped _ s.state rfl rfl
      | false =>
        cases date with
        | none => exact .stopped _ s.state rfl rfl
        | some day => exact .stopped _ _ rfl rfl
    | idle | asking | syncing =>
      simp only [next, hstage]
      exact .refused _
  | abort => exact .stopped _ s.state rfl rfl

/-- `list_changed_keys(since)` returns every key changed at or after `since`. -/
def Complete (s : System) (a : Action) : Prop :=
  ∀ changed plan, a = .answer changed → s.stage = .asking plan →
    ∀ key day, .changed key day ∈ s.history → plan.since ≤ day → key ∈ changed

/-! ### The keys of a run -/

theorem mem_foldl_appendNew {keys new : List FzKey} {key : FzKey} :
    key ∈ new.foldl appendNew keys ↔ key ∈ keys ∨ key ∈ new := by
  induction new generalizing keys with
  | nil => simp
  | cons k new ih =>
    rw [List.foldl_cons, ih, appendNew]
    split
    · next hk =>
      constructor
      · rintro (h | h)
        · exact .inl h
        · exact .inr (List.mem_cons_of_mem k h)
      · rintro (h | h)
        · exact .inl h
        · rcases List.mem_cons.mp h with rfl | h
          · exact .inl hk
          · exact .inr h
    · simp only [List.mem_append, List.mem_cons, List.not_mem_nil, false_or, or_assoc]

theorem nodup_foldl_appendNew {keys : List FzKey} (h : keys.Nodup) (new : List FzKey) :
    (new.foldl appendNew keys).Nodup := by
  induction new generalizing keys with
  | nil => exact h
  | cons k new ih =>
    refine ih ?_
    unfold appendNew
    split
    · exact h
    · next hk => exact List.nodup_append.mpr ⟨h, List.nodup_singleton k, by grind⟩

theorem mem_keysToSync {changed : List FzKey} {state : ProviderSyncState} {key : FzKey} :
    key ∈ keysToSync changed state ↔ key ∈ changed ∨ key ∈ state.pendingFzKeys.map (·.fzKey) := by
  rw [keysToSync, mem_foldl_appendNew, mem_foldl_appendNew]
  simp only [List.not_mem_nil, false_or]

theorem nodup_keysToSync (changed : List FzKey) (state : ProviderSyncState) :
    (keysToSync changed state).Nodup :=
  nodup_foldl_appendNew (nodup_foldl_appendNew List.nodup_nil changed) _

end Nexotec.SyncRuns
