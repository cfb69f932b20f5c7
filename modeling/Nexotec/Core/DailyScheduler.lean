/-
The daily jobs of the worker (`app/core/daily_scheduler.py`, KAN-303).

A cycle visits the registered jobs in turn.  The date is fixed when the cycle begins, each job has
clock readings of its own, and a failing job has an episode in the memory of the process, which
holds its next attempt back and says which of its failures alarm.

* `sound_runJob`, `history_right` — every attempt is right, whatever the clock reads.
-/
import Mathlib.Data.List.Forall2
import Mathlib.Tactic.Linarith
import Nexotec.Lib.Run
import Nexotec.Core.Base

namespace Nexotec.DailyScheduler

/-! ### Episodes -/

/-- `dt.date`, in days. -/
abbrev Day := ℤ

def minutes (n : ℤ) : Time := n * (60 * 1000000)

def retryBackoffFirst : Time := minutes 1

def retryBackoffCap : Time := minutes 60

def realarmAfter : Time := minutes (24 * 60)

/-- `now.date()`. -/
def date (now : Time) : Day := now / minutes (24 * 60)

/-- `_FailureEpisode`. -/
structure FailureEpisode where
  startedAt : Time
  lastAlarmAt : Time
  failedAttempts : ℕ
  backoff : Time
  nextAttemptAt : Time

/-- The line logged for a failure, an ERROR when it alarms and a WARNING otherwise. -/
structure FailureLine where
  alarm : Bool
  message : String
  jobName : String
  failedAttempts : Option ℕ := none
  failingSince : Option Time := none
  retryIn : Time

/-- The line logged when an episode ends. -/
structure RecoveryLine where
  jobName : String
  failedAttempts : ℕ
  failingSince : Time
  failingFor : Time

abbrev Episodes := Table String FailureEpisode

def recordFailure (jobName : String) (now : Time) (episodes : Episodes) : FailureLine × Episodes :=
  match episodes.lookup jobName with
  | none =>
    ({ alarm := true
       message := "daily job failed, will retry with backoff"
       jobName := jobName
       retryIn := retryBackoffFirst },
      episodes.insert jobName {
        startedAt := now
        lastAlarmAt := now
        failedAttempts := 1
        backoff := retryBackoffFirst
        nextAttemptAt := now + retryBackoffFirst })
  | some episode =>
    let backoff := min (episode.backoff * 2) retryBackoffCap
    let alarm : Bool := realarmAfter ≤ now - episode.lastAlarmAt
    ({ alarm := alarm
       message := if alarm then "daily job still failing"
         else "daily job failed again, will retry with backoff"
       jobName := jobName
       failedAttempts := some (episode.failedAttempts + 1)
       failingSince := some episode.startedAt
       retryIn := backoff },
      episodes.insert jobName {
        startedAt := episode.startedAt
        lastAlarmAt := if alarm then now else episode.lastAlarmAt
        failedAttempts := episode.failedAttempts + 1
        backoff := backoff
        nextAttemptAt := now + backoff })

def recordSuccess (jobName : String) (now : Time) (episodes : Episodes) :
    Option RecoveryLine × Episodes :=
  ((episodes.lookup jobName).map fun episode => {
      jobName := jobName
      failedAttempts := episode.failedAttempts
      failingSince := episode.startedAt
      failingFor := now - episode.startedAt },
    episodes.erase jobName)

/-! ### Cycles -/

/-- What a job's turn meets: the reading before it, the one after the attempt, and whether the job
and the commit go through. -/
structure Turn where
  now : Time
  ended : Time
  succeeds : Bool

/-- One call of `run_due_daily_jobs`; `clock` and `today` are its optional arguments, `started` the
reading it begins with. -/
structure Cycle where
  clock : Option Time := none
  today : Option Day := none
  started : Time
  turn : String → Turn

def Cycle.runDate (cycle : Cycle) : Day := cycle.today.getD (date (cycle.clock.getD cycle.started))

/-- `now` in a job's turn. -/
def Cycle.now (cycle : Cycle) (jobName : String) : Time := cycle.clock.getD (cycle.turn jobName).now

/-- `now if clock_given else utcnow()`. -/
def Cycle.ended (cycle : Cycle) (jobName : String) : Time :=
  cycle.clock.getD (cycle.turn jobName).ended

/-- An attempt of a job, for the history. -/
structure Attempt where
  jobName : String
  runDate : Day
  attemptedAt : Time
  decidedAt : Time
  succeeded : Bool
  /-- The failure was logged as an ERROR. -/
  alarm : Bool

/-- The process's episodes, the rows of `DailyJobRun`, and the attempts so far. -/
structure Scheduler where
  episodes : Episodes := ∅
  runs : List (String × Day) := []
  history : List Attempt := []

def hasRunToday (runs : List (String × Day)) (jobName : String) (today : Day) : Bool :=
  runs.contains (jobName, today)

def heldBack (episodes : Episodes) (jobName : String) (now : Time) : Bool :=
  (episodes.lookup jobName).any fun episode => now < episode.nextAttemptAt

/-- The attempt of a job; the job's effects and its row are committed together. -/
def attempt (cycle : Cycle) (jobName : String) (s : Scheduler) : Scheduler × Bool :=
  let made (alarm : Bool) : Attempt := {
    jobName := jobName
    runDate := cycle.runDate
    attemptedAt := cycle.now jobName
    decidedAt := cycle.ended jobName
    succeeded := (cycle.turn jobName).succeeds
    alarm := alarm }
  if (cycle.turn jobName).succeeds then
    ({ episodes := (recordSuccess jobName (cycle.ended jobName) s.episodes).2
       runs := s.runs ++ [(jobName, cycle.runDate)]
       history := s.history ++ [made false] }, true)
  else
    let (line, episodes) := recordFailure jobName (cycle.ended jobName) s.episodes
    ({ s with episodes := episodes, history := s.history ++ [made line.alarm] }, false)

def runJob (cycle : Cycle) (s : Scheduler) (jobName : String) : Scheduler × Bool :=
  if heldBack s.episodes jobName (cycle.now jobName) then (s, false)
  else if hasRunToday s.runs jobName cycle.runDate then (s, false)
  else attempt cycle jobName s

/-- `run_due_daily_jobs`, with the names it returns. -/
def runDueDailyJobs (registry : List String) (s : Scheduler) (cycle : Cycle) :
    Scheduler × List String :=
  registry.foldl (fun acc jobName =>
    let (s, ran) := runJob cycle acc.1 jobName
    (s, if ran then acc.2 ++ [jobName] else acc.2)) (s, [])

def run (registry : List String) (s : Scheduler) (cycles : List Cycle) : Scheduler :=
  cycles.foldl (fun s cycle => (runDueDailyJobs registry s cycle).1) s

/-! ### What an attempt owes -/

/-- An attempt after a stretch of failures: one more failure, or the end of them. -/
def follow (failed : List Attempt) (a : Attempt) : List Attempt :=
  if a.succeeded then [] else failed ++ [a]

/-- The failures of a job since its last success, oldest first. -/
def episode (jobName : String) (history : List Attempt) : List Attempt :=
  (history.filter fun a => a.jobName = jobName).foldl follow []

/-- The wait after the `k`-th failure in a row. -/
def wait (k : ℕ) : Time := min (minutes (2 ^ (k - 1))) (minutes 60)

def lastAlarm (failed : List Attempt) : Option Time :=
  ((failed.filter (·.alarm)).getLast?).map (·.decidedAt)

/-- What an attempt owes to the attempts before it and to the runs of earlier processes. -/
structure Right (runs : List (String × Day)) (before : List Attempt) (a : Attempt) : Prop where
  /-- No run of the date is recorded. -/
  once : (a.jobName, a.runDate) ∉ runs ∧ ∀ b ∈ before, b.succeeded = true →
    b.jobName = a.jobName → b.runDate ≠ a.runDate
  /-- The last of `k` failures in a row is `wait k` ago. -/
  waited : ∀ last, (episode a.jobName before).getLast? = some last →
    last.decidedAt + wait (episode a.jobName before).length ≤ a.attemptedAt
  /-- A failure alarms just when it is the first of its episode or the last alarm is a day old. -/
  alarms : a.alarm = true ↔ a.succeeded = false ∧
    (episode a.jobName before = [] ∨
      ∃ t, lastAlarm (episode a.jobName before) = some t ∧ realarmAfter ≤ a.decidedAt - t)

def AllRight (runs : List (String × Day)) (history : List Attempt) : Prop :=
  ∀ before a after, history = before ++ a :: after → Right runs before a

def AlarmsApart (failed : List Attempt) : Prop :=
  (failed.filter (·.alarm)).Pairwise fun a b => realarmAfter ≤ b.decidedAt - a.decidedAt

/-- After its `k`-th failure in a row a job is not attempted before `wait k` has passed. -/
def Spaced (history : List Attempt) : Prop :=
  ∀ before a between b after, history = before ++ a :: (between ++ b :: after) →
    a.succeeded = false → b.jobName = a.jobName →
    a.decidedAt + wait ((episode a.jobName before).length + 1) ≤ b.attemptedAt

/-- The readings of a cycle, in the order in which they are taken. -/
def readings (registry : List String) (cycle : Cycle) : List Time :=
  cycle.clock.getD cycle.started ::
    registry.flatMap fun jobName => [cycle.now jobName, cycle.ended jobName]

def NonDecreasing (registry : List String) (cycles : List Cycle) : Prop :=
  (cycles.flatMap (readings registry)).Pairwise (· ≤ ·)

/-- The cycles are the same for a job: its readings, its outcome and the date. -/
structure SameFor (jobName : String) (cycle cycle' : Cycle) : Prop where
  clock : cycle.clock = cycle'.clock
  runDate : cycle.runDate = cycle'.runDate
  turn : cycle.turn jobName = cycle'.turn jobName

section Histories

variable {jobName : String} {runs : List (String × Day)} {history : List Attempt} {a : Attempt}

theorem episode_append (jobName : String) (history : List Attempt) (a : Attempt) :
    episode jobName (history ++ [a]) =
      if a.jobName = jobName then follow (episode jobName history) a
      else episode jobName history := by
  unfold episode
  rw [List.filter_append, List.foldl_append]
  by_cases hjob : a.jobName = jobName
  · rw [if_pos hjob, List.filter_cons_of_pos (by simpa using hjob)]
    rfl
  · rw [if_neg hjob, List.filter_cons_of_neg (by simpa using hjob)]
    rfl

theorem episode_append_failure (hjob : a.jobName = jobName) (hfailed : a.succeeded = false) :
    episode jobName (history ++ [a]) = episode jobName history ++ [a] := by
  rw [episode_append, if_pos hjob]
  unfold follow
  rw [hfailed]
  rfl

theorem episode_append_success (hjob : a.jobName = jobName) (hsucceeded : a.succeeded = true) :
    episode jobName (history ++ [a]) = [] := by
  rw [episode_append, if_pos hjob]
  unfold follow
  rw [hsucceeded]
  rfl

theorem episode_append_ne (hjob : a.jobName ≠ jobName) :
    episode jobName (history ++ [a]) = episode jobName history := by
  rw [episode_append, if_neg hjob]

theorem episode_append_others {others : List Attempt} (h : ∀ b ∈ others, b.jobName ≠ jobName) :
    episode jobName (history ++ others) = episode jobName history := by
  have hnone : (others.filter fun a => a.jobName = jobName) = [] :=
    List.filter_eq_nil_iff.mpr (by simpa using h)
  unfold episode
  rw [List.filter_append, hnone, List.append_nil]

theorem AllRight.prefix {before after : List Attempt} (h : AllRight runs (before ++ after)) :
    AllRight runs before := by
  rintro first a rest rfl
  exact h first a (rest ++ after) (by simp)

theorem allRight_nil : AllRight runs [] := by
  intro before a after h
  simp at h

theorem AllRight.append (h : AllRight runs history) (ha : Right runs history a) :
    AllRight runs (history ++ [a]) := by
  intro before b after heq
  rcases List.eq_nil_or_concat after with rfl | ⟨rest, last, rfl⟩
  · obtain ⟨rfl, hb⟩ := List.append_inj' heq rfl
    obtain rfl := List.singleton_injective hb
    exact ha
  · have hsplit : history ++ [a] = (before ++ b :: rest) ++ [last] := by simp [heq]
    obtain ⟨rfl, -⟩ := List.append_inj' hsplit rfl
    exact h before b rest rfl

theorem AllRight.alarmsApart (jobName : String) :
    ∀ {history : List Attempt}, AllRight runs history → AlarmsApart (episode jobName history) := by
  intro history
  induction history using List.reverseRecOn with
  | nil => exact fun _ => List.Pairwise.nil
  | append_singleton history a ih =>
    intro h
    have happart := ih h.prefix
    by_cases hjob : a.jobName = jobName
    · cases hsucceeded : a.succeeded with
      | true =>
        rw [episode_append_success hjob hsucceeded]
        exact List.Pairwise.nil
      | false =>
        rw [episode_append_failure hjob hsucceeded]
        unfold AlarmsApart
        rw [List.filter_append]
        cases halarm : a.alarm with
        | false =>
          rw [List.filter_cons_of_neg (by simp [halarm]), List.filter_nil, List.append_nil]
          exact happart
        | true =>
          rw [List.filter_cons_of_pos halarm, List.filter_nil]
          refine List.pairwise_append.mpr ⟨happart, List.pairwise_singleton _ _, ?_⟩
          intro b hb c hc
          obtain rfl := List.mem_singleton.mp hc
          subst hjob
          obtain ⟨-, hempty | ⟨t, ht, hday⟩⟩ := (h history c [] rfl).alarms.mp halarm
          · rw [hempty] at hb
            cases hb
          · -- `b` is the last alarm, or a day before it
            obtain ⟨last, hlast, rfl⟩ := Option.map_eq_some_iff.mp ht
            obtain ⟨alarms, halarms⟩ := List.getLast?_eq_some_iff.mp hlast
            unfold AlarmsApart at happart
            rw [halarms] at hb happart
            rcases List.mem_append.mp hb with hb | hb
            · have hearlier := (List.pairwise_append.mp happart).2.2 b hb last (by simp)
              have hpositive : 0 ≤ realarmAfter := by decide
              linarith
            · obtain rfl := List.mem_singleton.mp hb
              exact hday
    · rw [episode_append_ne hjob]
      exact happart

/-- With a clock that does not run backwards the wait holds for all later attempts. -/
theorem spaced_of_right (h : AllRight runs history)
    (hsorted : (history.map (·.attemptedAt)).Pairwise (· ≤ ·)) : Spaced history := by
  intro before a between b after heq hfailed hjob
  -- the first attempt of the job after `a` has waited
  have hfirst : ∃ c, (∃ skipped rest, (∀ d ∈ skipped, d.jobName ≠ a.jobName) ∧
      between ++ b :: after = skipped ++ c :: rest ∧ (c = b ∨ b ∈ rest)) ∧ c.jobName = a.jobName := by
    clear heq
    induction between with
    | nil => exact ⟨b, ⟨[], after, by simp, rfl, .inl rfl⟩, hjob⟩
    | cons d between ih =>
      by_cases hd : d.jobName = a.jobName
      · exact ⟨d, ⟨[], between ++ b :: after, by simp, rfl, .inr (by simp)⟩, hd⟩
      · obtain ⟨c, ⟨skipped, rest, hskipped, hsplit, hb⟩, hc⟩ := ih
        exact ⟨c, ⟨d :: skipped, rest, List.forall_mem_cons.mpr ⟨hd, hskipped⟩, by simp [hsplit], hb⟩,
          hc⟩
  obtain ⟨c, ⟨skipped, rest, hskipped, hsplit, hb⟩, hc⟩ := hfirst
  have hright : Right runs (before ++ [a] ++ skipped) c :=
    h _ c rest (by rw [heq, hsplit]; simp)
  have hepisode : episode c.jobName (before ++ [a] ++ skipped) = episode a.jobName before ++ [a] := by
    rw [hc, episode_append_others hskipped, episode_append_failure rfl hfailed]
  have hwaited := hright.waited a (by rw [hepisode]; simp)
  rw [hepisode, List.length_append, List.length_singleton] at hwaited
  rcases hb with rfl | hb
  · exact hwaited
  · have hlater : c.attemptedAt ≤ b.attemptedAt := by
      rw [heq, hsplit, List.map_append, List.pairwise_append] at hsorted
      have htail := hsorted.2.1
      rw [List.map_cons, List.pairwise_cons, List.map_append, List.pairwise_append] at htail
      have hrest := htail.2.2.1
      rw [List.map_cons, List.pairwise_cons] at hrest
      exact hrest.1 _ (List.mem_map_of_mem hb)
    exact le_trans hwaited hlater

end Histories

section Memory

variable {failed : List Attempt} {a : Attempt} {episodes : Episodes} {jobName : String}

/-- **What an episode stands for.** -/
structure Describes (failed : List Attempt) (e : FailureEpisode) : Prop where
  attempts : e.failedAttempts = failed.length
  backoff : e.backoff = wait failed.length
  started : failed.head?.map (·.decidedAt) = some e.startedAt
  next : failed.getLast?.map (fun last => last.decidedAt + wait failed.length) =
    some e.nextAttemptAt
  alarmed : lastAlarm failed = some e.lastAlarmAt

def Tracks (failed : List Attempt) : Option FailureEpisode → Prop
  | none => failed = []
  | some e => Describes failed e

theorem wait_succ {k : ℕ} (hk : 0 < k) : min (wait k * 2) retryBackoffCap = wait (k + 1) := by
  obtain ⟨k, rfl⟩ := Nat.exists_eq_add_of_lt hk
  have hdouble : ∀ x : ℤ, min (min (x * (60 * 1000000)) (60 * (60 * 1000000)) * 2)
      (60 * (60 * 1000000)) = min (x * 2 * (60 * 1000000)) (60 * (60 * 1000000)) := by
    intro x
    omega
  unfold wait retryBackoffCap minutes
  rw [Nat.zero_add, Nat.add_sub_cancel, Nat.add_sub_cancel, pow_succ]
  exact hdouble _

theorem lastAlarm_append (ha : a.alarm = true) : lastAlarm (failed ++ [a]) = some a.decidedAt := by
  unfold lastAlarm
  rw [List.filter_append, List.filter_cons_of_pos ha, List.filter_nil, List.getLast?_concat,
    Option.map_some]

theorem lastAlarm_append_quiet (ha : a.alarm = false) : lastAlarm (failed ++ [a]) = lastAlarm failed := by
  unfold lastAlarm
  rw [List.filter_append, List.filter_cons_of_neg (by simp [ha]), List.filter_nil, List.append_nil]

theorem recordFailure_alarm (now : Time) (h : Tracks failed (episodes.lookup jobName)) :
    (recordFailure jobName now episodes).1.alarm = true ↔
      failed = [] ∨ ∃ t, lastAlarm failed = some t ∧ realarmAfter ≤ now - t := by
  unfold recordFailure
  cases hlookup : episodes.lookup jobName with
  | none =>
    rw [hlookup] at h
    simp [show failed = [] from h]
  | some e =>
    rw [hlookup] at h
    have hne : failed ≠ [] := by
      rintro rfl
      cases h.started
    simp [hne, h.alarmed]

theorem tracks_recordFailure (h : Tracks failed (episodes.lookup jobName))
    (ha : a.alarm = (recordFailure jobName a.decidedAt episodes).1.alarm) : Tracks (failed ++ [a])
      ((recordFailure jobName a.decidedAt episodes).2.lookup jobName) := by
  unfold recordFailure at ha ⊢
  cases hlookup : episodes.lookup jobName with
  | none =>
    rw [hlookup] at h ha
    obtain rfl : failed = [] := h
    have hfirst : retryBackoffFirst = wait 1 := by decide
    dsimp only
    rw [AList.lookup_insert, hfirst]
    exact ⟨rfl, rfl, rfl, rfl, lastAlarm_append ha⟩
  | some e =>
    rw [hlookup] at h ha
    have hlength : 0 < failed.length := by
      refine List.length_pos_iff.mpr ?_
      rintro rfl
      cases h.started
    have hbackoff : min (e.backoff * 2) retryBackoffCap = wait (failed ++ [a]).length := by
      rw [h.backoff, wait_succ hlength, List.length_append, List.length_singleton]
    dsimp only at ha ⊢
    rw [AList.lookup_insert]
    refine ⟨?_, hbackoff, ?_, ?_, ?_⟩
    · simp [h.attempts]
    · rw [List.head?_append_of_ne_nil _ (List.length_pos_iff.mp hlength)]
      exact h.started
    · rw [List.getLast?_concat, Option.map_some, hbackoff]
    · rw [← ha]
      cases halarm : a.alarm with
      | true => exact lastAlarm_append halarm
      | false =>
        rw [lastAlarm_append_quiet halarm]
        exact h.alarmed

theorem recordFailure_ne {other : String} {now : Time} (hne : other ≠ jobName) :
    (recordFailure jobName now episodes).2.lookup other = episodes.lookup other := by
  unfold recordFailure
  split
  · exact AList.lookup_insert_ne hne
  · exact AList.lookup_insert_ne hne

theorem waited_of_not_heldBack {now : Time} (h : Tracks failed (episodes.lookup jobName))
    (hdue : heldBack episodes jobName now = false) {last : Attempt}
    (hlast : failed.getLast? = some last) : last.decidedAt + wait failed.length ≤ now := by
  unfold heldBack at hdue
  cases hlookup : episodes.lookup jobName with
  | none =>
    rw [hlookup] at h
    obtain rfl : failed = [] := h
    cases hlast
  | some e =>
    rw [hlookup] at h hdue
    have hnext := h.next
    rw [hlast, Option.map_some] at hnext
    rw [Option.some.inj hnext]
    simpa using hdue

end Memory

section Turns

variable {runs : List (String × Day)} {s : Scheduler} {cycle : Cycle} {jobName : String}

/-- **The invariant**: the memory, the rows and the attempts agree, and every attempt is right. -/
structure Sound (runs : List (String × Day)) (s : Scheduler) : Prop where
  tracks : ∀ jobName, Tracks (episode jobName s.history) (s.episodes.lookup jobName)
  recorded : ∀ jobName day, (jobName, day) ∈ s.runs ↔ (jobName, day) ∈ runs ∨
    ∃ b ∈ s.history, b.succeeded = true ∧ b.jobName = jobName ∧ b.runDate = day
  right : AllRight runs s.history

theorem sound_start (runs : List (String × Day)) : Sound runs { runs := runs } where
  tracks _ := rfl
  recorded _ _ := by simp
  right := allRight_nil

def made (cycle : Cycle) (jobName : String) (alarm : Bool) : Attempt where
  jobName := jobName
  runDate := cycle.runDate
  attemptedAt := cycle.now jobName
  decidedAt := cycle.ended jobName
  succeeded := (cycle.turn jobName).succeeds
  alarm := alarm

theorem attempt_of_succeeds (h : (cycle.turn jobName).succeeds = true) :
    attempt cycle jobName s =
      ({ episodes := s.episodes.erase jobName
         runs := s.runs ++ [(jobName, cycle.runDate)]
         history := s.history ++ [made cycle jobName false] }, true) := if_pos h

theorem attempt_of_fails (h : (cycle.turn jobName).succeeds = false) :
    attempt cycle jobName s =
      ({ s with
         episodes := (recordFailure jobName (cycle.ended jobName) s.episodes).2
         history := s.history ++
           [made cycle jobName (recordFailure jobName (cycle.ended jobName) s.episodes).1.alarm] },
        false) := if_neg (by simp [h])

theorem Sound.once (h : Sound runs s) {day : Day} (hday : hasRunToday s.runs jobName day = false) :
    (jobName, day) ∉ runs ∧ ∀ b ∈ s.history, b.succeeded = true → b.jobName = jobName →
      b.runDate ≠ day := by
  have hnot : (jobName, day) ∉ s.runs := by
    intro hmem
    unfold hasRunToday at hday
    rw [List.contains_iff_mem.mpr hmem] at hday
    cases hday
  rw [h.recorded] at hnot
  refine ⟨fun hruns => hnot (.inl hruns), fun b hb hsucceeded hjob hdate => ?_⟩
  exact hnot (.inr ⟨b, hb, hsucceeded, hjob, hdate⟩)

theorem right_made (h : Sound runs s) (hdue : heldBack s.episodes jobName (cycle.now jobName) = false)
    (hday : hasRunToday s.runs jobName cycle.runDate = false) {alarm : Bool}
    (halarm : alarm = true ↔ (cycle.turn jobName).succeeds = false ∧
      (recordFailure jobName (cycle.ended jobName) s.episodes).1.alarm = true) :
    Right runs s.history (made cycle jobName alarm) where
  once := h.once hday
  waited _ hlast := waited_of_not_heldBack (h.tracks jobName) hdue hlast
  alarms := by
    have hrecord := recordFailure_alarm (cycle.ended jobName) (h.tracks jobName)
    exact halarm.trans (and_congr_right fun _ => hrecord)

theorem sound_attempt (h : Sound runs s)
    (hdue : heldBack s.episodes jobName (cycle.now jobName) = false)
    (hday : hasRunToday s.runs jobName cycle.runDate = false) :
    Sound runs (attempt cycle jobName s).1 := by
  cases hsucceeds : (cycle.turn jobName).succeeds with
  | true =>
    rw [attempt_of_succeeds hsucceeds]
    refine ⟨fun other => ?_, fun other day => ?_, ?_⟩
    · dsimp only
      by_cases hjob : jobName = other
      · subst hjob
        have hended : episode jobName (s.history ++ [made cycle jobName false]) = [] :=
          episode_append_success rfl hsucceeds
        rw [hended, AList.lookup_erase]
        rfl
      · have hkept : episode other (s.history ++ [made cycle jobName false]) =
            episode other s.history := episode_append_ne hjob
        rw [hkept, AList.lookup_erase_ne (Ne.symm hjob)]
        exact h.tracks other
    · have hmade : (∃ b ∈ s.history ++ [made cycle jobName false], b.succeeded = true ∧
          b.jobName = other ∧ b.runDate = day) ↔ (∃ b ∈ s.history, b.succeeded = true ∧
          b.jobName = other ∧ b.runDate = day) ∨ (jobName = other ∧ cycle.runDate = day) := by
        simp [made, or_and_right, exists_or, hsucceeds]
      dsimp only
      rw [hmade, List.mem_append, h.recorded, List.mem_singleton, Prod.mk.injEq, or_assoc,
        eq_comm (a := other), eq_comm (a := day)]
    · exact h.right.append (right_made h hdue hday (by simp [hsucceeds]))
  | false =>
    rw [attempt_of_fails hsucceeds]
    refine ⟨fun other => ?_, fun other day => ?_, ?_⟩
    · dsimp only
      by_cases hjob : jobName = other
      · subst hjob
        have hlonger : ∀ alarm, episode jobName (s.history ++ [made cycle jobName alarm]) =
            episode jobName s.history ++ [made cycle jobName alarm] :=
          fun alarm => episode_append_failure rfl hsucceeds
        rw [hlonger]
        exact tracks_recordFailure (h.tracks jobName) rfl
      · have hkept : ∀ alarm, episode other (s.history ++ [made cycle jobName alarm]) =
            episode other s.history := fun alarm => episode_append_ne hjob
        rw [hkept, recordFailure_ne (Ne.symm hjob)]
        exact h.tracks other
    · dsimp only
      rw [h.recorded]
      simp [made, or_and_right, exists_or, hsucceeds]
    · exact h.right.append (right_made h hdue hday (by simp [hsucceeds]))

theorem sound_runJob (h : Sound runs s) : Sound runs (runJob cycle s jobName).1 := by
  unfold runJob
  split
  · exact h
  · next hdue =>
    split
    · exact h
    · next hday => exact sound_attempt h (eq_false_of_ne_true hdue) (eq_false_of_ne_true hday)

theorem runDueDailyJobs_eq (registry : List String) (s : Scheduler) (cycle : Cycle) :
    (runDueDailyJobs registry s cycle).1 =
      registry.foldl (fun s jobName => (runJob cycle s jobName).1) s := by
  have hfold : ∀ (jobs : List String) (acc : Scheduler × List String),
      (jobs.foldl (fun acc jobName =>
        ((runJob cycle acc.1 jobName).1,
          if (runJob cycle acc.1 jobName).2 then acc.2 ++ [jobName] else acc.2)) acc).1 =
        jobs.foldl (fun s jobName => (runJob cycle s jobName).1) acc.1 := by
    intro jobs
    induction jobs with
    | nil => exact fun _ => rfl
    | cons job jobs ih => exact fun acc => ih _
  exact hfold registry (s, [])

theorem sound_cycle (registry : List String) (s : Scheduler) (cycle : Cycle) (h : Sound runs s) :
    Sound runs (runDueDailyJobs registry s cycle).1 := by
  rw [runDueDailyJobs_eq]
  exact Run.invariant (fun _ _ h => sound_runJob h) h registry

theorem history_right (registry : List String) (runs : List (String × Day)) (cycles : List Cycle) :
    AllRight runs (run registry { runs := runs } cycles).history :=
  (Run.invariant (fun s cycle h => sound_cycle registry s cycle h) (sound_start runs) cycles).right

end Turns

section Readings

variable {s : Scheduler} {cycle : Cycle} {jobName : String}

theorem runJob_history (cycle : Cycle) (s : Scheduler) (jobName : String) :
    (runJob cycle s jobName).1.history = s.history ∨
      ∃ alarm, (runJob cycle s jobName).1.history = s.history ++ [made cycle jobName alarm] := by
  unfold runJob
  split
  · exact .inl rfl
  · split
    · exact .inl rfl
    · right
      cases hsucceeds : (cycle.turn jobName).succeeds with
      | true => exact ⟨false, by rw [attempt_of_succeeds hsucceeds]⟩
      | false => exact ⟨_, by rw [attempt_of_fails hsucceeds]⟩

theorem turns_readings (cycle : Cycle) (jobs : List String) (s : Scheduler) :
    ∃ new, (jobs.foldl (fun s jobName => (runJob cycle s jobName).1) s).history = s.history ++ new ∧
      (new.map (·.attemptedAt)).Sublist
        (jobs.flatMap fun jobName => [cycle.now jobName, cycle.ended jobName]) := by
  induction jobs generalizing s with
  | nil => exact ⟨[], by simp, by simp⟩
  | cons job jobs ih =>
    obtain ⟨new, hnew, hsublist⟩ := ih (runJob cycle s job).1
    rw [List.foldl_cons, hnew, List.flatMap_cons]
    rcases runJob_history cycle s job with hsame | ⟨alarm, hmade⟩
    · exact ⟨new, by rw [hsame], hsublist.trans (List.sublist_append_right _ _)⟩
    · refine ⟨made cycle job alarm :: new, by rw [hmade]; simp, ?_⟩
      exact List.Sublist.cons_cons _ (List.Sublist.cons _ hsublist)

theorem run_readings (registry : List String) (cycles : List Cycle) (s : Scheduler) :
    ∃ new, (run registry s cycles).history = s.history ++ new ∧
      (new.map (·.attemptedAt)).Sublist (cycles.flatMap (readings registry)) := by
  induction cycles generalizing s with
  | nil => exact ⟨[], by simp [run], by simp⟩
  | cons cycle cycles ih =>
    obtain ⟨turns, hturns, hfirst⟩ := turns_readings cycle registry s
    obtain ⟨new, hnew, hrest⟩ := ih (runDueDailyJobs registry s cycle).1
    refine ⟨turns ++ new, ?_, ?_⟩
    · rw [show run registry s (cycle :: cycles) =
        run registry (runDueDailyJobs registry s cycle).1 cycles from rfl, hnew,
        runDueDailyJobs_eq, hturns, List.append_assoc]
    · rw [List.map_append, List.flatMap_cons]
      exact (List.Sublist.cons _ hfirst).append hrest

theorem attempts_sorted {registry : List String} {cycles : List Cycle} (runs : List (String × Day))
    (h : NonDecreasing registry cycles) :
    ((run registry { runs := runs } cycles).history.map (·.attemptedAt)).Pairwise (· ≤ ·) := by
  obtain ⟨new, hnew, hsublist⟩ := run_readings registry cycles { runs := runs }
  rw [hnew]
  exact h.sublist hsublist

end Readings

section Alone

variable {jobName : String} {s s' : Scheduler} {cycle cycle' : Cycle}

/-- The two schedulers are the same for a job. -/
structure Alike (jobName : String) (s s' : Scheduler) : Prop where
  episode : s.episodes.lookup jobName = s'.episodes.lookup jobName
  runs : ∀ day, (jobName, day) ∈ s.runs ↔ (jobName, day) ∈ s'.runs
  history : (s.history.filter fun a => a.jobName = jobName) =
    s'.history.filter fun a => a.jobName = jobName

theorem Alike.symm (h : Alike jobName s s') : Alike jobName s' s :=
  ⟨h.episode.symm, fun day => (h.runs day).symm, h.history.symm⟩

theorem Alike.trans {s'' : Scheduler} (h : Alike jobName s s') (h' : Alike jobName s' s'') :
    Alike jobName s s'' :=
  ⟨h.episode.trans h'.episode, fun day => (h.runs day).trans (h'.runs day),
    h.history.trans h'.history⟩

theorem alike_runJob_ne {other : String} (hne : other ≠ jobName) (cycle : Cycle) (s : Scheduler) :
    Alike jobName (runJob cycle s other).1 s := by
  have hfilter : ∀ alarm, ((s.history ++ [made cycle other alarm]).filter
      fun a => a.jobName = jobName) = s.history.filter fun a => a.jobName = jobName := by
    intro alarm
    have hother : (made cycle other alarm).jobName ≠ jobName := hne
    rw [List.filter_append, List.filter_cons_of_neg (by simpa using hother), List.filter_nil,
      List.append_nil]
  unfold runJob
  split
  · exact ⟨rfl, fun _ => Iff.rfl, rfl⟩
  · split
    · exact ⟨rfl, fun _ => Iff.rfl, rfl⟩
    · cases hsucceeds : (cycle.turn other).succeeds with
      | true =>
        rw [attempt_of_succeeds hsucceeds]
        exact ⟨AList.lookup_erase_ne (Ne.symm hne), fun day => by simp [Ne.symm hne], hfilter _⟩
      | false =>
        rw [attempt_of_fails hsucceeds]
        exact ⟨recordFailure_ne (Ne.symm hne), fun _ => Iff.rfl, hfilter _⟩

theorem recordFailure_congr (now : Time) {episodes episodes' : Episodes}
    (h : episodes.lookup jobName = episodes'.lookup jobName) :
    (recordFailure jobName now episodes).1 = (recordFailure jobName now episodes').1 ∧
      (recordFailure jobName now episodes).2.lookup jobName =
        (recordFailure jobName now episodes').2.lookup jobName := by
  unfold recordFailure
  rw [h]
  split
  · exact ⟨rfl, by rw [AList.lookup_insert, AList.lookup_insert]⟩
  · exact ⟨rfl, by rw [AList.lookup_insert, AList.lookup_insert]⟩

theorem made_congr (h : SameFor jobName cycle cycle') (alarm : Bool) :
    made cycle jobName alarm = made cycle' jobName alarm := by
  unfold made Cycle.now Cycle.ended
  rw [h.clock, h.runDate, h.turn]

theorem alike_runJob_self (hs : Alike jobName s s') (h : SameFor jobName cycle cycle') :
    Alike jobName (runJob cycle s jobName).1 (runJob cycle' s' jobName).1 := by
  have hnow : cycle.now jobName = cycle'.now jobName := by
    unfold Cycle.now
    rw [h.clock, h.turn]
  have hended : cycle.ended jobName = cycle'.ended jobName := by
    unfold Cycle.ended
    rw [h.clock, h.turn]
  have hheld : heldBack s.episodes jobName (cycle.now jobName) =
      heldBack s'.episodes jobName (cycle'.now jobName) := by
    unfold heldBack
    rw [hs.episode, hnow]
  have hrun : hasRunToday s.runs jobName cycle.runDate =
      hasRunToday s'.runs jobName cycle'.runDate := by
    unfold hasRunToday
    rw [Bool.eq_iff_iff, List.contains_iff_mem, List.contains_iff_mem, hs.runs, h.runDate]
  have hfilter : ∀ alarm, ((s.history ++ [made cycle jobName alarm]).filter
      fun a => a.jobName = jobName) = (s'.history ++ [made cycle' jobName alarm]).filter
      fun a => a.jobName = jobName := by
    intro alarm
    rw [List.filter_append, List.filter_append, hs.history, made_congr h]
  unfold runJob
  rw [hheld, hrun]
  split
  · exact hs
  · split
    · exact hs
    · cases hsucceeds : (cycle.turn jobName).succeeds with
      | true =>
        rw [attempt_of_succeeds hsucceeds, attempt_of_succeeds (h.turn ▸ hsucceeds), h.runDate]
        refine ⟨?_, fun day => ?_, hfilter _⟩
        · rw [AList.lookup_erase, AList.lookup_erase]
        · rw [List.mem_append, List.mem_append, hs.runs]
      | false =>
        obtain ⟨hline, hepisode⟩ := recordFailure_congr (cycle.ended jobName) hs.episode
        rw [attempt_of_fails hsucceeds, attempt_of_fails (h.turn ▸ hsucceeds), ← hended, ← hline]
        exact ⟨hepisode, hs.runs, hfilter _⟩

theorem alike_turns (jobs : List String) (hs : Alike jobName s s')
    (h : SameFor jobName cycle cycle') :
    Alike jobName (jobs.foldl (fun s job => (runJob cycle s job).1) s)
      (jobs.foldl (fun s job => (runJob cycle' s job).1) s') := by
  induction jobs generalizing s s' with
  | nil => exact hs
  | cons job jobs ih =>
    refine ih ?_
    by_cases hjob : job = jobName
    · subst hjob
      exact alike_runJob_self hs h
    · exact ((alike_runJob_ne hjob cycle s).trans hs).trans (alike_runJob_ne hjob cycle' s').symm

theorem alike_run (registry : List String) {cycles cycles' : List Cycle} (hs : Alike jobName s s')
    (h : List.Forall₂ (SameFor jobName) cycles cycles') :
    Alike jobName (run registry s cycles) (run registry s' cycles') := by
  induction h generalizing s s' with
  | nil => exact hs
  | cons hcycle _ ih =>
    refine ih ?_
    dsimp only
    rw [runDueDailyJobs_eq, runDueDailyJobs_eq]
    exact alike_turns registry hs hcycle

end Alone

/-- **The daily scheduler.**  For every registry, every table of earlier runs and every sequence of
cycles of one process: each attempt of a job is of a date on which it has not succeeded, comes no
sooner than the wait after the last of its `k` failures in a row, and alarms just when it is the
first failure of its episode or 24 hours have passed since the last alarm; so the alarms of an
episode are at least 24 hours apart.  When the clock does not run backwards, the wait of a failure
holds for every later attempt.  And the attempts of a job are the same whatever becomes of the other
jobs. -/
theorem daily_scheduler (registry : List String) (runs : List (String × Day)) (cycles : List Cycle) :
    AllRight runs (run registry { runs := runs } cycles).history ∧
    (∀ jobName before after, (run registry { runs := runs } cycles).history = before ++ after →
      AlarmsApart (episode jobName before)) ∧
    (NonDecreasing registry cycles → Spaced (run registry { runs := runs } cycles).history) ∧
    ∀ jobName cycles', List.Forall₂ (SameFor jobName) cycles cycles' →
      ((run registry { runs := runs } cycles).history.filter fun a => a.jobName = jobName) =
        (run registry { runs := runs } cycles').history.filter fun a => a.jobName = jobName := by
  have hright := history_right registry runs cycles
  refine ⟨hright, fun jobName before after hsplit => ?_, fun hclock => ?_,
    fun jobName cycles' hsame => ?_⟩
  · rw [hsplit] at hright
    exact hright.prefix.alarmsApart jobName
  · exact spaced_of_right hright (attempts_sorted runs hclock)
  · exact (alike_run registry ⟨rfl, fun _ => Iff.rfl, rfl⟩ hsame).history

end Nexotec.DailyScheduler
