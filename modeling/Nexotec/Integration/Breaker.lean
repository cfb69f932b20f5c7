/-
The circuit breaker and the call log of the provider gateway
(`app/integration/services/resilience.py`, `gateway.py`).

A call first asks whether it is refused; one that is not begins to run, and is charged and logged
when it ends.  Calls of one connection run one after another, those of several in any order.  The
breaker keeps a count and one instant; what it stands for is read off the history.
-/
import Nexotec.Lib.Run
import Nexotec.Core.Base

namespace Nexotec.Breaker

/-! ### The breaker (`resilience.py`) -/

def failureThreshold : ℕ := 5

/-- `_OPEN_DURATION_SECONDS`. -/
def openDuration : Time := 60 * 1000000

/-- `_CircuitState`. -/
structure CircuitState where
  failureCount : ℕ := 0
  openedAt : Option Time := none

abbrev Circuits := Table Uuid CircuitState

/-- `_circuit_for`; that it inserts a fresh state is seen by its result alone. -/
def circuitFor (circuits : Circuits) (connectionId : Uuid) : CircuitState :=
  (circuits.lookup connectionId).getD {}

/-- `is_circuit_open`, with the circuits it leaves. -/
def isCircuitOpen (now : Time) (connectionId : Uuid) (circuits : Circuits) : Bool × Circuits :=
  match (circuitFor circuits connectionId).openedAt with
  | none => (false, circuits)
  | some openedAt =>
    -- half-open: the next call goes through
    if openDuration ≤ now - openedAt then (false, circuits.insert connectionId {})
    else (true, circuits)

def recordSuccess (connectionId : Uuid) (circuits : Circuits) : Circuits :=
  circuits.insert connectionId {}

def recordFailure (now : Time) (connectionId : Uuid) (circuits : Circuits) : Circuits :=
  let circuit := circuitFor circuits connectionId
  let failureCount := circuit.failureCount + 1
  circuits.insert connectionId {
    failureCount := failureCount
    openedAt :=
      if failureThreshold ≤ failureCount ∧ circuit.openedAt = none then some now
      else circuit.openedAt }

/-! ### The gateway (`gateway.py`) -/

inductive CallStatus where
  | success
  | error
  | timeout

structure IntegrationCallLog where
  connectionId : Uuid
  tenantId : Option Uuid
  capability : String
  status : CallStatus
  durationMs : ℤ
  correlationId : Uuid

/-- A use of `call_capability`: its arguments, what it reads of the connection and the
registry, and the two readings of the clock before the adapter is built. -/
structure Call where
  connectionId : Uuid
  tenantId : Option Uuid := none
  enabled : Bool := true
  /-- An adapter is registered for the provider. -/
  hasAdapter : Bool := true
  capability : String := "vehicle_data"
  correlationId : Uuid := 0
  checkedAt : Time
  startedAt : Time

inductive Refusal where
  | connectionDisabled
  | circuitOpen
  | unknownProvider
  deriving DecidableEq

/-- `_adapter_factory`: the refusal, if there is one, and the circuits. -/
def adapterFactory (call : Call) (circuits : Circuits) : Option Refusal × Circuits :=
  if call.enabled = false then (some .connectionDisabled, circuits)
  else
    let (isOpen, circuits) := isCircuitOpen call.checkedAt call.connectionId circuits
    if isOpen then (some .circuitOpen, circuits)
    else if call.hasAdapter = false then (some .unknownProvider, circuits)
    else (none, circuits)

/-- How a call ends that was not refused; `timeout` is `isinstance(exc, ProviderTimeoutError)`. -/
inductive Outcome where
  /-- `ProviderConfigurationError` while the adapter is built. -/
  | configurationError
  /-- `ProviderTransportError` while the adapter is built. -/
  | transportError (timeout : Bool)
  /-- The caller's block raises. -/
  | raised (timeout : Bool)
  | succeeded
  deriving DecidableEq

/-- The end of a call: `endedAt` is the reading for the duration, `countedAt` that of the breaker. -/
structure Ending where
  outcome : Outcome
  endedAt : Time
  countedAt : Time

/-- `int((time.monotonic() - started_at) * 1000)`. -/
def durationMs (call : Call) (ending : Ending) : ℤ := (ending.endedAt - call.startedAt).tdiv 1000

def recordCall (call : Call) (status : CallStatus) (ending : Ending)
    (log : List IntegrationCallLog) : List IntegrationCallLog :=
  log ++ [{
    connectionId := call.connectionId
    tenantId := call.tenantId
    capability := call.capability
    status := status
    durationMs := durationMs call ending
    correlationId := call.correlationId }]

/-- What has happened: a call was refused, it was not, or it came to its end. -/
inductive Happening where
  | refused (call : Call) (refusal : Refusal)
  | reached (call : Call)
  | ended (call : Call) (ending : Ending)

def Happening.call : Happening → Call
  | .refused call _ | .reached call | .ended call _ => call

/-- The process, the table of the log, and the history of all of it. -/
structure Process where
  circuits : Circuits := ∅
  running : Table Uuid Call := ∅
  log : List IntegrationCallLog := []
  history : List Happening := []

def recordFailedCall (call : Call) (timeout : Bool) (ending : Ending) (p : Process) : Process :=
  { p with
    circuits := recordFailure ending.countedAt call.connectionId p.circuits
    log := recordCall call (if timeout then .timeout else .error) ending p.log }

/-- The end of `call_capability`. -/
def conclude (call : Call) (ending : Ending) (p : Process) : Process :=
  match ending.outcome with
  | .configurationError => p
  | .transportError timeout | .raised timeout => recordFailedCall call timeout ending p
  | .succeeded => { p with
      circuits := recordSuccess call.connectionId p.circuits
      log := recordCall call .success ending p.log }

inductive Event where
  | begins (call : Call)
  | ends (connectionId : Uuid) (ending : Ending)

def Event.connectionId : Event → Uuid
  | .begins call => call.connectionId
  | .ends connectionId _ => connectionId

/-- One event.  A connection with a running call begins no other, and one without has none to
end. -/
def next (p : Process) : Event → Process
  | .begins call =>
    match p.running.lookup call.connectionId with
    | some _ => p
    | none =>
      match adapterFactory call p.circuits with
      | (some refusal, circuits) => { p with
          circuits := circuits
          history := p.history ++ [.refused call refusal] }
      | (none, circuits) => { p with
          circuits := circuits
          running := p.running.insert call.connectionId call
          history := p.history ++ [.reached call] }
  | .ends connectionId ending =>
    match p.running.lookup connectionId with
    | none => p
    | some call => { conclude call ending p with
        running := p.running.erase connectionId
        history := p.history ++ [.ended call ending] }

/-- What a call is refused for, in the state in which it comes. -/
def refusal (p : Process) (call : Call) : Option Refusal := (adapterFactory call p.circuits).1

/-! ### What the history says -/

/-- An open period is over for a call that the breaker let through. -/
def expire (failed : List Time) : List Time := if failureThreshold ≤ failed.length then [] else failed

/-- What a happening of its connection makes of the failures counted so far, oldest first. -/
def count (failed : List Time) : Happening → List Time
  | .refused _ .connectionDisabled | .refused _ .circuitOpen => failed
  | .refused _ .unknownProvider | .reached _ => expire failed
  | .ended _ ending =>
    match ending.outcome with
    | .configurationError => failed
    | .transportError _ | .raised _ => failed ++ [ending.countedAt]
    | .succeeded => []

def ofConnection (connectionId : Uuid) (history : List Happening) : List Happening :=
  history.filter fun h => h.call.connectionId = connectionId

/-- The failed calls of a connection since its last success or its last expiry. -/
def failures (connectionId : Uuid) (history : List Happening) : List Time :=
  (ofConnection connectionId history).foldl count []

/-- At least five failed, and the fifth less than the open period ago. -/
def OpenAt (failed : List Time) (now : Time) : Prop :=
  ∃ fifth, failed[4]? = some fifth ∧ now - fifth < openDuration

/-- The status a call is logged with; a configuration error is not logged. -/
def Outcome.status : Outcome → Option CallStatus
  | .configurationError => none
  | .transportError timeout | .raised timeout => some (if timeout then .timeout else .error)
  | .succeeded => some .success

def rows : Happening → List IntegrationCallLog
  | .refused .. | .reached _ => []
  | .ended call ending => ending.outcome.status.toList.map fun status => {
      connectionId := call.connectionId
      tenantId := call.tenantId
      capability := call.capability
      status := status
      durationMs := durationMs call ending
      correlationId := call.correlationId }

section Steps

variable {connectionId other : Uuid} {circuits : Circuits} {now : Time} {failed : List Time}

/-- **What the breaker stands for**: the number of the failures, and the time of the fifth. -/
structure Tracks (failed : List Time) (circuit : CircuitState) : Prop where
  counted : circuit.failureCount = failed.length
  opened : circuit.openedAt = failed[4]?

theorem tracks_nil : Tracks [] {} := ⟨rfl, rfl⟩

@[simp] theorem circuitFor_insert (circuit : CircuitState) :
    circuitFor (circuits.insert connectionId circuit) connectionId = circuit := by
  unfold circuitFor
  rw [AList.lookup_insert, Option.getD_some]

theorem circuitFor_insert_ne (hne : other ≠ connectionId) (circuit : CircuitState) :
    circuitFor (circuits.insert connectionId circuit) other = circuitFor circuits other := by
  unfold circuitFor
  rw [AList.lookup_insert_ne hne]

theorem Tracks.failure (h : Tracks failed (circuitFor circuits connectionId)) :
    Tracks (failed ++ [now]) (circuitFor (recordFailure now connectionId circuits) connectionId) := by
  obtain ⟨hcounted, hopened⟩ := h
  unfold recordFailure
  rw [circuitFor_insert]
  refine ⟨by simp [hcounted], ?_⟩
  dsimp only
  rw [hcounted, hopened, List.getElem?_append]
  unfold failureThreshold
  rcases Nat.lt_trichotomy failed.length 4 with hlen | hlen | hlen
  · -- not yet five
    rw [if_neg (by omega), if_neg (by omega), List.getElem?_eq_none (by omega),
      List.getElem?_eq_none (by simp; omega)]
  · -- this is the fifth
    rw [if_pos ⟨by omega, List.getElem?_eq_none (by omega)⟩, if_neg (by omega), hlen]
    rfl
  · rw [if_pos hlen, List.getElem?_eq_getElem hlen, if_neg (by simp)]

theorem Tracks.isCircuitOpen_iff (h : Tracks failed (circuitFor circuits connectionId)) :
    (isCircuitOpen now connectionId circuits).1 = true ↔ OpenAt failed now := by
  unfold isCircuitOpen OpenAt
  rw [h.opened]
  cases hfifth : failed[4]? with
  | none => simp
  | some fifth =>
    dsimp only
    by_cases hover : openDuration ≤ now - fifth
    · simp [if_pos hover, not_lt.mpr hover]
    · simp [if_neg hover, not_le.mp hover]

theorem Tracks.passed (h : Tracks failed (circuitFor circuits connectionId))
    (hpassed : (isCircuitOpen now connectionId circuits).1 = false) : Tracks (expire failed)
      (circuitFor (isCircuitOpen now connectionId circuits).2 connectionId) := by
  unfold isCircuitOpen expire failureThreshold at *
  rw [h.opened] at hpassed ⊢
  cases hfifth : failed[4]? with
  | none =>
    have hlen : failed.length ≤ 4 := List.getElem?_eq_none_iff.mp hfifth
    rw [if_neg (by omega)]
    exact h
  | some fifth =>
    have hlen : 5 ≤ failed.length := (List.getElem?_eq_some_iff.mp hfifth).1
    rw [hfifth] at hpassed
    dsimp only at hpassed ⊢
    split at hpassed
    · next hover =>
      rw [if_pos hover, if_pos hlen, circuitFor_insert]
      exact tracks_nil
    · cases hpassed

theorem isCircuitOpen_of_open (hopen : (isCircuitOpen now connectionId circuits).1 = true) :
    (isCircuitOpen now connectionId circuits).2 = circuits := by
  unfold isCircuitOpen at *
  split
  · rfl
  · next openedAt heq =>
    rw [heq] at hopen
    dsimp only at hopen
    split at hopen
    · cases hopen
    · next hover => rw [if_neg hover]

theorem isCircuitOpen_ne (hne : other ≠ connectionId) :
    circuitFor (isCircuitOpen now connectionId circuits).2 other = circuitFor circuits other := by
  unfold isCircuitOpen
  split
  · rfl
  · split
    · exact circuitFor_insert_ne hne {}
    · rfl

end Steps

section Calls

variable {call : Call} {circuits : Circuits} {failed : List Time} {other : Uuid}

/-- What a call that was refused, or not, leaves in the history. -/
def answered (call : Call) : Option Refusal → Happening
  | some refusal => .refused call refusal
  | none => .reached call

theorem adapterFactory_of_disabled (h : call.enabled = false) :
    adapterFactory call circuits = (some .connectionDisabled, circuits) := if_pos h

theorem adapterFactory_of_enabled (h : call.enabled = true) : adapterFactory call circuits =
      if (isCircuitOpen call.checkedAt call.connectionId circuits).1 = true then
        (some .circuitOpen, (isCircuitOpen call.checkedAt call.connectionId circuits).2)
      else if call.hasAdapter = false then
        (some .unknownProvider, (isCircuitOpen call.checkedAt call.connectionId circuits).2)
      else (none, (isCircuitOpen call.checkedAt call.connectionId circuits).2) :=
  if_neg (by simp [h])

theorem Tracks.refusal_iff (h : Tracks failed (circuitFor circuits call.connectionId)) :
    (adapterFactory call circuits).1 = some .circuitOpen ↔
      call.enabled = true ∧ OpenAt failed call.checkedAt := by
  rw [← h.isCircuitOpen_iff]
  cases henabled : call.enabled with
  | false => simp [adapterFactory_of_disabled henabled]
  | true =>
    rw [adapterFactory_of_enabled henabled]
    by_cases hopen : (isCircuitOpen call.checkedAt call.connectionId circuits).1 = true
    · simp [hopen]
    · rw [if_neg hopen]
      split <;> simp [hopen]

theorem Tracks.answered (h : Tracks failed (circuitFor circuits call.connectionId)) :
    Tracks (count failed (answered call (adapterFactory call circuits).1))
      (circuitFor (adapterFactory call circuits).2 call.connectionId) := by
  cases henabled : call.enabled with
  | false =>
    rw [adapterFactory_of_disabled henabled]
    exact h
  | true =>
    rw [adapterFactory_of_enabled henabled]
    by_cases hopen : (isCircuitOpen call.checkedAt call.connectionId circuits).1 = true
    · rw [if_pos hopen, isCircuitOpen_of_open hopen]
      exact h
    · have hpassed := h.passed (eq_false_of_ne_true hopen)
      rw [if_neg hopen]
      split
      · exact hpassed
      · exact hpassed

theorem adapterFactory_ne (hne : other ≠ call.connectionId) :
    circuitFor (adapterFactory call circuits).2 other = circuitFor circuits other := by
  cases henabled : call.enabled with
  | false => rw [adapterFactory_of_disabled henabled]
  | true =>
    rw [adapterFactory_of_enabled henabled]
    split
    · exact isCircuitOpen_ne hne
    · split
      · exact isCircuitOpen_ne hne
      · exact isCircuitOpen_ne hne

variable {ending : Ending} {p : Process}

theorem Tracks.ended (h : Tracks failed (circuitFor p.circuits call.connectionId)) :
    Tracks (count failed (.ended call ending))
      (circuitFor (conclude call ending p).circuits call.connectionId) := by
  obtain ⟨outcome, endedAt, countedAt⟩ := ending
  cases outcome with
  | configurationError => exact h
  | transportError timeout | raised timeout => exact h.failure
  | succeeded =>
    have hclosed : circuitFor (recordSuccess call.connectionId p.circuits) call.connectionId = {} :=
      circuitFor_insert {}
    exact hclosed ▸ tracks_nil

theorem conclude_ne (hne : other ≠ call.connectionId) :
    circuitFor (conclude call ending p).circuits other = circuitFor p.circuits other := by
  unfold conclude
  cases ending.outcome with
  | configurationError => rfl
  | transportError timeout | raised timeout | succeeded => exact circuitFor_insert_ne hne _

theorem conclude_log (call : Call) (ending : Ending) (p : Process) :
    (conclude call ending p).log = p.log ++ rows (.ended call ending) := by
  obtain ⟨outcome, endedAt, countedAt⟩ := ending
  cases outcome with
  | configurationError => exact (List.append_nil p.log).symm
  | transportError timeout | raised timeout | succeeded => rfl

end Calls

/-! ### Histories -/

theorem failures_append (connectionId : Uuid) (history : List Happening) (h : Happening) :
    failures connectionId (history ++ [h]) =
      if h.call.connectionId = connectionId then count (failures connectionId history) h
      else failures connectionId history := by
  unfold failures ofConnection
  rw [List.filter_append, List.foldl_append]
  by_cases hc : h.call.connectionId = connectionId
  · rw [if_pos hc, List.filter_cons_of_pos (by simpa using hc)]
    rfl
  · rw [if_neg hc, List.filter_cons_of_neg (by simpa using hc)]
    rfl

/-- **The process agrees with its history.** -/
structure Agrees (p : Process) : Prop where
  tracks : ∀ connectionId,
    Tracks (failures connectionId p.history) (circuitFor p.circuits connectionId)
  log : p.log = p.history.flatMap rows
  running : ∀ connectionId call, p.running.lookup connectionId = some call →
    call.connectionId = connectionId

theorem agrees_start : Agrees {} where
  tracks _ := tracks_nil
  log := rfl
  running _ _ h := by cases h

theorem tracks_append {history : List Happening} {circuits circuits' : Circuits} {h : Happening}
    (htracks : ∀ connectionId,
      Tracks (failures connectionId history) (circuitFor circuits connectionId))
    (hown : Tracks (count (failures h.call.connectionId history) h)
      (circuitFor circuits' h.call.connectionId)) (hothers : ∀ other, other ≠ h.call.connectionId →
      circuitFor circuits' other = circuitFor circuits other) (connectionId : Uuid) :
    Tracks (failures connectionId (history ++ [h])) (circuitFor circuits' connectionId) := by
  rw [failures_append]
  by_cases hc : h.call.connectionId = connectionId
  · rw [if_pos hc, ← hc]
    exact hown
  · rw [if_neg hc, hothers connectionId (Ne.symm hc)]
    exact htracks connectionId

variable {p : Process} {call : Call}

theorem next_begins (hidle : p.running.lookup call.connectionId = none) :
    next p (.begins call) = { p with
      circuits := (adapterFactory call p.circuits).2
      running := if (refusal p call).isNone then p.running.insert call.connectionId call
        else p.running
      history := p.history ++ [answered call (refusal p call)] } := by
  simp only [next, hidle]
  split
  · next refused circuits heq => simp [refusal, heq, answered]
  · next circuits heq => simp [refusal, heq, answered]

theorem next_begins_running {running : Call}
    (hrunning : p.running.lookup call.connectionId = some running) : next p (.begins call) = p := by
  simp only [next, hrunning]

variable {connectionId : Uuid} {ending : Ending}

theorem next_ends (hrunning : p.running.lookup connectionId = some call) :
    next p (.ends connectionId ending) = { conclude call ending p with
      running := p.running.erase connectionId
      history := p.history ++ [.ended call ending] } := by
  simp only [next, hrunning]

theorem next_ends_idle (hidle : p.running.lookup connectionId = none) :
    next p (.ends connectionId ending) = p := by
  simp only [next, hidle]

theorem answered_call (call : Call) (refusal : Option Refusal) :
    (answered call refusal).call = call := by
  cases refusal <;> rfl

theorem rows_answered (call : Call) (refusal : Option Refusal) :
    rows (answered call refusal) = [] := by
  cases refusal <;> rfl

theorem agrees_next (p : Process) (e : Event) (h : Agrees p) : Agrees (next p e) := by
  obtain ⟨htracks, hlog, hrunning⟩ := h
  cases e with
  | begins call =>
    -- a connection has one call at a time
    cases hidle : p.running.lookup call.connectionId with
    | some running =>
      rw [next_begins_running hidle]
      exact ⟨htracks, hlog, hrunning⟩
    | none =>
      rw [next_begins hidle]
      refine ⟨?_, ?_, ?_⟩
      · refine tracks_append htracks ?_ ?_
        · rw [answered_call]
          exact (htracks call.connectionId).answered
        · rw [answered_call]
          exact fun other hne => adapterFactory_ne hne
      · rw [List.flatMap_append, List.flatMap_singleton, rows_answered, List.append_nil]
        exact hlog
      · intro connectionId call' hcall'
        dsimp only at hcall'
        split at hcall'
        · rcases Table.lookup_insert_cases hcall' with ⟨rfl, rfl⟩ | ⟨-, hold⟩
          · rfl
          · exact hrunning connectionId call' hold
        · exact hrunning connectionId call' hcall'
  | ends connectionId ending =>
    cases hcall : p.running.lookup connectionId with
    | none =>
      rw [next_ends_idle hcall]
      exact ⟨htracks, hlog, hrunning⟩
    | some call =>
      obtain rfl := hrunning connectionId call hcall
      rw [next_ends hcall]
      refine ⟨?_, ?_, ?_⟩
      · exact tracks_append htracks (htracks call.connectionId).ended fun other hne =>
          conclude_ne hne
      · rw [List.flatMap_append, List.flatMap_singleton]
        dsimp only
        rw [conclude_log, hlog]
      · intro connectionId' call' hcall'
        dsimp only at hcall'
        by_cases hsame : connectionId' = call.connectionId
        · rw [hsame, AList.lookup_erase] at hcall'
          cases hcall'
        · rw [AList.lookup_erase_ne hsame] at hcall'
          exact hrunning connectionId' call' hcall'

section Alone

variable {connectionId : Uuid} {p q : Process}

/-- The second process has had the events of one connection only. -/
structure SameFor (connectionId : Uuid) (p q : Process) : Prop where
  circuit : circuitFor p.circuits connectionId = circuitFor q.circuits connectionId
  running : p.running.lookup connectionId = q.running.lookup connectionId
  history : ofConnection connectionId p.history = q.history

theorem ofConnection_append_self (history : List Happening) (h : Happening) :
    ofConnection h.call.connectionId (history ++ [h]) =
      ofConnection h.call.connectionId history ++ [h] := by
  unfold ofConnection
  rw [List.filter_append, List.filter_cons_of_pos (by simp), List.filter_nil]

theorem ofConnection_append_ne {history : List Happening} {h : Happening}
    (hne : h.call.connectionId ≠ connectionId) :
    ofConnection connectionId (history ++ [h]) = ofConnection connectionId history := by
  unfold ofConnection
  rw [List.filter_append, List.filter_cons_of_neg (by simpa using hne), List.filter_nil,
    List.append_nil]

variable {circuits circuits' : Circuits}

theorem isCircuitOpen_congr (now : Time)
    (h : circuitFor circuits connectionId = circuitFor circuits' connectionId) :
    (isCircuitOpen now connectionId circuits).1 = (isCircuitOpen now connectionId circuits').1 ∧
      circuitFor (isCircuitOpen now connectionId circuits).2 connectionId =
        circuitFor (isCircuitOpen now connectionId circuits').2 connectionId := by
  unfold isCircuitOpen
  rw [h]
  split
  · exact ⟨rfl, h⟩
  · split
    · exact ⟨rfl, by rw [circuitFor_insert, circuitFor_insert]⟩
    · exact ⟨rfl, h⟩

variable {call : Call}

theorem adapterFactory_congr
    (h : circuitFor circuits call.connectionId = circuitFor circuits' call.connectionId) :
    (adapterFactory call circuits).1 = (adapterFactory call circuits').1 ∧
      circuitFor (adapterFactory call circuits).2 call.connectionId =
        circuitFor (adapterFactory call circuits').2 call.connectionId := by
  obtain ⟨hopen, hleft⟩ := isCircuitOpen_congr call.checkedAt h
  cases henabled : call.enabled with
  | false =>
    rw [adapterFactory_of_disabled henabled, adapterFactory_of_disabled henabled]
    exact ⟨rfl, h⟩
  | true =>
    rw [adapterFactory_of_enabled henabled, adapterFactory_of_enabled henabled, hopen]
    split
    · exact ⟨rfl, hleft⟩
    · split
      · exact ⟨rfl, hleft⟩
      · exact ⟨rfl, hleft⟩

theorem conclude_congr
    (h : circuitFor p.circuits call.connectionId = circuitFor q.circuits call.connectionId) :
    circuitFor (conclude call ending p).circuits call.connectionId =
      circuitFor (conclude call ending q).circuits call.connectionId := by
  obtain ⟨outcome, endedAt, countedAt⟩ := ending
  cases outcome with
  | configurationError => exact h
  | transportError timeout | raised timeout =>
    dsimp only [conclude, recordFailedCall, recordFailure]
    rw [circuitFor_insert, circuitFor_insert, h]
  | succeeded =>
    dsimp only [conclude, recordSuccess]
    rw [circuitFor_insert, circuitFor_insert]

variable {e : Event}

theorem sameFor_own (hp : Agrees p) (h : SameFor connectionId p q)
    (he : e.connectionId = connectionId) : SameFor connectionId (next p e) (next q e) := by
  obtain ⟨hcircuit, hrunning, hhistory⟩ := h
  cases e with
  | begins call =>
    obtain rfl : call.connectionId = connectionId := he
    obtain ⟨hrefusal, hleft⟩ := adapterFactory_congr hcircuit
    cases hidle : p.running.lookup call.connectionId with
    | some running =>
      rw [next_begins_running hidle, next_begins_running (hrunning ▸ hidle)]
      exact ⟨hcircuit, hrunning, hhistory⟩
    | none =>
      have hsame : refusal p call = refusal q call := hrefusal
      rw [next_begins hidle, next_begins (hrunning ▸ hidle), hsame]
      refine ⟨hleft, ?_, ?_⟩
      · dsimp only
        split
        · rw [AList.lookup_insert, AList.lookup_insert]
        · exact hrunning
      · have happend : ofConnection call.connectionId (p.history ++ [answered call (refusal q call)])
            = ofConnection call.connectionId p.history ++ [answered call (refusal q call)] := by
          have hself := ofConnection_append_self p.history (answered call (refusal q call))
          rw [answered_call] at hself
          exact hself
        dsimp only
        rw [happend, hhistory]
  | ends connectionId' ending =>
    obtain rfl : connectionId' = connectionId := he
    cases hcall : p.running.lookup connectionId' with
    | none =>
      rw [next_ends_idle hcall, next_ends_idle (hrunning ▸ hcall)]
      exact ⟨hcircuit, hrunning, hhistory⟩
    | some call =>
      obtain rfl := hp.running connectionId' call hcall
      rw [next_ends hcall, next_ends (hrunning ▸ hcall)]
      refine ⟨conclude_congr hcircuit, ?_, ?_⟩
      · dsimp only
        rw [AList.lookup_erase, AList.lookup_erase]
      · have hself := ofConnection_append_self p.history (.ended call ending)
        dsimp only
        rw [← hhistory]
        exact hself

theorem sameFor_other (hp : Agrees p) (h : SameFor connectionId p q)
    (he : e.connectionId ≠ connectionId) : SameFor connectionId (next p e) q := by
  obtain ⟨hcircuit, hrunning, hhistory⟩ := h
  cases e with
  | begins call =>
    have hne : connectionId ≠ call.connectionId := Ne.symm he
    cases hidle : p.running.lookup call.connectionId with
    | some running =>
      rw [next_begins_running hidle]
      exact ⟨hcircuit, hrunning, hhistory⟩
    | none =>
      rw [next_begins hidle]
      refine ⟨(adapterFactory_ne hne).trans hcircuit, ?_, ?_⟩
      · dsimp only
        split
        · rw [AList.lookup_insert_ne hne, hrunning]
        · exact hrunning
      · rw [← hhistory]
        exact ofConnection_append_ne (by rw [answered_call]; exact he)
  | ends connectionId' ending =>
    have hne : connectionId ≠ connectionId' := Ne.symm he
    cases hcall : p.running.lookup connectionId' with
    | none =>
      rw [next_ends_idle hcall]
      exact ⟨hcircuit, hrunning, hhistory⟩
    | some call =>
      obtain rfl := hp.running connectionId' call hcall
      rw [next_ends hcall]
      refine ⟨(conclude_ne hne).trans hcircuit, ?_, ?_⟩
      · dsimp only
        rw [AList.lookup_erase_ne hne, hrunning]
      · rw [← hhistory]
        exact ofConnection_append_ne he

theorem sameFor_run (connectionId : Uuid) (events : List Event) (hp : Agrees p)
    (h : SameFor connectionId p q) : SameFor connectionId (events.foldl next p)
      ((events.filter fun e => e.connectionId = connectionId).foldl next q) := by
  induction events generalizing p q with
  | nil => exact h
  | cons e events ih =>
    by_cases he : e.connectionId = connectionId
    · rw [List.filter_cons_of_pos (by simpa using he)]
      exact ih (agrees_next p e hp) (sameFor_own hp h he)
    · rw [List.filter_cons_of_neg (by simpa using he)]
      exact ih (agrees_next p e hp) (sameFor_other hp h he)

end Alone

/-- **The circuit breaker and the call log.**  After every sequence of calls and their ends: a call
that comes on an idle connection is refused as open just when the connection is enabled and at
least five of its calls have failed since its last success or its last expiry, the fifth of them
less than 60 seconds ago; the log is one row for each call that was not refused and did not end in
a configuration error, with the status of its outcome; and the history of a connection is what its
own events lead to. -/
theorem circuit_breaker (events : List Event) :
    (∀ call, (events.foldl next {}).running.lookup call.connectionId = none →
      (refusal (events.foldl next {}) call = some .circuitOpen ↔ call.enabled = true ∧
        OpenAt (failures call.connectionId (events.foldl next {}).history) call.checkedAt)) ∧
    (events.foldl next {}).log = (events.foldl next {}).history.flatMap rows ∧
    ∀ connectionId, ofConnection connectionId (events.foldl next {}).history =
      ((events.filter fun e => e.connectionId = connectionId).foldl next {}).history := by
  have hagrees : Agrees (events.foldl next {}) := Run.invariant agrees_next agrees_start events
  have hstart : ∀ connectionId, SameFor connectionId {} {} := fun _ => ⟨rfl, rfl, rfl⟩
  refine ⟨fun call _ => ?_, hagrees.log, fun connectionId => ?_⟩
  · exact (hagrees.tracks call.connectionId).refusal_iff
  · exact (sameFor_run connectionId events agrees_start (hstart connectionId)).history

/-- A call of a connection that fails at `t`. -/
def failedCall (connectionId : Uuid) (t : Time) : List Event :=
  [.begins { connectionId := connectionId, checkedAt := t, startedAt := t },
    .ends connectionId ⟨.raised false, t, t⟩]

/-- Five failures, and then the dealer switches the connection off. -/
def fiveFailures : List Event := [1, 2, 3, 4, 5].flatMap (failedCall 7)

/-- The breaker is open, and a disabled connection is refused as disabled. -/
theorem disabled_not_open : ¬ ∀ (events : List Event) (call : Call),
      (events.foldl next {}).running.lookup call.connectionId = none →
      (refusal (events.foldl next {}) call = some .circuitOpen ↔
        OpenAt (failures call.connectionId (events.foldl next {}).history) call.checkedAt) := by
  intro h
  have hiff := h fiveFailures
    { connectionId := 7, enabled := false, checkedAt := 6, startedAt := 6 } (by decide)
  have hopen : OpenAt (failures 7 (fiveFailures.foldl next {}).history) 6 :=
    ⟨5, by decide, by decide⟩
  exact absurd (hiff.mpr hopen) (by decide)

end Nexotec.Breaker
