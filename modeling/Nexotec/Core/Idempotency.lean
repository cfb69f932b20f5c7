/-
Idempotency keys of requests (`app/core/idempotent_route.py`, `idempotency.py`).

A keyed `POST` claims its key with a row that has no response yet, runs the
handler, and fills the row in with a 2xx response that can be stored or deletes
it after anything else.  Claim, handler and settlement are transactions of their
own, and any of them may fail.

* `findCachedResponse`, `replayStoredResponse` — what a row answers.
-/
import Nexotec.Core.Base
import Nexotec.Lib.Interleaving

namespace Nexotec.Idempotency

/-! ### Requests and responses -/

/-- A JSON value; only `null` is told apart from the others. -/
inductive Json (V : Type) where
  | null
  | value (v : V)
  deriving DecidableEq

/-- The body of a response: no bytes, JSON, or what cannot be stored (another
media type, a stream). -/
inductive Payload (V : Type) where
  | empty
  | json (body : Json V)
  | other
  deriving DecidableEq

structure Response (V : Type) where
  status : ℕ
  payload : Payload V
  deriving DecidableEq

variable {ι B V : Type}

def Response.isSuccess (response : Response V) : Bool := 200 ≤ response.status && response.status < 300

/-- The body `complete` can store: bytes that are empty or JSON. -/
def Response.isStorable (response : Response V) : Bool :=
  match response.payload with
  | .empty | .json _ => true
  | .other => false

/-- `_KeyedRequest`. -/
structure KeyedRequest (B : Type) where
  key : String
  tenantId : Uuid
  path : String
  body : B
  deriving DecidableEq

def KeyedRequest.id (request : KeyedRequest B) : String × Uuid := (request.key, request.tenantId)

/-- `IdempotencyRecord`; a row without a status is a claim in flight.  `owner` and
`request` are history: who has claimed the key, and for what. -/
structure IdempotencyRecord (ι B V : Type) where
  requestPath : String
  requestHash : String
  responseStatus : Option ℕ := none
  responseBody : Option V := none
  owner : ι
  request : KeyedRequest B

abbrev Records (ι B V : Type) := Table (String × Uuid) (IdempotencyRecord ι B V)

def stillProcessed (key : String) : AppError :=
  conflictError "A request with this Idempotency-Key is still being processed." [("idempotencyKey", key)]

def differentRequest (key : String) : AppError :=
  conflictError "Idempotency-Key was already used with a different request." [("idempotencyKey", key)]

/-- `find_cached_response`; `hash` is `_hash_request`. -/
def findCachedResponse (hash : B → String) (records : Records ι B V) (request : KeyedRequest B) :
    Result (Option (IdempotencyRecord ι B V)) :=
  match records.lookup request.id with
  | none => .ok none
  | some existing =>
    if existing.requestPath ≠ request.path ∨ existing.requestHash ≠ hash request.body then
      .error (differentRequest request.key)
    else .ok (some existing)

def replayStoredResponse (key : String) (record : IdempotencyRecord ι B V) : Result (Response V) :=
  match record.responseStatus with
  | none => .error (stillProcessed key)
  | some status =>
    match record.responseBody with
    | none => .ok ⟨status, .empty⟩
    | some body => .ok ⟨status, .json (.value body)⟩

/-- `json.loads(raw) if raw else None`: the body `null` is stored like no body. -/
def storedBody : Payload V → Option V
  | .json (.value body) => some body
  | .json .null | .empty | .other => none

/-- The columns `complete` fills in. -/
def IdempotencyRecord.fill (response : Response V) (record : IdempotencyRecord ι B V) :
    IdempotencyRecord ι B V :=
  { record with responseStatus := some response.status, responseBody := storedBody response.payload }

/-- The `WHERE` of `complete` and `release`: the key with no response yet. -/
def ownClaim (request : KeyedRequest B) (records : Records ι B V) : Bool :=
  (records.lookup request.id).any (·.responseStatus.isNone)

def release (request : KeyedRequest B) (records : Records ι B V) : Records ι B V :=
  if ownClaim request records then records.erase request.id else records

def complete (request : KeyedRequest B) (response : Response V) (records : Records ι B V) :
    Records ι B V :=
  if response.isStorable then
    if ownClaim request records then records.modify request.id (·.fill response) else records
  else release request records

/-- The step of `settle_idempotency_key` that follows the handler. -/
def settle (request : KeyedRequest B) (outcome : Result (Response V)) (records : Records ι B V) :
    Records ι B V :=
  match outcome with
  | .ok response =>
    if response.isSuccess then complete request response records else release request records
  | .error _ => release request records

def stores (outcome : Result (Response V)) : Bool :=
  match outcome with
  | .ok response => response.isSuccess && response.isStorable
  | .error _ => false

/-! ### Sessions -/

/-- What happens under a key. -/
inductive Event (B V : Type) where
  /-- The handler starts, and ends with an answer or an exception. -/
  | started (request : KeyedRequest B)
  | ended (request : KeyedRequest B) (outcome : Result (Response V))
  /-- What the caller gets. -/
  | answered (request : KeyedRequest B) (outcome : Result (Response V))
  deriving DecidableEq

inductive Session (B V : Type) where
  | idle
  /-- In the loop of `claim`, with `left` rounds to go. -/
  | looking (request : KeyedRequest B) (left : ℕ)
  | inserting (request : KeyedRequest B) (left : ℕ)
  | running (request : KeyedRequest B)
  | ended (request : KeyedRequest B) (outcome : Result (Response V))

structure Shared (ι B V : Type) where
  records : Records ι B V := ∅
  history : String × Uuid → List (Event B V) := fun _ => []

inductive Choice (B V : Type) where
  | request (request : KeyedRequest B)
  | go
  /-- The commit of the claim raises; it may have landed. -/
  | drop (landed : Bool)
  | handle (outcome : Result (Response V))
  /-- The settlement, which may fail. -/
  | settle (landed : Bool)
  | crash

section

def Shared.record (request : KeyedRequest B) (event : Event B V) (sh : Shared ι B V) : Shared ι B V :=
  { sh with history := Function.update sh.history request.id (event :: sh.history request.id) }

def claimRow (hash : B → String) (i : ι) (request : KeyedRequest B) : IdempotencyRecord ι B V where
  requestPath := request.path
  requestHash := hash request.body
  owner := i
  request := request

def Shared.claim (hash : B → String) (i : ι) (request : KeyedRequest B) (sh : Shared ι B V) :
    Shared ι B V :=
  { sh with records := sh.records.insert request.id (claimRow hash i request) }

def go (hash : B → String) (i : ι) (sh : Shared ι B V) :
    Session B V → Option (Shared ι B V × Session B V)
  | .idle | .running _ | .ended .. => none
  | .looking request left =>
    match findCachedResponse hash sh.records request with
    | .error e => some (sh.record request (.answered request (.error e)), .idle)
    | .ok (some stored) =>
      some (sh.record request (.answered request (replayStoredResponse request.key stored)), .idle)
    | .ok none => some (sh, .inserting request left)
  | .inserting request left =>
    if (sh.records.lookup request.id).isSome then
      -- a twin has claimed the key meanwhile
      match left with
      | left + 2 => some (sh, .looking request (left + 1))
      | _ => some (sh.record request (.answered request (.error (stillProcessed request.key))), .idle)
    else some ((sh.claim hash i request).record request (.started request), .running request)

/-- The claim may have landed although its commit raised. -/
def dropClaim (hash : B → String) (i : ι) (request : KeyedRequest B) (landed : Bool)
    (sh : Shared ι B V) : Shared ι B V :=
  let sh' := if landed ∧ (sh.records.lookup request.id).isNone then sh.claim hash i request else sh
  sh'.record request (.answered request (.error (internalError "commit failed")))

/-- One transaction of one request. -/
def step (hash : B → String) (i : ι) :
    Choice B V → Shared ι B V → Session B V → Option (Shared ι B V × Session B V)
  | .request request, sh, .idle => some (sh, .looking request 2)
  | .request _, _, _ => none
  | .go, sh, lo => go hash i sh lo
  | .drop landed, sh, .inserting request _ => some (dropClaim hash i request landed sh, .idle)
  | .drop _, _, _ => none
  | .handle outcome, sh, .running request =>
    some (sh.record request (.ended request outcome), .ended request outcome)
  | .handle _, _, _ => none
  | .settle landed, sh, .ended request outcome =>
    let sh' := if landed then { sh with records := settle request outcome sh.records } else sh
    some (sh'.record request (.answered request outcome), .idle)
  | .settle _, _, _ => none
  | .crash, sh, _ => some (sh, .idle)

end

section Moves

inductive Moves (hash : B → String) (i : ι) (sh : Shared ι B V) :
    Session B V → Shared ι B V → Session B V → Prop
  | asked (request : KeyedRequest B) : Moves hash i sh .idle sh (.looking request 2)
  | refused (request : KeyedRequest B) (left : ℕ) (e : AppError) :
      Moves hash i sh (.looking request left) (sh.record request (.answered request (.error e))) .idle
  | replayed (request : KeyedRequest B) (left : ℕ) (stored : IdempotencyRecord ι B V)
      (hfind : findCachedResponse hash sh.records request = .ok (some stored)) :
      Moves hash i sh (.looking request left)
        (sh.record request (.answered request (replayStoredResponse request.key stored))) .idle
  | missing (request : KeyedRequest B) (left : ℕ) :
      Moves hash i sh (.looking request left) sh (.inserting request left)
  | twin (request : KeyedRequest B) (left left' : ℕ) :
      Moves hash i sh (.inserting request left) sh (.looking request left')
  | busy (request : KeyedRequest B) (left : ℕ) (e : AppError) :
      Moves hash i sh (.inserting request left) (sh.record request (.answered request (.error e))) .idle
  | claimed (request : KeyedRequest B) (left : ℕ) (hfree : sh.records.lookup request.id = none) :
      Moves hash i sh (.inserting request left)
        ((sh.claim hash i request).record request (.started request)) (.running request)
  /-- The claim lands, and its request does not learn of it. -/
  | dropped (request : KeyedRequest B) (left : ℕ) (e : AppError)
      (hfree : sh.records.lookup request.id = none) :
      Moves hash i sh (.inserting request left)
        ((sh.claim hash i request).record request (.answered request (.error e))) .idle
  | handled (request : KeyedRequest B) (outcome : Result (Response V)) :
      Moves hash i sh (.running request) (sh.record request (.ended request outcome))
        (.ended request outcome)
  | settled (request : KeyedRequest B) (outcome : Result (Response V)) :
      Moves hash i sh (.ended request outcome)
        (Shared.record request (.answered request outcome)
          { sh with records := settle request outcome sh.records }) .idle
  | unsettled (request : KeyedRequest B) (outcome : Result (Response V)) :
      Moves hash i sh (.ended request outcome) (sh.record request (.answered request outcome)) .idle
  | crashed (lo : Session B V) : Moves hash i sh lo sh .idle

variable {hash : B → String} {i : ι} {sh sh' : Shared ι B V} {ch : Choice B V} {lo lo' : Session B V}

theorem moves_of_go (h : go hash i sh lo = some (sh', lo')) : Moves hash i sh lo sh' lo' := by
  cases lo with
  | idle | running | ended => cases h
  | looking request left =>
    simp only [go] at h
    split at h
    · next e hfind =>
      cases h
      exact .refused request left e
    · next stored hfind =>
      cases h
      exact .replayed request left stored hfind
    · cases h
      exact .missing request left
  | inserting request left =>
    simp only [go] at h
    split at h
    · split at h
      · cases h
        exact .twin request _ _
      · cases h
        exact .busy request left _
    · next hfree =>
      cases h
      exact .claimed request left (by simpa using hfree)

theorem moves_of_drop {request : KeyedRequest B} {left : ℕ} (landed : Bool) :
    Moves hash i sh (.inserting request left) (dropClaim hash i request landed sh) .idle := by
  unfold dropClaim
  dsimp only
  split
  · next hlanded => exact .dropped request left _ (by simpa using hlanded.2)
  · exact .busy request left _

/-- Everything a step can do. -/
theorem moves_of_step (h : step hash i ch sh lo = some (sh', lo')) : Moves hash i sh lo sh' lo' := by
  cases ch with
  | request request =>
    cases lo with
    | idle =>
      cases h
      exact .asked request
    | looking | inserting | running | ended => cases h
  | go => exact moves_of_go h
  | drop landed =>
    cases lo with
    | inserting request left =>
      cases h
      exact moves_of_drop landed
    | idle | looking | running | ended => cases h
  | handle outcome =>
    cases lo with
    | running request =>
      cases h
      exact .handled request outcome
    | idle | looking | inserting | ended => cases h
  | settle landed =>
    cases lo with
    | ended request outcome =>
      cases h
      cases landed with
      | true => exact .settled request outcome
      | false => exact .unsettled request outcome
    | idle | looking | inserting | running => cases h
  | crash =>
    cases h
    exact .crashed lo

end Moves

end Nexotec.Idempotency
