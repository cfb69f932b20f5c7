/-
What an idempotency key promises, with any number of requests at work.

The row of a claim is the lock: while it has no response, nobody else can run
the handler under its key, and only the request that owns it settles it.

* `Sound`, `Owns` — the invariant of the rows, and what an owner knows.
-/
import Nexotec.Core.Idempotency

namespace Nexotec.Idempotency

open Interleaving

variable {ι B V : Type} {hash : B → String}

def Event.succeeds : Event B V → Bool
  | .ended _ outcome => stores outcome
  | .started _ | .answered .. => false

def successes (h : List (Event B V)) : ℕ := h.countP Event.succeeds

/-- The response a row gives back for the one it was filled in with. -/
def restored (response : Response V) : Response V :=
  ⟨response.status, match storedBody response.payload with
    | none => .empty
    | some body => .json (.value body)⟩

/-- A 2xx under a key: what the stored execution answered, or an answer of one's
own that cannot be stored. -/
def Explained (hash : B → String) (h : List (Event B V)) (request : KeyedRequest B)
    (response : Response V) : Prop :=
  (response.isStorable = false ∧ .ended request (.ok response) ∈ h) ∨
    ∃ request₀ response₀, .ended request₀ (.ok response₀) ∈ h ∧ stores (.ok response₀) = true ∧
      request₀.path = request.path ∧ hash request₀.body = hash request.body ∧
      (response = response₀ ∨ response = restored response₀)

structure Sound (hash : B → String) (sh : Shared ι B V) : Prop where
  row : ∀ k record, sh.records.lookup k = some record →
    record.request.id = k ∧ record.requestPath = record.request.path ∧
      record.requestHash = hash record.request.body
  free : ∀ k, sh.records.lookup k = none → successes (sh.history k) = 0
  once : ∀ k, successes (sh.history k) ≤ 1
  filled : ∀ k record status, sh.records.lookup k = some record → record.responseStatus = some status →
    ∃ response, .ended record.request (.ok response) ∈ sh.history k ∧ stores (.ok response) = true ∧
      status = response.status ∧ record.responseBody = storedBody response.payload
  answers : ∀ k request response, .answered request (.ok response) ∈ sh.history k →
    response.isSuccess = true → Explained hash (sh.history k) request response

def Owns (i : ι) (sh : Shared ι B V) (request : KeyedRequest B) : Prop :=
  ∃ record, sh.records.lookup request.id = some record ∧ record.owner = i ∧
    record.request = request ∧ record.responseStatus = none

def Knows (i : ι) (sh : Shared ι B V) : Session B V → Prop
  | .idle | .looking .. | .inserting .. => True
  | .running request => Owns i sh request ∧ successes (sh.history request.id) = 0
  | .ended request outcome => Owns i sh request ∧ .ended request outcome ∈ sh.history request.id ∧
    successes (sh.history request.id) = if stores outcome then 1 else 0

section Histories

variable {h : List (Event B V)} {e : Event B V} {sh : Shared ι B V} {request : KeyedRequest B}

def Quiet : Event B V → Prop
  | .ended .. => False
  | .started _ | .answered .. => True

theorem successes_quiet (hquiet : Quiet e) (h : List (Event B V)) :
    successes (e :: h) = successes h := by
  cases e with
  | ended => exact hquiet.elim
  | started | answered => rfl

theorem successes_ended (request : KeyedRequest B) (outcome : Result (Response V)) :
    successes (.ended request outcome :: h) = successes h + if stores outcome then 1 else 0 :=
  List.countP_cons

theorem history_record_self (request : KeyedRequest B) (e : Event B V) :
    (sh.record request e).history request.id = e :: sh.history request.id :=
  Function.update_self ..

variable {k : String × Uuid}

theorem history_record_ne (hne : k ≠ request.id) (e : Event B V) :
    (sh.record request e).history k = sh.history k :=
  Function.update_of_ne hne ..

theorem successes_record (hquiet : Quiet e) (k : String × Uuid) :
    successes ((sh.record request e).history k) = successes (sh.history k) := by
  by_cases hk : k = request.id
  · subst hk
    rw [history_record_self, successes_quiet hquiet]
  · rw [history_record_ne hk]

theorem mem_record {e' : Event B V} (hmem : e' ∈ sh.history k) :
    e' ∈ (sh.record request e).history k := by
  by_cases hk : k = request.id
  · subst hk
    rw [history_record_self]
    exact List.mem_cons_of_mem _ hmem
  · rw [history_record_ne hk]
    exact hmem

theorem mem_record_cases {e' : Event B V} (hmem : e' ∈ (sh.record request e).history k) :
    (k = request.id ∧ e' = e) ∨ e' ∈ sh.history k := by
  by_cases hk : k = request.id
  · subst hk
    rw [history_record_self] at hmem
    exact (List.mem_cons.mp hmem).imp (fun h => ⟨rfl, h⟩) id
  · rw [history_record_ne hk] at hmem
    exact .inr hmem

theorem Explained.mono {h' : List (Event B V)} {response : Response V}
    (hex : Explained hash h request response) (hsub : ∀ e ∈ h, e ∈ h') :
    Explained hash h' request response := by
  rcases hex with ⟨hother, hmem⟩ | ⟨request₀, response₀, hmem, hrest⟩
  · exact .inl ⟨hother, hsub _ hmem⟩
  · exact .inr ⟨request₀, response₀, hsub _ hmem, hrest⟩

end Histories

section Rows

variable {sh sh' : Shared ι B V} {request request' : KeyedRequest B} {i j : ι}
  {outcome : Result (Response V)} {k : String × Uuid}

theorem lookup_release_ne {records : Records ι B V} (hne : k ≠ request.id) :
    (release request records).lookup k = records.lookup k := by
  unfold release
  split
  · exact AList.lookup_erase_ne hne
  · rfl

theorem lookup_settle_ne {records : Records ι B V} (hne : k ≠ request.id) :
    (settle request outcome records).lookup k = records.lookup k := by
  unfold settle
  split
  · split
    · unfold complete
      split
      · split
        · exact Table.lookup_modify_ne hne ..
        · rfl
      · exact lookup_release_ne hne
    · exact lookup_release_ne hne
  · exact lookup_release_ne hne

theorem ownClaim_of_owns (h : Owns i sh request) : ownClaim request sh.records = true := by
  obtain ⟨record, hrow, -, -, hopen⟩ := h
  simp [ownClaim, hrow, hopen]

theorem lookup_release_self (h : Owns i sh request) :
    (release request sh.records).lookup request.id = none := by
  rw [release, if_pos (ownClaim_of_owns h)]
  exact AList.lookup_erase _ _

theorem lookup_settle_free (h : Owns i sh request) (hstores : stores outcome = false) :
    (settle request outcome sh.records).lookup request.id = none := by
  cases outcome with
  | error e => exact lookup_release_self h
  | ok response =>
    simp only [settle]
    split
    · next hsuccess =>
      have hother : response.isStorable = false := by simpa [stores, hsuccess] using hstores
      rw [complete, if_neg (by simp [hother])]
      exact lookup_release_self h
    · exact lookup_release_self h

theorem lookup_settle_stored {response : Response V} {record : IdempotencyRecord ι B V}
    (h : Owns i sh request) (hrow : sh.records.lookup request.id = some record)
    (hstores : stores (.ok response) = true) :
    (settle request (.ok response) sh.records).lookup request.id = some (record.fill response) := by
  obtain ⟨hsuccess, hstorable⟩ := Bool.and_eq_true_iff.mp hstores
  simp only [settle, complete, if_pos hsuccess, if_pos hstorable, if_pos (ownClaim_of_owns h)]
  rw [Table.lookup_modify_self, hrow]
  rfl

theorem Owns.unique (h : Owns i sh request) (h' : Owns j sh request') (hkey : request.id = request'.id) :
    i = j := by
  obtain ⟨record, hrow, howner, -⟩ := h
  obtain ⟨record', hrow', howner', -⟩ := h'
  rw [hkey, hrow'] at hrow
  cases hrow
  exact howner.symm.trans howner'

theorem Owns.of_lookup (h : Owns i sh request)
    (hrow : sh'.records.lookup request.id = sh.records.lookup request.id) : Owns i sh' request := by
  obtain ⟨record, hrecord, hrest⟩ := h
  exact ⟨record, hrow.trans hrecord, hrest⟩

theorem lookup_claim_ne (hne : k ≠ request.id) :
    (sh.claim hash i request).records.lookup k = sh.records.lookup k :=
  AList.lookup_insert_ne hne

theorem lookup_claim_self :
    (sh.claim hash i request).records.lookup request.id = some (claimRow hash i request) :=
  AList.lookup_insert _

theorem Owns.ne_of_free (h : Owns j sh request) (hfree : sh.records.lookup request'.id = none) :
    request.id ≠ request'.id := by
  obtain ⟨record, hrow, -⟩ := h
  intro hkey
  rw [hkey, hfree] at hrow
  cases hrow

end Rows

section Others

variable {sh sh' : Shared ι B V} {request : KeyedRequest B} {i j : ι} {lo lo' : Session B V}
  {e : Event B V}

/-- What a step leaves to a session. -/
structure Respects (j : ι) (sh sh' : Shared ι B V) : Prop where
  row : ∀ request, Owns j sh request → sh'.records.lookup request.id = sh.records.lookup request.id
  successes : ∀ request, Owns j sh request →
    successes (sh'.history request.id) = successes (sh.history request.id)
  grows : ∀ k, ∀ e ∈ sh.history k, e ∈ sh'.history k

theorem Respects.refl : Respects j sh sh := ⟨fun _ _ => rfl, fun _ _ => rfl, fun _ _ => id⟩

theorem Respects.record (h : Respects j sh sh') (hquiet : Quiet e) :
    Respects j sh (sh'.record request e) :=
  ⟨h.row, fun request' howns => (successes_record hquiet _).trans (h.successes request' howns),
    fun k e' hmem => mem_record (h.grows k e' hmem)⟩

theorem knows_respects (h : Knows j sh lo) (hrespects : Respects j sh sh') : Knows j sh' lo := by
  cases lo with
  | idle | looking | inserting => trivial
  | running request =>
    exact ⟨h.1.of_lookup (hrespects.row _ h.1), (hrespects.successes _ h.1).trans h.2⟩
  | ended request outcome =>
    exact ⟨h.1.of_lookup (hrespects.row _ h.1), hrespects.grows _ _ h.2.1,
      (hrespects.successes _ h.1).trans h.2.2⟩

theorem respects_claim (hfree : sh.records.lookup request.id = none) :
    Respects j sh (sh.claim hash i request) :=
  ⟨fun _ howns => lookup_claim_ne (howns.ne_of_free hfree), fun _ _ => rfl, fun _ _ => id⟩

theorem respects_moves (hne : j ≠ i) (hknows : Knows i sh lo) (h : Moves hash i sh lo sh' lo') :
    Respects j sh sh' := by
  cases h with
  | asked | missing | twin | crashed => exact .refl
  | refused | replayed | busy | unsettled => exact Respects.refl.record trivial
  | claimed request left hfree => exact (respects_claim hfree).record trivial
  | dropped request left e hfree => exact (respects_claim hfree).record trivial
  | handled request outcome =>
    refine ⟨fun _ _ => rfl, fun request' howns => ?_, fun k e hmem => mem_record hmem⟩
    rw [history_record_ne]
    exact fun hkey => hne (howns.unique hknows.1 hkey)
  | settled request outcome =>
    refine Respects.record ⟨fun request' howns => lookup_settle_ne ?_, fun _ _ => rfl, fun _ _ => id⟩
      trivial
    exact fun hkey => hne (howns.unique hknows.1 hkey)

end Others

section Steps

variable {sh sh' : Shared ι B V} {request : KeyedRequest B} {i : ι} {lo lo' : Session B V}
  {e : Event B V} {outcome : Result (Response V)}

theorem Sound.record (h : Sound hash sh) (hquiet : Quiet e)
    (hanswer : ∀ response, e = .answered request (.ok response) → response.isSuccess = true →
      Explained hash (sh.history request.id) request response)
    (hrequest : ∀ request' outcome, e = .answered request' outcome → request' = request) :
    Sound hash (sh.record request e) where
  row := h.row
  free := fun k hk => (successes_record hquiet k).trans (h.free k hk)
  once := fun k => (successes_record hquiet k).trans_le (h.once k)
  filled := fun k record status hrow hstatus => by
    obtain ⟨response, hmem, hrest⟩ := h.filled k record status hrow hstatus
    exact ⟨response, mem_record hmem, hrest⟩
  answers := fun k request' response hmem hsuccess => by
    rcases mem_record_cases hmem with ⟨rfl, rfl⟩ | hold
    · obtain rfl := hrequest request' _ rfl
      exact (hanswer response rfl hsuccess).mono fun e' he' => mem_record he'
    · exact (h.answers k request' response hold hsuccess).mono fun e' he' => mem_record he'

theorem Sound.answered (h : Sound hash sh)
    (hanswer : ∀ response, outcome = .ok response → response.isSuccess = true →
      Explained hash (sh.history request.id) request response) :
    Sound hash (sh.record request (.answered request outcome)) := by
  refine h.record trivial (fun response heq hsuccess => ?_) (fun request' outcome' heq => ?_)
  · exact hanswer response (Event.answered.inj heq).2 hsuccess
  · exact (Event.answered.inj heq).1.symm

theorem Sound.refused (h : Sound hash sh) (e : AppError) :
    Sound hash (sh.record request (.answered request (.error e))) :=
  h.answered nofun

theorem Sound.started (h : Sound hash sh) : Sound hash (sh.record request (.started request)) :=
  h.record trivial nofun nofun

theorem Sound.claim (h : Sound hash sh) : Sound hash (sh.claim hash i request) where
  row := Table.forall_insert ⟨rfl, rfl, rfl⟩ h.row
  free := fun k hk => by
    refine h.free k ?_
    by_contra hsome
    exact Table.lookup_insert_ne_none hsome _ hk
  once := h.once
  filled := fun k record status hrow hstatus => by
    rcases Table.lookup_insert_cases hrow with ⟨rfl, rfl⟩ | ⟨-, hold⟩
    · cases hstatus
    · exact h.filled k record status hold hstatus
  answers := h.answers

theorem Sound.replay (h : Sound hash sh) {stored : IdempotencyRecord ι B V} {response : Response V}
    (hfind : findCachedResponse hash sh.records request = .ok (some stored))
    (hreplay : replayStoredResponse request.key stored = .ok response) :
    Explained hash (sh.history request.id) request response := by
  unfold findCachedResponse at hfind
  split at hfind
  · cases hfind
  · next existing hrow =>
    split at hfind
    · cases hfind
    · next hsame =>
      cases hfind
      obtain ⟨-, hpath, hhash⟩ := h.row _ _ hrow
      simp only [not_or, not_not] at hsame
      unfold replayStoredResponse at hreplay
      split at hreplay
      · cases hreplay
      · next status hstatus =>
        obtain ⟨response₀, hmem, hstores, rfl, hbody⟩ := h.filled _ _ status hrow hstatus
        refine .inr ⟨stored.request, response₀, hmem, hstores, hpath.symm.trans hsame.1,
          hhash.symm.trans hsame.2, .inr ?_⟩
        rw [hbody] at hreplay
        unfold restored
        cases hstored : storedBody response₀.payload with
        | none =>
          rw [hstored] at hreplay
          exact (Except.ok.inj hreplay).symm
        | some body =>
          rw [hstored] at hreplay
          exact (Except.ok.inj hreplay).symm

theorem Sound.handled (h : Sound hash sh) (howns : Owns i sh request)
    (hnone : successes (sh.history request.id) = 0) (outcome : Result (Response V)) :
    Sound hash (sh.record request (.ended request outcome)) where
  row := h.row
  free := fun k hk => by
    have hne : k ≠ request.id := by
      rintro rfl
      exact howns.ne_of_free hk rfl
    rw [history_record_ne hne]
    exact h.free k hk
  once := fun k => by
    by_cases hk : k = request.id
    · subst hk
      rw [history_record_self, successes_ended, hnone, Nat.zero_add]
      split
      · exact le_rfl
      · exact Nat.zero_le 1
    · rw [history_record_ne hk]
      exact h.once k
  filled := fun k record status hrow hstatus => by
    obtain ⟨response, hmem, hrest⟩ := h.filled k record status hrow hstatus
    exact ⟨response, mem_record hmem, hrest⟩
  answers := fun k request' response hmem hsuccess => by
    rcases mem_record_cases hmem with ⟨-, heq⟩ | hold
    · cases heq
    · exact (h.answers k request' response hold hsuccess).mono fun e' he' => mem_record he'

theorem Sound.settle (h : Sound hash sh) (howns : Owns i sh request)
    (hended : .ended request outcome ∈ sh.history request.id)
    (hcount : successes (sh.history request.id) = if stores outcome then 1 else 0) :
    Sound hash { sh with records := settle request outcome sh.records } := by
  cases hstores : stores outcome with
  | false =>
    have hfreed := lookup_settle_free howns hstores
    rw [hstores] at hcount
    refine ⟨fun k record hrow => ?_, fun k hk => ?_, h.once, fun k record status hrow => ?_, h.answers⟩
    · by_cases hk : k = request.id
      · rw [hk, hfreed] at hrow
        cases hrow
      · exact h.row k record ((lookup_settle_ne hk).symm.trans hrow)
    · by_cases hid : k = request.id
      · exact hid ▸ hcount
      · exact h.free k ((lookup_settle_ne hid).symm.trans hk)
    · by_cases hk : k = request.id
      · rw [hk, hfreed] at hrow
        cases hrow
      · exact h.filled k record status ((lookup_settle_ne hk).symm.trans hrow)
  | true =>
    cases outcome with
    | error e => cases hstores
    | ok response =>
      obtain ⟨record, hrow, -, hrequest, -⟩ := id howns
      have hfilled := lookup_settle_stored howns hrow hstores
      refine ⟨fun k record' hrow' => ?_, fun k hk => ?_, h.once, fun k record' status hrow' hstatus => ?_,
        h.answers⟩
      · by_cases hk : k = request.id
        · subst hk
          obtain rfl := Option.mem_unique hrow' hfilled
          exact h.row _ record hrow
        · exact h.row k record' ((lookup_settle_ne hk).symm.trans hrow')
      · by_cases hid : k = request.id
        · rw [hid, hfilled] at hk
          cases hk
        · exact h.free k ((lookup_settle_ne hid).symm.trans hk)
      · by_cases hk : k = request.id
        · subst hk
          obtain rfl := Option.mem_unique hrow' hfilled
          refine ⟨response, ?_, hstores, (Option.some.inj hstatus).symm, rfl⟩
          exact hrequest ▸ hended
        · exact h.filled k record' status ((lookup_settle_ne hk).symm.trans hrow') hstatus

theorem explained_own (hended : .ended request outcome ∈ sh.history request.id) :
    ∀ response, outcome = .ok response → response.isSuccess = true →
      Explained hash (sh.history request.id) request response := by
  rintro response rfl hsuccess
  cases hstorable : response.isStorable with
  | false => exact .inl ⟨hstorable, hended⟩
  | true =>
    exact .inr ⟨request, response, hended, by simp [stores, hsuccess, hstorable], rfl, rfl, .inl rfl⟩

theorem sound_moves (hsound : Sound hash sh) (hknows : Knows i sh lo)
    (h : Moves hash i sh lo sh' lo') : Sound hash sh' := by
  cases h with
  | asked | missing | twin | crashed => exact hsound
  | refused | busy => exact hsound.refused _
  | replayed request left stored hfind =>
    exact hsound.answered fun response hreplay _ => hsound.replay hfind hreplay
  | claimed request left hfree => exact hsound.claim.started
  | dropped request left e hfree => exact hsound.claim.refused e
  | handled request outcome => exact hsound.handled hknows.1 hknows.2 outcome
  | settled request outcome =>
    refine (hsound.settle hknows.1 hknows.2.1 hknows.2.2).answered ?_
    exact explained_own hknows.2.1
  | unsettled request outcome => exact hsound.answered (explained_own hknows.2.1)

theorem knows_moves (hsound : Sound hash sh) (hknows : Knows i sh lo)
    (h : Moves hash i sh lo sh' lo') : Knows i sh' lo' := by
  cases h with
  | asked | missing | twin | crashed | refused | busy | replayed | dropped | settled | unsettled =>
    trivial
  | claimed request left hfree =>
    refine ⟨⟨claimRow hash i request, lookup_claim_self, rfl, rfl, rfl⟩, ?_⟩
    have hquiet : Quiet (.started request : Event B V) := trivial
    exact (successes_record hquiet _).trans (hsound.free _ hfree)
  | handled request outcome =>
    refine ⟨hknows.1.of_lookup rfl, ?_, ?_⟩
    · rw [history_record_self]
      exact List.mem_cons_self
    · rw [history_record_self, successes_ended, hknows.2, Nat.zero_add]

end Steps

section Runs

variable [DecidableEq ι]

def opening : Config ι (Shared ι B V) (Session B V) := ⟨{}, fun _ => .idle⟩

/-- What a key promises; `record.request` is the request that claimed it. -/
structure Idempotent (hash : B → String) (c : Config ι (Shared ι B V) (Session B V)) : Prop where
  /-- At most one execution ends with a storable 2xx. -/
  once : ∀ k, successes (c.shared.history k) ≤ 1
  /-- Two executions never overlap. -/
  alone : ∀ i j request request', c.locals i = .running request → c.locals j = .running request' →
    request.id = request'.id → i = j
  /-- A 2xx that can be stored is the answer of that execution, to the same
  request. -/
  answers : ∀ k request response, .answered request (.ok response) ∈ c.shared.history k →
    response.isSuccess = true →
    (response.isStorable = false ∧ .ended request (.ok response) ∈ c.shared.history k) ∨
      ∃ request₀ response₀, .ended request₀ (.ok response₀) ∈ c.shared.history k ∧
        stores (.ok response₀) = true ∧ request₀.path = request.path ∧ request₀.body = request.body ∧
        response.status = response₀.status ∧
        (response₀.payload ≠ .json .null → response.payload = response₀.payload)
  /-- Another request under the key is refused. -/
  different : ∀ i request left record, c.locals i = .looking request left →
    c.shared.records.lookup request.id = some record →
    record.request.path ≠ request.path ∨ record.request.body ≠ request.body →
    step hash i .go c.shared (c.locals i) = some (c.shared.record request
      (.answered request (.error (differentRequest request.key))), .idle)
  /-- After any other end the next request under the key runs its handler. -/
  freed : ∀ i request outcome, c.locals i = .ended request outcome → stores outcome = false →
    ∀ j request', j = i ∨ c.locals j = .idle → request'.id = request.id →
    ([(i, .settle true), (j, .request request'), (j, .go), (j, .go)].foldl
      (move (step hash)) c).locals j = .running request'

abbrev Keyed (hash : B → String) : Config ι (Shared ι B V) (Session B V) → Prop :=
  Holds (Sound hash) Knows

variable {c : Config ι (Shared ι B V) (Session B V)}

theorem move_keyed (hc : Keyed hash c) (a : ι × Choice B V) :
    Keyed hash (move (step hash) c a) := by
  refine noninterference_all (fun i ch sh lo sh' lo' hG hL h => ?_)
    (fun i j ch sh lo lo' sh' lo'' hij hG hLi hLj h => ?_) hc a
  · exact ⟨sound_moves hG hL (moves_of_step h), knows_moves hG hL (moves_of_step h)⟩
  · exact knows_respects hLj (respects_moves hij.symm hLi (moves_of_step h))

omit [DecidableEq ι] in
theorem opening_keyed : Keyed hash (opening : Config ι (Shared ι B V) (Session B V)) :=
  ⟨⟨nofun, fun _ _ => rfl, fun _ => Nat.zero_le 1,
    nofun, nofun⟩, fun _ => trivial⟩

omit [DecidableEq ι] in
/-- A row gives back what it was filled in with, but for the body `null`. -/
theorem restored_eq {response : Response V} (hstorable : response.isStorable = true)
    (hnull : response.payload ≠ .json .null) : restored response = response := by
  obtain ⟨status, payload⟩ := response
  match payload, hstorable, hnull with
  | .empty, _, _ => rfl
  | .json (.value body), _, _ => rfl
  | .json .null, _, hnull => exact (hnull rfl).elim

variable {request : KeyedRequest B}

omit [DecidableEq ι] in
theorem Explained.answer (hinj : Function.Injective hash) {h : List (Event B V)}
    {response : Response V} (hex : Explained hash h request response) :
    (response.isStorable = false ∧ .ended request (.ok response) ∈ h) ∨
      ∃ request₀ response₀, .ended request₀ (.ok response₀) ∈ h ∧ stores (.ok response₀) = true ∧
        request₀.path = request.path ∧ request₀.body = request.body ∧
        response.status = response₀.status ∧
        (response₀.payload ≠ .json .null → response.payload = response₀.payload) := by
  rcases hex with hother | ⟨request₀, response₀, hmem, hstores, hpath, hhash, rfl | rfl⟩
  · exact .inl hother
  · exact .inr ⟨request₀, response, hmem, hstores, hpath, hinj hhash, rfl, fun _ => rfl⟩
  · refine .inr ⟨request₀, response₀, hmem, hstores, hpath, hinj hhash, rfl, fun hnull => ?_⟩
    rw [restored_eq (Bool.and_eq_true_iff.mp hstores).2 hnull]

theorem runs_of_free {j : ι} (hidle : c.locals j = .idle)
    (hfree : c.shared.records.lookup request.id = none) :
    ([(j, .request request), (j, .go), (j, .go)].foldl (move (step hash)) c).locals j =
      .running request := by
  simp [move, step, go, hidle, findCachedResponse, hfree]

theorem freed_of_keyed (hc : Keyed hash c) {i : ι} {outcome : Result (Response V)}
    (hended : c.locals i = .ended request outcome) (hstores : stores outcome = false) {j : ι}
    {request' : KeyedRequest B} (hj : j = i ∨ c.locals j = .idle) (hkey : request'.id = request.id) :
    ([(i, .settle true), (j, .request request'), (j, .go), (j, .go)].foldl
      (move (step hash)) c).locals j = .running request' := by
  have hknows := hc.2 i
  rw [hended] at hknows
  have hsettle : step hash i (.settle true) c.shared (c.locals i) =
      some (Shared.record request (.answered request outcome)
        { c.shared with records := settle request outcome c.shared.records }, .idle) := by
    rw [hended]
    rfl
  rw [List.foldl_cons, move_some hsettle]
  refine runs_of_free ?_ ?_
  · by_cases hij : j = i
    · subst hij
      exact Function.update_self ..
    · exact (Function.update_of_ne hij ..).trans (hj.resolve_left hij)
  · rw [hkey]
    exact lookup_settle_free hknows.1 hstores

omit [DecidableEq ι] in
theorem different_of_sound (hinj : Function.Injective hash) {sh : Shared ι B V} (h : Sound hash sh)
    {i : ι} {left : ℕ} {record : IdempotencyRecord ι B V}
    (hrow : sh.records.lookup request.id = some record)
    (hdiffers : record.request.path ≠ request.path ∨ record.request.body ≠ request.body) :
    step hash i .go sh (.looking request left) = some (sh.record request
      (.answered request (.error (differentRequest request.key))), .idle) := by
  obtain ⟨-, hpath, hhash⟩ := h.row _ _ hrow
  have hother : record.requestPath ≠ request.path ∨ record.requestHash ≠ hash request.body := by
    rw [hpath, hhash]
    exact hdiffers.imp id fun hbody heq => hbody (hinj heq)
  simp only [step, go, findCachedResponse, hrow, if_pos hother]

/-- **Idempotent requests.**  In every run, whatever fails in it: per key at most
one execution ends with a storable 2xx, two executions never overlap, every 2xx
that can be stored is the answer of that execution to an equal request, another
request under a claimed key is refused, and an execution without a storable 2xx
leaves the key free when its settlement does not fail. -/
theorem idempotent_requests (hinj : Function.Injective hash) (actions : List (ι × Choice B V)) :
    Idempotent hash (actions.foldl (move (step hash))
      (opening : Config ι (Shared ι B V) (Session B V))) := by
  have hstep : ∀ (c : Config ι (Shared ι B V) (Session B V)) (a : ι × Choice B V),
      Keyed hash c → Keyed hash (move (step hash) c a) := fun c a hc => move_keyed hc a
  have hend := Run.invariant hstep opening_keyed actions
  refine ⟨hend.1.once, fun i j request request' hi hj hkey => ?_,
    fun k request response hmem hsuccess => (hend.1.answers k request response hmem hsuccess).answer hinj,
    fun i request left record hlooking hrow hdiffers => ?_,
    fun i request outcome hended hstores j request' hj hkey =>
      freed_of_keyed hend hended hstores hj hkey⟩
  · have howns := hend.2 i
    have howns' := hend.2 j
    rw [hi] at howns
    rw [hj] at howns'
    exact howns.1.unique howns'.1 hkey
  · rw [hlooking]
    exact different_of_sound hinj hend.1 hrow hdiffers

end Runs

/-- The double click of one form: the twin loses the insert and finds the claim, and
a third request gets the stored answer. -/
def doubleClick : List (ℕ × Choice String ℕ) :=
  let request : KeyedRequest String := ⟨"7f3a", 1, "/v1/customers", "name: Muster"⟩
  [(0, .request request), (1, .request request), (0, .go), (1, .go), (0, .go), (1, .go), (1, .go),
    (0, .handle (.ok ⟨201, .json (.value 5)⟩)), (0, .settle true), (2, .request request), (2, .go)]

theorem idempotent_requests_doubleClick :
    ((doubleClick.foldl (move (step id)) opening).shared.history ("7f3a", 1)).map
      (fun e => match e with
        | .answered _ (.ok response) => response.status
        | _ => 0) = [201, 201, 0, 0, 0] ∧
    Idempotent id (doubleClick.foldl (move (step id)) opening) :=
  ⟨by decide +kernel, idempotent_requests Function.injective_id doubleClick⟩

/-- A handler that answers with a file, and the retry that answers with JSON. -/
def fileThenJson : List (ℕ × Choice String ℕ) :=
  let request : KeyedRequest String := ⟨"7f3a", 1, "/v1/exports", "all"⟩
  [(0, .request request), (0, .go), (0, .go), (0, .handle (.ok ⟨200, .other⟩)), (0, .settle true),
    (1, .request request), (1, .go), (1, .go), (1, .handle (.ok ⟨201, .json (.value 5)⟩)),
    (1, .settle true)]

/-- The file was a 2xx under the key, and is not what the stored execution
answered. -/
theorem unstorable_differs :
    ¬ ∀ (hash : String → String), Function.Injective hash → ∀ actions : List (ℕ × Choice String ℕ),
      ∀ k request response, .answered request (.ok response) ∈
          (actions.foldl (move (step hash)) opening).shared.history k → response.isSuccess = true →
        ∃ request₀ response₀, .ended request₀ (.ok response₀) ∈
            (actions.foldl (move (step hash)) opening).shared.history k ∧
          stores (.ok response₀) = true ∧ request₀.path = request.path ∧
          request₀.body = request.body ∧ response = response₀ := by
  intro h
  have hfile : .answered ⟨"7f3a", 1, "/v1/exports", "all"⟩ (.ok ⟨200, .other⟩) ∈
      (fileThenJson.foldl (move (step id)) opening).shared.history ("7f3a", 1) := by
    decide +kernel
  obtain ⟨request₀, response₀, -, hstores, -, -, rfl⟩ :=
    h id Function.injective_id fileThenJson _ _ _ hfile rfl
  cases hstores

end Nexotec.Idempotency
