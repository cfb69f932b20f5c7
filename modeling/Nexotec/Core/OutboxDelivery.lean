/-
Delivery from the outbox, with any number of workers.

The unique key of `processed_event` makes a consumer's writes happen once per
message, whoever delivers it; the claim's row locks keep a decision on a message
apart from other decisions on it.
-/
import Nexotec.Core.Outbox

namespace Nexotec.Outbox

open Locks Interleaving

variable {P W ι : Type} {handlers : Handlers}

/-! ### The invariant -/

/-- What the state of a message means. -/
structure Earned (handlers : Handlers) (sh : Shared ι P W) (id : Uuid) (row : OutboxMessage P) :
    Prop where
  published : row.status = .published →
    ∀ consumer ∈ handlers row.eventType, sh.processed.lookup (id, consumer) ≠ none
  counted : row.attempts ≤ sh.failed id
  dead : row.status = .dead → maxAttempts ≤ row.attempts

/-- The invariant of the committed state. -/
structure Sound (handlers : Handlers) (sh : Shared ι P W) : Prop where
  compatible : Compatible sh.grants
  /-- The rows that are locked exist. -/
  granted : ∀ i id m, Held sh.grants i id m → sh.messages.lookup id ≠ none
  earned : ∀ id row, sh.messages.lookup id = some row → Earned handlers sh id row
  once : (sh.effects.map (·.1)).Nodup
  recorded : ∀ key, sh.processed.lookup key ≠ none ↔ key ∈ sh.effects.map (·.1)

/-- A message the worker has claimed and not decided yet. -/
def Claimed (i : ι) (sh : Shared ι P W) (e : Uuid × OutboxMessage P) : Prop :=
  Held sh.grants i e.1 .update ∧ sh.messages.lookup e.1 = some e.2

/-- A message the worker has decided: it may be written as it is. -/
def Decided (handlers : Handlers) (i : ι) (sh : Shared ι P W) (e : Uuid × OutboxMessage P) : Prop :=
  Held sh.grants i e.1 .update ∧ Earned handlers sh e.1 e.2 ∧
    ∃ row, sh.messages.lookup e.1 = some row ∧ e.2.toEnvelope = row.toEnvelope

/-- What a worker knows of its batch as long as it is connected. -/
def KnowsBatch (handlers : Handlers) (i : ι) (sh : Shared ι P W) (batch : Batch P) : Prop :=
  batch.connected = true →
    (∀ e ∈ batch.todo, Claimed i sh e) ∧ ∀ e ∈ batch.done, Decided handlers i sh e

/-- The consumers before the ones that are left are through, unless one failed. -/
def Progress (handlers : Handlers) (sh : Shared ι P W) (delivery : Delivery P) (left : List String) :
    Prop :=
  ∀ consumer ∈ handlers delivery.message.eventType,
    consumer ∈ left ∨ sh.processed.lookup (delivery.id, consumer) ≠ none ∨ delivery.failures ≠ []

/-- What a worker knows of the message at hand. -/
structure KnowsDelivery (handlers : Handlers) (i : ι) (sh : Shared ι P W) (batch : Batch P)
    (delivery : Delivery P) (left : List String) : Prop where
  others : KnowsBatch handlers i sh batch
  claimed : batch.connected = true → Claimed i sh (delivery.id, delivery.message)
  progress : Progress handlers sh delivery left

/-- What a worker knows of the messages it has claimed. -/
def Knows (handlers : Handlers) (i : ι) (sh : Shared ι P W) : Session P W → Prop
  | .idle | .replaying _ => True
  | .polling batch => KnowsBatch handlers i sh batch
  | .delivering batch delivery => KnowsDelivery handlers i sh batch delivery delivery.rest
  | .handling batch delivery consumer | .handled batch delivery consumer _ =>
    KnowsDelivery handlers i sh batch delivery (consumer :: delivery.rest)

/-! ### Steps of the others -/

/-- What a step leaves to a session. -/
structure Respects (j : ι) (sh sh' : Shared ι P W) : Prop where
  held : ∀ id, Held sh.grants j id .update → Held sh'.grants j id .update
  messages : ∀ id, Held sh.grants j id .update →
    sh'.messages.lookup id = sh.messages.lookup id
  processed : ∀ key, sh.processed.lookup key ≠ none → sh'.processed.lookup key ≠ none
  failed : ∀ id, Held sh.grants j id .update → sh.failed id ≤ sh'.failed id

section

variable {i j : ι} {sh sh' : Shared ι P W} {id : Uuid} {row : OutboxMessage P}

theorem Earned.mono (h : Earned handlers sh id row)
    (hprocessed : ∀ key, sh.processed.lookup key ≠ none → sh'.processed.lookup key ≠ none)
    (hfailed : sh.failed id ≤ sh'.failed id) : Earned handlers sh' id row :=
  ⟨fun hp consumer hc => hprocessed _ (h.published hp consumer hc), h.counted.trans hfailed, h.dead⟩

variable {e : Uuid × OutboxMessage P}

theorem Claimed.respects (h : Claimed j sh e) (hrespects : Respects j sh sh') : Claimed j sh' e :=
  ⟨hrespects.held _ h.1, (hrespects.messages _ h.1).trans h.2⟩

theorem Decided.respects (h : Decided handlers j sh e) (hrespects : Respects j sh sh') :
    Decided handlers j sh' e := by
  obtain ⟨hheld, hearned, row, hrow, henvelope⟩ := h
  exact ⟨hrespects.held _ hheld, hearned.mono hrespects.processed (hrespects.failed _ hheld), row,
    (hrespects.messages _ hheld).trans hrow, henvelope⟩

variable {batch : Batch P}

theorem KnowsBatch.respects (h : KnowsBatch handlers j sh batch) (hrespects : Respects j sh sh') :
    KnowsBatch handlers j sh' batch := by
  intro hconnected
  obtain ⟨htodo, hdone⟩ := h hconnected
  exact ⟨fun e he => (htodo e he).respects hrespects, fun e he => (hdone e he).respects hrespects⟩

variable {delivery : Delivery P} {left : List String}

theorem Progress.mono (h : Progress handlers sh delivery left)
    (hprocessed : ∀ key, sh.processed.lookup key ≠ none → sh'.processed.lookup key ≠ none) :
    Progress handlers sh' delivery left := by
  intro consumer hconsumer
  rcases h consumer hconsumer with hleft | hdone | hfailed
  · exact .inl hleft
  · exact .inr (.inl (hprocessed _ hdone))
  · exact .inr (.inr hfailed)

theorem KnowsDelivery.respects (h : KnowsDelivery handlers j sh batch delivery left)
    (hrespects : Respects j sh sh') : KnowsDelivery handlers j sh' batch delivery left :=
  ⟨h.others.respects hrespects, fun hconnected => (h.claimed hconnected).respects hrespects,
    h.progress.mono hrespects.processed⟩

theorem knows_respects {lo : Session P W} (h : Knows handlers j sh lo)
    (hrespects : Respects j sh sh') : Knows handlers j sh' lo := by
  cases lo with
  | idle | replaying => trivial
  | polling batch => exact KnowsBatch.respects h hrespects
  | delivering | handling | handled => exact KnowsDelivery.respects h hrespects

end

section Steps

variable [DecidableEq ι] {i j : ι} {sh sh' : Shared ι P W} {lo lo' : Session P W}

omit [DecidableEq ι] in
theorem Respects.refl : Respects j sh sh := ⟨fun _ => id, fun _ _ => rfl, fun _ => id, fun _ _ => le_rfl⟩

theorem mem_claimable {batchSize : ℕ} {e : Uuid × OutboxMessage P}
    (h : e ∈ claimable i batchSize sh) :
    sh.messages.lookup e.1 = some e.2 ∧ Free sh.grants i e.1 .update := by
  have hsorted := (List.mem_insertionSort _).mp (List.mem_of_mem_take h)
  obtain ⟨hentry, hdue⟩ := List.mem_filter.mp hsorted
  obtain ⟨⟨id, row⟩, hmem, rfl⟩ := List.mem_map.mp hentry
  simp only [decide_eq_true_eq] at hdue
  exact ⟨Table.lookup_eq_some_iff_mem.mpr hmem, hdue.2.2⟩

omit [DecidableEq ι] in
theorem ne_of_free {id id' : Uuid} (hne : j ≠ i) (hfree : Free sh.grants i id .noKeyUpdate)
    (hheld : Held sh.grants j id' .update) : id' ≠ id := by
  rintro rfl
  exact hne (hfree _ hheld rfl rfl)

omit [DecidableEq ι] in
theorem failed_recordDelivery (delivery : Delivery P) (sh : Shared ι P W) (id : Uuid) :
    sh.failed id ≤ (recordDelivery delivery sh).failed id := by
  unfold recordDelivery
  split
  · exact le_rfl
  · by_cases hid : id = delivery.id
    · subst hid
      simp
    · simp [Function.update_of_ne hid]

omit [DecidableEq ι] in
/-- A delivery that is over changes nothing but the history of its message. -/
theorem recordDelivery_eq (delivery : Delivery P) (sh : Shared ι P W) :
    recordDelivery delivery sh = { sh with failed := (recordDelivery delivery sh).failed } := by
  unfold recordDelivery
  split <;> rfl

variable {batch : Batch P}

theorem respects_finish (hne : j ≠ i) (hsound : Sound handlers sh)
    (hknows : KnowsBatch handlers i sh batch) : Respects j sh (finish i batch sh) := by
  unfold finish
  split
  · next hconnected =>
    refine ⟨fun id hheld => held_release.mpr ⟨hheld, hne⟩, fun id hheld => ?_, fun _ => id,
      fun _ _ => le_rfl⟩
    refine Table.lookup_insertAll_of_notMem fun hmem => ?_
    obtain ⟨e, he, rfl⟩ := List.mem_map.mp hmem
    exact hne (hsound.compatible _ _ _ _ _ hheld ((hknows hconnected).2 e he).1 rfl)
  · exact .refl

theorem respects_moves (hne : j ≠ i) (hsound : Sound handlers sh) (hknows : Knows handlers i sh lo)
    (h : Moves handlers i sh lo sh' lo') : Respects j sh sh' := by
  cases h with
  | published id correlationId event hfresh =>
    refine ⟨fun _ h => h, fun id' hheld => AList.lookup_insert_ne ?_, fun _ h => h, fun _ _ => le_rfl⟩
    rintro rfl
    exact hsound.granted _ _ _ hheld hfresh
  | replayed id message hmessage hfree =>
    exact ⟨fun _ h => h, fun id' hheld => AList.lookup_insert_ne (ne_of_free hne hfree hheld),
      fun _ h => h, fun id' hheld => (Function.update_of_ne (ne_of_free hne hfree hheld) _ _).ge⟩
  | polled batchSize =>
    exact ⟨fun id hheld => held_acquireAll.mpr (.inr hheld), fun _ _ => rfl, fun _ => id,
      fun _ _ => le_rfl⟩
  | finished batch => exact respects_finish hne hsound hknows
  | decided batch delivery jitter hrest =>
    rw [recordDelivery_eq]
    exact ⟨fun _ => id, fun _ _ => rfl, fun _ => id, fun id _ => failed_recordDelivery delivery sh id⟩
  | landed batch delivery delivery' consumer writes hnew hdelivery =>
    exact ⟨fun _ => id, fun _ _ => rfl, fun key hkey => Table.lookup_insert_ne_none hkey _,
      fun _ _ => le_rfl⟩
  | lost | crashed =>
    exact ⟨fun id hheld => held_release.mpr ⟨hheld, hne⟩, fun _ _ => rfl, fun _ => id, fun _ _ => le_rfl⟩
  | tick => exact ⟨fun _ => id, fun _ _ => rfl, fun _ => id, fun _ _ => le_rfl⟩
  | read | started | skipped | unprocessed | ran | raised | refused => exact .refl

theorem sound_finish (hsound : Sound handlers sh) (hknows : KnowsBatch handlers i sh batch) :
    Sound handlers (finish i batch sh) := by
  unfold finish
  split
  · next hconnected =>
    refine ⟨hsound.compatible.release, fun j id m hheld => ?_, fun id row hrow => ?_, hsound.once,
      hsound.recorded⟩
    · exact Table.lookup_insertAll_ne_none (hsound.granted j id m (held_release.mp hheld).1)
    · rcases Table.lookup_insertAll_cases hrow with hdone | ⟨-, hold⟩
      · obtain ⟨-, hearned, -⟩ := (hknows hconnected).2 _ hdone
        exact ⟨hearned.published, hearned.counted, hearned.dead⟩
      · obtain ⟨hpublished, hcounted, hdead⟩ := hsound.earned id row hold
        exact ⟨hpublished, hcounted, hdead⟩
  · exact hsound

omit [DecidableEq ι] in
theorem sound_landed {key : Uuid × String} {writes : W} (hsound : Sound handlers sh)
    (hnew : sh.processed.lookup key = none) :
    Sound handlers { sh with
      processed := sh.processed.insert key sh.now, effects := (key, writes) :: sh.effects } := by
  have hkeep : ∀ key', sh.processed.lookup key' ≠ none →
      (sh.processed.insert key sh.now).lookup key' ≠ none :=
    fun key' h => Table.lookup_insert_ne_none h _
  refine ⟨hsound.compatible, hsound.granted, fun id row hrow => ?_, ?_, fun key' => ?_⟩
  · exact (hsound.earned id row hrow).mono hkeep le_rfl
  · refine List.nodup_cons.mpr ⟨fun hmem => ?_, hsound.once⟩
    exact (hsound.recorded key).mpr hmem hnew
  · rw [List.map_cons, List.mem_cons, ← hsound.recorded key', Table.lookup_insert_iff]
    split
    · next heq => simp [heq]
    · next hne => simp [hne]

theorem sound_moves (hsound : Sound handlers sh) (hknows : Knows handlers i sh lo)
    (h : Moves handlers i sh lo sh' lo') : Sound handlers sh' := by
  cases h with
  | published id correlationId event hfresh =>
    refine ⟨hsound.compatible, fun j id' m hheld => ?_, fun id' row hrow => ?_, hsound.once,
      hsound.recorded⟩
    · exact Table.lookup_insert_ne_none (hsound.granted j id' m hheld) _
    · rcases Table.lookup_insert_cases hrow with ⟨-, rfl⟩ | ⟨-, hold⟩
      · exact ⟨nofun, Nat.zero_le _, nofun⟩
      · exact (hsound.earned id' row hold).mono (fun _ => fun h => h) le_rfl
  | replayed id message hmessage hfree =>
    refine ⟨hsound.compatible, fun j id' m hheld => ?_, fun id' row hrow => ?_, hsound.once,
      hsound.recorded⟩
    · exact Table.lookup_insert_ne_none (hsound.granted j id' m hheld) _
    · rcases Table.lookup_insert_cases hrow with ⟨-, rfl⟩ | ⟨hne, hold⟩
      · exact ⟨nofun, Nat.zero_le _, nofun⟩
      · exact (hsound.earned id' row hold).mono (fun _ => fun h => h)
          (Function.update_of_ne hne _ _).ge
  | polled batchSize =>
    have hfree : ∀ id ∈ (claimable i batchSize sh).map (·.1), Free sh.grants i id .update := by
      intro id hid
      obtain ⟨e, he, rfl⟩ := List.mem_map.mp hid
      exact (mem_claimable he).2
    refine ⟨hsound.compatible.acquireAll hfree, fun j id m hheld => ?_, fun id row hrow => ?_,
      hsound.once, hsound.recorded⟩
    · rcases held_acquireAll.mp hheld with ⟨-, hid, -⟩ | hold
      · obtain ⟨e, he, rfl⟩ := List.mem_map.mp hid
        exact (mem_claimable he).1.trans_ne (Option.some_ne_none _)
      · exact hsound.granted j id m hold
    · exact (hsound.earned id row hrow).mono (fun _ => fun h => h) le_rfl
  | finished batch => exact sound_finish hsound hknows
  | decided batch delivery jitter hrest =>
    rw [recordDelivery_eq]
    refine ⟨hsound.compatible, hsound.granted, fun id row hrow => ?_, hsound.once, hsound.recorded⟩
    exact (hsound.earned id row hrow).mono (fun _ => fun h => h) (failed_recordDelivery delivery sh id)
  | landed batch delivery delivery' consumer writes hnew hdelivery => exact sound_landed hsound hnew
  | lost | crashed =>
    refine ⟨hsound.compatible.release, fun j id m hheld => ?_, fun id row hrow => ?_, hsound.once,
      hsound.recorded⟩
    · exact hsound.granted j id m (held_release.mp hheld).1
    · exact (hsound.earned id row hrow).mono (fun _ => fun h => h) le_rfl
  | tick =>
    exact ⟨hsound.compatible, hsound.granted,
      fun id row hrow => (hsound.earned id row hrow).mono (fun _ => fun h => h) le_rfl, hsound.once,
      hsound.recorded⟩
  | read | started | skipped | unprocessed | ran | raised | refused => exact hsound

variable {delivery : Delivery P} {jitter : Time}

omit [DecidableEq ι] in
theorem earned_decideNext (h : Earned handlers sh delivery.id delivery.message)
    (hprogress : Progress handlers sh delivery []) :
    Earned handlers (recordDelivery delivery sh) delivery.id
      (decideNext sh.now jitter delivery.id delivery.failures delivery.message) := by
  cases hfailures : delivery.failures with
  | nil =>
    have hrecord : recordDelivery delivery sh = sh := by simp [recordDelivery, hfailures]
    rw [hrecord]
    refine ⟨fun _ consumer hconsumer => ?_, h.counted, nofun⟩
    rcases hprogress consumer hconsumer with hleft | hdone | hfailed
    · cases hleft
    · exact hdone
    · exact (hfailed hfailures).elim
  | cons failure failures =>
    have hcounted : (recordDelivery delivery sh).failed delivery.id = sh.failed delivery.id + 1 := by
      simp [recordDelivery, hfailures]
    have hprocessed : (recordDelivery delivery sh).processed = sh.processed := by
      rw [recordDelivery_eq]
    have hmore : delivery.message.attempts + 1 ≤ (recordDelivery delivery sh).failed delivery.id :=
      (Nat.succ_le_succ h.counted).trans hcounted.ge
    simp only [decideNext, List.isEmpty_cons, Bool.false_eq_true, if_false]
    split
    · next hmax => exact ⟨nofun, hmore, fun _ => hmax⟩
    · exact ⟨fun hp consumer hc => hprocessed ▸ h.published hp consumer hc, hmore,
        fun hd => (h.dead hd).trans (Nat.le_succ _)⟩

omit [DecidableEq ι] in
theorem envelope_decideNext (now jitter : Time) (id : Uuid) (failures : List (String × String))
    (message : OutboxMessage P) :
    (decideNext now jitter id failures message).toEnvelope = message.toEnvelope := by
  unfold decideNext
  split
  · rfl
  · dsimp only
    split <;> rfl

omit [DecidableEq ι] in
theorem Progress.fail {consumer text : String} {left : List String} :
    Progress handlers sh (delivery.fail consumer text) left :=
  fun _ _ => .inr (.inr (by simp [Delivery.fail]))

omit [DecidableEq ι] in
/-- Without its locks a worker still knows which consumers are through. -/
theorem knows_disconnect (h : Knows handlers i sh lo) (grants : List (Grant ι Uuid)) :
    Knows handlers i { sh with grants := grants } lo.disconnect := by
  cases lo with
  | idle | replaying => trivial
  | polling batch => exact nofun
  | delivering | handling | handled => exact ⟨nofun, nofun, Progress.mono h.progress fun _ => id⟩

omit [DecidableEq ι] in
theorem knows_decided (hsound : Sound handlers sh)
    (h : KnowsDelivery handlers i sh batch delivery []) :
    KnowsBatch handlers i (recordDelivery delivery sh) { batch with
      done := batch.done ++ [(delivery.id,
        decideNext sh.now jitter delivery.id delivery.failures delivery.message)] } := by
  intro hconnected
  have hrespects : Respects i sh (recordDelivery delivery sh) := by
    rw [recordDelivery_eq]
    exact ⟨fun _ => id, fun _ _ => rfl, fun _ => id, fun id _ => failed_recordDelivery delivery sh id⟩
  obtain ⟨htodo, hdone⟩ := h.others.respects hrespects hconnected
  obtain ⟨hheld, hrow⟩ := (h.claimed hconnected).respects hrespects
  refine ⟨htodo, fun e he => ?_⟩
  rcases List.mem_append.mp he with hold | hnew
  · exact hdone e hold
  · obtain rfl := List.mem_singleton.mp hnew
    have hearned := hsound.earned _ _ (h.claimed hconnected).2
    exact ⟨hheld, earned_decideNext hearned h.progress, delivery.message, hrow,
      envelope_decideNext ..⟩

theorem knows_moves (hsound : Sound handlers sh) (hknows : Knows handlers i sh lo)
    (h : Moves handlers i sh lo sh' lo') : Knows handlers i sh' lo' := by
  cases h with
  | published | read | replayed | finished | crashed => trivial
  | polled batchSize =>
    refine fun _ => ⟨fun e he => ⟨?_, (mem_claimable he).1⟩, nofun⟩
    exact held_acquireAll.mpr (.inl ⟨rfl, List.mem_map_of_mem he, rfl⟩)
  | started batch id message todo htodo =>
    refine ⟨fun hconnected => ?_, fun hconnected => ?_, fun consumer hconsumer => .inl hconsumer⟩
    · obtain ⟨hall, hdone⟩ := hknows hconnected
      exact ⟨fun e he => hall e (htodo ▸ List.mem_cons_of_mem _ he), hdone⟩
    · exact (hknows hconnected).1 _ (htodo ▸ List.mem_cons_self)
  | skipped batch delivery consumer rest hrest hprocessed =>
    refine ⟨hknows.others, hknows.claimed, fun consumer' hconsumer' => ?_⟩
    rcases hknows.progress consumer' hconsumer' with hleft | hdone
    · rw [hrest] at hleft
      rcases List.mem_cons.mp hleft with rfl | hleft
      · exact .inr (.inl hprocessed)
      · exact .inl hleft
    · exact .inr hdone
  | unprocessed batch delivery consumer rest hrest =>
    refine ⟨hknows.others, hknows.claimed, ?_⟩
    rw [← hrest]
    exact hknows.progress
  | decided batch delivery jitter hrest =>
    exact knows_decided hsound ⟨hknows.others, hknows.claimed, hrest ▸ hknows.progress⟩
  | ran => exact hknows
  | raised | refused => exact ⟨hknows.others, hknows.claimed, Progress.fail⟩
  | landed batch delivery delivery' consumer writes hnew hdelivery =>
    have hrespects : Respects i sh { sh with
        processed := sh.processed.insert (delivery.id, consumer) sh.now
        effects := ((delivery.id, consumer), writes) :: sh.effects } :=
      ⟨fun _ => id, fun _ _ => rfl, fun key hkey => Table.lookup_insert_ne_none hkey _, fun _ _ => le_rfl⟩
    obtain ⟨hothers, hclaimed, hprogress⟩ := KnowsDelivery.respects hknows hrespects
    rcases hdelivery with rfl | ⟨text, rfl⟩
    · refine ⟨hothers, hclaimed, fun consumer' hconsumer' => ?_⟩
      rcases hprogress consumer' hconsumer' with hleft | hdone
      · rcases List.mem_cons.mp hleft with rfl | hleft
        · exact .inr (.inl ((AList.lookup_insert _).trans_ne (Option.some_ne_none _)))
        · exact .inl hleft
      · exact .inr hdone
    · exact ⟨hothers, hclaimed, Progress.fail⟩
  | lost => exact knows_disconnect hknows _
  | tick =>
    exact knows_respects hknows ⟨fun _ => id, fun _ _ => rfl, fun _ => id, fun _ _ => le_rfl⟩

/-- No message is deleted and none is changed in what it says. -/
def Keeps (sh sh' : Shared ι P W) : Prop :=
  ∀ id row, sh.messages.lookup id = some row →
    ∃ row', sh'.messages.lookup id = some row' ∧ row'.toEnvelope = row.toEnvelope

omit [DecidableEq ι] in
theorem Keeps.of_eq (h : sh'.messages = sh.messages) : Keeps sh sh' :=
  fun _ row hrow => ⟨row, h ▸ hrow, rfl⟩

theorem keeps_finish (hknows : KnowsBatch handlers i sh batch) : Keeps sh (finish i batch sh) := by
  unfold finish
  split
  · next hconnected =>
    intro id row hrow
    have hthere : (sh.messages.insertAll batch.done).lookup id ≠ none :=
      Table.lookup_insertAll_ne_none (hrow.trans_ne (Option.some_ne_none row))
    obtain ⟨row', hrow'⟩ := Option.ne_none_iff_exists'.mp hthere
    refine ⟨row', hrow', ?_⟩
    rcases Table.lookup_insertAll_cases hrow' with hdone | ⟨-, hold⟩
    · obtain ⟨-, -, old, hold, henvelope⟩ := (hknows hconnected).2 _ hdone
      obtain rfl : old = row := Option.mem_unique hold hrow
      exact henvelope
    · obtain rfl : row' = row := Option.mem_unique hold hrow
      rfl
  · exact .of_eq rfl

theorem keeps_moves (hknows : Knows handlers i sh lo) (h : Moves handlers i sh lo sh' lo') :
    Keeps sh sh' := by
  cases h with
  | published id correlationId event hfresh =>
    intro id' row hrow
    refine ⟨row, (AList.lookup_insert_ne ?_).trans hrow, rfl⟩
    rintro rfl
    rw [hfresh] at hrow
    cases hrow
  | replayed id message hmessage hfree =>
    intro id' row hrow
    by_cases hid : id' = id
    · subst hid
      obtain rfl : message = row := Option.mem_unique hmessage hrow
      exact ⟨_, AList.lookup_insert _, rfl⟩
    · exact ⟨row, (AList.lookup_insert_ne hid).trans hrow, rfl⟩
  | finished batch => exact keeps_finish hknows
  | decided batch delivery jitter hrest =>
    rw [recordDelivery_eq]
    exact .of_eq rfl
  | read | polled | started | skipped | unprocessed | ran | raised | refused | landed | lost | crashed
  | tick => exact .of_eq rfl

end Steps

section Runs

variable [DecidableEq ι]

def opening (now : Time) : Config ι (Shared ι P W) (Session P W) := ⟨{ now := now }, fun _ => .idle⟩

abbrev Delivers (handlers : Handlers) : Config ι (Shared ι P W) (Session P W) → Prop :=
  Holds (Sound handlers) (Knows handlers)

variable {c : Config ι (Shared ι P W) (Session P W)}

theorem move_delivers (hc : Delivers handlers c) (a : ι × Choice P W) :
    Delivers handlers (move (step handlers) c a) := by
  refine noninterference_all (fun i ch sh lo sh' lo' hG hL h => ?_)
    (fun i j ch sh lo lo' sh' lo'' hij hG hLi hLj h => ?_) hc a
  · exact ⟨sound_moves hG hL (moves_of_step h), knows_moves hG hL (moves_of_step h)⟩
  · exact knows_respects hLj (respects_moves hij.symm hG hLi (moves_of_step h))

theorem delivers_run (handlers : Handlers) (now : Time) (actions : List (ι × Choice P W)) :
    Delivers handlers (actions.foldl (move (step handlers)) (opening now)) := by
  have hfirst : Sound handlers (opening now : Config ι (Shared ι P W) (Session P W)).shared :=
    ⟨Compatible.nil, nofun, nofun,
      List.nodup_nil, fun key => by simp [opening]⟩
  have hstart : Delivers handlers (opening now : Config ι (Shared ι P W) (Session P W)) :=
    ⟨hfirst, fun _ => trivial⟩
  have hstep : ∀ (c : Config ι (Shared ι P W) (Session P W)) (a : ι × Choice P W),
      Delivers handlers c → Delivers handlers (move (step handlers) c a) :=
    fun c a hc => move_delivers hc a
  exact Run.invariant hstep hstart actions

theorem keeps_run (hc : Delivers handlers c) (actions : List (ι × Choice P W)) :
    Keeps c.shared (actions.foldl (move (step handlers)) c).shared := by
  induction actions generalizing c with
  | nil => exact .of_eq rfl
  | cons a actions ih =>
    have hmove : Keeps c.shared (move (step handlers) c a).shared :=
      move_shared (.of_eq rfl) fun sh lo h => keeps_moves (hc.2 a.1) (moves_of_step h)
    intro id row hrow
    obtain ⟨row', hrow', henvelope'⟩ := hmove id row hrow
    obtain ⟨row'', hrow'', henvelope''⟩ := ih (move_delivers hc a) id row' hrow'
    exact ⟨row'', hrow'', henvelope''.trans henvelope'⟩

/-- What the state of the outbox says in terms of what has happened. -/
structure Delivered (handlers : Handlers) (sh : Shared ι P W) : Prop where
  /-- A consumer's writes for a message are committed at most once. -/
  once : (sh.effects.map (·.1)).Nodup
  published : ∀ id row, sh.messages.lookup id = some row → row.status = .published →
    ∀ consumer ∈ handlers row.eventType, (id, consumer) ∈ sh.effects.map (·.1)
  dead : ∀ id row, sh.messages.lookup id = some row → row.status = .dead →
    maxAttempts ≤ sh.failed id

omit [DecidableEq ι] in
theorem Sound.delivered {sh : Shared ι P W} (h : Sound handlers sh) : Delivered handlers sh where
  once := h.once
  published := fun id row hrow hp consumer hc =>
    (h.recorded _).mp ((h.earned id row hrow).published hp consumer hc)
  dead := fun id row hrow hd => ((h.earned id row hrow).dead hd).trans (h.earned id row hrow).counted

/-- **Outbox delivery.**  Whatever the workers do, the writes of a consumer for a
message are committed at most once, a message is published only when every
consumer registered for its type has committed, it is dead only after
`maxAttempts` failed deliveries, and in whatever follows no message is deleted or
says anything else. -/
theorem outbox_delivers (handlers : Handlers) (now : Time) (actions more : List (ι × Choice P W)) :
    Delivered handlers (actions.foldl (move (step handlers)) (opening now)).shared ∧
      Keeps (actions.foldl (move (step handlers)) (opening now)).shared
        ((actions ++ more).foldl (move (step handlers)) (opening now)).shared := by
  have hrun := delivers_run handlers now actions
  refine ⟨hrun.1.delivered, ?_⟩
  rw [List.foldl_append]
  exact keeps_run hrun more

end Runs

end Nexotec.Outbox
