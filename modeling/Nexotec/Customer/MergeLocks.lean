/-
Customer merges against each other.

Any number of sessions run `merge_customer`, each on customers of its own
choice, with the locks of `mergeStep`.  "Merged into" stays aimed at a live
customer because the later merge holds its duplicate `FOR NO KEY UPDATE`,
which no merge into that customer gets past, and finds every earlier merge
under it.

* a deadlock between merges needs one that stands between its two customer
  rows with a customer merged already, while another has that customer's
  survivor as its duplicate: `_repoint_earlier_merges` waits for the row
  (`merge_pointers_live`, `lateMerge_deadlocks`).
-/
import Mathlib.Data.Prod.Lex
import Nexotec.Customer.MergeInvariant
import Nexotec.Lib.Interleaving

namespace Nexotec.MergeLocks

open Customers Locks Interleaving

/-! ### The system -/

/-- What the environment decides: a request with its body and If-Match, the
next statement, a failure, the time. -/
inductive Choice where
  | start (groupId duplicateId targetId : Uuid) (actorId : Option Uuid) (ifMatch : ℕ)
  | go
  | fail
  | tick (now : Time)

inductive Session where
  | idle
  | merging (call : MergeCall) (lo : MergeLocal)

def Session.ofMerge (call : MergeCall) : Option MergeLocal → Session
  | some lo => .merging call lo
  | none => .idle

section

variable {ι : Type} [DecidableEq ι]

def step (i : ι) : Choice → Shared ι → Session → Option (Shared ι × Session)
  | .start groupId duplicateId targetId actorId ifMatch, sh, .idle =>
    match startMerge sh groupId duplicateId targetId actorId ifMatch with
    | .ok call => some (sh, .merging call (.reading [] false))
    | .error _ => none
  | .go, sh, .merging call lo =>
    (mergeStep i call sh lo).map fun out => (out.1, .ofMerge call out.2)
  | .fail, sh, .merging .. => some (rollback i sh, .idle)
  | .tick now, sh, lo => some (tick now sh, lo)
  | .start .., _, .merging .. | .go, _, .idle | .fail, _, .idle => none

def requests (c : Config ι (Shared ι) Session) (i : ι) : Option (Resource × Mode) :=
  match c.locals i with
  | .idle => none
  | .merging call lo => lo.request call

def opening (db : CustomerDb) : Config ι (Shared ι) Session := ⟨{ db := db }, fun _ => .idle⟩

end

/-! ### The properties -/

/-- "Merged into" names a customer that is not merged: on every merged customer,
and on every kept copy. -/
def NamesLive (db : CustomerDb) : Prop :=
  (∀ id c, db.customers.lookup id = some c → c.lifecycleStatus = .merged →
    ∃ t t', c.duplicateOfCustomerId = some t ∧ db.customers.lookup t = some t' ∧
      t'.lifecycleStatus ≠ .merged) ∧
  ∀ id p t, db.parties.lookup id = some p → p.mergedIntoCustomerId = some t →
    ∃ t', db.customers.lookup t = some t' ∧ t'.lifecycleStatus ≠ .merged

def MergedOnce {ι : Type} (sh : Shared ι) : Prop := (sh.merges.map (·.1)).Nodup

/-- Before the first merge: no customer is merged and no row is a kept copy. -/
structure Fresh (db : CustomerDb) : Prop where
  live : ∀ id c, db.customers.lookup id = some c →
    c.lifecycleStatus ≠ .merged ∧ c.duplicateOfCustomerId = none
  unmarked : ∀ id p, db.parties.lookup id = some p → p.mergedIntoCustomerId = none

section Pointers

variable {ι : Type} {i : ι} {call : MergeCall} {sh : Shared ι}
  {writes : List (Uuid × RowWrite)} {earlier copies : List Uuid}

/-- The pointers, with the record of the merges. -/
structure Pointers (sh : Shared ι) : Prop where
  live : NamesLive sh.db
  once : MergedOnce sh
  logged : ∀ d ∈ sh.merges.map (·.1), ∃ c, sh.db.customers.lookup d = some c ∧
    c.lifecycleStatus = .merged

theorem lookup_mergedCustomers_live {P : VehicleParty → Prop} (hbase : MergeBase P sh)
    (hearlier : Earlier i call sh [] earlier) {t : Uuid} {t' : CustomerRow}
    (ht : sh.db.customers.lookup t = some t') (hlive : t'.lifecycleStatus ≠ .merged)
    (hne : t ≠ call.duplicateId) :
    (mergedCustomers call earlier sh.db.customers).lookup t = some t' := by
  refine (lookup_mergedCustomers_of_notMem hne fun hmem => ?_).trans ht
  obtain ⟨c, hc, hname⟩ := hearlier.names t (.inr hmem)
  obtain rfl := Option.mem_unique ht hc
  exact hlive (hbase.dupMerged t t' _ ht hname)

theorem namesLive_commit {P : VehicleParty → Prop} (hbase : MergeBase P sh)
    (hnames : NamesLive sh.db)
    (h : MergeKnows P i call sh (.committing writes earlier copies)) :
    NamesLive {
      customers := mergedCustomers call earlier sh.db.customers
      parties := mergedParties call writes copies sh.db.parties } := by
  obtain ⟨hcalled, ⟨hlocked, hlive, hplanned, hearlier, hcopies⟩, -⟩ := h
  obtain ⟨s, hs, -⟩ := hcalled.target
  have hslive : s.lifecycleStatus ≠ .merged := hlive.2 s hs
  -- the survivor is the same row after the commit
  have hs' := lookup_mergedCustomers_live hbase hearlier hs hslive hcalled.ne
  refine ⟨fun id c' hc' hmerged => ?_, fun id q t hq hmark => ?_⟩
  · change (mergedCustomers call earlier sh.db.customers).lookup id = some c' at hc'
    rw [lookup_mergedCustomers] at hc'
    obtain ⟨c, hc, heq⟩ := Option.map_eq_some_iff.mp hc'
    by_cases hid : id = call.duplicateId
    · rw [if_pos hid] at heq
      subst heq
      exact ⟨call.targetId, s, rfl, hs', hslive⟩
    · rw [if_neg hid] at heq
      by_cases hmem : id ∈ earlier
      · rw [if_pos hmem] at heq
        subst heq
        exact ⟨call.targetId, s, rfl, hs', hslive⟩
      · rw [if_neg hmem] at heq
        subst heq
        obtain ⟨t, t', hname, ht', htlive⟩ := hnames.1 id c hc hmerged
        have hne : t ≠ call.duplicateId := by
          rintro rfl
          rcases hearlier.all id ⟨c, hc, hname⟩ with hnil | htaken
          · cases hnil
          · exact hmem htaken
        exact ⟨t, t', hname, lookup_mergedCustomers_live hbase hearlier ht' htlive hne, htlive⟩
  · -- a mark is the survivor's, or an older one that does not name the duplicate
    change (mergedParties call writes copies sh.db.parties).lookup id = some q at hq
    by_cases htarget : t = call.targetId
    · subst htarget
      exact ⟨s, hs', hslive⟩
    · have hne : t ≠ call.duplicateId := by
        rintro rfl
        rw [lookup_mergedParties] at hq
        obtain ⟨p', hp', heq⟩ := Option.map_eq_some_iff.mp hq
        by_cases hcopy : id ∈ copies
        · rw [if_pos hcopy] at heq
          subst heq
          exact htarget (Option.some.inj hmark).symm
        · rw [if_neg hcopy] at heq
          subst heq
          exact hcopy (hcopies.all id ⟨p', hp', hmark⟩)
      obtain ⟨p, hp, hmerged⟩ := mergedParties_row hq
      rcases hmerged.mark with hnew | hold
      · exact (htarget (Option.mem_unique hmark hnew)).elim
      · obtain ⟨t', ht', htlive⟩ := hnames.2 id p t hp (hold.symm.trans hmark)
        exact ⟨t', lookup_mergedCustomers_live hbase hearlier ht' htlive hne, htlive⟩

theorem mergedOnce_commit (hp : Pointers sh) (hlive : Live call sh) :
    ((sh.merges ++ [(call.duplicateId, call.targetId)]).map (·.1)).Nodup := by
  rw [List.map_append, List.nodup_append]
  refine ⟨hp.once, List.nodup_singleton _, fun d hd d' hd' heq => ?_⟩
  obtain ⟨c, hc, hmerged⟩ := hp.logged d hd
  rw [heq, List.mem_singleton.mp hd'] at hc
  exact hlive.1 c hc hmerged

theorem logged_commit (hp : Pointers sh) (hcalled : Called call sh) :
    ∀ d ∈ (sh.merges ++ [(call.duplicateId, call.targetId)]).map (·.1),
      ∃ c, (mergedCustomers call earlier sh.db.customers).lookup d = some c ∧
        c.lifecycleStatus = .merged := by
  intro d hd
  rw [List.map_append] at hd
  have hrow : ∃ c, sh.db.customers.lookup d = some c ∧
      (d ≠ call.duplicateId → c.lifecycleStatus = .merged) := by
    rcases List.mem_append.mp hd with hd | hd
    · obtain ⟨c, hc, hmerged⟩ := hp.logged d hd
      exact ⟨c, hc, fun _ => hmerged⟩
    · obtain rfl := List.mem_singleton.mp hd
      obtain ⟨c, hc, -⟩ := hcalled.duplicate
      exact ⟨c, hc, fun hne => (hne rfl).elim⟩
  obtain ⟨c, hc, hmerged⟩ := hrow
  rw [lookup_mergedCustomers, hc, Option.map_some]
  refine ⟨_, rfl, ?_⟩
  by_cases hid : d = call.duplicateId
  · rw [if_pos hid]
    rfl
  · rw [if_neg hid]
    split
    · exact hmerged hid
    · exact hmerged hid

/-- What the pointers keep, in every interleaving. -/
theorem pointers_move [DecidableEq ι] {P : VehicleParty → Prop} {sh' : Shared ι} {lo : MergeLocal}
    {lo' : Option MergeLocal} (hbase : MergeBase P sh) (hp : Pointers sh)
    (h : MergeKnows P i call sh lo) (hmove : MergeMoves i call sh lo sh' lo') : Pointers sh' := by
  have hsame : sh'.db = sh.db → sh'.merges = sh.merges → Pointers sh' := by
    intro hdb hmerges
    refine ⟨by rw [hdb]; exact hp.live, ?_, ?_⟩
    · rw [MergedOnce, hmerges]
      exact hp.once
    · rw [hdb, hmerges]
      exact hp.logged
  cases hmove with
  | commit writes earlier copies =>
    exact ⟨namesLive_commit hbase hp.live h, mergedOnce_commit hp h.here.2.1,
      logged_commit hp h.called⟩
  | copies writes earlier copies hcopies hfree => exact hsame takeAll_db.1 takeAll_merges
  | pair | first | second | row | earlierRow | rollback => exact hsame rfl rfl
  | pairsHeld | pairsMissing | pairsRead | checked | keys | rows | planned | earlier | earlierHeld =>
    exact hp

end Pointers

section Runs

variable {ι : Type}

abbrev anyRow : VehicleParty → Prop := fun _ => True

def Resource.customer? : Resource → Option Uuid
  | .customer id => some id
  | .advisory .. | .party _ => none

/-- No other merge has, as its duplicate, the customer that `x` is merged into. -/
def Unclaimed (i : ι) (sh : Shared ι) (x : Uuid) : Prop :=
  ∀ g ∈ sh.grants, g.holder ≠ i → g.mode = .noKeyUpdate → ∀ d ∈ Resource.customer? g.resource,
    ¬ MergedInto sh.db.customers x d

/-- No other merge stands between its two customer rows with the row of a
customer merged into `d`. -/
def Unnamed (i : ι) (sh : Shared ι) (d : Uuid) : Prop :=
  ∀ g ∈ sh.grants, g.holder ≠ i →
    (∀ g' ∈ sh.grants, g'.holder = g.holder →
      ∀ y ∈ Resource.customer? g'.resource, Resource.customer? g.resource = some y) →
    ∀ x ∈ Resource.customer? g.resource, ¬ MergedInto sh.db.customers x d

/-- **The condition on a merge's customer rows.**  It takes its first row on a
customer whose survivor is not being merged, and its duplicate's row while no
other merge stands between its rows with a customer merged into it. -/
def RowsApart (i : ι) (sh : Shared ι) : Choice → Session → Prop
  | .go, .merging call (.firstRow _) =>
    Unclaimed i sh call.first ∧ (call.first = call.duplicateId → Unnamed i sh call.duplicateId)
  | .go, .merging call (.secondRow _) =>
    call.second = call.duplicateId → Unnamed i sh call.duplicateId
  | _, _ => True

/-- Between its two rows, a merge has no row of a customer whose survivor is
being merged. -/
def Apart (i : ι) (call : MergeCall) (sh : Shared ι) : MergeLocal → Prop
  | .secondRow _ => ∀ k d, k ≠ i → Held sh.grants k (.customer d) .noKeyUpdate →
    ¬ MergedInto sh.db.customers call.first d
  | _ => True

/-- What a session knows; `strict` says that the run meets the condition. -/
def Knows (strict : Prop) (i : ι) (sh : Shared ι) : Session → Prop
  | .idle => ∀ r m, ¬ Held sh.grants i r m
  | .merging call lo => MergeKnows anyRow i call sh lo ∧ (strict → Apart i call sh lo)

def Shares (sh : Shared ι) : Prop := MergeBase anyRow sh ∧ Pointers sh

variable {i j : ι} {ch : Choice} {call : MergeCall} {sh sh' : Shared ι} {strict : Prop}

theorem opening_holds {db : CustomerDb} (hdb : Fresh db) :
    Holds Shares (Knows strict) (opening db : Config ι (Shared ι) Session) := by
  have hdup : ∀ id c t, db.customers.lookup id = some c → c.duplicateOfCustomerId ≠ some t := by
    intro id c t hc hname
    rw [(hdb.live id c hc).2] at hname
    cases hname
  have hmark : ∀ id p t, db.parties.lookup id = some p → p.mergedIntoCustomerId ≠ some t := by
    intro id p t hp hname
    rw [hdb.unmarked id p hp] at hname
    cases hname
  refine ⟨⟨⟨Compatible.nil, fun _ _ _ _ => trivial, ?_, ?_, ?_⟩, ⟨?_, ?_⟩, ?_, ?_⟩, fun i r m h => ?_⟩
  · exact fun id c t hc hname => (hdup id c t hc hname).elim
  · exact fun id c t hc hname => (hdup id c t hc hname).elim
  · exact fun id p t hp hname => (hmark id p t hp hname).elim
  · exact fun id c hc hmerged => ((hdb.live id c hc).1 hmerged).elim
  · exact fun id p t hp hname => (hmark id p t hp hname).elim
  · exact List.nodup_nil
  · exact fun d hd => by cases hd
  · cases h

theorem apart_rely {lo : MergeLocal}
    (hj : MergeKnows anyRow j call sh lo) (h : Apart j call sh lo) (hrely : Rely j sh sh')
    (hnew : ∀ k d, k ≠ j → Held sh'.grants k (.customer d) .noKeyUpdate →
      Held sh.grants k (.customer d) .noKeyUpdate ∨
        (HalfLocked j call sh → ¬ MergedInto sh.db.customers call.first d)) :
    Apart j call sh' lo := by
  cases lo with
  | secondRow held =>
    intro k d hk hheld hname
    have hhalf : HalfLocked j call sh := hj.here
    -- the session holds its first row, so the name is not a new one
    have hname' : MergedInto sh.db.customers call.first d := by
      obtain ⟨c, hc, hdup⟩ := hname
      rw [hrely.customers _ _ hhalf.first (mode_conflicts call _)] at hc
      exact ⟨c, hc, hdup⟩
    rcases hnew k d hk hheld with hold | hapart
    · exact h k d hk hold hname'
    · exact hapart hhalf hname'
  | reading | advising | firstRow | checking | readingKeys | readingRows | lockingRows
  | readingEarlier | lockingEarlier | lockingCopies | committing => trivial

theorem Unnamed.apart {d : Uuid} (h : Unnamed i sh d)
    (hij : i ≠ j) (hj : HalfLocked j call sh) : ¬ MergedInto sh.db.customers call.first d := by
  refine h _ hj.first hij.symm (fun g hg hholder y hy => ?_) call.first rfl
  obtain ⟨k, r, m⟩ := g
  cases r with
  | customer id =>
    obtain rfl : id = y := Option.some.inj hy
    obtain rfl : k = j := hholder
    rw [hj.only id m hg]
    rfl
  | advisory | party => cases hy

variable [DecidableEq ι]

/-- What a step can do. -/
inductive Moves (i : ι) (sh : Shared ι) : Choice → Session → Shared ι → Session → Prop
  | start (ch : Choice) (call : MergeCall) : Called call sh →
      Moves i sh ch .idle sh (.merging call (.reading [] false))
  | merge (call : MergeCall) (lo : MergeLocal) (sh' : Shared ι) (lo' : Option MergeLocal) :
      MergeMoves i call sh lo sh' lo' → Moves i sh .go (.merging call lo) sh' (.ofMerge call lo')
  | fail (call : MergeCall) (lo : MergeLocal) :
      Moves i sh .fail (.merging call lo) (rollback i sh) .idle
  | tick (now : Time) (lo : Session) : Moves i sh (.tick now) lo (tick now sh) lo

theorem moves_of_step {lo lo' : Session}
    (h : step i ch sh lo = some (sh', lo')) : Moves i sh ch lo sh' lo' := by
  unfold step at h
  split at h
  · split at h
    · next call hcall =>
      cases h
      exact .start _ call (startMerge_called hcall)
    · cases h
  · next call lo =>
    obtain ⟨⟨sh₁, lo₁⟩, hstep, h⟩ := Option.map_eq_some_iff.mp h
    cases h
    exact .merge call lo sh₁ lo₁ (mergeMoves_of_step hstep)
  · next call lo =>
    cases h
    exact .fail call lo
  · cases h
    exact .tick _ _
  · cases h
  · cases h
  · cases h

theorem mode_eq_noKeyUpdate {id : Uuid} (h : call.mode id = .noKeyUpdate) :
    id = call.duplicateId := by
  by_contra hne
  rw [MergeCall.mode, if_neg hne] at h
  cases h

theorem newRow_of_merge {call' : MergeCall} {lo : MergeLocal}
    {lo' : Option MergeLocal} (hij : i ≠ j) (hG : Shares sh) (hi : MergeKnows anyRow i call sh lo)
    (hok : RowsApart i sh .go (.merging call lo)) (hmove : MergeMoves i call sh lo sh' lo')
    {k : ι} {d : Uuid} (hheld : Held sh'.grants k (.customer d) .noKeyUpdate) :
    Held sh.grants k (.customer d) .noKeyUpdate ∨
      (HalfLocked j call' sh → ¬ MergedInto sh.db.customers call'.first d) := by
  cases hmove with
  | pair | row =>
    rcases held_take.mp hheld with ⟨-, heq, -⟩ | hheld
    · cases heq
    · exact .inl hheld
  | first held hfree =>
    rcases held_take.mp hheld with ⟨-, heq, hmode⟩ | hheld
    · have hdup := mode_eq_noKeyUpdate hmode.symm
      rw [Resource.customer.inj heq, hdup]
      exact .inr ((hok.2 hdup).apart hij)
    · exact .inl hheld
  | second held hfree =>
    rcases held_take.mp hheld with ⟨-, heq, hmode⟩ | hheld
    · have hdup := mode_eq_noKeyUpdate hmode.symm
      rw [Resource.customer.inj heq, hdup]
      exact .inr ((hok hdup).apart hij)
    · exact .inl hheld
  | earlierRow writes id pending taken hfree =>
    rcases held_take.mp hheld with ⟨-, heq, -⟩ | hheld
    · -- a merged customer: nobody is merged into it
      refine .inr fun _ ⟨c, hc, hname⟩ => ?_
      obtain rfl := Resource.customer.inj heq
      obtain ⟨e, he, hname'⟩ := hi.here.2.2.2.2.names d (.inl List.mem_cons_self)
      obtain ⟨t, t', ht, ht', hlive⟩ := hG.2.live.1 _ c hc (hG.1.dupMerged _ c d hc hname)
      obtain rfl := Option.mem_unique hname ht
      obtain rfl := Option.mem_unique he ht'
      exact hlive (hG.1.dupMerged d e _ he hname')
    · exact .inl hheld
  | copies writes earlier copies hcopies hfree =>
    rcases held_takeAll.mp hheld with ⟨-, -, id, -, heq⟩ | hheld
    · cases heq
    · exact .inl hheld
  | commit | rollback => exact .inl (held_release.mp hheld).1
  | pairsHeld | pairsMissing | pairsRead | checked | keys | rows | planned | earlier | earlierHeld =>
    exact .inl hheld

theorem apart_move {lo lo' : MergeLocal} (hok : RowsApart i sh .go (.merging call lo))
    (hmove : MergeMoves i call sh lo sh' (some lo')) : Apart i call sh' lo' := by
  cases hmove with
  | first held hfree =>
    intro k d hk hheld
    rcases held_take.mp hheld with ⟨rfl, -⟩ | hheld
    · exact (hk rfl).elim
    · exact hok.1 _ hheld hk rfl d rfl
  | pairsHeld held rowsLocked hnone => cases rowsLocked <;> trivial
  | pairsMissing | pairsRead | pair | second | checked | keys | rows | row | planned | earlier
  | earlierRow | earlierHeld | copies => trivial

theorem step_own {lo lo' : Session}
    (hG : Shares sh) (hL : Knows strict i sh lo) (hok : strict → RowsApart i sh ch lo)
    (h : step i ch sh lo = some (sh', lo')) : Shares sh' ∧ Knows strict i sh' lo' := by
  cases moves_of_step h with
  | start ch call hcalled =>
    refine ⟨hG, ⟨hcalled, ?_, nofun⟩, fun _ => trivial⟩
    exact ⟨fun id m hheld => hL _ m hheld, fun id m hheld => hL _ m hheld,
      fun pair g m hheld => (hL _ m hheld).elim⟩
  | tick now lo =>
    refine ⟨⟨⟨hG.1.compatible, fun _ _ _ _ => trivial, hG.1.dupMerged, hG.1.dupGroup,
      hG.1.markGroup⟩, hG.2.live, hG.2.once, hG.2.logged⟩, ?_⟩
    cases lo with
    | idle => exact hL
    | merging call lo =>
      exact ⟨mergeKnows_rely hL.1 (rely_tick i now sh), fun hs =>
        apart_rely hL.1 (hL.2 hs) (rely_tick i now sh) fun _ _ _ => .inl⟩
  | fail call lo =>
    have hmove : MergeMoves i call sh lo (rollback i sh) none := .rollback lo
    exact ⟨⟨mergeBase_move hG.1 hL.1 hmove fun _ _ _ _ => trivial,
      pointers_move hG.1 hG.2 hL.1 hmove⟩, merge_ended hmove⟩
  | merge call lo sh' lo₁ hmove =>
    refine ⟨⟨mergeBase_move hG.1 hL.1 hmove fun _ _ _ _ => trivial,
      pointers_move hG.1 hG.2 hL.1 hmove⟩, ?_⟩
    cases lo₁ with
    | none => exact merge_ended hmove
    | some lo₁ => exact ⟨mergeKnows_move hG.1 hL.1 hmove, fun hs => apart_move (hok hs) hmove⟩

theorem step_others
    {lo lo' lo'' : Session} (hij : i ≠ j) (hG : Shares sh) (hLi : Knows strict i sh lo)
    (hLj : Knows strict j sh lo') (hok : strict → RowsApart i sh ch lo)
    (h : step i ch sh lo = some (sh', lo'')) : Knows strict j sh' lo' := by
  have hrely : Rely j sh sh' := by
    cases moves_of_step h with
    | start ch call hcalled => exact rely_of_locks rfl rfl fun _ _ => Iff.rfl
    | tick now lo => exact rely_tick j now sh
    | fail call lo => exact rely_of_merge hG.1 hLi.1 hij.symm (.rollback lo)
    | merge call lo sh' lo₁ hmove => exact rely_of_merge hG.1 hLi.1 hij.symm hmove
  cases lo' with
  | idle => exact fun r m hheld => hLj r m ((hrely.grants r m).mp hheld)
  | merging call' lo' =>
    refine ⟨mergeKnows_rely hLj.1 hrely, fun hs => apart_rely hLj.1 (hLj.2 hs) hrely
      fun k d hk hheld => ?_⟩
    cases moves_of_step h with
    | start | tick => exact .inl hheld
    | fail call lo => exact .inl (held_release.mp hheld).1
    | merge call lo sh' lo₁ hmove => exact newRow_of_merge hij hG hLi.1 (hok hs) hmove hheld

end Runs

section Waits

variable {ι : Type} {j : ι} {call : MergeCall} {sh : Shared ι} {lo : MergeLocal}

/-- How far a merge is in the order of the locks it waits for. -/
def rank (call : MergeCall) : MergeLocal → ℕ ×ₗ ℕ
  | .advising _ (pair :: _) _ _ => toLex (0, pairRank pair)
  | .firstRow _ => toLex (1, call.first)
  | .secondRow _ => toLex (1, call.second)
  | .lockingRows .. => toLex (2, 0)
  | .lockingEarlier .. => toLex (3, 0)
  | _ => toLex (0, 0)

/-- The places at which a merge waits. -/
inductive Waiting : MergeLocal → Prop
  | pair (held pending : List Pair) (pair : Pair) (rowsLocked : Bool) :
      Waiting (.advising held (pair :: pending) false rowsLocked)
  | first (held : List Pair) : Waiting (.firstRow held)
  | second (held : List Pair) : Waiting (.secondRow held)
  | row (keys : List PartyKey) (id : Uuid) (pending : List Uuid)
      (taken : List (Uuid × VehicleParty)) : Waiting (.lockingRows keys (id :: pending) taken)
  | earlierRow (writes : List (Uuid × RowWrite)) (id : Uuid) (pending taken : List Uuid) :
      Waiting (.lockingEarlier writes (id :: pending) taken)

variable {r : Resource} {m : Mode} {id : Uuid}

theorem waiting_of_request (h : lo.request call = some (r, m)) : Waiting lo := by
  unfold MergeLocal.request at h
  split at h
  · exact .pair _ _ _ _
  · exact .first _
  · exact .second _
  · exact .row _ _ _ _
  · exact .earlierRow _ _ _ _
  · cases h

theorem first_lt_second (h : call.targetId ≠ call.duplicateId) : call.first < call.second :=
  min_lt_max.mpr h.symm

theorem rank_of_advisory (hj : MergeKnows anyRow j call sh lo)
    (hwait : Waiting lo) {pair : Pair} {g : Uuid}
    (hheld : Held sh.grants j (.advisory pair g) m) : toLex (0, pairRank pair) < rank call lo := by
  obtain ⟨hcalled, hj, -⟩ := hj
  cases hwait with
  | pair held pending pair' rowsLocked =>
    cases rowsLocked with
    | false =>
      obtain ⟨hun, hsorted⟩ := hj
      have hmem := hun.advisory pair g m hheld
      have hlt := (List.pairwise_append.mp (hsorted rfl)).2.2 pair hmem pair' List.mem_cons_self
      exact Prod.Lex.toLex_lt_toLex.mpr (.inr ⟨rfl, hlt⟩)
    | true => cases hj.1
  | first | second | row | earlierRow => exact Prod.Lex.toLex_lt_toLex.mpr (.inl (by simp))

theorem rank_of_customer (hj : MergeKnows anyRow j call sh lo) (hapart : Apart j call sh lo)
    (hwait : Waiting lo) (hheld : Held sh.grants j (.customer id) m) :
    toLex (1, id) < rank call lo ∧ (Unmerged sh.db.customers id ∨
    (∀ k d, k ≠ j → Held sh.grants k (.customer d) .noKeyUpdate →
      ¬ MergedInto sh.db.customers id d) ∨ (MergedInto sh.db.customers id call.duplicateId ∧
      Held sh.grants j (.customer call.duplicateId) .noKeyUpdate)) := by
  obtain ⟨hcalled, hj, -⟩ := hj
  cases hwait with
  | pair held pending pair' rowsLocked =>
    cases rowsLocked with
    | false => exact (hj.1.noCustomer id m hheld).elim
    | true => cases hj.1
  | first held => exact (hj.noCustomer id m hheld).elim
  | second held =>
    rw [hj.only id m hheld]
    exact ⟨Prod.Lex.toLex_lt_toLex.mpr (.inr ⟨rfl, first_lt_second hcalled.ne⟩), .inr (.inl hapart)⟩
  | row keys id' pending taken =>
    obtain ⟨hlocked, hlive, -⟩ := hj
    refine ⟨Prod.Lex.toLex_lt_toLex.mpr (.inl (by simp)), .inl ?_⟩
    rcases hlocked.only id m hheld with rfl | rfl | hmem
    · exact hlive.1
    · exact hlive.2
    · cases hmem
  | earlierRow writes id' pending taken =>
    obtain ⟨hlocked, hlive, -, -, hearlier⟩ := hj
    refine ⟨Prod.Lex.toLex_lt_toLex.mpr (.inl (by simp)), ?_⟩
    rcases hlocked.only id m hheld with rfl | rfl | hmem
    · exact .inl hlive.1
    · exact .inl hlive.2
    · exact .inr (.inr ⟨hearlier.names id (.inr hmem), hlocked.duplicate⟩)

theorem own_of_party (hj : MergeKnows anyRow j call sh lo)
    (hwait : Waiting lo) (hheld : Held sh.grants j (.party id) m) :
    RowOf sh.db.parties id call.duplicateId ∧
      Held sh.grants j (.customer call.duplicateId) .noKeyUpdate := by
  obtain ⟨hcalled, hj, -⟩ := hj
  cases hwait with
  | pair held pending pair' rowsLocked =>
    cases rowsLocked with
    | false => exact (hj.1.noParty id m hheld).elim
    | true => cases hj.1
  | first held => exact (hj.noParty id m hheld).elim
  | second held => exact (hj.noParty id m hheld).elim
  | row keys id' pending taken => exact ⟨hj.2.2.1 id m hheld, hj.1.duplicate⟩
  | earlierRow writes id' pending taken => exact ⟨hj.2.2.1 id m hheld, hj.1.duplicate⟩

/-- **The rank grows along the waits.**  Two merges never wait for each other's
party rows, since they would need the same duplicate's customer row; and a
merged customer is held only by a merge of the same survivor, or one apart. -/
theorem rank_lt_of_wait {i : ι} {call' : MergeCall} {lo' : MergeLocal} (hij : i ≠ j)
    (hbase : MergeBase anyRow sh) (hi : MergeKnows anyRow i call' sh lo')
    (hj : MergeKnows anyRow j call sh lo) (hapart : Apart j call sh lo) {m' : Mode}
    (hrequest : lo'.request call' = some (r, m)) (hheld : Held sh.grants j r m')
    (hwait : Waiting lo) : rank call' lo' < rank call lo := by
  -- both would hold the one duplicate
  have hone : ∀ d, Held sh.grants i (.customer d) .noKeyUpdate →
      Held sh.grants j (.customer d) .noKeyUpdate → False :=
    fun d hdi hdj => hij (hbase.compatible i j _ _ _ hdi hdj rfl)
  cases waiting_of_request hrequest with
  | pair held pending pair rowsLocked =>
    obtain ⟨rfl, -⟩ := some_inj hrequest
    exact rank_of_advisory hj hwait hheld
  | first held =>
    obtain ⟨rfl, -⟩ := some_inj hrequest
    exact (rank_of_customer hj hapart hwait hheld).1
  | second held =>
    obtain ⟨rfl, -⟩ := some_inj hrequest
    exact (rank_of_customer hj hapart hwait hheld).1
  | row keys id pending taken =>
    obtain ⟨rfl, -⟩ := some_inj hrequest
    obtain ⟨hlocked, -, -, hpending, -⟩ := hi.here
    obtain ⟨p, hp, hof⟩ := hpending id List.mem_cons_self
    obtain ⟨⟨p', hp', hof'⟩, hdup⟩ := own_of_party hj hwait hheld
    obtain rfl := Option.mem_unique hp hp'
    rw [← hof', hof] at hdup
    exact (hone _ hlocked.duplicate hdup).elim
  | earlierRow writes id pending taken =>
    obtain ⟨rfl, -⟩ := some_inj hrequest
    obtain ⟨hlocked, -, -, -, hearlier⟩ := hi.here
    obtain ⟨c, hc, hname⟩ := hearlier.names id (.inl List.mem_cons_self)
    rcases (rank_of_customer hj hapart hwait hheld).2 with hlive | hnot | ⟨⟨c', hc', hname'⟩, hdup⟩
    · exact (hlive c hc (hbase.dupMerged id c _ hc hname)).elim
    · exact (hnot i _ hij hlocked.duplicate ⟨c, hc, hname⟩).elim
    · obtain rfl := Option.mem_unique hc hc'
      rw [← Option.mem_unique hname hname'] at hdup
      exact (hone _ hlocked.duplicate hdup).elim

end Waits

/-! ### Runs -/

abbrev Ok {ι : Type} (c : Config ι (Shared ι) Session) (a : ι × Choice) : Prop :=
  RowsApart a.1 c.shared a.2 (c.locals a.1)

theorem run_holds {ι : Type} [DecidableEq ι] (strict : Prop) {db : CustomerDb} (hdb : Fresh db)
    (actions : List (ι × Choice))
    (hok : Run.Along (move step) (fun c a => strict → Ok c a) (opening db) actions) :
    Holds Shares (Knows strict) (actions.foldl (move step) (opening db)) := by
  refine Run.invariant_along (fun c a hc ha => ?_) (opening_holds hdb) hok
  exact noninterference (G := Shares) (L := Knows strict)
    (fun i ch sh lo => strict → RowsApart i sh ch lo)
    (fun i ch sh lo sh' lo' hG hL hok h => step_own hG hL hok h)
    (fun i j ch sh lo lo' sh' lo'' hij hG hLi hLj hok h => step_others hij hG hLi hLj hok h) hc ha

/-- **"Merged into" names a live customer.**  In every state every interleaving
of merges reaches, the pointers name live customers and nobody is merged
twice; and as long as the customer rows are taken apart, no merges wait for
each other. -/
theorem merge_pointers_live {ι : Type} [DecidableEq ι] {db : CustomerDb} (hdb : Fresh db)
    (actions : List (ι × Choice)) : NamesLive (actions.foldl (move step) (opening db)).shared.db ∧
    MergedOnce (actions.foldl (move step) (opening db)).shared ∧
    (Run.Along (move step) Ok (opening db) actions →
      ¬ Deadlocked (actions.foldl (move step) (opening db)).shared.grants
        (requests (actions.foldl (move step) (opening db)))) := by
  have hall := run_holds False hdb actions
    (Run.Along.of_forall (fun _ _ => False.elim) _ _)
  refine ⟨hall.1.2.live, hall.1.2.once, fun hok => ?_⟩
  have hc := run_holds True hdb actions (hok.mono fun _ _ h _ => h)
  generalize actions.foldl (move step) (opening db) = c at hc ⊢
  -- a session's place in the order of the locks
  refine not_deadlocked (fun i => match c.locals i with
    | .idle => toLex (0, 0)
    | .merging call lo => rank call lo) fun i j k hij hjk => ?_
  obtain ⟨r, m, m', hrequest, hne, hheld, -⟩ := hij
  obtain ⟨r', m'', -, hrequest', -⟩ := hjk
  have hi := hc.2 i
  have hj := hc.2 j
  unfold requests at hrequest hrequest'
  rcases hlo : c.locals i with _ | ⟨call, lo⟩
  · rw [hlo] at hrequest
    cases hrequest
  · rcases hlo' : c.locals j with _ | ⟨call', lo'⟩
    · rw [hlo'] at hrequest'
      cases hrequest'
    · rw [hlo] at hi hrequest
      rw [hlo'] at hj hrequest'
      exact rank_lt_of_wait hne hc.1.1 hi.1 hj.1 (hj.2 trivial) hrequest hheld (waiting_of_request hrequest')

instance (db : CustomerDb) : Decidable (Fresh db) :=
  decidable_of_iff ((∀ e ∈ db.customers.entries, e.2.lifecycleStatus ≠ .merged ∧
      e.2.duplicateOfCustomerId = none) ∧
      ∀ e ∈ db.parties.entries, e.2.mergedIntoCustomerId = none) <| by
    constructor
    · exact fun h => ⟨Table.forall_lookup.mpr h.1, Table.forall_lookup.mpr h.2⟩
    · exact fun h => ⟨Table.forall_lookup.mp h.live, Table.forall_lookup.mp h.unmarked⟩

instance (customers : Table Uuid CustomerRow) (id customerId : Uuid) :
    Decidable (MergedInto customers id customerId) :=
  inferInstanceAs (Decidable (∃ c ∈ customers.lookup id, c.duplicateOfCustomerId = some customerId))

section

variable {ι : Type} [DecidableEq ι]

instance (i : ι) (sh : Shared ι) (x : Uuid) : Decidable (Unclaimed i sh x) :=
  inferInstanceAs (Decidable (∀ g ∈ sh.grants, _ → _ → ∀ d ∈ Resource.customer? g.resource, _))

instance (i : ι) (sh : Shared ι) (d : Uuid) : Decidable (Unnamed i sh d) :=
  inferInstanceAs (Decidable (∀ g ∈ sh.grants, _ →
    (∀ g' ∈ sh.grants, _ → ∀ y ∈ Resource.customer? g'.resource, _) →
    ∀ x ∈ Resource.customer? g.resource, _))

instance (i : ι) (sh : Shared ι) : ∀ ch lo, Decidable (RowsApart i sh ch lo)
  | .go, .merging call (.firstRow _) => inferInstanceAs (Decidable (Unclaimed i sh call.first ∧
      (call.first = call.duplicateId → Unnamed i sh call.duplicateId)))
  | .go, .merging call (.secondRow _) =>
    inferInstanceAs (Decidable (call.second = call.duplicateId → Unnamed i sh call.duplicateId))
  | .go, .merging _ (.reading ..) | .go, .merging _ (.advising ..) | .go, .merging _ (.checking _)
  | .go, .merging _ .readingKeys | .go, .merging _ (.readingRows _)
  | .go, .merging _ (.lockingRows ..) | .go, .merging _ (.readingEarlier _)
  | .go, .merging _ (.lockingEarlier ..) | .go, .merging _ (.lockingCopies ..)
  | .go, .merging _ (.committing ..) | .go, .idle | .start .., _ | .fail, _ | .tick _, _ =>
    inferInstanceAs (Decidable True)

end

/-- Three customers of one group; the first owns vehicle 50 and the second keeps it. -/
def threeCustomers : CustomerDb where
  customers := (((∅ : Table Uuid CustomerRow).insert 1 { groupId := 7 }).insert 2
    { groupId := 7 }).insert 3 { groupId := 7 }
  parties := ((∅ : Table Uuid VehicleParty).insert 10
    { vehicleId := 50, customerId := 1, role := .owner, effectiveFrom := 3 }).insert 11
    { vehicleId := 50, customerId := 2, role := .keeper, effectiveFrom := 3 }

/-- `n` statements of session `i`. -/
def go (i n : ℕ) : List (ℕ × Choice) := List.replicate n (i, .go)

/-- Two merges in opposite directions, the second of which waits and is refused,
and then one of the survivor. -/
def oppositeMerges : List (ℕ × Choice) :=
  [(0, .start 7 1 2 none 1), (1, .start 7 2 1 none 1)] ++ go 0 9 ++ go 1 5 ++ go 0 8 ++ go 1 7 ++
    (2, .start 7 2 3 none 1) :: go 2 20

theorem merge_pointers_live_oppositeMerges :
    (((oppositeMerges.foldl (move step) (opening threeCustomers)).shared.db.customers.lookup 1).map
      fun c => (c.lifecycleStatus, c.duplicateOfCustomerId)) = some (.merged, some 3) ∧
    NamesLive (oppositeMerges.foldl (move step) (opening threeCustomers)).shared.db ∧
    ¬ Deadlocked (oppositeMerges.foldl (move step) (opening threeCustomers)).shared.grants
      (requests (oppositeMerges.foldl (move step) (opening threeCustomers))) := by
  have hfresh : Fresh threeCustomers := by decide
  have hok : Run.Along (move step) Ok (opening threeCustomers) oppositeMerges := by decide +kernel
  obtain ⟨hlive, -, hwaits⟩ := merge_pointers_live hfresh oppositeMerges
  exact ⟨by decide +kernel, hlive, hwaits hok⟩

/-- Customer 1 is merged into 2 while a second merge of 1 into 2 has passed its
checks; 2 is being merged into 3 when that one takes the row of customer 1. -/
def lateMerge : List (ℕ × Choice) :=
  [(0, .start 7 1 2 none 1), (1, .start 7 1 2 none 1)] ++ go 0 17 ++
    (2, .start 7 2 3 none 1) :: go 2 15 ++ go 1 2

/-- The late merge holds customer 1 and waits for 2; the merge of 2 holds 2 and
waits for customer 1. -/
theorem lateMerge_deadlocks : ¬ ∀ (db : CustomerDb) (actions : List (ℕ × Choice)), Fresh db →
      NamesLive (actions.foldl (move step) (opening db)).shared.db ∧
      MergedOnce (actions.foldl (move step) (opening db)).shared ∧
      ¬ Deadlocked (actions.foldl (move step) (opening db)).shared.grants
        (requests (actions.foldl (move step) (opening db))) := by
  intro h
  refine (h threeCustomers lateMerge (by decide)).2.2 ⟨1, .tail (.single (b := 2) ?_) ?_⟩
  · refine ⟨.customer 2, .share, .noKeyUpdate, by decide +kernel, by decide, ?_, rfl⟩
    show _ ∈ _
    decide +kernel
  · refine ⟨.customer 1, .noKeyUpdate, .noKeyUpdate, by decide +kernel, by decide, ?_, rfl⟩
    show _ ∈ _
    decide +kernel

end Nexotec.MergeLocks
