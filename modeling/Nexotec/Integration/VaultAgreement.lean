/-
Vault and registry agree.

A vault call takes effect at once, so an operation that fails after one leaves the vault
changed and the database as it was.
-/
import Nexotec.Integration.Connections
import Nexotec.Lib.Run

namespace Nexotec.Integration

open Run

/-! ### What is claimed, and when it holds -/

def Backed (st : State) : Prop :=
  ∀ path, st.secretRefs.lookup path ≠ none → st.vault.lookup path ≠ none

/-- The connection has the secrets, and the refs, that it had. -/
def HasAll (connectionId : Uuid) (st st' : State) : Prop :=
  ∀ slot, st'.vault.lookup (connectionId, slot) = st.vault.lookup (connectionId, slot) ∧
    st'.secretRefs.lookup (connectionId, slot) = st.secretRefs.lookup (connectionId, slot)

def Failed (result : Result Unit) : Prop := ∃ exc, result = .error exc

def Recovers (st : State) (a : Action × Env) : Prop :=
  match a.1 with
  | .setSecret connectionId slot _ => st.connections.lookup connectionId ≠ none →
      ∀ value, ∃ env, (setSecret env connectionId slot value (next st a)).1 = .ok ()
  | .removeSecret connectionId _ | .deleteConnection connectionId _ =>
    HasAll connectionId st (next st a)
  | .create _ _ | .call _ => True

/-- An action leaves the registry backed, and where it fails nothing lost or blocked. -/
structure Agrees (st : State) (a : Action × Env) : Prop where
  backed : Backed (next st a)
  failed : Failed (perform st a).1 → Recovers st a

def called (env : Env) (connectionId : Uuid) (st : State) : List SecretSlot :=
  (slotsOf env connectionId st).filter fun slot => env.vault slot ≠ .notConfigured

def Begins (env : Env) (connectionId : Uuid) (st : State) : Prop :=
  ∃ slot ∈ (called env connectionId st).head?, env.vault slot = .executes

/-- No action fails after the vault has created or deleted a secret for it. -/
def Clean (st : State) (a : Action × Env) : Prop :=
  match a.1 with
  | .setSecret connectionId slot _ =>
    st.connections.lookup connectionId ≠ none → st.secretRefs.lookup (connectionId, slot) = none →
      a.2.vault slot = .executes → a.2.commits = true
  | .removeSecret connectionId slot =>
    st.connections.lookup connectionId ≠ none → st.secretRefs.lookup (connectionId, slot) ≠ none →
      a.2.vault slot = .executes → a.2.commits = true
  | .deleteConnection connectionId confirm =>
    st.connections.lookup connectionId ≠ none → confirm = true → Begins a.2 connectionId st →
      (∀ slot ∈ slotsOf a.2 connectionId st, a.2.vault slot ≠ .fails) ∧ a.2.commits = true ∧
        connectionId ∉ st.callLog
  | .create _ _ | .call _ => True

/-- The registry is backed, and the vault has no other secret of a connection. -/
structure Matches (st : State) : Prop where
  backed : Backed st
  registered : ∀ path, st.connections.lookup path.1 ≠ none → st.vault.lookup path ≠ none →
    st.secretRefs.lookup path ≠ none

variable {env : Env} {st : State} {connectionId : Uuid} {slot : SecretSlot}

/-! ### Results -/

theorem committed_ok {allowed : Bool} {written : State} (hcommits : env.commits = true)
    (hallowed : allowed = true) : committed env allowed written st = (.ok (), written) := by
  rw [committed, if_neg (by simp [hcommits]), if_neg (by simp [hallowed])]

theorem committed_cases (env : Env) (allowed : Bool) (written st : State) :
    (env.commits = true ∧ allowed = true ∧ committed env allowed written st = (.ok (), written)) ∨
      ((env.commits = false ∨ allowed = false) ∧
        ∃ exc, committed env allowed written st = raised exc written.vault st) := by
  unfold committed
  split
  · next hcommits => exact .inr ⟨.inl hcommits, _, rfl⟩
  · split
    · next hallowed => exact .inr ⟨.inr hallowed, _, rfl⟩
    · next hcommits hallowed =>
      exact .inl ⟨by simpa using hcommits, by simpa using hallowed, rfl⟩

theorem not_failed_ok : ¬ Failed (.ok ()) := fun ⟨_, h⟩ => by cases h

theorem Matches.vault_none (hmatches : Matches st)
    (hfound : st.connections.lookup connectionId ≠ none)
    (href : st.secretRefs.lookup (connectionId, slot) = none) :
    st.vault.lookup (connectionId, slot) = none := by
  by_contra hsecret
  exact hmatches.registered (connectionId, slot) hfound hsecret href

/-- What is shown of each action: `Clean` decides whether it agrees, and keeps `Matches`. -/
def Decides (st : State) (a : Action × Env) : Prop :=
  (Agrees st a ↔ Clean st a) ∧ (Clean st a → Matches (next st a))

variable {a : Action × Env}

theorem decides_of_clean (hclean : Clean st a) (hmatches : Matches (next st a))
    (hrecovers : Failed (perform st a).1 → Recovers st a) : Decides st a :=
  ⟨⟨fun _ => hclean, fun _ => ⟨hmatches.backed, hrecovers⟩⟩, fun _ => hmatches⟩

theorem decides_of_not_clean (hnot : ¬ Clean st a) (h : ¬ Agrees st a) : Decides st a :=
  ⟨⟨fun hagrees => absurd hagrees h, fun hclean => absurd hclean hnot⟩,
    fun hclean => absurd hclean hnot⟩

theorem decides_of_same (hclean : Clean st a) (hmatches : Matches st) (hsame : next st a = st)
    (hrecovers : Recovers st a) : Decides st a :=
  decides_of_clean hclean (hsame.symm ▸ hmatches) fun _ => hrecovers

theorem hasAll_of_same (hsame : next st a = st) : HasAll connectionId st (next st a) := by
  rw [hsame]
  exact fun _ => ⟨rfl, rfl⟩

section Deletions

variable {call : SecretSlot → VaultCall} {slots : List SecretSlot} {vault vault' : Vault}
  {path : Path} {value : String}

theorem createSecret_ok (h : vault.lookup path = none) :
    createSecret .executes path value vault = .ok (vault.insert path value) := by
  rw [createSecret, h]
  rfl

theorem updateSecret_ok (h : vault.lookup path ≠ none) :
    updateSecret .executes path value vault = .ok (vault.insert path value) :=
  if_pos (Option.isSome_iff_ne_none.mpr h)

theorem deleteSecret_ok (h : vault.lookup path ≠ none) :
    deleteSecret .executes path vault = .ok (vault.erase path) :=
  if_pos (Option.isSome_iff_ne_none.mpr h)

theorem eq_erase_of_deleteSecret {call : VaultCall} (h : deleteSecret call path vault = .ok vault') :
    vault' = vault.erase path := by
  unfold deleteSecret at h
  split at h
  · cases h
  · cases h
  · split at h
    · cases h; rfl
    · cases h

theorem deleteSecrets_frame (h : path.1 ≠ connectionId ∨ path.2 ∉ slots) :
    (deleteSecrets call connectionId slots vault).2.lookup path = vault.lookup path := by
  induction slots generalizing vault with
  | nil => rfl
  | cons slot slots ih =>
    have hrest : path.1 ≠ connectionId ∨ path.2 ∉ slots :=
      h.imp id fun hmem hin => hmem (List.mem_cons_of_mem _ hin)
    have hne : path ≠ (connectionId, slot) := by
      rintro rfl
      rcases h with hconnection | hslot
      · exact hconnection rfl
      · exact hslot List.mem_cons_self
    unfold deleteSecrets
    split
    · exact ih hrest
    · split
      · rfl
      · next vault' hdelete =>
        rw [ih hrest, eq_erase_of_deleteSecret hdelete]
        exact AList.lookup_erase_ne hne

theorem deleteSecrets_none (h : vault.lookup path = none) :
    (deleteSecrets call connectionId slots vault).2.lookup path = none := by
  induction slots generalizing vault with
  | nil => exact h
  | cons slot slots ih =>
    unfold deleteSecrets
    split
    · exact ih h
    · split
      · exact h
      · next vault' hdelete =>
        refine ih ?_
        rw [eq_erase_of_deleteSecret hdelete]
        by_cases hpath : path = (connectionId, slot)
        · rw [hpath]; exact AList.lookup_erase _ _
        · rw [AList.lookup_erase_ne hpath]; exact h

theorem deleteSecrets_quiet
    (h : ¬ ∃ slot ∈ (slots.filter fun slot => call slot ≠ .notConfigured).head?,
      call slot = .executes) : (deleteSecrets call connectionId slots vault).2 = vault := by
  induction slots with
  | nil => rfl
  | cons slot slots ih =>
    unfold deleteSecrets
    by_cases hcall : call slot = .notConfigured
    · rw [if_pos hcall]
      refine ih fun hexists => h ?_
      rw [List.filter_cons_of_neg (by simpa using hcall)]
      exact hexists
    · rw [if_neg hcall]
      rw [List.filter_cons_of_pos (by simpa using hcall), List.head?_cons] at h
      have hnot : call slot ≠ .executes := fun hexecutes => h ⟨slot, rfl, hexecutes⟩
      have hfails : call slot = .fails := by
        cases hslot : call slot with
        | executes => exact absurd hslot hnot
        | fails => rfl
        | notConfigured => exact absurd hslot hcall
      rw [hfails]
      rfl

theorem deleteSecrets_gone
    (h : (slots.filter fun slot => call slot ≠ .notConfigured).head? = some slot)
    (hexecutes : call slot = .executes) (hvault : vault.lookup (connectionId, slot) ≠ none) :
    (deleteSecrets call connectionId slots vault).2.lookup (connectionId, slot) = none := by
  induction slots with
  | nil => cases h
  | cons first slots ih =>
    unfold deleteSecrets
    by_cases hcall : call first = .notConfigured
    · rw [if_pos hcall]
      rw [List.filter_cons_of_neg (by simpa using hcall)] at h
      exact ih h
    · rw [if_neg hcall]
      rw [List.filter_cons_of_pos (by simpa using hcall), List.head?_cons] at h
      cases h
      rw [hexecutes, deleteSecret_ok hvault]
      exact deleteSecrets_none (AList.lookup_erase _ _)

theorem deleteSecrets_fails (hmem : slot ∈ slots) (hfails : call slot = .fails) :
    (deleteSecrets call connectionId slots vault).1 ≠ none := by
  induction slots generalizing vault with
  | nil => cases hmem
  | cons first slots ih =>
    unfold deleteSecrets
    rcases List.mem_cons.mp hmem with rfl | hmem
    · rw [hfails]
      exact Option.some_ne_none _
    · split
      · exact ih hmem
      · split
        · exact Option.some_ne_none _
        · exact ih hmem

theorem deleteSecrets_through (hnodup : slots.Nodup)
    (hvault : ∀ slot ∈ slots, vault.lookup (connectionId, slot) ≠ none)
    (hcalls : ∀ slot ∈ slots, call slot ≠ .fails) :
    (deleteSecrets call connectionId slots vault).1 = none := by
  induction slots generalizing vault with
  | nil => rfl
  | cons slot slots ih =>
    obtain ⟨hnot, hrest⟩ := List.nodup_cons.mp hnodup
    have hcalls' : ∀ slot ∈ slots, call slot ≠ .fails :=
      fun slot hmem => hcalls slot (List.mem_cons_of_mem _ hmem)
    unfold deleteSecrets
    by_cases hcall : call slot = .notConfigured
    · rw [if_pos hcall]
      exact ih hrest (fun slot hmem => hvault slot (List.mem_cons_of_mem _ hmem)) hcalls'
    · rw [if_neg hcall]
      have hexecutes : call slot = .executes := by
        cases hslot : call slot with
        | executes => rfl
        | fails => exact absurd hslot (hcalls slot List.mem_cons_self)
        | notConfigured => exact absurd hslot hcall
      rw [hexecutes, deleteSecret_ok (hvault slot List.mem_cons_self)]
      refine ih hrest (fun other hmem => ?_) hcalls'
      have hne : (connectionId, other) ≠ (connectionId, slot) := by
        intro heq
        exact hnot ((Prod.mk.inj heq).2 ▸ hmem)
      rw [AList.lookup_erase_ne hne]
      exact hvault other (List.mem_cons_of_mem _ hmem)

end Deletions

/-! ### Deleting a connection -/

theorem mem_slotsOf : slot ∈ slotsOf env connectionId st ↔
    st.secretRefs.lookup (connectionId, slot) ≠ none := by
  rw [slotsOf, (env.unordered_perm _).mem_iff, List.mem_map,
    ← Option.isSome_iff_ne_none, AList.lookup_isSome, AList.mem_keys]
  constructor
  · rintro ⟨⟨id, slot'⟩, hmem, rfl⟩
    obtain ⟨hkeys, hid⟩ := List.mem_filter.mp hmem
    cases of_decide_eq_true hid
    exact hkeys
  · exact fun hkeys => ⟨(connectionId, slot), List.mem_filter.mpr ⟨hkeys, by simp⟩, rfl⟩

theorem nodup_slotsOf (env : Env) (connectionId : Uuid) (st : State) :
    (slotsOf env connectionId st).Nodup := by
  refine (env.unordered_perm _).nodup_iff.mpr
    (List.Nodup.map_on ?_ ((AList.keys_nodup _).filter _))
  rintro ⟨id, slot⟩ hmem ⟨id', slot'⟩ hmem' rfl
  have hid := of_decide_eq_true (List.mem_filter.mp hmem).2
  have hid' := of_decide_eq_true (List.mem_filter.mp hmem').2
  change id = connectionId at hid
  change id' = connectionId at hid'
  rw [hid, hid']

/-- A confirmed deletion fails with the vault as far as it came, or goes through. -/
theorem deleteConnection_cases (hfound : st.connections.lookup connectionId ≠ none) {vault : Vault}
    {exc : Option AppError}
    (hdelete : deleteSecrets env.vault connectionId (slotsOf env connectionId st) st.vault =
      (exc, vault)) :
    (Failed (deleteConnection env true connectionId st).1 ∧
      ¬ (exc = none ∧ env.commits = true ∧ connectionId ∉ st.callLog) ∧
      (deleteConnection env true connectionId st).2 = { st with vault := vault }) ∨
    (¬ Failed (deleteConnection env true connectionId st).1 ∧
      (exc = none ∧ env.commits = true ∧ connectionId ∉ st.callLog) ∧
      (deleteConnection env true connectionId st).2 = { st with
        vault := vault
        connections := st.connections.erase connectionId
        secretRefs := Table.keep (fun path _ => path.1 ≠ connectionId) st.secretRefs
        entitlements := st.entitlements.filter (· ≠ connectionId) }) := by
  obtain ⟨connection, hconnection⟩ := Option.ne_none_iff_exists'.mp hfound
  unfold deleteConnection
  rw [hconnection]
  simp only [Bool.true_eq_false, if_false, hdelete]
  cases exc with
  | some exc => exact .inl ⟨⟨exc, rfl⟩, nofun, rfl⟩
  | none =>
    dsimp only
    rcases committed_cases env (decide (connectionId ∉ st.callLog)) _ st with
      ⟨hcommits, hallowed, hok⟩ | ⟨hrefused, exc, herror⟩
    · rw [hok]
      exact .inr ⟨not_failed_ok, ⟨rfl, hcommits, of_decide_eq_true hallowed⟩, rfl⟩
    · rw [herror]
      refine .inl ⟨⟨exc, rfl⟩, fun ⟨_, hcommits, hlog⟩ => ?_, rfl⟩
      simp [hcommits, hlog] at hrefused

theorem deleteConnection_refused {confirm : Bool}
    (h : st.connections.lookup connectionId = none ∨ confirm = false) :
    (deleteConnection env confirm connectionId st).2 = st := by
  unfold deleteConnection
  split
  · rfl
  · next connection hfound =>
    rcases h with hnone | rfl
    · rw [hnone] at hfound
      cases hfound
    · rfl

variable {path : Path} {refs : Table Path IntegrationSecretRef}

theorem lookup_kept (h : (Table.keep (fun path _ => path.1 ≠ connectionId) refs).lookup path ≠ none) :
    path.1 ≠ connectionId ∧ refs.lookup path ≠ none := by
  obtain ⟨row, hrow⟩ := Option.ne_none_iff_exists'.mp h
  rw [Table.lookup_keep, Option.filter_eq_some_iff] at hrow
  exact ⟨by simpa using hrow.2, by rw [hrow.1]; exact Option.some_ne_none _⟩

theorem lookup_keep_of_ne (hne : path.1 ≠ connectionId) :
    (Table.keep (fun path _ => path.1 ≠ connectionId) refs).lookup path = refs.lookup path := by
  rw [Table.lookup_keep]
  cases refs.lookup path with
  | none => rfl
  | some row => exact Option.filter_eq_some_iff.mpr ⟨rfl, by simpa using hne⟩

theorem delete_agrees (hmatches : Matches st) (confirm : Bool) :
    Decides st (.deleteConnection connectionId confirm, env) := by
  by_cases hrefused : st.connections.lookup connectionId = none ∨ confirm = false
  · have hsame : next st (.deleteConnection connectionId confirm, env) = st :=
      deleteConnection_refused hrefused
    have hclean : Clean st (.deleteConnection connectionId confirm, env) := by
      intro hfound hconfirm
      rcases hrefused with hnone | hnot
      · exact absurd hnone hfound
      · rw [hconfirm] at hnot; cases hnot
    exact decides_of_same hclean hmatches hsame (hasAll_of_same hsame)
  · obtain ⟨hfound, hconfirm⟩ := not_or.mp hrefused
    have hconfirm : confirm = true := by simpa using hconfirm
    subst hconfirm
    have hvault : ∀ slot ∈ slotsOf env connectionId st, st.vault.lookup (connectionId, slot) ≠ none :=
      fun slot hmem => hmatches.backed _ (mem_slotsOf.mp hmem)
    rcases hdelete : deleteSecrets env.vault connectionId (slotsOf env connectionId st) st.vault
      with ⟨exc, vault⟩
    have hleaves : (deleteSecrets env.vault connectionId (slotsOf env connectionId st) st.vault).2 =
        vault := congrArg Prod.snd hdelete
    rcases deleteConnection_cases hfound hdelete with
      ⟨hfailed, hstopped, hleft⟩ | ⟨hok, ⟨rfl, hcommits, hlog⟩, hleft⟩
    · by_cases hbegins : Begins env connectionId st
      · -- the first secret is gone, and the connection still there
        obtain ⟨slot, hhead, hexecutes⟩ := hbegins
        have hmem : slot ∈ slotsOf env connectionId st :=
          (List.mem_filter.mp (List.mem_of_mem_head? hhead)).1
        have hgone := deleteSecrets_gone hhead hexecutes (hvault slot hmem)
        have hnot : ¬ Clean st (.deleteConnection connectionId true, env) := by
          intro hclean
          obtain ⟨hcalls, hcommits, hlog⟩ := hclean hfound rfl ⟨slot, hhead, hexecutes⟩
          have hthrough := deleteSecrets_through (nodup_slotsOf env connectionId st) hvault hcalls
          rw [hdelete] at hthrough
          exact hstopped ⟨hthrough, hcommits, hlog⟩
        refine decides_of_not_clean hnot fun hagrees => ?_
        have hall : HasAll connectionId st (deleteConnection env true connectionId st).2 :=
          hagrees.failed hfailed
        have hsame := (hall slot).1
        rw [hleft] at hsame
        rw [hdelete] at hgone
        exact absurd (hsame.symm.trans hgone) (hvault slot hmem)
      · have hquiet : vault = st.vault := hleaves.symm.trans (deleteSecrets_quiet hbegins)
        have hsame : next st (.deleteConnection connectionId true, env) = st := by
          change (deleteConnection env true connectionId st).2 = st
          rw [hleft, hquiet]
        exact decides_of_same (fun _ _ hbegun => absurd hbegun hbegins) hmatches hsame
          (hasAll_of_same hsame)
    · have hcalls : ∀ slot ∈ slotsOf env connectionId st, env.vault slot ≠ .fails :=
        fun slot hmem hfails => deleteSecrets_fails hmem hfails (congrArg Prod.fst hdelete)
      have hframe : ∀ path : Path, path.1 ≠ connectionId → vault.lookup path = st.vault.lookup path :=
        fun path hne => hleaves ▸ deleteSecrets_frame (.inl hne)
      have hmatches' : Matches (next st (.deleteConnection connectionId true, env)) := by
        change Matches (deleteConnection env true connectionId st).2
        rw [hleft]
        refine ⟨fun path href => ?_, fun path hconnection hsecret => ?_⟩
        · obtain ⟨hne, hold⟩ := lookup_kept href
          exact (hframe path hne).trans_ne (hmatches.backed path hold)
        · have hne : path.1 ≠ connectionId := by
            intro heq
            refine hconnection ?_
            change (st.connections.erase connectionId).lookup path.1 = none
            rw [heq]
            exact AList.lookup_erase _ _
          change (st.connections.erase connectionId).lookup path.1 ≠ none at hconnection
          rw [AList.lookup_erase_ne hne] at hconnection
          exact (lookup_keep_of_ne hne).trans_ne (hmatches.registered path hconnection
            ((hframe path hne).symm.trans_ne hsecret))
      exact decides_of_clean (fun _ _ _ => ⟨hcalls, hcommits, hlog⟩) hmatches'
        fun hfail => absurd hfail hok

/-! ### The other operations -/

theorem matches_committed_keep {st' : State} (hmatches : Matches st) (hvault : st'.vault = st.vault)
    (hrefs : st'.secretRefs = st.secretRefs)
    (hconnections : ∀ id, st'.connections.lookup id ≠ none →
      st.connections.lookup id ≠ none ∨ ∀ slot, st.vault.lookup (id, slot) = none) :
    Matches st' := by
  refine ⟨fun path href => ?_, fun path hconnection hsecret => ?_⟩
  · rw [hvault]
    exact hmatches.backed path (hrefs ▸ href)
  · rw [hvault] at hsecret
    rw [hrefs]
    rcases hconnections path.1 hconnection with hold | hnone
    · exact hmatches.registered path hold hsecret
    · exact absurd (hnone path.2) hsecret

/-- Vault and registry are written at one path, and have both something there or nothing. -/
theorem matches_at {st' : State} {path : Path} (hmatches : Matches st)
    (hconnections : ∀ id, st'.connections.lookup id ≠ none → st.connections.lookup id ≠ none)
    (hvault : ∀ other ≠ path, st'.vault.lookup other = st.vault.lookup other)
    (hrefs : ∀ other ≠ path, st'.secretRefs.lookup other = st.secretRefs.lookup other)
    (hat : st'.vault.lookup path ≠ none ↔ st'.secretRefs.lookup path ≠ none) : Matches st' := by
  refine ⟨fun other href => ?_, fun other hconnection hsecret => ?_⟩
  · by_cases heq : other = path
    · rw [heq] at href ⊢
      exact hat.mpr href
    · rw [hvault other heq]
      exact hmatches.backed other (hrefs other heq ▸ href)
  · by_cases heq : other = path
    · rw [heq] at hsecret ⊢
      exact hat.mp hsecret
    · rw [hrefs other heq]
      exact hmatches.registered other (hconnections _ hconnection) (hvault other heq ▸ hsecret)

theorem create_agrees (hmatches : Matches st) (id : Uuid) (tenantId : Option Uuid) :
    Matches (createConnection env id tenantId st).2 := by
  unfold createConnection
  split
  · exact hmatches
  · next hnew =>
    simp only [List.mem_append, not_or] at hnew
    rcases committed_cases env true
      { st with connections := st.connections.insert id ⟨tenantId, none⟩ } st with
      ⟨-, -, hok⟩ | ⟨-, exc, herror⟩
    · rw [hok]
      refine matches_committed_keep hmatches rfl rfl fun id' hid => ?_
      by_cases heq : id' = id
      · -- the key is new, so the vault has nothing under it
        subst heq
        refine .inr fun slot => ?_
        by_contra hsecret
        refine hnew.2 (List.mem_map.mpr ⟨(id', slot), ?_, rfl⟩)
        rw [← AList.mem_keys, ← AList.lookup_isSome]
        exact Option.isSome_iff_ne_none.mpr hsecret
      · exact .inl (by rw [← AList.lookup_insert_ne heq]; exact hid)
    · rw [herror]
      exact matches_committed_keep hmatches rfl rfl fun _ hid => .inl hid

theorem call_agrees (hmatches : Matches st) (connectionId : Uuid) :
    Matches (recordCall env connectionId st).2 := by
  unfold recordCall
  rcases committed_cases env (st.connections.lookup connectionId).isSome
    { st with callLog := connectionId :: st.callLog } st with ⟨-, -, hok⟩ | ⟨-, exc, herror⟩
  · rw [hok]
    exact matches_committed_keep hmatches rfl rfl fun _ hid => .inl hid
  · rw [herror]
    exact matches_committed_keep hmatches rfl rfl fun _ hid => .inl hid

theorem removeSecret_cases (env : Env) (connectionId : Uuid) (slot : SecretSlot)
    (hmatches : Matches st) :
    (¬ (st.connections.lookup connectionId ≠ none ∧
        st.secretRefs.lookup (connectionId, slot) ≠ none ∧ env.vault slot = .executes) ∧
      (removeSecret env connectionId slot st).2 = st) ∨
    (st.connections.lookup connectionId ≠ none ∧
      st.secretRefs.lookup (connectionId, slot) ≠ none ∧ env.vault slot = .executes ∧
      removeSecret env connectionId slot st = committed env true
        { st with
          vault := st.vault.erase (connectionId, slot)
          secretRefs := st.secretRefs.erase (connectionId, slot) } st) := by
  unfold removeSecret
  dsimp only
  cases hconnection : st.connections.lookup connectionId with
  | none => exact .inl ⟨fun h => h.1 rfl, rfl⟩
  | some connection =>
    cases href : st.secretRefs.lookup (connectionId, slot) with
    | none => exact .inl ⟨fun h => h.2.1 rfl, rfl⟩
    | some ref =>
      have hbacked := hmatches.backed (connectionId, slot) (by rw [href]; exact Option.some_ne_none _)
      cases hcall : env.vault slot with
      | fails => exact .inl ⟨fun h => (by cases h.2.2), rfl⟩
      | notConfigured => exact .inl ⟨fun h => (by cases h.2.2), rfl⟩
      | executes =>
        refine .inr ⟨Option.some_ne_none _, Option.some_ne_none _, rfl, ?_⟩
        rw [deleteSecret_ok hbacked]

theorem remove_agrees (hmatches : Matches st) :
    Decides st (.removeSecret connectionId slot, env) := by
  rcases removeSecret_cases env connectionId slot hmatches with
    ⟨hnot, hsame⟩ | ⟨hfound, href, hcall, heq⟩
  · have hsame : next st (.removeSecret connectionId slot, env) = st := hsame
    exact decides_of_same (fun hfound href hcall => absurd ⟨hfound, href, hcall⟩ hnot) hmatches
      hsame (hasAll_of_same hsame)
  · have hperform : perform st (.removeSecret connectionId slot, env) = committed env true
        { st with
          vault := st.vault.erase (connectionId, slot)
          secretRefs := st.secretRefs.erase (connectionId, slot) } st := heq
    rcases committed_cases env true _ st with ⟨hcommits, -, hok⟩ | ⟨hrefused, exc, herror⟩
    · have hmatches' : Matches (next st (.removeSecret connectionId slot, env)) := by
        rw [next, hperform, hok]
        refine matches_at hmatches (fun _ h => h) (fun _ => AList.lookup_erase_ne)
          (fun _ => AList.lookup_erase_ne) (iff_of_false ?_ ?_)
        · exact not_not_intro (AList.lookup_erase _ _)
        · exact not_not_intro (AList.lookup_erase _ _)
      refine decides_of_clean (fun _ _ _ => hcommits) hmatches' fun hfailed => ?_
      rw [hperform, hok] at hfailed
      exact absurd hfailed not_failed_ok
    · -- the secret is gone and its ref is not
      have hcommits : env.commits = false := hrefused.resolve_right (by simp)
      have hnot : ¬ Clean st (.removeSecret connectionId slot, env) := by
        intro hclean
        have htrue : env.commits = true := hclean hfound href hcall
        rw [hcommits] at htrue
        cases htrue
      refine decides_of_not_clean hnot fun hagrees => ?_
      have hbacked := hagrees.backed (connectionId, slot)
      rw [next, hperform, herror] at hbacked
      exact absurd (AList.lookup_erase _ _) (hbacked href)

theorem setSecret_cases (env : Env) (connectionId : Uuid) (slot : SecretSlot) (value : String)
    (hmatches : Matches st) :
    (¬ (st.connections.lookup connectionId ≠ none ∧
        st.secretRefs.lookup (connectionId, slot) = none ∧ env.vault slot = .executes) ∧
      (setSecret env connectionId slot value st).2 = st) ∨
    (∃ connections, st.secretRefs.lookup (connectionId, slot) ≠ none ∧
      (∀ id, connections.lookup id ≠ none → st.connections.lookup id ≠ none) ∧
      setSecret env connectionId slot value st = committed env true
        { st with
          vault := st.vault.insert (connectionId, slot) value
          connections := connections
          secretRefs := st.secretRefs.insert (connectionId, slot)
            ⟨secretRefFor (connectionId, slot), some env.now⟩ } st) ∨
    (∃ connections, st.connections.lookup connectionId ≠ none ∧
      st.secretRefs.lookup (connectionId, slot) = none ∧ env.vault slot = .executes ∧
      (∀ id, connections.lookup id ≠ none → st.connections.lookup id ≠ none) ∧
      setSecret env connectionId slot value st = committed env true
        { st with
          vault := st.vault.insert (connectionId, slot) value
          connections := connections
          secretRefs := st.secretRefs.insert (connectionId, slot)
            ⟨secretRefFor (connectionId, slot), none⟩ } st) := by
  unfold setSecret
  dsimp only
  cases hconnection : st.connections.lookup connectionId with
  | none => exact .inl ⟨fun h => h.1 rfl, rfl⟩
  | some connection =>
    have hconnections : ∀ id, (st.connections.insert connectionId
        { connection with rotatedAt := some env.now }).lookup id ≠ none →
        st.connections.lookup id ≠ none := by
      intro id hid
      by_cases heq : id = connectionId
      · rw [heq, hconnection]; exact Option.some_ne_none _
      · rw [AList.lookup_insert_ne heq] at hid; exact hid
    cases href : st.secretRefs.lookup (connectionId, slot) with
    | some ref =>
      have hbacked := hmatches.backed (connectionId, slot) (by rw [href]; exact Option.some_ne_none _)
      cases hcall : env.vault slot with
      | fails => exact .inl ⟨fun h => (by cases h.2.2), rfl⟩
      | notConfigured => exact .inl ⟨fun h => (by cases h.2.2), rfl⟩
      | executes =>
        refine .inr (.inl ⟨_, Option.some_ne_none _, hconnections, ?_⟩)
        rw [updateSecret_ok hbacked]
    | none =>
      have hfound : st.connections.lookup connectionId ≠ none := by
        rw [hconnection]; exact Option.some_ne_none _
      cases hcall : env.vault slot with
      | fails => exact .inl ⟨fun h => (by cases h.2.2), rfl⟩
      | notConfigured => exact .inl ⟨fun h => (by cases h.2.2), rfl⟩
      | executes =>
        refine .inr (.inr ⟨_, Option.some_ne_none _, rfl, rfl, hconnections, ?_⟩)
        rw [createSecret_ok (hmatches.vault_none hfound href)]

theorem setSecret_succeeds (hmatches : Matches st) (hfound : st.connections.lookup connectionId ≠ none)
    (value : String) : (setSecret {} connectionId slot value st).1 = .ok () := by
  obtain ⟨connection, hconnection⟩ := Option.ne_none_iff_exists'.mp hfound
  unfold setSecret
  dsimp only
  rw [hconnection]
  cases href : st.secretRefs.lookup (connectionId, slot) with
  | some ref =>
    have hbacked := hmatches.backed (connectionId, slot) (by rw [href]; exact Option.some_ne_none _)
    simp only [updateSecret_ok hbacked]
    rfl
  | none =>
    simp only [createSecret_ok (hmatches.vault_none hfound href)]
    rfl

variable {value : String}

theorem matches_insert {ref : IntegrationSecretRef} {connections : Table Uuid IntegrationConnection}
    (hmatches : Matches st)
    (hconnections : ∀ id, connections.lookup id ≠ none → st.connections.lookup id ≠ none) :
    Matches { st with
      vault := st.vault.insert path value
      connections := connections
      secretRefs := st.secretRefs.insert path ref } := by
  refine matches_at hmatches hconnections (fun _ => AList.lookup_insert_ne)
    (fun _ => AList.lookup_insert_ne) (iff_of_true ?_ ?_)
  · rw [AList.lookup_insert]
    exact Option.some_ne_none _
  · rw [AList.lookup_insert]
    exact Option.some_ne_none _

theorem matches_rotated (hmatches : Matches st) (href : st.secretRefs.lookup path ≠ none) :
    Matches { st with vault := st.vault.insert path value } := by
  refine matches_at hmatches (fun _ h => h) (fun _ => AList.lookup_insert_ne) (fun _ _ => rfl)
    (iff_of_true ?_ href)
  rw [AList.lookup_insert]
  exact Option.some_ne_none _

theorem setSecret_blocked {value' : String} (hfound : st.connections.lookup connectionId ≠ none)
    (href : st.secretRefs.lookup (connectionId, slot) = none) :
    (setSecret env connectionId slot value'
      { st with vault := st.vault.insert (connectionId, slot) value }).1 ≠ .ok () := by
  obtain ⟨connection, hconnection⟩ := Option.ne_none_iff_exists'.mp hfound
  unfold setSecret
  dsimp only
  rw [hconnection, href]
  dsimp only
  have hcreate : ∃ exc, createSecret (env.vault slot) (connectionId, slot) value'
      (st.vault.insert (connectionId, slot) value) = .error exc := by
    unfold createSecret
    split
    · exact ⟨_, rfl⟩
    · exact ⟨_, rfl⟩
    · rw [AList.lookup_insert]
      exact ⟨_, rfl⟩
  obtain ⟨exc, hexc⟩ := hcreate
  rw [hexc]
  exact fun hok => by cases hok

theorem set_agrees (hmatches : Matches st) (value : String) :
    Decides st (.setSecret connectionId slot value, env) := by
  -- where vault and registry match afterwards, the secret can be set again
  have hretry : Matches (next st (.setSecret connectionId slot value, env)) →
      (∀ id, st.connections.lookup id ≠ none →
        (next st (.setSecret connectionId slot value, env)).connections.lookup id ≠ none) →
      Recovers st (.setSecret connectionId slot value, env) := fun hmatches' hkept hfound value' =>
    ⟨{}, setSecret_succeeds hmatches' (hkept connectionId hfound) value'⟩
  have hperform : perform st (.setSecret connectionId slot value, env) =
      setSecret env connectionId slot value st := rfl
  rcases setSecret_cases env connectionId slot value hmatches with
    ⟨hnot, hsame⟩ | ⟨connections, href, hconnections, heq⟩ |
      ⟨connections, hfound, href, hcall, hconnections, heq⟩
  · have hsame : next st (.setSecret connectionId slot value, env) = st := hsame
    have hmatches' : Matches (next st (.setSecret connectionId slot value, env)) := by
      rw [hsame]; exact hmatches
    exact decides_of_clean (fun hfound href hcall => absurd ⟨hfound, href, hcall⟩ hnot) hmatches'
      fun _ => hretry hmatches' fun id hid => by rw [hsame]; exact hid
  · have hclean : Clean st (.setSecret connectionId slot value, env) :=
      fun _ hnone => absurd hnone href
    rcases committed_cases env true _ st with ⟨-, -, hok⟩ | ⟨-, exc, herror⟩
    · have hmatches' : Matches (next st (.setSecret connectionId slot value, env)) := by
        rw [next, hperform, heq, hok]
        exact matches_insert hmatches hconnections
      refine decides_of_clean hclean hmatches' fun hfailed => ?_
      rw [hperform, heq, hok] at hfailed
      exact absurd hfailed not_failed_ok
    · -- the vault has the new value, under a path that the registry has
      have hmatches' : Matches (next st (.setSecret connectionId slot value, env)) := by
        rw [next, hperform, heq, herror]
        exact matches_rotated hmatches href
      refine decides_of_clean hclean hmatches' fun _ => hretry hmatches' fun id hid => ?_
      rw [next, hperform, heq, herror]
      exact hid
  · rcases committed_cases env true _ st with ⟨hcommits, -, hok⟩ | ⟨hrefused, exc, herror⟩
    · have hmatches' : Matches (next st (.setSecret connectionId slot value, env)) := by
        rw [next, hperform, heq, hok]
        exact matches_insert hmatches hconnections
      refine decides_of_clean (fun _ _ _ => hcommits) hmatches' fun hfailed => ?_
      rw [hperform, heq, hok] at hfailed
      exact absurd hfailed not_failed_ok
    · -- the vault has a secret that no ref names, so no call can create it
      have hcommits : env.commits = false := hrefused.resolve_right (by simp)
      have hnot : ¬ Clean st (.setSecret connectionId slot value, env) := by
        intro hclean
        have htrue : env.commits = true := hclean hfound href hcall
        rw [hcommits] at htrue
        cases htrue
      refine decides_of_not_clean hnot fun hagrees => ?_
      have hfailed : Failed (perform st (.setSecret connectionId slot value, env)).1 := by
        rw [hperform, heq, herror]
        exact ⟨exc, rfl⟩
      obtain ⟨env', hagain⟩ := hagrees.failed hfailed hfound value
      rw [next, hperform, heq, herror] at hagain
      exact absurd hagain (setSecret_blocked hfound href)

/-! ### Every run -/

theorem agrees_iff (hmatches : Matches st) (a : Action × Env) : Decides st a := by
  obtain ⟨action, env⟩ := a
  cases action with
  | create id tenantId =>
    exact decides_of_clean trivial (create_agrees hmatches id tenantId) fun _ => trivial
  | setSecret connectionId slot value => exact set_agrees hmatches value
  | removeSecret connectionId slot => exact remove_agrees hmatches
  | deleteConnection connectionId confirm => exact delete_agrees hmatches confirm
  | call connectionId =>
    exact decides_of_clean trivial (call_agrees hmatches connectionId) fun _ => trivial

theorem matches_start : Matches {} :=
  ⟨fun _ href => absurd rfl href, fun _ hconnection => absurd rfl hconnection⟩

/-- **Vault and registry agree** along a run, whatever calls and commits fail in it, exactly
when no operation of it fails after a secret was created or deleted for it. -/
theorem vault_and_registry_agree (run : List (Action × Env)) :
    Along next Agrees {} run ↔ Along next Clean {} run := by
  have hstep : ∀ st a, Matches st → Clean st a → Matches (next st a) :=
    fun _ a hmatches hclean => (agrees_iff hmatches a).2 hclean
  have hiff : ∀ st a, Matches st → (Agrees st a ↔ Clean st a) :=
    fun _ a hmatches => (agrees_iff hmatches a).1
  exact Along.congr_of_invariant hstep hiff matches_start

/-- A connection with a secret that has been called: its deletion fails, and the secret is
gone. -/
theorem vault_and_registry_agree_refuted : ¬ ∀ run, Along next Agrees {} run := by
  intro hall
  have hlast := (hall [(.create 1 (some 7), {}), (.setSecret 1 .password "geheim", {}),
    (.call 1, {}), (.deleteConnection 1 true, {})]).2.2.2.1
  have href := hlast.backed (1, .password) (by decide +kernel)
  exact absurd href (by decide +kernel)

end Nexotec.Integration
