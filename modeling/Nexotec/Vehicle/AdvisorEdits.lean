/-
What an advisor entered in a configuration stays, over every sequence of PATCHes, fills and re-syncs
(`app/vehicle/services/configuration.py`, `configuration_host.py`, `catalogue_admin.py`).

* `Db`, `next` — the configurations beside the catalogue, one call after another; the catalogue and
  the reference lists may change in between in any way;
* `entered_next`, `entered_run` — what is entered stays until the field is sent or named;
* `filled_keeps`, `resynced` — one fill and one re-sync.

A cleared field stays empty, and its neighbour is filled: `clearedPower`.
-/
import Nexotec.Vehicle.Configurations

namespace Nexotec.Configurations

structure Db where
  around : Surroundings := {}
  configurations : Table Uuid VehicleConfiguration := ∅

/-- A call, or a change of what is read besides the configurations. -/
inductive Action where
  | update (id : Uuid) (now : Time) (actorId : Uuid) (data : ConfigurationUpdate)
  | fill (variantIds : List Uuid)
  | resync (id : Uuid) (actorId : Uuid) (fields : List String)
  | elsewhere (around : Surroundings)

/-- A call on one configuration: committed, or refused and rolled back. -/
def Db.commit (db : Db) (id : Uuid) (call : VehicleConfiguration → Result VehicleConfiguration) : Db :=
  match db.configurations.lookup id with
  | none => db
  | some configuration =>
    match call configuration with
    | .error _ => db
    | .ok new => { db with configurations := db.configurations.insert id new }

def next (db : Db) : Action → Db
  | .update id now actorId data => db.commit id (updateConfiguration db.around now actorId data)
  | .fill variantIds =>
    match fillNullSpecFieldsFromVariants db.around.variants variantIds db.configurations with
    | .error _ => db
    | .ok (configurations, _) => { db with configurations }
  | .resync id actorId fields => db.commit id (applyResync db.around actorId fields)
  | .elsewhere around => { db with around }

/-- The call is about the field of the configuration: a PATCH that sends it, or a re-sync that names
it. -/
def Action.touches (x : Uuid) (f : SpecField) : Action → Prop
  | .update id _ _ data => id = x ∧ data.spec f ≠ none
  | .resync id _ fields => id = x ∧ f.name ∈ fields
  | _ => False

section Calls
variable {db : Db} {x : Uuid} {configuration row : VehicleConfiguration} {f : SpecField}
  {P : VehicleConfiguration → Prop} {id : Uuid}
  {call : VehicleConfiguration → Result VehicleConfiguration}

theorem commit_keeps (hcall : ∀ c c', id = x → P c → call c = .ok c' → P c')
    (h : ∃ c, db.configurations.lookup x = some c ∧ P c) :
    ∃ c, (db.commit id call).configurations.lookup x = some c ∧ P c := by
  unfold Db.commit
  split
  · exact h
  · next c hc =>
    split
    · exact h
    · next new hnew =>
      dsimp only
      obtain ⟨d, hd, hP⟩ := h
      by_cases hid : x = id
      · subst hid
        obtain rfl : c = d := Option.mem_unique hc hd
        exact ⟨new, AList.lookup_insert db.configurations, hcall c new rfl hP hnew⟩
      · exact ⟨d, by rw [AList.lookup_insert_ne hid]; exact hd, hP⟩

theorem commit_lookup (hlookup : db.configurations.lookup id = some configuration)
    (h : call configuration = .ok row) :
    (db.commit id call).configurations.lookup id = some row := by
  unfold Db.commit
  rw [hlookup]
  dsimp only
  rw [h]
  exact AList.lookup_insert db.configurations

theorem fillRows_keeps {variants : Table Uuid ModelVariant}
    (hfill : ∀ c c', P c → fillConfiguration variants c = .ok (some c') → P c') (ids : List Uuid)
    {filled filled' : Table Uuid VehicleConfiguration × ℕ}
    (hrun : ids.foldlM (fillRow variants) filled = .ok filled')
    (h : ∃ c, filled.1.lookup x = some c ∧ P c) : ∃ c, filled'.1.lookup x = some c ∧ P c := by
  induction ids generalizing filled with
  | nil =>
    cases hrun
    exact h
  | cons id ids ih =>
    rw [List.foldlM_cons] at hrun
    obtain ⟨mid, hmid, hrest⟩ := Result.of_bind hrun
    refine ih hrest ?_
    unfold fillRow at hmid
    split at hmid
    · cases hmid
      exact h
    · next c hc =>
      split at hmid
      · cases hmid
      · cases hmid
        exact h
      · next new hnew =>
        cases hmid
        obtain ⟨d, hd, hP⟩ := h
        by_cases hid : x = id
        · subst hid
          obtain rfl : c = d := Option.mem_unique hc hd
          exact ⟨new, AList.lookup_insert filled.1, hfill c new hP hnew⟩
        · exact ⟨d, by rw [AList.lookup_insert_ne hid]; exact hd, hP⟩

theorem fill_keeps {variantIds : List Uuid}
    (hfill : ∀ c c', P c → fillConfiguration db.around.variants c = .ok (some c') → P c')
    (h : ∃ c, db.configurations.lookup x = some c ∧ P c) :
    ∃ c, (next db (.fill variantIds)).configurations.lookup x = some c ∧ P c := by
  unfold next
  dsimp only
  split
  · exact h
  · next filled changed hrun =>
    exact fillRows_keeps hfill _ hrun h

theorem filled_keeps {value : Value} (variantIds : List Uuid)
    (hlookup : db.configurations.lookup x = some configuration)
    (hvalue : configuration.spec f = some value) :
    ∃ c, (next db (.fill variantIds)).configurations.lookup x = some c ∧ c.spec f = some value := by
  refine fill_keeps (P := fun c => c.spec f = some value) (fun c c' hc hfill => ?_)
    ⟨configuration, hlookup, hvalue⟩
  obtain ⟨-, hkept⟩ := fillConfiguration_spec hfill
  rw [hkept f (Or.inr (by rw [hc]; exact Option.some_ne_none value))]
  exact hc

theorem resynced {around : Surroundings} {actorId : Uuid} {fields : List String}
    (h : applyResync around actorId fields configuration = .ok row) :
    ∃ variant preview, catalogueVariantOr409 around row = .ok variant ∧
      previewResync around row = .ok preview ∧
      ∀ name ∈ fields, ∃ f : SpecField, f.name = name ∧ row.spec f = variant.spec f ∧
        ∀ entry ∈ preview, entry.field ≠ f := by
  obtain ⟨⟨variantId, variant, -, hfound, hid, hcopied⟩, -, -⟩ := applyResync_spec h
  have hvariant : catalogueVariantOr409 around row = .ok variant := by
    unfold catalogueVariantOr409
    rw [hid]
    dsimp only
    rw [hfound]
  have hpreview : previewResync around row =
      .ok ((SpecField.all.filter fun f => row.spec f ≠ variant.spec f).map fun f =>
        ⟨f, row.spec f, variant.spec f, f ∈ row.overriddenFields⟩) := by
    unfold previewResync
    rw [hvariant]
    rfl
  refine ⟨variant, _, hvariant, hpreview, fun name hname => ?_⟩
  obtain ⟨f, rfl⟩ := applyResync_names h name hname
  refine ⟨f, rfl, hcopied f hname, fun entry hentry heq => ?_⟩
  obtain ⟨g, hg, rfl⟩ := List.mem_map.mp hentry
  obtain rfl : g = f := heq
  exact of_decide_eq_true (List.mem_filter.mp hg).2 (hcopied g hname)

/-- The field is on the list, and its value is this one, which may be none. -/
structure Entered (f : SpecField) (value : Option Value) (configuration : VehicleConfiguration) : Prop where
  listed : f ∈ configuration.overriddenFields
  kept : configuration.spec f = value

variable {value : Option Value}

theorem entered_next (hblock : f ∈ specBlockFields) (action : Action)
    (huntouched : ¬action.touches x f)
    (h : ∃ c, db.configurations.lookup x = some c ∧ Entered f value c) :
    ∃ c, (next db action).configurations.lookup x = some c ∧ Entered f value c := by
  cases action with
  | update id now actorId data =>
    refine commit_keeps (fun c c' hid hentered hcall => ?_) h
    have hunsent : data.spec f = none := not_not.mp fun hsent => huntouched ⟨hid, hsent⟩
    have hpatched := updateConfiguration_spec hcall
    exact ⟨hpatched.grows f hentered.listed, (hpatched.unsent f hblock hunsent).trans hentered.kept⟩
  | fill variantIds =>
    refine fill_keeps (fun c c' hentered hfill => ?_) h
    obtain ⟨hlist, hkept⟩ := fillConfiguration_spec hfill
    -- on the list, so skipped even when it is empty
    exact ⟨by rw [hlist]; exact hentered.listed,
      (hkept f (Or.inl hentered.listed)).trans hentered.kept⟩
  | resync id actorId fields =>
    refine commit_keeps (fun c c' hid hentered hcall => ?_) h
    have hunnamed : f.name ∉ fields := fun hname => huntouched ⟨hid, hname⟩
    obtain ⟨-, hothers, hlist⟩ := applyResync_spec hcall
    refine ⟨?_, (hothers f hunnamed).trans hentered.kept⟩
    rw [hlist, List.mem_filter]
    exact ⟨hentered.listed, decide_eq_true hunnamed⟩
  | elsewhere around => exact h

theorem entered_run (hblock : f ∈ specBlockFields) {actions : List Action}
    (huntouched : ∀ action ∈ actions, ¬action.touches x f)
    (h : ∃ c, db.configurations.lookup x = some c ∧ Entered f value c) :
    ∃ c, (actions.foldl next db).configurations.lookup x = some c ∧ Entered f value c := by
  induction actions generalizing db with
  | nil => exact h
  | cons action actions ih =>
    exact ih (fun a ha => huntouched a (List.mem_cons_of_mem action ha))
      (entered_next hblock action (huntouched action List.mem_cons_self) h)

end Calls

/-- **An advisor's edits survive.**  After any calls: what a PATCH changed while a variant was set, to a
value or to none, keeps what its column made of it through all calls that neither send the field nor
name it; a fill changes nothing that is set; and after a re-sync the chosen fields are the variant's
and no longer previewed. -/
theorem edits_survive (start : Db) (before : List Action) (x : Uuid)
    (configuration : VehicleConfiguration)
    (hlookup : (before.foldl next start).configurations.lookup x = some configuration) :
    (∀ now actorId data row, configuration.catalogueVariantId ≠ none →
      updateConfiguration (before.foldl next start).around now actorId data configuration = .ok row →
      ∀ f ∈ specBlockFields, ∀ new, data.spec f = some new → new ≠ configuration.spec f →
      ∀ after : List Action, (∀ action ∈ after, ¬action.touches x f) →
      ∃ c, ((before ++ Action.update x now actorId data :: after).foldl next start).configurations.lookup x =
        some c ∧ c.spec f = new.bind f.column.hold) ∧
    (∀ variantIds f value, configuration.spec f = some value →
      ∃ c, ((before ++ [Action.fill variantIds]).foldl next start).configurations.lookup x = some c ∧
        c.spec f = some value) ∧ (∀ actorId fields row,
      applyResync (before.foldl next start).around actorId fields configuration = .ok row →
      ((before ++ [Action.resync x actorId fields]).foldl next start).configurations.lookup x = some row ∧
      ∃ variant preview, catalogueVariantOr409 (before.foldl next start).around row = .ok variant ∧
        previewResync (before.foldl next start).around row = .ok preview ∧
        ∀ name ∈ fields, ∃ f : SpecField, f.name = name ∧ row.spec f = variant.spec f ∧
          ∀ entry ∈ preview, entry.field ≠ f) := by
  refine ⟨?_, ?_, ?_⟩
  · intro now actorId data row hvariant hupdate f hblock new hsent hne after huntouched
    have hpatched := updateConfiguration_spec hupdate
    have hentered : Entered f (new.bind f.column.hold) row :=
      ⟨hpatched.listed f hblock new hsent (Ne.symm hne) hvariant,
        hpatched.sent f hblock new hsent (Ne.symm hne)⟩
    rw [List.foldl_append, List.foldl_cons]
    obtain ⟨c, hc, hkept⟩ := entered_run hblock huntouched ⟨row, commit_lookup hlookup hupdate, hentered⟩
    exact ⟨c, hc, hkept.kept⟩
  · intro variantIds f value hvalue
    rw [List.foldl_append]
    exact filled_keeps variantIds hlookup hvalue
  · intro actorId fields row hresync
    rw [List.foldl_append]
    exact ⟨commit_lookup hlookup hresync, resynced hresync⟩

/-- A variant of which the power is known in PS, and later in kW too. -/
def variantWith (kw : Option ℤ) : ModelVariant where
  name := "320d"
  spec := fun f => match f with
    | .ps => some (.number 204)
    | .kw => kw.bind fun n => if n = 150 then some (.number n) else none
    | _ => none
  held := fun f value h => by
    cases f <;> dsimp only at h
    case ps => cases h; rfl
    case kw =>
      obtain ⟨n, -, h⟩ := Option.bind_eq_some_iff.mp h
      split at h
      · next hn =>
        cases h
        subst hn
        rfl
      · cases h
    all_goals cases h

def car : VehicleConfiguration where
  tenantId := 1
  source := .provider
  mode := .build
  catalogueMatchStatus := .matched
  matchMethod := .catalogueBrowse
  catalogueVariantId := some 3
  spec := (variantWith none).spec

def around (kw : Option ℤ) : Surroundings where
  variants := AList.insert 3 (variantWith kw) ∅

def oneCar : Db where
  around := around none
  configurations := AList.insert 7 car ∅

def clearing : ConfigurationUpdate where
  spec := fun f => if f = .ps then some none else none

def later : List Action := [.elsewhere (around (some 150)), .fill [3]]

theorem clearedPower :
    ∃ c, ((Action.update 7 0 2 clearing :: later).foldl next oneCar).configurations.lookup 7 = some c ∧
      c.spec .ps = none :=
  (edits_survive oneCar [] 7 car rfl).1 0 2 clearing _ (by decide) rfl .ps (by decide) none rfl
    (by decide) later fun action haction => by
      rcases List.mem_cons.mp haction with rfl | haction
      · exact id
      · rw [List.mem_singleton.mp haction]
        exact id

/-- The fill is not idle: it sets the kW. -/
example : (((Action.update 7 0 2 clearing :: later).foldl next oneCar).configurations.lookup 7).map
    (fun c => (c.spec .ps, c.spec .kw, c.overriddenFields)) =
      some (none, some (.number 150), [.ps]) := by
  decide +kernel

end Nexotec.Configurations
