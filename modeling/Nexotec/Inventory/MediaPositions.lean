/-
The pictures of a stock item (`app/inventory/services/publishing.py`,
`app/inventory/models/stock_item_publishing.py`).

`add_media` counts and inserts, `reorder_media` lists and renumbers in two flushes, and
`remove_media` reads a picture, deletes it and closes the gap.  Between its reads and its
commit other sessions may commit; a row deleted in an open transaction makes the others that
want it, or its position, wait.
-/
import Mathlib.Data.List.Sort
import Nexotec.Core.Base
import Nexotec.Lib.Interleaving
import Nexotec.Lib.SlotWrites

namespace Nexotec.MediaPositions

open Interleaving

/-! ### Pictures -/

def maxAdditionalMedia : ℕ := 15

/-- A row of `stock_item_media`. -/
structure StockItemMedia where
  id : Uuid
  tenantId : Uuid
  stockItemId : Uuid
  position : ℕ
  url : String
  deriving DecidableEq

abbrev StockItemMedia.slot (m : StockItemMedia) : Uuid × ℕ := (m.stockItemId, m.position)

def StockItemMedia.moveTo (position : ℕ) (m : StockItemMedia) : StockItemMedia :=
  { m with position := position }

theorem StockItemMedia.moveTo_id (position : ℕ) (m : StockItemMedia) :
    (m.moveTo position).id = m.id := rfl

/-- `list_media`, for the item's own tenant. -/
def listMedia (tenantOf : Uuid → Uuid) (stockItemId : Uuid) (media : List StockItemMedia) :
    List StockItemMedia :=
  (media.filter fun m => m.tenantId = tenantOf stockItemId ∧ m.stockItemId = stockItemId).insertionSort
    (·.position ≤ ·.position)

/-- The `UPDATE`s of a flush: in the order of the ids, each to a free position, and all of
them to rows that are there. -/
def flushPositions (updates : List (Uuid × ℕ)) (media : List StockItemMedia) :
    Result (List StockItemMedia) :=
  match SlotWrites.writes (·.id) (·.slot) StockItemMedia.moveTo
      (updates.insertionSort (·.1 ≤ ·.1)) media with
  | none => .error (internalError "IntegrityError")
  | some media' =>
    if ∀ u ∈ updates, u.1 ∈ media.map (·.id) then .ok media'
    else .error (internalError "StaleDataError")

/-! ### The calls -/

/-- The check of `add_media`. -/
def checkRoom (stockItemId : Uuid) (existing : List StockItemMedia) : Result Unit :=
  if existing.length ≥ 1 + maxAdditionalMedia then
    .error (conflictError
      s!"A stock item may carry at most {1 + maxAdditionalMedia} images (1 main + {maxAdditionalMedia} additional)."
      [("stockItemId", toString stockItemId)])
  else .ok ()

/-- The insert of `add_media`. -/
def insertMedia (m : StockItemMedia) (media : List StockItemMedia) : Result (List StockItemMedia) :=
  if m.slot ∈ media.map (·.slot) then .error (internalError "IntegrityError")
  else .ok (media ++ [m])

/-- The check of `reorder_media`: the two are equal as sets. -/
def checkNames (orderedMediaIds : List Uuid) (existing : List StockItemMedia) : Result Unit :=
  if (∀ id ∈ orderedMediaIds, id ∈ existing.map (·.id)) ∧ ∀ m ∈ existing, m.id ∈ orderedMediaIds then
    .ok ()
  else .error (badRequestError "ordered_media_ids must name every existing image exactly once.")

/-- The first pass of `reorder_media`, out of the way. -/
def raised (existing : List StockItemMedia) : List (Uuid × ℕ) :=
  existing.map fun m => (m.id, m.position + 1000)

/-- The position the second pass assigns: of an id's places in the list the last one counts. -/
def newPosition (orderedMediaIds : List Uuid) (id : Uuid) : ℕ :=
  orderedMediaIds.length - orderedMediaIds.reverse.idxOf id

def renumbered (orderedMediaIds : List Uuid) (existing : List StockItemMedia) : List (Uuid × ℕ) :=
  existing.map fun m => (m.id, newPosition orderedMediaIds m.id)

/-- The two passes of `reorder_media`. -/
def reorderMedia (orderedMediaIds : List Uuid) (existing media : List StockItemMedia) :
    Result (List StockItemMedia) := do
  let media ← flushPositions (raised existing) media
  flushPositions (renumbered orderedMediaIds existing) media

/-- What `remove_media` does to those above the position it has read. -/
def closing (removedPosition : ℕ) (listed : List StockItemMedia) : List (Uuid × ℕ) :=
  (listed.filter (removedPosition < ·.position)).map fun m => (m.id, m.position - 1)

/-! ### Sessions -/

inductive Call where
  | add (stockItemId : Uuid) (url : String)
  | reorder (stockItemId : Uuid) (orderedMediaIds : List Uuid)
  | remove (stockItemId mediaId : Uuid)

/-- What a call was answered, with the pictures before and after. -/
structure Answer where
  call : Call
  before : List StockItemMedia
  after : List StockItemMedia
  result : Result Unit

/-- The table, the ids ever drawn, and the rows that open transactions have deleted. -/
structure Shared where
  media : List StockItemMedia := []
  drawn : List Uuid := []
  deleting : List Uuid := []
  answers : List Answer := []

/-- A session between calls, or what it has read of a call. -/
inductive Local where
  | idle
  | adding (stockItemId : Uuid) (url : String) (count : ℕ)
  | reordering (stockItemId : Uuid) (orderedMediaIds : List Uuid) (existing : List StockItemMedia)
  | removing (stockItemId : Uuid) (target : StockItemMedia)
  | gapClosing (stockItemId : Uuid) (target : StockItemMedia) (listed : List StockItemMedia)

/-- What a session does next: it takes a call and reads, it deletes, it writes and commits (an
addition under an id it draws), or it is rolled back. -/
inductive Move where
  | call (c : Call)
  | delete
  | commit (drawn : Uuid)
  | abandon

def Shared.refuse (sh : Shared) (c : Call) (e : AppError) : Shared :=
  { sh with answers := ⟨c, sh.media, sh.media, .error e⟩ :: sh.answers }

def Shared.finish (sh : Shared) (c : Call) : Result (List StockItemMedia) → Shared
  | .error e => sh.refuse c e
  | .ok media => { sh with media := media, answers := ⟨c, sh.media, media, .ok ()⟩ :: sh.answers }

def Shared.draw (sh : Shared) (id : Uuid) : Shared := { sh with drawn := id :: sh.drawn }

def Shared.release (sh : Shared) (id : Uuid) : Shared :=
  { sh with deleting := sh.deleting.filter (· ≠ id) }

/-- The statement meets a row that another transaction has deleted. -/
def Shared.waits (sh : Shared) (own : Option Uuid) (stockItemId : Uuid) (updates : List (Uuid × ℕ)) :
    Prop :=
  ∃ m ∈ sh.media, m.id ∈ sh.deleting ∧ some m.id ≠ own ∧
    ∃ u ∈ updates, u.1 = m.id ∨ (stockItemId, u.2) = m.slot

instance (sh : Shared) (own : Option Uuid) (stockItemId : Uuid) (updates : List (Uuid × ℕ)) :
    Decidable (sh.waits own stockItemId updates) :=
  inferInstanceAs (Decidable (∃ m ∈ sh.media, _ ∧ _ ∧ ∃ u ∈ updates, _))

section

variable (tenantOf : Uuid → Uuid)

def begin (c : Call) (sh : Shared) : Shared × Local :=
  match c with
  | .add stockItemId url =>
    match checkRoom stockItemId (listMedia tenantOf stockItemId sh.media) with
    | .error e => (sh.refuse c e, .idle)
    | .ok () => (sh, .adding stockItemId url (listMedia tenantOf stockItemId sh.media).length)
  | .reorder stockItemId orderedMediaIds =>
    match checkNames orderedMediaIds (listMedia tenantOf stockItemId sh.media) with
    | .error e => (sh.refuse c e, .idle)
    | .ok () =>
      (sh, .reordering stockItemId orderedMediaIds (listMedia tenantOf stockItemId sh.media))
  | .remove stockItemId mediaId =>
    match sh.media.find? (·.id = mediaId) with
    | none => (sh.finish c (.ok sh.media), .idle)
    | some target =>
      if target.stockItemId ≠ stockItemId then (sh.finish c (.ok sh.media), .idle)
      else (sh, .removing stockItemId target)

/-- The `DELETE` of `remove_media` and its list of the pictures that are left. -/
def delete (stockItemId : Uuid) (target : StockItemMedia) (sh : Shared) : Shared × Local :=
  ({ sh with
      deleting := if target.id ∈ sh.media.map (·.id) then target.id :: sh.deleting else sh.deleting },
    .gapClosing stockItemId target
      (listMedia tenantOf stockItemId (sh.media.filter (·.id ≠ target.id))))

/-- Any number of sessions, each with call after call. -/
def step {ι : Type} (_ : ι) (move : Move) (sh : Shared) (lo : Local) : Option (Shared × Local) :=
  match move, lo with
  | .call c, .idle => some (begin tenantOf c sh)
  | .delete, .removing stockItemId target =>
    if target.id ∈ sh.deleting then none else some (delete tenantOf stockItemId target sh)
  | .commit drawn, .adding stockItemId url count =>
    let m : StockItemMedia := ⟨drawn, tenantOf stockItemId, stockItemId, count + 1, url⟩
    if drawn ∈ sh.drawn ∨ sh.waits none stockItemId [(drawn, count + 1)] then none
    else
      some ((sh.finish (.add stockItemId url) (insertMedia m sh.media)).draw drawn, .idle)
  | .commit _, .reordering stockItemId orderedMediaIds existing =>
    if sh.waits none stockItemId (raised existing ++ renumbered orderedMediaIds existing) then none
    else
      some (sh.finish (.reorder stockItemId orderedMediaIds)
        (reorderMedia orderedMediaIds existing sh.media), .idle)
  | .commit _, .gapClosing stockItemId target listed =>
    if sh.waits (some target.id) stockItemId (closing target.position listed) then none
    else
      some ((sh.finish (.remove stockItemId target.id)
        (flushPositions (closing target.position listed)
          (sh.media.filter (·.id ≠ target.id)))).release target.id, .idle)
  | .abandon, .gapClosing _ target _ => some (sh.release target.id, .idle)
  | .abandon, .idle => none
  | .abandon, _ => some (sh, .idle)
  | _, _ => none

end

/-! ### What is kept -/

def count (stockItemId : Uuid) (media : List StockItemMedia) : ℕ :=
  media.countP (·.stockItemId = stockItemId)

def positions (stockItemId : Uuid) (media : List StockItemMedia) : List ℕ :=
  (media.filter (·.stockItemId = stockItemId)).map (·.position)

def idsOf (stockItemId : Uuid) (media : List StockItemMedia) : List Uuid :=
  (media.filter (·.stockItemId = stockItemId)).map (·.id)

/-- The positions of an item's pictures are `1..N`, and `N` is at most 16. -/
def Dense (stockItemId : Uuid) (media : List StockItemMedia) : Prop :=
  (positions stockItemId media).Perm (List.range' 1 (count stockItemId media)) ∧
    count stockItemId media ≤ 16

instance (stockItemId : Uuid) (media : List StockItemMedia) : Decidable (Dense stockItemId media) :=
  inferInstanceAs (Decidable (_ ∧ _))

/-- A refused call changes nothing; a reorder succeeds just when its list names every picture
once, and then they stand in the order of the list. -/
def AnswerSound (a : Answer) : Prop :=
  (∀ e, a.result = .error e → a.after = a.before) ∧
  ∀ stockItemId orderedMediaIds, a.call = .reorder stockItemId orderedMediaIds →
    (a.result = .ok () ↔ orderedMediaIds.Perm (idsOf stockItemId a.before)) ∧
    (a.result = .ok () → ∀ i id, orderedMediaIds[i]? = some id →
      ∃ m ∈ a.after, m.stockItemId = stockItemId ∧ m.id = id ∧ m.position = i + 1)

/-- **Positions are dense**, and calls answer for what they do. -/
structure MediaSound (sh : Shared) : Prop where
  dense : ∀ stockItemId, Dense stockItemId sh.media
  answers : ∀ a ∈ sh.answers, AnswerSound a

/-- The moves that keep it so.  An addition finds as many pictures as it has counted, or more.  A
reorder repeats no picture and misses none.  A removal finds each other picture as it has listed
it, and the last one now is the picture it removes or one that it renumbers; or one that it is
to renumber has gone. -/
def Keeps (sh : Shared) : Local → Move → Prop
  | .adding stockItemId _ counted, .commit _ => counted ≤ count stockItemId sh.media
  | .reordering stockItemId orderedMediaIds existing, .commit _ =>
    orderedMediaIds.Nodup ∧
      ∀ m ∈ sh.media, m.stockItemId = stockItemId → m.id ∈ existing.map (·.id)
  | .gapClosing stockItemId target listed, .commit _ =>
    (∃ l ∈ listed, target.position < l.position ∧ l.id ∉ sh.media.map (·.id)) ∨
      (∀ m ∈ sh.media, m.stockItemId = stockItemId → m.id ≠ target.id →
        ∃ l ∈ listed, l.id = m.id ∧ l.position = m.position) ∧
      (∀ m ∈ sh.media, m.id = target.id →
        m.position = count stockItemId sh.media ∨ target.position < count stockItemId sh.media)
  | _, _ => True

instance (sh : Shared) : ∀ (lo : Local) (ch : Move), Decidable (Keeps sh lo ch)
  | .adding .., .commit _ => inferInstanceAs (Decidable (_ ≤ _))
  | .reordering .., .commit _ => inferInstanceAs (Decidable (_ ∧ _))
  | .gapClosing .., .commit _ => inferInstanceAs (Decidable ((∃ l ∈ _, _) ∨ _))
  | .idle, _ | .removing .., _ => inferInstanceAs (Decidable True)
  | .adding .., .call _ | .adding .., .delete | .adding .., .abandon =>
    inferInstanceAs (Decidable True)
  | .reordering .., .call _ | .reordering .., .delete | .reordering .., .abandon =>
    inferInstanceAs (Decidable True)
  | .gapClosing .., .call _ | .gapClosing .., .delete | .gapClosing .., .abandon =>
    inferInstanceAs (Decidable True)

section

variable {media media' : List StockItemMedia} {updates : List (Uuid × ℕ)} {stockItemId : Uuid}

/-- What the constraints of the table keep. -/
structure Rows (media : List StockItemMedia) : Prop where
  ids : (media.map (·.id)).Nodup
  slots : (media.map (·.slot)).Nodup

/-- Positions from `1` to the number of the item's pictures. -/
def InRange (media : List StockItemMedia) : Prop :=
  ∀ m ∈ media, 1 ≤ m.position ∧ m.position ≤ count m.stockItemId media

theorem length_filter_item :
    (media.filter (·.stockItemId = stockItemId)).length = count stockItemId media :=
  List.countP_eq_length_filter.symm

theorem dense_of_inRange (hrows : Rows media) (hrange : InRange media)
    (hfew : count stockItemId media ≤ 16) : Dense stockItemId media := by
  have hnodup : (positions stockItemId media).Nodup := by
    refine ((hrows.ids.of_map _).filter _).map_on fun a ha b hb heq => ?_
    obtain ⟨ha, haitem⟩ := List.mem_filter.mp ha
    obtain ⟨hb, hbitem⟩ := List.mem_filter.mp hb
    have hslot : a.slot = b.slot :=
      Prod.ext ((of_decide_eq_true haitem).trans (of_decide_eq_true hbitem).symm) heq
    exact List.inj_on_of_nodup_map hrows.slots ha hb hslot
  have hlength : (positions stockItemId media).length = count stockItemId media := by
    rw [positions, List.length_map, length_filter_item]
  refine ⟨?_, hfew⟩
  rw [← hlength]
  refine SlotWrites.perm_range' hnodup fun n hn => ?_
  obtain ⟨m, hm, rfl⟩ := List.mem_map.mp hn
  obtain ⟨hm, hitem⟩ := List.mem_filter.mp hm
  rw [hlength, ← of_decide_eq_true hitem]
  exact hrange m hm

theorem flush_ok (hkeys : (updates.map Prod.fst).Nodup)
    (h : flushPositions updates media = .ok media') : (∀ u ∈ updates, u.1 ∈ media.map (·.id)) ∧
    ((media.map (·.slot)).Nodup → (media'.map (·.slot)).Nodup) ∧
    ∃ position : StockItemMedia → ℕ, media' = media.map (fun m => m.moveTo (position m)) ∧
      (∀ u ∈ updates, ∀ m ∈ media, m.id = u.1 → position m = u.2) ∧
      ∀ m ∈ media, m.id ∉ updates.map Prod.fst → position m = m.position := by
  unfold flushPositions at h
  split at h
  · cases h
  · next media'' hwrites =>
    split at h
    · next hthere =>
      cases h
      have hperm := List.perm_insertionSort (fun a b : Uuid × ℕ => a.1 ≤ b.1) updates
      have hsorted : ((updates.insertionSort (·.1 ≤ ·.1)).map Prod.fst).Nodup :=
        (hperm.map Prod.fst).nodup_iff.mpr hkeys
      have heq := SlotWrites.writes_eq StockItemMedia.moveTo_id hsorted hwrites
      refine ⟨hthere, fun hslots => SlotWrites.writes_nodup hslots hwrites,
        fun m => ((updates.insertionSort (·.1 ≤ ·.1)).lookup m.id).getD m.position, ?_, ?_, ?_⟩
      · rw [heq]
        refine List.map_congr_left fun m _ => ?_
        dsimp only
        cases (updates.insertionSort (·.1 ≤ ·.1)).lookup m.id with
        | none => rfl
        | some position => rfl
      · rintro ⟨id, position⟩ hu m _ hid
        have hfound : (updates.insertionSort (·.1 ≤ ·.1)).lookup m.id = some position := by
          rw [hid]
          exact SlotWrites.lookup_of_mem hsorted (hperm.mem_iff.mpr hu)
        dsimp only
        rw [hfound]
        rfl
      · intro m _ hnot
        have hnone : (updates.insertionSort (·.1 ≤ ·.1)).lookup m.id = none := by
          refine SlotWrites.lookup_of_notMem ?_
          rw [(hperm.map Prod.fst).mem_iff]
          exact hnot
        dsimp only
        rw [hnone]
        rfl
    · cases h

theorem flush_isOk (stockItemId : Uuid) (hrows : Rows media) (hkeys : (updates.map Prod.fst).Nodup)
    (htargets : (updates.map Prod.snd).Nodup) (hthere : ∀ u ∈ updates, u.1 ∈ media.map (·.id))
    (hitem : ∀ u ∈ updates, ∀ m ∈ media, m.id = u.1 → m.stockItemId = stockItemId)
    (hfree : ∀ u ∈ updates, ∀ m ∈ media, m.stockItemId = stockItemId → m.position ≠ u.2) :
    ∃ media', flushPositions updates media = .ok media' := by
  have hperm := List.perm_insertionSort (fun a b : Uuid × ℕ => a.1 ≤ b.1) updates
  have hwrites : ∃ media', SlotWrites.writes (·.id) (·.slot) StockItemMedia.moveTo
      (updates.insertionSort (·.1 ≤ ·.1)) media = some media' := by
    refine SlotWrites.writes_isSome (t := fun u => (stockItemId, u.2)) StockItemMedia.moveTo_id
      hrows.ids hrows.slots ((hperm.map Prod.fst).nodup_iff.mpr hkeys) ?_ ?_ ?_
    · have hmap : ((updates.insertionSort (·.1 ≤ ·.1)).map fun u => (stockItemId, u.2)) =
          ((updates.insertionSort (·.1 ≤ ·.1)).map Prod.snd).map (Prod.mk stockItemId) := by
        rw [List.map_map]
        rfl
      rw [hmap]
      exact ((hperm.map Prod.snd).nodup_iff.mpr htargets).map (Prod.mk_right_injective stockItemId)
    · intro u hu m hm hid
      exact Prod.ext (hitem u (hperm.mem_iff.mp hu) m hm hid) rfl
    · intro u hu hmem
      obtain ⟨m, hm, hslot⟩ := List.mem_map.mp hmem
      exact hfree u (hperm.mem_iff.mp hu) m hm (congrArg Prod.fst hslot) (congrArg Prod.snd hslot)
  obtain ⟨media', hwrites⟩ := hwrites
  refine ⟨media', ?_⟩
  unfold flushPositions
  rw [hwrites]
  exact if_pos hthere

/-! #### Pictures that move or go -/

theorem count_moveTo (position : StockItemMedia → ℕ) :
    count stockItemId (media.map fun m => m.moveTo (position m)) = count stockItemId media := by
  unfold count
  rw [List.countP_map]
  rfl

variable {position : StockItemMedia → ℕ}

theorem rows_moveTo (hrows : Rows media)
    (hslots : ((media.map fun m => m.moveTo (position m)).map (·.slot)).Nodup) :
    Rows (media.map fun m => m.moveTo (position m)) := by
  refine ⟨?_, hslots⟩
  rw [List.map_map]
  exact hrows.ids

theorem inRange_moveTo (h : ∀ m ∈ media, 1 ≤ position m ∧ position m ≤ count m.stockItemId media) :
    InRange (media.map fun m => m.moveTo (position m)) := by
  intro m hm
  obtain ⟨old, hold, rfl⟩ := List.mem_map.mp hm
  rw [count_moveTo]
  exact h old hold

theorem rows_filter (hrows : Rows media) (p : StockItemMedia → Bool) : Rows (media.filter p) :=
  ⟨hrows.ids.sublist (List.filter_sublist.map _), hrows.slots.sublist (List.filter_sublist.map _)⟩

theorem count_erase (hrows : Rows media) {target : StockItemMedia} (htarget : target ∈ media) :
    count target.stockItemId (media.filter (·.id ≠ target.id)) + 1 =
      count target.stockItemId media := by
  have hfilter : media.filter (fun m => decide (m.id ≠ target.id)) = media.erase target := by
    rw [(hrows.ids.of_map _).erase_eq_filter]
    refine List.filter_congr fun m hm => ?_
    have hiff : m.id ≠ target.id ↔ m ≠ target :=
      not_congr ⟨fun hid => List.inj_on_of_nodup_map hrows.ids hm htarget hid, fun h => h ▸ rfl⟩
    rw [Bool.eq_iff_iff]
    simpa using hiff
  unfold count
  rw [hfilter, (List.perm_cons_erase htarget).countP_eq, List.countP_cons_of_pos]
  simp

theorem count_erase_of_ne {id : Uuid} (h : ∀ m ∈ media, m.id = id → m.stockItemId ≠ stockItemId) :
    count stockItemId (media.filter (·.id ≠ id)) = count stockItemId media := by
  unfold count
  rw [List.countP_filter]
  refine List.countP_congr fun m hm => ?_
  have hid : m.stockItemId = stockItemId → m.id ≠ id := fun hitem hid => h m hm hid hitem
  simpa using hid

end

/-! #### The invariant -/

section

variable {tenantOf : Uuid → Uuid} {sh sh' : Shared} {stockItemId : Uuid}

/-- What holds of the table in every committed state. -/
structure TableInv (tenantOf : Uuid → Uuid) (drawn : List Uuid) (media : List StockItemMedia) :
    Prop where
  rows : Rows media
  inRange : InRange media
  few : ∀ stockItemId, count stockItemId media ≤ 16
  tenants : ∀ m ∈ media, m.tenantId = tenantOf m.stockItemId
  drawn : ∀ m ∈ media, m.id ∈ drawn

structure MediaInv (tenantOf : Uuid → Uuid) (sh : Shared) : Prop where
  table : TableInv tenantOf sh.drawn sh.media
  answers : ∀ a ∈ sh.answers, AnswerSound a

theorem MediaInv.sound (h : MediaInv tenantOf sh) : MediaSound sh :=
  ⟨fun stockItemId => dense_of_inRange h.table.rows h.table.inRange (h.table.few stockItemId),
    h.answers⟩

def Owned (sh : Shared) (stockItemId id : Uuid) : Prop :=
  id ∈ sh.drawn ∧ ∀ m ∈ sh.media, m.id = id → m.stockItemId = stockItemId

/-- Pictures of the item that were listed from one committed state. -/
structure Listed (sh : Shared) (stockItemId : Uuid) (listed : List StockItemMedia) : Prop where
  ids : (listed.map (·.id)).Nodup
  positions : (listed.map (·.position)).Nodup
  few : ∀ l ∈ listed, l.position ≤ 16
  owned : ∀ l ∈ listed, Owned sh stockItemId l.id

def Knows (sh : Shared) : Local → Prop
  | .idle => True
  | .adding _ _ counted => counted ≤ 15
  | .reordering stockItemId orderedMediaIds existing =>
    Listed sh stockItemId existing ∧
      ∀ id, id ∈ orderedMediaIds ↔ id ∈ existing.map (·.id)
  | .removing stockItemId target =>
    target.stockItemId = stockItemId ∧ 1 ≤ target.position ∧ Owned sh stockItemId target.id
  | .gapClosing stockItemId target listed =>
    (target.stockItemId = stockItemId ∧ 1 ≤ target.position ∧ Owned sh stockItemId target.id) ∧
      Listed sh stockItemId listed

/-- Pictures stay with their item, and ids are drawn once. -/
def Grows (sh sh' : Shared) : Prop :=
  (∀ id ∈ sh.drawn, id ∈ sh'.drawn) ∧
    ∀ m' ∈ sh'.media, m'.id ∈ sh.drawn →
      ∃ m ∈ sh.media, m.id = m'.id ∧ m.stockItemId = m'.stockItemId

theorem Owned.grows {id : Uuid} (h : Owned sh stockItemId id) (hgrows : Grows sh sh') :
    Owned sh' stockItemId id := by
  refine ⟨hgrows.1 id h.1, ?_⟩
  rintro m' hm' rfl
  obtain ⟨m, hm, hid, hitem⟩ := hgrows.2 m' hm' h.1
  rw [← hitem]
  exact h.2 m hm hid

variable {listed : List StockItemMedia}

theorem Listed.grows (h : Listed sh stockItemId listed) (hgrows : Grows sh sh') :
    Listed sh' stockItemId listed :=
  ⟨h.ids, h.positions, h.few, fun l hl => (h.owned l hl).grows hgrows⟩

variable {lo : Local}

theorem Knows.grows (h : Knows sh lo) (hgrows : Grows sh sh') : Knows sh' lo := by
  cases lo with
  | idle => trivial
  | adding stockItemId url counted => exact h
  | reordering stockItemId ids existing => exact ⟨h.1.grows hgrows, h.2⟩
  | removing stockItemId target => exact ⟨h.1, h.2.1, h.2.2.grows hgrows⟩
  | gapClosing stockItemId target listed =>
    exact ⟨⟨h.1.1, h.1.2.1, h.1.2.2.grows hgrows⟩, h.2.grows hgrows⟩

theorem grows_of_media_eq (hmedia : sh'.media = sh.media) (hdrawn : sh'.drawn = sh.drawn) :
    Grows sh sh' := by
  refine ⟨fun id hid => hdrawn ▸ hid, fun m' hm' _ => ?_⟩
  rw [hmedia] at hm'
  exact ⟨m', hm', rfl, rfl⟩

variable {media : List StockItemMedia} {m : StockItemMedia}

theorem mem_listMedia (htenants : ∀ m ∈ media, m.tenantId = tenantOf m.stockItemId) :
    m ∈ listMedia tenantOf stockItemId media ↔ m ∈ media ∧ m.stockItemId = stockItemId := by
  unfold listMedia
  rw [List.mem_insertionSort, List.mem_filter, decide_eq_true_eq]
  constructor
  · exact fun h => ⟨h.1, h.2.2⟩
  · rintro ⟨hm, rfl⟩
    exact ⟨hm, htenants m hm, rfl⟩

theorem listed_listMedia (h : TableInv tenantOf sh.drawn sh.media) (p : StockItemMedia → Bool) :
    Listed sh stockItemId (listMedia tenantOf stockItemId (sh.media.filter p)) := by
  have htenants : ∀ m ∈ sh.media.filter p, m.tenantId = tenantOf m.stockItemId :=
    fun m hm => h.tenants m (List.mem_of_mem_filter hm)
  have hmem : ∀ l ∈ listMedia tenantOf stockItemId (sh.media.filter p),
      l ∈ sh.media ∧ l.stockItemId = stockItemId := by
    intro l hl
    obtain ⟨hl, hitem⟩ := (mem_listMedia htenants).mp hl
    exact ⟨List.mem_of_mem_filter hl, hitem⟩
  have hnodup : (listMedia tenantOf stockItemId (sh.media.filter p)).Nodup := by
    unfold listMedia
    rw [(List.perm_insertionSort _ _).nodup_iff]
    exact ((h.rows.ids.of_map _).filter _).filter _
  refine ⟨?_, ?_, ?_, ?_⟩
  · exact hnodup.map_on fun a ha b hb hid =>
      List.inj_on_of_nodup_map h.rows.ids (hmem a ha).1 (hmem b hb).1 hid
  · refine hnodup.map_on fun a ha b hb hposition => ?_
    have hslot : a.slot = b.slot := Prod.ext ((hmem a ha).2.trans (hmem b hb).2.symm) hposition
    exact List.inj_on_of_nodup_map h.rows.slots (hmem a ha).1 (hmem b hb).1 hslot
  · intro l hl
    exact (h.inRange l (hmem l hl).1).2.trans (h.few _)
  · intro l hl
    obtain ⟨hl, hitem⟩ := hmem l hl
    refine ⟨h.drawn l hl, fun m hm hid => ?_⟩
    rw [List.inj_on_of_nodup_map h.rows.ids hm hl hid]
    exact hitem

/-! #### Each step -/

variable {c : Call}

theorem inv_refuse (h : MediaInv tenantOf sh) {e : AppError}
    (hnot : ∀ stockItemId ids, c = .reorder stockItemId ids → ¬ ids.Perm (idsOf stockItemId sh.media)) :
    MediaInv tenantOf (sh.refuse c e) := by
  refine ⟨h.table, fun a ha => ?_⟩
  rcases List.mem_cons.mp ha with rfl | ha
  · refine ⟨fun _ _ => rfl, fun stockItemId ids hcall => ⟨?_, nofun⟩⟩
    exact iff_of_false (nofun) (hnot stockItemId ids hcall)
  · exact h.answers a ha

theorem answerSound_ok {before after : List StockItemMedia}
    (hnot : ∀ stockItemId ids, c ≠ .reorder stockItemId ids) :
    AnswerSound ⟨c, before, after, .ok ()⟩ :=
  ⟨nofun, fun stockItemId ids hcall => absurd hcall (hnot stockItemId ids)⟩

theorem begin_keeps (h : MediaInv tenantOf sh) (c : Call) :
    MediaInv tenantOf (begin tenantOf c sh).1 ∧
      Knows (begin tenantOf c sh).1 (begin tenantOf c sh).2 ∧ Grows sh (begin tenantOf c sh).1 := by
  have hsame : Grows sh sh := grows_of_media_eq rfl rfl
  cases c with
  | add stockItemId url =>
    dsimp only [begin]
    cases hroom : checkRoom stockItemId (listMedia tenantOf stockItemId sh.media) with
    | error e =>
      exact ⟨inv_refuse h nofun, trivial, grows_of_media_eq rfl rfl⟩
    | ok u =>
      refine ⟨h, ?_, hsame⟩
      unfold checkRoom at hroom
      split at hroom
      · cases hroom
      · next hfull =>
        have hfull : ¬ (listMedia tenantOf stockItemId sh.media).length ≥ 1 + 15 := hfull
        dsimp only [Knows]
        omega
  | reorder stockItemId ids =>
    dsimp only [begin]
    have hall : Listed sh stockItemId (listMedia tenantOf stockItemId sh.media) := by
      have hlisted : Listed sh stockItemId
          (listMedia tenantOf stockItemId (sh.media.filter fun _ => true)) :=
        listed_listMedia h.table _
      rwa [List.filter_true] at hlisted
    cases hnames : checkNames ids (listMedia tenantOf stockItemId sh.media) with
    | error e =>
      refine ⟨inv_refuse h ?_, trivial, grows_of_media_eq rfl rfl⟩
      -- a list that names every picture has the same ids
      rintro _ _ hcall hperm
      cases hcall
      have hnamed : ∀ id, id ∈ ids ↔ id ∈ (listMedia tenantOf stockItemId sh.media).map (·.id) := by
        intro id
        rw [hperm.mem_iff, idsOf, List.mem_map, List.mem_map]
        refine exists_congr fun m => and_congr_left fun _ => ?_
        rw [mem_listMedia h.table.tenants, List.mem_filter, decide_eq_true_eq]
      unfold checkNames at hnames
      rw [if_pos ⟨fun id hid => (hnamed id).mp hid,
        fun m hm => (hnamed m.id).mpr (List.mem_map_of_mem hm)⟩] at hnames
      cases hnames
    | ok u =>
      refine ⟨h, ⟨hall, fun id => ?_⟩, hsame⟩
      unfold checkNames at hnames
      split at hnames
      · next hsets =>
        refine ⟨hsets.1 id, fun hid => ?_⟩
        obtain ⟨m, hm, rfl⟩ := List.mem_map.mp hid
        exact hsets.2 m hm
      · cases hnames
  | remove stockItemId mediaId =>
    dsimp only [begin]
    have hdone : MediaInv tenantOf (sh.finish (.remove stockItemId mediaId) (.ok sh.media)) := by
      refine ⟨h.table, fun a ha => ?_⟩
      rcases List.mem_cons.mp ha with rfl | ha
      · exact answerSound_ok fun _ _ hcall => by cases hcall
      · exact h.answers a ha
    cases hfind : sh.media.find? (·.id = mediaId) with
    | none => exact ⟨hdone, trivial, grows_of_media_eq rfl rfl⟩
    | some target =>
      dsimp only
      have htarget := List.mem_of_find?_eq_some hfind
      split
      · exact ⟨hdone, trivial, grows_of_media_eq rfl rfl⟩
      · next hitem =>
        have hitem : target.stockItemId = stockItemId := not_not.mp hitem
        refine ⟨h, ⟨hitem, (h.table.inRange target htarget).1, h.table.drawn target htarget, ?_⟩, hsame⟩
        intro m hm hid
        rw [List.inj_on_of_nodup_map h.table.rows.ids hm htarget hid]
        exact hitem

variable {target : StockItemMedia}

theorem delete_keeps (h : MediaInv tenantOf sh) (hknows : Knows sh (.removing stockItemId target)) :
    MediaInv tenantOf (delete tenantOf stockItemId target sh).1 ∧
      Knows (delete tenantOf stockItemId target sh).1 (delete tenantOf stockItemId target sh).2 ∧
      Grows sh (delete tenantOf stockItemId target sh).1 := by
  have hgrows : Grows sh (delete tenantOf stockItemId target sh).1 := grows_of_media_eq rfl rfl
  refine ⟨⟨h.table, h.answers⟩, ?_, hgrows⟩
  have hlisted : Listed sh stockItemId
      (listMedia tenantOf stockItemId (sh.media.filter (·.id ≠ target.id))) :=
    listed_listMedia h.table _
  exact ⟨⟨hknows.1, hknows.2.1, hknows.2.2.grows hgrows⟩, hlisted.grows hgrows⟩

theorem count_append (media : List StockItemMedia) (m : StockItemMedia) :
    count stockItemId (media ++ [m]) =
      count stockItemId media + if m.stockItemId = stockItemId then 1 else 0 := by
  unfold count
  rw [List.countP_append, List.countP_singleton]
  simp only [decide_eq_true_eq]

theorem position_taken (h : TableInv tenantOf sh.drawn sh.media) {position : ℕ}
    (hone : 1 ≤ position) (hlast : position ≤ count stockItemId sh.media) :
    (stockItemId, position) ∈ sh.media.map (·.slot) := by
  have hdense := dense_of_inRange h.rows h.inRange (h.few stockItemId)
  have hmem : position ∈ positions stockItemId sh.media := by
    rw [hdense.1.mem_iff, List.mem_range'_1]
    omega
  obtain ⟨m, hm, rfl⟩ := List.mem_map.mp hmem
  obtain ⟨hm, hitem⟩ := List.mem_filter.mp hm
  exact List.mem_map.mpr ⟨m, hm, Prod.ext (of_decide_eq_true hitem) rfl⟩

theorem table_append (h : TableInv tenantOf sh.drawn sh.media) (hfresh : m.id ∉ sh.drawn)
    (hfree : m.slot ∉ sh.media.map (·.slot)) (htenant : m.tenantId = tenantOf m.stockItemId)
    (hlast : m.position = count m.stockItemId sh.media + 1) (hroom : m.position ≤ 16) :
    TableInv tenantOf (m.id :: sh.drawn) (sh.media ++ [m]) := by
  refine ⟨⟨?_, ?_⟩, ?_, ?_, ?_, ?_⟩
  · rw [List.map_append, List.nodup_append_comm]
    refine List.nodup_cons.mpr ⟨fun hmem => ?_, h.rows.ids⟩
    obtain ⟨old, hold, hid⟩ := List.mem_map.mp hmem
    have hid : old.id = m.id := hid
    exact hfresh (hid ▸ h.drawn old hold)
  · rw [List.map_append, List.nodup_append_comm]
    exact List.nodup_cons.mpr ⟨hfree, h.rows.slots⟩
  · intro old hold
    rw [count_append]
    rcases List.mem_append.mp hold with hold | hold
    · have hrange := h.inRange old hold
      omega
    · rw [List.mem_singleton.mp hold, if_pos rfl]
      omega
  · intro stockItemId
    rw [count_append]
    have hfew := h.few stockItemId
    split
    · next heq =>
      rw [← heq]
      omega
    · omega
  · intro old hold
    rcases List.mem_append.mp hold with hold | hold
    · exact h.tenants old hold
    · rw [List.mem_singleton.mp hold]
      exact htenant
  · intro old hold
    rcases List.mem_append.mp hold with hold | hold
    · exact List.mem_cons_of_mem _ (h.drawn old hold)
    · rw [List.mem_singleton.mp hold]
      exact List.mem_cons_self

theorem add_keeps (h : MediaInv tenantOf sh) (url : String) (hfresh : m.id ∉ sh.drawn)
    (htenant : m.tenantId = tenantOf m.stockItemId) (hone : 1 ≤ m.position)
    (hroom : m.position ≤ 16) (hok : m.position ≤ count m.stockItemId sh.media + 1) :
    MediaInv tenantOf ((sh.finish (.add m.stockItemId url) (insertMedia m sh.media)).draw m.id) ∧
    Grows sh ((sh.finish (.add m.stockItemId url) (insertMedia m sh.media)).draw m.id) := by
  have hdrawn : ∀ id ∈ sh.drawn, id ∈ m.id :: sh.drawn := fun id hid => List.mem_cons_of_mem _ hid
  unfold insertMedia
  split
  · have hrefused := inv_refuse (c := .add m.stockItemId url) (e := internalError "IntegrityError") h
      fun _ _ hcall => by cases hcall
    have htable := h.table
    exact ⟨⟨⟨htable.rows, htable.inRange, htable.few, htable.tenants,
      fun old hold => hdrawn _ (htable.drawn old hold)⟩, hrefused.answers⟩,
      hdrawn, fun old hold _ => ⟨old, hold, rfl, rfl⟩⟩
  · next hfree =>
    -- all positions up to the count are taken
    have hlast : m.position = count m.stockItemId sh.media + 1 := by
      by_contra hne
      exact hfree (position_taken h.table hone (by omega))
    refine ⟨⟨table_append h.table hfresh hfree htenant hlast hroom, fun a ha => ?_⟩, hdrawn, ?_⟩
    · rcases List.mem_cons.mp ha with rfl | ha
      · exact answerSound_ok fun _ _ hcall => by cases hcall
      · exact h.answers a ha
    · intro old hold hid
      rcases List.mem_append.mp hold with hold | hold
      · exact ⟨old, hold, rfl, rfl⟩
      · rw [List.mem_singleton.mp hold] at hid
        exact absurd hid hfresh

variable {position : StockItemMedia → ℕ}

theorem table_moveTo {drawn : List Uuid} (hrows : Rows media)
    (hfew : ∀ stockItemId, count stockItemId media ≤ 16)
    (htenants : ∀ m ∈ media, m.tenantId = tenantOf m.stockItemId)
    (hdrawn : ∀ m ∈ media, m.id ∈ drawn)
    (hslots : ((media.map fun m => m.moveTo (position m)).map (·.slot)).Nodup)
    (hrange : ∀ m ∈ media, 1 ≤ position m ∧ position m ≤ count m.stockItemId media) :
    TableInv tenantOf drawn (media.map fun m => m.moveTo (position m)) := by
  refine ⟨rows_moveTo hrows hslots, inRange_moveTo hrange, fun stockItemId => ?_, ?_, ?_⟩
  · rw [count_moveTo]
    exact hfew stockItemId
  · exact List.forall_mem_map.mpr htenants
  · exact List.forall_mem_map.mpr hdrawn

theorem closing_keys (hlisted : Listed sh stockItemId listed) (removed : ℕ) :
    ((closing removed listed).map Prod.fst).Nodup := by
  unfold closing
  rw [List.map_map]
  exact hlisted.ids.sublist (List.filter_sublist.map _)

theorem closing_position (hlisted : Listed sh stockItemId listed) {removed : ℕ}
    (hmoved : ∀ u ∈ closing removed listed, ∀ m ∈ media, m.id = u.1 → position m = u.2)
    (hstay : ∀ m ∈ media, m.id ∉ (closing removed listed).map Prod.fst → position m = m.position)
    (hm : m ∈ media) (hseen : ∃ l ∈ listed, l.id = m.id ∧ l.position = m.position) :
    position m = if removed < m.position then m.position - 1 else m.position := by
  obtain ⟨l, hl, hid, hposition⟩ := hseen
  split
  · next habove =>
    have hu : (l.id, l.position - 1) ∈ closing removed listed := by
      refine List.mem_map.mpr ⟨l, List.mem_filter.mpr ⟨hl, ?_⟩, rfl⟩
      rw [hposition]
      exact decide_eq_true habove
    rw [hmoved _ hu m hm hid.symm, hposition]
  · next hbelow =>
    refine hstay m hm fun hmem => ?_
    obtain ⟨u, hu, hkey⟩ := List.mem_map.mp hmem
    obtain ⟨l', hl', rfl⟩ := List.mem_map.mp hu
    obtain ⟨hl', habove⟩ := List.mem_filter.mp hl'
    have hkey : l'.id = l.id := Eq.trans hkey hid.symm
    rw [List.inj_on_of_nodup_map hlisted.ids hl' hl hkey, hposition] at habove
    exact hbelow (of_decide_eq_true habove)

theorem remove_keeps (h : MediaInv tenantOf sh)
    (hknows : Knows sh (.gapClosing stockItemId target listed))
    (hok : ∀ drawn, Keeps sh (.gapClosing stockItemId target listed) (.commit drawn)) :
    MediaInv tenantOf ((sh.finish (.remove stockItemId target.id)
      (flushPositions (closing target.position listed)
        (sh.media.filter (·.id ≠ target.id)))).release target.id) ∧
    Grows sh ((sh.finish (.remove stockItemId target.id)
      (flushPositions (closing target.position listed)
        (sh.media.filter (·.id ≠ target.id)))).release target.id) := by
  obtain ⟨⟨-, hone, howned⟩, hlisted⟩ := hknows
  cases hflush : flushPositions (closing target.position listed)
      (sh.media.filter (·.id ≠ target.id)) with
  | error e =>
    have hrefused := inv_refuse (c := .remove stockItemId target.id) (e := e) h
      fun _ _ hcall => by cases hcall
    exact ⟨⟨hrefused.table, hrefused.answers⟩, grows_of_media_eq rfl rfl⟩
  | ok media' =>
    obtain ⟨hthere, hslots, position, rfl, hmoved, hstay⟩ :=
      flush_ok (closing_keys hlisted target.position) hflush
    have hrows := rows_filter h.table.rows fun m => decide (m.id ≠ target.id)
    have hrange : ∀ m ∈ sh.media.filter (·.id ≠ target.id),
        1 ≤ position m ∧ position m ≤ count m.stockItemId (sh.media.filter (·.id ≠ target.id)) := by
      intro m hm
      obtain ⟨hmedia, hne⟩ := List.mem_filter.mp hm
      have hne : m.id ≠ target.id := of_decide_eq_true hne
      obtain ⟨hfirst, hlast⟩ := h.table.inRange m hmedia
      by_cases hitem : m.stockItemId = stockItemId
      · rcases hok 0 with ⟨l, hl, habove, hgone⟩ | ⟨hseen, hend⟩
        · -- the flush met a row that has gone
          have hu : (l.id, l.position - 1) ∈ closing target.position listed :=
            List.mem_map.mpr ⟨l, List.mem_filter.mpr ⟨hl, decide_eq_true habove⟩, rfl⟩
          obtain ⟨old, hold, hid⟩ := List.mem_map.mp (hthere _ hu)
          exact absurd (List.mem_map.mpr ⟨old, List.mem_of_mem_filter hold, hid⟩) hgone
        · have hposition := closing_position hlisted hmoved hstay hm (hseen m hmedia hitem hne)
          by_cases htarget : ∃ old ∈ sh.media, old.id = target.id
          · obtain ⟨old, hold, hid⟩ := htarget
            have holditem := howned.2 old hold hid
            have hcount := count_erase h.table.rows hold
            rw [holditem, hid] at hcount
            have hdistinct : m.position ≠ old.position := by
              intro heq
              have hslot : m.slot = old.slot := Prod.ext (hitem.trans holditem.symm) heq
              rw [List.inj_on_of_nodup_map h.table.rows.slots hmedia hold hslot] at hne
              exact hne hid
            rw [hitem] at hlast ⊢
            have hend := hend old hold hid
            split at hposition <;> omega
          · have hcount : count stockItemId (sh.media.filter (·.id ≠ target.id)) =
                count stockItemId sh.media :=
              count_erase_of_ne fun old hold hid => absurd ⟨old, hold, hid⟩ htarget
            rw [hitem] at hlast ⊢
            split at hposition <;> omega
      · -- a picture of another item
        have hkept : m.id ∉ (closing target.position listed).map Prod.fst := by
          intro hmem
          obtain ⟨u, hu, hkey⟩ := List.mem_map.mp hmem
          obtain ⟨l, hl, rfl⟩ := List.mem_map.mp hu
          exact hitem ((hlisted.owned l (List.mem_of_mem_filter hl)).2 m hmedia hkey.symm)
        have hcount : count m.stockItemId (sh.media.filter (·.id ≠ target.id)) =
            count m.stockItemId sh.media :=
          count_erase_of_ne fun old hold hid heq => hitem (heq ▸ howned.2 old hold hid)
        rw [hstay m hm hkept, hcount]
        exact ⟨hfirst, hlast⟩
    have hfew : ∀ stockItemId, count stockItemId (sh.media.filter (·.id ≠ target.id)) ≤ 16 :=
      fun stockItemId => (List.filter_sublist.countP_le).trans (h.table.few stockItemId)
    refine ⟨⟨table_moveTo hrows hfew (fun m hm => h.table.tenants m (List.mem_of_mem_filter hm))
      (fun m hm => h.table.drawn m (List.mem_of_mem_filter hm)) (hslots hrows.slots) hrange,
      fun a ha => ?_⟩, fun _ hid => hid, ?_⟩
    · rcases List.mem_cons.mp ha with rfl | ha
      · exact answerSound_ok fun _ _ hcall => by cases hcall
      · exact h.answers a ha
    · intro m' hm' _
      obtain ⟨m, hm, rfl⟩ := List.mem_map.mp hm'
      exact ⟨m, List.mem_of_mem_filter hm, rfl, rfl⟩

/-! #### Reorders -/

section

variable {ids : List Uuid} {existing : List StockItemMedia}

theorem newPosition_getElem (hnodup : ids.Nodup) {i : ℕ} (hi : i < ids.length) :
    newPosition ids ids[i] = i + 1 := by
  have hlt : ids.length - 1 - i < ids.reverse.length := by
    rw [List.length_reverse]
    omega
  have hget : ids.reverse[ids.length - 1 - i] = ids[i] := by
    rw [List.getElem_reverse]
    congr 1
    omega
  have hidx := (List.nodup_reverse.mpr hnodup).idxOf_getElem (ids.length - 1 - i) hlt
  rw [hget] at hidx
  unfold newPosition
  rw [hidx]
  omega

variable {id : Uuid}

theorem newPosition_mem (hnodup : ids.Nodup) (hid : id ∈ ids) :
    1 ≤ newPosition ids id ∧ newPosition ids id ≤ ids.length := by
  obtain ⟨i, hi, rfl⟩ := List.mem_iff_getElem.mp hid
  rw [newPosition_getElem hnodup hi]
  omega

theorem newPosition_injOn (hnodup : ids.Nodup) {id' : Uuid} (hid : id ∈ ids) (hid' : id' ∈ ids)
    (heq : newPosition ids id = newPosition ids id') : id = id' := by
  obtain ⟨i, hi, rfl⟩ := List.mem_iff_getElem.mp hid
  obtain ⟨j, hj, rfl⟩ := List.mem_iff_getElem.mp hid'
  rw [newPosition_getElem hnodup hi, newPosition_getElem hnodup hj] at heq
  have hij : i = j := by omega
  subst hij
  rfl

theorem raised_keys : (raised existing).map Prod.fst = existing.map (·.id) := by
  rw [raised, List.map_map]
  rfl

theorem renumbered_keys : (renumbered ids existing).map Prod.fst = existing.map (·.id) := by
  rw [renumbered, List.map_map]
  rfl

theorem length_idsOf : (idsOf stockItemId media).length = count stockItemId media := by
  rw [idsOf, List.length_map, length_filter_item]

theorem mem_idsOf :
    id ∈ idsOf stockItemId media ↔ ∃ m ∈ media, m.stockItemId = stockItemId ∧ m.id = id := by
  rw [idsOf, List.mem_map]
  refine exists_congr fun m => ?_
  rw [List.mem_filter, decide_eq_true_eq, and_assoc]

theorem named_of_present (h : TableInv tenantOf sh.drawn sh.media)
    (hlisted : Listed sh stockItemId existing) (hnodup : ids.Nodup)
    (hset : ∀ id, id ∈ ids ↔ id ∈ existing.map (·.id))
    (hall : ∀ m ∈ sh.media, m.stockItemId = stockItemId → m.id ∈ existing.map (·.id))
    (hthere : ∀ l ∈ existing, l.id ∈ sh.media.map (·.id)) :
    ids.Perm (idsOf stockItemId sh.media) := by
  have hidsOf : (idsOf stockItemId sh.media).Nodup :=
    h.rows.ids.sublist (List.filter_sublist.map _)
  refine (List.perm_ext_iff_of_nodup hnodup hidsOf).mpr fun id => ?_
  rw [hset, mem_idsOf]
  constructor
  · intro hid
    obtain ⟨l, hl, rfl⟩ := List.mem_map.mp hid
    obtain ⟨m, hm, heq⟩ := List.mem_map.mp (hthere l hl)
    exact ⟨m, hm, (hlisted.owned l hl).2 m hm heq, heq⟩
  · rintro ⟨m, hm, hitem, rfl⟩
    exact hall m hm hitem

theorem reorder_ok (h : TableInv tenantOf sh.drawn sh.media)
    (hlisted : Listed sh stockItemId existing) (hnodup : ids.Nodup)
    (hset : ∀ id, id ∈ ids ↔ id ∈ existing.map (·.id))
    (hnamed : ids.Perm (idsOf stockItemId sh.media)) : ∃ position : StockItemMedia → ℕ,
      reorderMedia ids existing sh.media = .ok (sh.media.map fun m => m.moveTo (position m)) ∧
      ((sh.media.map fun m => m.moveTo (position m)).map (·.slot)).Nodup ∧
      (∀ m ∈ sh.media, m.stockItemId = stockItemId → position m = newPosition ids m.id) ∧
      ∀ m ∈ sh.media, m.stockItemId ≠ stockItemId → position m = m.position := by
  have hmem : ∀ m ∈ sh.media, m.stockItemId = stockItemId → ∃ l ∈ existing, l.id = m.id := by
    intro m hm hitem
    exact List.mem_map.mp ((hset m.id).mp (hnamed.mem_iff.mpr (mem_idsOf.mpr ⟨m, hm, hitem, rfl⟩)))
  have hthere : ∀ l ∈ existing, l.id ∈ sh.media.map (·.id) := by
    intro l hl
    have hid := hnamed.mem_iff.mp ((hset l.id).mpr (List.mem_map_of_mem hl))
    obtain ⟨m, hm, -, hid⟩ := mem_idsOf.mp hid
    exact List.mem_map.mpr ⟨m, hm, hid⟩
  have howned : ∀ l ∈ existing, ∀ m ∈ sh.media, m.id = l.id → m.stockItemId = stockItemId :=
    fun l hl => (hlisted.owned l hl).2
  have hother : ∀ m ∈ sh.media, m.stockItemId ≠ stockItemId → m.id ∉ existing.map (·.id) := by
    intro m hm hitem hid
    obtain ⟨l, hl, hid⟩ := List.mem_map.mp hid
    exact hitem (howned l hl m hm hid.symm)
  have hkeys : ((raised existing).map Prod.fst).Nodup := by
    rw [raised_keys]
    exact hlisted.ids
  have hkeys' : ((renumbered ids existing).map Prod.fst).Nodup := by
    rw [renumbered_keys]
    exact hlisted.ids
  -- the first pass goes to positions above all others
  have hfirst : ∃ media', flushPositions (raised existing) sh.media = .ok media' := by
    refine flush_isOk stockItemId h.rows hkeys ?_ ?_ ?_ ?_
    · have htargets : (raised existing).map Prod.snd = (existing.map (·.position)).map (· + 1000) := by
        rw [raised, List.map_map, List.map_map]
        rfl
      rw [htargets]
      exact hlisted.positions.map (add_left_injective 1000)
    · exact List.forall_mem_map.mpr hthere
    · exact List.forall_mem_map.mpr howned
    · intro u hu m hm _
      obtain ⟨l, hl, rfl⟩ := List.mem_map.mp hu
      have hrange := (h.inRange m hm).2
      have hfew := h.few m.stockItemId
      dsimp only
      omega
  obtain ⟨media', hfirst⟩ := hfirst
  obtain ⟨-, hslots, high, rfl, hraised, hkept⟩ := flush_ok hkeys hfirst
  have hrows := rows_moveTo h.rows (hslots h.rows.slots)
  -- the second pass goes back to the first positions, which are free by now
  have hsecond : ∃ media', flushPositions (renumbered ids existing)
      (sh.media.map fun m => m.moveTo (high m)) = .ok media' := by
    refine flush_isOk stockItemId hrows hkeys' ?_ ?_ ?_ ?_
    · have htargets : (renumbered ids existing).map Prod.snd =
          (existing.map (·.id)).map (newPosition ids) := by
        rw [renumbered, List.map_map, List.map_map]
        rfl
      rw [htargets]
      exact hlisted.ids.map_on fun a ha b hb heq =>
        newPosition_injOn hnodup ((hset a).mpr ha) ((hset b).mpr hb) heq
    · intro u hu
      obtain ⟨l, hl, rfl⟩ := List.mem_map.mp hu
      obtain ⟨m, hm, hid⟩ := List.mem_map.mp (hthere l hl)
      exact List.mem_map.mpr ⟨_, List.mem_map_of_mem hm, hid⟩
    · intro u hu m' hm' hid
      obtain ⟨l, hl, rfl⟩ := List.mem_map.mp hu
      obtain ⟨m, hm, rfl⟩ := List.mem_map.mp hm'
      exact howned l hl m hm hid
    · intro u hu m' hm' hitem
      obtain ⟨l, hl, rfl⟩ := List.mem_map.mp hu
      obtain ⟨m, hm, rfl⟩ := List.mem_map.mp hm'
      obtain ⟨seen, hseen, hid⟩ := hmem m hm hitem
      have hhigh : high m = seen.position + 1000 :=
        hraised (seen.id, seen.position + 1000) (List.mem_map_of_mem hseen) m hm hid.symm
      have hlow := (newPosition_mem hnodup ((hset l.id).mpr (List.mem_map_of_mem hl))).2
      have hlength := hnamed.length_eq
      rw [length_idsOf] at hlength
      have hfew := h.few stockItemId
      have hposition : (m.moveTo (high m)).position = high m := rfl
      dsimp only
      omega
  obtain ⟨media', hsecond⟩ := hsecond
  obtain ⟨-, hslots', low, rfl, hrenumbered, hkept'⟩ := flush_ok hkeys' hsecond
  have hboth : (sh.media.map fun m => m.moveTo (high m)).map (fun m => m.moveTo (low m)) =
      sh.media.map fun m => m.moveTo (low (m.moveTo (high m))) := by
    rw [List.map_map]
    rfl
  refine ⟨fun m => low (m.moveTo (high m)), ?_, ?_, ?_, ?_⟩
  · have hbind : reorderMedia ids existing sh.media =
        flushPositions (renumbered ids existing) (sh.media.map fun m => m.moveTo (high m)) := by
      unfold reorderMedia
      rw [hfirst]
      rfl
    rw [hbind, hsecond, hboth]
  · rw [← hboth]
    exact hslots' hrows.slots
  · intro m hm hitem
    obtain ⟨seen, hseen, hid⟩ := hmem m hm hitem
    have hlow := hrenumbered (seen.id, newPosition ids seen.id) (List.mem_map_of_mem hseen)
      (m.moveTo (high m)) (List.mem_map_of_mem hm) hid.symm
    rw [← hid]
    exact hlow
  · intro m hm hitem
    have hnot := hother m hm hitem
    have hhigh : high m = m.position := hkept m hm (by rw [raised_keys]; exact hnot)
    have hlow := hkept' (m.moveTo (high m)) (List.mem_map_of_mem hm)
      (by rw [renumbered_keys]; exact hnot)
    dsimp only
    rw [hlow]
    exact hhigh

theorem reorder_keeps (h : MediaInv tenantOf sh)
    (hknows : Knows sh (.reordering stockItemId ids existing))
    (hok : ∀ drawn, Keeps sh (.reordering stockItemId ids existing) (.commit drawn)) :
    MediaInv tenantOf (sh.finish (.reorder stockItemId ids) (reorderMedia ids existing sh.media)) ∧
    Grows sh (sh.finish (.reorder stockItemId ids) (reorderMedia ids existing sh.media)) := by
  obtain ⟨hlisted, hset⟩ := hknows
  obtain ⟨hnodup, hall⟩ := hok 0
  by_cases hthere : ∀ l ∈ existing, l.id ∈ sh.media.map (·.id)
  · have hnamed := named_of_present h.table hlisted hnodup hset hall hthere
    obtain ⟨position, hreorder, hslots, hitem, hother⟩ :=
      reorder_ok h.table hlisted hnodup hset hnamed
    have hrange : ∀ m ∈ sh.media, 1 ≤ position m ∧ position m ≤ count m.stockItemId sh.media := by
      intro m hm
      by_cases hsame : m.stockItemId = stockItemId
      · have hid : m.id ∈ ids := hnamed.mem_iff.mpr (mem_idsOf.mpr ⟨m, hm, hsame, rfl⟩)
        rw [hitem m hm hsame, hsame, ← length_idsOf, ← hnamed.length_eq]
        exact newPosition_mem hnodup hid
      · rw [hother m hm hsame]
        exact h.table.inRange m hm
    rw [hreorder]
    refine ⟨⟨table_moveTo h.table.rows h.table.few h.table.tenants h.table.drawn hslots hrange,
      fun a ha => ?_⟩, fun _ hid => hid, ?_⟩
    · rcases List.mem_cons.mp ha with rfl | ha
      · refine ⟨nofun, fun _ _ hcall => ?_⟩
        cases hcall
        refine ⟨iff_of_true rfl hnamed, fun _ i id hget => ?_⟩
        obtain ⟨hi, rfl⟩ := List.getElem?_eq_some_iff.mp hget
        obtain ⟨m, hm, hsame, hid⟩ := mem_idsOf.mp (hnamed.mem_iff.mp (List.getElem_mem hi))
        refine ⟨_, List.mem_map_of_mem hm, hsame, hid, ?_⟩
        have hposition : (m.moveTo (position m)).position = position m := rfl
        rw [hposition, hitem m hm hsame, hid, newPosition_getElem hnodup hi]
      · exact h.answers a ha
    · intro m' hm' _
      obtain ⟨m, hm, rfl⟩ := List.mem_map.mp hm'
      exact ⟨m, hm, rfl, rfl⟩
  · -- a picture that was listed has gone
    push Not at hthere
    obtain ⟨l, hl, hgone⟩ := hthere
    have hfailed : ∃ e, reorderMedia ids existing sh.media = .error e := by
      unfold reorderMedia
      cases hfirst : flushPositions (raised existing) sh.media with
      | error e => exact ⟨e, rfl⟩
      | ok media' =>
        have hkeys : ((raised existing).map Prod.fst).Nodup := by
          rw [raised_keys]
          exact hlisted.ids
        exact absurd ((flush_ok hkeys hfirst).1 _ (List.mem_map_of_mem hl)) hgone
    obtain ⟨e, hfailed⟩ := hfailed
    rw [hfailed]
    refine ⟨inv_refuse h fun _ _ hcall hperm => ?_, grows_of_media_eq rfl rfl⟩
    cases hcall
    obtain ⟨m, hm, -, hid⟩ :=
      mem_idsOf.mp (hperm.mem_iff.mp ((hset l.id).mpr (List.mem_map_of_mem hl)))
    exact hgone (List.mem_map.mpr ⟨m, hm, hid⟩)

end

theorem step_keeps {ι : Type} {i : ι} {ch : Move} {lo' : Local} (h : MediaInv tenantOf sh)
    (hknows : Knows sh lo) (hok : Keeps sh lo ch)
    (hstep : step tenantOf i ch sh lo = some (sh', lo')) :
    MediaInv tenantOf sh' ∧ Knows sh' lo' ∧ Grows sh sh' := by
  have hreleased : ∀ id, MediaInv tenantOf (sh.release id) ∧ Grows sh (sh.release id) :=
    fun id => ⟨⟨h.table, h.answers⟩, grows_of_media_eq rfl rfl⟩
  cases lo with
  | idle =>
    cases ch with
    | call c =>
      have hbegin : begin tenantOf c sh = (sh', lo') := Option.some.inj hstep
      have hkeeps := begin_keeps h c
      rw [hbegin] at hkeeps
      exact hkeeps
    | delete | commit drawn | abandon => cases hstep
  | adding stockItemId url counted =>
    cases ch with
    | commit drawn =>
      dsimp only [step] at hstep
      split at hstep
      · cases hstep
      · next hfree =>
        cases hstep
        have hcounted : counted ≤ 15 := hknows
        obtain ⟨hinv, hgrows⟩ := add_keeps
          (m := ⟨drawn, tenantOf stockItemId, stockItemId, counted + 1, url⟩) h url
          (fun hdrawn => hfree (.inl hdrawn)) rfl (Nat.le_add_left 1 counted)
          (Nat.succ_le_succ hcounted) (Nat.succ_le_succ hok)
        exact ⟨hinv, trivial, hgrows⟩
    | abandon =>
      cases hstep
      exact ⟨h, trivial, grows_of_media_eq rfl rfl⟩
    | call c | delete => cases hstep
  | reordering stockItemId ids existing =>
    cases ch with
    | commit drawn =>
      dsimp only [step] at hstep
      split at hstep
      · cases hstep
      · cases hstep
        obtain ⟨hinv, hgrows⟩ := reorder_keeps h hknows fun _ => hok
        exact ⟨hinv, trivial, hgrows⟩
    | abandon =>
      cases hstep
      exact ⟨h, trivial, grows_of_media_eq rfl rfl⟩
    | call c | delete => cases hstep
  | removing stockItemId target =>
    cases ch with
    | delete =>
      dsimp only [step] at hstep
      split at hstep
      · cases hstep
      · cases hstep
        exact delete_keeps h hknows
    | abandon =>
      cases hstep
      exact ⟨h, trivial, grows_of_media_eq rfl rfl⟩
    | call c | commit drawn => cases hstep
  | gapClosing stockItemId target listed =>
    cases ch with
    | commit drawn =>
      dsimp only [step] at hstep
      split at hstep
      · cases hstep
      · cases hstep
        obtain ⟨hinv, hgrows⟩ := remove_keeps h hknows fun _ => hok
        exact ⟨hinv, trivial, hgrows⟩
    | abandon =>
      cases hstep
      obtain ⟨hinv, hgrows⟩ := hreleased target.id
      exact ⟨hinv, trivial, hgrows⟩
    | call c | delete => cases hstep

end

/-! ### Runs -/

def start (ι : Type) : Config ι Shared Local := ⟨{}, fun _ => .idle⟩

theorem holds_start (tenantOf : Uuid → Uuid) (ι : Type) :
    Holds (MediaInv tenantOf) (fun _ => Knows) (start ι) :=
  ⟨⟨⟨⟨List.nodup_nil, List.nodup_nil⟩, nofun, fun _ => Nat.zero_le 16,
    nofun, nofun⟩, nofun⟩, fun _ => trivial⟩

/-- **Along every run** of any number of sessions whose moves are all of those the positions stay
dense. -/
theorem mediaSound_along {ι : Type} [DecidableEq ι] (tenantOf : Uuid → Uuid) (moves : List (ι × Move))
    (h : Run.Along (move (step tenantOf)) (fun config a => Keeps config.shared (config.locals a.1) a.2)
      (start ι) moves) : MediaSound (moves.foldl (move (step tenantOf)) (start ι)).shared := by
  have hmove : ∀ (config : Config ι Shared Local) (a : ι × Move),
      Holds (MediaInv tenantOf) (fun _ => Knows) config →
      Keeps config.shared (config.locals a.1) a.2 →
      Holds (MediaInv tenantOf) (fun _ => Knows) (move (step tenantOf) config a) := by
    intro config a hholds hok
    refine noninterference (fun _ ch sh lo => Keeps sh lo ch) ?_ ?_ hholds hok
    · intro i ch sh lo sh' lo' hinv hknows hok hstep
      obtain ⟨hinv', hknows', -⟩ := step_keeps hinv hknows hok hstep
      exact ⟨hinv', hknows'⟩
    · intro i j ch sh lo lo' sh' lo'' _ hinv hknows hother hok hstep
      obtain ⟨-, -, hgrows⟩ := step_keeps hinv hknows hok hstep
      exact hother.grows hgrows
  exact (Run.invariant_along hmove (holds_start tenantOf ι) h).1.sound

/-- Two pictures from two sessions, put in the other order; and the first of them removed. -/
def tidyRun : List (Bool × Move) :=
  [(true, .call (.add 7 "a")), (true, .commit 1), (false, .call (.add 7 "b")), (false, .commit 2),
    (true, .call (.reorder 7 [2, 1])), (true, .commit 0), (false, .call (.remove 7 2)),
    (false, .delete), (false, .commit 0)]

theorem mediaSound_along_tidyRun :
    MediaSound (tidyRun.foldl (move (step fun _ => 1)) (start Bool)).shared ∧
      positions 7 (tidyRun.foldl (move (step fun _ => 1)) (start Bool)).shared.media = [1] :=
  ⟨mediaSound_along (fun _ => 1) tidyRun (by decide +kernel), by decide +kernel⟩

def repeatedId : List (Bool × Move) :=
  [(true, .call (.add 7 "a")), (true, .commit 1), (true, .call (.add 7 "b")), (true, .commit 2),
    (true, .call (.reorder 7 [1, 2, 1])), (true, .commit 0)]

/-- A picture goes between the count of an addition and its insert. -/
def lostCount : List (Bool × Move) :=
  [(true, .call (.add 7 "a")), (true, .commit 1), (true, .call (.add 7 "b")), (true, .commit 2),
    (false, .call (.add 7 "c")), (true, .call (.remove 7 1)), (true, .delete), (true, .commit 0),
    (false, .commit 3)]

/-- A picture named twice leaves its first place empty, and a lost count leaves one, too. -/
theorem repeatedId_leaves_gap :
    positions 7 (repeatedId.foldl (move (step fun _ => 1)) (start Bool)).shared.media = [3, 2] ∧
    positions 7 (lostCount.foldl (move (step fun _ => 1)) (start Bool)).shared.media = [1, 3] ∧
    ¬ MediaSound (repeatedId.foldl (move (step fun _ => 1)) (start Bool)).shared ∧
    ¬ MediaSound (lostCount.foldl (move (step fun _ => 1)) (start Bool)).shared := by
  refine ⟨by decide +kernel, by decide +kernel, fun h => ?_, fun h => ?_⟩
  · have hgap : ¬ Dense 7 (repeatedId.foldl (move (step fun _ => 1)) (start Bool)).shared.media := by
      decide +kernel
    exact hgap (h.dense 7)
  · have hgap : ¬ Dense 7 (lostCount.foldl (move (step fun _ => 1)) (start Bool)).shared.media := by
      decide +kernel
    exact hgap (h.dense 7)

end Nexotec.MediaPositions
