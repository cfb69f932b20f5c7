/-
The feed file of AutoScout24 (`app/integration/adapters/autoscout24.py`).

The file has no quoting: `;` ends a field and CRLF a record, so neither may stand in a
value.  `_field_row` takes both out of four of the twelve fields.

* `fieldRow`, `buildFeedFile` — one record, and the bytes of the file.
-/
import Mathlib.Data.List.Forall2
import Nexotec.Core.Json
import Nexotec.Lib.Delimited

namespace Nexotec.FeedFile

open Delimited

/-! ### Numbers and dates as texts -/

/-- A finite `Decimal`, by its sign, coefficient and exponent, or a special value. -/
inductive PyDecimal where
  | finite (negative : Bool) (coefficient : ℕ) (exponent : ℤ)
  | infinity (negative : Bool)
  | nan (negative signaling : Bool) (payload : Option ℕ)

/-- A `datetime.date`. -/
structure CivilDate where
  year : ℕ
  month : ℕ
  day : ℕ

def digits (n : ℕ) : PyText := (Nat.toDigits 10 n).map CodePoint.ofChar

/-- `count` zeros. -/
def zeros (count : ℕ) : PyText := List.replicate count (CodePoint.ofChar '0')

def padded (width n : ℕ) : PyText := zeros (width - (digits n).length) ++ digits n

def minus (negative : Bool) : PyText := if negative then text "-" else []

/-- `sys.get_int_max_str_digits()` -/
def intMaxStrDigits : ℕ := 4300

/-- `str` of an int; `none` is the `ValueError` for a number that is too long. -/
def strInt (n : ℤ) : Option PyText :=
  if (digits n.natAbs).length ≤ intMaxStrDigits then some (minus (n < 0) ++ digits n.natAbs)
  else none

/-- `"%+d" % n` -/
def signed (n : ℤ) : PyText := (if n < 0 then text "-" else text "+") ++ digits n.natAbs

def placeDot (int : PyText) (dotplace : ℤ) : PyText :=
  if dotplace ≤ 0 then text "0" ++ (text "." ++ (zeros (-dotplace).toNat ++ int))
  else if int.length ≤ dotplace then int ++ zeros (dotplace - int.length).toNat
  else int.take dotplace.toNat ++ (text "." ++ int.drop dotplace.toNat)

/-- The exponent, where the point does not stand at its own place. -/
def exponentPart (leftdigits dotplace : ℤ) : PyText :=
  if leftdigits = dotplace then [] else text "E" ++ signed (leftdigits - dotplace)

/-- `Decimal.__str__` -/
def strDecimal : PyDecimal → PyText
  | .finite negative coefficient exponent =>
    let int := digits coefficient
    let leftdigits := exponent + int.length
    let dotplace := if exponent ≤ 0 ∧ -6 < leftdigits then leftdigits else 1
    minus negative ++ placeDot int dotplace ++ exponentPart leftdigits dotplace
  | .infinity negative => minus negative ++ text "Infinity"
  | .nan negative signaling payload =>
    minus negative ++ text (if signaling then "sNaN" else "NaN") ++
      match payload with
      | some n => digits n
      | none => []

/-- `strftime("%d.%m.%Y")` -/
def strftime (date : CivilDate) : PyText :=
  padded 2 date.day ++ text "." ++ padded 2 date.month ++ text "." ++ padded 4 date.year

/-! ### A record -/

structure MarketplaceListing where
  stockItemId : PyText
  make : PyText
  model : PyText
  bodyStyle : Option PyText
  condition : PyText
  exteriorColour : PyText
  odometerKm : Option ℤ
  price : PyDecimal
  firstRegistrationDate : Option CivilDate
  modelYear : Option ℤ
  imageUrls : List PyText := []

/-- What the functions raise. -/
inductive Raised where
  | listingError (stockItemId : PyText) (field : String) (message : PyText)
  | typeError
  | valueError
  | unicodeEncodeError

def fahrzeugartByCondition : List (PyText × PyText) :=
  [(text "new", text "Neu"), (text "used", text "Occasion"), (text "demo", text "Vorführmodell"),
    (text "tagesz", text "Tageszulassung")]

def fieldOrder : List PyText :=
  ["Kundennummer", "FahrzeugNr", "VehicleType", "Marke", "Typ", "Aufbau", "Aussenfarbe",
    "Fahrzeugart", "InvSetzJahr", "Kilometer", "Preis", "Ausstattung"].map text

def semicolon : CodePoint := CodePoint.ofChar ';'

def comma : CodePoint := CodePoint.ofChar ','

def carriageReturn : CodePoint := CodePoint.ofChar '\r'

def lineFeed : CodePoint := CodePoint.ofChar '\n'

def space : CodePoint := CodePoint.ofChar ' '

/-- `str.replace` of one letter by another. -/
def replace (old new : CodePoint) (value : PyText) : PyText :=
  value.map fun c => if c = old then new else c

def sanitise (value : PyText) : PyText :=
  replace lineFeed space (replace carriageReturn space (replace semicolon comma value))

/-- `not text`, for a text that may be absent. -/
def isMissing (value : Option PyText) : Bool := value.getD [] = []

/-- The day of the first registration or the model year of a new car, as a text. -/
def invSetzJahr (listing : MarketplaceListing) : Except Raised PyText :=
  match listing.firstRegistrationDate, listing.modelYear with
  | some date, _ => .ok (strftime date)
  | none, some year =>
    if listing.condition = text "new" then
      match strInt year with
      | some t => .ok t
      | none => .error .valueError
    else .error (.listingError listing.stockItemId "InvSetzJahr"
      (text "InvSetzJahr is required — no first_registration_date and no model_year available."))
  | none, none => .error (.listingError listing.stockItemId "InvSetzJahr"
      (text "InvSetzJahr is required — no first_registration_date and no model_year available."))

/-- `_field_row`, in the order of `_FIELD_ORDER`.  The customer number is what the
connection's configuration holds. -/
def fieldRow (kundennummer : Json) (listing : MarketplaceListing) : Except Raised (List Json) :=
  if kundennummer.truthy = false then
    .error (.listingError listing.stockItemId "Kundennummer"
      (text "Connection has no config.kundennummer set."))
  else if isMissing listing.bodyStyle then
    .error (.listingError listing.stockItemId "Aufbau" (text "Aufbau is required."))
  else if listing.exteriorColour = [] then
    .error (.listingError listing.stockItemId "Aussenfarbe"
      (text "Aussenfarbe is required."))
  else
    match listing.odometerKm with
    | none => .error (.listingError listing.stockItemId "Kilometer"
        (text "Kilometer is required."))
    | some odometerKm =>
      match fahrzeugartByCondition.lookup listing.condition with
      | none => .error (.listingError listing.stockItemId "Fahrzeugart"
          (text "No AS24i Fahrzeugart mapping for condition '" ++ listing.condition ++ text "'."))
      | some fahrzeugart => do
        let invSetzJahr ← invSetzJahr listing
        match strInt odometerKm with
        | none => .error .valueError
        | some kilometer => .ok [
            kundennummer,
            .str listing.stockItemId,
            .str (text "10"),
            .str (sanitise listing.make),
            .str (sanitise listing.model),
            .str (sanitise (listing.bodyStyle.getD [])),
            .str (sanitise listing.exteriorColour),
            .str fahrzeugart,
            .str invSetzJahr,
            .str kilometer,
            .str (strDecimal listing.price),
            .str []]

def validateListing (kundennummer : Json) (listing : MarketplaceListing) : Except Raised Unit :=
  (fieldRow kundennummer listing).map fun _ => ()

/-! ### The file -/

/-- The texts of a row; `";".join` takes nothing else. -/
def joinable : List Json → Option (List PyText)
  | [] => some []
  | .str t :: row => (joinable row).map (t :: ·)
  | _ :: _ => none

/-- `";".join(fields) + ";"` -/
def line (fields : List PyText) : PyText := [semicolon].intercalate fields ++ [semicolon]

def crlf : PyText := [carriageReturn, lineFeed]

/-- `"\r\n".join(lines) + "\r\n"` -/
def joinLines (lines : List PyText) : PyText := crlf.intercalate lines ++ crlf

def buildFeedFile (listings : List MarketplaceListing) (kundennummer : Json) :
    Except Raised ByteArray := do
  let rows ← listings.mapM (fieldRow kundennummer)
  match rows.mapM joinable with
  | none => .error .typeError
  | some rows =>
    match encodeUtf8 (joinLines (line fieldOrder :: rows.map line)) with
    | some bytes => .ok bytes
    | none => .error .unicodeEncodeError

/-! ### What a reader makes of it -/

/-- The fields of every record: lines that end with CRLF, of fields that end with `;`. -/
def readFeed (content : PyText) : Option (List (List PyText)) := do
  let lines ← terminated crlf content
  lines.mapM (terminated [semicolon])

/-- The values that the listing has for the twelve fields. -/
def fieldValues (kundennummer : PyText) (listing : MarketplaceListing) : List PyText :=
  [kundennummer,
    listing.stockItemId,
    text "10",
    listing.make,
    listing.model,
    listing.bodyStyle.getD [],
    listing.exteriorColour,
    (fahrzeugartByCondition.lookup listing.condition).getD [],
    (invSetzJahr listing).toOption.getD [],
    (listing.odometerKm.bind strInt).getD [],
    strDecimal listing.price,
    []]

/-- The record of a listing: its values without the separators. -/
def RecordOf (kundennummer : Json) (listing : MarketplaceListing) (record : List PyText) : Prop :=
  ∃ number, kundennummer = .str number ∧ record = (fieldValues number listing).map sanitise

/-- **The file is made, and reads as the header and one record for each listing.** -/
def FeedReads (kundennummer : Json) (listings : List MarketplaceListing) : Prop :=
  ∃ bytes content records, buildFeedFile listings kundennummer = .ok bytes ∧
    decodeUtf8 bytes = some content ∧ readFeed content = some (fieldOrder :: records) ∧
    List.Forall₂ (RecordOf kundennummer) listings records

/-! ### Texts without separators -/

/-- Neither a field nor a record ends in the text. -/
structure Clean (t : PyText) : Prop where
  semicolon : semicolon ∉ t
  carriageReturn : carriageReturn ∉ t
  lineFeed : lineFeed ∉ t

instance (t : PyText) : Decidable (Clean t) :=
  decidable_of_iff (FeedFile.semicolon ∉ t ∧ FeedFile.carriageReturn ∉ t ∧ FeedFile.lineFeed ∉ t)
    ⟨fun h => ⟨h.1, h.2.1, h.2.2⟩, fun h => ⟨h.1, h.2, h.3⟩⟩

/-- `_sanitise`, letter by letter. -/
def sanitiseLetter (c : CodePoint) : CodePoint :=
  if c = semicolon then comma
  else if c = carriageReturn ∨ c = lineFeed then space else c

theorem sanitise_eq_map (t : PyText) : sanitise t = t.map sanitiseLetter := by
  unfold sanitise replace
  rw [List.map_map, List.map_map]
  refine List.map_congr_left fun c _ => ?_
  have h1 : comma ≠ carriageReturn := by decide
  have h2 : comma ≠ lineFeed := by decide
  have h3 : space ≠ lineFeed := by decide
  unfold sanitiseLetter
  simp only [Function.comp]
  by_cases hs : c = semicolon
  · rw [if_pos hs, if_pos hs, if_neg h1, if_neg h2]
  · rw [if_neg hs, if_neg hs]
    by_cases hcr : c = carriageReturn
    · rw [if_pos hcr, if_neg h3, if_pos (.inl hcr)]
    · rw [if_neg hcr]
      by_cases hlf : c = lineFeed
      · rw [if_pos hlf, if_pos (.inr hlf)]
      · rw [if_neg hlf, if_neg (not_or.mpr ⟨hcr, hlf⟩)]

theorem sanitiseLetter_eq_self {c : CodePoint} :
    sanitiseLetter c = c ↔ c ≠ semicolon ∧ c ≠ carriageReturn ∧ c ≠ lineFeed := by
  unfold sanitiseLetter
  constructor
  · intro h
    refine ⟨?_, ?_, ?_⟩ <;> rintro rfl <;> exact absurd h (by decide)
  · rintro ⟨hs, hcr, hlf⟩
    rw [if_neg hs, if_neg (not_or.mpr ⟨hcr, hlf⟩)]

theorem length_sanitise (t : PyText) : (sanitise t).length = t.length := by
  rw [sanitise_eq_map, List.length_map]

variable {t : PyText}

theorem sanitise_eq_self : sanitise t = t ↔ Clean t := by
  rw [sanitise_eq_map]
  have hletters : t.map sanitiseLetter = t ↔ ∀ c ∈ t, sanitiseLetter c = c := by
    constructor
    · intro h
      have hid : t.map sanitiseLetter = t.map id := by rw [h, List.map_id]
      exact List.map_inj_left.mp hid
    · exact fun h => (List.map_congr_left h).trans (List.map_id t)
  rw [hletters]
  simp only [sanitiseLetter_eq_self]
  constructor
  · exact fun h => ⟨fun hmem => (h _ hmem).1 rfl, fun hmem => (h _ hmem).2.1 rfl,
      fun hmem => (h _ hmem).2.2 rfl⟩
  · rintro ⟨hs, hcr, hlf⟩ c hc
    refine ⟨?_, ?_, ?_⟩
    · rintro rfl
      exact hs hc
    · rintro rfl
      exact hcr hc
    · rintro rfl
      exact hlf hc

theorem clean_sanitise (t : PyText) : Clean (sanitise t) := by
  rw [← sanitise_eq_self, sanitise_eq_map, sanitise_eq_map, List.map_map]
  refine List.map_congr_left fun c _ => ?_
  rw [Function.comp_apply, sanitiseLetter_eq_self]
  unfold sanitiseLetter
  split
  · decide
  · next hs =>
    split
    · decide
    · next hline => exact ⟨hs, (not_or.mp hline).1, (not_or.mp hline).2⟩

theorem encodable_sanitise : Encodable (sanitise t) ↔ Encodable t := by
  rw [sanitise_eq_map]
  unfold Encodable
  rw [List.forall_mem_map]
  refine forall₂_congr fun c _ => ?_
  unfold sanitiseLetter
  split
  · next hs =>
    subst hs
    decide
  · split
    · next hline => rcases hline with rfl | rfl <;> decide
    · exact Iff.rfl

def Plain (t : PyText) : Prop := Clean t ∧ Encodable t

theorem plain_append {u : PyText} (ht : Plain t) (hu : Plain u) : Plain (t ++ u) where
  left :=
    { semicolon := fun h => (List.mem_append.mp h).elim ht.1.1 hu.1.1
      carriageReturn := fun h => (List.mem_append.mp h).elim ht.1.2 hu.1.2
      lineFeed := fun h => (List.mem_append.mp h).elim ht.1.3 hu.1.3 }
  right := encodable_append.mpr ⟨ht.2, hu.2⟩

theorem Plain.of_subset {u : PyText} (hu : Plain u) (h : ∀ c ∈ t, c ∈ u) : Plain t where
  left := ⟨fun hmem => hu.1.1 (h _ hmem), fun hmem => hu.1.2 (h _ hmem),
    fun hmem => hu.1.3 (h _ hmem)⟩
  right := fun c hc => hu.2 c (h c hc)

theorem plain_sanitise (h : Encodable t) : Plain (sanitise t) :=
  ⟨clean_sanitise t, encodable_sanitise.mpr h⟩

theorem ofChar_inj {c d : Char} (h : CodePoint.ofChar c = CodePoint.ofChar d) : c = d := by
  have hsome : (some c : Option Char) = some d := by rw [← toChar?_ofChar c, h, toChar?_ofChar]
  exact Option.some.inj hsome

/-! ### Numbers and dates are plain -/

theorem plain_text {s : String} (h : Clean (text s)) : Plain (text s) := ⟨h, encodable_text s⟩

theorem plain_nil : Plain [] := ⟨by decide, nofun⟩

theorem plain_digits (n : ℕ) : Plain (digits n) := by
  have hdigit : ∀ d : Char, d.isDigit = false → CodePoint.ofChar d ∉ digits n := by
    intro d hd hmem
    obtain ⟨c, hc, heq⟩ := List.mem_map.mp hmem
    rw [← ofChar_inj heq, Nat.isDigit_of_mem_toDigits (by decide) (by decide) hc] at hd
    cases hd
  exact ⟨⟨hdigit _ (by decide), hdigit _ (by decide), hdigit _ (by decide)⟩, encodable_ofChars _⟩

theorem plain_zeros (count : ℕ) : Plain (zeros count) := by
  have hzero : Plain (text "0") := plain_text (by decide)
  refine hzero.of_subset fun c hc => ?_
  rw [List.eq_of_mem_replicate hc]
  decide

theorem plain_minus (negative : Bool) : Plain (minus negative) := by
  cases negative with
  | false => exact plain_nil
  | true => exact plain_text (by decide)

theorem plain_padded (width n : ℕ) : Plain (padded width n) :=
  plain_append (plain_zeros _) (plain_digits n)

theorem plain_strftime (date : CivilDate) : Plain (strftime date) := by
  have hdot : Plain (text ".") := plain_text (by decide)
  exact plain_append (plain_append (plain_append (plain_append (plain_padded _ _) hdot)
    (plain_padded _ _)) hdot) (plain_padded _ _)

theorem plain_strInt {n : ℤ} (h : strInt n = some t) : Plain t := by
  unfold strInt at h
  split at h
  · cases h
    exact plain_append (plain_minus _) (plain_digits _)
  · cases h

theorem plain_signed (n : ℤ) : Plain (signed n) := by
  unfold signed
  refine plain_append ?_ (plain_digits _)
  split
  · exact plain_text (by decide)
  · exact plain_text (by decide)

theorem plain_placeDot {int : PyText} (h : Plain int) (dotplace : ℤ) :
    Plain (placeDot int dotplace) := by
  have hdot : Plain (text ".") := plain_text (by decide)
  unfold placeDot
  split
  · exact plain_append (plain_text (by decide)) (plain_append hdot (plain_append (plain_zeros _) h))
  · split
    · exact plain_append h (plain_zeros _)
    · exact plain_append (h.of_subset fun _ => List.mem_of_mem_take)
        (plain_append hdot (h.of_subset fun _ => List.mem_of_mem_drop))

theorem plain_exponentPart (leftdigits dotplace : ℤ) : Plain (exponentPart leftdigits dotplace) := by
  unfold exponentPart
  split
  · exact plain_nil
  · exact plain_append (plain_text (by decide)) (plain_signed _)

theorem plain_strDecimal (price : PyDecimal) : Plain (strDecimal price) := by
  cases price with
  | finite negative coefficient exponent =>
    exact plain_append (plain_append (plain_minus _) (plain_placeDot (plain_digits _) _))
      (plain_exponentPart _ _)
  | infinity negative => exact plain_append (plain_minus _) (plain_text (by decide))
  | nan negative signaling payload =>
    refine plain_append (plain_append (plain_minus _) ?_) ?_
    · cases signaling
      · exact plain_text (by decide)
      · exact plain_text (by decide)
    · cases payload with
      | none => exact plain_nil
      | some n => exact plain_digits n

section Rows

variable {kundennummer : Json} {listing : MarketplaceListing}

def rowTail (listing : MarketplaceListing) : List PyText :=
  [listing.stockItemId,
    text "10",
    sanitise listing.make,
    sanitise listing.model,
    sanitise (listing.bodyStyle.getD []),
    sanitise listing.exteriorColour,
    (fahrzeugartByCondition.lookup listing.condition).getD [],
    (invSetzJahr listing).toOption.getD [],
    (listing.odometerKm.bind strInt).getD [],
    strDecimal listing.price,
    []]

theorem fieldRow_of_valid (h : validateListing kundennummer listing = .ok ()) :
    fieldRow kundennummer listing = .ok (kundennummer :: (rowTail listing).map .str) := by
  unfold validateListing at h
  cases hrow : fieldRow kundennummer listing with
  | error e =>
    rw [hrow] at h
    cases h
  | ok row =>
    unfold fieldRow at hrow
    split at hrow
    · cases hrow
    · split at hrow
      · cases hrow
      · split at hrow
        · cases hrow
        · split at hrow
          · cases hrow
          · next odometerKm hodometer =>
            split at hrow
            · cases hrow
            · next fahrzeugart hfahrzeugart =>
              cases hinv : invSetzJahr listing with
              | error e =>
                rw [hinv] at hrow
                cases hrow
              | ok inv =>
                rw [hinv] at hrow
                cases hkm : strInt odometerKm with
                | none =>
                  simp only [hkm, bind, Except.bind] at hrow
                  cases hrow
                | some kilometer =>
                  simp only [hkm, bind, Except.bind] at hrow
                  cases hrow
                  unfold rowTail
                  rw [hfahrzeugart, hinv, hodometer, Option.bind_some, hkm]
                  rfl

theorem plain_fahrzeugart (condition : PyText) :
    Plain ((fahrzeugartByCondition.lookup condition).getD []) := by
  cases hlookup : fahrzeugartByCondition.lookup condition with
  | none => exact plain_nil
  | some fahrzeugart =>
    have hall : ∀ entry ∈ fahrzeugartByCondition, Plain entry.2 := by
      simp only [fahrzeugartByCondition, List.forall_mem_cons]
      exact ⟨plain_text (by decide), plain_text (by decide), plain_text (by decide),
        plain_text (by decide), nofun⟩
    obtain ⟨l₁, l₂, heq, -⟩ := List.lookup_eq_some_iff.mp hlookup
    exact hall (condition, fahrzeugart) (by rw [heq]; simp)

theorem plain_invSetzJahr (listing : MarketplaceListing) :
    Plain ((invSetzJahr listing).toOption.getD []) := by
  unfold invSetzJahr
  split
  · exact plain_strftime _
  · split
    · split
      · next hyear => exact plain_strInt hyear
      · exact plain_nil
    · exact plain_nil
  · exact plain_nil

theorem plain_kilometer (odometerKm : Option ℤ) : Plain ((odometerKm.bind strInt).getD []) := by
  cases hkm : odometerKm.bind strInt with
  | none => exact plain_nil
  | some kilometer =>
    obtain ⟨n, -, hn⟩ := Option.bind_eq_some_iff.mp hkm
    exact plain_strInt hn

/-- No text of the listing that goes into the file has a surrogate. -/
structure EncodableTexts (listing : MarketplaceListing) : Prop where
  stockItemId : Encodable listing.stockItemId
  make : Encodable listing.make
  model : Encodable listing.model
  bodyStyle : Encodable (listing.bodyStyle.getD [])
  exteriorColour : Encodable listing.exteriorColour

theorem plain_rowTail (h : EncodableTexts listing) (hid : Clean listing.stockItemId) :
    ∀ t ∈ rowTail listing, Plain t := by
  unfold rowTail
  simp only [List.forall_mem_cons]
  exact ⟨⟨hid, h.stockItemId⟩, plain_text (by decide), plain_sanitise h.make, plain_sanitise h.model,
    plain_sanitise h.bodyStyle, plain_sanitise h.exteriorColour, plain_fahrzeugart _,
    plain_invSetzJahr _, plain_kilometer _, plain_strDecimal _, plain_nil, nofun⟩

theorem encodableTexts_of_rowTail (h : ∀ t ∈ rowTail listing, Encodable t) :
    EncodableTexts listing := by
  unfold rowTail at h
  simp only [List.forall_mem_cons] at h
  obtain ⟨hid, -, hmake, hmodel, hbody, hcolour, -⟩ := h
  exact ⟨hid, encodable_sanitise.mp hmake, encodable_sanitise.mp hmodel,
    encodable_sanitise.mp hbody, encodable_sanitise.mp hcolour⟩

theorem map_sanitise_row (number : PyText) (listing : MarketplaceListing) :
    (number :: rowTail listing).map sanitise = (fieldValues number listing).map sanitise := by
  have hidem : ∀ t, sanitise (sanitise t) = sanitise t :=
    fun t => sanitise_eq_self.mpr (clean_sanitise t)
  unfold rowTail fieldValues
  simp only [List.map_cons, hidem, List.map_nil]

end Rows

section File

variable {kundennummer : Json} {listings : List MarketplaceListing} {number : PyText}

/-- The texts of the file, in terminated lines of terminated fields. -/
def rendered (records : List (List PyText)) : PyText :=
  terminate crlf (records.map (terminate [semicolon]))

theorem line_eq {fields : List PyText} (h : fields ≠ []) : line fields = terminate [semicolon] fields :=
  intercalate_append_sep h

variable {records : List (List PyText)}

theorem joinLines_eq (h : ∀ r ∈ records, r ≠ []) (hne : records ≠ []) :
    joinLines (records.map line) = rendered records := by
  have hlines : records.map line = records.map (terminate [semicolon]) :=
    List.map_congr_left fun r hr => line_eq (h r hr)
  unfold joinLines rendered
  rw [hlines]
  exact intercalate_append_sep fun h => hne (List.map_eq_nil_iff.mp h)

theorem mapM_some {α β : Type} {f : α → Option β} {g : α → β} {l : List α}
    (h : ∀ a ∈ l, f a = some (g a)) : l.mapM f = some (l.map g) := by
  induction l with
  | nil => rfl
  | cons a l ih =>
    rw [List.mapM_cons, h a List.mem_cons_self, ih fun b hb => h b (List.mem_cons_of_mem a hb)]
    rfl

theorem mapM_ok {α β : Type} {f : α → Except Raised β} {g : α → β} {l : List α}
    (h : ∀ a ∈ l, f a = .ok (g a)) : l.mapM f = .ok (l.map g) := by
  induction l with
  | nil => rfl
  | cons a l ih =>
    rw [List.mapM_cons, h a List.mem_cons_self, ih fun b hb => h b (List.mem_cons_of_mem a hb)]
    rfl

theorem readFeed_rendered (h : ∀ r ∈ records, ∀ t ∈ r, Clean t) :
    readFeed (rendered records) = some records := by
  have hlines : terminated crlf (rendered records) = some (records.map (terminate [semicolon])) := by
    refine terminated_terminate fun l hl hmem => ?_
    obtain ⟨r, hr, rfl⟩ := List.mem_map.mp hl
    rcases mem_terminate hmem with hsep | ⟨t, ht, hmem⟩
    · exact absurd (List.mem_singleton.mp hsep) (by decide)
    · exact (h r hr t ht).carriageReturn hmem
  have hfields : (records.map (terminate [semicolon])).mapM (terminated [semicolon]) =
      some records := by
    rw [List.mapM_map]
    refine (mapM_some fun r hr => ?_).trans (congrArg some (List.map_id records))
    exact terminated_terminate fun t ht => (h r hr t ht).semicolon
  unfold readFeed
  rw [hlines]
  exact hfields

theorem rendered_of_readFeed {content : PyText} (h : readFeed content = some records) :
    rendered records = content := by
  obtain ⟨lines, hlines, hfields⟩ := Option.bind_eq_some_iff.mp h
  have hmap : records.map (terminate [semicolon]) = lines := by
    clear h hlines
    induction lines generalizing records with
    | nil =>
      cases hfields
      rfl
    | cons l lines ih =>
      rw [List.mapM_cons] at hfields
      obtain ⟨r, hr, hfields⟩ := Option.bind_eq_some_iff.mp hfields
      obtain ⟨rs, hrs, hfields⟩ := Option.bind_eq_some_iff.mp hfields
      cases hfields
      rw [List.map_cons, ih hrs, terminate_of_terminated (by simp) hr]
  unfold rendered
  rw [hmap]
  exact terminate_of_terminated (by simp [crlf]) hlines

theorem rendered_inj {records' : List (List PyText)}
    (hlength : List.Forall₂ (List.Forall₂ fun t t' => t.length = t'.length) records records')
    (h : rendered records = rendered records') : records = records' := by
  have hlines : List.Forall₂ (fun l l' => l.length = l'.length)
      (records.map (terminate [semicolon])) (records'.map (terminate [semicolon])) := by
    rw [List.forall₂_map_left_iff, List.forall₂_map_right_iff]
    exact hlength.imp fun _ _ => length_terminate
  have heq := terminate_inj hlines h
  clear h hlines
  induction hlength with
  | nil => rfl
  | cons hr _ ih =>
    obtain ⟨h1, h2⟩ := List.cons.inj heq
    rw [terminate_inj hr h1, ih h2]

theorem encodable_rendered :
    Encodable (rendered records) ↔ ∀ r ∈ records, ∀ t ∈ r, Encodable t := by
  constructor
  · intro h r hr t ht c hc
    refine h c (mem_terminate_of_mem (List.mem_map.mpr ⟨r, hr, rfl⟩) (mem_terminate_of_mem ht hc))
  · intro h c hc
    rcases mem_terminate hc with hsep | ⟨l, hl, hc⟩
    · exact encodable_text "\r\n" c hsep
    · obtain ⟨r, hr, rfl⟩ := List.mem_map.mp hl
      rcases mem_terminate hc with hsep | ⟨t, ht, hc⟩
      · exact encodable_text ";" c hsep
      · exact h r hr t ht c hc

def writtenRecords (number : PyText) (listings : List MarketplaceListing) : List (List PyText) :=
  fieldOrder :: listings.map fun listing => number :: rowTail listing

theorem joinable_row (number : PyText) (tail : List PyText) :
    joinable (.str number :: tail.map .str) = some (number :: tail) := by
  have htail : joinable (tail.map .str) = some tail := by
    induction tail with
    | nil => rfl
    | cons t tail ih => rw [List.map_cons, joinable, ih, Option.map_some]
  rw [joinable, htail, Option.map_some]

theorem buildFeedFile_eq (h : ∀ listing ∈ listings, validateListing (.str number) listing = .ok ()) :
    buildFeedFile listings (.str number) =
      match encodeUtf8 (rendered (writtenRecords number listings)) with
      | some bytes => .ok bytes
      | none => .error .unicodeEncodeError := by
  have hrows : listings.mapM (fieldRow (.str number)) =
      .ok (listings.map fun listing => .str number :: (rowTail listing).map .str) :=
    mapM_ok fun listing hlisting => fieldRow_of_valid (h listing hlisting)
  have hjoin : (listings.map fun listing => Json.str number :: (rowTail listing).map .str).mapM
      joinable = some (listings.map fun listing => number :: rowTail listing) := by
    rw [List.mapM_map]
    exact mapM_some fun listing _ => joinable_row number (rowTail listing)
  have hcontent : joinLines (line fieldOrder ::
      (listings.map fun listing => number :: rowTail listing).map line) =
      rendered (writtenRecords number listings) := by
    refine joinLines_eq ?_ (List.cons_ne_nil _ _)
    intro r hr
    rcases List.mem_cons.mp hr with rfl | hr
    · exact List.cons_ne_nil _ _
    · obtain ⟨listing, -, rfl⟩ := List.mem_map.mp hr
      exact List.cons_ne_nil _ _
  unfold buildFeedFile
  rw [hrows]
  simp only [bind, Except.bind, hjoin, hcontent]

theorem buildFeedFile_typeError (h : ∀ listing ∈ listings, validateListing kundennummer listing = .ok ())
    (hne : listings ≠ []) (hno : ∀ t, kundennummer ≠ .str t) :
    buildFeedFile listings kundennummer = .error .typeError := by
  have hrows : listings.mapM (fieldRow kundennummer) =
      .ok (listings.map fun listing => kundennummer :: (rowTail listing).map .str) :=
    mapM_ok fun listing hlisting => fieldRow_of_valid (h listing hlisting)
  have hjoin : (listings.map fun listing => kundennummer :: (rowTail listing).map .str).mapM
      joinable = none := by
    cases listings with
    | nil => exact absurd rfl hne
    | cons listing rest =>
      have hrow : joinable (kundennummer :: (rowTail listing).map .str) = none := by
        cases kundennummer with
        | str t => exact absurd rfl (hno t)
        | _ => rfl
      rw [List.map_cons, List.mapM_cons, hrow]
      rfl
  unfold buildFeedFile
  rw [hrows]
  simp only [bind, Except.bind, hjoin]

theorem clean_fieldOrder : ∀ t ∈ fieldOrder, Clean t := by decide

theorem encodable_fieldOrder : ∀ t ∈ fieldOrder, Encodable t := by
  intro t ht
  obtain ⟨s, -, rfl⟩ := List.mem_map.mp ht
  exact encodable_text s

/-- **What the file can carry**: nothing, or cars under a customer number that is a text,
where neither it nor an id has a separator and nothing has a surrogate. -/
def Sendable (kundennummer : Json) (listings : List MarketplaceListing) : Prop :=
  listings = [] ∨ ∃ number, kundennummer = .str number ∧ Plain number ∧
    ∀ listing ∈ listings, Clean listing.stockItemId ∧ EncodableTexts listing

theorem records_eq (h : List.Forall₂ (RecordOf (.str number)) listings records) :
    records = listings.map fun listing => (number :: rowTail listing).map sanitise := by
  induction h with
  | nil => rfl
  | @cons listing record listings records hrecord _ ih =>
    obtain ⟨number', hnumber, rfl⟩ := hrecord
    obtain rfl := Json.str.inj hnumber
    rw [List.map_cons, ← ih, map_sanitise_row]

theorem forall₂_records (number : PyText) (listings : List MarketplaceListing) :
    List.Forall₂ (RecordOf (.str number)) listings
      (listings.map fun listing => (number :: rowTail listing).map sanitise) := by
  rw [List.forall₂_map_right_iff, List.forall₂_same]
  exact fun listing _ => ⟨number, rfl, map_sanitise_row number listing⟩

theorem written_eq_of_reads (hrecords : List.Forall₂ (RecordOf (.str number)) listings records)
    (hread : rendered (fieldOrder :: records) = rendered (writtenRecords number listings)) :
    ∀ listing ∈ listings, (number :: rowTail listing).map sanitise = number :: rowTail listing := by
  have hlength : List.Forall₂ (List.Forall₂ fun t t' => t.length = t'.length)
      (fieldOrder :: records) (writtenRecords number listings) := by
    rw [records_eq hrecords]
    refine .cons (List.forall₂_same.mpr fun _ _ => rfl) ?_
    rw [List.forall₂_map_left_iff, List.forall₂_map_right_iff, List.forall₂_same]
    intro listing _
    rw [List.forall₂_map_left_iff, List.forall₂_same]
    exact fun t _ => length_sanitise t
  have heq := (List.cons.inj (rendered_inj hlength hread)).2
  rw [records_eq hrecords] at heq
  exact List.map_inj_left.mp heq

theorem feedReads_nil (kundennummer : Json) : FeedReads kundennummer [] := by
  have hplain : ∀ r ∈ [fieldOrder], ∀ t ∈ r, Clean t ∧ Encodable t := by
    intro r hr t ht
    rw [List.mem_singleton.mp hr] at ht
    exact ⟨clean_fieldOrder t ht, encodable_fieldOrder t ht⟩
  obtain ⟨bytes, hbytes⟩ := encodeUtf8_isSome_iff.mpr
    (encodable_rendered.mpr fun r hr t ht => (hplain r hr t ht).2)
  refine ⟨bytes, _, [], ?_, decode_encode hbytes,
    readFeed_rendered fun r hr t ht => (hplain r hr t ht).1, .nil⟩
  have hheader : ∀ r ∈ [fieldOrder], r ≠ [] := by
    intro r hr
    rw [List.mem_singleton.mp hr]
    exact List.cons_ne_nil _ _
  have hjoin : joinLines [line fieldOrder] = rendered [fieldOrder] :=
    joinLines_eq hheader (List.cons_ne_nil _ _)
  unfold buildFeedFile
  simp only [List.mapM_nil, bind, Except.bind, pure, Except.pure, List.map_nil, hjoin, hbytes]

theorem plain_of_feedReads
    (hvalid : ∀ listing ∈ listings, validateListing (.str number) listing = .ok ())
    (hne : listings ≠ []) (h : FeedReads (.str number) listings) :
    Plain number ∧ ∀ listing ∈ listings, Clean listing.stockItemId ∧ EncodableTexts listing := by
  obtain ⟨bytes, content, records, hbuild, hdecode, hread, hrecords⟩ := h
  rw [buildFeedFile_eq hvalid] at hbuild
  cases hencode : encodeUtf8 (rendered (writtenRecords number listings)) with
  | none =>
    rw [hencode] at hbuild
    cases hbuild
  | some bytes' =>
    rw [hencode] at hbuild
    cases hbuild
    have hcontent := Option.mem_unique hdecode (decode_encode hencode)
    rw [← rendered_of_readFeed hread] at hcontent
    have hsame := written_eq_of_reads hrecords hcontent
    have hencodable := encodable_rendered.mp (encodeUtf8_isSome_iff.mp ⟨_, hencode⟩)
    have hrow : ∀ listing ∈ listings, ∀ t ∈ number :: rowTail listing, Encodable t :=
      fun listing hlisting => hencodable _
        (List.mem_cons_of_mem _ (List.mem_map.mpr ⟨listing, hlisting, rfl⟩))
    obtain ⟨first, rest, rfl⟩ := List.exists_cons_of_ne_nil hne
    have hfirst := hsame first List.mem_cons_self
    refine ⟨⟨sanitise_eq_self.mp (List.cons.inj hfirst).1,
      hrow first List.mem_cons_self number List.mem_cons_self⟩, fun listing hlisting => ⟨?_, ?_⟩⟩
    · have htail := (List.cons.inj (hsame listing hlisting)).2
      exact sanitise_eq_self.mp (List.cons.inj htail).1
    · exact encodableTexts_of_rowTail fun t ht =>
        hrow listing hlisting t (List.mem_cons_of_mem number ht)

theorem feedReads_of_plain
    (hvalid : ∀ listing ∈ listings, validateListing (.str number) listing = .ok ())
    (hplain : Plain number)
    (hlistings : ∀ listing ∈ listings, Clean listing.stockItemId ∧ EncodableTexts listing) :
    FeedReads (.str number) listings := by
  have hall : ∀ r ∈ writtenRecords number listings, ∀ t ∈ r, Clean t ∧ Encodable t := by
    intro r hr t ht
    rcases List.mem_cons.mp hr with rfl | hr
    · exact ⟨clean_fieldOrder t ht, encodable_fieldOrder t ht⟩
    · obtain ⟨listing, hlisting, rfl⟩ := List.mem_map.mp hr
      obtain ⟨hid, htexts⟩ := hlistings listing hlisting
      rcases List.mem_cons.mp ht with rfl | ht
      · exact hplain
      · exact plain_rowTail htexts hid t ht
  obtain ⟨bytes, hbytes⟩ := encodeUtf8_isSome_iff.mpr
    (encodable_rendered.mpr fun r hr t ht => (hall r hr t ht).2)
  have hread := readFeed_rendered fun r hr t ht => (hall r hr t ht).1
  have hrecords : (listings.map fun listing => number :: rowTail listing) =
      listings.map fun listing => (number :: rowTail listing).map sanitise := by
    refine List.map_congr_left fun listing hlisting => ?_
    refine ((List.map_congr_left fun t ht => ?_).trans (List.map_id _)).symm
    refine sanitise_eq_self.mpr (hall (number :: rowTail listing) ?_ t ht).1
    exact List.mem_cons_of_mem _ (List.mem_map.mpr ⟨listing, hlisting, rfl⟩)
  refine ⟨bytes, _, _, ?_, decode_encode hbytes, hread, ?_⟩
  · rw [buildFeedFile_eq hvalid, hbytes]
  · rw [hrecords]
    exact forall₂_records number listings

end File

/-- **The feed file is made and reads as it should** just when it can carry what is sent. -/
theorem feed_reads_iff (kundennummer : Json) (listings : List MarketplaceListing)
    (hvalid : ∀ listing ∈ listings, validateListing kundennummer listing = .ok ()) :
    FeedReads kundennummer listings ↔ Sendable kundennummer listings := by
  rcases eq_or_ne listings [] with rfl | hne
  · exact iff_of_true (feedReads_nil kundennummer) (.inl rfl)
  by_cases htext : ∃ number, kundennummer = .str number
  · obtain ⟨number, rfl⟩ := htext
    constructor
    · intro h
      obtain ⟨hplain, hlistings⟩ := plain_of_feedReads hvalid hne h
      exact .inr ⟨number, rfl, hplain, hlistings⟩
    · rintro (hnil | ⟨number', hnumber, hplain, hlistings⟩)
      · exact absurd hnil hne
      · obtain rfl := Json.str.inj hnumber
        exact feedReads_of_plain hvalid hplain hlistings
  · refine iff_of_false ?_ ?_
    · rintro ⟨bytes, content, records, hbuild, -⟩
      rw [buildFeedFile_typeError hvalid hne fun t ht => htext ⟨t, ht⟩] at hbuild
      cases hbuild
    · rintro (hnil | ⟨number, hnumber, -⟩)
      · exact hne hnil
      · exact htext ⟨number, hnumber⟩

/-- A car whose label has a `;` and a line break. -/
def oneCar : MarketplaceListing where
  stockItemId := text "5d2f"
  make := text "VW;"
  model := text "Golf\nVariant"
  bodyStyle := some (text "Kombi")
  condition := text "used"
  exteriorColour := text "grün"
  odometerKm := some 41000
  price := .finite false 1990000 (-2)
  firstRegistrationDate := some ⟨2021, 3, 9⟩
  modelYear := none

theorem feed_reads_iff_oneCar : FeedReads (.str (text "4711")) [oneCar] := by
  have hvalid : ∀ listing ∈ [oneCar], validateListing (.str (text "4711")) listing = .ok () := by
    intro listing hlisting
    rw [List.mem_singleton.mp hlisting]
    rfl
  refine (feed_reads_iff (.str (text "4711")) [oneCar] hvalid).mpr (.inr ⟨text "4711", rfl,
    plain_text (by decide), fun listing hlisting => ?_⟩)
  rw [List.mem_singleton.mp hlisting]
  exact ⟨by decide, encodable_text _, encodable_text _, encodable_text _, encodable_text _,
    encodable_text _⟩

def twoNumbers : PyText := text "4711;0815"

/-- The car is valid, and its record is read with thirteen fields; and a customer number
that is a JSON number passes the validation and then cannot be joined. -/
theorem twoNumbers_shift_the_fields :
    validateListing (.str twoNumbers) oneCar = .ok () ∧ ¬ FeedReads (.str twoNumbers) [oneCar] ∧
      (readFeed (rendered (writtenRecords twoNumbers [oneCar]))).map (List.map List.length) =
        some [12, 13] ∧ validateListing (.int 4711) oneCar = .ok () ∧
      buildFeedFile [oneCar] (.int 4711) = .error .typeError := by
  have hvalid : ∀ listing ∈ [oneCar], validateListing (.str twoNumbers) listing = .ok () := by
    intro listing hlisting
    rw [List.mem_singleton.mp hlisting]
    rfl
  have hnumber : ∀ listing ∈ [oneCar], validateListing (.int 4711) listing = .ok () := by
    intro listing hlisting
    rw [List.mem_singleton.mp hlisting]
    rfl
  refine ⟨rfl, fun h => ?_, by decide +kernel, rfl, ?_⟩
  · obtain ⟨⟨hclean, -⟩, -⟩ := plain_of_feedReads hvalid (List.cons_ne_nil _ _) h
    exact hclean.semicolon (by decide)
  · exact buildFeedFile_typeError hnumber (List.cons_ne_nil _ _) fun t ht => by cases ht

end Nexotec.FeedFile
