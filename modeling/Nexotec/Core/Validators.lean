/-
The field validators (`app/core/validators.py`): phone, postal code, house number, VIN, chassis
number, UID, VAT number and IBAN.

Each pattern is run with `re.match` up to `$`, which stands before a last newline too, and `\d` takes
the digits of every script.

* `validateSwissUid_spec`, `validateIban_spec` — the check digits, and that `int` never fails.
-/
import Mathlib
import Nexotec.Lib.Pieces
import Nexotec.Vehicle.Identification

namespace Nexotec.Validators

open Pieces Identification

/-- What is used of the Unicode tables besides: `str.isalpha`, the value of a decimal digit, and that
an upper-cased text is upper-cased already and has no new blanks. -/
structure Tables extends Unicode where
  isAlpha : Char → Bool
  decimal : Char → ℕ
  alpha_ascii : ∀ c : Char, c.toNat < 128 → isAlpha c = c.isAlpha
  decimal_value : ∀ c : Char, c.isDigit = true → decimal c = c.toNat - 48
  alpha_decimal : ∀ c : Char, isDecimal c = true → isAlpha c = false
  space_decimal : ∀ c : Char, isSpace c = true → isDecimal c = false
  upper_ne_nil : ∀ c : Char, upper c ≠ []
  upper_upper : ∀ c : Char, (upper c).flatMap upper = upper c
  upper_blank : ∀ c d : Char, d ∈ upper c → isSpace d = true → isSpace c = true

/-! ### The patterns -/

abbrev Pattern := List (Piece Char)

def lit (c : Char) : Piece Char := ⟨.of (· == c), 1, 1⟩

/-- `\d` of the patterns is the open class. -/
def digits (low high : ℕ) : Piece Char := ⟨.hole, low, high⟩

def e164Re : Pattern := [lit '+', ⟨.of fun c => c.isDigit && c ≠ '0', 1, 1⟩, digits 6 14]

def postalCodeRe : Pattern := [digits 4 4]

def houseNumberRe : Pattern := [digits 1 5, ⟨.of isSpace, 0, 1⟩, ⟨.of Char.isAlpha, 0, 3⟩]

def vinRe : Pattern := [⟨.of fun c => isCapital c && !(['I', 'O', 'Q'].contains c), 17, 17⟩]

def chassisNumberRe : Pattern := [⟨.of isCapital, 1, 17⟩]

/-- `[0-9]{3}` -/
def threeDigits : Piece Char := ⟨.of Char.isDigit, 3, 3⟩

def uidRe : Pattern :=
  [lit 'C', lit 'H', lit 'E', lit '-', threeDigits, lit '.', threeDigits, lit '.', threeDigits]

def vatSuffixes : List Str := ["MWST", "TVA", "IVA"].map String.toList

/-- `_VAT_NUMBER_RE`, with one of its suffixes. -/
def vatNumberRe (suffix : Str) : Pattern := uidRe ++ ⟨.of (· == ' '), 0, 1⟩ :: suffix.map lit

def ibanRe : Pattern := [⟨.of Char.isUpper, 2, 2⟩, digits 2 2, ⟨.of isCapital, 11, 30⟩]

/-! ### The validators -/

/-- What a validator raises: its refusal, or an exception of `int` or of an index. -/
inductive Raised where
  | refusal (message : String)
  | invalidLiteral
  | indexError

section

variable (u : Tables)

def reMatch (re : Pattern) (value : Str) : Bool :=
  matchesToEnd (fullmatch u.isDecimal re) value

/-- A validator that judges by one pattern and returns what it is given. -/
def check (re : Pattern) (message : String) (value : Str) : Except Raised Str :=
  if !reMatch u re value then .error (.refusal message) else .ok value

def validateE164Phone : Str → Except Raised Str :=
  check u e164Re "Phone number must be in E.164 format, e.g. '+41791234567'."

def validatePostalCode : Str → Except Raised Str :=
  check u postalCodeRe "Postal code must be 4 numeric digits."

def validateHouseNumber : Str → Except Raised Str :=
  check u houseNumberRe
    "House number must be digits with an optional short letter suffix, e.g. '42' or '12a'."

def validateVin : Str → Except Raised Str :=
  check u vinRe
    "VIN must be exactly 17 uppercase alphanumeric characters (excluding I, O, Q), no whitespace."

def validateVinOrChassisNumber : Str → Except Raised Str :=
  check u chassisNumberRe <|
    "VIN must be exactly 17 uppercase alphanumeric characters (excluding I, O, Q); for a car first " ++
    "registered before 1981, a chassis number of 1 to 17 letters and digits."

/-- `normalise_vin` -/
def normaliseVin (value : Str) : Str := upper u.toUnicode (sub isSpace value)

/-- `NormalisedVinOrChassisNumber` -/
def normalisedVinOrChassisNumber (value : Str) : Except Raised Str :=
  validateVinOrChassisNumber u (normaliseVin u value)

/-- `int` of a text of decimal digits; no other text gets here. -/
def int (text : Str) : Except Raised ℕ :=
  if text ≠ [] ∧ text.all u.isDecimal then .ok (text.foldl (fun n c => 10 * n + u.decimal c) 0)
  else .error .invalidLiteral

def uidWeights : List ℕ := [5, 4, 3, 2, 7, 6, 5, 4]

def uidCheckDigit (firstEight : Str) : Except Raised (Option ℕ) := do
  let values ← firstEight.mapM fun d => int u [d]
  let check := 11 - (List.zipWith (· * ·) values uidWeights).sum % 11
  return if check = 10 then none else if check = 11 then some 0 else some check

def uidMismatch (value : Str) : Raised :=
  .refusal ("'" ++ String.ofList value ++ "' is not a valid Swiss UID — the check digit does not match.")

def validateSwissUid (value : Str) : Except Raised Str :=
  let normalised := upper u.toUnicode (strip value)
  if !reMatch u uidRe normalised then
    .error (.refusal "UID must be in the format 'CHE-123.456.789'.")
  else do
    let digits := (normalised.drop 4).filter (· ≠ '.')
    let expected ← uidCheckDigit u (digits.take 8)
    match expected, digits[8]? with
    | none, _ => .error (uidMismatch value)
    | some _, none => .error .indexError
    | some expected, some last =>
      let last ← int u [last]
      if expected ≠ last then .error (uidMismatch value) else .ok normalised

/-- `split` of a text at its blanks. -/
def words (value : Str) : List Str := (value.splitOnP isSpace).filter (· ≠ [])

/-- `" ".join(value.strip().upper().split())` -/
def vatText (value : Str) : Str := [' '].intercalate (words (upper u.toUnicode (strip value)))

def validateSwissVatNumber (value : Str) : Except Raised Str := do
  let normalised := vatText u value
  match vatSuffixes.find? fun suffix => reMatch u (vatNumberRe suffix) normalised with
  | none => throw (.refusal "VAT number must be in the format 'CHE-123.456.789 MWST' (or TVA / IVA).")
  | some suffix =>
    let uid ← validateSwissUid u (normalised.take 15)
    return uid ++ ' ' :: suffix

def ibanIsValid (value : Str) : Except Raised Bool :=
  let compact := upper u.toUnicode (sub isSpace value)
  if !reMatch u ibanRe compact then .ok false
  else do
    let rearranged := compact.drop 4 ++ compact.take 4
    let digits := rearranged.flatMap fun ch =>
      if u.isAlpha ch then Nat.toDigits 10 (ch.toNat - 55) else [ch]
    let number ← int u digits
    .ok (number % 97 == 1)

def validateIban (value : Str) : Except Raised Str := do
  let compact := upper u.toUnicode (sub isSpace value)
  let valid ← ibanIsValid u compact
  if !valid then
    .error (.refusal ("IBAN is not valid — it must be an ISO 13616 IBAN whose ISO 7064 mod-97 check " ++
      "passes, e.g. 'CH93 0076 2011 6238 5295 7'."))
  else .ok compact

end

/-! ### The grammars -/

/-- ISO 7064: letters count as 10 to 35, the first four characters stand at the end. -/
def ibanNumber (isDigit : Char → Bool) (value : Char → ℕ) (t : Str) : ℕ :=
  (t.drop 4 ++ t.take 4).foldl
    (fun n c => if isDigit c then 10 * n + value c else 100 * n + (c.toNat - 55)) 0

/-- The weighted sum of the digits of a UID, the check digit among them. -/
def uidSum (t : Str) : ℕ :=
  (List.zipWith (· * ·) ((t.filter Char.isDigit).map fun c => c.toNat - 48) (uidWeights ++ [1])).sum

def IsUid (t : Str) : Prop := Matches Char.isDigit uidRe t ∧ uidSum t % 11 = 0

def IsVatNumber (t : Str) : Prop :=
  (∃ suffix ∈ vatSuffixes, Matches Char.isDigit (vatNumberRe suffix) t) ∧ uidSum t % 11 = 0

def IsIban (t : Str) : Prop :=
  Matches Char.isDigit ibanRe t ∧ ibanNumber Char.isDigit (fun c => c.toNat - 48) t % 97 = 1

section Patterns

variable {u : Tables} {re : Pattern} {t : Str}

/-- The texts on which a pattern strays from its grammar: it stops before a last newline, or takes a
digit of another script. -/
def Strays (u : Tables) (re : Pattern) (t : Str) : Prop :=
  (reMatch u re t = true ∧ ¬ Matches u.isDecimal re t) ∨
    (Matches u.isDecimal re t ∧ ∃ c ∈ t, u.isDecimal c = true ∧ c.isDigit = false)

/-- Beside its open class a pattern has ASCII characters and blanks. -/
def Narrow (re : Pattern) : Prop :=
  ∀ p ∈ re, ∀ f, p.cls = .of f → ∀ c, f c = true → c.toNat < 128 ∨ isSpace c = true

theorem toNat_of_isDigit {c : Char} (h : c.isDigit = true) : 48 ≤ c.toNat ∧ c.toNat ≤ 57 := by
  obtain ⟨hlow, hhigh⟩ := Bool.and_eq_true_iff.mp h
  exact ⟨UInt32.le_iff_toNat_le.mp (of_decide_eq_true hlow),
    UInt32.le_iff_toNat_le.mp (of_decide_eq_true hhigh)⟩

theorem isDecimal_of_isDigit {c : Char} (h : c.isDigit = true) : u.isDecimal c = true := by
  rw [u.decimal_ascii c (by have := toNat_of_isDigit h; omega)]
  exact h

theorem isDigit_of_matches (hre : Narrow re) (h : Matches Char.isDigit re t) {c : Char}
    (hc : c ∈ t) (hdecimal : u.isDecimal c = true) : c.isDigit = true := by
  obtain ⟨p, hp, hholds⟩ := h.mem c hc
  cases hcls : p.cls with
  | hole =>
    rw [hcls] at hholds
    exact hholds
  | of f =>
    rw [hcls] at hholds
    rcases hre p hp f hcls c hholds with hascii | hspace
    · rw [← u.decimal_ascii c hascii]
      exact hdecimal
    · rw [u.space_decimal c hspace] at hdecimal
      cases hdecimal

/-- A pattern takes just its ASCII grammar, but for those two kinds of texts. -/
theorem exact_iff (hre : Narrow re) :
    (reMatch u re t = true ↔ Matches Char.isDigit re t) ↔ ¬ Strays u re t := by
  have hwiden : Matches Char.isDigit re t → Matches u.isDecimal re t := fun h =>
    h.mono fun c _ hc => isDecimal_of_isDigit hc
  have hmatch : Matches u.isDecimal re t → reMatch u re t = true := fun h =>
    Bool.or_eq_true_iff.mpr (.inl (fullmatch_iff.mpr h))
  unfold Strays
  constructor
  · rintro hiff (⟨h, hno⟩ | ⟨h, c, hc, hdecimal, hdigit⟩)
    · exact hno (hwiden (hiff.mp h))
    · rw [isDigit_of_matches hre (hiff.mp (hmatch h)) hc hdecimal] at hdigit
      cases hdigit
  · intro hno
    push Not at hno
    constructor
    · intro h
      have hfull : Matches u.isDecimal re t := hno.1 h
      refine hfull.mono fun c hc hdecimal => ?_
      simpa using hno.2 hfull c hc hdecimal
    · intro h
      exact hmatch (hwiden h)

theorem narrow_digits {low high : ℕ} (h : Narrow re) : Narrow (digits low high :: re) := by
  intro p hp f hf
  rcases List.mem_cons.mp hp with rfl | hp
  · cases hf
  · exact h p hp f hf

theorem narrow_of {f : Char → Bool} {low high : ℕ}
    (hf : ∀ c, f c = true → c.toNat < 128 ∨ isSpace c = true) (h : Narrow re) :
    Narrow (⟨.of f, low, high⟩ :: re) := by
  intro p hp g hg
  rcases List.mem_cons.mp hp with rfl | hp
  · cases hg
    exact hf
  · exact h p hp g hg

theorem narrow_nil : Narrow [] := by
  intro p hp
  cases hp

theorem ascii_of_isCapital {c : Char} (h : isCapital c = true) : c.toNat < 128 ∨ isSpace c = true :=
  .inl (isCapital_cases h).1

theorem ascii_of_isDigit {c : Char} (h : c.isDigit = true) : c.toNat < 128 ∨ isSpace c = true :=
  ascii_of_isCapital (Bool.or_eq_true_iff.mpr (.inr h))

theorem ascii_of_isUpper {c : Char} (h : c.isUpper = true) : c.toNat < 128 ∨ isSpace c = true :=
  ascii_of_isCapital (Bool.or_eq_true_iff.mpr (.inl h))

theorem ascii_of_isAlpha {c : Char} (h : c.isAlpha = true) : c.toNat < 128 ∨ isSpace c = true := by
  rcases Bool.or_eq_true_iff.mp h with h | h
  · exact ascii_of_isUpper h
  · have hhigh : c.toNat ≤ 122 :=
      UInt32.le_iff_toNat_le.mp (of_decide_eq_true (Bool.and_eq_true_iff.mp h).2)
    exact .inl (by omega)

/-- The patterns of the validators that return what they are given. -/
def plainPatterns : List Pattern :=
  [e164Re, postalCodeRe, houseNumberRe, vinRe, chassisNumberRe]

theorem narrow_plainPatterns : ∀ re ∈ plainPatterns, Narrow re := by
  have hplus : ∀ c : Char, (c == '+') = true → c.toNat < 128 ∨ isSpace c = true := by
    intro c hc
    rw [eq_of_beq hc]
    exact .inl (by decide)
  intro re hre
  simp only [plainPatterns, List.mem_cons, List.not_mem_nil, or_false] at hre
  rcases hre with rfl | rfl | rfl | rfl | rfl
  · exact narrow_of hplus (narrow_of (fun _ hc => ascii_of_isDigit (Bool.and_eq_true_iff.mp hc).1)
      (narrow_digits narrow_nil))
  · exact narrow_digits narrow_nil
  · exact narrow_digits (narrow_of (fun _ hc => .inr hc)
      (narrow_of (fun _ hc => ascii_of_isAlpha hc) narrow_nil))
  · exact narrow_of (fun _ hc => ascii_of_isCapital (Bool.and_eq_true_iff.mp hc).1) narrow_nil
  · exact narrow_of (fun _ hc => ascii_of_isCapital hc) narrow_nil

theorem narrow_ibanRe : Narrow ibanRe :=
  narrow_of (fun _ hc => ascii_of_isUpper hc) (narrow_digits
    (narrow_of (fun _ hc => ascii_of_isCapital hc) narrow_nil))

end Patterns

section Texts

variable {u : Tables} {t : Str}

theorem reMatch_iff (re : Pattern) (ht : t.getLast? ≠ some '\n') :
    reMatch u re t = true ↔ Matches u.isDecimal re t := by
  rw [reMatch, matchesToEnd, Bool.or_eq_true_iff, fullmatch_iff]
  simp [ht]

theorem mem_upper {c : Char} (hc : c ∈ upper u.toUnicode t) (hspace : isSpace c = true) :
    ∃ d ∈ t, isSpace d = true := by
  obtain ⟨d, hd, hcd⟩ := List.mem_flatMap.mp hc
  exact ⟨d, hd, u.upper_blank d c hcd hspace⟩

theorem not_space_normaliseVin : ∀ c ∈ normaliseVin u t, isSpace c = false := by
  intro c hc
  by_contra hspace
  obtain ⟨d, hd, hdspace⟩ := mem_upper hc (by simpa using hspace)
  simpa [hdspace] using (List.mem_filter.mp hd).2

theorem getLast?_ne (ht : ∀ c ∈ t, isSpace c = false) : t.getLast? ≠ some '\n' := by
  intro h
  exact absurd (ht '\n' (List.mem_of_getLast? h)) (by decide)

theorem normaliseVin_twice : normaliseVin u (normaliseVin u t) = normaliseVin u t := by
  have hsub : sub isSpace (normaliseVin u t) = normaliseVin u t := by
    refine List.filter_eq_self.mpr fun c hc => ?_
    rw [not_space_normaliseVin c hc]
    rfl
  have hupper : ∀ s : Str, upper u.toUnicode (upper u.toUnicode s) = upper u.toUnicode s := by
    intro s
    unfold upper
    rw [List.flatMap_assoc]
    simp only [u.upper_upper]
  conv_lhs => rw [normaliseVin, hsub]
  exact hupper _

theorem getLast?_upper_strip : (upper u.toUnicode (strip t)).getLast? ≠ some '\n' := by
  intro h
  have hlast : ∀ hl : strip t ≠ [], ¬ isSpace ((strip t).getLast hl) = true := fun hl =>
    List.rdropWhile_last_not _ _ hl
  generalize strip t = s at h hlast
  rcases List.eq_nil_or_concat s with rfl | ⟨s, c, rfl⟩
  · cases h
  · have hc : ¬ isSpace c = true := by simpa using hlast (by simp)
    rw [List.concat_eq_append, upper, List.flatMap_append, List.getLast?_append] at h
    simp only [List.flatMap_singleton] at h
    rw [List.getLast?_eq_some_getLast (u.upper_ne_nil c), Option.some_or] at h
    have hmem := List.getLast_mem (u.upper_ne_nil c)
    rw [Option.some.inj h] at hmem
    exact hc (u.upper_blank c '\n' hmem (by decide))

theorem strip_eq (hhead : ∀ c, t.head? = some c → isSpace c = false)
    (hlast : ∀ c, t.getLast? = some c → isSpace c = false) : strip t = t := by
  have hleft : t.dropWhile isSpace = t := by
    cases t with
    | nil => rfl
    | cons c t => rw [List.dropWhile_cons_of_neg (by rw [hhead c rfl]; exact Bool.false_ne_true)]
  unfold strip
  rw [hleft, List.rdropWhile_eq_self_iff]
  intro hl
  rw [hlast _ (List.getLast?_eq_some_getLast hl)]
  exact Bool.false_ne_true

end Texts

section Uid

variable {u : Tables} {hole : Char → Bool} {ps : Pattern} {t : Str}

def AllDigits (t : Str) : Prop := ∀ c ∈ t, c.isDigit = true

theorem matches_lit {c : Char} :
    Matches hole (lit c :: ps) t ↔ ∃ rest, t = c :: rest ∧ Matches hole ps rest := by
  constructor
  · intro h
    cases h with
    | @cons _ _ run rest hlow hhigh hrun hrest =>
      obtain ⟨d, rfl⟩ := List.length_eq_one_iff.mp (Nat.le_antisymm hhigh hlow)
      obtain rfl : d = c := eq_of_beq (hrun d List.mem_cons_self)
      exact ⟨rest, rfl, hrest⟩
  · rintro ⟨rest, rfl, hrest⟩
    have hrun : ∀ d ∈ [c], (lit c).cls.holds hole d = true := by
      intro d hd
      rw [List.mem_singleton.mp hd]
      exact beq_self_eq_true c
    show Matches hole (lit c :: ps) ([c] ++ rest)
    refine .cons ?_ ?_ hrun hrest <;> exact Nat.le_refl 1

theorem matches_threeDigits : Matches hole (threeDigits :: ps) t ↔
    ∃ a rest, t = a ++ rest ∧ a.length = 3 ∧ AllDigits a ∧ Matches hole ps rest := by
  constructor
  · intro h
    cases h with
    | @cons _ _ run rest hlow hhigh hrun hrest =>
      exact ⟨run, rest, rfl, Nat.le_antisymm hhigh hlow, hrun, hrest⟩
  · rintro ⟨a, rest, rfl, hlength, hdigits, hrest⟩
    exact .cons (Nat.le_of_eq hlength.symm) (Nat.le_of_eq hlength) hdigits hrest

theorem matches_lits {s : Str} : Matches hole (s.map lit) t ↔ t = s := by
  induction s generalizing t with
  | nil =>
    constructor
    · rintro ⟨⟩
      rfl
    · rintro rfl
      exact .nil
  | cons c s ih =>
    rw [List.map_cons, matches_lit]
    simp only [ih]
    constructor
    · rintro ⟨rest, rfl, rfl⟩
      rfl
    · rintro rfl
      exact ⟨s, rfl, rfl⟩

def UidShape (t a b c : Str) : Prop :=
  t = 'C' :: 'H' :: 'E' :: '-' :: (a ++ '.' :: (b ++ '.' :: c)) ∧
    (a.length = 3 ∧ b.length = 3 ∧ c.length = 3) ∧ AllDigits (a ++ (b ++ c))

theorem matches_uid_append : Matches hole (uidRe ++ ps) t ↔
    ∃ uid rest, t = uid ++ rest ∧ (∃ a b c, UidShape uid a b c) ∧ Matches hole ps rest := by
  simp only [uidRe, List.cons_append, List.nil_append, matches_lit, matches_threeDigits]
  constructor
  · rintro ⟨_, rfl, _, rfl, _, rfl, _, rfl, a, _, rfl, ha, hda, _, rfl, b, _, rfl, hb, hdb, _, rfl, c,
      rest, rfl, hc, hdc, hrest⟩
    refine ⟨'C' :: 'H' :: 'E' :: '-' :: (a ++ '.' :: (b ++ '.' :: c)), rest, ?_,
      ⟨a, b, c, rfl, ⟨ha, hb, hc⟩, ?_⟩, hrest⟩
    · simp only [List.cons_append, List.append_assoc]
    · exact List.forall_mem_append.mpr ⟨hda, List.forall_mem_append.mpr ⟨hdb, hdc⟩⟩
  · rintro ⟨_, rest, rfl, ⟨a, b, c, rfl, ⟨ha, hb, hc⟩, hd⟩, hrest⟩
    obtain ⟨hda, hd⟩ := List.forall_mem_append.mp hd
    obtain ⟨hdb, hdc⟩ := List.forall_mem_append.mp hd
    simp only [List.cons_append, List.append_assoc]
    exact ⟨_, rfl, _, rfl, _, rfl, _, rfl, a, _, rfl, ha, hda, _, rfl, b, _, rfl, hb, hdb, _, rfl, c,
      rest, rfl, hc, hdc, hrest⟩

theorem matches_uid : Matches hole uidRe t ↔ ∃ a b c, UidShape t a b c := by
  rw [← List.append_nil uidRe, matches_uid_append]
  constructor
  · rintro ⟨uid, rest, rfl, h, ⟨⟩⟩
    rwa [List.append_nil]
  · intro h
    exact ⟨t, [], (List.append_nil t).symm, h, .nil⟩

theorem digits_of_shape {a b c : Str} (h : UidShape t a b c) :
    (t.drop 4).filter (· ≠ '.') = a ++ (b ++ c) ∧ t.filter Char.isDigit = a ++ (b ++ c) := by
  obtain ⟨rfl, -, hdigits⟩ := h
  have hdot : ∀ d : Char, d.isDigit = true → decide (d ≠ '.') = true := by
    rintro d hd
    refine decide_eq_true ?_
    rintro rfl
    exact absurd hd (by decide)
  obtain ⟨ha, hbc⟩ := List.forall_mem_append.mp hdigits
  obtain ⟨hb, hc⟩ := List.forall_mem_append.mp hbc
  have hkeep : ∀ s : Str, AllDigits s → s.filter (· ≠ '.') = s ∧ s.filter Char.isDigit = s :=
    fun s hs => ⟨List.filter_eq_self.mpr fun d hd => hdot d (hs d hd), List.filter_eq_self.mpr hs⟩
  constructor
  · show (a ++ '.' :: (b ++ '.' :: c)).filter (· ≠ '.') = _
    rw [List.filter_append, List.filter_cons_of_neg (by decide), List.filter_append,
      List.filter_cons_of_neg (by decide), (hkeep a ha).1, (hkeep b hb).1, (hkeep c hc).1]
  · show (a ++ '.' :: (b ++ '.' :: c)).filter Char.isDigit = _
    rw [List.filter_append, List.filter_cons_of_neg (by decide), List.filter_append,
      List.filter_cons_of_neg (by decide), (hkeep a ha).2, (hkeep b hb).2, (hkeep c hc).2]

theorem int_digit {c : Char} (hc : c.isDigit = true) : int u [c] = .ok (c.toNat - 48) := by
  rw [int, if_pos ⟨List.cons_ne_nil _ _, by simp [isDecimal_of_isDigit hc]⟩]
  simp [u.decimal_value c hc]

theorem mapM_int {ds : Str} (h : AllDigits ds) :
    ds.mapM (fun d => int u [d]) = .ok (ds.map fun c => c.toNat - 48) := by
  induction ds with
  | nil => rfl
  | cons d ds ih =>
    obtain ⟨hd, hds⟩ := List.forall_mem_cons.mp h
    rw [List.mapM_cons, int_digit hd, ih hds]
    rfl

theorem uidCheckDigit_eq {ds : Str} {d : Char} (hds : AllDigits (ds ++ [d])) {expected : Option ℕ}
    (h : uidCheckDigit u ds = .ok expected) (hlength : ds.length = 8) :
    expected = some (d.toNat - 48) ↔
      (List.zipWith (· * ·) ((ds ++ [d]).map fun c => c.toNat - 48) (uidWeights ++ [1])).sum % 11 = 0 := by
  obtain ⟨hinit, hlast⟩ := List.forall_mem_append.mp hds
  have hd := toNat_of_isDigit (hlast d List.mem_cons_self)
  rw [List.map_append, List.zipWith_append (by simp [uidWeights, hlength]), List.sum_append]
  unfold uidCheckDigit at h
  rw [mapM_int hinit] at h
  have h := Except.ok.inj h
  generalize (List.zipWith (· * ·) (ds.map fun c => c.toNat - 48) uidWeights).sum = s at h ⊢
  rw [← h]
  simp only [List.map_cons, List.map_nil, List.zipWith_cons_cons, List.zipWith_nil_left,
    List.sum_cons, List.sum_nil]
  split_ifs <;> simp <;> omega

/-- **The check digit** makes the weighted sum of all nine a multiple of 11. -/
theorem validateSwissUid_spec (u : Tables) (value : Str) :
    (IsUid (upper u.toUnicode (strip value)) ∧
      validateSwissUid u value = .ok (upper u.toUnicode (strip value))) ∨
    (¬ IsUid (upper u.toUnicode (strip value)) ∧
      ∃ m, validateSwissUid u value = .error (.refusal m)) := by
  have hmatch := reMatch_iff (u := u) uidRe (getLast?_upper_strip (u := u) (t := value))
  unfold validateSwissUid IsUid
  generalize upper u.toUnicode (strip value) = n at hmatch
  rw [matches_uid] at hmatch ⊢
  dsimp only
  by_cases hshape : ∃ a b c, UidShape n a b c
  · rw [hmatch.mpr hshape, if_neg (by decide)]
    simp only [hshape, true_and]
    obtain ⟨a, b, c, h⟩ := hshape
    obtain ⟨hdrop, hfilter⟩ := digits_of_shape h
    obtain ⟨-, ⟨ha, hb, hc⟩, hdigits⟩ := h
    rw [hdrop, uidSum, hfilter]
    have hlength : (a ++ (b ++ c)).length = 9 := by simp [ha, hb, hc]
    generalize a ++ (b ++ c) = ds at hdigits hlength
    obtain ⟨init, d, rfl⟩ := List.eq_nil_or_concat' ds |>.resolve_left (by rintro rfl; cases hlength)
    have hinit : init.length = 8 := by simpa using hlength
    have hd : d.isDigit = true := hdigits d (List.mem_append_right _ List.mem_cons_self)
    have hget : (init ++ [d])[8]? = some d := by
      rw [List.getElem?_append_right (by omega), hinit]
      rfl
    obtain ⟨expected, hexpected⟩ : ∃ expected, uidCheckDigit u init = .ok expected := by
      unfold uidCheckDigit
      rw [mapM_int (List.forall_mem_append.mp hdigits).1]
      exact ⟨_, rfl⟩
    rw [List.take_left' hinit, hexpected, hget, ← uidCheckDigit_eq hdigits hexpected hinit]
    cases expected with
    | none => exact .inr ⟨nofun, _, rfl⟩
    | some expected =>
      show _ ∧ (int u [d] >>= _) = _ ∨ _ ∧ ∃ m, (int u [d] >>= _) = _
      rw [int_digit hd]
      by_cases heq : expected = d.toNat - 48
      · exact .inl ⟨congrArg some heq, if_neg (not_not.mpr heq)⟩
      · exact .inr ⟨fun h => heq (Option.some.inj h), _, if_pos heq⟩
  · have hno : reMatch u uidRe n = false := by simpa using mt hmatch.mp hshape
    rw [hno]
    exact .inr ⟨fun h => hshape h.1, _, rfl⟩

theorem upper_ascii_of {c : Char} (h : isCapital c = true ∨ c = '-' ∨ c = '.' ∨ c = ' ') :
    u.upper c = [c] := by
  rcases h with h | rfl | rfl | rfl
  · rw [u.upper_ascii c (isCapital_cases h).1, (isCapital_cases h).2.1]
  all_goals exact u.upper_ascii _ (by decide)

theorem not_space_of_isCapital {c : Char} (h : isCapital c = true) : isSpace c = false := by
  have ascii : ∀ n : Fin 128, isCapital (Char.ofNat n) = true → isSpace (Char.ofNat n) = false := by
    decide +kernel
  have hc := ascii ⟨c.toNat, (isCapital_cases h).1⟩
  rw [Char.ofNat_toNat] at hc
  exact hc h

theorem uid_chars (h : Matches hole uidRe t) : ∀ c ∈ t, isCapital c = true ∨ c = '-' ∨ c = '.' := by
  obtain ⟨a, b, c, rfl, -, hdigits⟩ := matches_uid.mp h
  obtain ⟨ha, hd⟩ := List.forall_mem_append.mp hdigits
  obtain ⟨hb, hc⟩ := List.forall_mem_append.mp hd
  have hcapital : ∀ s, AllDigits s → ∀ c ∈ s, isCapital c = true ∨ c = '-' ∨ c = '.' :=
    fun s hs c hc => .inl (Bool.or_eq_true_iff.mpr (.inr (hs c hc)))
  simp only [List.forall_mem_cons, List.forall_mem_append]
  exact ⟨by decide, by decide, by decide, by simp, hcapital a ha, by simp, hcapital b hb, by simp,
    hcapital c hc⟩

theorem not_space_uid (h : Matches hole uidRe t) : ∀ c ∈ t, isSpace c = false := by
  intro c hc
  rcases uid_chars h c hc with hc | rfl | rfl
  · exact not_space_of_isCapital hc
  · decide
  · decide

theorem upper_strip_uid (h : Matches hole uidRe t) : upper u.toUnicode (strip t) = t := by
  have hspace := not_space_uid h
  rw [strip_eq (fun c hc => hspace c (List.mem_of_head? hc))
    fun c hc => hspace c (List.mem_of_getLast? hc)]
  refine FirstMatch.settled fun c hc => upper_ascii_of ?_
  rcases uid_chars h c hc with hc | rfl | rfl <;> simp [*]

theorem matches_vat {suffix : Str} : Matches hole (vatNumberRe suffix) t ↔
    ∃ uid, Matches Char.isDigit uidRe uid ∧ (t = uid ++ suffix ∨ t = uid ++ ' ' :: suffix) := by
  rw [vatNumberRe, matches_uid_append]
  simp only [← @matches_uid Char.isDigit]
  constructor
  · rintro ⟨uid, rest, rfl, huid, hrest⟩
    refine ⟨uid, huid, ?_⟩
    cases hrest with
    | @cons _ _ run rest hlow hhigh hrun hrest =>
      obtain rfl := matches_lits.mp hrest
      rcases run with _ | ⟨c, _ | ⟨d, run⟩⟩
      · exact .inl rfl
      · obtain rfl : c = ' ' := eq_of_beq (hrun c List.mem_cons_self)
        exact .inr rfl
      · simp at hhigh
  · rintro ⟨uid, huid, rfl | rfl⟩
    · refine ⟨uid, suffix, rfl, huid, ?_⟩
      show Matches hole (_ :: _) ([] ++ suffix)
      exact .cons (Nat.zero_le _) (Nat.zero_le _) (by simp) (matches_lits.mpr rfl)
    · refine ⟨uid, ' ' :: suffix, rfl, huid, ?_⟩
      show Matches hole (_ :: _) ([' '] ++ suffix)
      exact .cons (Nat.zero_le _) (Nat.le_refl 1) (by simp [Cls.holds]) (matches_lits.mpr rfl)

theorem not_space_words (value : Str) : ∀ part ∈ value.splitOnP isSpace, ∀ c ∈ part, isSpace c = false := by
  induction value with
  | nil => simp
  | cons c value ih =>
    rw [List.splitOnP_cons_eq_if_modifyHead]
    obtain ⟨first, parts, hparts⟩ := List.exists_cons_of_ne_nil (List.splitOnP_ne_nil isSpace value)
    rw [hparts] at ih ⊢
    obtain ⟨hfirst, hrest⟩ := List.forall_mem_cons.mp ih
    split
    · exact List.forall_mem_cons.mpr ⟨by simp, ih⟩
    · rename_i hc
      refine List.forall_mem_cons.mpr ⟨List.forall_mem_cons.mpr ⟨by simpa using hc, hfirst⟩, hrest⟩

theorem mem_intercalate {parts : List Str} {c : Char} (h : c ∈ [' '].intercalate parts) :
    c = ' ' ∨ ∃ part ∈ parts, c ∈ part := by
  induction parts with
  | nil => cases h
  | cons part parts ih =>
    cases parts with
    | nil => exact .inr ⟨part, List.mem_cons_self, by simpa using h⟩
    | cons next parts =>
      rw [List.intercalate_cons_cons, List.mem_append, List.mem_append, List.mem_singleton] at h
      rcases h with (h | h) | h
      · exact .inr ⟨part, List.mem_cons_self, h⟩
      · exact .inl h
      · refine (ih h).imp_right ?_
        rintro ⟨p, hp, hc⟩
        exact ⟨p, List.mem_cons_of_mem _ hp, hc⟩

theorem getLast?_vatText (value : Str) : (vatText u value).getLast? ≠ some '\n' := by
  intro h
  rcases mem_intercalate (List.mem_of_getLast? h) with h | ⟨part, hpart, hc⟩
  · cases h
  · have hspace := not_space_words _ part (List.mem_filter.mp hpart).1 '\n' hc
    cases hspace

theorem vatText_eq {uid suffix : Str} (huid : Matches hole uidRe uid) (hs : suffix ∈ vatSuffixes) :
    vatText u (uid ++ ' ' :: suffix) = uid ++ ' ' :: suffix := by
  have hall : ∀ s ∈ vatSuffixes, s ≠ [] ∧ s.all isCapital = true := by decide
  have hsuffix : suffix ≠ [] ∧ (∀ c ∈ suffix, isCapital c = true) :=
    ⟨(hall _ hs).1, List.all_eq_true.mp (hall _ hs).2⟩
  have hspace : ∀ c ∈ suffix, isSpace c = false := fun c hc =>
    not_space_of_isCapital (hsuffix.2 c hc)
  have hne : uid ≠ [] := by
    obtain ⟨a, b, c, rfl, -⟩ := matches_uid.mp huid
    exact List.cons_ne_nil _ _
  have hstrip : strip (uid ++ ' ' :: suffix) = uid ++ ' ' :: suffix := by
    refine strip_eq ?_ ?_ <;> intro c hc
    · rw [List.head?_append_of_ne_nil _ hne] at hc
      exact not_space_uid huid c (List.mem_of_head? hc)
    · rw [List.getLast?_append, List.getLast?_cons, List.getLast?_eq_some_getLast hsuffix.1] at hc
      exact hspace c (Option.some.inj hc ▸ List.getLast_mem hsuffix.1)
  have hupper : upper u.toUnicode (uid ++ ' ' :: suffix) = uid ++ ' ' :: suffix := by
    refine FirstMatch.settled fun c hc => upper_ascii_of ?_
    rcases List.mem_append.mp hc with hc | hc
    · rcases uid_chars huid c hc with hc | rfl | rfl <;> simp [*]
    · rcases List.mem_cons.mp hc with rfl | hc
      · simp
      · exact .inl (hsuffix.2 c hc)
  unfold vatText words
  rw [hstrip, hupper, List.splitOnP_append_cons_of_forall_mem (not_space_uid huid) ' ' (by decide),
    List.splitOnP_eq_singleton hspace]
  simp [hne, hsuffix.1]

theorem uidSum_append {uid suffix : Str} (hs : suffix ∈ vatSuffixes) :
    uidSum (uid ++ suffix) = uidSum uid ∧ uidSum (uid ++ ' ' :: suffix) = uidSum uid := by
  have hsuffix : suffix.filter Char.isDigit = [] ∧ (' ' :: suffix).filter Char.isDigit = [] := by
    revert suffix
    decide
  unfold uidSum
  rw [List.filter_append, List.filter_append, hsuffix.1, hsuffix.2, List.append_nil]
  exact ⟨rfl, rfl⟩

theorem validateSwissVatNumber_spec (u : Tables) (value : Str) :
    (IsVatNumber (vatText u value) ∧ ∃ suffix ∈ vatSuffixes, ∃ uid, IsUid uid ∧
      (vatText u value = uid ++ suffix ∨ vatText u value = uid ++ ' ' :: suffix) ∧
      validateSwissVatNumber u value = .ok (uid ++ ' ' :: suffix)) ∨
    (¬ IsVatNumber (vatText u value) ∧
      ∃ m, validateSwissVatNumber u value = .error (.refusal m)) := by
  have hmatch := fun suffix => reMatch_iff (u := u) (vatNumberRe suffix) (getLast?_vatText (u := u) value)
  unfold validateSwissVatNumber IsVatNumber
  generalize vatText u value = n at hmatch
  cases hfind : vatSuffixes.find? fun suffix => reMatch u (vatNumberRe suffix) n with
  | none =>
    simp only [hfind]
    refine .inr ⟨?_, _, rfl⟩
    rintro ⟨⟨suffix, hs, hn⟩, -⟩
    refine List.find?_eq_none.mp hfind suffix hs ((hmatch suffix).mpr ?_)
    exact matches_vat.mpr (matches_vat.mp hn)
  | some suffix =>
    have hs := List.mem_of_find?_eq_some hfind
    have hfound := List.find?_some hfind
    beta_reduce at hfound
    rw [hmatch suffix, matches_vat] at hfound
    obtain ⟨uid, huid, hn⟩ := hfound
    have hsum : uidSum n = uidSum uid := by
      rcases hn with rfl | rfl
      · exact (uidSum_append hs).1
      · exact (uidSum_append hs).2
    have htake : n.take 15 = uid := by
      obtain ⟨a, b, c, hshape, ⟨ha, hb, hc⟩, -⟩ := matches_uid.mp huid
      have hlength : uid.length = 15 := by simp [hshape, ha, hb, hc]
      rcases hn with rfl | rfl <;> exact List.take_left' hlength
    have hspec := validateSwissUid_spec u uid
    rw [upper_strip_uid huid] at hspec
    simp only [hfind, htake, hsum]
    rcases hspec with ⟨hvalid, hok⟩ | ⟨hinvalid, m, herror⟩
    · rw [hok]
      exact .inl ⟨⟨⟨suffix, hs, matches_vat.mpr ⟨uid, huid, hn⟩⟩, hvalid.2⟩, suffix, hs, uid, hvalid, hn, rfl⟩
    · rw [herror]
      exact .inr ⟨fun h => hinvalid ⟨huid, h.2⟩, m, rfl⟩

end Uid

section Iban

variable {u : Tables} {t : Str}

def ibanText (u : Tables) (t : Str) : Str :=
  t.flatMap fun ch => if u.isAlpha ch then Nat.toDigits 10 (ch.toNat - 55) else [ch]

theorem isAlpha_of_isUpper {c : Char} (h : c.isUpper = true) : u.isAlpha c = true := by
  rw [u.alpha_ascii c (isCapital_cases (Bool.or_eq_true_iff.mpr (.inl h))).1]
  exact Bool.or_eq_true_iff.mpr (.inl h)

theorem toDigits_of_isUpper {c : Char} (h : c.isUpper = true) :
    ∃ a b : Char, Nat.toDigits 10 (c.toNat - 55) = [a, b] ∧ a.isDigit = true ∧ b.isDigit = true ∧
      10 * (a.toNat - 48) + (b.toNat - 48) = c.toNat - 55 := by
  have hall : ∀ n : Fin 26, ∃ a b : Fin 10, Nat.toDigits 10 (n + 10) =
      [Char.ofNat (a + 48), Char.ofNat (b + 48)] ∧ (Char.ofNat (a + 48)).isDigit = true ∧
      (Char.ofNat (b + 48)).isDigit = true ∧
      10 * ((Char.ofNat (a + 48)).toNat - 48) + ((Char.ofNat (b + 48)).toNat - 48) = n + 10 := by
    decide +kernel
  have hlow : 65 ≤ c.toNat := UInt32.le_iff_toNat_le.mp (of_decide_eq_true h).1
  have hhigh : c.toNat ≤ 90 := UInt32.le_iff_toNat_le.mp (of_decide_eq_true h).2
  obtain ⟨a, b, hdigits, ha, hb, hvalue⟩ := hall ⟨c.toNat - 65, by omega⟩
  have hn : c.toNat - 65 + 10 = c.toNat - 55 := by omega
  rw [hn] at hdigits hvalue
  exact ⟨_, _, hdigits, ha, hb, hvalue⟩

theorem ibanText_spec (h : ∀ c ∈ t, c.isUpper = true ∨ u.isDecimal c = true) :
    t.length ≤ (ibanText u t).length ∧ (ibanText u t).all u.isDecimal = true ∧
    ∀ n, (ibanText u t).foldl (fun n c => 10 * n + u.decimal c) n =
      t.foldl (fun n c => if u.isDecimal c then 10 * n + u.decimal c else 100 * n + (c.toNat - 55)) n := by
  induction t with
  | nil => exact ⟨Nat.le_refl _, rfl, fun n => rfl⟩
  | cons c t ih =>
    obtain ⟨hc, ht⟩ := List.forall_mem_cons.mp h
    obtain ⟨hlength, hall, hfold⟩ := ih ht
    unfold ibanText at hlength hall hfold ⊢
    rw [List.flatMap_cons]
    by_cases hdecimal : u.isDecimal c = true
    · rw [if_neg (by simp [u.alpha_decimal c hdecimal])]
      refine ⟨by simpa using hlength, by simpa [hdecimal] using hall, fun n => ?_⟩
      rw [List.singleton_append, List.foldl_cons, List.foldl_cons, if_pos hdecimal, hfold]
    · have hupper := hc.resolve_right hdecimal
      obtain ⟨a, b, hdigits, ha, hb, hvalue⟩ := toDigits_of_isUpper hupper
      rw [if_pos (isAlpha_of_isUpper hupper), hdigits]
      refine ⟨Nat.succ_le_succ (Nat.le_succ_of_le hlength),
        by simpa [isDecimal_of_isDigit ha, isDecimal_of_isDigit hb] using hall, fun n => ?_⟩
      have hnumber : 10 * (10 * n + u.decimal a) + u.decimal b = 100 * n + (c.toNat - 55) := by
        rw [u.decimal_value a ha, u.decimal_value b hb]
        omega
      simp only [List.cons_append, List.nil_append, List.foldl_cons, if_neg hdecimal, hnumber, hfold]

theorem iban_chars (h : Matches u.isDecimal ibanRe t) :
    ∀ c ∈ t, c.isUpper = true ∨ u.isDecimal c = true := by
  intro c hc
  obtain ⟨p, hp, hholds⟩ := h.mem c hc
  simp only [ibanRe, List.mem_cons, List.not_mem_nil, or_false] at hp
  rcases hp with rfl | rfl | rfl
  · exact .inl hholds
  · exact .inr hholds
  · exact (Bool.or_eq_true_iff.mp hholds).imp_right isDecimal_of_isDigit

def TakenForIban (u : Tables) (t : Str) : Prop :=
  Matches u.isDecimal ibanRe t ∧ ibanNumber u.isDecimal u.decimal t % 97 = 1

theorem ibanIsValid_eq : ∃ valid, ibanIsValid u (normaliseVin u t) = .ok valid ∧
    (valid = true ↔ TakenForIban u (normaliseVin u t)) := by
  have hmatch := reMatch_iff (u := u) ibanRe (getLast?_ne (not_space_normaliseVin (u := u) (t := t)))
  have htwice : upper u.toUnicode (sub isSpace (normaliseVin u t)) = normaliseVin u t := normaliseVin_twice
  unfold ibanIsValid TakenForIban
  rw [htwice]
  generalize normaliseVin u t = n at hmatch
  dsimp only
  by_cases h : Matches u.isDecimal ibanRe n
  · rw [hmatch.mpr h, if_neg (by decide)]
    have hchars : ∀ c ∈ n.drop 4 ++ n.take 4, c.isUpper = true ∨ u.isDecimal c = true := by
      intro c hc
      rcases List.mem_append.mp hc with hc | hc
      · exact iban_chars h c (List.mem_of_mem_drop hc)
      · exact iban_chars h c (List.mem_of_mem_take hc)
    obtain ⟨hlength, hall, hfold⟩ := ibanText_spec hchars
    have hne : ibanText u (n.drop 4 ++ n.take 4) ≠ [] := by
      intro hnil
      rw [hnil, List.length_append, List.length_drop, List.length_take] at hlength
      cases h with
      | cons hlow =>
        rw [List.length_append] at hlength
        change 2 ≤ _ at hlow
        simp only [List.length_nil] at hlength
        omega
    have hint : int u (ibanText u (n.drop 4 ++ n.take 4)) =
        .ok (ibanNumber u.isDecimal u.decimal n) := by
      rw [int, if_pos ⟨hne, hall⟩, hfold]
      rfl
    unfold ibanText at hint
    rw [hint]
    exact ⟨_, rfl, by simp [h]⟩
  · rw [if_pos (by simpa using mt hmatch.mp h)]
    exact ⟨false, rfl, by simp [h]⟩

theorem validateIban_spec (u : Tables) (value : Str) :
    (TakenForIban u (normaliseVin u value) ∧ validateIban u value = .ok (normaliseVin u value)) ∨
    (¬ TakenForIban u (normaliseVin u value) ∧ ∃ m, validateIban u value = .error (.refusal m)) := by
  obtain ⟨valid, hvalid, hiff⟩ := ibanIsValid_eq (u := u) (t := value)
  rw [← hiff]
  show (_ ∧ (ibanIsValid u (normaliseVin u value) >>= _) = _) ∨
    (_ ∧ ∃ m, (ibanIsValid u (normaliseVin u value) >>= _) = _)
  rw [hvalid]
  cases valid with
  | true => exact .inl ⟨rfl, rfl⟩
  | false => exact .inr ⟨Bool.false_ne_true, _, rfl⟩

def StraysIban (u : Tables) (t : Str) : Prop :=
  TakenForIban u t ∧ ∃ c ∈ t, u.isDecimal c = true ∧ c.isDigit = false

theorem takenForIban_iff (h : ∀ c ∈ t, u.isDecimal c = true → c.isDigit = true) :
    TakenForIban u t ↔ IsIban t := by
  have hdigit : ∀ c ∈ t, u.isDecimal c = c.isDigit := fun c hc =>
    Bool.eq_iff_iff.mpr ⟨h c hc, isDecimal_of_isDigit⟩
  have hnumber : ibanNumber u.isDecimal u.decimal t =
      ibanNumber Char.isDigit (fun c => c.toNat - 48) t := by
    refine List.foldl_ext _ _ _ fun n c hc => ?_
    have hmem : c ∈ t := (List.mem_append.mp hc).elim List.mem_of_mem_drop List.mem_of_mem_take
    rw [hdigit c hmem]
    split
    · rename_i hc
      rw [u.decimal_value c hc]
    · rfl
  unfold TakenForIban IsIban
  rw [hnumber]
  exact and_congr_left fun _ => ⟨fun hm => hm.mono h, fun hm => hm.mono fun c _ => isDecimal_of_isDigit⟩

theorem iban_exact_iff : (TakenForIban u t ↔ IsIban t) ↔ ¬ StraysIban u t := by
  constructor
  · rintro hiff ⟨htaken, c, hc, hdecimal, hdigit⟩
    rw [isDigit_of_matches narrow_ibanRe (hiff.mp htaken).1 hc hdecimal] at hdigit
    cases hdigit
  · intro hno
    constructor
    · intro htaken
      refine (takenForIban_iff fun c hc hdecimal => ?_).mp htaken
      by_contra hdigit
      exact hno ⟨htaken, c, hc, hdecimal, by simpa using hdigit⟩
    · intro hiban
      exact (takenForIban_iff fun c hc => isDigit_of_matches narrow_ibanRe hiban.1 hc).mpr hiban

end Iban

section Validators

variable {u : Tables} {t : Str}

def Accepts (f : Str → Except Raised Str) (t : Str) : Prop := ∃ n, f t = .ok n

/-- A validator refuses the value, or returns one that it returns again. -/
def Settles (f : Str → Except Raised Str) (t : Str) : Prop :=
  (∃ n, f t = .ok n ∧ f n = .ok n) ∨ ∃ m, f t = .error (.refusal m)

def validators (u : Tables) : List (Str → Except Raised Str) :=
  [validateE164Phone u, validatePostalCode u, validateHouseNumber u, validateVin u,
    validateVinOrChassisNumber u, normalisedVinOrChassisNumber u, validateSwissUid u,
    validateSwissVatNumber u, validateIban u]

/-- Each validator accepts just its grammar, has stable normal forms and raises only refusals. -/
structure MeetsGrammars (u : Tables) (t : Str) : Prop where
  phone : Accepts (validateE164Phone u) t ↔ Matches Char.isDigit e164Re t
  postalCode : Accepts (validatePostalCode u) t ↔ Matches Char.isDigit postalCodeRe t
  houseNumber : Accepts (validateHouseNumber u) t ↔ Matches Char.isDigit houseNumberRe t
  vin : Accepts (validateVin u) t ↔ Matches Char.isDigit vinRe t
  chassisNumber : Accepts (validateVinOrChassisNumber u) t ↔ Matches Char.isDigit chassisNumberRe t
  typedChassisNumber : Accepts (normalisedVinOrChassisNumber u) t ↔
    Matches Char.isDigit chassisNumberRe (normaliseVin u t)
  uid : Accepts (validateSwissUid u) t ↔ IsUid (upper u.toUnicode (strip t))
  vatNumber : Accepts (validateSwissVatNumber u) t ↔ IsVatNumber (vatText u t)
  iban : Accepts (validateIban u) t ↔ IsIban (normaliseVin u t)
  settles : ∀ f ∈ validators u, Settles f t

theorem check_cases (re : Pattern) (m : String) (t : Str) :
    (reMatch u re t = true ∧ check u re m t = .ok t) ∨
      (reMatch u re t = false ∧ check u re m t = .error (.refusal m)) := by
  unfold check
  cases reMatch u re t with
  | true => exact .inl ⟨rfl, rfl⟩
  | false => exact .inr ⟨rfl, rfl⟩

theorem accepts_check {re : Pattern} {m : String} : Accepts (check u re m) t ↔ reMatch u re t = true := by
  unfold Accepts
  rcases check_cases (u := u) re m t with ⟨hmatch, h⟩ | ⟨hmatch, h⟩ <;> simp [hmatch, h]

theorem settles_check (re : Pattern) (m : String) : Settles (check u re m) t := by
  rcases check_cases (u := u) re m t with ⟨-, h⟩ | ⟨-, h⟩
  · exact .inl ⟨t, h, h⟩
  · exact .inr ⟨m, h⟩

theorem settles_typed : Settles (normalisedVinOrChassisNumber u) t := by
  unfold Settles normalisedVinOrChassisNumber validateVinOrChassisNumber
  rcases check_cases (u := u) chassisNumberRe _ (normaliseVin u t) with ⟨-, h⟩ | ⟨-, h⟩
  · refine .inl ⟨normaliseVin u t, h, ?_⟩
    rw [normaliseVin_twice]
    exact h
  · exact .inr ⟨_, h⟩

theorem settles_uid : Settles (validateSwissUid u) t := by
  rcases validateSwissUid_spec u t with ⟨hvalid, h⟩ | ⟨-, h⟩
  · refine .inl ⟨_, h, ?_⟩
    have hagain := validateSwissUid_spec u (upper u.toUnicode (strip t))
    rw [upper_strip_uid hvalid.1] at hagain
    exact (hagain.resolve_right fun h => h.1 hvalid).2
  · exact .inr h

theorem settles_vat : Settles (validateSwissVatNumber u) t := by
  rcases validateSwissVatNumber_spec u t with ⟨-, suffix, hs, uid, huid, -, h⟩ | ⟨-, h⟩
  · refine .inl ⟨_, h, ?_⟩
    have hagain := validateSwissVatNumber_spec u (uid ++ ' ' :: suffix)
    rw [vatText_eq huid.1 hs] at hagain
    have hvat : IsVatNumber (uid ++ ' ' :: suffix) :=
      ⟨⟨suffix, hs, matches_vat.mpr ⟨uid, huid.1, .inr rfl⟩⟩, by rw [(uidSum_append hs).2, huid.2]⟩
    obtain ⟨-, suffix', hs', uid', huid', htext, hok⟩ := hagain.resolve_right fun h => h.1 hvat
    have hlength : uid.length = uid'.length := by
      obtain ⟨a, b, c, rfl, ⟨ha, hb, hc⟩, -⟩ := matches_uid.mp huid.1
      obtain ⟨a', b', c', rfl, ⟨ha', hb', hc'⟩, -⟩ := matches_uid.mp huid'.1
      simp [ha, hb, hc, ha', hb', hc']
    rcases htext with htext | htext
    · have hheads : ∀ s ∈ vatSuffixes, s.head? ≠ some ' ' := by decide
      refine absurd ?_ (hheads suffix' hs')
      rw [← (List.append_inj htext hlength).2]
      rfl
    · rw [hok, htext]
  · exact .inr h

theorem settles_iban : Settles (validateIban u) t := by
  rcases validateIban_spec u t with ⟨htaken, h⟩ | ⟨-, h⟩
  · refine .inl ⟨_, h, ?_⟩
    have hagain := validateIban_spec u (normaliseVin u t)
    rw [normaliseVin_twice] at hagain
    exact (hagain.resolve_right fun h => h.1 htaken).2
  · exact .inr h

theorem accepts_of_spec {f : Str → Except Raised Str} {P : Prop}
    (h : (P ∧ Accepts f t) ∨ (¬ P ∧ ∃ m, f t = .error (.refusal m))) : Accepts f t ↔ P := by
  rcases h with ⟨hp, h⟩ | ⟨hp, m, h⟩
  · exact ⟨fun _ => hp, fun _ => h⟩
  · refine ⟨fun haccepts => ?_, fun h => absurd h hp⟩
    obtain ⟨n, hn⟩ := haccepts
    rw [h] at hn
    cases hn

theorem typed_exact : reMatch u chassisNumberRe (normaliseVin u t) = true ↔
    Matches Char.isDigit chassisNumberRe (normaliseVin u t) := by
  have hre : Narrow chassisNumberRe := narrow_plainPatterns _ (by simp [plainPatterns])
  refine (exact_iff hre).mpr ?_
  rintro (⟨h, hno⟩ | ⟨h, c, hc, hdecimal, hdigit⟩)
  · exact hno ((reMatch_iff _ (getLast?_ne not_space_normaliseVin)).mp h)
  · obtain ⟨p, hp, hholds⟩ := h.mem c hc
    rw [List.mem_singleton.mp hp] at hholds
    rw [u.decimal_ascii c (isCapital_cases hholds).1, hdigit] at hdecimal
    cases hdecimal

/-- **The validators accept their ASCII grammars** on an input exactly when no pattern strays on it:
none stops before a last newline, and none takes a digit of another script. -/
theorem validators_iff (u : Tables) (t : Str) : MeetsGrammars u t ↔
    (∀ re ∈ plainPatterns, ¬ Strays u re t) ∧ ¬ StraysIban u (normaliseVin u t) := by
  have hplain := fun re (hre : re ∈ plainPatterns) => exact_iff (u := u) (t := t) (narrow_plainPatterns re hre)
  have hiban : Accepts (validateIban u) t ↔ TakenForIban u (normaliseVin u t) :=
    accepts_of_spec ((validateIban_spec u t).imp_left fun h => ⟨h.1, _, h.2⟩)
  constructor
  · intro h
    refine ⟨fun re hre => (hplain re hre).mp ?_, iban_exact_iff.mp (hiban.symm.trans h.iban)⟩
    simp only [plainPatterns, List.mem_cons, List.not_mem_nil, or_false] at hre
    rcases hre with rfl | rfl | rfl | rfl | rfl
    · exact accepts_check.symm.trans h.phone
    · exact accepts_check.symm.trans h.postalCode
    · exact accepts_check.symm.trans h.houseNumber
    · exact accepts_check.symm.trans h.vin
    · exact accepts_check.symm.trans h.chassisNumber
  · rintro ⟨hpatterns, hno⟩
    have hexact := fun re hre => (hplain re hre).mpr (hpatterns re hre)
    exact {
      phone := accepts_check.trans (hexact _ (by simp [plainPatterns]))
      postalCode := accepts_check.trans (hexact _ (by simp [plainPatterns]))
      houseNumber := accepts_check.trans (hexact _ (by simp [plainPatterns]))
      vin := accepts_check.trans (hexact _ (by simp [plainPatterns]))
      chassisNumber := accepts_check.trans (hexact _ (by simp [plainPatterns]))
      typedChassisNumber := accepts_check.trans typed_exact
      uid := accepts_of_spec ((validateSwissUid_spec u t).imp_left fun h => ⟨h.1, _, h.2⟩)
      vatNumber := accepts_of_spec ((validateSwissVatNumber_spec u t).imp_left
        fun ⟨h, _, _, _, _, _, hok⟩ => ⟨h, _, hok⟩)
      iban := hiban.trans (iban_exact_iff.mpr hno)
      settles := by
        intro f hf
        simp only [validators, List.mem_cons, List.not_mem_nil, or_false] at hf
        rcases hf with rfl | rfl | rfl | rfl | rfl | rfl | rfl | rfl | rfl
        · exact settles_check _ _
        · exact settles_check _ _
        · exact settles_check _ _
        · exact settles_check _ _
        · exact settles_check _ _
        · exact settles_typed
        · exact settles_uid
        · exact settles_vat
        · exact settles_iban }

def ascii : Tables where
  toUnicode := Identification.ascii
  isAlpha := Char.isAlpha
  decimal := fun c => c.toNat - 48
  alpha_ascii := fun _ _ => rfl
  decimal_value := fun _ _ => rfl
  alpha_decimal := fun c hc => by
    have hall : ∀ n : Fin 128, (Char.ofNat n).isDigit = true → (Char.ofNat n).isAlpha = false := by
      decide +kernel
    have h := hall ⟨c.toNat, (isCapital_cases (Bool.or_eq_true_iff.mpr (.inr hc))).1⟩
    rw [Char.ofNat_toNat] at h
    exact h hc
  space_decimal := fun c hc => by
    by_contra h
    rw [Bool.not_eq_false] at h
    rw [not_space_of_isCapital (Bool.or_eq_true_iff.mpr (.inr h))] at hc
    cases hc
  upper_ne_nil := fun _ => List.cons_ne_nil _ _
  upper_upper := fun c => @upper_toUpper Identification.ascii c
  upper_blank := fun c d hd hspace => by
    have hall : ∀ n : Fin 128, isSpace (Char.ofNat n).toUpper = true → isSpace (Char.ofNat n) = true := by
      decide +kernel
    rw [List.mem_singleton.mp hd] at hspace
    by_cases hc : c.toNat < 128
    · have h := hall ⟨c.toNat, hc⟩
      rw [Char.ofNat_toNat] at h
      exact h hspace
    · rwa [toUpper_of_large hc] at hspace

/-- **A phone number with a newline at its end** is stored so. -/
theorem newline_accepted : ¬ ∀ (u : Tables) (t : Str), MeetsGrammars u t := by
  intro h
  have hphone := (h ascii "+41791234567\n".toList).phone.mp ⟨_, rfl⟩
  rw [← fullmatch_iff] at hphone
  exact absurd hphone (by decide)

end Validators

end Nexotec.Validators
