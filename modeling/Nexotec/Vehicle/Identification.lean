/-
What the one input of the search is taken for
(`app/vehicle/services/identification.py`, `normalise_plate`, `classify_identifier`).

Two normalisations of one input, and five patterns tried in turn.  Hyphens are dropped for the plate
alone, and the last pattern takes nearly everything.

* `normalisePlate_eq`, `classify_congr` — the plate is the compact form without its hyphens, so that
  the compact form decides.
-/
import Nexotec.Lib.FirstMatch

namespace Nexotec.Identification

open FirstMatch

/-- A `str`, as its code points. -/
abbrev Str := List Char

/-! ### Characters -/

/-- `\s`, which is `str.isspace`. -/
def isSpace (c : Char) : Bool :=
  let n := c.toNat
  (9 ≤ n && n ≤ 13) || (28 ≤ n && n ≤ 32) || (0x2000 ≤ n && n ≤ 0x200a) ||
    [0x85, 0xa0, 0x1680, 0x2028, 0x2029, 0x202f, 0x205f, 0x3000].contains n

/-- The tables behind `str.upper` and `\d`.  Any version of them: what is used is that ASCII is as
usual, and that blanks and digits have no other case. -/
structure Unicode where
  upper : Char → Str
  isDecimal : Char → Bool
  upper_ascii : ∀ c : Char, c.toNat < 128 → upper c = [c.toUpper]
  upper_space : ∀ c : Char, isSpace c = true → upper c = [c]
  upper_decimal : ∀ c : Char, isDecimal c = true → upper c = [c]
  decimal_ascii : ∀ c : Char, c.toNat < 128 → isDecimal c = c.isDigit

variable (uni : Unicode)

def upper (text : Str) : Str := text.flatMap uni.upper

def strip (text : Str) : Str := (text.dropWhile isSpace).rdropWhile isSpace

/-- `re.sub` of a class of characters by nothing. -/
def sub (drops : Char → Bool) (text : Str) : Str := text.filter fun c => !drops c

/-- `re.match` of a pattern up to `$`, which stands before a last newline too. -/
def matchesToEnd (pattern : Str → Bool) (text : Str) : Bool :=
  pattern text || (text.getLast? = some '\n' && pattern text.dropLast)

/-! ### The patterns -/

/-- `[A-Z0-9]`. -/
def isCapital (c : Char) : Bool := c.isUpper || c.isDigit

/-- `_VIN_RE`: the letters I, O and Q are left out. -/
def vinRe (text : Str) : Bool :=
  text.length = 17 && text.all fun c => isCapital c && !(['I', 'O', 'Q'].contains c)

def stammnummerRe (text : Str) : Bool := text.length = 9 && text.all uni.isDecimal

def typenscheinRe : Str → Bool
  | [] => false
  | first :: rest => uni.isDecimal first && (rest.length = 5 && rest.all isCapital)

def plateRe : Str → Bool
  | a :: b :: number =>
      a.isUpper && b.isUpper && (1 ≤ number.length && number.length ≤ 6) &&
        number.all uni.isDecimal
  | _ => false

def werkscodeRe : Str → Bool
  | [] => false
  | first :: rest => isCapital first && (1 ≤ rest.length && rest.length ≤ 63) &&
      rest.all fun c => isCapital c || ['.', '/', '-'].contains c

def cantons : List Str :=
  ["AG", "AI", "AR", "BE", "BL", "BS", "FR", "GE", "GL", "GR", "JU", "LU", "NE",
    "NW", "OW", "SG", "SH", "SO", "SZ", "TG", "TI", "UR", "VD", "VS", "ZG", "ZH"].map String.toList

/-! ### The classification -/

inductive IdentifierKind where
  | vin | kontrollschild | stammnummer | typenschein | werkscode
  deriving DecidableEq

/-- `[\s.]` -/
def blankOrDot (c : Char) : Bool := isSpace c || c = '.'

/-- `[\s.\-]` -/
def blankDotOrHyphen (c : Char) : Bool := isSpace c || c = '.' || c = '-'

def normalisePlate (raw : Str) : Str := sub blankDotOrHyphen (upper uni raw)

/-- The local `compact` of `classify_identifier`. -/
def compactOf (raw : Str) : Str := sub blankOrDot (upper uni (strip raw))

/-- `plate_match`, of one of the cantons. -/
def isPlate (plate : Str) : Bool :=
  matchesToEnd (plateRe uni) plate && cantons.contains (plate.take 2)

def classifyIdentifier (raw : Str) : Option (IdentifierKind × Str) :=
  let compact := compactOf uni raw
  if compact = [] then none
  else if matchesToEnd vinRe compact then some (.vin, compact)
  else
    let plate := normalisePlate uni raw
    if isPlate uni plate then some (.kontrollschild, plate)
    else if matchesToEnd (stammnummerRe uni) compact then some (.stammnummer, compact)
    else if matchesToEnd (typenscheinRe uni) compact && compact.any Char.isUpper then
      some (.typenschein, compact)
    else if matchesToEnd werkscodeRe compact then some (.werkscode, compact)
    else none

/-- The first four tests of an input, in the order of the code. -/
def firstFour : List (Str → Option (IdentifierKind × Str)) :=
  [fun raw => if matchesToEnd vinRe (compactOf uni raw) then some (.vin, compactOf uni raw) else none,
   fun raw => if isPlate uni (normalisePlate uni raw) then
      some (.kontrollschild, normalisePlate uni raw) else none,
   fun raw => if matchesToEnd (stammnummerRe uni) (compactOf uni raw) then
      some (.stammnummer, compactOf uni raw) else none,
   fun raw => if matchesToEnd (typenscheinRe uni) (compactOf uni raw) &&
        (compactOf uni raw).any Char.isUpper then
      some (.typenschein, compactOf uni raw) else none]

/-- The classification with its first four tests in another order. -/
def classifyInOrder (tests : List (Str → Option (IdentifierKind × Str))) (raw : Str) :
    Option (IdentifierKind × Str) :=
  if compactOf uni raw = [] then none
  else (firstMatch tests raw).or
    (if matchesToEnd werkscodeRe (compactOf uni raw) then some (.werkscode, compactOf uni raw) else none)

/-- Inputs that differ in the case of ASCII letters and in characters of `ignored` alone. -/
def Alike (ignored : List Char) (raw raw' : Str) : Prop :=
  (raw.filter fun c => !ignored.contains c).map Char.toUpper =
    (raw'.filter fun c => !ignored.contains c).map Char.toUpper

/-! ### The two normal forms -/

section
variable {uni} {c : Char}

theorem toUpper_of_large (hc : ¬c.toNat < 128) : c.toUpper = c := by
  unfold Char.toUpper
  rw [dif_neg]
  rintro ⟨-, hz⟩
  have : c.toNat ≤ 'z'.toNat := UInt32.le_iff_toNat_le.mp hz
  exact hc (lt_of_le_of_lt this (by decide))

theorem upper_toUpper (c : Char) : uni.upper c.toUpper = uni.upper c := by
  have ascii : ∀ n : Fin 128, (Char.ofNat n).toUpper.toUpper = (Char.ofNat n).toUpper ∧
      (Char.ofNat n).toUpper.toNat < 128 := by decide +kernel
  by_cases hc : c.toNat < 128
  · obtain ⟨htwice, hsmall⟩ := ascii ⟨c.toNat, hc⟩
    rw [Char.ofNat_toNat] at htwice hsmall
    rw [uni.upper_ascii c hc, uni.upper_ascii c.toUpper hsmall, htwice]
  · rw [toUpper_of_large hc]

theorem sub_upper (drops : Char → Bool) (raw : Str) :
    sub drops (upper uni raw) = raw.flatMap fun c => sub drops (uni.upper c) :=
  List.filter_flatMap ..

variable {drops : Char → Bool}

theorem sub_space (hdrops : drops c = true) (hc : uni.upper c = [c]) :
    sub drops (uni.upper c) = [] := by
  rw [hc]
  unfold sub
  rw [List.filter_singleton, hdrops]
  rfl

theorem blankOrDot_of_space (hc : isSpace c = true) : blankOrDot c = true := by
  unfold blankOrDot
  rw [hc, Bool.true_or]

theorem compactOf_eq (raw : Str) : compactOf uni raw = sub blankOrDot (upper uni raw) := by
  have hspace : ∀ c, isSpace c = true → sub blankOrDot (uni.upper c) = [] := fun c hc =>
    sub_space (blankOrDot_of_space hc) (uni.upper_space c hc)
  unfold compactOf strip
  rw [sub_upper, sub_upper, trim_right hspace, trim_left hspace]

theorem normalisePlate_eq (raw : Str) :
    normalisePlate uni raw = sub (fun c => c = '-') (compactOf uni raw) := by
  rw [compactOf_eq]
  unfold normalisePlate sub
  rw [List.filter_filter]
  refine List.filter_congr fun c _ => ?_
  unfold blankDotOrHyphen blankOrDot
  exact (Bool.not_or _ _).trans (Bool.and_comm _ _)

variable {raw : Str}

theorem not_dropped (hc : c ∈ compactOf uni raw) : blankOrDot c = false := by
  rw [compactOf_eq] at hc
  simpa using (List.mem_filter.mp hc).2

/-! ### Inputs that differ in letter case and ignored characters -/

variable {raw' : Str}

theorem sub_alike {ignored : List Char}
    (hdrops : ∀ c, ignored.contains c = true → drops c = true ∧ c.toNat < 128 ∧ c.toUpper = c)
    (h : Alike ignored raw raw') : sub drops (upper uni raw) = sub drops (upper uni raw') := by
  have herased : ∀ c, ignored.contains c = true → sub drops (uni.upper c) = [] := fun c hc => by
    obtain ⟨hd, hsmall, hcapital⟩ := hdrops c hc
    exact sub_space hd (by rw [uni.upper_ascii c hsmall, hcapital])
  have hcase : ∀ c : Char, sub drops (uni.upper c.toUpper) = sub drops (uni.upper c) := fun c => by
    rw [upper_toUpper]
  rw [sub_upper, sub_upper]
  exact erase_congr herased hcase h

theorem compactOf_alike (h : Alike [' ', '.'] raw raw') :
    compactOf uni raw = compactOf uni raw' := by
  rw [compactOf_eq, compactOf_eq]
  refine sub_alike (fun c hc => ?_) h
  rcases List.mem_cons.mp (List.contains_iff_mem.mp hc) with rfl | hc
  · decide
  · rw [List.mem_singleton.mp hc]
    decide

theorem normalisePlate_alike (h : Alike [' ', '.', '-'] raw raw') :
    normalisePlate uni raw = normalisePlate uni raw' := by
  refine sub_alike (fun c hc => ?_) h
  rcases List.mem_cons.mp (List.contains_iff_mem.mp hc) with rfl | hc
  · decide
  rcases List.mem_cons.mp hc with rfl | hc
  · decide
  · rw [List.mem_singleton.mp hc]
    decide

/-! ### The shapes -/

variable {pattern : Str → Bool} {text : Str}

theorem exists_body (h : matchesToEnd pattern text = true) :
    ∃ body, pattern body = true ∧ (text = body ∨ text = body ++ ['\n']) := by
  rcases Bool.or_eq_true_iff.mp h with h | h
  · exact ⟨text, h, Or.inl rfl⟩
  · obtain ⟨hlast, hbody⟩ := Bool.and_eq_true_iff.mp h
    have hlast' : text.getLast? = some '\n' := of_decide_eq_true hlast
    exact ⟨text.dropLast, hbody, Or.inr (List.dropLast_append_getLast? '\n' hlast').symm⟩

theorem length_of_matches (low high : ℕ)
    (hp : ∀ body, pattern body = true → low ≤ body.length ∧ body.length ≤ high)
    (h : matchesToEnd pattern text = true) : low ≤ text.length ∧ text.length ≤ high + 1 := by
  obtain ⟨body, hbody, rfl | rfl⟩ := exists_body h
  · exact ⟨(hp _ hbody).1, le_trans (hp _ hbody).2 (Nat.le_succ high)⟩
  · rw [List.length_append, List.length_singleton]
    exact ⟨le_trans (hp body hbody).1 (Nat.le_succ _), Nat.succ_le_succ (hp body hbody).2⟩

variable {P : Char → Prop}

theorem head_of_matches (hp : ∀ body, pattern body = true → ∃ c rest, body = c :: rest ∧ P c)
    (h : matchesToEnd pattern text = true) : ∃ c rest, text = c :: rest ∧ P c := by
  obtain ⟨body, hbody, rfl | rfl⟩ := exists_body h
  · exact hp _ hbody
  · obtain ⟨c, rest, rfl, hc⟩ := hp body hbody
    exact ⟨c, rest ++ ['\n'], rfl, hc⟩

theorem chars_of_matches (hp : ∀ body, pattern body = true → ∀ c ∈ body, P c) (hnewline : P '\n')
    (h : matchesToEnd pattern text = true) : ∀ c ∈ text, P c := by
  obtain ⟨body, hbody, rfl | rfl⟩ := exists_body h
  · exact hp _ hbody
  · intro c hc
    rcases List.mem_append.mp hc with hc | hc
    · exact hp body hbody c hc
    · rw [List.mem_singleton.mp hc]
      exact hnewline

variable {body : Str}

theorem vinRe_length (h : vinRe body = true) : 17 ≤ body.length ∧ body.length ≤ 17 := by
  have hlength : body.length = 17 := of_decide_eq_true (Bool.and_eq_true_iff.mp h).1
  omega

theorem stammnummerRe_length (h : stammnummerRe uni body = true) :
    9 ≤ body.length ∧ body.length ≤ 9 := by
  have hlength : body.length = 9 := of_decide_eq_true (Bool.and_eq_true_iff.mp h).1
  omega

theorem typenscheinRe_shape (h : typenscheinRe uni body = true) :
    ∃ c rest, body = c :: rest ∧ uni.isDecimal c = true ∧ rest.length = 5 ∧
      ∀ d ∈ rest, isCapital d = true := by
  cases body with
  | nil => exact absurd h Bool.false_ne_true
  | cons c rest =>
    obtain ⟨hc, hrest⟩ := Bool.and_eq_true_iff.mp h
    obtain ⟨hlength, hcapitals⟩ := Bool.and_eq_true_iff.mp hrest
    exact ⟨c, rest, rfl, hc, of_decide_eq_true hlength, List.all_eq_true.mp hcapitals⟩

theorem plateRe_shape (h : plateRe uni body = true) :
    ∃ a b number, body = a :: b :: number ∧ a.isUpper = true ∧ b.isUpper = true ∧
      1 ≤ number.length ∧ number.length ≤ 6 ∧ ∀ d ∈ number, uni.isDecimal d = true := by
  cases body with
  | nil => exact absurd h Bool.false_ne_true
  | cons a rest =>
    cases rest with
    | nil => exact absurd h Bool.false_ne_true
    | cons b number =>
      obtain ⟨hshape, hdigits⟩ := Bool.and_eq_true_iff.mp h
      obtain ⟨hletters, hlength⟩ := Bool.and_eq_true_iff.mp hshape
      obtain ⟨ha, hb⟩ := Bool.and_eq_true_iff.mp hletters
      obtain ⟨hlow, hhigh⟩ := Bool.and_eq_true_iff.mp hlength
      exact ⟨a, b, number, rfl, ha, hb, of_decide_eq_true hlow, of_decide_eq_true hhigh,
        List.all_eq_true.mp hdigits⟩

theorem not_decimal_of_upper (hc : c.isUpper = true) : uni.isDecimal c = false := by
  obtain ⟨hlow, hhigh⟩ := of_decide_eq_true hc
  have hlow' : 65 ≤ c.toNat := UInt32.le_iff_toNat_le.mp hlow
  have hhigh' : c.toNat ≤ 90 := UInt32.le_iff_toNat_le.mp hhigh
  rw [uni.decimal_ascii c (by omega)]
  unfold Char.isDigit
  rw [Bool.and_eq_false_iff]
  right
  refine decide_eq_false fun hdigit => ?_
  have : c.toNat ≤ 57 := UInt32.le_iff_toNat_le.mp hdigit
  omega

end

/-! ### No two of the first four shapes -/

section
variable {uni} {text : Str}

theorem vin_length (h : matchesToEnd vinRe text = true) : 17 ≤ text.length :=
  (length_of_matches 17 17 (fun _ => vinRe_length) h).1

theorem stammnummer_shape (h : matchesToEnd (stammnummerRe uni) text = true) :
    9 ≤ text.length ∧ text.length ≤ 10 ∧ ∃ c rest, text = c :: rest ∧ uni.isDecimal c = true := by
  have hlength := length_of_matches 9 9 (fun _ => stammnummerRe_length) h
  refine ⟨hlength.1, hlength.2, head_of_matches (fun body hbody => ?_) h⟩
  obtain ⟨hlow, -⟩ := stammnummerRe_length hbody
  cases body with
  | nil => exact absurd hlow (by decide)
  | cons c rest =>
    exact ⟨c, rest, rfl,
      List.all_eq_true.mp (Bool.and_eq_true_iff.mp hbody).2 c List.mem_cons_self⟩

theorem typenschein_shape (h : matchesToEnd (typenscheinRe uni) text = true) :
    text.length ≤ 7 ∧ ∃ c rest, text = c :: rest ∧ uni.isDecimal c = true := by
  constructor
  · refine (length_of_matches 6 6 (fun body hbody => ?_) h).2
    obtain ⟨c, rest, rfl, -, hlength, -⟩ := typenscheinRe_shape hbody
    rw [List.length_cons, hlength]
    decide
  · refine head_of_matches (fun body hbody => ?_) h
    obtain ⟨c, rest, heq, hc, -⟩ := typenscheinRe_shape hbody
    exact ⟨c, rest, heq, hc⟩

theorem plate_shape (h : matchesToEnd (plateRe uni) text = true) :
    text.length ≤ 9 ∧ ∃ c rest, text = c :: rest ∧ uni.isDecimal c = false := by
  constructor
  · refine (length_of_matches 3 8 (fun body hbody => ?_) h).2
    obtain ⟨a, b, number, rfl, -, -, hlow, hhigh, -⟩ := plateRe_shape hbody
    rw [List.length_cons, List.length_cons]
    omega
  · refine head_of_matches (fun body hbody => ?_) h
    obtain ⟨a, b, number, heq, ha, -⟩ := plateRe_shape hbody
    exact ⟨a, b :: number, heq, not_decimal_of_upper ha⟩

/-- The shapes of the first four kinds, as they stand in the code. -/
def shapes (uni : Unicode) : List (Str → Bool) :=
  [matchesToEnd vinRe, matchesToEnd (plateRe uni), matchesToEnd (stammnummerRe uni),
    matchesToEnd (typenscheinRe uni)]

theorem head_apart (hdigit : ∃ c rest, text = c :: rest ∧ uni.isDecimal c = true)
    (hletter : ∃ c rest, text = c :: rest ∧ uni.isDecimal c = false) : False := by
  obtain ⟨c, rest, rfl, hc⟩ := hdigit
  obtain ⟨d, rest', heq, hd⟩ := hletter
  rw [← (List.cons.inj heq).1, hc] at hd
  exact Bool.noConfusion hd

theorem pairwise_four {α : Type} {R : α → α → Prop} {a b c d : α} :
    [a, b, c, d].Pairwise R ↔ (R a b ∧ R a c ∧ R a d) ∧ (R b c ∧ R b d) ∧ R c d := by
  simp only [List.pairwise_cons, List.mem_cons, List.not_mem_nil, or_false, forall_eq_or_imp,
    forall_eq, false_imp_iff, implies_true, List.Pairwise.nil, and_true]

/-- **No text has two of the first four shapes**: the lengths differ, but for a plate, which starts
with a letter. -/
theorem patterns_apart (uni : Unicode) (text : Str) :
    (shapes uni).Pairwise fun p q => ¬(p text = true ∧ q text = true) := by
  refine pairwise_four.mpr ⟨⟨?_, ?_, ?_⟩, ⟨?_, ?_⟩, ?_⟩
  · rintro ⟨hvin, hplate⟩
    exact absurd (le_trans (vin_length hvin) (plate_shape hplate).1) (by decide)
  · rintro ⟨hvin, hnumber⟩
    exact absurd (le_trans (vin_length hvin) (stammnummer_shape hnumber).2.1) (by decide)
  · rintro ⟨hvin, happroval⟩
    exact absurd (le_trans (vin_length hvin) (typenschein_shape happroval).1) (by decide)
  · rintro ⟨hplate, hnumber⟩
    exact head_apart (stammnummer_shape hnumber).2.2 (plate_shape hplate).2
  · rintro ⟨hplate, happroval⟩
    exact head_apart (typenschein_shape happroval).2 (plate_shape hplate).2
  · rintro ⟨hnumber, happroval⟩
    exact absurd (le_trans (stammnummer_shape hnumber).1 (typenschein_shape happroval).1) (by decide)

/-! ### The characters of a value -/

def Plain (uni : Unicode) (c : Char) : Prop :=
  isCapital c = true ∨ uni.isDecimal c = true ∨ ['.', '/', '\n'].contains c = true

variable {c : Char}

theorem isCapital_cases (hc : isCapital c = true) : c.toNat < 128 ∧ c.toUpper = c ∧ c ≠ '-' := by
  have ascii : ∀ n : Fin 128, isCapital (Char.ofNat n) = true →
      (Char.ofNat n).toUpper = Char.ofNat n ∧ Char.ofNat n ≠ '-' := by decide +kernel
  have hsmall : c.toNat < 128 := by
    rcases Bool.or_eq_true_iff.mp hc with h | h
    · have : c.toNat ≤ 90 := UInt32.le_iff_toNat_le.mp (of_decide_eq_true h).2
      omega
    · have : c.toNat ≤ 57 :=
        UInt32.le_iff_toNat_le.mp (of_decide_eq_true (Bool.and_eq_true_iff.mp h).2)
      omega
  have := ascii ⟨c.toNat, hsmall⟩
  rw [Char.ofNat_toNat] at this
  exact ⟨hsmall, this hc⟩

theorem upper_plain (hc : Plain uni c ∨ c = '-') : uni.upper c = [c] := by
  rcases hc with (hc | hc | hc) | rfl
  · obtain ⟨hsmall, hcapital, -⟩ := isCapital_cases hc
    rw [uni.upper_ascii c hsmall, hcapital]
  · exact uni.upper_decimal c hc
  · rcases List.mem_cons.mp (List.contains_iff_mem.mp hc) with rfl | hc
    · exact uni.upper_ascii _ (by decide)
    rcases List.mem_cons.mp hc with rfl | hc
    · exact uni.upper_ascii _ (by decide)
    · rw [List.mem_singleton.mp hc]
      exact uni.upper_ascii _ (by decide)
  · exact uni.upper_ascii _ (by decide)

theorem ne_hyphen (hc : Plain uni c) : c ≠ '-' := by
  rintro rfl
  rcases hc with hc | hc | hc
  · exact absurd hc (by decide)
  · rw [uni.decimal_ascii _ (by decide)] at hc
    exact absurd hc (by decide)
  · exact absurd hc (by decide)

theorem plain_newline : Plain uni '\n' := Or.inr (Or.inr (by decide))

theorem vin_plain (h : matchesToEnd vinRe text = true) : ∀ c ∈ text, Plain uni c :=
  chars_of_matches (fun _ hbody c hc => Or.inl (Bool.and_eq_true_iff.mp
    (List.all_eq_true.mp (Bool.and_eq_true_iff.mp hbody).2 c hc)).1) plain_newline h

theorem stammnummer_plain (h : matchesToEnd (stammnummerRe uni) text = true) :
    ∀ c ∈ text, Plain uni c :=
  chars_of_matches (fun _ hbody c hc => Or.inr (Or.inl
    (List.all_eq_true.mp (Bool.and_eq_true_iff.mp hbody).2 c hc))) plain_newline h

theorem typenschein_plain (h : matchesToEnd (typenscheinRe uni) text = true) :
    ∀ c ∈ text, Plain uni c := by
  refine chars_of_matches (fun body hbody c hc => ?_) plain_newline h
  obtain ⟨first, rest, rfl, hfirst, -, hrest⟩ := typenscheinRe_shape hbody
  rcases List.mem_cons.mp hc with rfl | hc
  · exact Or.inr (Or.inl hfirst)
  · exact Or.inl (hrest c hc)

theorem plate_plain (h : matchesToEnd (plateRe uni) text = true) :
    ∀ c ∈ text, Plain uni c := by
  refine chars_of_matches (fun body hbody c hc => ?_) plain_newline h
  obtain ⟨a, b, number, rfl, ha, hb, -, -, hnumber⟩ := plateRe_shape hbody
  rcases List.mem_cons.mp hc with rfl | hc
  · exact Or.inl (Bool.or_eq_true_iff.mpr (Or.inl ha))
  rcases List.mem_cons.mp hc with rfl | hc
  · exact Or.inl (Bool.or_eq_true_iff.mpr (Or.inl hb))
  · exact Or.inr (Or.inl (hnumber c hc))

theorem werkscode_plain (h : matchesToEnd werkscodeRe text = true) :
    ∀ c ∈ text, Plain uni c ∨ c = '-' := by
  refine chars_of_matches (fun body hbody c hc => ?_) (Or.inl plain_newline) h
  cases body with
  | nil => exact absurd hbody Bool.false_ne_true
  | cons first rest =>
    obtain ⟨hstart, hrest⟩ := Bool.and_eq_true_iff.mp hbody
    rcases List.mem_cons.mp hc with rfl | hc
    · exact Or.inl (Or.inl (Bool.and_eq_true_iff.mp hstart).1)
    rcases Bool.or_eq_true_iff.mp (List.all_eq_true.mp hrest c hc) with hc | hc
    · exact Or.inl (Or.inl hc)
    rcases List.mem_cons.mp (List.contains_iff_mem.mp hc) with rfl | hc
    · exact Or.inl (Or.inr (Or.inr (by decide)))
    rcases List.mem_cons.mp hc with rfl | hc
    · exact Or.inl (Or.inr (Or.inr (by decide)))
    · exact Or.inr (List.mem_singleton.mp hc)

theorem isPlate_plain {plate : Str} (h : isPlate uni plate = true) : ∀ c ∈ plate, Plain uni c :=
  plate_plain (Bool.and_eq_true_iff.mp h).1

theorem normalisePlate_of_plain {raw : Str} (h : ∀ c ∈ compactOf uni raw, Plain uni c) :
    normalisePlate uni raw = compactOf uni raw := by
  rw [normalisePlate_eq]
  refine List.filter_eq_self.mpr fun c hc => ?_
  rw [Bool.not_eq_true', decide_eq_false_iff_not]
  exact ne_hyphen (h c hc)

theorem compactOf_self (hupper : ∀ c ∈ text, uni.upper c = [c])
    (hkept : ∀ c ∈ text, blankOrDot c = false) : compactOf uni text = text := by
  rw [compactOf_eq, sub_upper]
  refine settled fun c hc => ?_
  rw [hupper c hc]
  unfold sub
  rw [List.filter_singleton, hkept c hc]
  rfl

end

/-! ### The classification -/

section
variable {uni} {raw raw' : Str}

theorem classify_congr (h : compactOf uni raw = compactOf uni raw') :
    classifyIdentifier uni raw = classifyIdentifier uni raw' := by
  unfold classifyIdentifier
  rw [normalisePlate_eq, normalisePlate_eq, h]

variable {value : Str} {kind : IdentifierKind}

theorem classify_cases (h : classifyIdentifier uni raw = some (kind, value)) :
    (kind = .kontrollschild ∧ value = normalisePlate uni raw ∧ isPlate uni value = true) ∨
      (kind ≠ .kontrollschild ∧ value = compactOf uni raw ∧ ∀ c ∈ value, Plain uni c ∨ c = '-') := by
  unfold classifyIdentifier at h
  dsimp only at h
  split at h
  · cases h
  split at h
  · next hvin =>
    cases h
    exact Or.inr ⟨by decide, rfl, fun c hc => Or.inl (vin_plain hvin c hc)⟩
  split at h
  · next hplate =>
    cases h
    exact Or.inl ⟨rfl, rfl, hplate⟩
  split at h
  · next hnumber =>
    cases h
    exact Or.inr ⟨by decide, rfl, fun c hc => Or.inl (stammnummer_plain hnumber c hc)⟩
  split at h
  · next happroval =>
    cases h
    exact Or.inr ⟨by decide, rfl, fun c hc =>
      Or.inl (typenschein_plain (Bool.and_eq_true_iff.mp happroval).1 c hc)⟩
  split at h
  · next hcode =>
    cases h
    exact Or.inr ⟨by decide, rfl, werkscode_plain hcode⟩
  · cases h

theorem vin_not_plate (hvin : matchesToEnd vinRe (compactOf uni raw) = true) :
    ¬isPlate uni (normalisePlate uni raw) = true := by
  intro hplate
  rw [normalisePlate_of_plain (vin_plain hvin)] at hplate
  obtain ⟨⟨hapart, -⟩, -⟩ := pairwise_four.mp (patterns_apart uni (compactOf uni raw))
  exact hapart ⟨hvin, (Bool.and_eq_true_iff.mp hplate).1⟩

theorem classify_of_plate (h : isPlate uni (normalisePlate uni raw) = true) :
    classifyIdentifier uni raw = some (.kontrollschild, normalisePlate uni raw) := by
  have hnonempty : compactOf uni raw ≠ [] := fun hempty => by
    obtain ⟨-, c, rest, heq, -⟩ := plate_shape (Bool.and_eq_true_iff.mp h).1
    rw [normalisePlate_eq, hempty] at heq
    cases heq
  unfold classifyIdentifier
  dsimp only
  rw [if_neg hnonempty, if_neg fun hvin => vin_not_plate hvin h, if_pos h]

theorem classify_value (h : classifyIdentifier uni raw = some (kind, value)) :
    classifyIdentifier uni value = some (kind, value) := by
  rcases classify_cases h with ⟨rfl, rfl, hplate⟩ | ⟨-, rfl, hplain⟩
  · have hplain := isPlate_plain hplate
    have hself : compactOf uni (normalisePlate uni raw) = normalisePlate uni raw := by
      refine compactOf_self (fun c hc => upper_plain (Or.inl (hplain c hc))) fun c hc => ?_
      rw [normalisePlate_eq] at hc
      exact not_dropped (List.mem_filter.mp hc).1
    have hagain : normalisePlate uni (normalisePlate uni raw) = normalisePlate uni raw := by
      rw [normalisePlate_of_plain (by rwa [hself]), hself]
    rw [classify_of_plate (by rwa [hagain]), hagain]
  · rw [← h]
    exact classify_congr (compactOf_self (fun c hc => upper_plain (hplain c hc)) fun c hc =>
      not_dropped hc)

theorem classify_alike (h : Alike [' ', '.'] raw raw') :
    classifyIdentifier uni raw' = classifyIdentifier uni raw :=
  classify_congr (compactOf_alike h).symm

theorem classify_hyphens (hraw : classifyIdentifier uni raw = some (.kontrollschild, value))
    (h : Alike [' ', '.', '-'] raw raw') :
    classifyIdentifier uni raw' = some (.kontrollschild, value) := by
  rcases classify_cases hraw with ⟨-, rfl, hplate⟩ | ⟨hne, -⟩
  · rw [normalisePlate_alike h] at hplate ⊢
    exact classify_of_plate hplate
  · exact absurd rfl hne

/-! ### The order of the tests -/

theorem apart_of {α : Type} {b b' : Bool} {x y : α} (h : ¬(b = true ∧ b' = true)) :
    (if b = true then some x else none) = none ∨ (if b' = true then some y else none) = none := by
  by_cases hb : b = true
  · exact Or.inr (if_neg fun hb' => h ⟨hb, hb'⟩)
  · exact Or.inl (if_neg hb)

theorem firstFour_apart (raw : Str) : Apart raw (firstFour uni) := by
  obtain ⟨⟨-, hvinNumber, hvinApproval⟩, ⟨hplateNumber, hplateApproval⟩, hnumberApproval⟩ :=
    pairwise_four.mp (patterns_apart uni (compactOf uni raw))
  refine pairwise_four.mpr ⟨⟨apart_of ?_, apart_of ?_, apart_of ?_⟩, ⟨apart_of ?_, apart_of ?_⟩,
    apart_of ?_⟩
  · rintro ⟨hvin, hplate⟩
    exact vin_not_plate hvin hplate
  · exact hvinNumber
  · rintro ⟨hvin, happroval⟩
    exact hvinApproval ⟨hvin, (Bool.and_eq_true_iff.mp happroval).1⟩
  · rintro ⟨hplate, hnumber⟩
    rw [normalisePlate_of_plain (stammnummer_plain hnumber)] at hplate
    exact hplateNumber ⟨(Bool.and_eq_true_iff.mp hplate).1, hnumber⟩
  · rintro ⟨hplate, happroval⟩
    obtain ⟨happroval, -⟩ := Bool.and_eq_true_iff.mp happroval
    rw [normalisePlate_of_plain (typenschein_plain happroval)] at hplate
    exact hplateApproval ⟨(Bool.and_eq_true_iff.mp hplate).1, happroval⟩
  · rintro ⟨hnumber, happroval⟩
    exact hnumberApproval ⟨hnumber, (Bool.and_eq_true_iff.mp happroval).1⟩

theorem classify_inOrder (raw : Str) :
    classifyInOrder uni (firstFour uni) raw = classifyIdentifier uni raw := by
  unfold classifyInOrder classifyIdentifier firstMatch firstFour
  dsimp only
  rw [List.findSome?_cons, List.findSome?_cons, List.findSome?_cons, List.findSome?_cons,
    List.findSome?_nil]
  repeat' split
  all_goals simp_all

end

/-- **Classification is stable.**  The value of an answer is classified as its input was; neither
the case of ASCII letters nor blanks and dots matter, nor hyphens in a plate; no text has two of the
first four shapes, and these may be tried in any order. -/
theorem classification_stable (raw : Str) :
    (∀ kind value, classifyIdentifier uni raw = some (kind, value) →
      classifyIdentifier uni value = some (kind, value)) ∧ (∀ raw', Alike [' ', '.'] raw raw' →
      classifyIdentifier uni raw' = classifyIdentifier uni raw) ∧
    (∀ value raw', classifyIdentifier uni raw = some (.kontrollschild, value) →
      Alike [' ', '.', '-'] raw raw' →
      classifyIdentifier uni raw' = some (.kontrollschild, value)) ∧
    ((shapes uni).Pairwise fun p q => ¬(p raw = true ∧ q raw = true)) ∧
    (∀ tests, tests.Perm (firstFour uni) →
      classifyInOrder uni tests raw = classifyIdentifier uni raw) := by
  refine ⟨fun _ _ => classify_value, fun _ => classify_alike, fun _ _ => classify_hyphens,
    patterns_apart uni raw, fun tests hperm => ?_⟩
  rw [← classify_inOrder]
  unfold classifyInOrder
  rw [firstMatch_perm hperm.symm (firstFour_apart raw)]

def ascii : Unicode where
  upper := fun c => [c.toUpper]
  isDecimal := Char.isDigit
  upper_ascii := fun _ _ => rfl
  upper_space := fun c hc => by
    have small : ∀ n : Fin 128, isSpace (Char.ofNat n) = true →
        (Char.ofNat n).toUpper = Char.ofNat n := by decide +kernel
    by_cases hascii : c.toNat < 128
    · have := small ⟨c.toNat, hascii⟩
      rw [Char.ofNat_toNat] at this
      rw [this hc]
    · rw [toUpper_of_large hascii]
  upper_decimal := fun c hc => by
    have := isCapital_cases (Bool.or_eq_true_iff.mpr (Or.inr hc))
    rw [this.2.1]
  decimal_ascii := fun _ _ => rfl

end Nexotec.Identification
