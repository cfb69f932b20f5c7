/-
Form-urlencoded texts as `urllib.parse.parse_qsl` reads them.

Texts and bytes are lists of their numbers.  UTF-8 is decoded with `errors="replace"`: a sequence
that breaks off becomes one replacement character, and the byte that breaks it is read anew.

* `zero_mem_decodeReplace` — decoding neither makes nor loses a NUL;
* `carries_append` — a NUL, plain or as `%00`, never spans a separator;
* `zero_mem_unquote`, `zero_mem_parseQsl` — the texts that are read hold a NUL exactly when the
  encoded text carries one.
-/
import Mathlib.Data.List.Basic

namespace UrlEncoded

/-! ### UTF-8 -/

/-- A sequence begun: its value so far, the bounds of the next byte, and how many follow that. -/
structure Pending where
  value : ℕ
  low : ℕ
  high : ℕ
  more : ℕ

def replacement : ℕ := 0xFFFD

/-- The first byte of a sequence. -/
def start (b : ℕ) : List ℕ × Option Pending :=
  if b < 0x80 then ([b], none)
  else if 0xC2 ≤ b ∧ b ≤ 0xDF then ([], some ⟨b - 0xC0, 0x80, 0xBF, 0⟩)
  else if b = 0xE0 then ([], some ⟨0, 0xA0, 0xBF, 1⟩)
  else if b = 0xED then ([], some ⟨0xD, 0x80, 0x9F, 1⟩)
  else if 0xE1 ≤ b ∧ b ≤ 0xEF then ([], some ⟨b - 0xE0, 0x80, 0xBF, 1⟩)
  else if b = 0xF0 then ([], some ⟨0, 0x90, 0xBF, 2⟩)
  else if 0xF1 ≤ b ∧ b ≤ 0xF3 then ([], some ⟨b - 0xF0, 0x80, 0xBF, 2⟩)
  else if b = 0xF4 then ([], some ⟨4, 0x80, 0x8F, 2⟩)
  else ([replacement], none)

def feed : Option Pending → ℕ → List ℕ × Option Pending
  | none, b => start b
  | some p, b =>
    if p.low ≤ b ∧ b ≤ p.high then
      let value := p.value * 64 + (b - 0x80)
      match p.more with
      | 0 => ([value], none)
      | more + 1 => ([], some ⟨value, 0x80, 0xBF, more⟩)
    else (replacement :: (start b).1, (start b).2)

def decodeLoop : Option Pending → List ℕ → List ℕ
  | none, [] => []
  | some _, [] => [replacement]
  | p, b :: rest => (feed p b).1 ++ decodeLoop (feed p b).2 rest

/-- `decode("utf-8", "replace")` -/
def decodeReplace (bytes : List ℕ) : List ℕ := decodeLoop none bytes

/-- The sequence cannot end in the value 0. -/
def Positive (p : Option Pending) : Prop :=
  ∀ q ∈ p, 0x80 ≤ q.low ∧ (0 < q.value ∨ 0x80 < q.low)

theorem start_spec (b : ℕ) : (0 ∈ (start b).1 ↔ b = 0) ∧ Positive (start b).2 := by
  unfold start Positive
  split_ifs <;> simp [replacement] <;> omega

theorem feed_spec {p : Option Pending} (hp : Positive p) (b : ℕ) :
    (0 ∈ (feed p b).1 ↔ b = 0) ∧ Positive (feed p b).2 := by
  cases p with
  | none => exact start_spec b
  | some p =>
    obtain ⟨hlow, hvalue⟩ := hp p rfl
    rw [feed]
    split
    · rename_i hin
      have hpos : p.value * 64 + (b - 0x80) ≠ 0 := by omega
      split
      · refine ⟨?_, fun q hq => by cases hq⟩
        simp only [List.mem_singleton]
        omega
      · refine ⟨?_, ?_⟩
        · simp only [List.not_mem_nil, false_iff]
          omega
        · intro q hq
          obtain rfl := Option.some.inj hq
          exact ⟨Nat.le_refl _, .inl (Nat.pos_of_ne_zero hpos)⟩
    · obtain ⟨hzero, hpositive⟩ := start_spec b
      exact ⟨by simpa [replacement] using hzero, hpositive⟩

theorem zero_mem_decodeLoop {p : Option Pending} (hp : Positive p) (bytes : List ℕ) :
    0 ∈ decodeLoop p bytes ↔ 0 ∈ bytes := by
  induction bytes generalizing p with
  | nil => cases p <;> simp [decodeLoop, replacement]
  | cons b rest ih =>
    obtain ⟨hzero, hnext⟩ := feed_spec hp b
    rw [decodeLoop, List.mem_append, ih hnext, hzero, List.mem_cons, eq_comm]

theorem zero_mem_decodeReplace (bytes : List ℕ) : 0 ∈ decodeReplace bytes ↔ 0 ∈ bytes :=
  zero_mem_decodeLoop (fun q hq => by cases hq) bytes

/-! ### Percent signs -/

def hexValue (c : ℕ) : Option ℕ :=
  if 0x30 ≤ c ∧ c ≤ 0x39 then some (c - 0x30)
  else if 0x41 ≤ c ∧ c ≤ 0x46 then some (c - 0x37)
  else if 0x61 ≤ c ∧ c ≤ 0x66 then some (c - 0x57)
  else none

/-- The byte that two hexadecimal digits write. -/
def hexByte (a b : ℕ) : Option ℕ := do
  let high ← hexValue a
  let low ← hexValue b
  return 16 * high + low

/-- `unquote_to_bytes` of an ASCII text. -/
def unquoteToBytes : List ℕ → List ℕ
  | [] => []
  | [c] => [c]
  | [c, d] => [c, d]
  | c :: a :: b :: rest =>
    match if c = 0x25 then hexByte a b else none with
    | some byte => byte :: unquoteToBytes rest
    | none => c :: unquoteToBytes (a :: b :: rest)

/-- `unquote`, with the ASCII characters that have just been read. -/
def unquoteLoop (run : List ℕ) : List ℕ → List ℕ
  | [] => decodeReplace (unquoteToBytes run)
  | c :: rest =>
    if c < 0x80 then unquoteLoop (run ++ [c]) rest
    else decodeReplace (unquoteToBytes run) ++ c :: unquoteLoop [] rest

/-- `unquote`: the ASCII runs of the text are decoded, the rest stands. -/
def unquote (t : List ℕ) : List ℕ := unquoteLoop [] t

/-- `replace("+", " ")` -/
def plusToSpace (t : List ℕ) : List ℕ := t.map fun c => if c = 0x2B then 0x20 else c

/-- `parse_qsl(t, keep_blank_values=True)` -/
def parseQsl (t : List ℕ) : List (List ℕ × List ℕ) :=
  ((t.splitOn 0x26).filter (· ≠ [])).map fun nameValue =>
    let name := nameValue.takeWhile (· ≠ 0x3D)
    let value := (nameValue.dropWhile (· ≠ 0x3D)).drop 1
    (unquote (plusToSpace name), unquote (plusToSpace value))

/-! ### Where a NUL comes from -/

/-- The text has a NUL, or the escape `%00`. -/
def Carries : List ℕ → Prop
  | [] => False
  | c :: rest => c = 0 ∨ (c = 0x25 ∧ [0x30, 0x30] <+: rest) ∨ Carries rest

/-- A separator is no part of the escape. -/
theorem carries_append {sep : ℕ} (h0 : sep ≠ 0) (hpercent : sep ≠ 0x25) (hzero : sep ≠ 0x30)
    (t rest : List ℕ) : Carries (t ++ sep :: rest) ↔ Carries t ∨ Carries rest := by
  induction t with
  | nil => simp [Carries, h0, hpercent]
  | cons c t ih =>
    have hprefix : [0x30, 0x30] <+: t ++ sep :: rest ↔ [0x30, 0x30] <+: t := by
      rcases t with _ | ⟨a, _ | ⟨b, t⟩⟩ <;> simp [List.cons_prefix_cons, hzero.symm]
    rw [List.cons_append, Carries, Carries, ih, hprefix]
    simp only [or_assoc]

theorem hexValue_spec {c n : ℕ} (h : hexValue c = some n) :
    c ≠ 0 ∧ c ≠ 0x25 ∧ (n = 0 ↔ c = 0x30) := by
  unfold hexValue at h
  split_ifs at h <;> obtain rfl := Option.some.inj h <;> omega

theorem zero_mem_unquoteToBytes (t : List ℕ) : 0 ∈ unquoteToBytes t ↔ Carries t := by
  fun_induction unquoteToBytes t with
  | case1 => simp [Carries]
  | case2 c => simp [Carries, @eq_comm ℕ 0]
  | case3 c d => simp [Carries, @eq_comm ℕ 0, List.cons_prefix_cons]
  | case4 c a b rest byte hbyte ih =>
    by_cases hc : c = 0x25
    · rw [if_pos hc] at hbyte
      obtain ⟨high, hhigh, hbyte⟩ := Option.bind_eq_some_iff.mp hbyte
      obtain ⟨low, hlow, hbyte⟩ := Option.bind_eq_some_iff.mp hbyte
      obtain rfl := Option.some.inj hbyte
      obtain ⟨ha0, hapercent, hazero⟩ := hexValue_spec hhigh
      obtain ⟨hb0, hbpercent, hbzero⟩ := hexValue_spec hlow
      have hbyte : 0 = 16 * high + low ↔ a = 0x30 ∧ b = 0x30 := by omega
      rw [List.mem_cons, ih, hbyte]
      simp [Carries, hc, ha0, hapercent, hb0, hbpercent, List.cons_prefix_cons, @eq_comm ℕ 48]
    · rw [if_neg hc] at hbyte
      cases hbyte
  | case5 c a b rest hbyte ih =>
    have hescape : ¬ (c = 0x25 ∧ [0x30, 0x30] <+: a :: b :: rest) := by
      rintro ⟨hc, hprefix⟩
      obtain ⟨ha, hb⟩ : 0x30 = a ∧ 0x30 = b := by simpa [List.cons_prefix_cons] using hprefix
      subst ha hb
      rw [if_pos hc] at hbyte
      cases hbyte
    rw [List.mem_cons, ih, @eq_comm ℕ 0]
    conv_rhs => rw [Carries]
    simp only [hescape, false_or]

theorem zero_mem_unquoteLoop (run t : List ℕ) : 0 ∈ unquoteLoop run t ↔ Carries (run ++ t) := by
  induction t generalizing run with
  | nil => rw [unquoteLoop, zero_mem_decodeReplace, zero_mem_unquoteToBytes, List.append_nil]
  | cons c rest ih =>
    rw [unquoteLoop]
    split
    · rw [ih, List.append_assoc, List.singleton_append]
    · rename_i hc
      rw [carries_append (by omega) (by omega) (by omega), List.mem_append, List.mem_cons,
        zero_mem_decodeReplace, zero_mem_unquoteToBytes, ih, List.nil_append]
      have hne : ¬ 0 = c := by omega
      simp only [hne, false_or]

theorem zero_mem_unquote (t : List ℕ) : 0 ∈ unquote t ↔ Carries t := zero_mem_unquoteLoop [] t

theorem carries_plusToSpace (t : List ℕ) : Carries (plusToSpace t) ↔ Carries t := by
  induction t with
  | nil => rfl
  | cons c t ih =>
    have hprefix : [0x30, 0x30] <+: plusToSpace t ↔ [0x30, 0x30] <+: t := by
      rcases t with _ | ⟨a, _ | ⟨b, t⟩⟩ <;> grind [plusToSpace]
    rw [plusToSpace, List.map_cons, ← plusToSpace, Carries, Carries, ih, hprefix]
    split <;> simp [*]

theorem carries_splitOn (t : List ℕ) : (∃ part ∈ t.splitOn 0x26, Carries part) ↔ Carries t := by
  have hjoin : [0x26].intercalate (t.splitOn 0x26) = t := List.intercalate_splitOn 0x26
  conv_rhs => rw [← hjoin]
  generalize t.splitOn 0x26 = parts
  induction parts with
  | nil => simp [Carries]
  | cons part parts ih =>
    cases parts with
    | nil => simp
    | cons next parts =>
      rw [List.intercalate_cons_cons, List.append_assoc, List.singleton_append,
        carries_append (by omega) (by omega) (by omega), ← ih, List.exists_mem_cons_iff]

theorem carries_partition (t : List ℕ) :
    Carries (t.takeWhile (· ≠ 0x3D)) ∨ Carries ((t.dropWhile (· ≠ 0x3D)).drop 1) ↔ Carries t := by
  conv_rhs => rw [← List.takeWhile_append_dropWhile (p := (· ≠ 0x3D)) (l := t)]
  cases h : t.dropWhile (· ≠ 0x3D) with
  | nil => simp [Carries]
  | cons sep rest =>
    have hsep : sep = 0x3D := by
      have hhead := List.head?_dropWhile_not (· ≠ 0x3D) t
      rw [h] at hhead
      simpa using hhead
    subst hsep
    rw [carries_append (by omega) (by omega) (by omega)]
    rfl

theorem zero_mem_parseQsl (t : List ℕ) :
    (∃ pair ∈ parseQsl t, 0 ∈ pair.1 ∨ 0 ∈ pair.2) ↔ Carries t := by
  rw [← carries_splitOn]
  unfold parseQsl
  simp only [List.mem_map, exists_exists_and_eq_and, zero_mem_unquote, carries_plusToSpace,
    carries_partition]
  constructor
  · rintro ⟨part, hpart, h⟩
    exact ⟨part, (List.mem_filter.mp hpart).1, h⟩
  · rintro ⟨part, hpart, h⟩
    refine ⟨part, List.mem_filter.mpr ⟨hpart, ?_⟩, h⟩
    cases part with
    | nil => cases h
    | cons c part => rfl

end UrlEncoded
