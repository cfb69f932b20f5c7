/-
Markup with texts put into it, and how it is tokenized.

The tokenizer follows the states of the HTML standard for start and end tags, attributes, style
sheets and the character references that `html.escape` writes.  A NUL is dropped from text and
replaced elsewhere; carriage returns are normalised before.

* `run_append` — the tokens of a text in two parts;
* `core_sound`, `parse_free` — no carriage return and no NUL is ever read;
* `run_escape` — an escaped text is read back, in text and in a value;
* `run_first` — the first attribute of a tag is the one it begins with;
* **`parse_iff`** — filled markup is read as it is meant exactly when the texts are clean.
-/
import Mathlib.Data.List.Basic

namespace Html

abbrev Str := List Char

structure Tag where
  isEnd : Bool
  name : Str
  attrs : List (Str × Str)

inductive Token where
  | tag (t : Tag)
  | char (c : Char)

inductive Quote where
  | double
  | single
  | unquoted
  deriving DecidableEq

/-- An attribute value in the making. -/
structure Value where
  tag : Tag
  name : Str
  quote : Quote
  value : Str

inductive State where
  | data
  /-- In a style sheet, with what has been read of its end tag. -/
  | raw (seen : Str)
  | tagOpen (isEnd : Bool)
  | markup
  | tagName (t : Tag)
  | beforeName (t : Tag)
  | attrName (t : Tag) (name : Str)
  | afterName (t : Tag) (name : Str)
  | beforeValue (t : Tag) (name : Str)
  | value (v : Value)
  | afterValue (t : Tag)
  | selfClosing (t : Tag)
  /-- After an ampersand, in text or in a value. -/
  | ref (inside : Option Value) (seen : Str)

def isBlank (c : Char) : Bool := c = '\t' || c = '\n' || c = '\x0c' || c = ' '

def lower (c : Char) : Char := if 'A' ≤ c ∧ c ≤ 'Z' then Char.ofNat (c.toNat + 32) else c

/-- Of two attributes of one name the first counts. -/
def Tag.add (t : Tag) (name value : Str) : Tag :=
  if t.attrs.any fun a => a.1 = name then t else { t with attrs := t.attrs ++ [(name, value)] }

def emit (t : Tag) : State × List Token :=
  (if !t.isEnd && t.name = "style".toList then .raw [] else .data, [.tag t])

def Value.done (v : Value) : Tag := v.tag.add v.name v.value

/-- What a character reference stands for. -/
def decodeRef (name : Str) : Str :=
  if name = "amp".toList then ['&'] else if name = "lt".toList then ['<']
  else if name = "gt".toList then ['>'] else '&' :: name ++ [';']

def text (inside : Option Value) (s : Str) : State × List Token :=
  match inside with
  | none => (.data, s.map .char)
  | some v => (.value { v with value := v.value ++ s }, [])

def nextName (t : Tag) (c : Char) : State × List Token :=
  if isBlank c then (.beforeName t, []) else if c = '/' then (.selfClosing t, [])
  else if c = '>' then emit t else (.attrName t [lower c], [])

def inData (c : Char) : State × List Token :=
  if c = '&' then (.ref none [], []) else if c = '<' then (.tagOpen false, [])
  else (.data, [.char c])

/-- The step at a character other than NUL. -/
def core : State → Char → State × List Token
  | .data, c => inData c
  | .raw seen, c =>
    if seen ++ [c] = "</style>".toList then (.data, [.tag ⟨true, "style".toList, []⟩])
    else if (seen ++ [c]).isPrefixOf "</style>".toList then (.raw (seen ++ [c]), [])
    else if c = '<' then (.raw ['<'], seen.map .char)
    else (.raw [], (seen ++ [c]).map .char)
  | .tagOpen isEnd, c =>
    if c.isAlpha then (.tagName ⟨isEnd, [lower c], []⟩, [])
    else if isEnd || c = '!' then (.markup, []) else if c = '/' then (.tagOpen true, [])
    else ((inData c).1, .char '<' :: (inData c).2)
  | .markup, c => if c = '>' then (.data, []) else (.markup, [])
  | .tagName t, c =>
    if isBlank c then (.beforeName t, []) else if c = '/' then (.selfClosing t, [])
    else if c = '>' then emit t else (.tagName { t with name := t.name ++ [lower c] }, [])
  | .beforeName t, c => nextName t c
  | .attrName t n, c =>
    if isBlank c then (.afterName t n, []) else if c = '/' then (.selfClosing (t.add n []), [])
    else if c = '>' then emit (t.add n []) else if c = '=' then (.beforeValue t n, [])
    else (.attrName t (n ++ [lower c]), [])
  | .afterName t n, c =>
    if isBlank c then (.afterName t n, []) else if c = '=' then (.beforeValue t n, [])
    else nextName (t.add n []) c
  | .beforeValue t n, c =>
    if isBlank c then (.beforeValue t n, [])
    else if c = '"' then (.value ⟨t, n, .double, []⟩, [])
    else if c = '\'' then (.value ⟨t, n, .single, []⟩, [])
    else if c = '>' then emit (t.add n [])
    else if c = '&' then (.ref (some ⟨t, n, .unquoted, []⟩) [], [])
    else (.value ⟨t, n, .unquoted, [c]⟩, [])
  | .value v, c =>
    if c = '&' then (.ref (some v) [], [])
    else if v.quote = .double ∧ c = '"' ∨ v.quote = .single ∧ c = '\'' then (.afterValue v.done, [])
    else if v.quote = .unquoted ∧ isBlank c then (.beforeName v.done, [])
    else if v.quote = .unquoted ∧ c = '>' then emit v.done
    else text (some v) [c]
  | .afterValue t, c => nextName t c
  | .selfClosing t, c => nextName t c
  | .ref inside seen, c =>
    if c = ';' then text inside (decodeRef seen) else (.ref inside (seen ++ [c]), [])

def step (st : State) (c : Char) : State × List Token :=
  if c ≠ '\x00' then core st c
  else match st with
    | .data => (.data, [])
    | st => core st '\uFFFD'

def run : State → Str → List Token
  | _, [] => []
  | st, c :: rest => (step st c).2 ++ run (step st c).1 rest

def after (st : State) (s : Str) : State := s.foldl (fun st c => (step st c).1) st

/-- The normalisation of newlines. -/
def newlines : Str → Str
  | [] => []
  | '\r' :: '\n' :: rest => '\n' :: newlines rest
  | '\r' :: rest => '\n' :: newlines rest
  | c :: rest => c :: newlines rest

def parse (s : Str) : List Token := run .data (newlines s)

theorem run_append (st : State) (x y : Str) : run st (x ++ y) = run st x ++ run (after st x) y := by
  induction x generalizing st with
  | nil => rfl
  | cons c x ih =>
    rw [List.cons_append, run, run, ih, List.append_assoc]
    rfl

theorem newlines_eq {s : Str} (h : '\r' ∉ s) : newlines s = s := by
  fun_induction newlines s with
  | case1 => rfl
  | case2 rest => exact absurd List.mem_cons_self h
  | case3 rest => exact absurd List.mem_cons_self h
  | case4 c rest _ _ ih => rw [ih fun hr => h (List.mem_cons_of_mem c hr)]

theorem newlines_free (s : Str) : ∀ c ∈ newlines s, c ≠ '\r' := by
  fun_induction newlines s with
  | case1 => simp
  | case2 rest ih => exact List.forall_mem_cons.mpr ⟨by decide, ih⟩
  | case3 rest _ ih => exact List.forall_mem_cons.mpr ⟨by decide, ih⟩
  | case4 c rest _ hc ih => exact List.forall_mem_cons.mpr ⟨hc, ih⟩

section Free

variable {P : Char → Prop}

def Tag.All (P : Char → Prop) (t : Tag) : Prop :=
  (∀ c ∈ t.name, P c) ∧ ∀ a ∈ t.attrs, (∀ c ∈ a.1, P c) ∧ ∀ c ∈ a.2, P c

def Token.All (P : Char → Prop) : Token → Prop
  | .tag t => t.All P
  | .char c => P c

def Value.All (P : Char → Prop) (v : Value) : Prop :=
  v.tag.All P ∧ (∀ c ∈ v.name, P c) ∧ ∀ c ∈ v.value, P c

def State.All (P : Char → Prop) : State → Prop
  | .data | .tagOpen _ | .markup => True
  | .raw seen => ∀ c ∈ seen, P c
  | .tagName t | .beforeName t | .afterValue t | .selfClosing t => t.All P
  | .attrName t n | .afterName t n | .beforeValue t n => t.All P ∧ ∀ c ∈ n, P c
  | .value v => v.All P
  | .ref inside seen => (∀ v ∈ inside, v.All P) ∧ ∀ c ∈ seen, P c

/-- What the tokenizer makes of the characters it reads. -/
structure Kept (P : Char → Prop) : Prop where
  lower : ∀ c, P c → P (lower c)
  fixed : ∀ c ∈ "&<>;\uFFFD</style>".toList, P c

def Sound (P : Char → Prop) (out : State × List Token) : Prop :=
  out.1.All P ∧ ∀ token ∈ out.2, token.All P

theorem Tag.All.add {t : Tag} (h : t.All P) {n v : Str} (hn : ∀ c ∈ n, P c) (hv : ∀ c ∈ v, P c) :
    (t.add n v).All P := by
  unfold Tag.add
  split
  · exact h
  · refine ⟨h.1, fun a ha => ?_⟩
    rcases List.mem_append.mp ha with ha | ha
    · exact h.2 a ha
    · rw [List.mem_singleton.mp ha]
      exact ⟨hn, hv⟩

theorem Tag.All.emit {t : Tag} (h : t.All P) : Sound P (emit t) := by
  refine ⟨?_, List.forall_mem_singleton.mpr h⟩
  unfold Html.emit
  dsimp only
  split
  · exact fun c hc => by cases hc
  · trivial

theorem Tag.All.nextName (hP : Kept P) {t : Tag} (h : t.All P) {c : Char} (hc : P c) :
    Sound P (nextName t c) := by
  unfold Html.nextName
  split_ifs
  · exact ⟨h, by simp⟩
  · exact ⟨h, by simp⟩
  · exact h.emit
  · exact ⟨⟨h, List.forall_mem_singleton.mpr (hP.lower c hc)⟩, by simp⟩

theorem chars_sound {s : Str} (h : ∀ c ∈ s, P c) : ∀ token ∈ s.map Token.char, token.All P :=
  List.forall_mem_map.mpr h

theorem text_sound {inside : Option Value} (h : ∀ v ∈ inside, v.All P) {s : Str} (hs : ∀ c ∈ s, P c) :
    Sound P (text inside s) := by
  cases inside with
  | none => exact ⟨trivial, chars_sound hs⟩
  | some v =>
    obtain ⟨ht, hn, hv⟩ := h v rfl
    exact ⟨⟨ht, hn, List.forall_mem_append.mpr ⟨hv, hs⟩⟩, by simp [text]⟩

theorem decodeRef_sound (hP : Kept P) {seen : Str} (h : ∀ c ∈ seen, P c) : ∀ c ∈ decodeRef seen, P c := by
  unfold decodeRef
  split_ifs
  · exact List.forall_mem_singleton.mpr (hP.fixed _ (by decide))
  · exact List.forall_mem_singleton.mpr (hP.fixed _ (by decide))
  · exact List.forall_mem_singleton.mpr (hP.fixed _ (by decide))
  · refine List.forall_mem_cons.mpr ⟨hP.fixed _ (by decide), List.forall_mem_append.mpr ⟨h, ?_⟩⟩
    exact List.forall_mem_singleton.mpr (hP.fixed _ (by decide))

theorem inData_sound {c : Char} (hc : P c) : Sound P (inData c) := by
  unfold inData
  split_ifs
  · exact ⟨⟨by simp, by simp⟩, by simp⟩
  · exact ⟨trivial, by simp⟩
  · exact ⟨trivial, List.forall_mem_singleton.mpr hc⟩

theorem core_sound (hP : Kept P) {st : State} (h : st.All P) {c : Char} (hc : P c) :
    Sound P (core st c) := by
  have hadd : ∀ s : Str, (∀ d ∈ s, P d) → ∀ d ∈ s ++ [c], P d := fun s hs =>
    List.forall_mem_append.mpr ⟨hs, List.forall_mem_singleton.mpr hc⟩
  have hlower : ∀ s : Str, (∀ d ∈ s, P d) → ∀ d ∈ s ++ [lower c], P d := fun s hs =>
    List.forall_mem_append.mpr ⟨hs, List.forall_mem_singleton.mpr (hP.lower c hc)⟩
  have hnil : ∀ d ∈ ([] : Str), P d := by simp
  have hno : ∀ token ∈ ([] : List Token), token.All P := by simp
  cases st with
  | data => exact inData_sound hc
  | raw seen =>
    simp only [core]
    split_ifs
    · refine ⟨trivial, List.forall_mem_singleton.mpr ⟨fun d hd => hP.fixed d ?_, by simp⟩⟩
      have hsub : "style".toList ⊆ "&<>;\uFFFD</style>".toList := by decide
      exact hsub hd
    · exact ⟨hadd seen h, hno⟩
    · exact ⟨List.forall_mem_singleton.mpr (hP.fixed _ (by decide)), chars_sound h⟩
    · exact ⟨hnil, chars_sound (hadd seen h)⟩
  | tagOpen isEnd =>
    simp only [core]
    split_ifs
    · exact ⟨⟨hlower [] hnil, by simp⟩, hno⟩
    · exact ⟨trivial, hno⟩
    · exact ⟨trivial, hno⟩
    · exact ⟨(inData_sound hc).1, List.forall_mem_cons.mpr ⟨hP.fixed _ (by decide), (inData_sound hc).2⟩⟩
  | markup =>
    simp only [core]
    split_ifs <;> exact ⟨trivial, hno⟩
  | tagName t =>
    simp only [core]
    split_ifs
    · exact ⟨h, hno⟩
    · exact ⟨h, hno⟩
    · exact h.emit
    · exact ⟨⟨hlower _ h.1, h.2⟩, hno⟩
  | beforeName t => exact h.nextName hP hc
  | attrName t n =>
    simp only [core]
    split_ifs
    · exact ⟨h, hno⟩
    · exact ⟨h.1.add h.2 hnil, hno⟩
    · exact (h.1.add h.2 hnil).emit
    · exact ⟨h, hno⟩
    · exact ⟨⟨h.1, hlower n h.2⟩, hno⟩
  | afterName t n =>
    simp only [core]
    split_ifs
    · exact ⟨h, hno⟩
    · exact ⟨h, hno⟩
    · exact (h.1.add h.2 hnil).nextName hP hc
  | beforeValue t n =>
    simp only [core]
    split_ifs
    · exact ⟨h, hno⟩
    · exact ⟨⟨h.1, h.2, hnil⟩, hno⟩
    · exact ⟨⟨h.1, h.2, hnil⟩, hno⟩
    · exact (h.1.add h.2 hnil).emit
    · exact ⟨⟨fun v hv => Option.some.inj hv ▸ ⟨h.1, h.2, hnil⟩, hnil⟩, hno⟩
    · exact ⟨⟨h.1, h.2, List.forall_mem_singleton.mpr hc⟩, hno⟩
  | value v =>
    -- the value may end the tag, or begin a reference
    have hdone : v.done.All P := h.1.add h.2.1 h.2.2
    simp only [core]
    split_ifs
    · exact ⟨⟨fun w hw => Option.some.inj hw ▸ h, hnil⟩, hno⟩
    · exact ⟨hdone, hno⟩
    · exact ⟨hdone, hno⟩
    · exact hdone.emit
    · exact text_sound (fun w hw => Option.some.inj hw ▸ h) (List.forall_mem_singleton.mpr hc)
  | afterValue t => exact h.nextName hP hc
  | selfClosing t => exact h.nextName hP hc
  | ref inside seen =>
    simp only [core]
    split_ifs
    · -- at the `;` the reference becomes text
      exact text_sound h.1 (decodeRef_sound hP h.2)
    · exact ⟨⟨h.1, hadd seen h.2⟩, hno⟩

theorem run_sound (hP : Kept P) {st : State} (h : st.All P) {s : Str}
    (hs : ∀ c ∈ s, c ≠ '\x00' → P c) : ∀ token ∈ run st s, token.All P := by
  induction s generalizing st with
  | nil => simp [run]
  | cons c s ih =>
    obtain ⟨hc, hs⟩ := List.forall_mem_cons.mp hs
    have hstep : Sound P (step st c) := by
      unfold step
      split
      · rename_i hne
        exact core_sound hP h (hc hne)
      · split
        · exact ⟨trivial, by simp⟩
        · exact core_sound hP h (hP.fixed _ (by decide))
    exact List.forall_mem_append.mpr ⟨hstep.2, ih hstep.1 hs⟩

/-- Neither a carriage return nor a NUL is ever read. -/
theorem parse_free (s : Str) : ∀ token ∈ parse s, token.All fun c => c ≠ '\r' ∧ c ≠ '\x00' := by
  have hdata : State.data.All fun c => c ≠ '\r' ∧ c ≠ '\x00' := trivial
  refine run_sound ⟨?_, by simp⟩ hdata fun c hc hne => ⟨newlines_free s c hc, hne⟩
  intro c hc
  unfold lower
  split
  · rename_i hcapital
    have hlow : 65 ≤ c.toNat := UInt32.le_iff_toNat_le.mp hcapital.1
    have hhigh : c.toNat ≤ 90 := UInt32.le_iff_toNat_le.mp hcapital.2
    have hall : ∀ n : Fin 26, Char.ofNat (n + 65 + 32) ≠ '\r' ∧ Char.ofNat (n + 65 + 32) ≠ '\x00' := by
      decide
    have h := hall ⟨c.toNat - 65, by omega⟩
    rwa [show c.toNat - 65 + 65 = c.toNat by omega] at h
  · exact hc

end Free

section First

variable {a : Str × Str}

def Tag.First (a : Str × Str) (t : Tag) : Prop := t.attrs.head? = some a

/-- In a tag whose first attribute is complete. -/
def State.First (a : Str × Str) : State → Prop
  | .beforeName t | .afterValue t | .selfClosing t => t.First a
  | .attrName t _ | .afterName t _ | .beforeValue t _ => t.First a
  | .value v | .ref (some v) _ => v.tag.First a
  | _ => False

/-- Nothing comes before the tag itself. -/
def Leads (a : Str × Str) (out : State × List Token) : Prop :=
  out.1.First a ∧ out.2 = [] ∨ ∃ t : Tag, out.2 = [.tag t] ∧ t.First a

theorem Tag.First.add {t : Tag} (h : t.First a) (n v : Str) : (t.add n v).First a := by
  unfold Tag.add
  split
  · exact h
  · rw [Tag.First, List.head?_append, h]
    rfl

theorem Tag.First.emit {t : Tag} (h : t.First a) : Leads a (emit t) := .inr ⟨t, rfl, h⟩

theorem Tag.First.nextName {t : Tag} (h : t.First a) (c : Char) : Leads a (nextName t c) := by
  unfold Html.nextName
  split_ifs
  · exact .inl ⟨h, rfl⟩
  · exact .inl ⟨h, rfl⟩
  · exact h.emit
  · exact .inl ⟨h, rfl⟩

theorem core_first {st : State} (h : st.First a) (c : Char) : Leads a (core st c) := by
  cases st with
  | data | raw | tagOpen | markup | tagName => exact h.elim
  | beforeName t => exact Tag.First.nextName h c
  | afterValue t => exact Tag.First.nextName h c
  | selfClosing t => exact Tag.First.nextName h c
  | attrName t n =>
    have hadd : (t.add n []).First a := Tag.First.add h n []
    simp only [core]
    split_ifs
    · exact .inl ⟨h, rfl⟩
    · exact .inl ⟨hadd, rfl⟩
    · exact hadd.emit
    · exact .inl ⟨h, rfl⟩
    · exact .inl ⟨h, rfl⟩
  | afterName t n =>
    simp only [core]
    split_ifs
    · exact .inl ⟨h, rfl⟩
    · exact .inl ⟨h, rfl⟩
    · exact (Tag.First.add h n []).nextName c
  | beforeValue t n =>
    simp only [core]
    split_ifs
    · exact .inl ⟨h, rfl⟩
    · exact .inl ⟨h, rfl⟩
    · exact .inl ⟨h, rfl⟩
    · exact (Tag.First.add h n []).emit
    · exact .inl ⟨h, rfl⟩
    · exact .inl ⟨h, rfl⟩
  | value v =>
    have hdone : v.done.First a := Tag.First.add h v.name v.value
    simp only [core]
    split_ifs
    · exact .inl ⟨h, rfl⟩
    · exact .inl ⟨hdone, rfl⟩
    · exact .inl ⟨hdone, rfl⟩
    · exact hdone.emit
    · exact .inl ⟨h, rfl⟩
  | ref inside seen =>
    cases inside with
    | none => exact h.elim
    | some v =>
      simp only [core]
      split_ifs
      · exact .inl ⟨h, rfl⟩
      · exact .inl ⟨h, rfl⟩

theorem run_first {st : State} (h : st.First a) {s : Str} {token : Token}
    (htoken : (run st s).head? = some token) : ∃ t : Tag, token = .tag t ∧ t.First a := by
  induction s generalizing st with
  | nil => cases htoken
  | cons c s ih =>
    have hstep : Leads a (step st c) := by
      unfold step
      split
      · exact core_first h c
      · split
        · exact h.elim
        · exact core_first h _
    rw [run] at htoken
    rcases hstep with ⟨hfirst, hnil⟩ | ⟨t, htag, hfirst⟩
    · rw [hnil] at htoken
      exact ih hfirst htoken
    · rw [htag] at htoken
      exact ⟨t, (Option.some.inj htoken).symm, hfirst⟩

end First

/-! ### Texts put into markup -/

/-- `html.escape` with `quote=False`. -/
def escape (s : Str) : Str := s.flatMap fun c =>
  if c = '&' then "&amp;".toList else if c = '<' then "&lt;".toList
  else if c = '>' then "&gt;".toList else [c]

theorem run_char {inside : Option Value} {c : Char} (y : Str)
    (h : c ≠ '\x00' ∧ ∀ v ∈ inside, v.quote = .double ∧ c ≠ '"') :
    run (text inside []).1 (escape [c] ++ y) = (text inside [c]).2 ++ run (text inside [c]).1 y := by
  obtain ⟨hnul, hquote⟩ := h
  by_cases hspecial : c = '&' ∨ c = '<' ∨ c = '>'
  · -- the reference is read back
    rcases hspecial with rfl | rfl | rfl <;> cases inside <;> simp [text] <;> rfl
  · push Not at hspecial
    obtain ⟨hamp, hlt, hgt⟩ := hspecial
    have hescape : escape [c] = [c] := by simp [escape, hamp, hlt, hgt]
    have hstep : ∀ st, step st c = core st c := fun st => by
      unfold step
      rw [if_pos hnul]
    rw [hescape, List.singleton_append, run, hstep]
    cases inside with
    | none => simp [text, core, inData, hamp, hlt]
    | some v =>
      obtain ⟨hdouble, hne⟩ := hquote v rfl
      simp [text, core, hamp, hne, hdouble]

theorem run_escape (inside : Option Value) {s : Str} (rest : Str)
    (h : ∀ c ∈ s, c ≠ '\x00' ∧ ∀ v ∈ inside, v.quote = .double ∧ c ≠ '"') :
    run (text inside []).1 (escape s ++ rest) = (text inside s).2 ++ run (text inside s).1 rest := by
  induction s generalizing inside with
  | nil => cases inside <;> rfl
  | cons c s ih =>
    obtain ⟨hc, hs⟩ := List.forall_mem_cons.mp h
    have hsplit : escape (c :: s) = escape [c] ++ escape s := by simp [escape]
    rw [hsplit, List.append_assoc, run_char _ hc]
    cases inside with
    | none => exact congrArg (Token.char c :: ·) (ih none hs)
    | some v =>
      have hv := ih (some { v with value := v.value ++ [c] })
        fun d hd => ⟨(hs d hd).1, fun w hw => Option.some.inj hw ▸ (hs d hd).2 v rfl⟩
      simpa [text] using hv

/-- Nothing that the reading of a text changes. -/
def Clean (s : Str) : Prop := ∀ c ∈ s, c ≠ '\r' ∧ c ≠ '\x00'

instance (s : Str) : Decidable (Clean s) := List.decidableBAll _ s

/-- Markup from text to text. -/
structure Markup where
  text : Str
  back : after .data text = .data
  clean : Clean text

/-- The markup around a text in the first attribute of a tag, whose value begins with `start`. -/
structure Slot where
  before : Str
  behind : Str
  tag : Str
  key : Str
  start : Str
  more : List (Str × Str)
  opens : run .data before = []
  inside : after .data before = .value ⟨⟨false, tag, []⟩, key, .double, start⟩
  closes : ∀ s, run (.afterValue ⟨false, tag, [(key, s)]⟩) behind = [.tag ⟨false, tag, (key, s) :: more⟩]
  back : ∀ s, after (.afterValue ⟨false, tag, [(key, s)]⟩) behind = .data
  clean : Clean (before ++ behind)

inductive Part where
  | markup (m : Markup)
  | text (s : Str)
  | value (slot : Slot) (s shown : Str) (h : shown = escape s)

def Part.html : Part → Str
  | .markup m => m.text
  | .text s => escape s
  | .value slot _ shown _ => slot.before ++ shown ++ '"' :: slot.behind

/-- What a part is meant to be read as. -/
def Part.tokens : Part → List Token
  | .markup m => run .data m.text
  | .text s => s.map .char
  | .value slot s _ _ => [.tag ⟨false, slot.tag, (slot.key, slot.start ++ s) :: slot.more⟩]

def Part.strings : Part → List Str
  | .markup _ => []
  | .text s | .value _ s _ _ => [s]

@[simp] def Part.Unquoted : Part → Prop
  | .value _ s _ _ => '"' ∉ s
  | _ => True

def html (parts : List Part) : Str := parts.flatMap Part.html

def fill (parts : List Part) : List Token := parts.flatMap Part.tokens

theorem escape_clean {s : Str} (h : Clean s) : Clean (escape s) := by
  intro c hc
  obtain ⟨d, hd, hc⟩ := List.mem_flatMap.mp hc
  have href : ∀ t ∈ ["&amp;".toList, "&lt;".toList, "&gt;".toList], Clean t := by decide
  split_ifs at hc
  · exact href _ (by simp) c hc
  · exact href _ (by simp) c hc
  · exact href _ (by simp) c hc
  · rw [List.mem_singleton.mp hc]
    exact h d hd

theorem html_clean {parts : List Part} (h : ∀ p ∈ parts, ∀ s ∈ p.strings, Clean s) :
    Clean (html parts) := by
  intro c hc
  obtain ⟨p, hp, hc⟩ := List.mem_flatMap.mp hc
  cases p with
  | markup m => exact m.clean c hc
  | text s => exact escape_clean (h _ hp s (by simp [Part.strings])) c hc
  | value slot s shown hshown =>
    subst hshown
    have hs := escape_clean (h _ hp s (by simp [Part.strings]))
    have hslot := List.forall_mem_append.mp slot.clean
    refine List.forall_mem_append.mpr ⟨List.forall_mem_append.mpr ⟨hslot.1, hs⟩, ?_⟩ c hc
    exact List.forall_mem_cons.mpr ⟨by decide, hslot.2⟩

/-- Before its quote a value is read, and then the tag has a shorter one. -/
theorem run_quote (slot : Slot) {x : Str} (hx : ∀ c ∈ x, c ≠ '\x00' ∧ c ≠ '"') (rest : Str) :
    run .data (slot.before ++ (escape x ++ '"' :: rest)) =
      run (.afterValue ⟨false, slot.tag, [(slot.key, slot.start ++ x)]⟩) rest := by
  let v : Value := ⟨⟨false, slot.tag, []⟩, slot.key, .double, slot.start⟩
  have hv := run_escape (some v) (s := x) ('"' :: rest) fun c hc =>
    ⟨(hx c hc).1, fun w hw => Option.some.inj hw ▸ ⟨rfl, (hx c hc).2⟩⟩
  have hstart : (text (some v) []).1 = after .data slot.before := by
    rw [slot.inside]
    simp [text, v]
  rw [run_append, slot.opens, ← hstart, hv]
  rfl

theorem run_html {parts : List Part} (h : ∀ p ∈ parts, ∀ s ∈ p.strings, Clean s) :
    run .data (html parts) = fill parts ↔ ∀ p ∈ parts, p.Unquoted := by
  induction parts with
  | nil => simp [html, fill, run]
  | cons p parts ih =>
    obtain ⟨hp, hparts⟩ := List.forall_mem_cons.mp h
    rw [List.forall_mem_cons, ← ih hparts, html, fill, List.flatMap_cons, List.flatMap_cons]
    change run .data (p.html ++ html parts) = p.tokens ++ fill parts ↔ _
    cases p with
    | markup m =>
      have hrun : run .data (m.text ++ html parts) = run .data m.text ++ run .data (html parts) := by
        rw [run_append, m.back]
      simp [Part.html, Part.tokens, hrun]
    | text s =>
      have hs : Clean s := hp s (by simp [Part.strings])
      have hrun := run_escape none (html parts) fun c hc => ⟨(hs c hc).2, by simp⟩
      have hread : run .data (escape s ++ html parts) = s.map .char ++ run .data (html parts) := hrun
      simp [Part.html, Part.tokens, hread]
    | value slot s shown hshown =>
      subst hshown
      have hs : Clean s := hp s (by simp [Part.strings])
      have hassoc : (Part.value slot s (escape s) rfl).html ++ html parts =
          slot.before ++ (escape s ++ '"' :: (slot.behind ++ html parts)) := by
        simp [Part.html]
      rw [hassoc, Part.Unquoted, Part.tokens, List.singleton_append]
      by_cases hquote : '"' ∈ s
      · obtain ⟨x, y, hxy, hx⟩ := List.eq_append_cons_of_mem hquote
        refine iff_of_false (fun heq => ?_) fun hno => hno.1 hquote
        have hsplit : escape s = escape x ++ '"' :: escape y := by simp [hxy, escape]
        have hread := run_quote slot (x := x)
          (fun c hc => ⟨(hs c (by simp [hxy, hc])).2, fun hcq => hx (hcq ▸ hc)⟩)
          (escape y ++ '"' :: (slot.behind ++ html parts))
        rw [hsplit, List.append_assoc, List.cons_append, hread] at heq
        have hstate : (State.afterValue ⟨false, slot.tag, [(slot.key, slot.start ++ x)]⟩).First
            (slot.key, slot.start ++ x) := rfl
        obtain ⟨t, ht, hfirst⟩ := run_first hstate (congrArg List.head? heq)
        obtain rfl := Token.tag.inj ht
        simp [Tag.First, hxy] at hfirst
      · have hread := run_quote slot
          (fun c hc => ⟨(hs c hc).2, fun hcq => hquote (hcq ▸ hc)⟩) (slot.behind ++ html parts)
        rw [hread, run_append, slot.closes, slot.back]
        simp [hquote]

/-- Filled markup is read as it is meant exactly when no text has a carriage return or a NUL and no
value a double quote. -/
theorem parse_iff (parts : List Part) : parse (html parts) = fill parts ↔
    ∀ p ∈ parts, (∀ s ∈ p.strings, Clean s) ∧ p.Unquoted := by
  rw [forall₂_and]
  have hparse (h : ∀ p ∈ parts, ∀ s ∈ p.strings, Clean s) :
      parse (html parts) = run .data (html parts) := by
    rw [parse, newlines_eq fun hc => (html_clean h _ hc).1 rfl]
  constructor
  · intro heq
    have hclean : ∀ p ∈ parts, ∀ s ∈ p.strings, Clean s := by
      intro p hp s hs
      have hfree : ∀ token ∈ p.tokens, token.All fun c => c ≠ '\r' ∧ c ≠ '\x00' := fun token htoken =>
        parse_free (html parts) token (heq ▸ List.mem_flatMap.mpr ⟨p, hp, htoken⟩)
      cases p with
      | markup m => cases hs
      | text t =>
        rw [List.mem_singleton.mp hs]
        exact fun c hc => hfree (.char c) (List.mem_map_of_mem hc)
      | value slot t shown hshown =>
        rw [List.mem_singleton.mp hs]
        have htag := (hfree _ List.mem_cons_self).2 _ List.mem_cons_self
        exact fun c hc => htag.2 c (List.mem_append_right _ hc)
    exact ⟨hclean, (run_html hclean).mp ((hparse hclean).symm.trans heq)⟩
  · rintro ⟨hclean, hvalues⟩
    exact (hparse hclean).trans ((run_html hclean).mpr hvalues)

end Html
