/-
Texts and JSON values as Python has them.

A `str` is a list of code points, surrogates included; UTF-8 has no bytes for those.
What is read from JSON may hold them, as escapes.

* `PyText`, `encodeUtf8`, `decodeUtf8` — `str.encode` and its inverse.
-/
import Mathlib

namespace Nexotec

/-! ### Texts -/

abbrev CodePoint := Fin 0x110000

abbrev PyText := List CodePoint

instance : LawfulBEq PyText := inferInstance

def CodePoint.ofChar (c : Char) : CodePoint :=
  ⟨c.toNat, by
    rcases c.valid with h | h
    · exact Nat.lt_trans h (by decide)
    · exact h.2⟩

def text (s : String) : PyText := s.toList.map CodePoint.ofChar

/-- The character, where the code point is not a surrogate. -/
def CodePoint.toChar? (c : CodePoint) : Option Char :=
  if h : c.val.isValidChar then some (Char.ofNatAux c.val h) else none

def Encodable (t : PyText) : Prop := ∀ c ∈ t, (CodePoint.toChar? c).isSome

instance (t : PyText) : Decidable (Encodable t) :=
  inferInstanceAs (Decidable (∀ c ∈ t, (CodePoint.toChar? c).isSome = true))

/-- `str.encode("utf-8")`; `none` is a `UnicodeEncodeError`. -/
def encodeUtf8 (t : PyText) : Option ByteArray := (t.mapM CodePoint.toChar?).map fun chars =>
  (String.ofList chars).toUTF8

/-- `bytes.decode("utf-8")`. -/
def decodeUtf8 (bytes : ByteArray) : Option PyText :=
  bytes.utf8Decode?.map fun chars => chars.toList.map CodePoint.ofChar

theorem ofChar_of_toChar? {c : CodePoint} {char : Char} (h : CodePoint.toChar? c = some char) :
    CodePoint.ofChar char = c := by
  unfold CodePoint.toChar? at h
  split at h
  · cases h
    exact Fin.ext rfl
  · cases h

theorem toChar?_ofChar (char : Char) : (CodePoint.ofChar char).toChar? = some char := by
  have hvalid : (CodePoint.ofChar char).val.isValidChar := char.valid
  unfold CodePoint.toChar?
  rw [dif_pos hvalid]
  exact congrArg some (Char.ext (UInt32.toNat_inj.mp rfl))

theorem encodable_ofChars (chars : List Char) : Encodable (chars.map CodePoint.ofChar) := by
  intro c hc
  obtain ⟨char, -, rfl⟩ := List.mem_map.mp hc
  rw [toChar?_ofChar]
  rfl

theorem encodable_text (s : String) : Encodable (text s) := encodable_ofChars _

theorem encodable_append {t u : PyText} : Encodable (t ++ u) ↔ Encodable t ∧ Encodable u := by
  unfold Encodable
  simp only [List.mem_append, or_imp, forall_and]

theorem map_ofChar_of_mapM {t : PyText} {chars : List Char}
    (h : t.mapM CodePoint.toChar? = some chars) : chars.map CodePoint.ofChar = t := by
  induction t generalizing chars with
  | nil =>
    cases h
    rfl
  | cons c t ih =>
    rw [List.mapM_cons] at h
    obtain ⟨char, hchar, h⟩ := Option.bind_eq_some_iff.mp h
    obtain ⟨chars, hchars, h⟩ := Option.bind_eq_some_iff.mp h
    cases h
    rw [List.map_cons, ofChar_of_toChar? hchar, ih hchars]

/-- What could be encoded is read back. -/
theorem decode_encode {t : PyText} {bytes : ByteArray} (h : encodeUtf8 t = some bytes) :
    decodeUtf8 bytes = some t := by
  obtain ⟨chars, hchars, rfl⟩ := Option.map_eq_some_iff.mp h
  have hbytes : (String.ofList chars).toUTF8 = chars.utf8Encode := String.toByteArray_ofList
  unfold decodeUtf8
  rw [hbytes, List.utf8Decode?_utf8Encode, Option.map_some, List.toList_toArray, map_ofChar_of_mapM hchars]

theorem encodeUtf8_isSome_iff {t : PyText} : (∃ bytes, encodeUtf8 t = some bytes) ↔ Encodable t := by
  unfold encodeUtf8 Encodable
  induction t with
  | nil => exact ⟨fun _ c hc => (by cases hc), fun _ => ⟨_, rfl⟩⟩
  | cons c t ih =>
    rw [List.mapM_cons]
    constructor
    · rintro ⟨bytes, h⟩
      obtain ⟨chars, hchars, -⟩ := Option.map_eq_some_iff.mp h
      obtain ⟨char, hchar, hchars⟩ := Option.bind_eq_some_iff.mp hchars
      obtain ⟨rest, hrest, -⟩ := Option.bind_eq_some_iff.mp hchars
      have ht := ih.mp ⟨(String.ofList rest).toUTF8, by rw [hrest]; rfl⟩
      intro d hd
      rcases List.mem_cons.mp hd with rfl | hd
      · rw [hchar]
        rfl
      · exact ht d hd
    · intro h
      obtain ⟨char, hchar⟩ := Option.isSome_iff_exists.mp (h c List.mem_cons_self)
      obtain ⟨bytes, hbytes⟩ := ih.mpr fun d hd => h d (List.mem_cons_of_mem c hd)
      obtain ⟨rest, hrest, -⟩ := Option.map_eq_some_iff.mp hbytes
      rw [hchar, hrest]
      exact ⟨_, rfl⟩

/-! ### Values -/

/-- A value read from JSON; of a float all that counts is whether it is zero. -/
inductive Json where
  | null
  | bool (b : Bool)
  | int (n : ℤ)
  | float (zero : Bool)
  | str (t : PyText)
  | list (values : List Json)
  | object (fields : List (PyText × Json))

/-- `bool(value)` -/
def Json.truthy : Json → Bool
  | .null => false
  | .bool b => b
  | .int n => n ≠ 0
  | .float zero => !zero
  | .str t => t ≠ []
  | .list values => !values.isEmpty
  | .object fields => !fields.isEmpty

end Nexotec
