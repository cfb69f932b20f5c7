/-
UUIDv7 (`app/core/uuid7.py`).

The generator remembers the last millisecond and a sequence of 12 bits.  A call whose clock is not
past that millisecond counts the sequence on, and borrows the next millisecond when it wraps.
-/
import Mathlib.Data.Nat.Bitwise
import Mathlib.Tactic.Ring
import Nexotec.Lib.Run

namespace Nexotec.Uuid7

/-- `_last_ms` and `_last_seq`. -/
structure Generator where
  lastMs : ℤ := -1
  lastSeq : ℕ := 0

/-- What a call takes from the system: `time.time_ns()`, and two draws of `os.urandom` as numbers. -/
structure Draw where
  timeNs : ℤ
  seqBytes : ℕ
  randBytes : ℕ

def Draw.ms (d : Draw) : ℤ := d.timeNs / 1000000

def seqMask : ℕ := 0x0FFF

/-- The part of `uuid7` under the lock. -/
def Generator.next (g : Generator) (d : Draw) : Generator :=
  if d.ms ≤ g.lastMs then
    let seq := (g.lastSeq + 1) &&& seqMask
    -- the sequence of this millisecond is used up: borrow the next one
    if seq = 0 then ⟨g.lastMs + 1, 0⟩ else ⟨g.lastMs, seq⟩
  else ⟨d.ms, d.seqBytes &&& seqMask⟩

def value (ms seq randBytes : ℕ) : ℕ :=
  let randB := randBytes &&& 0x3FFFFFFFFFFFFFFF
  let versionAndSeq := (0x7 <<< 12) ||| seq
  let variantAndRandB := (0b10 <<< 62) ||| randB
  ms <<< 80 ||| versionAndSeq <<< 64 ||| variantAndRandB

/-- `uuid7` in the state that the part under the lock has left.  `uuid.UUID` refuses a number that
is negative, as that of a negative millisecond is, or has more than 128 bits. -/
def Generator.uuid7 (g : Generator) (d : Draw) : Option ℕ :=
  match g.lastMs with
  | .ofNat ms =>
    let value := value ms g.lastSeq d.randBytes
    if value < 2 ^ 128 then some value else none
  | .negSucc _ => none

def values : Generator → List Draw → List ℕ
  | _, [] => []
  | g, d :: draws => ((g.next d).uuid7 d).toList ++ values (g.next d) draws

variable {ms seq rand : ℕ}

theorem low_lt (rand : ℕ) : 2 * 2 ^ 62 + rand % 2 ^ 62 < 2 ^ 64 := by
  have hmod : rand % 2 ^ 62 < 2 ^ 62 := Nat.mod_lt _ (Nat.two_pow_pos 62)
  generalize rand % 2 ^ 62 = low at *
  omega

theorem high_lt {low : ℕ} (hseq : seq < 4096) (hlow : low < 2 ^ 64) :
    (7 * 2 ^ 12 + seq) * 2 ^ 64 + low < 2 ^ 80 := by
  omega

/-- The fields of a value stand side by side. -/
theorem value_eq (hseq : seq < 4096) :
    value ms seq rand = ms * 2 ^ 80 + (7 * 2 ^ 12 + seq) * 2 ^ 64 + (2 * 2 ^ 62 + rand % 2 ^ 62) := by
  have hrand : rand &&& 0x3FFFFFFFFFFFFFFF = rand % 2 ^ 62 :=
    Nat.and_two_pow_sub_one_eq_mod rand 62
  have hmod : rand % 2 ^ 62 < 2 ^ 62 := Nat.mod_lt _ (Nat.two_pow_pos 62)
  have hlow := low_lt rand
  have hhigh := high_lt hseq hlow
  have hvariant := Nat.shiftLeft_add_eq_or_of_lt hmod 0b10
  have hversion := Nat.shiftLeft_add_eq_or_of_lt (show seq < 2 ^ 12 by omega) 0x7
  have hmiddle := Nat.shiftLeft_add_eq_or_of_lt hlow (7 * 2 ^ 12 + seq)
  have hwhole := Nat.shiftLeft_add_eq_or_of_lt hhigh ms
  simp only [Nat.shiftLeft_eq] at hvariant hversion hmiddle hwhole
  unfold value
  simp only [hrand, Nat.shiftLeft_eq]
  rw [← hvariant, ← hversion, Nat.or_assoc, ← hmiddle, ← hwhole, Nat.add_assoc]

theorem value_fields (hseq : seq < 4096) :
    value ms seq rand >>> 80 = ms ∧ value ms seq rand >>> 76 &&& 0xF = 7 ∧
      value ms seq rand >>> 62 &&& 0x3 = 2 := by
  have hmod : rand % 2 ^ 62 < 2 ^ 62 := Nat.mod_lt _ (Nat.two_pow_pos 62)
  have hnibble : ∀ n : ℕ, n &&& 0xF = n % 2 ^ 4 := fun n => Nat.and_two_pow_sub_one_eq_mod n 4
  have hpair : ∀ n : ℕ, n &&& 0x3 = n % 2 ^ 2 := fun n => Nat.and_two_pow_sub_one_eq_mod n 2
  rw [value_eq hseq, hnibble, hpair]
  simp only [Nat.shiftRight_eq_div_pow]
  refine ⟨?_, ?_, ?_⟩
  · omega
  · omega
  · omega

theorem value_lt {ms' seq' rand' : ℕ} (hseq : seq < 4096) (hseq' : seq' < 4096)
    (h : ms * 4096 + seq < ms' * 4096 + seq') : value ms seq rand < value ms' seq' rand' := by
  have hlow := low_lt rand
  have hhigh : ms * 2 ^ 16 + (7 * 2 ^ 12 + seq) + 1 ≤ ms' * 2 ^ 16 + (7 * 2 ^ 12 + seq') := by omega
  rw [value_eq hseq, value_eq hseq']
  calc ms * 2 ^ 80 + (7 * 2 ^ 12 + seq) * 2 ^ 64 + (2 * 2 ^ 62 + rand % 2 ^ 62)
      < ms * 2 ^ 80 + (7 * 2 ^ 12 + seq) * 2 ^ 64 + 2 ^ 64 := Nat.add_lt_add_left hlow _
    _ = (ms * 2 ^ 16 + (7 * 2 ^ 12 + seq) + 1) * 2 ^ 64 := by ring
    _ ≤ (ms' * 2 ^ 16 + (7 * 2 ^ 12 + seq')) * 2 ^ 64 := Nat.mul_le_mul_right _ hhigh
    _ = ms' * 2 ^ 80 + (7 * 2 ^ 12 + seq') * 2 ^ 64 := by ring
    _ ≤ ms' * 2 ^ 80 + (7 * 2 ^ 12 + seq') * 2 ^ 64 + (2 * 2 ^ 62 + rand' % 2 ^ 62) :=
      Nat.le_add_right _ _

section Calls

variable {g : Generator} {d : Draw} {v : ℕ}

def Generator.stamp (g : Generator) : ℤ := g.lastMs * 4096 + g.lastSeq

/-- The sequence has 12 bits, and no reading is past the last millisecond. -/
structure Sound (readings : List Draw) (g : Generator) : Prop where
  seq : g.lastSeq < 4096
  past : ∀ d ∈ readings, d.ms ≤ g.lastMs

variable {readings : List Draw}

/-- Each call moves the pair of millisecond and sequence up. -/
theorem call_spec (h : Sound readings g) (d : Draw) :
    Sound (readings ++ [d]) (g.next d) ∧ g.stamp < (g.next d).stamp := by
  have hmask : ∀ n : ℕ, n &&& seqMask = n % 2 ^ 12 := fun n => Nat.and_two_pow_sub_one_eq_mod n 12
  obtain ⟨hseq, hpast⟩ := h
  have hnext : (g.next d).lastSeq < 4096 ∧ g.lastMs ≤ (g.next d).lastMs ∧
      d.ms ≤ (g.next d).lastMs ∧ g.stamp < (g.next d).stamp := by
    unfold Generator.next Generator.stamp
    simp only [hmask]
    split
    · next hle =>
      split
      · next hwrap =>
        dsimp only
        omega
      · next hwrap =>
        dsimp only
        omega
    · next hlater =>
      dsimp only
      omega
  refine ⟨⟨hnext.1, fun e he => ?_⟩, hnext.2.2.2⟩
  rcases List.mem_append.mp he with he | he
  · exact Int.le_trans (hpast e he) hnext.2.1
  · obtain rfl := List.mem_singleton.mp he
    exact hnext.2.2.1

theorem uuid7_eq_some (h : g.uuid7 d = some v) :
    ∃ ms : ℕ, g.lastMs = ms ∧ v = value ms g.lastSeq d.randBytes ∧ v < 2 ^ 128 := by
  unfold Generator.uuid7 at h
  split at h
  · next ms hms =>
    dsimp only at h
    split at h
    · next hfits =>
      cases h
      exact ⟨ms, hms, rfl, hfits⟩
    · cases h
  · cases h

theorem uuid7_isSome (hseq : g.lastSeq < 4096) (hms : 0 ≤ g.lastMs) (hfits : g.lastMs < 2 ^ 48) :
    (g.uuid7 d).isSome := by
  obtain ⟨ms, hms⟩ := Int.eq_ofNat_of_zero_le hms
  have hmod : d.randBytes % 2 ^ 62 < 2 ^ 62 := Nat.mod_lt _ (Nat.two_pow_pos 62)
  have hvalue : value ms g.lastSeq d.randBytes < 2 ^ 128 := by
    rw [value_eq hseq]
    omega
  unfold Generator.uuid7
  rw [hms]
  dsimp only
  rw [if_pos hvalue]
  rfl

variable {draws : List Draw}

theorem value_lt_of_mem (hsound : Sound readings g) (hseq : seq < 4096)
    (hstamp : (ms * 4096 + seq : ℤ) ≤ g.stamp) {w : ℕ} (hw : w ∈ values g draws) :
    value ms seq rand < w := by
  induction draws generalizing g readings with
  | nil => cases hw
  | cons d draws ih =>
    obtain ⟨hnext, hup⟩ := call_spec hsound d
    rcases List.mem_append.mp hw with hw | hw
    · obtain ⟨ms', hms', rfl, -⟩ := uuid7_eq_some (Option.mem_toList.mp hw)
      refine value_lt hseq hnext.seq ?_
      unfold Generator.stamp at hstamp hup
      rw [hms'] at hup
      omega
    · exact ih hnext (Int.le_of_lt (Int.lt_of_le_of_lt hstamp hup)) hw

theorem values_sorted (hsound : Sound readings g) : (values g draws).Pairwise (· < ·) := by
  induction draws generalizing g readings with
  | nil => exact List.Pairwise.nil
  | cons d draws ih =>
    obtain ⟨hnext, -⟩ := call_spec hsound d
    refine List.pairwise_append.mpr ⟨?_, ih hnext, fun v hv w hw => ?_⟩
    · cases (g.next d).uuid7 d with
      | none => exact List.Pairwise.nil
      | some v => exact List.pairwise_singleton _ _
    · obtain ⟨ms, hms, rfl, -⟩ := uuid7_eq_some (Option.mem_toList.mp hv)
      refine value_lt_of_mem hnext hnext.seq ?_ hw
      unfold Generator.stamp
      rw [hms]

theorem sound_run (hsound : Sound readings g) (draws : List Draw) :
    Sound (readings ++ draws) (draws.foldl Generator.next g) := by
  induction draws generalizing g readings with
  | nil => rwa [List.append_nil]
  | cons d draws ih =>
    have hrest := ih (call_spec hsound d).1
    rwa [List.append_assoc] at hrest

end Calls

/-- **uuid7 is strictly increasing.**  For every sequence of clock readings and random bytes, the
values that the calls of a process return increase strictly.  After any calls, the next one returns
a value when some reading so far is not negative and its millisecond has 48 bits; and that value
has 128 bits, version 7, the variant of the RFC, and a timestamp that no reading so far is past. -/
theorem uuid7_increasing (draws : List Draw) : (values {} draws).Pairwise (· < ·) ∧
    ∀ before d after, draws = before ++ d :: after →
      ((∃ e ∈ before ++ [d], 0 ≤ e.ms) →
        ((before ++ [d]).foldl Generator.next {}).lastMs < 2 ^ 48 →
        (((before ++ [d]).foldl Generator.next {}).uuid7 d).isSome) ∧
      ∀ v, ((before ++ [d]).foldl Generator.next {}).uuid7 d = some v →
        v < 2 ^ 128 ∧ v >>> 76 &&& 0xF = 7 ∧ v >>> 62 &&& 0x3 = 2 ∧
          ∀ e ∈ before ++ [d], e.ms ≤ (v >>> 80 : ℕ) := by
  have hstart : Sound [] {} := ⟨by decide, fun d hd => by cases hd⟩
  refine ⟨values_sorted hstart, fun before d after _ => ?_⟩
  have hsound := sound_run hstart (before ++ [d])
  rw [List.nil_append] at hsound
  refine ⟨fun ⟨e, he, hms⟩ => uuid7_isSome hsound.seq (hms.trans (hsound.past e he)), fun v hv => ?_⟩
  obtain ⟨ms, hms, rfl, hfits⟩ := uuid7_eq_some hv
  obtain ⟨htime, hversion, hvariant⟩ := value_fields hsound.seq
  refine ⟨hfits, hversion, hvariant, fun e he => ?_⟩
  rw [htime, ← hms]
  exact hsound.past e he

/-- Two calls of one millisecond; the first draws the last number of its sequence. -/
def wrapped : List Draw := [⟨1000000, 0xFFFF, 3⟩, ⟨1999999, 0, 1⟩]

theorem uuid7_increasing_wrapped : (values {} wrapped).map (· >>> 64) = [0x17FFF, 0x27000] ∧
    (values {} wrapped).Pairwise (· < ·) ∧
    ((wrapped.foldl Generator.next {}).uuid7 ⟨1999999, 0, 1⟩).isSome := by
  obtain ⟨hsorted, hcalls⟩ := uuid7_increasing wrapped
  have hreturns := (hcalls [⟨1000000, 0xFFFF, 3⟩] ⟨1999999, 0, 1⟩ [] rfl).1
  exact ⟨by decide, hsorted, hreturns ⟨_, List.mem_append_right _ (List.mem_singleton_self _),
    by decide⟩ (by decide)⟩

end Nexotec.Uuid7
