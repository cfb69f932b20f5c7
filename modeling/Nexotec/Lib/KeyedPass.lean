/-
A pass over keys: one transaction for each key, kept or rolled back.

A step reads the state and its key, answers with a line and leaves a state.  A committing
pass hands that state on to the next key; a dry pass throws it away.

* `passOver_commit`, `passOver_dry` — a pass whose steps are total is the fold of its steps,
  and the map of its lines;
* `final_induction` — what holds of the keys done so far;
* `lines_eq_map_iff` — the two passes give the same lines just when every line is the same
  in its turn as at the start;
* `again_of_quiet` — a pass all of whose keys are quiet changes nothing.
-/
import Mathlib.Data.List.Basic

namespace KeyedPass

variable {κ σ β ε : Type*}

/-- One step for each key in turn; `commit` keeps what the step has done. -/
def passOver (step : κ → σ → Except ε (β × σ)) (commit : Bool) : List κ → σ → Except ε (List β × σ)
  | [], s => .ok ([], s)
  | c :: cs, s =>
    match step c s with
    | .error e => .error e
    | .ok (line, s') =>
      match passOver step commit cs (if commit then s' else s) with
      | .error e => .error e
      | .ok (lines, s'') => .ok (line :: lines, s'')

variable (line : κ → σ → β) (next : κ → σ → σ)

/-- The state after the keys. -/
def final : List κ → σ → σ
  | [], s => s
  | c :: cs, s => final cs (next c s)

/-- The lines of the keys, each in its turn. -/
def lines : List κ → σ → List β
  | [], _ => []
  | c :: cs, s => line c s :: lines cs (next c s)

section

variable {step : κ → σ → Except ε (β × σ)} {Good : σ → Prop} {cs : List κ}

/-- **A committing pass** is the fold of its steps. -/
theorem passOver_commit (hstep : ∀ c ∈ cs, ∀ s, Good s → step c s = .ok (line c s, next c s))
    (hgood : ∀ c ∈ cs, ∀ s, Good s → Good (next c s)) {s : σ} (hs : Good s) :
    passOver step true cs s = .ok (lines line next cs s, final next cs s) := by
  induction cs generalizing s with
  | nil => rfl
  | cons c cs ih =>
    have hrest := ih (fun d hd => hstep d (List.mem_cons_of_mem c hd))
      (fun d hd => hgood d (List.mem_cons_of_mem c hd)) (hgood c List.mem_cons_self s hs)
    rw [passOver, hstep c List.mem_cons_self s hs]
    dsimp only
    rw [if_pos rfl, hrest]
    rfl

/-- **A dry pass** leaves the state, and has each line as it is at the start. -/
theorem passOver_dry {s : σ} (hstep : ∀ c ∈ cs, step c s = .ok (line c s, next c s)) :
    passOver step false cs s = .ok (cs.map fun c => line c s, s) := by
  induction cs with
  | nil => rfl
  | cons c cs ih =>
    have hrest := ih fun d hd => hstep d (List.mem_cons_of_mem c hd)
    rw [passOver, hstep c List.mem_cons_self]
    dsimp only
    rw [if_neg (by decide), hrest]
    rfl

end

variable {line next}

/-- What the keys done so far and the state they have led to are like. -/
theorem final_induction {Inv : List κ → σ → Prop} {cs : List κ} {s : σ} (h : Inv [] s)
    (hstep : ∀ done c rest s, cs = done ++ c :: rest → Inv done s → Inv (done ++ [c]) (next c s)) :
    Inv cs (final next cs s) := by
  have hsuffix : ∀ (rest done : List κ) (s : σ), cs = done ++ rest → Inv done s →
      Inv cs (final next rest s) := by
    intro rest
    induction rest with
    | nil =>
      intro done s hcs hdone
      rw [List.append_nil] at hcs
      rw [hcs]
      exact hdone
    | cons c rest ih =>
      intro done s hcs hdone
      refine ih (done ++ [c]) (next c s) ?_ (hstep done c rest s hcs hdone)
      rw [hcs, List.append_assoc, List.singleton_append]
  exact hsuffix cs [] s rfl h

/-- **The lines of a committing pass are those of a dry one** just when no key differs in its
turn. -/
theorem lines_eq_map_iff (Inv : List κ → σ → Prop) {Differs : List κ → κ → Prop} {cs : List κ}
    {s₀ : σ} (h : Inv [] s₀)
    (hstep : ∀ done c rest s, cs = done ++ c :: rest → Inv done s → Inv (done ++ [c]) (next c s))
    (hline : ∀ done c rest s, cs = done ++ c :: rest → Inv done s →
      (line c s = line c s₀ ↔ ¬ Differs done c)) :
    (lines line next cs s₀ = cs.map fun c => line c s₀) ↔
      ∀ done c rest, cs = done ++ c :: rest → ¬ Differs done c := by
  have hsuffix : ∀ (rest done : List κ) (s : σ), cs = done ++ rest → Inv done s →
      ((lines line next rest s = rest.map fun c => line c s₀) ↔
        ∀ l c r, rest = l ++ c :: r → ¬ Differs (done ++ l) c) := by
    intro rest
    induction rest with
    | nil =>
      intro done s _ _
      refine iff_of_true rfl fun l c r hnil => ?_
      exact absurd hnil.symm (by simp)
    | cons c rest ih =>
      intro done s hcs hdone
      have hnext : cs = (done ++ [c]) ++ rest := by
        rw [hcs, List.append_assoc, List.singleton_append]
      have hrest := ih (done ++ [c]) (next c s) hnext (hstep done c rest s hcs hdone)
      rw [lines, List.map_cons, List.cons.injEq, hline done c rest s hcs hdone, hrest]
      constructor
      · rintro ⟨hfirst, hothers⟩ l d r hsplit
        cases l with
        | nil =>
          obtain ⟨rfl, rfl⟩ := List.cons.inj hsplit
          rw [List.append_nil]
          exact hfirst
        | cons first l =>
          obtain ⟨rfl, rfl⟩ := List.cons.inj hsplit
          have hlater := hothers l d r rfl
          rw [List.append_assoc, List.singleton_append] at hlater
          exact hlater
      · intro hall
        refine ⟨?_, fun l d r hsplit => ?_⟩
        · have hfirst := hall [] c rest rfl
          rw [List.append_nil] at hfirst
          exact hfirst
        · have hlater := hall (c :: l) d r (by rw [hsplit, List.cons_append])
          rw [List.append_assoc, List.singleton_append]
          exact hlater
  exact hsuffix cs [] s₀ rfl h

/-- **A pass over quiet keys** changes nothing. -/
theorem again_of_quiet (line : κ → σ → β) {cs : List κ} {s : σ} (hquiet : ∀ c ∈ cs, next c s = s) :
    final next cs s = s ∧ lines line next cs s = cs.map fun c => line c s := by
  induction cs with
  | nil => exact ⟨rfl, rfl⟩
  | cons c cs ih =>
    obtain ⟨hfinal, hlines⟩ := ih fun d hd => hquiet d (List.mem_cons_of_mem c hd)
    have hfirst := hquiet c List.mem_cons_self
    rw [final, lines, hfirst]
    exact ⟨hfinal, by rw [hlines, List.map_cons]⟩

end KeyedPass
