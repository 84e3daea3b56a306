-- SUMMARY: Runs of a system whose parts act in any order.

/-!
# Runs

A system is given by what each action leads to and shows in a state, if it can be
taken there. A run takes one action after the other, and it shows what its actions
show, in order. `run_append_eq_some_iff` cuts a run in two; `run_induction` carries
along what holds of the state and of all that was done and shown so far.
-/

namespace Switchboard

/-- What an action leads to and shows, if it can be taken. -/
abbrev Step (σ α ε : Type) := σ → α → Option (σ × List ε)

namespace Step

variable {σ α ε : Type}

/-- What a sequence of actions leads to and shows, if each can be taken. -/
def run (step : Step σ α ε) (s : σ) : List α → Option (σ × List ε)
  | [] => some (s, [])
  | a :: as =>
    match step s a with
    | none => none
    | some (t, es) => (run step t as).map fun (u, fs) => (u, es ++ fs)

@[simp] theorem run_nil (step : Step σ α ε) (s : σ) : run step s [] = some (s, []) := rfl

theorem run_cons_eq_some_iff {step : Step σ α ε} {s u : σ} {a : α} {as : List α} {gs : List ε} :
    run step s (a :: as) = some (u, gs) ↔
      ∃ t es fs, step s a = some (t, es) ∧ run step t as = some (u, fs) ∧ gs = es ++ fs := by
  simp only [run]
  cases step s a with
  | none => simp
  | some r =>
    obtain ⟨t, es⟩ := r
    simp only [Option.map_eq_some_iff, Prod.mk.injEq, Option.some.injEq, Prod.exists]
    constructor
    · rintro ⟨u', fs, h, rfl, rfl⟩
      exact ⟨t, es, fs, ⟨rfl, rfl⟩, h, rfl⟩
    · rintro ⟨t', es', fs, ⟨rfl, rfl⟩, h, rfl⟩
      exact ⟨u, fs, h, rfl, rfl⟩

theorem run_append_eq_some_iff {step : Step σ α ε} {s u : σ} {as bs : List α} {gs : List ε} :
    run step s (as ++ bs) = some (u, gs) ↔
      ∃ t es fs, run step s as = some (t, es) ∧ run step t bs = some (u, fs) ∧ gs = es ++ fs := by
  induction as generalizing s gs with
  | nil =>
    constructor
    · exact fun h => ⟨s, [], gs, rfl, h, rfl⟩
    · rintro ⟨_, _, _, h, hbs, rfl⟩
      simp only [run_nil, Option.some.injEq, Prod.mk.injEq] at h
      obtain ⟨rfl, rfl⟩ := h
      exact hbs
  | cons a as ih =>
    simp only [List.cons_append, run_cons_eq_some_iff, ih]
    constructor
    · rintro ⟨t, es, _, ha, ⟨v, fs, hs, has, hbs, rfl⟩, rfl⟩
      exact ⟨v, es ++ fs, hs, ⟨t, es, fs, ha, has, rfl⟩, hbs, (List.append_assoc ..).symm⟩
    · rintro ⟨v, _, hs, ⟨t, es, fs, ha, has, rfl⟩, hbs, rfl⟩
      exact ⟨t, es, fs ++ hs, ha, ⟨v, fs, hs, has, hbs, rfl⟩, List.append_assoc ..⟩

/-- What holds at the start, and is carried along by every step, holds after a run. -/
theorem run_induction {step : Step σ α ε} {R : σ → List α → List ε → Prop} {s t : σ}
    {as : List α} {es : List ε} (start : R s [] [])
    (next : ∀ {t u a as es fs}, R t as es → step t a = some (u, fs) → R u (as ++ [a]) (es ++ fs))
    (h : run step s as = some (t, es)) : R t as es := by
  have go : ∀ (as : List α) (s : σ) (es : List ε) (done : List α) (shown : List ε),
      R s done shown → run step s as = some (t, es) → R t (done ++ as) (shown ++ es) := by
    intro as
    induction as with
    | nil =>
      intro s es done shown hR h
      simp only [run_nil, Option.some.injEq, Prod.mk.injEq] at h
      obtain ⟨rfl, rfl⟩ := h
      simpa using hR
    | cons a as ih =>
      intro s es done shown hR h
      obtain ⟨u, es, fs, ha, has, rfl⟩ := run_cons_eq_some_iff.mp h
      simpa [List.append_assoc] using ih u fs (done ++ [a]) (shown ++ es) (next hR ha) has
  simpa using go as s es [] [] start h

/-- What every step keeps, a run keeps. -/
theorem run_keeps {step : Step σ α ε} {I : σ → Prop} {s t : σ} {as : List α} {es : List ε}
    (hs : I s) (keeps : ∀ {s t a es}, I s → step s a = some (t, es) → I t)
    (h : run step s as = some (t, es)) : I t :=
  run_induction (R := fun s _ _ => I s) hs (fun hI ha => keeps hI ha) h

end Step

end Switchboard
