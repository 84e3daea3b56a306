-- SUMMARY: What the steps of a run are seen to do.
import Switchboard.Run

/-!
# Histories

A run shows what its actions show. Its history is what somebody sees who may also
look at the state in which each action is taken. Neither the state nor the run
depends on it.
-/

namespace Switchboard.Step

variable {σ α ε β : Type} {step : Step σ α ε} {s t : σ} {as : List α} {es : List ε}

/-- What is seen of a run by one who looks at each action and the state in which it is taken. -/
def history (step : Step σ α ε) (see : σ → α → List β) (s : σ) : List α → List β
  | [] => []
  | a :: as =>
    match step s a with
    | none => see s a
    | some (t, _) => see s a ++ history step see t as

theorem history_cons {a : α} (see : σ → α → List β) (h : step s a = some (t, es)) :
    history step see s (a :: as) = see s a ++ history step see t as := by
  simp only [history, h]

theorem history_append (see : σ → α → List β) (h : run step s as = some (t, es)) (bs : List α) :
    history step see s (as ++ bs) = history step see s as ++ history step see t bs := by
  induction as generalizing s es with
  | nil =>
    simp only [run_nil, Option.some.injEq, Prod.mk.injEq] at h
    obtain ⟨rfl, -⟩ := h
    rfl
  | cons b as ih =>
    obtain ⟨v, fs, gs, hb, has, -⟩ := run_cons_eq_some_iff.mp h
    rw [List.cons_append, history_cons see hb, history_cons see hb, ih has, List.append_assoc]

theorem history_singleton (see : σ → α → List β) (s : σ) (a : α) :
    history step see s [a] = see s a := by
  simp only [history]
  cases step s a with
  | none => rfl
  | some _ => exact List.append_nil _

theorem history_concat (see : σ → α → List β) (h : run step s as = some (t, es)) (a : α) :
    history step see s (as ++ [a]) = history step see s as ++ see t a := by
  rw [history_append see h, history_singleton]

/-- What is seen of a run is seen of one of its actions. -/
theorem mem_history {see : σ → α → List β} {b : β} (h : b ∈ history step see s as) :
    ∃ t, ∃ a ∈ as, b ∈ see t a := by
  induction as generalizing s with
  | nil => cases h
  | cons a as ih =>
    simp only [history] at h
    split at h
    · exact ⟨s, a, List.mem_cons_self, h⟩
    · rcases List.mem_append.mp h with h | h
      · exact ⟨s, a, List.mem_cons_self, h⟩
      · obtain ⟨t, b, hb, h⟩ := ih h
        exact ⟨t, b, List.mem_cons_of_mem a hb, h⟩

theorem run_concat {u : σ} {a : α} {fs : List ε} (h : run step s as = some (t, es))
    (ha : step t a = some (u, fs)) : run step s (as ++ [a]) = some (u, es ++ fs) :=
  run_append_eq_some_iff.mpr
    ⟨t, es, fs, h, run_cons_eq_some_iff.mpr ⟨u, fs, [], ha, rfl, (List.append_nil fs).symm⟩, rfl⟩

/-- Induction over a run, where each step is known to go on from a run. -/
theorem reach_induction {R : σ → List α → List ε → Prop} (start : R s [] [])
    (next : ∀ {t u a as es fs}, run step s as = some (t, es) → R t as es →
      step t a = some (u, fs) → R u (as ++ [a]) (es ++ fs))
    (h : run step s as = some (t, es)) : R t as es := by
  refine (run_induction (R := fun t as es => run step s as = some (t, es) ∧ R t as es)
    ⟨rfl, start⟩ ?_ h).2
  rintro t u a as es fs ⟨hrun, hR⟩ ha
  exact ⟨run_concat hrun ha, next hrun hR ha⟩

end Switchboard.Step
