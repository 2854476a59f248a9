import Mathlib.Tactic

/-! Systems that are driven by labelled steps, more than one of which may be possible, and their runs. -/

structure Transitions (σ ε : Type) where
  init : σ → Prop
  step : σ → ε → σ → Prop

namespace Transitions

variable {σ ε : Type} (T : Transitions σ ε)

/-- The runs all of whose steps are allowed where they are made, with the state each leads to. -/
inductive Run (allowed : List ε → σ → ε → Prop) : List ε → σ → Prop
  | start {s : σ} (h : T.init s) : Run allowed [] s
  | step {t : List ε} {s : σ} {e : ε} {s' : σ} (run : Run allowed t s) (hallowed : allowed t s e)
      (h : T.step s e s') : Run allowed (t ++ [e]) s'

variable {T} {allowed allowed' : List ε → σ → ε → Prop} {t : List ε} {s : σ}

theorem Run.mono (h : T.Run allowed t s) (hallowed : ∀ t s e, allowed t s e → allowed' t s e) :
    T.Run allowed' t s := by
  induction h with
  | start h => exact .start h
  | step run ha h ih => exact .step ih (hallowed _ _ _ ha) h

/-- What holds initially and is kept by every allowed step holds after every run. -/
theorem Run.invariant {P : List ε → σ → Prop} (hinit : ∀ s, T.init s → P [] s)
    (hstep : ∀ t s e s', P t s → allowed t s e → T.step s e s' → P (t ++ [e]) s')
    (h : T.Run allowed t s) : P t s := by
  induction h with
  | start h => exact hinit _ h
  | step run ha h ih => exact hstep _ _ _ _ ih ha h

/-- A step like `P` has been made, and none like `Q` after it. -/
def Since (P Q : ε → Prop) (t : List ε) : Prop :=
  ∃ before e after, t = before ++ e :: after ∧ P e ∧ ∀ e' ∈ after, ¬ Q e'

section
variable {P Q : ε → Prop} {e : ε}

theorem not_since_nil : ¬ Since P Q [] := by
  rintro ⟨before, e, after, h, -⟩
  simp at h

theorem since_of (h : P e) : Since P Q (t ++ [e]) := by
  refine ⟨t, e, [], rfl, h, ?_⟩
  simp

theorem Since.append (h : Since P Q t) (hQ : ¬ Q e) : Since P Q (t ++ [e]) := by
  obtain ⟨before, e', after, rfl, hP, hafter⟩ := h
  refine ⟨before, e', after ++ [e], by simp, hP, ?_⟩
  intro e'' he''
  rcases List.mem_append.mp he'' with he'' | he''
  · exact hafter e'' he''
  · rwa [List.mem_singleton.mp he'']

/-- Only the last step matters to what has been. -/
theorem since_concat : Since P Q (t ++ [e]) ↔ P e ∨ (Since P Q t ∧ ¬ Q e) := by
  constructor
  · rintro ⟨before, e', after, heq, hP, hafter⟩
    induction after using List.reverseRecOn with
    | nil =>
      obtain ⟨-, he⟩ := List.append_inj' heq rfl
      obtain rfl := List.singleton_inj.mp he
      exact .inl hP
    | append_singleton after last _ =>
      rw [← List.cons_append, ← List.append_assoc] at heq
      obtain ⟨ht, he⟩ := List.append_inj' heq rfl
      obtain rfl := List.singleton_inj.mp he
      refine .inr ⟨⟨before, e', after, ht, hP, fun e'' he'' => hafter e'' ?_⟩, hafter e ?_⟩
      · exact List.mem_append_left _ he''
      · exact List.mem_append_right _ (.head _)
  · rintro (hP | ⟨hsince, hQ⟩)
    · exact since_of hP
    · exact hsince.append hQ

end
end Transitions
