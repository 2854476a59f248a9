import Mathlib.Tactic

/-! Deterministic machines that consume events, produce output and may fault. -/

/-- A fault ends the run: no step leads out of it. -/
structure Machine (σ ε ο φ : Type) where
  init : σ
  step : σ → ε → Except φ (σ × ο)

namespace Machine

variable {σ ε ο φ : Type} (M : Machine σ ε ο φ)

/-- The histories of the machine, with the state each of them leads to. -/
inductive Run : List (ε × ο) → σ → Prop
  | start : Run [] M.init
  | step {t s e s' o} (run : Run t s) (h : M.step s e = .ok (s', o)) : Run (t ++ [(e, o)]) s'

/-- Every step of a history is allowed, where it is made. -/
def Each (allowed : List (ε × ο) → σ → ε × ο → Prop) (t : List (ε × ο)) : Prop :=
  ∀ t₁ x t₂ s, t = t₁ ++ x :: t₂ → M.Run t₁ s → allowed t₁ s x

variable {M}

theorem Run.nil_state {s : σ} (h : M.Run [] s) : s = M.init := by
  generalize ht : ([] : List (ε × ο)) = t at h
  cases h with
  | start => rfl
  | step _ _ => simp at ht

/-- The last step of a history. -/
theorem Run.last {t : List (ε × ο)} {e : ε} {o : ο} {s' : σ} (h : M.Run (t ++ [(e, o)]) s') :
    ∃ s, M.Run t s ∧ M.step s e = .ok (s', o) := by
  generalize ht : t ++ [(e, o)] = u at h
  cases h with
  | start => simp at ht
  | step run hstep =>
    obtain ⟨rfl, hx⟩ := List.append_inj' ht rfl
    obtain ⟨rfl, rfl⟩ := by simpa using hx
    exact ⟨_, run, hstep⟩

theorem Run.of_append {t u : List (ε × ο)} {s : σ} (h : M.Run (t ++ u) s) : ∃ s', M.Run t s' := by
  induction u using List.reverseRecOn generalizing s with
  | nil => exact ⟨s, by simpa using h⟩
  | append_singleton u x ih =>
    rw [← List.append_assoc] at h
    obtain ⟨s', hs', -⟩ := h.last
    exact ih hs'

/-- A history leads to one state only. -/
theorem Run.unique {t : List (ε × ο)} {s s' : σ} (h : M.Run t s) (h' : M.Run t s') : s = s' := by
  induction h generalizing s' with
  | start => exact h'.nil_state.symm
  | step run hstep ih =>
    obtain ⟨s₁, hrun, hstep'⟩ := h'.last
    obtain rfl := ih hrun
    exact (Prod.mk.inj (Except.ok.inj (hstep.symm.trans hstep'))).1

/-- The step a history makes at a place inside it. -/
theorem Run.split {t₁ t₂ : List (ε × ο)} {e : ε} {o : ο} {s : σ}
    (h : M.Run (t₁ ++ (e, o) :: t₂) s) :
    ∃ s₁ s₂, M.Run t₁ s₁ ∧ M.step s₁ e = .ok (s₂, o) ∧ M.Run (t₁ ++ [(e, o)]) s₂ := by
  rw [List.append_cons] at h
  obtain ⟨s₂, h₂⟩ := h.of_append
  obtain ⟨s₁, h₁, hstep⟩ := h₂.last
  exact ⟨s₁, s₂, h₁, hstep, h₂⟩

theorem Each.of_append {allowed : List (ε × ο) → σ → ε × ο → Prop} {t u : List (ε × ο)}
    (h : M.Each allowed (t ++ u)) : M.Each allowed t :=
  fun t₁ x t₂ s ht hs => h t₁ x (t₂ ++ u) s (by simp [ht]) hs

/-- What holds initially and is kept by every allowed step holds at the end of every history
made of such steps. -/
theorem Run.invariant {P : List (ε × ο) → σ → Prop} {allowed : List (ε × ο) → σ → ε × ο → Prop}
    (hinit : P [] M.init)
    (hstep : ∀ t s e s' o, M.Run t s → P t s → allowed t s (e, o) → M.step s e = .ok (s', o) →
      P (t ++ [(e, o)]) s')
    {t : List (ε × ο)} {s : σ} (h : M.Run t s) (hall : M.Each allowed t) : P t s := by
  induction h with
  | start => exact hinit
  | @step t s e s' o run hs ih =>
    exact hstep t s e s' o run (ih hall.of_append) (hall t (e, o) [] s (by simp) run) hs

/-- An invariant of all steps holds in every state reached. -/
theorem Run.invariant_all {P : σ → Prop} (hinit : P M.init)
    (hstep : ∀ s e s' o, P s → M.step s e = .ok (s', o) → P s') {t : List (ε × ο)} {s : σ}
    (h : M.Run t s) : P s :=
  h.invariant (P := fun _ s => P s) hinit
    (fun _ s e s' o _ hP (_ : True) hs => hstep s e s' o hP hs) fun _ _ _ _ _ _ => trivial

end Machine
