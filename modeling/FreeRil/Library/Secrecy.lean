import FreeRil.Library.Monitor

/-! Programs that are told secrets: what two runs have in common that are told different ones. -/

namespace Program

variable {Op : Type} {Ret : Op → Type} {α β : Type} {secret : Op → Prop}

/-- Two histories with the same answers, but for the answers to what is secret. -/
inductive SameAnswers (secret : Op → Prop) : List (Event Ret) → List (Event Ret) → Prop
  | nil : SameAnswers secret [] []
  | secret {e e' : Event Ret} {t t' : List (Event Ret)} (h : secret e.op) (h' : secret e'.op)
    (rest : SameAnswers secret t t') : SameAnswers secret (e :: t) (e' :: t')
  | answer {e e' : Event Ret} {t t' : List (Event Ret)} (h : ¬ secret e.op) (h' : ¬ secret e'.op)
    (same : HEq e.answer e'.answer) (rest : SameAnswers secret t t') :
    SameAnswers secret (e :: t) (e' :: t')

open Classical in
theorem sameAnswers_refl (t : List (Event Ret)) : SameAnswers secret t t := by
  induction t with
  | nil => exact .nil
  | cons e t ih =>
    by_cases he : secret e.op
    · exact .secret he he ih
    · exact .answer he he HEq.rfl ih

theorem SameAnswers.append {t₁ t₁' t₂ t₂' : List (Event Ret)} (h₁ : SameAnswers secret t₁ t₁')
    (h₂ : SameAnswers secret t₂ t₂') : SameAnswers secret (t₁ ++ t₂) (t₁' ++ t₂') := by
  induction h₁ with
  | nil => exact h₂
  | secret h h' rest ih => exact .secret h h' ih
  | answer h h' same rest ih => exact .answer h h' same ih

/-- What is seen of a program does not depend on the secrets that it is told. -/
def Oblivious {γ : Type} (secret : Op → Prop) (seen : Op → Option γ) (p : Program Ret α) : Prop :=
  ∀ t t' q q', Trace p t q → Trace p t' q' → SameAnswers secret t t' →
    t.filterMap (fun e => seen e.op) = t'.filterMap fun e => seen e.op

variable {γ : Type} {seen : Op → Option γ} {p : Program Ret α}

/-- A program that asks for no secrets goes the same way for the same answers. -/
theorem trace_eq_of_sameAnswers {q q' : Program Ret α} {t t' : List (Event Ret)}
    (h : p.All fun op => ¬ secret op) (ht : Trace p t q) (ht' : Trace p t' q')
    (hsame : SameAnswers secret t t') : t = t' := by
  induction ht generalizing t' with
  | nil p =>
    cases hsame
    rfl
  | @cons op next r t q rest ih =>
    cases hsame with
    | secret hsecret => exact absurd hsecret h.1
    | answer hop hop' same hsame =>
      cases ht' with
      | cons rest' =>
        obtain rfl := eq_of_heq same
        rw [ih (h.2 _) rest' hsame]

theorem oblivious_of_all (h : p.All fun op => ¬ secret op) : Oblivious secret seen p := by
  intro t t' q q' ht ht' hsame
  rw [trace_eq_of_sameAnswers h ht ht' hsame]

/-- What is left of an oblivious program is oblivious. -/
theorem Oblivious.trace {q : Program Ret α} {t : List (Event Ret)} (h : Oblivious secret seen p)
    (ht : Trace p t q) : Oblivious secret seen q := by
  intro t₁ t₂ q₁ q₂ h₁ h₂ hsame
  have hseen := h _ _ _ _ (ht.append h₁) (ht.append h₂) ((sameAnswers_refl t).append hsame)
  rwa [List.filterMap_append, List.filterMap_append, List.append_cancel_left_eq] at hseen

end Program
