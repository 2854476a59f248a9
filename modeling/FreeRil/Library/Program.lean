import Mathlib.Data.Set.Basic
import Mathlib.Tactic

/-! Programs that call an environment: what they can ask of it, how they run over its states, and
what they leave behind when they are cut off. -/

/-- A program over operations that are answered in `Ret`. -/
inductive Program {Op : Type} (Ret : Op → Type) (α : Type)
  | done (a : α)
  | call (op : Op) (next : Ret op → Program Ret α)

namespace Program

variable {Op : Type} {Ret : Op → Type} {α β σ : Type}

def bind : Program Ret α → (α → Program Ret β) → Program Ret β
  | done a, f => f a
  | call op next, f => call op fun r => (next r).bind f

instance : Monad (Program Ret) where
  pure := done
  bind := bind

/-- A single operation. -/
def request (op : Op) : Program Ret (Ret op) := call op done

@[simp] theorem pure_eq (a : α) : (pure a : Program Ret α) = done a := rfl

@[simp] theorem done_bind (a : α) (f : α → Program Ret β) : done a >>= f = f a := rfl

@[simp] theorem call_bind (op : Op) (next : Ret op → Program Ret α) (f : α → Program Ret β) :
    call op next >>= f = call op fun r => next r >>= f := rfl

/-- Every operation the program asks for, whatever it has been answered before, is allowed. -/
def All (allowed : Op → Prop) : Program Ret α → Prop
  | done _ => True
  | call op next => allowed op ∧ ∀ r, (next r).All allowed

/-- The program can return this value. -/
def Returns : Program Ret α → α → Prop
  | done b, a => b = a
  | call _ next, a => ∃ r, (next r).Returns a

section
variable {allowed : Op → Prop}

@[simp] theorem all_done (a : α) : (done a : Program Ret α).All allowed := trivial

theorem All.mono {allowed' : Op → Prop} {p : Program Ret α} (h : p.All allowed)
    (hallowed : ∀ op, allowed op → allowed' op) : p.All allowed' := by
  induction p with
  | done a => exact trivial
  | call op next ih => exact ⟨hallowed op h.1, fun r => ih r (h.2 r)⟩

@[simp] theorem all_request (op : Op) : (request op : Program Ret _).All allowed ↔ allowed op :=
  ⟨And.left, fun h => ⟨h, fun _ => trivial⟩⟩

@[simp] theorem returns_done {a b : α} : (done b : Program Ret α).Returns a ↔ b = a := Iff.rfl

@[simp] theorem request_returns (op : Op) (r : Ret op) : (request op).Returns r := ⟨r, rfl⟩

theorem returns_bind {p : Program Ret α} {f : α → Program Ret β} {b : β} :
    (p >>= f).Returns b ↔ ∃ a, p.Returns a ∧ (f a).Returns b := by
  induction p with
  | done a => simp [Returns]
  | call op next ih =>
    constructor
    · rintro ⟨r, hr⟩
      obtain ⟨a, ha, hb⟩ := (ih r).mp hr
      exact ⟨a, ⟨r, ha⟩, hb⟩
    · rintro ⟨a, ⟨r, ha⟩, hb⟩
      exact ⟨r, (ih r).mpr ⟨a, ha, hb⟩⟩

theorem all_bind {p : Program Ret α} {f : α → Program Ret β} :
    (p >>= f).All allowed ↔ p.All allowed ∧ ∀ a, p.Returns a → (f a).All allowed := by
  induction p with
  | done a => simp [Returns]
  | call op next ih =>
    constructor
    · rintro ⟨hop, hnext⟩
      refine ⟨⟨hop, fun r => ((ih r).mp (hnext r)).1⟩, ?_⟩
      rintro a ⟨r, ha⟩
      exact ((ih r).mp (hnext r)).2 a ha
    · rintro ⟨⟨hop, hnext⟩, hf⟩
      exact ⟨hop, fun r => (ih r).mpr ⟨hnext r, fun a ha => hf a ⟨r, ha⟩⟩⟩

end

section
variable {Op' : Type} {Ret' : Op' → Type}

/-- A program run over another: each of its operations is answered by a program over the operations
below, which keeps a state. -/
def interpret (answer : σ → (op : Op) → Program Ret' (σ × Ret op)) :
    Program Ret α → σ → Program Ret' (σ × α)
  | done a, s => done (s, a)
  | call op next, s => answer s op >>= fun sr => (next sr.2).interpret answer sr.1

variable {answer : σ → (op : Op) → Program Ret' (σ × Ret op)}

@[simp] theorem interpret_done (a : α) (s : σ) :
    (done a : Program Ret α).interpret answer s = done (s, a) := rfl

theorem bind_assoc {γ : Type} (p : Program Ret α) (f : α → Program Ret β) (g : β → Program Ret γ) :
    p >>= f >>= g = p >>= fun a => f a >>= g := by
  induction p with
  | done a => rfl
  | call op next ih =>
    simp only [call_bind]
    congr 1
    funext r
    exact ih r

theorem bind_done (p : Program Ret α) : p >>= done = p := by
  induction p with
  | done a => rfl
  | call op next ih =>
    simp only [call_bind]
    congr 1
    funext r
    exact ih r

theorem interpret_request (op : Op) (s : σ) :
    (request op : Program Ret _).interpret answer s = answer s op := bind_done _

theorem interpret_bind (p : Program Ret α) (f : α → Program Ret β) (s : σ) :
    (p >>= f).interpret answer s =
      p.interpret answer s >>= fun sa => (f sa.2).interpret answer sa.1 := by
  induction p generalizing s with
  | done a => rfl
  | call op next ih =>
    simp only [call_bind, interpret, bind_assoc]
    congr 1
    funext sr
    exact ih sr.2 sr.1

end

/-- What a program returns whose operations, counted from `n` on, are answered by `answer`. -/
def answered (answer : ℕ → (op : Op) → Ret op) : ℕ → Program Ret α → α
  | _, done a => a
  | n, call op next => (next (answer n op)).answered answer (n + 1)

theorem answered_returns (answer : ℕ → (op : Op) → Ret op) (n : ℕ) (p : Program Ret α) :
    p.Returns (p.answered answer n) := by
  induction p generalizing n with
  | done a => exact rfl
  | call op next ih => exact ⟨answer n op, ih _ _⟩

/-- An environment answers operations and changes its state; an operation it does not answer ends
the program. An operation that is cut off leaves one of the states `partway`. -/
structure Environment {Op : Type} (Ret : Op → Type) (σ : Type) where
  step : σ → (op : Op) → Option (σ × Ret op)
  partway : σ → Op → Set σ

variable (E : Environment Ret σ)

/-- The state and the value a program ends with, if it is answered to its end. -/
def exec : Program Ret α → σ → Option (σ × α)
  | done a, s => some (s, a)
  | call op next, s => (E.step s op).bind fun sr => (next sr.2).exec sr.1

/-- The states a program may be cut off in: between two operations, or part way through one. -/
def crashes : Program Ret α → σ → Set σ
  | done _, s => {s}
  | call op next, s =>
    {s} ∪ E.partway s op ∪ {c | ∃ s' r, E.step s op = some (s', r) ∧ c ∈ (next r).crashes s'}

/-- The program passes only states of `C`, part way through its operations as well, and ends with
`Q`; `F` must hold for it to be left without an answer. -/
def wp (F : Prop) (C : σ → Prop) (Q : α → σ → Prop) : Program Ret α → σ → Prop
  | done a, s => C s ∧ Q a s
  | call op next, s => C s ∧ (∀ c ∈ E.partway s op, C c) ∧
    (E.step s op).elim F fun sr => (next sr.2).wp F C Q sr.1

variable {E} {F : Prop} {C : σ → Prop} {Q : α → σ → Prop} {s s' : σ} {a : α}

theorem wp_here {p : Program Ret α} (h : p.wp E F C Q s) : C s := by
  cases p with
  | done a => exact h.1
  | call op next => exact h.1

@[simp] theorem wp_done : (done a : Program Ret α).wp E F C Q s ↔ C s ∧ Q a s := Iff.rfl

/-- An operation that is answered. -/
theorem wp_call {op : Op} {next : Ret op → Program Ret α} {r : Ret op} (hC : C s)
    (hpart : ∀ c ∈ E.partway s op, C c) (hstep : E.step s op = some (s', r))
    (hnext : (next r).wp E F C Q s') : (call op next).wp E F C Q s := by
  refine ⟨hC, hpart, ?_⟩
  rw [hstep]
  exact hnext

theorem wp_bind {p : Program Ret α} {f : α → Program Ret β} {Q : β → σ → Prop} :
    (p >>= f).wp E F C Q s ↔ p.wp E F C (fun a s => (f a).wp E F C Q s) s := by
  induction p generalizing s with
  | done a => exact ⟨fun h => ⟨wp_here h, h⟩, And.right⟩
  | call op next ih =>
    rw [call_bind]
    unfold wp
    cases E.step s op with
    | none => rfl
    | some sr => simp only [ih]

theorem wp_mono {p : Program Ret α} {F' : Prop} {C' : σ → Prop} {Q' : α → σ → Prop}
    (h : p.wp E F C Q s) (hF : F → F') (hC : ∀ s, C s → C' s) (hQ : ∀ a s, Q a s → Q' a s) :
    p.wp E F' C' Q' s := by
  induction p generalizing s with
  | done a => exact ⟨hC s h.1, hQ a s h.2⟩
  | call op next ih =>
    obtain ⟨hs, hpart, hnext⟩ := h
    refine ⟨hC s hs, fun c hc => hC c (hpart c hc), ?_⟩
    cases hstep : E.step s op with
    | none =>
      rw [hstep] at hnext
      exact hF hnext
    | some sr =>
      rw [hstep] at hnext
      exact ih sr.2 hnext

theorem wp_exec {p : Program Ret α} (h : p.wp E F C Q s) (hexec : p.exec E s = some (s', a)) :
    Q a s' := by
  induction p generalizing s with
  | done b =>
    obtain ⟨rfl, rfl⟩ := by simpa [exec] using hexec
    exact h.2
  | call op next ih =>
    obtain ⟨sr, hstep, hnext⟩ := Option.bind_eq_some_iff.mp hexec
    have hwp := h.2.2
    rw [hstep] at hwp
    exact ih sr.2 hwp hnext

/-- A program that is never left without an answer ends. -/
theorem wp_total {p : Program Ret α} (h : p.wp E False C Q s) :
    ∃ s' a, p.exec E s = some (s', a) ∧ Q a s' := by
  induction p generalizing s with
  | done b => exact ⟨s, b, rfl, h.2⟩
  | call op next ih =>
    have hwp := h.2.2
    cases hstep : E.step s op with
    | none => simp [hstep] at hwp
    | some sr =>
      rw [hstep] at hwp
      obtain ⟨s', a, hexec, hQ⟩ := ih sr.2 hwp
      exact ⟨s', a, by simp [exec, hstep, hexec], hQ⟩

/-- The end is one of the states that a program may be cut off in. -/
theorem exec_mem_crashes {p : Program Ret α} (hexec : p.exec E s = some (s', a)) : s' ∈ p.crashes E s := by
  induction p generalizing s with
  | done b =>
    obtain ⟨rfl, rfl⟩ := by simpa [exec] using hexec
    rfl
  | call op next ih =>
    obtain ⟨sr, hstep, hnext⟩ := Option.bind_eq_some_iff.mp hexec
    exact .inr ⟨sr.1, sr.2, hstep, ih sr.2 hnext⟩

theorem wp_crashes {p : Program Ret α} (h : p.wp E F C Q s) : ∀ c ∈ p.crashes E s, C c := by
  induction p generalizing s with
  | done b =>
    rintro c rfl
    exact h.1
  | call op next ih =>
    obtain ⟨hs, hpart, hwp⟩ := h
    rintro c ((rfl | hc) | ⟨s', r, hstep, hc⟩)
    · exact hs
    · exact hpart c hc
    · rw [hstep] at hwp
      exact ih r hwp c hc

section
variable {E' : Environment Ret σ} {c : σ}

/-- How a program runs does not depend on where it may be cut off. -/
theorem exec_congr (hstep : E'.step = E.step) (p : Program Ret α) (s : σ) :
    p.exec E' s = p.exec E s := by
  induction p generalizing s with
  | done a => rfl
  | call op next ih =>
    rw [exec, exec, hstep]
    congr 1
    funext sr
    exact ih sr.2 sr.1

theorem crashes_subset (hstep : E'.step = E.step)
    (hpart : ∀ s op, E'.partway s op ⊆ E.partway s op) (p : Program Ret α) (s : σ) :
    p.crashes E' s ⊆ p.crashes E s := by
  induction p generalizing s with
  | done a => exact subset_rfl
  | call op next ih =>
    rintro c ((hc | hc) | ⟨s', r, hs', hc⟩)
    · exact .inl (.inl hc)
    · exact .inl (.inr (hpart s op hc))
    · rw [hstep] at hs'
      exact .inr ⟨s', r, hs', ih r s' hc⟩

theorem mem_crashes_start (p : Program Ret α) (s : σ) : s ∈ p.crashes E s := by
  cases p with
  | done a => exact rfl
  | call op next => exact .inl (.inl rfl)

theorem crashes_subset_bind (p : Program Ret α) (f : α → Program Ret β) (s : σ) :
    p.crashes E s ⊆ (p >>= f).crashes E s := by
  induction p generalizing s with
  | done a =>
    intro c hc
    obtain rfl : c = s := hc
    exact mem_crashes_start (f a) c
  | call op next ih =>
    rintro c (hc | ⟨s', r, hstep, hc⟩)
    · exact .inl hc
    · exact .inr ⟨s', r, hstep, ih r s' hc⟩

/-- A program is cut off where its second half is, once the first has run. -/
theorem mem_crashes_bind {p : Program Ret α} {f : α → Program Ret β}
    (hexec : p.exec E s = some (s', a)) (hc : c ∈ (f a).crashes E s') :
    c ∈ (p >>= f).crashes E s := by
  induction p generalizing s with
  | done b =>
    obtain ⟨rfl, rfl⟩ := Prod.mk.inj (Option.some.inj hexec)
    exact hc
  | call op next ih =>
    obtain ⟨sr, hstep, hnext⟩ := Option.bind_eq_some_iff.mp hexec
    exact .inr ⟨sr.1, sr.2, hstep, ih sr.2 hnext⟩

end
end Program
