import FreeRil.Library.Program

/-! Histories of programs, and monitors that follow them: what an environment may answer, and what
a program may ask for at each point of its history. -/

namespace Program

variable {Op T : Type} {Ret : Op → Type} {α β σ : Type}

/-- An operation with the answer it got. -/
structure Event {Op : Type} (Ret : Op → Type) where
  op : Op
  answer : Ret op

/-- The program goes through these events, and this is left of it. -/
inductive Trace : Program Ret α → List (Event Ret) → Program Ret α → Prop
  | nil (p : Program Ret α) : Trace p [] p
  | cons {op : Op} {next : Ret op → Program Ret α} {r : Ret op} {t : List (Event Ret)}
      {q : Program Ret α} (rest : Trace (next r) t q) : Trace (call op next) (⟨op, r⟩ :: t) q

theorem trace_call {op : Op} {next : Ret op → Program Ret α} {r : Ret op} {t : List (Event Ret)}
    {q : Program Ret α} : Trace (call op next) (⟨op, r⟩ :: t) q ↔ Trace (next r) t q := by
  constructor
  · intro h
    cases h with
    | cons rest => exact rest
  · exact .cons

/-- All that a program goes through before it ends begins with its first operation. -/
theorem Trace.call_done {op : Op} {next : Ret op → Program Ret α} {t : List (Event Ret)} {a : α}
    (h : Trace (call op next) t (done a)) : ∃ r t', t = ⟨op, r⟩ :: t' ∧ Trace (next r) t' (done a) := by
  cases h with
  | cons rest => exact ⟨_, _, rfl, rest⟩

theorem Trace.done_eq {a : α} {t : List (Event Ret)} {q : Program Ret α} (h : Trace (done a) t q) :
    t = [] ∧ q = done a := by
  cases h with
  | nil => exact ⟨rfl, rfl⟩

theorem Trace.append {p q r : Program Ret α} {t t' : List (Event Ret)} (h : Trace p t q)
    (h' : Trace q t' r) : Trace p (t ++ t') r := by
  induction h with
  | nil p => exact h'
  | cons rest ih => exact .cons (ih h')

theorem Trace.bind {p q : Program Ret α} {t : List (Event Ret)} (h : Trace p t q)
    (f : α → Program Ret β) : Trace (p >>= f) t (q >>= f) := by
  induction h with
  | nil p => exact .nil _
  | cons rest ih => exact .cons ih

/-- Where a program ends, its first half has ended before. -/
theorem Trace.bind_done {p : Program Ret α} {f : α → Program Ret β} {t : List (Event Ret)} {b : β}
    (h : Trace (p >>= f) t (done b)) : ∃ t₁ a t₂, t = t₁ ++ t₂ ∧ Trace p t₁ (done a) ∧
      Trace (f a) t₂ (done b) := by
  induction p generalizing t with
  | done a => exact ⟨[], a, t, rfl, .nil _, h⟩
  | call op next ih =>
    obtain ⟨r, t', rfl, hrest⟩ := Trace.call_done h
    obtain ⟨t₁, a, t₂, rfl, hfirst, hsecond⟩ := ih r hrest
    exact ⟨⟨op, r⟩ :: t₁, a, t₂, rfl, .cons hfirst, hsecond⟩

/-- Only what is allowed comes about. -/
theorem All.events {ok : Op → Prop} {p q : Program Ret α} {t : List (Event Ret)} (h : p.All ok)
    (ht : Trace p t q) : ∀ e ∈ t, ok e.op := by
  induction ht with
  | nil p => simp
  | cons rest ih => exact List.forall_mem_cons.mpr ⟨h.1, ih (h.2 _)⟩

/-- What is left of a program asks for nothing else than all of it. -/
theorem All.trace {ok : Op → Prop} {p q : Program Ret α} {t : List (Event Ret)} (h : p.All ok)
    (ht : Trace p t q) : q.All ok := by
  induction ht with
  | nil p => exact h
  | cons rest ih => exact ih (h.2 _)

/-- The same program, with each operation marked. -/
def tagged (tag : T) : Program Ret α → Program (fun op : T × Op => Ret op.2) α
  | done a => done a
  | call op next => call (tag, op) fun r => (next r).tagged tag

theorem tagged_bind (tag : T) (p : Program Ret α) (f : α → Program Ret β) :
    (p >>= f).tagged tag = p.tagged tag >>= fun a => (f a).tagged tag := by
  induction p with
  | done a => rfl
  | call op next ih =>
    simp only [call_bind, tagged]
    congr 1
    funext r
    exact ih r

/-- What is known of a history, what may be answered, and what may be asked. -/
structure Monitor {Op : Type} (Ret : Op → Type) (σ : Type) where
  record : σ → Event Ret → σ
  answers : σ → Event Ret → Prop
  allowed : σ → Op → Prop

namespace Monitor
variable (M : Monitor Ret σ)

/-- What is known after a history. -/
def after (s : σ) (t : List (Event Ret)) : σ := t.foldl M.record s

/-- Every event of a history is as it should be at its point. -/
def Along (P : σ → Event Ret → Prop) (s : σ) (t : List (Event Ret)) : Prop :=
  ∀ before e rest, t = before ++ e :: rest → P (M.after s before) e

/-- The environment answers as it may. -/
def Obeyed (s : σ) (t : List (Event Ret)) : Prop := M.Along M.answers s t

/-- The program asks for what it may. -/
def Kept (s : σ) (t : List (Event Ret)) : Prop := M.Along (fun s e => M.allowed s e.op) s t

/-- The program asks only for what it may, whatever it is answered, and ends with `Q`. -/
def Safe (Q : α → σ → Prop) : Program Ret α → σ → Prop
  | done a, s => Q a s
  | call op next, s => M.allowed s op ∧
    ∀ r, M.answers s ⟨op, r⟩ → Safe Q (next r) (M.record s ⟨op, r⟩)

variable {M} {Q : α → σ → Prop} {s : σ}

@[simp] theorem after_nil : M.after s [] = s := rfl

@[simp] theorem after_cons (e : Event Ret) (t : List (Event Ret)) :
    M.after s (e :: t) = M.after (M.record s e) t := rfl

theorem along_nil {P : σ → Event Ret → Prop} : M.Along P s [] := by
  intro before e rest ht
  simp at ht

theorem along_cons {P : σ → Event Ret → Prop} {e : Event Ret} {t : List (Event Ret)} :
    M.Along P s (e :: t) ↔ P s e ∧ M.Along P (M.record s e) t := by
  constructor
  · intro h
    refine ⟨h [] e t rfl, fun before e' rest ht => h (e :: before) e' rest ?_⟩
    rw [ht, List.cons_append]
  · rintro ⟨hhead, htail⟩ before e' rest ht
    cases before with
    | nil =>
      obtain ⟨rfl, -⟩ := List.cons_eq_cons.mp ht
      exact hhead
    | cons e'' before =>
      rw [List.cons_append, List.cons_eq_cons] at ht
      obtain ⟨rfl, hrest⟩ := ht
      exact htail before e' rest hrest

/-- What is safe stays so along a history, as long as the environment keeps to its part. -/
theorem Safe.trace {p q : Program Ret α} {t : List (Event Ret)} (h : M.Safe Q p s)
    (ht : Trace p t q) (hobeyed : M.Obeyed s t) : M.Kept s t ∧ M.Safe Q q (M.after s t) := by
  induction ht generalizing s with
  | nil p => exact ⟨along_nil, h⟩
  | cons rest ih =>
    obtain ⟨hallowed, hnext⟩ := h
    obtain ⟨hanswer, hobeyed⟩ := along_cons.mp hobeyed
    obtain ⟨hkept, hsafe⟩ := ih (hnext _ hanswer) hobeyed
    exact ⟨along_cons.mpr ⟨hallowed, hkept⟩, hsafe⟩

variable (M) in
/-- The program ends so after a history of an environment that keeps to its part. -/
structure Ends (p : Program Ret α) (s : σ) (t : List (Event Ret)) (a : α) (s' : σ) : Prop where
  trace : Trace p t (.done a)
  obeyed : M.Obeyed s t
  after : M.after s t = s'

namespace Ends
variable {p : Program Ret α} {s' s'' : σ} {t t' : List (Event Ret)} {a : α} {b : β}

theorem done (a : α) : M.Ends (.done a) s [] a s := ⟨.nil _, along_nil, rfl⟩

theorem call {op : Op} {next : Ret op → Program Ret α} {r : Ret op} (hr : M.answers s ⟨op, r⟩)
    (h : M.Ends (next r) (M.record s ⟨op, r⟩) t a s') :
    M.Ends (.call op next) s (⟨op, r⟩ :: t) a s' :=
  ⟨.cons h.trace, along_cons.mpr ⟨hr, h.obeyed⟩, h.after⟩

theorem bind {f : α → Program Ret β} (hp : M.Ends p s t a s') (hf : M.Ends (f a) s' t' b s'') :
    M.Ends (p >>= f) s (t ++ t') b s'' := by
  obtain ⟨htrace, hobeyed, rfl⟩ := hp
  induction p generalizing s t with
  | done a' =>
    obtain ⟨rfl, ha⟩ := htrace.done_eq
    obtain rfl := Program.done.inj ha
    exact hf
  | call op next ih =>
    obtain ⟨r, t, rfl, hrest⟩ := htrace.call_done
    obtain ⟨hr, hobeyed⟩ := along_cons.mp hobeyed
    exact call hr (ih r hrest hobeyed hf)

end Ends

/-- What is shown of all ends of a program holds of this one. -/
theorem Safe.ends {p : Program Ret α} {t : List (Event Ret)} {a : α} (h : M.Safe Q p s)
    (ht : Trace p t (.done a)) (hobeyed : M.Obeyed s t) : ∃ s', M.Ends p s t a s' ∧ Q a s' :=
  ⟨_, ⟨ht, hobeyed, rfl⟩, (h.trace ht hobeyed).2⟩

theorem Safe.mono {p : Program Ret α} {Q' : α → σ → Prop} (h : M.Safe Q p s)
    (hQ : ∀ a s, Q a s → Q' a s) : M.Safe Q' p s := by
  induction p generalizing s with
  | done a => exact hQ a s h
  | call op next ih => exact ⟨h.1, fun r hr => ih r (h.2 r hr)⟩

theorem Safe.and {p : Program Ret α} {Q' : α → σ → Prop} (h : M.Safe Q p s) (h' : M.Safe Q' p s) :
    M.Safe (fun a s => Q a s ∧ Q' a s) p s := by
  induction p generalizing s with
  | done a => exact ⟨h, h'⟩
  | call op next ih => exact ⟨h.1, fun r hr => ih r (h.2 r hr) (h'.2 r hr)⟩

/-- Where all that is allowed can be answered, the program ends. -/
theorem Safe.exists_end {p : Program Ret α} (h : M.Safe Q p s)
    (hanswer : ∀ s op, M.allowed s op → ∃ r, M.answers s ⟨op, r⟩) : ∃ a s', Q a s' := by
  induction p generalizing s with
  | done a => exact ⟨a, s, h⟩
  | call op next ih =>
    obtain ⟨r, hr⟩ := hanswer s op h.1
    exact ih r (h.2 r hr)

theorem safe_bind {p : Program Ret α} {f : α → Program Ret β} {Q : β → σ → Prop} :
    M.Safe Q (p >>= f) s ↔ M.Safe (fun a s => M.Safe Q (f a) s) p s := by
  induction p generalizing s with
  | done a => exact Iff.rfl
  | call op next ih =>
    rw [call_bind]
    unfold Safe
    simp only [ih]

/-- A program of operations that are always allowed and do not matter. -/
theorem safe_of_all {p : Program Ret α} {neutral : Op → Prop} (h : p.All neutral)
    (hallowed : ∀ op, neutral op → ∀ s, M.allowed s op)
    (hrecord : ∀ op, neutral op → ∀ s r, M.record s ⟨op, r⟩ = s)
    (hQ : ∀ a, p.Returns a → Q a s) : M.Safe Q p s := by
  induction p with
  | done a => exact hQ a rfl
  | call op next ih =>
    refine ⟨hallowed op h.1 s, fun r _ => ?_⟩
    rw [hrecord op h.1]
    exact ih r (h.2 r) fun a ha => hQ a ⟨r, ha⟩

section
variable {Op' τ σ' : Type} {Ret' : Op' → Type} {answer : τ → (op : Op) → Program Ret' (τ × Ret op)}
  {M' : Monitor Ret' σ} {I : τ → σ → Prop}

/-- An invariant of the answers is one of everything run over them. -/
theorem safe_interpret
    (hanswer : ∀ x op s, I x s → M'.Safe (fun r s' => I r.1 s') (answer x op) s)
    {p : Program Ret α} {x : τ} {s : σ} (h : I x s) :
    M'.Safe (fun r s' => I r.1 s') (p.interpret answer x) s := by
  induction p generalizing x s with
  | done a => exact h
  | call op next ih =>
    rw [interpret, safe_bind]
    exact (hanswer x op s h).mono fun r s' hr => ih r.2 hr

/-- What keeps to the rules of an interface keeps to those below it, over answers that take the one to the
other. -/
theorem Safe.interpret {I : τ → σ' → σ → Prop} {M : Monitor Ret σ'} {Q : α → σ' → Prop}
    (hanswer : ∀ x op s s', I x s s' → M.allowed s op →
      M'.Safe (fun r s'' => M.answers s ⟨op, r.2⟩ ∧ I r.1 (M.record s ⟨op, r.2⟩) s'') (answer x op) s')
    {p : Program Ret α} {x : τ} {s : σ'} {s' : σ} (h : M.Safe Q p s) (hI : I x s s') :
    M'.Safe (fun r s'' => ∃ s₁, Q r.2 s₁ ∧ I r.1 s₁ s'') (p.interpret answer x) s' := by
  induction p generalizing x s s' with
  | done a => exact ⟨s, h, hI⟩
  | call op next ih =>
    obtain ⟨hallowed, hnext⟩ := h
    rw [Program.interpret, safe_bind]
    exact (hanswer x op s s' hI hallowed).mono fun r s'' hr => ih r.2 (hnext r.2 hr.1) hr.2

end
section
variable {τ : Type} {x : τ} {Q : α → τ → σ → Prop}

variable (M) in
/-- The same for a program that keeps a state. -/
def SafeWith (Q : α → τ → σ → Prop) (p : StateT τ (Program Ret) α) (x : τ) (s : σ) : Prop :=
  M.Safe (fun r => Q r.1 r.2) (p x) s

theorem SafeWith.mono {p : StateT τ (Program Ret) α} {Q' : α → τ → σ → Prop}
    (h : M.SafeWith Q p x s) (hQ : ∀ a x s, Q a x s → Q' a x s) : M.SafeWith Q' p x s :=
  Safe.mono h fun r s => hQ r.1 r.2 s

/-- Only what a program does in a state matters there. -/
theorem safeWith_congr {p q : StateT τ (Program Ret) α} (h : p x = q x) :
    M.SafeWith Q p x s ↔ M.SafeWith Q q x s := by
  rw [SafeWith, SafeWith, h]

@[simp] theorem safeWith_pure {a : α} : M.SafeWith Q (pure a) x s ↔ Q a x s := Iff.rfl

@[simp] theorem safeWith_get {Q : τ → τ → σ → Prop} : M.SafeWith Q get x s ↔ Q x x s := Iff.rfl

@[simp] theorem safeWith_modify {Q : Unit → τ → σ → Prop} {f : τ → τ} :
    M.SafeWith Q (modify f) x s ↔ Q () (f x) s := Iff.rfl

theorem safeWith_bind {p : StateT τ (Program Ret) α} {f : α → StateT τ (Program Ret) β}
    {Q : β → τ → σ → Prop} :
    M.SafeWith Q (p >>= f) x s ↔ M.SafeWith (fun a => M.SafeWith Q (f a)) p x s := safe_bind

end
end Monitor

namespace Monitor

/-- Everything is known of a history whose events keep to a rule. -/
def history (rule : Event Ret → Prop) : Monitor Ret (List (Event Ret)) where
  record t e := t ++ [e]
  answers _ e := rule e
  allowed _ _ := True

section
variable {rule : Event Ret → Prop} {t : List (Event Ret)} {Q : α → List (Event Ret) → Prop}

theorem history_after (t' : List (Event Ret)) : (history rule).after t t' = t ++ t' := by
  induction t' generalizing t with
  | nil => exact (List.append_nil t).symm
  | cons e t' ih =>
    rw [after_cons, ih]
    exact List.append_assoc t [e] t'

/-- What is shown of the ends of a program holds of all its histories that keep to the rule. -/
theorem history_done {p : Program Ret α} {a : α} (h : (history rule).Safe Q p [])
    (ht : Trace p t (.done a)) (hrule : ∀ e ∈ t, rule e) : Q a t := by
  have hobeyed : (history rule).Obeyed [] t := by
    intro before e rest hsplit
    exact hrule e (hsplit ▸ List.mem_append_right before List.mem_cons_self)
  have hend := (h.trace ht hobeyed).2
  rwa [history_after, List.nil_append] at hend

theorem history_request {op : Op} {k : Ret op → Program Ret α}
    (h : ∀ r, rule ⟨op, r⟩ → (history rule).Safe Q (k r) (t ++ [⟨op, r⟩])) :
    (history rule).Safe Q (request op >>= k) t := ⟨trivial, h⟩

/-- A history goes on, to a value that can be returned. -/
theorem history_grows (p : Program Ret α) (t : List (Event Ret)) :
    (history rule).Safe (fun a t' => p.Returns a ∧ t ⊆ t') p t := by
  induction p generalizing t with
  | done a => exact ⟨rfl, List.Subset.refl t⟩
  | call op next ih =>
    refine ⟨trivial, fun r _ => (ih r (t ++ [⟨op, r⟩])).mono ?_⟩
    rintro a t' ⟨hreturns, hsubset⟩
    exact ⟨⟨r, hreturns⟩, fun e he => hsubset (List.mem_append_left _ he)⟩

end
end Monitor
end Program
