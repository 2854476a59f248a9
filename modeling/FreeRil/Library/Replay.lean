import FreeRil.Library.Monitor

/-! Programs in an environment that answers as it may: what they are kept from, and the other
histories that come to the same result. -/

namespace Program

variable {Op : Type} {Ret : Op → Type} {α β : Type} {answers : Event Ret → Prop} {allowed : Op → Prop}

/-- A property of programs that a whole has where its parts do, each operation being answered as it
may be. -/
structure Composes (answers : Event Ret → Prop) (allowed : Op → Prop)
    (P : ∀ α : Type, Program Ret α → Prop) : Prop where
  done : ∀ {α} (a : α), P α (done a)
  call : ∀ {α} {op} {next : Ret op → Program Ret α}, allowed op → (∀ r, answers ⟨op, r⟩ → P α (next r)) →
    P α (call op next)
  bind : ∀ {α β} {p : Program Ret α} {f : α → Program Ret β}, P α p → (∀ a, P β (f a)) → P β (p >>= f)

/-- The program asks only for what it may, as long as it is answered as it may be. -/
def Keeps (answers : Event Ret → Prop) (allowed : Op → Prop) : Program Ret α → Prop
  | done _ => True
  | call op next => allowed op ∧ ∀ r, answers ⟨op, r⟩ → (next r).Keeps answers allowed

@[simp] theorem keeps_done (a : α) : (done a : Program Ret α).Keeps answers allowed := trivial

theorem keeps_call {op : Op} {next : Ret op → Program Ret α} : (call op next).Keeps answers allowed ↔
    allowed op ∧ ∀ r, answers ⟨op, r⟩ → (next r).Keeps answers allowed := Iff.rfl

attribute [irreducible] Keeps

theorem All.keeps {p : Program Ret α} (h : p.All allowed) : p.Keeps answers allowed := by
  induction p with
  | done a => exact keeps_done a
  | call op next ih => exact keeps_call.mpr ⟨h.1, fun r _ => ih r (h.2 r)⟩

theorem Keeps.bind {p : Program Ret α} {f : α → Program Ret β} (hp : p.Keeps answers allowed)
    (hf : ∀ a, (f a).Keeps answers allowed) : (p >>= f).Keeps answers allowed := by
  induction p with
  | done a => exact hf a
  | call op next ih =>
    obtain ⟨hop, hnext⟩ := keeps_call.mp hp
    exact keeps_call.mpr ⟨hop, fun r hr => ih r (hnext r hr)⟩

theorem composes_keeps : Composes answers allowed fun _ => Keeps answers allowed where
  done := keeps_done
  call := fun hop hnext => keeps_call.mpr ⟨hop, hnext⟩
  bind := Keeps.bind

/-- What is left of the program is kept from the same. -/
theorem Keeps.trace {p q : Program Ret α} {t : List (Event Ret)} (h : p.Keeps answers allowed)
    (ht : Trace p t q) (hanswers : ∀ e ∈ t, answers e) : q.Keeps answers allowed := by
  induction ht with
  | nil p => exact h
  | cons rest ih =>
    obtain ⟨hanswer, hanswers⟩ := List.forall_mem_cons.mp hanswers
    exact ih ((keeps_call.mp h).2 _ hanswer) hanswers

theorem Keeps.not_asked {p : Program Ret α} {t : List (Event Ret)} {op : Op}
    {next : Ret op → Program Ret α} (h : p.Keeps answers allowed) (ht : Trace p t (call op next))
    (hanswers : ∀ e ∈ t, answers e) : allowed op := (keeps_call.mp (h.trace ht hanswers)).1

section
variable {R : List (Event Ret) → List (Event Ret) → Prop}

/-- A relation between histories that holds of them where it holds of their parts. -/
structure Compositional (R : List (Event Ret) → List (Event Ret) → Prop) : Prop where
  nil : R [] []
  append : ∀ {s s' t t'}, R s s' → R t t' → R (s ++ t) (s' ++ t')

/-- To every history of the program there is another with the same result, in a relation to it. -/
def Replays (answers : Event Ret → Prop) (R : List (Event Ret) → List (Event Ret) → Prop)
    (p : Program Ret α) : Prop :=
  ∀ t a, Trace p t (done a) → (∀ e ∈ t, answers e) → ∃ t', Trace p t' (done a) ∧ R t t'

theorem replays_done (hR : Compositional R) (a : α) : (done a : Program Ret α).Replays answers R := by
  intro t b ht _
  obtain ⟨rfl, hb⟩ := ht.done_eq
  exact ⟨[], hb ▸ .nil _, hR.nil⟩

theorem Replays.bind (hR : Compositional R) {p : Program Ret α} {f : α → Program Ret β}
    (hp : p.Replays answers R) (hf : ∀ a, (f a).Replays answers R) : (p >>= f).Replays answers R := by
  intro t b ht hanswers
  obtain ⟨t₁, a, t₂, rfl, h₁, h₂⟩ := ht.bind_done
  obtain ⟨hanswers₁, hanswers₂⟩ := List.forall_mem_append.mp hanswers
  obtain ⟨t₁', h₁', hR₁⟩ := hp t₁ a h₁ hanswers₁
  obtain ⟨t₂', h₂', hR₂⟩ := hf a t₂ b h₂ hanswers₂
  exact ⟨t₁' ++ t₂', (h₁'.bind f).append h₂', hR.append hR₁ hR₂⟩

/-- An operation that is answered the same again. -/
theorem replays_call (hR : Compositional R) {op : Op} {next : Ret op → Program Ret α}
    (hop : ∀ r, answers ⟨op, r⟩ → R [⟨op, r⟩] [⟨op, r⟩])
    (hnext : ∀ r, answers ⟨op, r⟩ → (next r).Replays answers R) : (call op next).Replays answers R := by
  intro t a ht hanswers
  obtain ⟨r, t, rfl, hrest⟩ := ht.call_done
  obtain ⟨hanswer, hanswers⟩ := List.forall_mem_cons.mp hanswers
  obtain ⟨t', ht', hR'⟩ := hnext r hanswer t a hrest hanswers
  exact ⟨⟨op, r⟩ :: t', .cons ht', hR.append (hop r hanswer) hR'⟩

theorem composes_replays (hR : Compositional R) (hallowed : ∀ op r, allowed op → answers ⟨op, r⟩ →
    R [⟨op, r⟩] [⟨op, r⟩]) : Composes answers allowed fun _ => Replays answers R where
  done := replays_done hR
  call := fun hop hnext => replays_call hR (fun r hanswer => hallowed _ r hop hanswer) hnext
  bind := Replays.bind hR

end
/-- Where an operation has one answer unless it is free, the answers to those that are free make the
history. -/
theorem trace_eq_of_free {free : Op → Bool} (hfixed : ∀ op r r', ¬ free op → answers ⟨op, r⟩ →
    answers ⟨op, r'⟩ → r = r') {p : Program Ret α} {t t' : List (Event Ret)} {a a' : α}
    (ht : Trace p t (done a)) (ht' : Trace p t' (done a')) (h : ∀ e ∈ t, answers e)
    (h' : ∀ e ∈ t', answers e) (hsame : t.filter (fun e => free e.op) = t'.filter fun e => free e.op) :
    t = t' := by
  induction p generalizing t t' with
  | done b =>
    obtain ⟨rfl, -⟩ := ht.done_eq
    obtain ⟨rfl, -⟩ := ht'.done_eq
    rfl
  | call op next ih =>
    obtain ⟨r, t, rfl, hrest⟩ := ht.call_done
    obtain ⟨r', t', rfl, hrest'⟩ := ht'.call_done
    obtain ⟨he, htail⟩ := List.forall_mem_cons.mp h
    obtain ⟨he', htail'⟩ := List.forall_mem_cons.mp h'
    by_cases hfree : free op
    · simp only [List.filter_cons, hfree, if_true] at hsame
      obtain ⟨heq, hrests⟩ := List.cons.inj hsame
      obtain rfl : r = r' := by simpa using heq
      rw [ih r hrest hrest' htail htail' hrests]
    · simp only [List.filter_cons, hfree] at hsame
      obtain rfl := hfixed op r r' hfree he he'
      rw [ih r hrest hrest' htail htail' hsame]

end Program
