import Mathlib.Data.List.Basic
import Mathlib.Data.List.Infix
import Mathlib.Tactic

/-! Readers of a sequence of symbols, described by the symbols they consume.
A reader works on an abstract state `σ`; `pos before input` is the state standing between the
symbols already read and those still to come. The description carries a side condition on the
value read, which may depend on how many symbols are left behind it. -/
namespace Reader

variable {σ β α γ : Type} (pos : List β → List β → σ)

/-- `read` consumes exactly `wire v` when it returns `v`, and it returns `v` on every input that
starts so and leaves a remainder of a length that `ok` allows. -/
def Reads (read : σ → Option (α × σ)) (wire : α → List β) (ok : α → ℕ → Prop) : Prop :=
  ∀ before input v s, read (pos before input) = some (v, s) ↔
    ∃ rest, input = wire v ++ rest ∧ s = pos (before ++ wire v) rest ∧ ok v rest.length

/-- Read one value, then a second one whose reader may depend on the first. -/
def pair (first : σ → Option (α × σ)) (second : α → σ → Option (γ × σ)) (s : σ) :
    Option ((α × γ) × σ) := do
  let (a, s) ← first s
  let (c, s) ← second a s
  return ((a, c), s)

/-- Read a given number of values, one after the other. -/
def many (read : σ → Option (α × σ)) : ℕ → σ → Option (List α × σ)
  | 0, s => some ([], s)
  | n + 1, s => do
    let (a, s) ← read s
    let (as, s) ← many read n s
    return (a :: as, s)

theorem pair_eq_some {first : σ → Option (α × σ)} {second : α → σ → Option (γ × σ)} {s s' : σ}
    {v : α × γ} : pair first second s = some (v, s') ↔
      ∃ s₁, first s = some (v.1, s₁) ∧ second v.1 s₁ = some (v.2, s') := by
  simp only [pair, Option.bind_eq_bind, Option.bind_eq_some_iff, Option.pure_def, Option.some.injEq,
    Prod.mk.injEq, Prod.exists]
  constructor
  · rintro ⟨a, s₁, hfirst, c, s₂, hsecond, rfl, rfl⟩
    exact ⟨s₁, hfirst, hsecond⟩
  · rintro ⟨s₁, hfirst, hsecond⟩
    exact ⟨v.1, s₁, hfirst, v.2, s', hsecond, rfl, rfl⟩

theorem many_succ {read : σ → Option (α × σ)} {n : ℕ} {s s' : σ} {as : List α} :
    many read (n + 1) s = some (as, s') ↔
      ∃ a s₁ rest, as = a :: rest ∧ read s = some (a, s₁) ∧ many read n s₁ = some (rest, s') := by
  simp only [many, Option.bind_eq_bind, Option.bind_eq_some_iff, Option.pure_def, Prod.exists,
    Option.some.injEq, Prod.mk.injEq]
  constructor
  · rintro ⟨a, s₁, ha, rest, s₂, hrest, rfl, rfl⟩
    exact ⟨a, s₁, rest, rfl, ha, hrest⟩
  · rintro ⟨a, s₁, rest, rfl, ha, hrest⟩
    exact ⟨a, s₁, ha, rest, s', hrest, rfl, rfl⟩

theorem many_length {read : σ → Option (α × σ)} {n : ℕ} {s s' : σ} {as : List α}
    (h : many read n s = some (as, s')) : as.length = n := by
  induction n generalizing s as with
  | zero =>
    obtain ⟨rfl, -⟩ := Prod.mk.inj (Option.some.inj h)
    rfl
  | succ n ih =>
    obtain ⟨a, s₁, rest, rfl, -, hrest⟩ := many_succ.mp h
    rw [List.length_cons, ih hrest]

/-- The symbols of a list of values. -/
def wires (wire : α → List β) (as : List α) : List β := (as.map wire).flatten

@[simp] theorem wires_nil (wire : α → List β) : wires wire [] = [] := rfl

@[simp] theorem wires_cons (wire : α → List β) (a : α) (as : List α) :
    wires wire (a :: as) = wire a ++ wires wire as := by simp [wires]

/-- Every value of a list meets the side condition in front of what follows it. -/
def AllOk (wire : α → List β) (ok : α → ℕ → Prop) : List α → ℕ → Prop
  | [], _ => True
  | a :: as, n => ok a ((wires wire as).length + n) ∧ AllOk wire ok as n

theorem AllOk.imp {wire : α → List β} {ok : α → ℕ → Prop} {as : List α} {m n : ℕ}
    (hok : ∀ a i j, ok a i → ok a j) (h : AllOk wire ok as m) : AllOk wire ok as n := by
  induction as with
  | nil => trivial
  | cons a as ih => exact ⟨hok _ _ _ h.1, ih h.2⟩

theorem AllOk.of_mem {wire : α → List β} {ok : α → ℕ → Prop} {as : List α} {n : ℕ}
    (h : AllOk wire ok as n) {a : α} (ha : a ∈ as) : ∃ i, ok a i := by
  induction as with
  | nil => contradiction
  | cons b as ih =>
    rcases List.mem_cons.mp ha with rfl | ha
    · exact ⟨_, h.1⟩
    · exact ih h.2 ha

variable {pos}

theorem Reads.congr_ok {read : σ → Option (α × σ)} {wire : α → List β} {ok ok' : α → ℕ → Prop}
    (h : Reads pos read wire ok) (hok : ∀ v n, ok v n ↔ ok' v n) : Reads pos read wire ok' := by
  intro before input v s
  simp only [h before input v s, hok]

theorem Reads.pair {first : σ → Option (α × σ)} {second : α → σ → Option (γ × σ)}
    {wire₁ : α → List β} {wire₂ : α → γ → List β} {ok₁ : α → ℕ → Prop} {ok₂ : α → γ → ℕ → Prop}
    (h₁ : Reads pos first wire₁ ok₁) (h₂ : ∀ a, Reads pos (second a) (wire₂ a) (ok₂ a)) :
    Reads pos (Reader.pair first second) (fun v => wire₁ v.1 ++ wire₂ v.1 v.2)
      (fun v n => ok₁ v.1 ((wire₂ v.1 v.2).length + n) ∧ ok₂ v.1 v.2 n) := by
  rintro before input ⟨a, c⟩ s
  constructor
  · intro h
    simp only [Reader.pair, Option.bind_eq_bind, Option.bind_eq_some_iff, Option.pure_def,
      Option.some.injEq, Prod.mk.injEq] at h
    obtain ⟨⟨a', s₁⟩, hr₁, ⟨c', s₂⟩, hr₂, ⟨rfl, rfl⟩, rfl⟩ := h
    obtain ⟨rest₁, rfl, hs₁, hok₁⟩ := (h₁ _ _ _ _).mp hr₁
    dsimp only at hr₂
    rw [hs₁] at hr₂
    obtain ⟨rest, rfl, rfl, hok₂⟩ := (h₂ _ _ _ _ _).mp hr₂
    exact ⟨rest, by simp, by simp, by simpa using hok₁, hok₂⟩
  · rintro ⟨rest, rfl, rfl, hok₁, hok₂⟩
    have hr₁ := (h₁ before (wire₁ a ++ (wire₂ a c ++ rest)) a _).mpr
      ⟨_, rfl, rfl, by simpa using hok₁⟩
    have hr₂ := (h₂ a (before ++ wire₁ a) (wire₂ a c ++ rest) c _).mpr ⟨_, rfl, rfl, hok₂⟩
    simp [Reader.pair, hr₁, hr₂]

theorem Reads.many {read : σ → Option (α × σ)} {wire : α → List β} {ok : α → ℕ → Prop}
    (h : Reads pos read wire ok) (n : ℕ) :
    Reads pos (Reader.many read n) (wires wire) (fun as k => as.length = n ∧ AllOk wire ok as k) := by
  induction n with
  | zero =>
    intro before input as s
    constructor
    · intro hr
      obtain ⟨rfl, rfl⟩ : [] = as ∧ pos before input = s := by simpa [Reader.many] using hr
      exact ⟨input, by simp, by simp, rfl, trivial⟩
    · rintro ⟨rest, rfl, rfl, hlen, -⟩
      obtain rfl := List.length_eq_zero_iff.mp hlen
      simp [Reader.many]
  | succ n ih =>
    intro before input as s
    have hp := (h.pair fun _ => ih) before input
    constructor
    · intro hr
      simp only [Reader.many, Option.bind_eq_bind, Option.bind_eq_some_iff, Option.pure_def,
        Option.some.injEq, Prod.mk.injEq] at hr
      obtain ⟨⟨a, s₁⟩, hr₁, ⟨as', s₂⟩, hr₂, rfl, rfl⟩ := hr
      obtain ⟨rest, hin, hs, hok, hlen, hall⟩ :=
        (hp (a, as') s₂).mp (by simp [Reader.pair, hr₁, hr₂])
      exact ⟨rest, by simpa using hin, by simpa using hs, by simpa using hlen, hok, hall⟩
    · rintro ⟨rest, hin, hs, hlen, hall⟩
      cases as with
      | nil => simp at hlen
      | cons a as =>
        have hr := (hp (a, as) s).mpr
          ⟨rest, by simpa using hin, by simpa using hs, hall.1, by simpa using hlen, hall.2⟩
        simp only [Reader.pair, Option.bind_eq_bind, Option.bind_eq_some_iff, Option.pure_def,
          Option.some.injEq, Prod.mk.injEq] at hr
        obtain ⟨⟨a', s₁⟩, hr₁, ⟨as', s₂⟩, hr₂, ⟨rfl, rfl⟩, rfl⟩ := hr
        simp [Reader.many, hr₁, hr₂]

/-- A reader that first takes its size from the number of symbols still to come. -/
theorem Reads.sized {remaining : σ → ℕ} {read : ℕ → σ → Option (α × σ)} {wire : α → List β}
    {size : α → ℕ} {ok : α → ℕ → Prop} (count : ℕ → Option ℕ)
    (hremaining : ∀ before input, remaining (pos before input) = input.length)
    (h : ∀ n, Reads pos (read n) wire (fun v k => size v = n ∧ ok v k)) :
    Reads pos (fun s => do let n ← count (remaining s); read n s) wire
      (fun v k => count ((wire v).length + k) = some (size v) ∧ ok v k) := by
  intro before input v s
  simp only [hremaining, Option.bind_eq_bind, Option.bind_eq_some_iff]
  constructor
  · rintro ⟨n, hn, hr⟩
    obtain ⟨rest, rfl, rfl, rfl, hok⟩ := (h n _ _ _ _).mp hr
    exact ⟨rest, rfl, rfl, by simpa using hn, hok⟩
  · rintro ⟨rest, rfl, rfl, hn, hok⟩
    exact ⟨size v, by simpa using hn, (h _ _ _ _ _).mpr ⟨rest, rfl, rfl, rfl, hok⟩⟩

theorem Reads.map {read : σ → Option (α × σ)} {wire : α → List β} {ok : α → ℕ → Prop}
    (h : Reads pos read wire ok) (e : α ≃ γ) :
    Reads pos (fun s => (read s).map fun p => (e p.1, p.2)) (fun c => wire (e.symm c))
      (fun c => ok (e.symm c)) := by
  intro before input c s
  rw [← h before input (e.symm c) s]
  simp only [Option.map_eq_some_iff, Prod.mk.injEq]
  constructor
  · rintro ⟨⟨a, s'⟩, hr, rfl, rfl⟩
    simpa using hr
  · intro hr
    exact ⟨_, hr, by simp, rfl⟩

/-- Forgetting the property of the values read moves it into the side condition. -/
theorem Reads.val {P : α → Prop} {read : σ → Option ({ a // P a } × σ)} {wire : α → List β}
    {ok : α → ℕ → Prop} (h : Reads pos read (fun a => wire a) (fun a => ok a)) :
    Reads pos (fun s => (read s).map fun p => (p.1.val, p.2)) wire (fun a k => P a ∧ ok a k) := by
  intro before input a s
  simp only [Option.map_eq_some_iff, Prod.mk.injEq]
  constructor
  · rintro ⟨⟨b, s'⟩, hr, rfl, rfl⟩
    obtain ⟨rest, hin, hs, hok⟩ := (h _ _ _ _).mp hr
    exact ⟨rest, hin, hs, b.property, hok⟩
  · rintro ⟨rest, hin, hs, ha, hok⟩
    exact ⟨(⟨a, ha⟩, s), (h _ _ _ _).mpr ⟨rest, hin, hs, hok⟩, rfl, rfl⟩

/-- What a value stands for reads back as that value, with nothing left over. -/
theorem Reads.roundtrip {read : σ → Option (α × σ)} {wire : α → List β} {ok : α → ℕ → Prop}
    (h : Reads pos read wire ok) {v : α} (hok : ok v 0) :
    read (pos [] (wire v)) = some (v, pos (wire v) []) :=
  (h [] (wire v) v _).mpr ⟨[], by simp, by simp, hok⟩

/-- An input read to its end is what the value read stands for. -/
theorem Reads.canonical {read : σ → Option (α × σ)} {wire : α → List β} {ok : α → ℕ → Prop}
    {remaining : σ → ℕ} (hremaining : ∀ before input, remaining (pos before input) = input.length)
    (h : Reads pos read wire ok) {input : List β} {v : α} {s : σ}
    (hr : read (pos [] input) = some (v, s)) (hend : remaining s = 0) :
    wire v = input ∧ ok v 0 := by
  obtain ⟨rest, rfl, rfl, hok⟩ := (h _ _ _ _).mp hr
  rw [hremaining] at hend
  obtain rfl := List.length_eq_zero_iff.mp hend
  exact ⟨by simp, hok⟩

/-- Where the side condition does not look at what follows, no proper prefix of an input read to
its end is readable. -/
theorem Reads.prefix_fails {read : σ → Option (α × σ)} {wire : α → List β} {ok : α → ℕ → Prop}
    {remaining : σ → ℕ} (hremaining : ∀ before input, remaining (pos before input) = input.length)
    (h : Reads pos read wire ok) (hok : ∀ v m n, ok v m → ok v n) {front back : List β} {v : α} {s : σ}
    (hr : read (pos [] (front ++ back)) = some (v, s)) (hend : remaining s = 0) (hback : back ≠ []) :
    read (pos [] front) = none := by
  by_contra hne
  obtain ⟨⟨v', s'⟩, hr'⟩ := Option.ne_none_iff_exists'.mp hne
  obtain ⟨rest, rfl, rfl, hok'⟩ := (h _ _ _ _).mp hr'
  have hlong := (h [] (wire v' ++ rest ++ back) v' _).mpr
    ⟨rest ++ back, by simp, rfl, hok _ _ _ hok'⟩
  obtain ⟨rfl, rfl⟩ : v' = v ∧ pos ([] ++ wire v') (rest ++ back) = s := by
    simpa using hlong.symm.trans hr
  rw [hremaining] at hend
  exact hback (List.append_eq_nil_iff.mp (List.length_eq_zero_iff.mp hend)).2

end Reader
