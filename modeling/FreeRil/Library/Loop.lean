import Mathlib.Tactic

/-! Loops whose body either leaves the loop or hands out one result and continues.
`run step n` makes at most `n` iterations; it has no result while the loop is still running. -/
namespace Loop

variable {σ τ ο : Type}

def run (step : σ → Option (ο × σ)) : ℕ → σ → Option (List ο × σ)
  | 0, s => match step s with
    | none => some ([], s)
    | some _ => none
  | n + 1, s => match step s with
    | none => some ([], s)
    | some (o, s') => (run step n s').map fun r => (o :: r.1, r.2)

/-- The loop comes to its end from `s`. -/
def Terminates (step : σ → Option (ο × σ)) (s : σ) : Prop := ∃ n r, run step n s = some r

variable {step : σ → Option (ο × σ)}

theorem run_of_none {s : σ} (h : step s = none) (n : ℕ) : run step n s = some ([], s) := by
  cases n <;> simp [run, h]

theorem run_of_some {s s' : σ} {o : ο} (h : step s = some (o, s')) (n : ℕ) :
    run step (n + 1) s = (run step n s').map fun r => (o :: r.1, r.2) := by
  simp [run, h]

theorem run_zero_of_some {s : σ} {p : ο × σ} (h : step s = some p) : run step 0 s = none := by
  simp [run, h]

/-- A loop that has ended does not change its result with more iterations at hand. -/
theorem run_mono {n m : ℕ} {s : σ} {r : List ο × σ} (h : run step n s = some r) (hnm : n ≤ m) :
    run step m s = some r := by
  induction n generalizing m s r with
  | zero =>
    cases hs : step s with
    | none =>
      rw [run_of_none hs] at h ⊢
      exact h
    | some p => simp [run_zero_of_some hs] at h
  | succ n ih =>
    cases hs : step s with
    | none =>
      rw [run_of_none hs] at h ⊢
      exact h
    | some p =>
      obtain ⟨m, rfl⟩ : ∃ k, m = k + 1 := ⟨m - 1, by omega⟩
      rw [run_of_some hs] at h ⊢
      obtain ⟨r', hr', rfl⟩ := Option.map_eq_some_iff.mp h
      rw [ih hr' (Nat.le_of_succ_le_succ hnm), Option.map_some]

/-- The loop ends in a state it would not continue from. -/
theorem run_stops {n : ℕ} {s s' : σ} {os : List ο} (h : run step n s = some (os, s')) :
    step s' = none := by
  induction n generalizing s os with
  | zero =>
    cases hs : step s with
    | none => simp [run_of_none hs] at h; rw [← h.2]; exact hs
    | some p => simp [run_zero_of_some hs] at h
  | succ n ih =>
    cases hs : step s with
    | none => simp [run_of_none hs] at h; rw [← h.2]; exact hs
    | some p =>
      rw [run_of_some hs] at h
      obtain ⟨⟨os', t⟩, hr, ht⟩ := Option.map_eq_some_iff.mp h
      obtain ⟨-, rfl⟩ := by simpa using ht
      exact ih hr

/-- A body that comes back to the state it started from never leaves the loop. -/
theorem not_terminates_of_fixed {s : σ} {o : ο} (h : step s = some (o, s)) : ¬ Terminates step s := by
  rintro ⟨n, r, hr⟩
  induction n generalizing r with
  | zero => simp [run_zero_of_some h] at hr
  | succ n ih =>
    rw [run_of_some h] at hr
    obtain ⟨r', hr', -⟩ := Option.map_eq_some_iff.mp hr
    exact ih r' hr'

/-- The loop is left in the state `s'`. -/
def Ends (step : σ → Option (ο × σ)) (s s' : σ) : Prop := ∃ n os, run step n s = some (os, s')

theorem Ends.of_none {s : σ} (h : step s = none) : Ends step s s := ⟨0, [], run_of_none h 0⟩

theorem Ends.of_some {s t s' : σ} {o : ο} (h : step s = some (o, t)) (ht : Ends step t s') :
    Ends step s s' := by
  obtain ⟨n, os, hrun⟩ := ht
  refine ⟨n + 1, o :: os, ?_⟩
  rw [run_of_some h, hrun, Option.map_some]

theorem Ends.unique {s t t' : σ} (h : Ends step s t) (h' : Ends step s t') : t = t' := by
  obtain ⟨n, os, hrun⟩ := h
  obtain ⟨n', os', hrun'⟩ := h'
  have hmax := (run_mono hrun (le_max_left n n')).symm.trans (run_mono hrun' (le_max_right n n'))
  exact congrArg Prod.snd (Option.some.inj hmax)

/-- The loop makes this many iterations. -/
def Takes (step : σ → Option (ο × σ)) (s : σ) (n : ℕ) : Prop :=
  run step n s ≠ none ∧ ∀ m < n, run step m s = none

theorem Takes.unique {s : σ} {n m : ℕ} (h : Takes step s n) (h' : Takes step s m) : n = m := by
  rcases lt_trichotomy n m with hlt | rfl | hlt
  · exact absurd (h'.2 n hlt) h.1
  · rfl
  · exact absurd (h.2 m hlt) h'.1

theorem Takes.of_succ {s s' : σ} {o : ο} {n : ℕ} (hs : step s = some (o, s')) (h : Takes step s (n + 1)) :
    Takes step s' n := by
  refine ⟨fun hnone => h.1 ?_, fun m hm => ?_⟩
  · rw [run_of_some hs, hnone, Option.map_none]
  · have hnone := h.2 (m + 1) (Nat.succ_lt_succ hm)
    rw [run_of_some hs] at hnone
    exact Option.map_eq_none_iff.mp hnone

theorem exists_takes {s : σ} {n : ℕ} (h : run step n s ≠ none) : ∃ m ≤ n, Takes step s m := by
  classical
  have hex : ∃ n, run step n s ≠ none := ⟨n, h⟩
  refine ⟨Nat.find hex, Nat.find_min' hex h, Nat.find_spec hex, fun m hm => ?_⟩
  exact not_not.mp (Nat.find_min hex hm)

/-- A loop that comes to its end has been in each of its states once. -/
theorem Takes.states {s : σ} {n : ℕ} (h : Takes step s n) : ∃ L : List σ, L.length = n ∧ L.Nodup ∧
    ∀ x ∈ L, step x ≠ none ∧ ∃ k ≤ n, Takes step x k := by
  induction n generalizing s with
  | zero => exact ⟨[], rfl, List.nodup_nil, by simp⟩
  | succ n ih =>
    cases hs : step s with
    | none =>
      have hzero := h.2 0 (Nat.succ_pos n)
      rw [run_of_none hs] at hzero
      contradiction
    | some p =>
      obtain ⟨o, s'⟩ := p
      obtain ⟨L, hlength, hnodup, hL⟩ := ih (h.of_succ hs)
      refine ⟨s :: L, by rw [List.length_cons, hlength], List.nodup_cons.mpr ⟨fun hmem => ?_, hnodup⟩, ?_⟩
      · obtain ⟨-, k, hk, htakes⟩ := hL s hmem
        have := h.unique htakes
        omega
      · intro x hx
        rcases List.mem_cons.mp hx with rfl | hx
        · exact ⟨by simp [hs], n + 1, le_rfl, h⟩
        · obtain ⟨hx', k, hk, htakes⟩ := hL x hx
          exact ⟨hx', k, Nat.le_succ_of_le hk, htakes⟩

/-- A loop that goes on from these states only either ends within their number or runs for ever. -/
theorem terminates_iff_within {S : Finset σ} (hS : ∀ s, step s ≠ none → s ∈ S) {s : σ} :
    Terminates step s ↔ ∃ r, run step S.card s = some r := by
  constructor
  · rintro ⟨n, r, hrun⟩
    obtain ⟨m, -, htakes⟩ := exists_takes (show run step n s ≠ none by simp [hrun])
    obtain ⟨L, rfl, hnodup, hL⟩ := htakes.states
    obtain ⟨r', hr'⟩ := Option.ne_none_iff_exists'.mp htakes.1
    refine ⟨r', run_mono hr' ?_⟩
    classical
    rw [← List.toFinset_card_of_nodup hnodup]
    exact Finset.card_le_card fun x hx => hS x (hL x (List.mem_toFinset.mp hx)).1
  · rintro ⟨r, hr⟩
    exact ⟨S.card, r, hr⟩

/-- A loop whose body acts on an abstraction of the state makes the same run there. -/
theorem run_simulates {astep : τ → Option (ο × τ)} {inv : σ → Prop} {abs : σ → τ}
    (hstep : ∀ s, inv s → (step s).map (Prod.map id abs) = astep (abs s))
    (hinv : ∀ s o s', inv s → step s = some (o, s') → inv s') (n : ℕ) {s : σ} (hs : inv s) :
    (run step n s).map (Prod.map id abs) = run astep n (abs s) ∧
      ∀ r, run step n s = some r → inv r.2 := by
  induction n generalizing s with
  | zero =>
    have ha := hstep s hs
    cases hb : step s with
    | none => rw [hb] at ha; simp [run_of_none hb, run_of_none ha.symm, hs]
    | some p => rw [hb] at ha; simp [run_zero_of_some hb, run_zero_of_some ha.symm]
  | succ n ih =>
    have ha := hstep s hs
    cases hb : step s with
    | none => rw [hb] at ha; simp [run_of_none hb, run_of_none ha.symm, hs]
    | some p =>
      obtain ⟨o, s'⟩ := p
      rw [hb] at ha
      obtain ⟨heq, hkeep⟩ := ih (hinv s o s' hs hb)
      rw [run_of_some hb, run_of_some ha.symm, ← heq]
      constructor
      · cases run step n s' <;> rfl
      · intro r hr
        obtain ⟨r', hr', rfl⟩ := Option.map_eq_some_iff.mp hr
        exact hkeep r' hr'

end Loop
