import FreeRil.RilInterface.Replies

/-! The numbers of calls. The monitor that a call takes is that of the `Integer` it has read, which
another call may have replaced by then; so two calls may increment the counter at once. -/
namespace FreeRil
namespace SynchronousCall

/-- The number a thread is about to store. -/
def incrementing : SynchronousCall → Option Int32
  | .incremented _ _ _ callId => some callId
  | _ => none

end SynchronousCall

namespace RilInterface
open SynchronousCall

variable {τ : Type} {t : List Event} {e : Event}

/-- No thread reads the counter while another is about to store it. -/
def Alone (_ : List Event) (s : CallingThreads τ) (e : Event) : Prop :=
  ∀ call callId, e = .incremented call callId → ∀ i, (s.threads i).incrementing = none

/-- The numbers that are given one after the other. -/
def counted (n : ℕ) : List Int32 := (List.range n).map fun k => Int32.ofNat (k + 1)

theorem counted_succ (n : ℕ) : counted (n + 1) = counted n ++ [Int32.ofNat (n + 1)] := by
  rw [counted, List.range_succ, List.map_append]
  rfl

theorem counted_nodup {n : ℕ} (hn : n ≤ 2 ^ 32) : (counted n).Nodup := by
  refine List.Nodup.map_on ?_ List.nodup_range
  intro k hk k' hk' heq
  have hmod := congrArg (fun i => i.toBitVec.toNat) heq
  simp only [Int32.toBitVec_ofNat', BitVec.toNat_ofNat] at hmod
  have h := List.mem_range.mp hk
  have h' := List.mem_range.mp hk'
  omega

theorem ofNat_succ (n : ℕ) : Int32.ofNat n + 1 = Int32.ofNat (n + 1) := by
  rw [Int32.ofNat_add]
  rfl

theorem numbers_append (e : Event) : numbers (t ++ [e]) = numbers t ++ numbers [e] := by
  rw [numbers, numbered, List.filterMap_append, List.map_append]
  rfl

/-- The counter, and what is about to be stored in it, after `n` calls have incremented it. -/
inductive Counts (s : CallingThreads τ) (n : ℕ) : Prop
  | settled (hvalue : s.ril.mCallIdCounter.value = Int32.ofNat n)
    (hthreads : ∀ i, (s.threads i).incrementing = none)
  | incrementing {i : τ} (hvalue : s.ril.mCallIdCounter.value + 1 = Int32.ofNat n)
    (hthread : (s.threads i).incrementing = some (Int32.ofNat n))
    (hothers : ∀ j, j ≠ i → (s.threads j).incrementing = none)

/-- What a step of a thread does to the counter. -/
inductive CountsOn (s : RilInterface) (thread : SynchronousCall) (e : Event)
    (thread' : SynchronousCall)
    (s' : RilInterface) : Prop
  | elsewhere (hnumbers : numbers [e] = []) (hcounter : s'.mCallIdCounter = s.mCallIdCounter)
    (hthread : thread.incrementing = none) (hthread' : thread'.incrementing = none)
  | incremented (hnumbers : numbers [e] = [s.mCallIdCounter.value + 1])
    (hcounter : s'.mCallIdCounter = s.mCallIdCounter)
    (hthread' : thread'.incrementing = some (s.mCallIdCounter.value + 1))
  | counted {callId : Int32} (hnumbers : numbers [e] = [])
    (hcounter : s'.mCallIdCounter.value = callId)
    (hthread : thread.incrementing = some callId) (hthread' : thread'.incrementing = none)

theorem valueOf_value (value : Int32) (objects : ℕ) :
    (BoxedInteger.valueOf value objects).1.value = value := by
  unfold BoxedInteger.valueOf
  split_ifs <;> rfl

theorem CallStep.countsOn {taken : BoxedInteger → Prop} {s s' : RilInterface}
    {thread thread' : SynchronousCall} (h : CallStep taken s thread e thread' s') :
    CountsOn s thread e thread' s' := by
  cases h with
  | incremented => exact .incremented rfl rfl rfl
  | counted => exact .counted rfl (valueOf_value _ _) rfl rfl
  | _ => exact .elsewhere rfl rfl rfl rfl

theorem notify_incrementing (lock : ℕ) (thread : SynchronousCall) :
    (notify lock thread).incrementing = thread.incrementing := by
  cases thread with
  | waiting call callId =>
    simp only [notify]
    split_ifs <;> rfl
  | _ => rfl

variable {s s' : CallingThreads τ}

theorem Counts.of_same {n : ℕ} (h : Counts s n)
    (hcounter : s'.ril.mCallIdCounter = s.ril.mCallIdCounter)
    (hthreads : ∀ i, (s'.threads i).incrementing = (s.threads i).incrementing) : Counts s' n := by
  cases h with
  | settled hvalue hnone => exact .settled (hcounter ▸ hvalue) fun i => (hthreads i).trans (hnone i)
  | @incrementing i hvalue hthread hothers =>
    exact .incrementing (hcounter ▸ hvalue) ((hthreads i).trans hthread) fun j hj =>
      (hthreads j).trans (hothers j hj)

variable [DecidableEq τ]

/-- The thread that is about to store the counter is the one that does. -/
theorem Counts.call {n : ℕ} (h : Counts s n) {i : τ} {thread : SynchronousCall} {ril : RilInterface}
    (hon : CountsOn s.ril (s.threads i) e thread ril) (halone : Alone t s e)
    (hstep : ∀ callId, numbers [e] = [callId] → ∃ call, e = .incremented call callId) :
    ∃ m, Counts (s.goOn i thread ril) m ∧ counted m = counted n ++ numbers [e] := by
  have hothers : ∀ {P : τ → Prop}, P i → (∀ j, j ≠ i → P j) → ∀ j, P j := by
    intro P hi hne j
    by_cases hj : j = i
    · exact hj ▸ hi
    · exact hne j hj
  cases hon with
  | elsewhere hnumbers hcounter hthread hthread' =>
    refine ⟨n, h.of_same hcounter (hothers ?_ fun j hj => ?_), by rw [hnumbers, List.append_nil]⟩
    · rw [CallingThreads.goOn_self, hthread, hthread']
    · rw [s.goOn_of_ne hj]
  | incremented hnumbers hcounter hthread' =>
    obtain ⟨call, rfl⟩ := hstep _ hnumbers
    have hnone := halone call _ rfl
    cases h with
    | incrementing _ hthread => simp [hnone] at hthread
    | settled hvalue =>
      refine ⟨n + 1, .incrementing (i := i) ?_ ?_ fun j hj => ?_, ?_⟩
      · rw [CallingThreads.goOn_ril, hcounter, hvalue, ofNat_succ]
      · rw [CallingThreads.goOn_self, hthread', hvalue, ofNat_succ]
      · rw [s.goOn_of_ne hj, hnone]
      · rw [hnumbers, hvalue, ofNat_succ, counted_succ]
  | counted hnumbers hcounter hthread hthread' =>
    refine ⟨n, ?_, by rw [hnumbers, List.append_nil]⟩
    cases h with
    | settled _ hnone => simp [hnone] at hthread
    | @incrementing i' hvalue hfirst hnone =>
      obtain rfl : i = i' := by
        by_contra hne
        simp [hnone i hne] at hthread
      refine .settled ?_ (hothers ?_ fun j hj => ?_)
      · rw [CallingThreads.goOn_ril, hcounter]
        exact Option.some.inj (hthread.symm.trans hfirst)
      · rw [CallingThreads.goOn_self, hthread']
      · rw [s.goOn_of_ne hj, hnone j hj]

theorem counts_of_run (h : (synchronousCalls τ).Run Alone t s) :
    ∃ n, Counts s n ∧ numbers t = counted n := by
  induction h with
  | start hinit =>
    obtain rfl := hinit
    exact ⟨0, .settled rfl fun i => rfl, rfl⟩
  | @step t s e s' run halone hstep ih =>
    obtain ⟨n, hcounts, hnumbers⟩ := ih
    rw [numbers_append, hnumbers]
    cases hstep with
    | call hcall =>
      obtain ⟨m, hm, hcounted⟩ := hcounts.call hcall.countsOn halone fun callId heq => by
        cases e <;> simp_all [numbers, numbered]
      exact ⟨m, hm, hcounted.symm⟩
    | notified =>
      refine ⟨n, hcounts.of_same rfl fun i => notify_incrementing _ _, ?_⟩
      exact List.append_nil _
    | _ =>
      refine ⟨n, hcounts.of_same rfl fun i => rfl, ?_⟩
      exact List.append_nil _

theorem numberOf_of_incrementing {thread : SynchronousCall} {callId : Int32}
    (h : thread.incrementing = some callId) : ∃ call, thread.numberOf = some (call, callId) := by
  cases thread with
  | incremented call request o callId' =>
    obtain rfl := Option.some.inj h
    exact ⟨call, rfl⟩
  | _ => contradiction

theorem incremented_value {call : ℕ} {callId : Int32} (h : Step s (.incremented call callId) s') :
    callId = s.ril.mCallIdCounter.value + 1 := by
  cases h with
  | call h =>
    cases h.countsOn with
    | incremented hnumbers => exact List.singleton_inj.mp hnumbers
    | elsewhere hnumbers => simp [numbers, numbered] at hnumbers
    | counted hnumbers => simp [numbers, numbered] at hnumbers

/-- As long as there are fewer calls than numbers, no two calls get one number if and only if no
thread has read the counter while another was about to store it. -/
theorem numbers_distinct_iff (h : Runs t s) (hfew : (numbers t).length ≤ 2 ^ 32) :
    (numbers t).Nodup ↔ (synchronousCalls τ).Run Alone t s := by
  constructor
  · intro hdistinct
    induction h with
    | start hinit => exact .start hinit
    | @step t s e s' run _ hstep ih =>
      rw [numbers_append] at hfew hdistinct
      rw [List.length_append] at hfew
      have hpast := ih (by omega) (List.nodup_append.mp hdistinct).1
      refine hpast.step ?_ hstep
      rintro call callId rfl i
      by_contra hsome
      -- the number of the thread that is about to store it is given once more
      obtain ⟨n, hcounts, -⟩ := counts_of_run hpast
      cases hcounts with
      | settled _ hnone => exact hsome (hnone i)
      | @incrementing j hvalue hthread =>
        obtain ⟨call', hnumber⟩ := numberOf_of_incrementing hthread
        have hgiven := ((Invariant.of_run run).threads j).number call' _ hnumber
        have hmem : callId ∈ numbers t := by
          rw [incremented_value hstep, hvalue]
          have hnumbered : (call', Int32.ofNat n) ∈ numbered t := mem_numbered.mpr hgiven
          exact List.mem_map_of_mem hnumbered
        exact (List.nodup_append.mp hdistinct).2.2 _ hmem _ List.mem_cons_self rfl
  · intro halone
    obtain ⟨n, -, hnumbers⟩ := counts_of_run halone
    rw [hnumbers] at hfew ⊢
    refine counted_nodup ?_
    simpa [counted] using hfew

/-- Two calls that read the counter one after the other, and two more that read it at once. -/
theorem two_calls_numbers :
    (∃ t, ∃ s : CallingThreads (Fin 3), numbers t = [1, 2] ∧ (synchronousCalls _).Run Alone t s) ∧
    ∃ t, ∃ s : CallingThreads (Fin 3), numbers t = [1, 2, 2] ∧
      ¬ (synchronousCalls _).Run Alone t s := by
  obtain ⟨t, s, h, hnumbers, -⟩ := two_calls [] (some [7]) (some [8])
  obtain ⟨t', s', h', hnumbers', -⟩ := overlapping_calls [] (some [7])
  refine ⟨⟨t, s, hnumbers, (numbers_distinct_iff h (by simp [hnumbers])).mp ?_⟩,
    t', s', hnumbers', (numbers_distinct_iff h' (by simp [hnumbers'])).not.mp ?_⟩
  · rw [hnumbers]
    decide
  · rw [hnumbers']
    decide

end RilInterface
end FreeRil
