import FreeRil.RilInterface

/-! The replies that calls come back with: they are those to requests under the same number. -/
namespace FreeRil
namespace SynchronousCall

/-- The call that a thread is in. -/
def callOf : SynchronousCall → Option ℕ
  | .idle => none
  | .entering call _ _ | .entered call _ _ | .incremented call _ _ _ | .leaving call _ _ _
  | .left call _ _ | .registered call _ _ | .invoked call _ | .waiting call _ | .woken call _
  | .interrupted call _ | .unregistered call _ | .fetched call _ _ | .throwing call => some call

/-- The number it has for it. -/
def numberOf : SynchronousCall → Option (ℕ × Int32)
  | .incremented call _ _ callId | .leaving call _ _ callId | .left call _ callId
  | .registered call _ callId | .invoked call callId | .waiting call callId | .woken call callId
  | .interrupted call callId | .unregistered call callId | .fetched call callId _ =>
    some (call, callId)
  | _ => none

/-- The call that has no number yet. -/
def unnumbered : SynchronousCall → Option ℕ
  | .entering call _ _ | .entered call _ _ => some call
  | _ => none

/-- The request that is still to be made. -/
def requestOf : SynchronousCall → Option (ℕ × Bytes)
  | .entering call request _ | .entered call request _ | .incremented call request _ _
  | .leaving call request _ _ | .left call request _ | .registered call request _ =>
    some (call, request)
  | _ => none

end SynchronousCall

namespace RilInterface
open SynchronousCall

variable {τ : Type} {t : List Event} {e : Event}

theorem mem_numbered {x : ℕ × Int32} : x ∈ numbered t ↔ .incremented x.1 x.2 ∈ t := by
  unfold numbered
  rw [List.mem_filterMap]
  constructor
  · rintro ⟨e, he, heq⟩
    cases e with
    | incremented call callId =>
      obtain rfl : (call, callId) = x := Option.some.inj heq
      exact he
    | _ => contradiction
  · exact fun h => ⟨_, h, rfl⟩

/-- A request with this number has been completed so. -/
def Replied (t : List Event) (callId : Int32) (result : Option Bytes) : Prop :=
  ∃ call, .incremented call callId ∈ t ∧ .answered call result ∈ t

theorem Replied.append {callId : Int32} {result : Option Bytes} (h : Replied t callId result) :
    Replied (t ++ [e]) callId result := by
  obtain ⟨call, hnumber, hanswered⟩ := h
  exact ⟨call, List.mem_append_left _ hnumber, List.mem_append_left _ hanswered⟩

/-- What holds of each thread. -/
structure ThreadLabelled (t : List Event) (calls : ℕ) (thread : SynchronousCall) : Prop where
  called : ∀ call, thread.callOf = some call → call < calls
  number : ∀ call callId, thread.numberOf = some (call, callId) → .incremented call callId ∈ t
  unnumbered : ∀ call, thread.unnumbered = some call → ∀ callId, .incremented call callId ∉ t
  request : ∀ call request, thread.requestOf = some (call, request) → .called call request ∈ t
  fetched : ∀ call callId result, thread = .fetched call callId (some result) →
    Replied t callId result

/-- A message for a request that has been completed. -/
def Completes (t : List Event) (message : CallComplete) : Prop :=
  .incremented message.call message.callId ∈ t ∧ .answered message.call message.result ∈ t

theorem Completes.append {message : CallComplete} (h : Completes t message) :
    Completes (t ++ [e]) message :=
  ⟨List.mem_append_left _ h.1, List.mem_append_left _ h.2⟩

/-- What holds of all they share. -/
structure Labelled (t : List Event) (s : RilInterface) : Prop where
  called : ∀ call callId, .incremented call callId ∈ t → call < s.calls
  functional : ∀ call callId callId', .incremented call callId ∈ t → .incremented call callId' ∈ t →
    callId = callId'
  lock : ∀ callId call, s.mLockMap callId = some call → .incremented call callId ∈ t
  result : ∀ callId result, s.mResultMap callId = some result → Replied t callId result
  invoked : ∀ callId call, (callId, call) ∈ s.invoked → .incremented call callId ∈ t
  messages : ∀ message ∈ s.messages, Completes t message
  found : ∀ message lock, s.mCompletionThread = .found message lock →
    Completes t message ∧ .incremented lock message.callId ∈ t
  stored : ∀ message lock, s.mCompletionThread = .stored message lock →
    Completes t message ∧ .incremented lock message.callId ∈ t
  returned : ∀ call result, .returned call (.completed result) ∈ t →
    ∃ callId, .incremented call callId ∈ t ∧ Replied t callId result
  requested : ∀ call request, .invoked call request ∈ t → .called call request ∈ t

/-- What a thread is said to be is so when something else happens. -/
theorem ThreadLabelled.append {calls calls' : ℕ} {thread : SynchronousCall}
    (h : ThreadLabelled t calls thread) (hcalls : calls ≤ calls')
    (he : ∀ call callId, e = .incremented call callId → thread.unnumbered ≠ some call) :
    ThreadLabelled (t ++ [e]) calls' thread where
  called call hcall := (h.called call hcall).trans_le hcalls
  number call callId hnumber := List.mem_append_left _ (h.number call callId hnumber)
  unnumbered call hcall callId hmem := by
    rcases List.mem_append.mp hmem with hmem | hmem
    · exact h.unnumbered call hcall callId hmem
    · exact he call callId (List.mem_singleton.mp hmem).symm hcall
  request call request hrequest := List.mem_append_left _ (h.request call request hrequest)
  fetched call callId result hthread := (h.fetched call callId result hthread).append

/-- It is so of a thread that has gone on with the same. -/
theorem ThreadLabelled.keep {calls : ℕ} {thread thread' : SynchronousCall}
    (h : ThreadLabelled t calls thread)
    (hcall : ∀ call, thread'.callOf = some call → thread.callOf = some call)
    (hnumber : ∀ x, thread'.numberOf = some x → thread.numberOf = some x)
    (hunnumbered : ∀ call, thread'.unnumbered = some call → thread.unnumbered = some call)
    (hrequest : ∀ x, thread'.requestOf = some x → thread.requestOf = some x)
    (hfetched : ∀ call callId result, thread' ≠ .fetched call callId (some result)) :
    ThreadLabelled t calls thread' where
  called call hthread := h.called call (hcall call hthread)
  number call callId hthread := h.number call callId (hnumber _ hthread)
  unnumbered call hthread := h.unnumbered call (hunnumbered call hthread)
  request call request hthread := h.request call request (hrequest _ hthread)
  fetched call callId result hthread := absurd hthread (hfetched call callId result)

theorem CallStep.thread_labelled {taken : BoxedInteger → Prop} {s s' : RilInterface}
    {thread thread' : SynchronousCall} (h : CallStep taken s thread e thread' s')
    (hs : Labelled t s)
    (hthread : ThreadLabelled t s.calls thread) : ThreadLabelled (t ++ [e]) s'.calls thread' := by
  cases h with
  | called =>
    refine ⟨?_, nofun, ?_, ?_, nofun⟩
    · rintro call hcall
      obtain rfl := Option.some.inj hcall
      exact Nat.lt_succ_self _
    · rintro call hcall callId hmem
      obtain rfl := Option.some.inj hcall
      rcases List.mem_append.mp hmem with hmem | hmem
      · exact absurd (hs.called _ callId hmem) (lt_irrefl _)
      · simp at hmem
    · rintro call request hrequest
      obtain ⟨rfl, rfl⟩ := Prod.mk.inj (Option.some.inj hrequest)
      exact List.mem_append_right _ List.mem_cons_self
  | incremented =>
    refine ⟨hthread.called, ?_, nofun, ?_, nofun⟩
    · rintro call callId hnumber
      obtain ⟨rfl, rfl⟩ := Prod.mk.inj (Option.some.inj hnumber)
      exact List.mem_append_right _ List.mem_cons_self
    · exact fun call request hrequest =>
        List.mem_append_left _ (hthread.request call request hrequest)
  | fetched =>
    have happend := hthread.append (e := .silent) le_rfl (by simp)
    refine ⟨happend.called, happend.number, nofun, nofun, ?_⟩
    rintro call callId result heq
    obtain ⟨rfl, rfl, hresult⟩ := SynchronousCall.fetched.inj heq
    exact (hs.result _ result hresult).append
  | unprepared | waits | invoked | spurious | refused | interrupted | fails | unregistered | nothing
  | completed | throws =>
    refine (hthread.append le_rfl (by simp)).keep ?_ ?_ nofun nofun nofun
    all_goals first | exact fun _ h => h | nofun
  | entered =>
    exact (hthread.append le_rfl (by simp)).keep (fun _ h => h) nofun
      (fun _ h => h) (fun _ h => h) nofun
  | counted | left | registered =>
    exact (hthread.append le_rfl (by simp)).keep (fun _ h => h)
      (fun _ h => h) nofun (fun _ h => h) nofun

/-- What they share is said to be so when something happens of which that may be said. -/
theorem Labelled.append {s : RilInterface} (h : Labelled t s)
    (hnumber : ∀ call callId, e = .incremented call callId →
      call < s.calls ∧ ∀ callId', .incremented call callId' ∉ t)
    (hreturned : ∀ call result, e = .returned call (.completed result) →
      ∃ callId, .incremented call callId ∈ t ∧ Replied t callId result)
    (hinvoked : ∀ call request, e = .invoked call request → .called call request ∈ t) :
    Labelled (t ++ [e]) s where
  called call callId hmem := by
    rcases List.mem_append.mp hmem with hmem | hmem
    · exact h.called call callId hmem
    · exact (hnumber call callId (List.mem_singleton.mp hmem).symm).1
  functional call callId callId' hmem hmem' := by
    rcases List.mem_append.mp hmem with hmem | hmem <;>
      rcases List.mem_append.mp hmem' with hmem' | hmem'
    · exact h.functional call callId callId' hmem hmem'
    · exact absurd hmem ((hnumber call callId' (List.mem_singleton.mp hmem').symm).2 callId)
    · exact absurd hmem' ((hnumber call callId (List.mem_singleton.mp hmem).symm).2 callId')
    · have heq := (List.mem_singleton.mp hmem).trans (List.mem_singleton.mp hmem').symm
      exact (Event.incremented.inj heq).2
  lock callId call hlock := List.mem_append_left _ (h.lock callId call hlock)
  result callId result hresult := (h.result callId result hresult).append
  invoked callId call hmem := List.mem_append_left _ (h.invoked callId call hmem)
  messages message hmem := (h.messages message hmem).append
  found message lock hfound :=
    ⟨(h.found message lock hfound).1.append, List.mem_append_left _ (h.found message lock hfound).2⟩
  stored message lock hstored :=
    ⟨(h.stored message lock hstored).1.append,
      List.mem_append_left _ (h.stored message lock hstored).2⟩
  returned call result hmem := by
    have hold : ∃ callId, .incremented call callId ∈ t ∧ Replied t callId result := by
      rcases List.mem_append.mp hmem with hmem | hmem
      · exact h.returned call result hmem
      · exact hreturned call result (List.mem_singleton.mp hmem).symm
    obtain ⟨callId, hcall, hreplied⟩ := hold
    exact ⟨callId, List.mem_append_left _ hcall, hreplied.append⟩
  requested call request hmem := by
    rcases List.mem_append.mp hmem with hmem | hmem
    · exact List.mem_append_left _ (h.requested call request hmem)
    · exact List.mem_append_left _ (hinvoked call request (List.mem_singleton.mp hmem).symm)

/-- An update of a map leaves what it does not change. -/
theorem update_some {α : Type} {f : Int32 → Option α} {k k' : Int32} {v : Option α} {a : α}
    (h : Function.update f k v k' = some a) : (k' = k ∧ v = some a) ∨ f k' = some a := by
  by_cases hk : k' = k
  · subst hk
    rw [Function.update_self] at h
    exact .inl ⟨rfl, h⟩
  · rw [Function.update_of_ne hk] at h
    exact .inr h

/-- What a thread does is as it may be said. -/
theorem CallStep.events {taken : BoxedInteger → Prop} {s s' : RilInterface}
    {thread thread' : SynchronousCall} (h : CallStep taken s thread e thread' s')
    (hs : Labelled t s)
    (hthread : ThreadLabelled t s.calls thread) : Labelled (t ++ [e]) s := by
  cases h with
  | incremented =>
    refine hs.append ?_ (by simp) (by simp)
    rintro call callId heq
    obtain ⟨rfl, rfl⟩ := Event.incremented.inj heq
    exact ⟨hthread.called _ rfl, hthread.unnumbered _ rfl⟩
  | invoked =>
    refine hs.append (by simp) (by simp) ?_
    rintro call request heq
    obtain ⟨rfl, rfl⟩ := Event.invoked.inj heq
    exact hthread.request _ _ rfl
  | completed =>
    refine hs.append (by simp) ?_ (by simp)
    rintro call result hevent
    obtain ⟨rfl, houtcome⟩ := Event.returned.inj hevent
    obtain rfl := Outcome.completed.inj houtcome
    exact ⟨_, hthread.number _ _ rfl, hthread.fetched _ _ _ rfl⟩
  | _ => exact hs.append (by simp) (by simp) (by simp)

theorem CallStep.labelled {taken : BoxedInteger → Prop} {s s' : RilInterface}
    {thread thread' : SynchronousCall} (h : CallStep taken s thread e thread' s')
    (hs : Labelled t s)
    (hthread : ThreadLabelled t s.calls thread) : Labelled (t ++ [e]) s' := by
  have hold := h.events hs hthread
  cases h with
  | called =>
    exact { hold with called :=
      fun call callId hmem => Nat.lt_succ_of_lt (hold.called call callId hmem) }
  | registered =>
    refine { hold with lock := fun callId call hlock => ?_ }
    rcases update_some hlock with ⟨rfl, hcall⟩ | hlock
    · obtain rfl := Option.some.inj hcall
      exact List.mem_append_left _ (hthread.number _ _ rfl)
    · exact hold.lock callId call hlock
  | invoked =>
    refine { hold with invoked := fun callId call hmem => ?_ }
    rcases List.mem_append.mp hmem with hmem | hmem
    · exact hold.invoked callId call hmem
    · obtain ⟨rfl, rfl⟩ := Prod.mk.inj (List.mem_singleton.mp hmem)
      exact List.mem_append_left _ (hthread.number _ _ rfl)
  | fails | unregistered =>
    refine { hold with lock := fun callId call hlock => ?_ }
    rcases update_some hlock with ⟨-, hnone⟩ | hlock
    · contradiction
    · exact hold.lock callId call hlock
  | nothing | completed =>
    refine { hold with result := fun callId result hresult => ?_ }
    rcases update_some hresult with ⟨-, hnone⟩ | hresult
    · contradiction
    · exact hold.result callId result hresult
  | _ => exact { hold with }

/-- What holds of everything, and that no two threads are in one call. -/
structure Invariant (t : List Event) (s : CallingThreads τ) : Prop where
  threads : ∀ i, ThreadLabelled t s.ril.calls (s.threads i)
  apart : ∀ i j call, (s.threads i).callOf = some call → (s.threads j).callOf = some call → i = j
  shared : Labelled t s.ril

theorem CallStep.calls_le {taken : BoxedInteger → Prop} {s s' : RilInterface}
    {thread thread' : SynchronousCall} (h : CallStep taken s thread e thread' s') :
    s.calls ≤ s'.calls := by
  cases h with
  | called => exact Nat.le_succ _
  | _ => exact le_rfl

/-- A thread stays in its call, unless it ends it or makes a new one. -/
theorem CallStep.callOf {taken : BoxedInteger → Prop} {s s' : RilInterface}
    {thread thread' : SynchronousCall} (h : CallStep taken s thread e thread' s') {call : ℕ}
    (hcall : thread'.callOf = some call) : thread.callOf = some call ∨ call = s.calls := by
  cases h with
  | called => exact .inr (Option.some.inj hcall).symm
  | fails | completed | throws => contradiction
  | _ => exact .inl hcall

theorem CallStep.numbers_own {taken : BoxedInteger → Prop} {s s' : RilInterface}
    {thread thread' : SynchronousCall} {call : ℕ} {callId : Int32}
    (h : CallStep taken s thread (.incremented call callId) thread' s') :
    thread.callOf = some call := by
  cases h
  rfl

theorem callOf_of_unnumbered {thread : SynchronousCall} {call : ℕ}
    (h : thread.unnumbered = some call) :
    thread.callOf = some call := by
  cases thread <;> first | exact h | contradiction

theorem notify_callOf (lock : ℕ) (thread : SynchronousCall) :
    (notify lock thread).callOf = thread.callOf := by
  cases thread with
  | waiting call callId =>
    simp only [notify]
    split_ifs <;> rfl
  | _ => rfl

theorem ThreadLabelled.notify {calls : ℕ} {thread : SynchronousCall}
    (h : ThreadLabelled t calls thread)
    (lock : ℕ) : ThreadLabelled t calls (RilInterface.notify lock thread) := by
  cases thread with
  | waiting call callId =>
    simp only [RilInterface.notify]
    split_ifs
    · exact h.keep (fun _ h => h) (fun _ h => h) nofun nofun nofun
    · exact h
  | _ => exact h

namespace Invariant
variable {s s' : CallingThreads τ}

theorem initial : Invariant (τ := τ) [] initial where
  threads _ := ⟨nofun, nofun, nofun, nofun, nofun⟩
  apart _ _ _ h := nomatch h
  shared := by constructor <;> simp [RilInterface.initial]

variable [DecidableEq τ]

theorem call (h : Invariant t s) {i : τ} {thread : SynchronousCall} {ril : RilInterface}
    {taken : BoxedInteger → Prop} (hstep : CallStep taken s.ril (s.threads i) e thread ril) :
    Invariant (t ++ [e]) (s.goOn i thread ril) where
  threads j := by
    by_cases hj : j = i
    · subst hj
      rw [CallingThreads.goOn_self]
      exact hstep.thread_labelled h.shared (h.threads j)
    · rw [s.goOn_of_ne hj]
      refine (h.threads j).append hstep.calls_le ?_
      rintro call callId rfl hunnumbered
      exact hj (h.apart j i call (callOf_of_unnumbered hunnumbered) hstep.numbers_own)
  apart j k call hj hk := by
    have hnew : ∀ j, j ≠ i → (s.threads j).callOf = some call → thread.callOf ≠ some call := by
      intro j hne hj hthread
      rcases hstep.callOf hthread with hi | rfl
      · exact hne (h.apart j i call hj hi)
      · exact lt_irrefl _ ((h.threads j).called _ hj)
    by_cases hji : j = i <;> by_cases hki : k = i
    · rw [hji, hki]
    · subst hji
      rw [CallingThreads.goOn_self] at hj
      rw [s.goOn_of_ne hki] at hk
      exact absurd hj (hnew k hki hk)
    · subst hki
      rw [CallingThreads.goOn_self] at hk
      rw [s.goOn_of_ne hji] at hj
      exact absurd hk (hnew j hji hj)
    · rw [s.goOn_of_ne hji] at hj
      rw [s.goOn_of_ne hki] at hk
      exact h.apart j k call hj hk
  shared := hstep.labelled h.shared (h.threads i)

theorem step (h : Invariant t s) (hstep : Step s e s') : Invariant (t ++ [e]) s' := by
  have hsilent : Labelled (t ++ [.silent]) s.ril := h.shared.append (by simp) (by simp) (by simp)
  have hthreads : ∀ e, (∀ call callId, e ≠ .incremented call callId) →
      ∀ i, ThreadLabelled (t ++ [e]) s.ril.calls (s.threads i) := fun e he i =>
    (h.threads i).append le_rfl fun call callId heq => absurd heq (he call callId)
  cases hstep with
  | call hcall => exact h.call hcall
  | @answered before after call callId result hs =>
    have hold : Labelled (t ++ [.answered call result]) s.ril :=
      h.shared.append (by simp) (by simp) (by simp)
    refine ⟨hthreads _ (by simp), h.apart, { hold with invoked := ?_, messages := ?_ }⟩
    · intro callId' call' hmem
      refine hold.invoked callId' call' ?_
      rw [hs]
      exact (List.sublist_cons_self _ _).append_left before |>.subset hmem
    · intro message hmem
      rcases List.mem_append.mp hmem with hmem | hmem
      · exact hold.messages message hmem
      · obtain rfl := List.mem_singleton.mp hmem
        refine ⟨hold.invoked callId call ?_, List.mem_append_right _ List.mem_cons_self⟩
        rw [hs]
        exact List.mem_append_right _ List.mem_cons_self
  | prepares => exact ⟨hthreads _ (by simp), h.apart, { hsilent with }⟩
  | @taken message messages lock hs hmessages hlock =>
    have hmessage := hsilent.messages message (hmessages ▸ List.mem_cons_self)
    refine ⟨hthreads _ (by simp), h.apart,
      { hsilent with messages := ?_, found := ?_, stored := nofun }⟩
    · intro message' hmem
      exact hsilent.messages message' (hmessages ▸ List.mem_cons_of_mem _ hmem)
    · rintro message' lock' hfound
      obtain ⟨rfl, rfl⟩ := CompletionThread.found.inj hfound
      exact ⟨hmessage, hsilent.lock _ _ hlock⟩
  | dropped hs hmessages hlock =>
    refine ⟨hthreads _ (by simp), h.apart, { hsilent with messages := ?_ }⟩
    intro message' hmem
    exact hsilent.messages message' (hmessages ▸ List.mem_cons_of_mem _ hmem)
  | @stored message lock hs =>
    obtain ⟨hmessage, hlock⟩ := hsilent.found message lock hs
    refine ⟨hthreads _ (by simp), h.apart,
      { hsilent with result := ?_, found := nofun, stored := ?_ }⟩
    · intro callId result hresult
      rcases update_some hresult with ⟨rfl, heq⟩ | hresult
      · obtain rfl := Option.some.inj heq
        exact ⟨message.call, hmessage⟩
      · exact hsilent.result callId result hresult
    · rintro message' lock' hstored
      obtain ⟨rfl, rfl⟩ := CompletionThread.stored.inj hstored
      exact ⟨hmessage, hlock⟩
  | notified hs =>
    refine ⟨fun i => (hthreads _ (by simp) i).notify _, ?_,
      { hsilent with found := nofun, stored := nofun }⟩
    intro i j call hi hj
    rw [notify_callOf] at hi hj
    exact h.apart i j call hi hj

theorem of_run (h : Runs t s) : Invariant t s := by
  refine h.invariant (P := Invariant) ?_ fun _ _ _ _ hi _ hstep => hi.step hstep
  rintro s rfl
  exact initial

end Invariant

/-- Three threads. -/
def three (first second third : SynchronousCall) (ril : RilInterface) : CallingThreads (Fin 3) :=
  ⟨![first, second, third], ril⟩

section
variable {first second third thread' : SynchronousCall} {ril ril' : RilInterface}

theorem Runs.first_goes (h : Runs t (three first second third ril))
    (hstep : CallStep (fun o => ∃ j, monitor ((three first second third ril).threads j) = some o)
      ril first e thread' ril') :
    Runs (t ++ [e]) (three thread' second third ril') := by
  have hgo : (three first second third ril).goOn 0 thread' ril' =
    three thread' second third ril' := by
    simp only [CallingThreads.goOn, three]
    congr 1
    funext j
    fin_cases j <;> rfl
  exact hgo ▸ Transitions.Run.step h trivial (.call (i := 0) hstep)

theorem Runs.second_goes (h : Runs t (three first second third ril))
    (hstep : CallStep (fun o => ∃ j, monitor ((three first second third ril).threads j) = some o)
      ril second e thread' ril') :
    Runs (t ++ [e]) (three first thread' third ril') := by
  have hgo : (three first second third ril).goOn 1 thread' ril' =
    three first thread' third ril' := by
    simp only [CallingThreads.goOn, three]
    congr 1
    funext j
    fin_cases j <;> rfl
  exact hgo ▸ Transitions.Run.step h trivial (.call (i := 1) hstep)

theorem Runs.third_goes (h : Runs t (three first second third ril))
    (hstep : CallStep (fun o => ∃ j, monitor ((three first second third ril).threads j) = some o)
      ril third e thread' ril') :
    Runs (t ++ [e]) (three first second thread' ril') := by
  have hgo : (three first second third ril).goOn 2 thread' ril' =
    three first second thread' ril' := by
    simp only [CallingThreads.goOn, three]
    congr 1
    funext j
    fin_cases j <;> rfl
  exact hgo ▸ Transitions.Run.step h trivial (.call (i := 2) hstep)

theorem Runs.notified {message : CallComplete} {lock : ℕ}
    (h : Runs t (three first second third ril))
    (hs : ril.mCompletionThread = .stored message lock)
    (hfree : ∀ j callId, (three first second third ril).threads j ≠ .invoked lock callId) :
    Runs (t ++ [.silent]) (three (notify lock first) (notify lock second) (notify lock third)
      { ril with mCompletionThread := .idle }) := by
  have hthreads : (fun j => notify lock ((three first second third ril).threads j)) =
      ![notify lock first, notify lock second, notify lock third] := by
    funext j
    fin_cases j <;> rfl
  have hstep := Transitions.Run.step h trivial (.notified hs hfree)
  rwa [hthreads] at hstep

end

theorem Runs.three_start : Runs [] (three .idle .idle .idle (initial (τ := Fin 3)).ril) := by
  refine .start ?_
  simp only [three, initial, synchronousCalls]
  congr 1
  funext i
  fin_cases i <;> rfl

/-- Two calls that wait at once, the second of which is answered first. -/
theorem two_calls (request : Bytes) (result result' : Option Bytes) :
    ∃ t, ∃ s : CallingThreads (Fin 3), Runs t s ∧ numbers t = [1, 2] ∧
      .returned 0 (.completed result) ∈ t ∧ .returned 1 (.completed result') ∈ t := by
  have h := Runs.three_start
  have h := h.first_goes (.called request)
  have h := h.first_goes (.entered (not_exists.mpr fun j hj => by fin_cases j <;> contradiction))
  have h := h.first_goes .incremented
  have h := h.first_goes .counted
  have h := h.first_goes .left
  have h := h.second_goes (.called request)
  have h := h.second_goes (.entered (not_exists.mpr fun j hj => by fin_cases j <;> contradiction))
  have h := h.second_goes .incremented
  have h := h.second_goes .counted
  have h := h.second_goes .left
  have h : Runs _ (three (.left 0 request 1) (.left 1 request 2) .idle
    ⟨2, ⟨2, 0⟩, 1, fun _ => none, fun _ => none, [], [], .idle, false⟩) := h
  have h := h.first_goes .registered
  have h := h.second_goes .registered
  have h := h.step trivial .prepares
  have h : Runs _ (three (.registered 0 request 1) (.registered 1 request 2) .idle
    ⟨2, ⟨2, 0⟩, 1, Function.update (Function.update (fun _ => none) 1 (some 0)) 2 (some 1),
      fun _ => none, [], [], .idle, true⟩) := h
  have h := h.first_goes (.invoked rfl)
  have h := h.second_goes (.invoked rfl)
  have h := h.first_goes .waits
  have h := h.second_goes .waits
  have h := h.step trivial (@Step.answered _ _ _ [(1, 0)] [] 1 2 result' rfl)
  have h := h.step trivial (@Step.answered _ _ _ [] [] 0 1 result rfl)
  have hlock : Function.update (Function.update (fun _ => none) (1 : Int32) (some 0)) 2 (some 1) 2 =
      some 1 := Function.update_self ..
  have h := h.step trivial (.taken rfl rfl hlock)
  have h := h.step trivial (.stored rfl)
  have h := Runs.notified h rfl fun j callId => by fin_cases j <;> simp [three]
  have h : Runs _ (three (.waiting 0 1) (.woken 1 2) .idle
    ⟨2, ⟨2, 0⟩, 1, Function.update (Function.update (fun _ => none) 1 (some 0)) 2 (some 1),
      Function.update (fun _ => none) 2 (some result'), [], [⟨1, result, 0⟩], .idle, true⟩) := h
  have h := h.second_goes .unregistered
  have h := h.second_goes .fetched
  simp only [Function.update_self] at h
  have h := h.second_goes .completed
  have hlock' : Function.update (Function.update
      (Function.update (fun _ => none) (1 : Int32) (some 0)) 2 (some 1)) 2 none 1 = some 0 := by
    simp
  have h := h.step trivial (.taken rfl rfl hlock')
  have h := h.step trivial (.stored rfl)
  have h := Runs.notified h rfl fun j callId => by fin_cases j <;> simp [three]
  have h := h.first_goes .unregistered
  have h := h.first_goes .fetched
  simp only [Function.update_self] at h
  have h := h.first_goes .completed
  refine ⟨_, _, h, ?_, List.mem_append_right _ List.mem_cons_self, ?_⟩
  · simp only [numbers, numbered, List.nil_append, List.cons_append, List.filterMap_cons,
      List.filterMap_nil, List.map_cons, List.map_nil]
    rfl
  · simp

/-- Two calls that get one number: the last one comes back with the reply to the other, which waits
with no request of its own left. -/
theorem overlapping_calls (request : Bytes) (result : Option Bytes) :
    ∃ t, ∃ s : CallingThreads (Fin 3), Runs t s ∧ numbers t = [1, 2, 2] ∧
      .returned 2 (.completed result) ∈ t ∧ .answered 2 result ∉ t ∧
      s.threads 1 = .waiting 1 2 ∧ ∀ callId, (callId, 1) ∉ s.ril.invoked := by
  have h := Runs.three_start
  have h := h.first_goes (.called request)
  have h := h.second_goes (.called request)
  have h := h.first_goes (.entered (not_exists.mpr fun j hj => by fin_cases j <;> contradiction))
  have h := h.first_goes .incremented
  have h := h.first_goes .counted
  have h := h.first_goes .left
  have h := h.third_goes (.called request)
  have h : Runs _ (three (.left 0 request 1) (.entering 1 request ⟨0, 1⟩)
    (.entering 2 request ⟨1, 0⟩) ⟨3, ⟨1, 0⟩, 1, fun _ => none, fun _ => none, [], [], .idle, false⟩) := h
  -- the second has the monitor of the first object, and the third that of the object in its place
  have h := h.second_goes (.entered (not_exists.mpr fun j hj => by fin_cases j <;> contradiction))
  have h := h.third_goes (.entered (not_exists.mpr fun j hj => by
    fin_cases j <;> simp [three, monitor] at hj))
  have h := h.second_goes .incremented
  have h := h.third_goes .incremented
  have h := h.second_goes .counted
  have h := h.third_goes .counted
  have h := h.second_goes .left
  have h := h.third_goes .left
  have h := h.second_goes .registered
  have h := h.third_goes .registered
  have h := h.step trivial .prepares
  have h : Runs _ (three (.left 0 request 1) (.registered 1 request 2) (.registered 2 request 2)
    ⟨3, ⟨2, 0⟩, 1, Function.update (Function.update (fun _ => none) 2 (some 1)) 2 (some 2),
      fun _ => none, [], [], .idle, true⟩) := h
  rw [Function.update_idem] at h
  have h := h.second_goes (.invoked rfl)
  have h := h.third_goes (.invoked rfl)
  have h := h.second_goes .waits
  have h := h.third_goes .waits
  have h := h.step trivial (@Step.answered _ _ _ [] [(2, 2)] 1 2 result rfl)
  have hlock : Function.update (fun _ => none) (2 : Int32) (some 2) 2 = some 2 :=
    Function.update_self ..
  have h := h.step trivial (.taken rfl rfl hlock)
  have h := h.step trivial (.stored rfl)
  have h := Runs.notified h rfl fun j callId => by fin_cases j <;> simp [three]
  have h : Runs _ (three (.left 0 request 1) (.waiting 1 2) (.woken 2 2)
    ⟨3, ⟨2, 0⟩, 1, Function.update (fun _ => none) 2 (some 2),
      Function.update (fun _ => none) 2 (some result), [(2, 2)], [], .idle, true⟩) := h
  have h := h.third_goes .unregistered
  have h := h.third_goes .fetched
  simp only [Function.update_self] at h
  have h := h.third_goes .completed
  refine ⟨_, _, h, ?_, List.mem_append_right _ List.mem_cons_self, ?_, rfl, ?_⟩
  · simp only [numbers, numbered, List.nil_append, List.cons_append, List.filterMap_cons,
      List.filterMap_nil, List.map_cons, List.map_nil]
    rfl
  · simp
  · simp [three]

end RilInterface
end FreeRil
