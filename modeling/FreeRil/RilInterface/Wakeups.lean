import FreeRil.RilInterface.Numbers

/-! Calls whose numbers are their own: each is woken by the reply to its own request, and none waits
for a reply that has been handed on. -/
namespace FreeRil
namespace SynchronousCall

/-- The lock of the call is in `mLockMap`, and it is not woken yet. -/
def locked : SynchronousCall → Option (ℕ × Int32)
  | .registered call _ callId | .invoked call callId | .waiting call callId => some (call, callId)
  | _ => none

/-- The request of the call has been made, and it is not woken yet. -/
def awaits : SynchronousCall → Option (ℕ × Int32)
  | .invoked call callId | .waiting call callId => some (call, callId)
  | _ => none

/-- The result is not fetched yet. -/
def unfetched : SynchronousCall → Option (ℕ × Int32)
  | .incremented call _ _ callId | .leaving call _ _ callId | .left call _ callId
  | .registered call _ callId | .invoked call callId | .waiting call callId | .woken call callId
  | .unregistered call callId => some (call, callId)
  | _ => none

/-- The call has been woken, and will fetch its result. -/
def roused : SynchronousCall → Option (ℕ × Int32)
  | .woken call callId | .unregistered call callId => some (call, callId)
  | _ => none

/-- The call has got no result. -/
def resultless : SynchronousCall → Option ℕ
  | .fetched call _ none | .throwing call => some call
  | _ => none

end SynchronousCall

namespace RilInterface
open SynchronousCall

variable {τ : Type} {t : List Event} {e : Event}

/-- The request of a call has not been completed yet, or the news of it is on its way. -/
def Pending (s : RilInterface) (call : ℕ) (callId : Int32) : Prop :=
  (callId, call) ∈ s.invoked ∨
    (∃ message ∈ s.messages, message.call = call ∧ message.callId = callId) ∨
    ∃ message, (s.mCompletionThread = .found message call ∨ s.mCompletionThread =
      .stored message call) ∧
      message.call = call ∧ message.callId = callId

/-- Something may be to blame for a call that has got nothing. -/
def Excused (t : List Event) (call : ℕ) : Prop := .spurious call ∈ t ∨ .unprepared call ∈ t

theorem Excused.append {call : ℕ} (h : Excused t call) : Excused (t ++ [e]) call :=
  h.imp (List.mem_append_left _) (List.mem_append_left _)

/-- What holds of a thread as long as the numbers are different. -/
structure Attended (t : List Event) (s : RilInterface) (thread : SynchronousCall) : Prop where
  locked : ∀ call callId, thread.locked = some (call, callId) → s.mLockMap callId = some call
  pending : ∀ call callId, thread.awaits = some (call, callId) → Pending s call callId
  stored : ∀ call callId message, thread.unfetched = some (call, callId) →
    s.mCompletionThread = .stored message call → s.mResultMap callId ≠ none
  roused : ∀ call callId, thread.roused = some (call, callId) →
    s.mResultMap callId ≠ none ∨ .spurious call ∈ t
  resultless : ∀ call, thread.resultless = some call → Excused t call

theorem Pending.mono {s s' : RilInterface} {call : ℕ} {callId : Int32} (h : Pending s call callId)
    (hinvoked : s.invoked ⊆ s'.invoked) (hmessages : s.messages ⊆ s'.messages)
    (hthread : s'.mCompletionThread = s.mCompletionThread) : Pending s' call callId := by
  rcases h with h | ⟨message, hmem, h⟩ | h
  · exact .inl (hinvoked h)
  · exact .inr (.inl ⟨message, hmessages hmem, h⟩)
  · rw [← hthread] at h
    exact .inr (.inr h)

theorem numberOf_of_locked {thread : SynchronousCall} {x : ℕ × Int32} (h : thread.locked = some x) :
    thread.numberOf = some x := by
  cases thread <;> first | exact h | contradiction

theorem numberOf_of_unfetched {thread : SynchronousCall} {x : ℕ × Int32}
    (h : thread.unfetched = some x) :
    thread.numberOf = some x := by
  cases thread <;> first | exact h | contradiction

theorem unfetched_of_roused {thread : SynchronousCall} {x : ℕ × Int32}
    (h : thread.roused = some x) :
    thread.unfetched = some x := by
  cases thread <;> first | exact h | contradiction

/-- It stays so for a thread whose number nothing is done to. -/
theorem Attended.frame {s s' : RilInterface} {thread : SynchronousCall} (h : Attended t s thread)
    (hmaps : ∀ call callId, thread.numberOf = some (call, callId) →
      s'.mLockMap callId = s.mLockMap callId ∧ s'.mResultMap callId = s.mResultMap callId)
    (hinvoked : s.invoked ⊆ s'.invoked) (hmessages : s.messages ⊆ s'.messages)
    (hthread : s'.mCompletionThread = s.mCompletionThread) : Attended (t ++ [e]) s' thread where
  locked call callId hcall := by
    rw [(hmaps call callId (numberOf_of_locked hcall)).1]
    exact h.locked call callId hcall
  pending call callId hcall := (h.pending call callId hcall).mono hinvoked hmessages hthread
  stored call callId message hcall hstored := by
    rw [(hmaps call callId (numberOf_of_unfetched hcall)).2]
    exact h.stored call callId message hcall (hthread ▸ hstored)
  roused call callId hcall := by
    rw [(hmaps call callId (numberOf_of_unfetched (unfetched_of_roused hcall))).2]
    exact (h.roused call callId hcall).imp_right (List.mem_append_left _)
  resultless call hcall := (h.resultless call hcall).append

/-- A step of a thread does nothing to other numbers than its own. -/
theorem CallStep.frame {taken : BoxedInteger → Prop} {s s' : RilInterface}
    {thread thread' : SynchronousCall} (h : CallStep taken s thread e thread' s') :
    (∀ callId, (∀ call, thread.numberOf ≠ some (call, callId)) →
      s'.mLockMap callId = s.mLockMap callId ∧ s'.mResultMap callId = s.mResultMap callId) ∧
    s.invoked ⊆ s'.invoked ∧ s'.messages = s.messages ∧ s'.mCompletionThread =
      s.mCompletionThread := by
  cases h with
  | registered | fails | unregistered =>
    refine ⟨fun callId hcall => ⟨?_, rfl⟩, List.Subset.refl _, rfl, rfl⟩
    refine Function.update_of_ne ?_ _ _
    rintro rfl
    exact hcall _ rfl
  | nothing | completed =>
    refine ⟨fun callId hcall => ⟨rfl, ?_⟩, List.Subset.refl _, rfl, rfl⟩
    refine Function.update_of_ne ?_ _ _
    rintro rfl
    exact hcall _ rfl
  | invoked => exact ⟨fun _ _ => ⟨rfl, rfl⟩, List.subset_append_left _ _, rfl, rfl⟩
  | _ => exact ⟨fun _ _ => ⟨rfl, rfl⟩, List.Subset.refl _, rfl, rfl⟩

theorem attended_of_none {s : RilInterface} {thread : SynchronousCall}
    (hlocked : thread.locked = none)
    (hawaits : thread.awaits = none) (hunfetched : thread.unfetched = none)
    (hroused : thread.roused = none)
    (hresultless : thread.resultless = none) : Attended t s thread := by
  constructor <;> simp [*]

/-- A thread that goes on is attended to as before. -/
theorem CallStep.attended {taken : BoxedInteger → Prop} {s s' : RilInterface}
    {thread thread' : SynchronousCall} (h : CallStep taken s thread e thread' s')
    (hs : Labelled t s)
    (hthread : ThreadLabelled t s.calls thread) (hold : Attended t s thread) :
    Attended (t ++ [e]) s' thread' := by
  have hroused : ∀ call callId, thread.roused = some (call, callId) →
      s.mResultMap callId ≠ none ∨ Event.spurious call ∈ t ++ [e] := fun call callId hcall =>
    (hold.roused call callId hcall).imp_right (List.mem_append_left _)
  cases h with
  | called | entered | refused | interrupted | fails | completed | throws =>
    exact attended_of_none rfl rfl rfl rfl rfl
  | @incremented call =>
    refine ⟨nofun, nofun, ?_, nofun, nofun⟩
    rintro call' callId message hcall hstored
    obtain ⟨rfl, -⟩ := Prod.mk.inj (Option.some.inj hcall)
    exact absurd (hs.stored message _ hstored).2 (hthread.unnumbered _ rfl _)
  | counted | left => exact ⟨nofun, nofun, hold.stored, nofun, nofun⟩
  | registered =>
    refine ⟨?_, nofun, hold.stored, nofun, nofun⟩
    rintro call callId hcall
    obtain ⟨rfl, rfl⟩ := Prod.mk.inj (Option.some.inj hcall)
    exact Function.update_self ..
  | unprepared =>
    refine ⟨nofun, nofun, nofun, nofun, ?_⟩
    rintro call hcall
    obtain rfl := Option.some.inj hcall
    exact .inr (List.mem_append_right _ List.mem_cons_self)
  | invoked =>
    refine ⟨hold.locked, ?_, hold.stored, nofun, nofun⟩
    rintro call callId hcall
    obtain ⟨rfl, rfl⟩ := Prod.mk.inj (Option.some.inj hcall)
    exact .inl (List.mem_append_right _ List.mem_cons_self)
  | waits => exact ⟨hold.locked, hold.pending, hold.stored, nofun, nofun⟩
  | spurious =>
    refine ⟨nofun, nofun, hold.stored, ?_, nofun⟩
    rintro call callId hcall
    obtain ⟨rfl, rfl⟩ := Prod.mk.inj (Option.some.inj hcall)
    exact .inr (List.mem_append_right _ List.mem_cons_self)
  | unregistered => exact ⟨nofun, nofun, hold.stored, hroused, nofun⟩
  | @fetched call callId =>
    refine ⟨nofun, nofun, nofun, nofun, ?_⟩
    rintro call' hcall
    cases hresult : s.mResultMap callId with
    | some result =>
      rw [hresult] at hcall
      contradiction
    | none =>
      rw [hresult] at hcall
      obtain rfl := Option.some.inj hcall
      exact .inl ((hroused _ callId rfl).resolve_left fun h => h hresult)
  | nothing =>
    exact ⟨nofun, nofun, nofun, nofun, fun call hcall => (hold.resultless call hcall).append⟩

/-- No two calls have one number. -/
theorem own_number (hdistinct : (numbers t).Nodup) {call call' : ℕ} {callId : Int32}
    (h : Event.incremented call callId ∈ t) (h' : Event.incremented call' callId ∈ t) :
    call = call' := by
  have hmem : (call, callId) ∈ numbered t := mem_numbered.mpr h
  have hmem' : (call', callId) ∈ numbered t := mem_numbered.mpr h'
  exact congrArg Prod.fst (List.inj_on_of_nodup_map hdistinct hmem hmem' rfl)

theorem numberOf_callOf {thread : SynchronousCall} {call : ℕ} {callId : Int32}
    (h : thread.numberOf = some (call, callId)) : thread.callOf = some call := by
  cases thread <;> first | contradiction | exact congrArg (Option.map Prod.fst) h

theorem locked_of_awaits {thread : SynchronousCall} {x : ℕ × Int32} (h : thread.awaits = some x) :
    thread.locked = some x ∧ thread.unfetched = some x := by
  cases thread <;> first | exact ⟨h, h⟩ | contradiction

/-- What holds of all threads, and of the calls that have ended. -/
structure Answering (t : List Event) (s : CallingThreads τ) : Prop where
  threads : ∀ i, Attended t s.ril (s.threads i)
  returned : ∀ call, .returned call .nullPointer ∈ t → Excused t call

namespace Answering
variable {s s' : CallingThreads τ}

theorem initial : Answering (τ := τ) [] initial where
  threads _ := attended_of_none rfl rfl rfl rfl rfl
  returned _ h := nomatch h

/-- An event that is not the end of a call. -/
theorem returned_append (h : Answering t s) (he : ∀ call, e ≠ .returned call .nullPointer)
    (call : ℕ) (hmem : .returned call .nullPointer ∈ t ++ [e]) : Excused (t ++ [e]) call := by
  rcases List.mem_append.mp hmem with hmem | hmem
  · exact (h.returned call hmem).append
  · exact absurd (List.mem_singleton.mp hmem).symm (he call)

theorem call [DecidableEq τ] (h : Answering t s) (hi : Invariant t s)
    (hdistinct : (numbers t).Nodup) {i : τ}
    {thread : SynchronousCall} {ril : RilInterface} {taken : BoxedInteger → Prop}
    (hstep : CallStep taken s.ril (s.threads i) e thread ril) :
    Answering (t ++ [e]) (s.goOn i thread ril) where
  threads j := by
    by_cases hj : j = i
    · subst hj
      rw [CallingThreads.goOn_self]
      exact hstep.attended hi.shared (hi.threads j) (h.threads j)
    · rw [s.goOn_of_ne hj]
      obtain ⟨hmaps, hinvoked, hmessages, hthread⟩ := hstep.frame
      refine (h.threads j).frame ?_ hinvoked (fun _ h => hmessages ▸ h) hthread
      intro call callId hnumber
      refine hmaps callId fun call' hnumber' => hj ?_
      have hown := own_number hdistinct ((hi.threads j).number call callId hnumber)
        ((hi.threads i).number call' callId hnumber')
      rw [← hown] at hnumber'
      exact hi.apart j i call (numberOf_callOf hnumber) (numberOf_callOf hnumber')
  returned call hmem := by
    rcases List.mem_append.mp hmem with hmem | hmem
    · exact (h.returned call hmem).append
    · obtain rfl := List.mem_singleton.mp hmem
      generalize hthread : s.threads i = old at hstep
      have hold := (h.threads i).resultless call
      cases hstep
      rw [hthread] at hold
      exact (hold rfl).append

/-- The news of a completion gets to the lock of its call. -/
theorem step [DecidableEq τ] (h : Answering t s) (hi : Invariant t s)
    (hdistinct : (numbers t).Nodup)
    (hstep : Step s e s') : Answering (t ++ [e]) s' := by
  have hroused : ∀ i call callId, (s.threads i).roused = some (call, callId) →
      s.ril.mResultMap callId ≠ none ∨ Event.spurious call ∈ t ++ [e] := fun i call callId hcall =>
    ((h.threads i).roused call callId hcall).imp_right (List.mem_append_left _)
  have hresultless : ∀ i call, (s.threads i).resultless = some call → Excused (t ++ [e]) call :=
    fun i call hcall => ((h.threads i).resultless call hcall).append
  cases hstep with
  | call hcall => exact h.call hi hdistinct hcall
  | @answered before after call' callId' result hs =>
    refine ⟨fun i => ?_, h.returned_append (by simp)⟩
    have hold := h.threads i
    refine ⟨hold.locked, ?_, hold.stored, hroused i, hresultless i⟩
    intro call callId hcall
    rcases hold.pending call callId hcall with hmem | ⟨message, hmem, hmessage⟩ | hthread
    · rw [hs, List.mem_append, List.mem_cons] at hmem
      rcases hmem with hmem | heq | hmem
      · exact .inl (List.mem_append_left _ hmem)
      · obtain ⟨rfl, rfl⟩ := Prod.mk.inj heq
        exact .inr (.inl ⟨_, List.mem_append_right _ List.mem_cons_self, rfl, rfl⟩)
      · exact .inl (List.mem_append_right _ hmem)
    · exact .inr (.inl ⟨message, List.mem_append_left _ hmem, hmessage⟩)
    · exact .inr (.inr hthread)
  | prepares =>
    exact ⟨fun i => (h.threads i).frame (fun _ _ _ => ⟨rfl, rfl⟩) (List.Subset.refl _)
      (List.Subset.refl _) rfl, h.returned_append (by simp)⟩
  | @taken message messages lock hs hmessages hlock =>
    refine ⟨fun i => ?_, h.returned_append (by simp)⟩
    have hold := h.threads i
    refine ⟨hold.locked, ?_, nofun, hroused i, hresultless i⟩
    intro call callId hcall
    rcases hold.pending call callId hcall with hmem | ⟨message', hmem, hcall', hcallId⟩ |
      ⟨message', hthread, -⟩
    · exact .inl hmem
    · rw [hmessages] at hmem
      rcases List.mem_cons.mp hmem with rfl | hmem
      · have hown := hold.locked call callId (locked_of_awaits hcall).1
        rw [hcallId, hown] at hlock
        obtain rfl := Option.some.inj hlock
        exact .inr (.inr ⟨message', .inl rfl, hcall', hcallId⟩)
      · exact .inr (.inl ⟨message', hmem, hcall', hcallId⟩)
    · simp [hs] at hthread
  | @dropped message messages hs hmessages hlock =>
    refine ⟨fun i => ?_, h.returned_append (by simp)⟩
    have hold := h.threads i
    refine ⟨hold.locked, ?_, hold.stored, hroused i, hresultless i⟩
    intro call callId hcall
    rcases hold.pending call callId hcall with hmem | ⟨message', hmem, hcall', hcallId⟩ | hthread
    · exact .inl hmem
    · rw [hmessages] at hmem
      rcases List.mem_cons.mp hmem with rfl | hmem
      · have hown := hold.locked call callId (locked_of_awaits hcall).1
        rw [hcallId, hown] at hlock
        contradiction
      · exact .inr (.inl ⟨message', hmem, hcall', hcallId⟩)
    · exact .inr (.inr hthread)
  | @stored message lock hs =>
    refine ⟨fun i => ?_, h.returned_append (by simp)⟩
    have hold := h.threads i
    have hstored : ∀ callId, s.ril.mResultMap callId ≠ none →
        Function.update s.ril.mResultMap message.callId (some message.result) callId ≠ none := by
      intro callId hresult
      by_cases heq : callId = message.callId
      · subst heq
        simp
      · rwa [Function.update_of_ne heq]
    refine ⟨hold.locked, ?_, ?_, ?_, hresultless i⟩
    · intro call callId hcall
      rcases hold.pending call callId hcall with hmem | hmem | ⟨message', hthread, hmessage⟩
      · exact .inl hmem
      · exact .inr (.inl hmem)
      · simp only [hs, CompletionThread.found.injEq, reduceCtorEq, or_false] at hthread
        obtain ⟨rfl, rfl⟩ := hthread
        exact .inr (.inr ⟨message, .inr rfl, hmessage⟩)
    · intro call callId message' hcall heq
      obtain ⟨rfl, rfl⟩ := CompletionThread.stored.inj heq
      have hnumber := (hi.threads i).number _ _ (numberOf_of_unfetched hcall)
      obtain rfl := hi.shared.functional _ _ _ (hi.shared.found _ _ hs).2 hnumber
      simp
    · intro call callId hcall
      exact (hroused i call callId hcall).imp_left (hstored callId)
  | @notified message lock hs hfree =>
    refine ⟨fun i => ?_, h.returned_append (by simp)⟩
    have hold := h.threads i
    have hpending : ∀ call callId, call ≠ lock → (s.threads i).awaits = some (call, callId) →
        Pending { s.ril with mCompletionThread := .idle } call callId := by
      intro call callId hne hcall
      rcases hold.pending call callId hcall with hmem | hmem | ⟨message', hthread, -⟩
      · exact .inl hmem
      · exact .inr (.inl hmem)
      · simp only [hs, CompletionThread.stored.injEq, reduceCtorEq, false_or] at hthread
        exact absurd hthread.2.symm hne
    have hkept : (∀ callId, (s.threads i).awaits ≠ some (lock, callId)) →
        Attended (t ++ [.silent]) { s.ril with mCompletionThread := .idle } (s.threads i) := by
      intro hother
      refine ⟨hold.locked, ?_, nofun, hroused i, hresultless i⟩
      rintro call callId hcall
      refine hpending call callId ?_ hcall
      rintro rfl
      exact hother callId hcall
    change Attended _ _ (notify lock (s.threads i))
    cases hthread : s.threads i with
    | waiting call callId =>
      rw [hthread] at hkept hold
      simp only [notify]
      split_ifs with hlock
      · subst hlock
        refine ⟨by simp [locked], by simp [awaits], by simp, ?_, by simp [resultless]⟩
        rintro call' callId' hcall
        exact .inl (hold.stored call' callId' message hcall (by
          obtain ⟨rfl, -⟩ := Prod.mk.inj (Option.some.inj hcall)
          exact hs))
      · refine hkept fun callId' hcall => hlock ?_
        exact (Prod.mk.inj (Option.some.inj hcall)).1
    | invoked call callId =>
      rw [hthread] at hkept
      refine hkept fun callId' hcall => ?_
      obtain ⟨rfl, rfl⟩ := Prod.mk.inj (Option.some.inj hcall)
      exact hfree i callId hthread
    | _ =>
      rw [hthread] at hkept
      exact hkept (by simp [SynchronousCall.awaits])

theorem of_run [DecidableEq τ] (h : Runs t s) (hdistinct : (numbers t).Nodup) : Answering t s := by
  induction h with
  | start hinit =>
    obtain rfl := hinit
    exact initial
  | step run _ hstep ih =>
    rw [numbers, numbered, List.filterMap_append, List.map_append] at hdistinct
    have hpast := (List.nodup_append.mp hdistinct).1
    exact (ih hpast).step (Invariant.of_run run) hpast hstep

end Answering

variable [DecidableEq τ] {s : CallingThreads τ}

/-- As long as no two calls get one number, a call comes back with what its own request has been
completed with, it throws only where it was woken by nobody or there was no handler yet, and one
that waits is still to be notified. -/
theorem replies_own (h : Runs t s) (hdistinct : (numbers t).Nodup) :
    (∀ call result, .returned call (.completed result) ∈ t → .answered call result ∈ t) ∧
    (∀ call, .returned call .nullPointer ∈ t → .spurious call ∈ t ∨ .unprepared call ∈ t) ∧
    (∀ i call callId, s.threads i = .waiting call callId → Pending s.ril call callId) := by
  have hi := Invariant.of_run h
  have ha := Answering.of_run h hdistinct
  refine ⟨?_, ha.returned, ?_⟩
  · intro call result hreturned
    obtain ⟨callId, hnumber, call', hnumber', hanswered⟩ := hi.shared.returned call result hreturned
    rwa [own_number hdistinct hnumber hnumber']
  · intro i call callId hthread
    exact (ha.threads i).pending call callId (by rw [hthread]; rfl)

/-- Each of two calls that wait at once comes back with the reply to its own request. -/
theorem two_calls_replied : ∃ t, ∃ s : CallingThreads (Fin 3), Runs t s ∧
    (.returned 0 (.completed (some [7])) ∈ t ∧ .answered 0 (some [7]) ∈ t) ∧
    .returned 1 (.completed (some [8])) ∈ t ∧ .answered 1 (some [8]) ∈ t := by
  obtain ⟨t, s, h, hnumbers, hfirst, hsecond⟩ := two_calls [] (some [7]) (some [8])
  have hown := (replies_own h (by simp [hnumbers])).1
  exact ⟨t, s, h, ⟨hfirst, hown 0 _ hfirst⟩, hsecond, hown 1 _ hsecond⟩

end RilInterface
end FreeRil
