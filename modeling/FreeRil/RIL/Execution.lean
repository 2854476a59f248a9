import FreeRil.RIL.Threads

/-! Calls to `execute` from several threads at once: each has a place of its own for the reply, and
all of them wait on one semaphore. -/
namespace FreeRil
open Messages RIL Program RequestHandler

namespace RIL

/-- A thread of the framework, with the number of its call to `execute`. -/
inductive Caller
  | idle
  /-- It is to take the semaphore. -/
  | waiting (call : ℕ) (message : Message) (next : Rest)
  /-- It has taken the semaphore, and is to lock the mutex. -/
  | woken (call : ℕ) (message : Message) (next : Rest)
  /-- It has got a pointer that nothing has stored. -/
  | lost

structure Callers (τ : Type) where
  handler : RequestHandler
  submitted : List Completion
  callers : τ → Caller
  /-- The messages of all calls. -/
  messages : List Message
  /-- `ExecutionData::reply` of a call. -/
  replies : ℕ → Option Message
  m_executeSemaphore : ℕ

/-- What is done for a request ends with a further call or without one. -/
inductive Execution (τ : Type)
  | worker (a : Action)
  | begun (caller : τ) (request : Request) (further : Option ℕ)
  | answered (call : ℕ) (reply : Message)
  | taken (caller : τ)
  | returned (caller : τ) (call : ℕ) (reply : Option Message) (further : Option ℕ)

/-- Where a thread stops: a further call gets the number `n`. -/
inductive Stops (n : ℕ) : Thread → Caller → List Message → Option ℕ → Prop
  | ends : Stops n .idle .idle [] none
  | waits {message : Message} {next : Rest} :
    Stops n (.waiting message next) (.waiting n message next) [message] (some n)

section
variable {τ : Type}

namespace Callers
variable [DecidableEq τ]

/-- A thread has done its part and stopped. -/
def goOn (s : Callers τ) (i : τ) (caller : Caller) (messages : List Message)
    (handler : RequestHandler)
    (submitted : List Completion) : Callers τ :=
  ⟨handler, submitted, Function.update s.callers i caller, s.messages ++ messages, s.replies,
    s.m_executeSemaphore⟩

/-- `onExecutionComplete`. -/
def onExecutionComplete (s : Callers τ) (call : ℕ) (reply : Message) : Callers τ :=
  { s with
    replies := Function.update s.replies call (some reply)
    m_executeSemaphore := s.m_executeSemaphore + 1 }

end Callers

/-- A step of one of the threads; each has the mutex for the whole of its part. -/
inductive ExecutionStep [DecidableEq τ] (L : ParcelLibrary) (s : Callers τ) :
    Execution τ → Callers τ → Prop
  | worker {a : Action} {handler : RequestHandler} {submitted : List Completion}
    (ha : ∀ request, a ≠ .begun request)
    (h : Step L ⟨s.handler, .idle, s.submitted⟩ a ⟨handler, .idle, submitted⟩) :
    ExecutionStep L s (.worker a) { s with handler := handler, submitted := submitted }
  | begun {i : τ} {request : Request} {handler : RequestHandler} {thread : Thread}
    {submitted : List Completion} {caller : Caller} {messages : List Message} {further : Option ℕ}
    (hi : s.callers i = .idle)
    (h : Step L ⟨s.handler, .idle, s.submitted⟩ (.begun request) ⟨handler, thread, submitted⟩)
    (hstops : Stops s.messages.length thread caller messages further) :
    ExecutionStep L s (.begun i request further) (s.goOn i caller messages handler submitted)
  | answered {call : ℕ} {reply : Message} (hcall : call < s.messages.length)
    (hnone : s.replies call = none) :
    ExecutionStep L s (.answered call reply) (s.onExecutionComplete call reply)
  | taken {i : τ} {call : ℕ} {message : Message} {next : Rest} {n : ℕ}
    (hi : s.callers i = .waiting call message next) (hn : s.m_executeSemaphore = n + 1) :
    ExecutionStep L s (.taken i) { s with
      callers := Function.update s.callers i (.woken call message next)
      m_executeSemaphore := n }
  | returned {i : τ} {call : ℕ} {message reply : Message} {next : Rest} {handler : RequestHandler}
    {thread : Thread} {submitted : List Completion} {caller : Caller} {messages : List Message}
    {further : Option ℕ} (hi : s.callers i = .woken call message next)
    (hreply : s.replies call = some reply)
    (h : Step L ⟨s.handler, .replied message reply next, s.submitted⟩ .resumed
      ⟨handler, thread, submitted⟩)
    (hstops : Stops s.messages.length thread caller messages further) :
    ExecutionStep L s (.returned i call (some reply) further)
      (s.goOn i caller messages handler submitted)
  | lost {i : τ} {call : ℕ} {message : Message} {next : Rest}
    (hi : s.callers i = .woken call message next) (hreply : s.replies call = none) :
    ExecutionStep L s (.returned i call none none)
      { s with callers := Function.update s.callers i .lost }

/-- Any number of threads, all of them idle at first. -/
def executions (τ : Type) [DecidableEq τ] (L : ParcelLibrary) :
    Transitions (Callers τ) (Execution τ) where
  init s := s = ⟨initial, [], fun _ => .idle, [], fun _ => none, 0⟩
  step := ExecutionStep L

/-- The thread makes the call. -/
def Enters (i : τ) (call : ℕ) : Execution τ → Prop
  | .begun i' _ further | .returned i' _ _ further => i' = i ∧ further = some call
  | _ => False

/-- Every return is that of a call of the same thread, comes after the message of the call has been
completed, and is with what it has been completed with. -/
def OwnReplies (t : List (Execution τ)) : Prop :=
  ∀ before i call r further, before ++ [.returned i call r further] <+: t →
    (∃ e ∈ before, Enters i call e) ∧ (∀ j, ∀ e ∈ t, Enters j call e → j = i) ∧
    ∃ reply, r = some reply ∧ .answered call reply ∈ before ∧
      ∀ reply', .answered call reply' ∈ t → reply' = reply

/-- A thread takes the semaphore only when its own message has been completed. -/
def OwnTurn (_ : List (Execution τ)) (s : Callers τ) : Execution τ → Prop
  | .taken i =>
    ∀ call message next, s.callers i = .waiting call message next → s.replies call ≠ none
  | _ => True

/-- The call that a thread is in. -/
def Caller.call? : Caller → Option ℕ
  | .waiting call _ _ | .woken call _ _ => some call
  | _ => none

/-- A thread that has taken the semaphore has got its reply. -/
structure Paired (t : List (Execution τ)) (s : Callers τ) : Prop where
  replies : ∀ call reply, .answered call reply ∈ t ↔ s.replies call = some reply
  answered : ∀ call, s.replies call ≠ none → call < s.messages.length
  entered : ∀ i, ∀ e ∈ t, ∀ call, Enters i call e → call < s.messages.length
  unique : ∀ i j call, ∀ e ∈ t, ∀ e' ∈ t, Enters i call e → Enters j call e' → i = j
  calls : ∀ i call, (s.callers i).call? = some call → ∃ e ∈ t, Enters i call e
  woken : ∀ i call message next, s.callers i = .woken call message next → s.replies call ≠ none
  returned : ∀ before i call r further, before ++ [.returned i call r further] <+: t →
    (∃ e ∈ before, Enters i call e) ∧ ∃ reply, r = some reply ∧ .answered call reply ∈ before

variable {L : ParcelLibrary} {t : List (Execution τ)} {s s' : Callers τ} {e : Execution τ} {i : τ}

theorem Paired.ownReplies (h : Paired t s) : OwnReplies t := by
  intro before i call r further hprefix
  obtain ⟨hentered, reply, hr, hreply⟩ := h.returned before i call r further hprefix
  have hbefore : ∀ e ∈ before, e ∈ t := fun e he => hprefix.subset (List.mem_append_left _ he)
  obtain ⟨e, he, henters⟩ := hentered
  refine ⟨⟨e, he, henters⟩, ?_, reply, hr, hreply, ?_⟩
  · exact fun j e' he' henters' => h.unique j i call e' he' e (hbefore e he) henters' henters
  · intro reply' hreply'
    have hfirst := (h.replies call reply).mp (hbefore _ hreply)
    have hlater := (h.replies call reply').mp hreply'
    exact Option.some.inj (hlater.symm.trans hfirst)

/-- A prefix that ends with a return is an earlier one, or the last step is the return. -/
theorem Paired.returned_append (h : Paired t s)
    (he : ∀ i call r further, e = .returned i call r further →
      (∃ e ∈ t, Enters i call e) ∧ ∃ reply, r = some reply ∧ .answered call reply ∈ t) :
    ∀ before i call r further, before ++ [.returned i call r further] <+: t ++ [e] →
      (∃ e ∈ before, Enters i call e) ∧
        ∃ reply, r = some reply ∧ .answered call reply ∈ before := by
  intro before i call r further hprefix
  rcases List.prefix_concat_iff.mp hprefix with heq | hearlier
  · obtain ⟨rfl, hlast⟩ := List.append_inj' heq rfl
    exact he i call r further (List.singleton_inj.mp hlast).symm
  · exact h.returned before i call r further hearlier

/-- A step of a thread that neither makes a call nor completes a message. -/
theorem Paired.frame (h : Paired t s) (henters : ∀ i call, ¬ Enters i call e)
    (hanswered : ∀ call reply, e ≠ .answered call reply)
    (hreturned : ∀ i call r further, e ≠ .returned i call r further)
    (hmessages : s'.messages = s.messages) (hreplies : s'.replies = s.replies)
    (hcalls : ∀ i, (s'.callers i).call? = (s.callers i).call?)
    (hwoken : ∀ i call message next, s'.callers i = .woken call message next →
      s.replies call ≠ none) : Paired (t ++ [e]) s' where
  replies call reply := by
    rw [hreplies, ← h.replies call reply, List.mem_append, List.mem_singleton]
    simp [(hanswered call reply).symm]
  answered := by
    rw [hreplies, hmessages]
    exact h.answered
  entered i e' he' call hcall := by
    rw [hmessages]
    rcases List.mem_append.mp he' with he' | he'
    · exact h.entered i e' he' call hcall
    · rw [List.mem_singleton.mp he'] at hcall
      exact absurd hcall (henters i call)
  unique i j call e₁ he₁ e₂ he₂ h₁ h₂ := by
    have hold : ∀ k, ∀ e' ∈ t ++ [e], Enters k call e' → e' ∈ t := by
      intro k e' he' hk
      rcases List.mem_append.mp he' with he' | he'
      · exact he'
      · rw [List.mem_singleton.mp he'] at hk
        exact absurd hk (henters k call)
    exact h.unique i j call e₁ (hold i e₁ he₁ h₁) e₂ (hold j e₂ he₂ h₂) h₁ h₂
  calls i call hcall := by
    rw [hcalls i] at hcall
    obtain ⟨e', he', henters'⟩ := h.calls i call hcall
    exact ⟨e', List.mem_append_left _ he', henters'⟩
  woken := by
    rw [hreplies]
    exact hwoken
  returned := h.returned_append fun i call r further he => absurd he (hreturned i call r further)

/-- A message is completed. -/
theorem Paired.complete (h : Paired t s) {call : ℕ} {reply : Message}
    (hcall : call < s.messages.length) (hnone : s.replies call = none) :
    Paired (t ++ [.answered call reply]) (s.onExecutionComplete call reply) := by
  have hkept : ∀ call', s.replies call' ≠ none →
      Function.update s.replies call (some reply) call' ≠ none := by
    intro call' hcall'
    by_cases heq : call' = call
    · simp [heq]
    · rwa [Function.update_of_ne heq]
  have hold : ∀ {j call' e}, e ∈ t ++ [.answered call reply] → Enters j call' e → e ∈ t := by
    intro j call' e he hj
    rcases List.mem_append.mp he with he | he
    · exact he
    · rw [List.mem_singleton.mp he] at hj
      exact hj.elim
  constructor
  · intro call' reply'
    rw [List.mem_append, List.mem_singleton, h.replies]
    by_cases heq : call' = call
    · subst heq
      simp [Callers.onExecutionComplete, hnone, eq_comm]
    · simp [Callers.onExecutionComplete, heq]
  · intro call' hcall'
    by_cases heq : call' = call
    · rwa [heq]
    · simp only [Callers.onExecutionComplete, Function.update_of_ne heq] at hcall'
      exact h.answered call' hcall'
  · exact fun j e he call' hj => h.entered j e (hold he hj) call' hj
  · exact fun j k call' e₁ he₁ e₂ he₂ h₁ h₂ =>
      h.unique j k call' e₁ (hold he₁ h₁) e₂ (hold he₂ h₂) h₁ h₂
  · intro j call' hcaller
    obtain ⟨e, he, henters⟩ := h.calls j call' hcaller
    exact ⟨e, List.mem_append_left _ he, henters⟩
  · exact fun j call' message next hcaller => hkept call' (h.woken j call' message next hcaller)
  · exact h.returned_append (by rintro j call' r further ⟨⟩)

theorem not_ownReplies_of_lost {call : ℕ} :
    ¬ OwnReplies (t ++ [.returned i call none none]) := by
  intro h
  obtain ⟨-, -, reply, hreply, -⟩ := h t i call none none List.prefix_rfl
  contradiction

variable [DecidableEq τ] {thread : Thread} {caller : Caller} {messages : List Message}
  {further : Option ℕ} {handler : RequestHandler} {submitted : List Completion}

/-- A thread that holds the mutex stops, with a further call or without one. -/
theorem Paired.goOn (h : Paired t s)
    (henters : ∀ j call, Enters j call e ↔ i = j ∧ further = some call)
    (hanswered : ∀ call reply, e ≠ .answered call reply)
    (hstops : Stops s.messages.length thread caller messages further)
    (hreturned : ∀ i call r further, e = .returned i call r further →
      (∃ e ∈ t, Enters i call e) ∧ ∃ reply, r = some reply ∧ .answered call reply ∈ t) :
    Paired (t ++ [e]) (s.goOn i caller messages handler submitted) where
  replies call reply := by
    refine Iff.trans ?_ (h.replies call reply)
    rw [List.mem_append, List.mem_singleton]
    simp [(hanswered call reply).symm]
  answered call hcall := by
    have hlt := h.answered call hcall
    simp only [Callers.goOn, List.length_append]
    omega
  entered j e' he' call hcall := by
    simp only [Callers.goOn, List.length_append]
    rcases List.mem_append.mp he' with he' | he'
    · have hlt := h.entered j e' he' call hcall
      omega
    · rw [List.mem_singleton.mp he'] at hcall
      obtain ⟨-, hfurther⟩ := (henters j call).mp hcall
      cases hstops with
      | ends => contradiction
      | waits =>
        obtain rfl := Option.some.inj hfurther
        simp
  unique j k call e₁ he₁ e₂ he₂ h₁ h₂ := by
    -- The number of a further call has not been used.
    have hnew : ∀ j, Enters j call e → ∀ k, ∀ e' ∈ t, ¬ Enters k call e' := by
      intro j hj k e' he' hk
      obtain ⟨-, hfurther⟩ := (henters j call).mp hj
      have hlt := h.entered k e' he' call hk
      cases hstops with
      | ends => contradiction
      | waits =>
        obtain rfl := Option.some.inj hfurther
        exact absurd hlt (lt_irrefl _)
    rcases List.mem_append.mp he₁ with he₁ | he₁ <;> rcases List.mem_append.mp he₂ with he₂ | he₂
    · exact h.unique j k call e₁ he₁ e₂ he₂ h₁ h₂
    · rw [List.mem_singleton.mp he₂] at h₂
      exact absurd h₁ (hnew k h₂ j e₁ he₁)
    · rw [List.mem_singleton.mp he₁] at h₁
      exact absurd h₂ (hnew j h₁ k e₂ he₂)
    · rw [List.mem_singleton.mp he₁] at h₁
      rw [List.mem_singleton.mp he₂] at h₂
      exact ((henters j call).mp h₁).1.symm.trans ((henters k call).mp h₂).1
  calls j call hcall := by
    by_cases hj : j = i
    · subst hj
      simp only [Callers.goOn, Function.update_self] at hcall
      have hfurther : further = some call := by
        cases hstops with
        | ends => contradiction
        | waits => exact hcall
      exact ⟨e, List.mem_append_right _ (.head _), (henters j call).mpr ⟨rfl, hfurther⟩⟩
    · simp only [Callers.goOn, Function.update_of_ne hj] at hcall
      obtain ⟨e', he', henters'⟩ := h.calls j call hcall
      exact ⟨e', List.mem_append_left _ he', henters'⟩
  woken j call message next hcaller := by
    by_cases hj : j = i
    · subst hj
      simp only [Callers.goOn, Function.update_self] at hcaller
      subst hcaller
      cases hstops
    · simp only [Callers.goOn, Function.update_of_ne hj] at hcaller
      exact h.woken j call message next hcaller
  returned := h.returned_append hreturned

theorem Paired.step (h : Paired t s) (hturn : OwnTurn t s e) (hstep : ExecutionStep L s e s') :
    Paired (t ++ [e]) s' := by
  cases hstep with
  | worker ha hworker =>
    apply h.frame
    · exact fun _ _ => id
    · rintro call reply ⟨⟩
    · rintro j call r further ⟨⟩
    · rfl
    · rfl
    · exact fun _ => rfl
    · exact h.woken
  | begun hi hbegun hstops =>
    apply h.goOn (fun _ _ => Iff.rfl) _ hstops
    · rintro j call r further ⟨⟩
    · rintro call reply ⟨⟩
  | answered hcall hnone => exact h.complete hcall hnone
  | @taken i call message next n hi hn =>
    apply h.frame
    · exact fun _ _ => id
    · rintro call' reply ⟨⟩
    · rintro j call' r further ⟨⟩
    · rfl
    · rfl
    · intro j
      by_cases hj : j = i
      · subst hj
        rw [hi]
        simp [Caller.call?]
      · simp [Function.update_of_ne hj]
    · intro j call' message' next' hcaller
      by_cases hj : j = i
      · subst hj
        simp only [Function.update_self, Caller.woken.injEq] at hcaller
        rw [← hcaller.1]
        exact hturn call message next hi
      · simp only [Function.update_of_ne hj] at hcaller
        exact h.woken j call' message' next' hcaller
  | @returned i call message reply next handler thread submitted caller messages further hi hreply
      hresumed hstops =>
    have hentered := h.calls i call (by simp [hi, Caller.call?])
    apply h.goOn (fun _ _ => Iff.rfl) _ hstops
    · rintro j call' r further' ⟨⟩
      exact ⟨hentered, reply, rfl, (h.replies call reply).mpr hreply⟩
    · rintro call' reply' ⟨⟩
  | lost hi hreply => exact absurd hreply (h.woken _ _ _ _ hi)

theorem paired_run (h : (executions τ L).Run OwnTurn t s) : Paired t s := by
  apply h.invariant
  · rintro s rfl
    constructor
    · simp
    · simp
    · simp
    · simp
    · simp [Caller.call?]
    · simp
    · intro before i call r further hprefix
      simp at hprefix
  · exact fun t s e s' hpaired hturn hstep => hpaired.step hturn hstep

/-- A thread that takes the semaphore out of its turn may go on to return what nothing has
stored. -/
theorem lost_run {call : ℕ} {message : Message} {next : Rest}
    (h : (executions τ L).Run (fun _ _ _ => True) t s)
    (hi : s.callers i = .waiting call message next)
    (hnone : s.replies call = none) (hstep : ExecutionStep L s (.taken i) s') : ∃ s'',
      (executions τ L).Run (fun _ _ _ => True)
      (t ++ [.taken i] ++ [.returned i call none none]) s'' := by
  have htaken := h.step trivial hstep
  cases hstep with
  | @taken _ call' message' next' n hi' hn =>
    obtain ⟨rfl, -, -⟩ := Caller.waiting.inj (hi'.symm.trans hi)
    exact ⟨_, htaken.step trivial (.lost (Function.update_self ..) hnone)⟩

/-- As long as each thread takes the semaphore in its turn, every call returns the reply to its own
message; and as soon as one does not, it may return what nothing has stored. -/
theorem execute_returns_own_reply (h : (executions τ L).Run OwnTurn t s) :
    OwnReplies t ∧ ∀ e s', ExecutionStep L s e s' → ¬ OwnTurn t s e → ∃ later s'',
      (executions τ L).Run (fun _ _ _ => True) (t ++ [e] ++ later) s'' ∧
        ¬ OwnReplies (t ++ [e] ++ later) := by
  refine ⟨(paired_run h).ownReplies, fun e s' hstep hturn => ?_⟩
  cases e with
  | taken i =>
    simp only [OwnTurn, not_forall, not_not] at hturn
    obtain ⟨call, message, next, hi, hnone⟩ := hturn
    obtain ⟨s'', hlost⟩ := lost_run (h.mono fun _ _ _ _ => trivial) hi hnone hstep
    exact ⟨_, s'', hlost, not_ownReplies_of_lost⟩
  | worker _ | begun _ _ _ | answered _ _ | returned _ _ _ _ => exact absurd trivial hturn

end

def registrationState : Request := ⟨RIL_REQUEST_VOICE_REGISTRATION_STATE, .null 0, 0⟩

def noRegistration : Message :=
  ⟨CMD_NET, NetGetNetworkRegistrationReply, (0 : UInt8), NetGetNetworkRegistrationReply.Voice,
  (1 : UInt8),
    (0 : UInt8), (0 : UInt16), (0 : UInt32), (0 : UInt8), ()⟩

theorem worker_ready {τ : Type} [DecidableEq τ] (callers : τ → Caller) :
    ExecutionStep .android ⟨initial, [], callers, [], fun _ => none, 0⟩
    (.worker (.notified pinReady))
      ⟨simReady, [], callers, [], fun _ => none, 0⟩ :=
  .worker (fun _ => nofun) step_pinReady

theorem registrationState_waits : ∃ next, Trace (handle .android registrationState simReady) []
    (.call (.execute (CacheKey.query .voiceRegistration) simReady) next) ∧
      ∀ handler, ∃ response handler', Trace (next (handler, noRegistration))
        [⟨.complete registrationState .SUCCESS response, ()⟩] (.done ((), handler')) := by
  have hhandle : handle .android registrationState simReady =
      handleVoiceRegistrationState registrationState simReady :=
    handle_admitted .android (by decide) (handlerOf_static (i := 19) rfl (by
      simp only [constructorHandlers, List.forall_mem_cons]
      decide))
  rw [hhandle]
  exact ⟨_, .nil _, fun _ => ⟨_, _, .cons (.nil _)⟩⟩

/-- A thread that is idle asks for the state of the registration, and gets to wait for the modem. -/
theorem begun_registrationState {τ : Type} [DecidableEq τ] : ∃ next : Rest,
    (∀ handler, ∃ response handler', Trace (next (handler, noRegistration))
      [⟨.complete registrationState .SUCCESS response, ()⟩] (.done ((), handler'))) ∧
    ∀ {callers : τ → Caller} {messages : List Message} {i : τ}, callers i = .idle →
      ExecutionStep .android ⟨simReady, [], callers, messages, fun _ => none, 0⟩
        (.begun i registrationState (some messages.length))
        ⟨simReady, [], Function.update callers i
          (.waiting messages.length (CacheKey.query .voiceRegistration) next),
          messages ++ [CacheKey.query .voiceRegistration], fun _ => none, 0⟩ := by
  obtain ⟨next, hwaits, hresumes⟩ := registrationState_waits
  refine ⟨next, hresumes, fun hi => ?_⟩
  have hbegun : Step .android ⟨simReady, .idle, []⟩ (.begun registrationState)
      ⟨simReady, .waiting (CacheKey.query .voiceRegistration) next, []⟩ :=
    .begun (.waits (by simp [Held]) hwaits)
  exact .begun hi hbegun .waits

/-- Two threads wait at once. The second one's message is completed first, and each takes the
semaphore in its turn. -/
theorem execute_returns_each_reply : OwnReplies [.worker (.notified pinReady),
    .begun false registrationState (some 0), .begun true registrationState (some 1),
    .answered 1 noRegistration, .taken true, .returned true 1 (some noRegistration) none,
    .answered 0 noRegistration, .taken false, .returned false 0 (some noRegistration) none] := by
  obtain ⟨next, hresumes, hbegun⟩ := @begun_registrationState Bool _
  have hresumed : ∀ handler, ∃ handler', Step .android
      ⟨handler, .replied (CacheKey.query .voiceRegistration) noRegistration next, []⟩ .resumed
      ⟨handler', .idle, []⟩ := by
    intro handler
    obtain ⟨response, handler', htrace⟩ := hresumes handler
    exact ⟨handler', .resumed (.ends (by simp [Held]) htrace)⟩
  obtain ⟨handler', hsecond⟩ := hresumed simReady
  obtain ⟨handler'', hfirst⟩ := hresumed handler'
  have hstart : (executions Bool .android).Run OwnTurn [] _ := .start rfl
  have hready := hstart.step (e := Execution.worker (.notified pinReady)) trivial
    (worker_ready fun _ => .idle)
  have hone := hready.step (e := Execution.begun false registrationState (some 0)) trivial
    (@hbegun _ [] false rfl)
  have htwo := hone.step (e := Execution.begun true registrationState (some 1)) trivial
    (@hbegun _ [_] true rfl)
  have hanswered := htwo.step (e := Execution.answered 1 noRegistration) trivial
    (@ExecutionStep.answered _ _ _ _ 1 noRegistration Nat.one_lt_two rfl)
  have htaken := hanswered.step (e := Execution.taken true) (by
      rintro call message next' hi
      obtain ⟨rfl, -, -⟩ := Caller.waiting.inj hi
      exact Option.some_ne_none _)
    (@ExecutionStep.taken _ _ _ _ true 1 _ next 0 rfl rfl)
  have hreturned := htaken.step (e := Execution.returned true 1 (some noRegistration) none) trivial
    (@ExecutionStep.returned _ _ _ _ true 1 _ _ next _ _ _ _ _ _ rfl rfl hsecond .ends)
  have hanswered' := hreturned.step (e := Execution.answered 0 noRegistration) trivial
    (@ExecutionStep.answered _ _ _ _ 0 noRegistration Nat.two_pos rfl)
  have htaken' := hanswered'.step (e := Execution.taken false) (by
      rintro call message next' hi
      obtain ⟨rfl, -, -⟩ := Caller.waiting.inj hi
      exact Option.some_ne_none _)
    (@ExecutionStep.taken _ _ _ _ false 0 _ next 0 rfl rfl)
  have hreturned' :=
    htaken'.step (e := Execution.returned false 0 (some noRegistration) none) trivial
    (@ExecutionStep.returned _ _ _ _ false 0 _ _ next _ _ _ _ _ _ rfl rfl hfirst .ends)
  exact (execute_returns_own_reply hreturned').1

/-- Of two threads that wait, the first one's message is completed, and the second one returns. -/
theorem execute_returns_unstored : ¬ ∀ (τ : Type) (_ : DecidableEq τ) L t s,
    (executions τ L).Run (fun _ _ _ => True) t s → OwnReplies t := by
  intro hall
  obtain ⟨next, -, hbegun⟩ := @begun_registrationState Bool _
  have hstart : (executions Bool .android).Run (fun _ _ _ => True) [] _ := .start rfl
  have hready := hstart.step trivial (worker_ready fun _ => .idle)
  have hfirst := hready.step trivial (@hbegun _ [] false rfl)
  have hsecond := hfirst.step trivial (@hbegun _ [_] true rfl)
  have hanswered := hsecond.step trivial
    (@ExecutionStep.answered _ _ _ _ 0 noRegistration Nat.zero_lt_two rfl)
  obtain ⟨s', hlost⟩ := @lost_run _ .android _ _ _ true _ 1 _ next hanswered rfl rfl
    (@ExecutionStep.taken _ _ _ _ true 1 _ next 0 rfl rfl)
  exact not_ownReplies_of_lost (hall _ _ _ _ _ hlost)

end RIL
end FreeRil
