import FreeRil.Library.Transitions
import FreeRil.RequestHandler.Completed
import FreeRil.RequestHandler.Notifications

/-! The request thread and the worker thread, which share the handler under its mutex. The worker
thread takes the frames of the modem in the order of their arrival; the request thread gives the mutex
up while it waits for a reply, and gets it back some time after the reply has arrived. -/
namespace FreeRil
open Messages RIL Program RequestHandler

namespace RIL

/-- What is left to do for a request, from the state and the reply it is woken with. -/
abbrev Rest := RequestHandler × Message → Program Call.Ret (Unit × RequestHandler)

/-- The request thread, in `execute` where it is not idle. -/
inductive Thread
  | idle
  | waiting (message : Message) (next : Rest)
  | replied (message reply : Message) (next : Rest)

structure Threads where
  handler : RequestHandler
  thread : Thread
  /-- What is subscribed to messages that have not been completed yet. -/
  submitted : List Completion

/-- The mutex is not given up. -/
def Held (t : List (Event Call.Ret)) : Prop :=
  ∀ e ∈ t, ∀ message handler, e.op ≠ .execute message handler

/-- A program runs until it ends or gives up the mutex. -/
inductive Segment (p : Program Call.Ret (Unit × RequestHandler)) (t : List (Event Call.Ret)) :
    RequestHandler → Thread → Prop
  | ends {handler : RequestHandler} (held : Held t) (h : Trace p t (.done ((), handler))) :
    Segment p t handler .idle
  | waits {message : Message} {handler : RequestHandler} {next : Rest} (held : Held t)
    (h : Trace p t (.call (.execute message handler) next)) :
    Segment p t handler (.waiting message next)

inductive Action
  /-- The worker thread delivers a message to the handler. -/
  | notified (message : Message)
  /-- It completes a message that has been submitted. -/
  | completed (completion : Completion) (reply : Message)
  /-- It completes the message that the request thread waits for. -/
  | replied (message reply : Message)
  /-- The request thread takes on a request. -/
  | begun (request : Request)
  /-- It has got the mutex back. -/
  | resumed

/-- A step of one of the threads. -/
inductive Step (L : ParcelLibrary) : Threads → Action → Threads → Prop
  | notified {s : Threads} {message : Message} {t : List (Event Call.Ret)} {handler : RequestHandler}
    (held : Held t) (h : Trace (notify L message s.handler) t (.done ((), handler))) :
    Step L s (.notified message) ⟨handler, s.thread, s.submitted ++ subscribed t⟩
  | completed {handler : RequestHandler} {thread : Thread} {before after : List Completion}
    {completion : Completion} {reply : Message} {t : List (Event Call.Ret)} {handler' : RequestHandler}
    (held : Held t) (h : Trace (completion.run reply handler) t (.done ((), handler'))) :
    Step L ⟨handler, thread, before ++ completion :: after⟩ (.completed completion reply)
      ⟨handler', thread, before ++ after ++ subscribed t⟩
  | replied {handler : RequestHandler} {message reply : Message} {next : Rest}
    {submitted : List Completion} :
    Step L ⟨handler, .waiting message next, submitted⟩ (.replied message reply)
      ⟨handler, .replied message reply next, submitted⟩
  | begun {handler : RequestHandler} {submitted : List Completion} {request : Request}
    {t : List (Event Call.Ret)} {handler' : RequestHandler} {thread : Thread}
    (h : Segment (handle L request handler) t handler' thread) :
    Step L ⟨handler, .idle, submitted⟩ (.begun request)
      ⟨handler', thread, submitted ++ subscribed t⟩
  | resumed {handler : RequestHandler} {message reply : Message} {next : Rest}
    {submitted : List Completion} {t : List (Event Call.Ret)} {handler' : RequestHandler}
    {thread : Thread} (h : Segment (next (handler, reply)) t handler' thread) :
    Step L ⟨handler, .replied message reply next, submitted⟩ .resumed
      ⟨handler', thread, submitted ++ subscribed t⟩

/-- The handler as it is constructed. -/
def initial : RequestHandler where
  m_radioState := .UNAVAILABLE
  m_coarseRSSI := -1
  m_lastCallFailCause := CALL_FAIL_ERROR_UNSPECIFIED
  m_callIds := []
  m_cache := .empty

def threads (L : ParcelLibrary) : Transitions Threads Action where
  init s := s = ⟨initial, .idle, []⟩
  step := Step L

/-! What each thread does to the cache and to the state of the radio. -/
section
variable {L : ParcelLibrary} {t : List (Event Call.Ret)} {handler handler' : RequestHandler}

theorem notified_state {message : Message}
    (h : Trace (notify L message handler) t (.done ((), handler'))) :
    handler'.m_cache = cacheAfter message handler.m_cache ∧
      handler'.m_radioState = radioAfter message handler.m_radioState :=
  ended (notify_leaves L message effect handler ⟨[], handler, none⟩) h

/-- The state of the radio after a message has been completed. -/
def completedRadio (completion : Completion) (reply : Message) : RIL_RadioState → RIL_RadioState :=
  match completion with
  | .handlePinStatusRefreshComplete => radioOfPin (answeredPin reply)
  | _ => id

theorem completed_state {completion : Completion} {reply : Message}
    (h : Trace (completion.run reply handler) t (.done ((), handler'))) :
    handler'.m_cache = touches completion handler.m_cache ∧
      handler'.m_radioState = completedRadio completion reply handler.m_radioState := by
  cases hrequest : completion.request with
  | some request =>
    have hradio : completedRadio completion reply = id := by
      cases completion <;> first | rfl | contradiction
    rw [hradio]
    exact (ended (run_conduct (C := False) hrequest reply handler (s := ⟨[], handler, none⟩)
      pending_nil) h).2
  | none =>
    have hrefresh : completion = .handlePinStatusRefreshComplete := by
      cases completion <;> first | rfl | contradiction
    subst hrefresh
    exact ended (leaves_handlePinStatusRefreshComplete reply effect handler ⟨[], handler, none⟩) h

/-- As long as the mutex is held, no reply is got. -/
theorem after_held {C : Prop} {E : Keeping} (held : Held t) (s : Seen) :
    ((conduct C E).after s t).locked = s.locked ∧ ((conduct C E).after s t).asked = s.asked := by
  induction t generalizing s with
  | nil => exact ⟨rfl, rfl⟩
  | cons e t ih =>
    obtain ⟨hlocked, hasked⟩ := ih (fun e' he' => held e' (.tail _ he')) (s.record e)
    have hrecord : (s.record e).locked = s.locked ∧ (s.record e).asked = s.asked := by
      obtain ⟨c, r⟩ := e
      cases c with
      | execute message handler => exact absurd rfl (held _ (.head _) message handler)
      | _ => exact ⟨rfl, rfl⟩
    exact ⟨hlocked.trans hrecord.1, hasked.trans hrecord.2⟩

/-- What is left to do keeps to what its request may do to the state. -/
def Thread.Sound : Thread → Prop
  | .idle => True
  | .waiting message next | .replied message _ next => ∀ r : RequestHandler × Message,
    ∃ C history, (conduct C effect).Safe (fun r s => effect.holds s r.2) (next r)
      ⟨history, r.1, some (message, r.2)⟩

theorem Segment.effect {C : Prop} {p : Program Call.Ret (Unit × RequestHandler)} {thread : Thread}
    {s : Seen} (h : Segment p t handler thread)
    (hsafe : (conduct C effect).Safe (fun r s => effect.holds s r.2) p s) :
    RequestHandler.effect.holds s handler ∧ thread.Sound := by
  cases h with
  | ends held h =>
    have hdone := (hsafe.trace h fun _ _ _ _ => trivial).2
    obtain ⟨hlocked, hasked⟩ := after_held (C := C) (E := RequestHandler.effect) held s
    exact ⟨RequestHandler.effect.steady hlocked.symm hasked.symm rfl rfl hdone, trivial⟩
  | waits held h =>
    obtain ⟨hallowed, hnext⟩ := (hsafe.trace h fun _ _ _ _ => trivial).2
    obtain ⟨hlocked, hasked⟩ := after_held (C := C) (E := RequestHandler.effect) held s
    exact ⟨RequestHandler.effect.steady hlocked.symm hasked.symm rfl rfl (hallowed.2 _ _ rfl),
      fun r => ⟨C, _, hnext r trivial⟩⟩

theorem begun_effect {request : Request} {thread : Thread}
    (h : Segment (handle L request handler) t handler' thread) :
    RequestHandler.effect.holds ⟨[], handler, none⟩ handler' ∧ thread.Sound :=
  h.effect (Monitor.Safe.mono (handle_conduct L request handler) fun _ _ h => h.2)

/-- The threads are always sound. -/
theorem sound_step {s s' : Threads} {a : Action} (h : Step L s a s') (hs : s.thread.Sound) :
    s'.thread.Sound := by
  cases h with
  | notified held h => exact hs
  | completed held h => exact hs
  | replied => exact hs
  | begun h => exact (begun_effect h).2
  | @resumed _ _ reply _ _ _ _ _ h =>
    obtain ⟨C, history, hsafe⟩ := hs (_, reply)
    exact (h.effect hsafe).2

/-- A request is gone on with as its query and its answer say. -/
theorem resumed_effect {message reply : Message} {next : Rest} {thread : Thread}
    (hs : (Thread.replied message reply next).Sound)
    (h : Segment (next (handler, reply)) t handler' thread) :
    RequestHandler.effect.holds ⟨[], handler, some (message, reply)⟩ handler' := by
  obtain ⟨C, history, hsafe⟩ := hs (handler, reply)
  exact RequestHandler.effect.steady (s := ⟨history, handler, some (message, reply)⟩) rfl rfl rfl rfl
    (h.effect hsafe).1

end

/-- The news that the SIM is ready. -/
def pinReady : Message := ⟨CMD_SEC, SecGetPinStatusReply, (0 : UInt8), (0 : UInt8), ()⟩

/-- The handler after them. -/
def simReady : RequestHandler := { initial with m_radioState := .SIM_READY }

theorem step_pinReady : Step .android ⟨initial, .idle, []⟩ (.notified pinReady) ⟨simReady, .idle, []⟩ := by
  have hpin : Trace (notify .android pinReady initial)
      [⟨.unsolicited .RESPONSE_RADIO_STATE_CHANGED .null, ()⟩] (.done ((), simReady)) := .cons (.nil _)
  exact @Step.notified .android ⟨initial, .idle, []⟩ _ _ _ (by simp [Held]) hpin

end RIL
end FreeRil
