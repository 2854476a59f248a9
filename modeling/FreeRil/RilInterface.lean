import FreeRil.CrossClient
import FreeRil.Library.Transitions

/-! Calls of `synchronousOemCall` in any number of threads, the RIL that answers their requests in any
order, and the thread that hands the answers on. A step reads or writes what is shared once. A call is
known by its place among all calls, and by this its lock. -/
namespace FreeRil

/-- An object of the class `Integer`. -/
structure BoxedInteger where
  value : Int32
  object : ℕ
  deriving DecidableEq

/-- `Integer.valueOf`, where `objects` have been created: there is one object for each small value. -/
def BoxedInteger.valueOf (value : Int32) (objects : ℕ) : BoxedInteger × ℕ :=
  if -128 ≤ value ∧ value ≤ 127 then (⟨value, 0⟩, objects) else (⟨value, objects + 1⟩, objects + 1)

/-- Where a thread is in `synchronousOemCall`. -/
inductive SynchronousCall
  | idle
  /-- It waits for the monitor of the counter that it has read. -/
  | entering (call : ℕ) (request : Bytes) (monitor : BoxedInteger)
  | entered (call : ℕ) (request : Bytes) (monitor : BoxedInteger)
  /-- The counter has been read again, and incremented. -/
  | incremented (call : ℕ) (request : Bytes) (monitor : BoxedInteger) (callId : Int32)
  | leaving (call : ℕ) (request : Bytes) (monitor : BoxedInteger) (callId : Int32)
  | left (call : ℕ) (request : Bytes) (callId : Int32)
  | registered (call : ℕ) (request : Bytes) (callId : Int32)
  /-- It has the monitor of its lock. -/
  | invoked (call : ℕ) (callId : Int32)
  | waiting (call : ℕ) (callId : Int32)
  | woken (call : ℕ) (callId : Int32)
  | interrupted (call : ℕ) (callId : Int32)
  | unregistered (call : ℕ) (callId : Int32)
  /-- `null` is `none`. -/
  | fetched (call : ℕ) (callId : Int32) (result : Option (Option Bytes))
  /-- A `NullPointerException` leaves it. -/
  | throwing (call : ℕ)

/-- How a call ends, for a request that is not `null`. -/
inductive Outcome
  | interrupted
  /-- With what the request has been completed with, unless that is an error. -/
  | completed (result : Option Bytes)
  | nullPointer
  deriving DecidableEq

/-- A message for the completion thread, with the call whose request has been completed. -/
structure CallComplete where
  callId : Int32
  result : Option Bytes
  call : ℕ

/-- Where the completion thread is in `onCallComplete`. -/
inductive CompletionThread
  | idle
  | found (message : CallComplete) (lock : ℕ)
  | stored (message : CallComplete) (lock : ℕ)

/-- What the threads share: the object, the requests at the RIL and the messages on their way. -/
structure RilInterface where
  /-- How many calls have been made. -/
  calls : ℕ
  mCallIdCounter : BoxedInteger
  objects : ℕ
  mLockMap : Int32 → Option ℕ
  mResultMap : Int32 → Option (Option Bytes)
  /-- The requests that have not been completed, by the numbers in their messages. -/
  invoked : List (Int32 × ℕ)
  messages : List CallComplete
  mCompletionThread : CompletionThread
  /-- `mHandler` is not `null`. -/
  prepared : Bool

namespace RilInterface

inductive Event
  | called (call : ℕ) (request : Bytes)
  | incremented (call : ℕ) (callId : Int32)
  | invoked (call : ℕ) (request : Bytes)
  | answered (call : ℕ) (result : Option Bytes)
  /-- A `wait` returns that nobody has notified. -/
  | spurious (call : ℕ)
  | returned (call : ℕ) (outcome : Outcome)
  /-- A call is made while the completion thread has no handler. -/
  | unprepared (call : ℕ)
  | silent

/-- A step of a thread that makes calls, where these monitors of counters are taken. -/
inductive CallStep (taken : BoxedInteger → Prop) (s : RilInterface) :
    SynchronousCall → Event → SynchronousCall → RilInterface → Prop
  | called (request : Bytes) :
    CallStep taken s .idle (.called s.calls request) (.entering s.calls request s.mCallIdCounter)
      { s with calls := s.calls + 1 }
  | entered {call : ℕ} {request : Bytes} {o : BoxedInteger} (hfree : ¬ taken o) :
    CallStep taken s (.entering call request o) .silent (.entered call request o) s
  | incremented {call : ℕ} {request : Bytes} {o : BoxedInteger} :
    CallStep taken s (.entered call request o) (.incremented call (s.mCallIdCounter.value + 1))
      (.incremented call request o (s.mCallIdCounter.value + 1)) s
  | counted {call : ℕ} {request : Bytes} {o : BoxedInteger} {callId : Int32} :
    CallStep taken s (.incremented call request o callId) .silent (.leaving call request o callId)
      { s with
        mCallIdCounter := (BoxedInteger.valueOf callId s.objects).1
        objects := (BoxedInteger.valueOf callId s.objects).2 }
  | left {call : ℕ} {request : Bytes} {o : BoxedInteger} {callId : Int32} :
    CallStep taken s (.leaving call request o callId) .silent (.left call request callId) s
  | registered {call : ℕ} {request : Bytes} {callId : Int32} :
    CallStep taken s (.left call request callId) .silent (.registered call request callId)
      { s with mLockMap := Function.update s.mLockMap callId (some call) }
  | unprepared {call : ℕ} {request : Bytes} {callId : Int32} (hprepared : s.prepared = false) :
    CallStep taken s (.registered call request callId) (.unprepared call) (.throwing call) s
  /-- Under the monitor of the lock, which is given up where it waits. -/
  | invoked {call : ℕ} {request : Bytes} {callId : Int32} (hprepared : s.prepared = true) :
    CallStep taken s (.registered call request callId) (.invoked call request) (.invoked call callId)
      { s with invoked := s.invoked ++ [(callId, call)] }
  | waits {call : ℕ} {callId : Int32} :
    CallStep taken s (.invoked call callId) .silent (.waiting call callId) s
  | spurious {call : ℕ} {callId : Int32} :
    CallStep taken s (.waiting call callId) (.spurious call) (.woken call callId) s
  | refused {call : ℕ} {callId : Int32} :
    CallStep taken s (.invoked call callId) .silent (.interrupted call callId) s
  | interrupted {call : ℕ} {callId : Int32} :
    CallStep taken s (.waiting call callId) .silent (.interrupted call callId) s
  | fails {call : ℕ} {callId : Int32} :
    CallStep taken s (.interrupted call callId) (.returned call .interrupted) .idle
      { s with mLockMap := Function.update s.mLockMap callId none }
  | unregistered {call : ℕ} {callId : Int32} :
    CallStep taken s (.woken call callId) .silent (.unregistered call callId)
      { s with mLockMap := Function.update s.mLockMap callId none }
  | fetched {call : ℕ} {callId : Int32} :
    CallStep taken s (.unregistered call callId) .silent (.fetched call callId (s.mResultMap callId)) s
  | nothing {call : ℕ} {callId : Int32} :
    CallStep taken s (.fetched call callId none) .silent (.throwing call)
      { s with mResultMap := Function.update s.mResultMap callId none }
  | completed {call : ℕ} {callId : Int32} {result : Option Bytes} :
    CallStep taken s (.fetched call callId (some result)) (.returned call (.completed result)) .idle
      { s with mResultMap := Function.update s.mResultMap callId none }
  | throws {call : ℕ} : CallStep taken s (.throwing call) (.returned call .nullPointer) .idle s

/-- The monitor of a counter that a thread has. -/
def monitor : SynchronousCall → Option BoxedInteger
  | .entered _ _ monitor | .incremented _ _ monitor _ | .leaving _ _ monitor _ => some monitor
  | _ => none

/-- The thread that waits for a lock is woken. -/
def notify (lock : ℕ) : SynchronousCall → SynchronousCall
  | .waiting call callId => if call = lock then .woken call callId else .waiting call callId
  | thread => thread

end RilInterface

/-- The object with the threads `τ` that call it. -/
structure CallingThreads (τ : Type) where
  threads : τ → SynchronousCall
  ril : RilInterface

namespace CallingThreads
variable {τ : Type} [DecidableEq τ] (s : CallingThreads τ)

/-- One thread goes on. -/
def goOn (i : τ) (thread : SynchronousCall) (ril : RilInterface) : CallingThreads τ :=
  ⟨Function.update s.threads i thread, ril⟩

variable {i j : τ} {thread : SynchronousCall} {ril : RilInterface}

@[simp] theorem goOn_ril : (s.goOn i thread ril).ril = ril := rfl

@[simp] theorem goOn_self : (s.goOn i thread ril).threads i = thread := Function.update_self ..

theorem goOn_of_ne (h : j ≠ i) : (s.goOn i thread ril).threads j = s.threads j := Function.update_of_ne h ..

end CallingThreads

namespace RilInterface

variable {τ : Type} [DecidableEq τ]

inductive Step (s : CallingThreads τ) : Event → CallingThreads τ → Prop
  | call {i : τ} {e : Event} {thread : SynchronousCall} {ril : RilInterface}
    (h : CallStep (fun o => ∃ j, monitor (s.threads j) = some o) s.ril (s.threads i) e thread ril) :
    Step s e (s.goOn i thread ril)
  /-- The RIL completes a request. -/
  | answered {before after : List (Int32 × ℕ)} {call : ℕ} {callId : Int32} {result : Option Bytes}
    (hs : s.ril.invoked = before ++ (callId, call) :: after) :
    Step s (.answered call result)
      { s with ril.invoked := before ++ after
               ril.messages := s.ril.messages ++ [⟨callId, result, call⟩] }
  | prepares : Step s .silent { s with ril.prepared := true }
  | taken {message : CallComplete} {messages : List CallComplete} {lock : ℕ}
    (hs : s.ril.mCompletionThread = .idle) (hmessages : s.ril.messages = message :: messages)
    (hlock : s.ril.mLockMap message.callId = some lock) :
    Step s .silent
      { s with ril.messages := messages, ril.mCompletionThread := .found message lock }
  | dropped {message : CallComplete} {messages : List CallComplete}
    (hs : s.ril.mCompletionThread = .idle) (hmessages : s.ril.messages = message :: messages)
    (hlock : s.ril.mLockMap message.callId = none) :
    Step s .silent { s with ril.messages := messages }
  | stored {message : CallComplete} {lock : ℕ} (hs : s.ril.mCompletionThread = .found message lock) :
    Step s .silent
      { s with
        ril.mResultMap := Function.update s.ril.mResultMap message.callId (some message.result)
        ril.mCompletionThread := .stored message lock }
  /-- Under the monitor of the lock. -/
  | notified {message : CallComplete} {lock : ℕ} (hs : s.ril.mCompletionThread = .stored message lock)
    (hfree : ∀ j callId, s.threads j ≠ .invoked lock callId) :
    Step s .silent
      { s with
        threads := fun j => notify lock (s.threads j)
        ril.mCompletionThread := .idle }

/-- After the constructor, while the completion thread starts. -/
def initial : CallingThreads τ where
  threads := fun _ => .idle
  ril :=
    { calls := 0
      mCallIdCounter := ⟨0, 1⟩
      objects := 1
      mLockMap := fun _ => none
      mResultMap := fun _ => none
      invoked := []
      messages := []
      mCompletionThread := .idle
      prepared := false }

def synchronousCalls (τ : Type) [DecidableEq τ] : Transitions (CallingThreads τ) Event where
  init s := s = initial
  step := Step

/-- All runs. -/
abbrev Runs (t : List Event) (s : CallingThreads τ) : Prop :=
  (synchronousCalls τ).Run (fun _ _ _ => True) t s

/-- The calls that have a number, with it. -/
def numbered (t : List Event) : List (ℕ × Int32) := t.filterMap fun
  | .incremented call callId => some (call, callId)
  | _ => none

/-- The numbers that calls have been given. -/
def numbers (t : List Event) : List Int32 := (numbered t).map Prod.snd

end RilInterface
end FreeRil
