import FreeRil.Compiler.Cast
import FreeRil.Library.Program
import FreeRil.Protocol
import FreeRil.Request

/-! The interface layer between the framework and the modem: the state it keeps, what it asks of its
environment, and the steps that its handlers share. Values of type `int` that do not overflow are
integers; what is only logged is left out. -/
namespace FreeRil
open Messages

/-- The keys that are used in the cache. -/
inductive CacheKey
  | plmnSelection
  | currentPlmn
  | netMode
  | voiceRegistration
  | dataRegistration
  | basebandVersion
  | imei
  | imsi
  deriving DecidableEq, Repr

/-- `MessageCache`. -/
def MessageCache := CacheKey → Option Message

namespace MessageCache

def empty : MessageCache := fun _ => none

def put (cache : MessageCache) (key : CacheKey) (message : Message) : MessageCache :=
  Function.update cache key (some message)

def invalidate (cache : MessageCache) (key : CacheKey) : MessageCache :=
  Function.update cache key none

def flush (_ : MessageCache) : MessageCache := empty

section
variable (cache : MessageCache) {key key' : CacheKey} {message : Message}

@[simp] theorem put_self : cache.put key message key = some message := Function.update_self ..

theorem put_of_ne (h : key' ≠ key) : cache.put key message key' = cache key' :=
  Function.update_of_ne h ..

@[simp] theorem invalidate_self : cache.invalidate key key = none := Function.update_self ..

theorem invalidate_of_ne (h : key' ≠ key) : cache.invalidate key key' = cache key' :=
  Function.update_of_ne h ..

@[simp] theorem flush_apply : cache.flush key = none := rfl

end
end MessageCache

/-- The state of `RequestHandler` and `RIL`. -/
structure RequestHandler where
  m_radioState : RIL_RadioState
  m_coarseRSSI : ℤ
  m_lastCallFailCause : ℤ
  m_callIds : List UInt8
  m_cache : MessageCache

/-- The functions that are subscribed to the completion of a message, with their arguments. -/
inductive Completion
  | handlePinStatusRefreshComplete
  | handleRadioPowerSetModeComplete (request : Request)
  | handleQueryAvailableNetworksComplete (request : Request)
  | handleSetBandModeComplete (request : Request)
  | handleSetPreferredNetworkTypeComplete (request : Request)
  | setPLMNSelectionComplete (request : Request)

namespace RIL

/-- Why the content of memory is not known. -/
inductive Memory
  /-- It has not been stored to. -/
  | uninitialised
  /-- It lies outside of the object that is read. -/
  | outside
  deriving DecidableEq, Repr

/-- What cannot be continued after. -/
inductive Fault
  /-- The payload of a request is used as one of another kind. -/
  | payload
  /-- A null or unknown pointer is followed. -/
  | pointer
  /-- A message is used as an object of a class that it is not of. -/
  | badCast
  /-- More is read from a vector than it holds. -/
  | range
  /-- A table of functions is read outside of its bounds. -/
  | table
  deriving DecidableEq, Repr

/-- What a handler asks of its environment. `execute` leaves the state to others, and gets back what
they make of it. -/
inductive Call
  | execute (message : Message) (handler : RequestHandler)
  | submit (message : Message) (completion : Option Completion)
  | complete (request : Request) (e : RIL_Errno) (response : Response)
  | unsolicited (code : RIL_Unsol) (data : Response)
  | property_get (key default : String)
  | lookupOperator (mccmnc : Bytes)
  /-- Bytes of memory whose content is not known. -/
  | memory (source : Memory) (size : ℕ)
  /-- The end of the process. -/
  | exit
  | fault (fault : Fault)

/-- What a call returns: the names of an operator unless the lookup fails, and nothing after the end
of the process. -/
abbrev Call.Ret : Call → Type
  | execute .. => RequestHandler × Message
  | submit .. | complete .. | unsolicited .. => Unit
  | property_get .. => Bytes
  | lookupOperator .. => Option (Bytes × Bytes)
  | memory _ size => { data : Bytes // data.length = size }
  | exit | fault .. => Empty

end RIL

/-- Code that holds the mutex of the handler. -/
abbrev Ril := StateT RequestHandler (Program RIL.Call.Ret)

namespace RIL

/-- A call that leaves the state as it is. -/
def call (c : Call) : Ril c.Ret := fun handler => Program.call c fun r => pure (r, handler)

def fault {α : Type} (f : Fault) : Ril α := fun _ => Program.call (.fault f) Empty.elim

/-- Unlock, wait for the reply, and lock again. -/
def execute (message : Message) : Ril Message := fun handler =>
  Program.call (.execute message handler) fun r => pure (r.2, r.1)

def submit (message : Message) : Ril Unit := call (.submit message none)

def submitSubscribed (message : Message) (completion : Completion) : Ril Unit :=
  call (.submit message (some completion))

def complete (request : Request) (e : RIL_Errno) (response : Response) : Ril Unit :=
  call (.complete request e response)

def unsolicited (code : RIL_Unsol) (data : Response) : Ril Unit := call (.unsolicited code data)

def memory (source : Memory) (size : ℕ) : Ril { data : Bytes // data.length = size } :=
  call (.memory source size)

def setRadioState (state : RIL_RadioState) : Ril Unit := do
  if state ≠ (← get).m_radioState then do
    modify fun handler => { handler with m_radioState := state }
    unsolicited .RESPONSE_RADIO_STATE_CHANGED .null

/-- The whole of the cache is replaced by `f` of it. -/
def modifyCache (f : MessageCache → MessageCache) : Ril Unit :=
  modify fun handler => { handler with m_cache := f handler.m_cache }

/-- `message_cast` to the class of a message. -/
def message_cast (group : MessageGroup) (definition : MessageDefinition) (message : Message) :
    Ril (Option (Struct definition.fields)) :=
  if message.command = group.type ∧ message.subcommand = definition.type then
    match message.static_cast definition with
    | some value => return some value
    | none => fault .badCast
  else return none

theorem message_cast_accepted {group : MessageGroup} {definition : MessageDefinition}
    {message : Message} (h : message.command = group.type ∧ message.subcommand = definition.type) :
    message_cast group definition message = match message.static_cast definition with
      | some value => return some value
      | none => fault .badCast := if_pos h

theorem message_cast_refused {group : MessageGroup} {definition : MessageDefinition}
    {message : Message}
    (h : ¬ (message.command = group.type ∧ message.subcommand = definition.type)) :
    message_cast group definition message = pure none := if_neg h

/-- A message is one of its own class. -/
theorem message_cast_self (group : MessageGroup) (definition : MessageDefinition)
    (value : Struct definition.fields) :
    message_cast group definition ⟨group, definition, value⟩ = pure (some value) := by
  refine (message_cast_accepted ⟨rfl, rfl⟩).trans ?_
  rw [Message.static_cast_self]

/-- An element of an array of `int`. -/
def intAt (data : Payload) (i : ℕ) : Ril Int32 :=
  match data with
  | .ints values =>
    match values[i]? with
    | some n => return n
    | none => do
      let bytes ← memory .outside 4
      return (UInt32.ofNat (LittleEndian.value bytes.val)).toInt32
  | .null _ => fault .pointer
  | _ => fault .payload

/-- A string, which is never null. -/
def cstring (data : Payload) : Ril CString :=
  match data with
  | .string s => return s
  | .null _ => fault .pointer
  | _ => fault .payload

/-- An element of an array of strings; an unknown pointer is only of use to be followed. -/
def stringAt (data : Payload) (i : ℕ) : Ril (Option CString) :=
  match data with
  | .strings values =>
    match values[i]? with
    | some s => return s
    | none => fault .pointer
  | .null _ => fault .pointer
  | _ => fault .payload

/-- The bytes that a copy of `size` bytes from the start of a vector reads. -/
def readVector (data : Bytes) (size : ℕ) : Ril Bytes :=
  if data.length < size then fault .range else return data.take size

/-- An element of a vector. -/
def readItem {α : Type} (items : List α) (i : ℕ) : Ril α :=
  match items[i]? with
  | some item => return item
  | none => fault .range

/-- A buffer of `size` bytes that holds `fill`, with `data` copied to its front as far as it fits. -/
def padded (size : ℕ) (fill : UInt8) (data : Bytes) : Bytes :=
  data.take size ++ List.replicate (size - data.length) fill

theorem padded_length (size : ℕ) (fill : UInt8) (data : Bytes) :
    (padded size fill data).length = size := by
  rw [padded, List.length_append, List.length_take, List.length_replicate]
  omega

/-- `atoi`, which stays in the range of `int`. -/
def atoi (s : Bytes) : ℤ :=
  let s := s.dropWhile fun c => c = 32 ∨ (9 ≤ c ∧ c ≤ 13)
  let digits := if s.head? = some 43 ∨ s.head? = some 45 then s.tail else s
  let value := (digits.takeWhile fun c => 48 ≤ c ∧ c ≤ 57).foldl
    (fun n c => 10 * n + (c.toNat - 48 : ℤ)) 0
  if s.head? = some 45 then max (-2 ^ 31) (-value) else min (2 ^ 31 - 1) value

/-- The conversion of an `int` to a field of one byte. -/
def toU8 (n : Int32) : UInt8 := n.toUInt32.toUInt8

end RIL

namespace Messages

def GenCommandComplete.Success : UInt16 := 0x8000
def GenCommandComplete.IncorrectPin : UInt16 := 0x0010

end Messages

namespace RequestHandler
open RIL

/-- Complete a request, unless there is none. -/
def completeIfAny (request : Option Request) (e : RIL_Errno) : Ril Unit :=
  match request with
  | some request => complete request e .null
  | none => return ()

/-- What a request is completed with for the `status` of a command. -/
def statusErrno (status : UInt16) : RIL_Errno :=
  if status = GenCommandComplete.Success then .SUCCESS
  else if status = GenCommandComplete.IncorrectPin then .PASSWORD_INCORRECT
  else .GENERIC_FAILURE

/-- The value says whether the command has succeeded. -/
def completeGenCommand (reply : Message) (request : Option Request) : Ril Bool := do
  match ← message_cast CMD_GEN GenCommandComplete reply with
  | none =>
    completeIfAny request .GENERIC_FAILURE
    return false
  | some (_, _, _, status, ()) =>
    completeIfAny request (statusErrno status)
    return statusErrno status = .SUCCESS

/-- Complete a request with the answer to its message, and do nothing else. -/
def completeWith (reply : Message) (request : Request) : Ril Unit := do
  let _ ← completeGenCommand reply (some request)
  return ()

/-- Send a message, and complete a request with what the modem says to it. -/
def executeGenCommand (message : Message) (request : Request) : Ril Unit := do
  let reply ← execute message
  completeWith reply request

/-- `MessageCache::get`. -/
def cached (key : CacheKey) (group : MessageGroup) (definition : MessageDefinition) :
    Ril (Option (Struct definition.fields)) := do
  match (← get).m_cache key with
  | some message => message_cast group definition message
  | none => return none

/-- A message of class `definition` from the cache, or else from the modem, which is asked with
`message` and whose answer is put into the cache. -/
def fromCache (key : CacheKey) (group : MessageGroup) (definition : MessageDefinition)
    (message : Message) (request : Request) (k : Struct definition.fields → Ril Unit) : Ril Unit := do
  match ← cached key group definition with
  | some value => k value
  | none => do
    let reply ← execute message
    match ← message_cast group definition reply with
    | none => complete request .GENERIC_FAILURE .null
    | some value => do
      modifyCache (·.put key reply)
      k value

end RequestHandler
end FreeRil
