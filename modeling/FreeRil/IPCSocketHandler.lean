import FreeRil.Library.Machine
import FreeRil.Library.Cursor
import FreeRil.Message
import FreeRil.Protocol
import Mathlib.Order.CompletePartialOrder

/-! The handler of the IPC channel: sequence numbers, requests in the air and the queue.
`m_messagesInAir` is a map from numbers to messages. An iterator whose element has been erased
compares unequal to `end()`, as the node it points at is not the end node; using it is a fault. -/
namespace FreeRil

instance sequenceNumberOrder : LinearOrder UInt8 where
  le_refl := UInt8.le_refl
  le_trans := fun _ _ _ => UInt8.le_trans
  le_antisymm := fun _ _ => UInt8.le_antisymm
  le_total := UInt8.le_total
  lt_iff_le_not_ge := fun a b => by
    simp only [UInt8.lt_iff_toNat_lt, UInt8.le_iff_toNat_le]
    omega
  toDecidableLE := inferInstance
  toDecidableEq := inferInstance
  toDecidableLT := inferInstance

/-- What the handler must never do. -/
inductive Fault
  /-- Use `m_allocationIterator` where it stands at no element. -/
  | iterator
  /-- Copy `header.length - sizeof(Message::Header)` bytes where the difference underflows. -/
  | copySize
  /-- Read a payload outside the bytes received. -/
  | payloadRange
  /-- Ask for more memory than there is, which ends the process. -/
  | memory
  deriving DecidableEq, Repr

/-- What the handler does besides changing its state. -/
inductive Action
  | send (frame : Bytes) (header : Header) (message : Message)
  | complete (request : Message) (reply : Option Message)
  | deliver (message : Message)

structure IPCSocketHandler where
  m_messagesInAir : UInt8 → Option Message
  m_freeSequenceNumbers : Finset UInt8
  m_messageQueue : List Message
  m_allocationIterator : Cursor UInt8

namespace IPCSocketHandler

/-- The numbers `0` to `0xFE` of the loop in the constructor. -/
def sequenceNumbers : Finset UInt8 := (Finset.range 255).image UInt8.ofNat

/-- The state the constructor leaves. -/
def init : IPCSocketHandler where
  m_messagesInAir := fun _ => none
  m_freeSequenceNumbers := sequenceNumbers
  m_messageQueue := []
  m_allocationIterator := Cursor.first sequenceNumbers

/-- The frame handed to `sendData`: a buffer of `header.length` bytes. -/
def sendMessage (header : Header) (data : Bytes) : Except Fault Bytes :=
  if header.length.toNat < Header.size then .error .copySize
  else .ok (header.toBytes ++ data.take header.payloadLength)

/-- The header of a request with sequence number `mseq` and a payload of `size` bytes. -/
def requestHeader (message : Message) (mseq : UInt8) (size : ℕ) : Header where
  length := UInt16.ofNat (Header.size + size)
  mseq := mseq
  aseq := 0
  mainCommand := message.command
  subCommand := message.subcommand
  responseType := message.requestType.code

/-- `std::map::insert`, which keeps what is already there. -/
def insertInAir (inAir : UInt8 → Option Message) (mseq : UInt8) (message : Message) :
    UInt8 → Option Message :=
  if (inAir mseq).isSome then inAir else Function.update inAir mseq (some message)

def submit (s : IPCSocketHandler) (message : Message) :
    Except Fault (IPCSocketHandler × List Action) :=
  if s.m_freeSequenceNumbers.card = 0 then
    .ok ({ s with m_messageQueue := s.m_messageQueue ++ [message] }, [])
  else
    match message.marshal with
    | none => .ok (s, [.complete message none])
    | some data =>
      match s.m_allocationIterator with
      | .elem val => do
        let iterator := Cursor.cycle s.m_freeSequenceNumbers val
        let header := requestHeader message val data.length
        let frame ← sendMessage header data
        if header.responseType ≠ RequestType.event.code then
          return ({ s with
            m_messagesInAir := insertInAir s.m_messagesInAir val message
            m_freeSequenceNumbers := s.m_freeSequenceNumbers.erase val
            m_allocationIterator := iterator.erased val }, [.send frame header message])
        else
          return ({ s with m_allocationIterator := iterator }, [.send frame header message])
      | _ => .error .iterator

/-- The message in the data behind a header, as far as `handleMessage` gets to it: `none` where
the factory does not know the type, or the body does not demarshal to its end. -/
def demarshal (p : Protocol) (header : Header) (data : Bytes) (memory : Memory) :
    Except Fault (Option Message) :=
  match Factory.create p header.mainCommand header.subCommand with
  | none => .ok none
  | some (g, d) =>
    if data.length < header.payloadLength then .error .payloadRange
    else
      match d.readFromStream memory (.init (data.take header.payloadLength) .Read) with
      | none => .error .memory
      | some (read, v, stream) => if read ∧ stream.atEnd then .ok (some ⟨g, d, v⟩) else .ok none

/-- The branch of `handleMessage` for `IPC_CMD_RESP`. -/
def handleResponse (s : IPCSocketHandler) (header : Header) (message : Message) :
    Except Fault (IPCSocketHandler × List Action) :=
  match s.m_messagesInAir header.aseq with
  | none => .ok (s, [])
  | some requestMessage => do
    let s := { s with
      m_messagesInAir := Function.update s.m_messagesInAir header.aseq none
      m_freeSequenceNumbers := insert header.aseq s.m_freeSequenceNumbers }
    let (s, drained) ←
      if s.m_allocationIterator = .past then
        let s := { s with m_allocationIterator := Cursor.first s.m_freeSequenceNumbers }
        match s.m_messageQueue with
        | [] => .ok (s, [])
        | queued :: rest => submit { s with m_messageQueue := rest } queued
      else .ok (s, [])
    return (s, drained ++ [.complete requestMessage (some message)])

def handleMessage (p : Protocol) (s : IPCSocketHandler) (header : Header) (data : Bytes)
    (memory : Memory) : Except Fault (IPCSocketHandler × List Action) := do
  match ← demarshal p header data memory with
  | none => return (s, [])
  | some message =>
    if header.responseType = IPC_CMD_INDI ∨ header.responseType = IPC_CMD_NOTI then
      return (s, if message.deliver then [.deliver message] else [])
    else if header.responseType = IPC_CMD_RESP then
      handleResponse s header message
    else
      return (s, [])

def handleReassembledMessage (p : Protocol) (s : IPCSocketHandler) (data : Bytes) (memory : Memory) :
    Except Fault (IPCSocketHandler × List Action) :=
  handleMessage p s (Header.ofBytes data) (data.drop Header.size) memory

/-- What the worker thread feeds the handler with, in the order it does so; a frame with the memory that
its message is read into. -/
inductive Event
  | submit (message : Message)
  | frame (header : Header) (data : Bytes) (memory : Memory)

/-- The handler as the worker thread drives it. -/
def machine (p : Protocol) : Machine IPCSocketHandler Event (List Action) Fault where
  init := init
  step s e := match e with
    | .submit message => submit s message
    | .frame header data memory => handleMessage p s header data memory

end IPCSocketHandler
end FreeRil
