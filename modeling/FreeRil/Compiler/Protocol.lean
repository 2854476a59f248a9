import FreeRil.Compiler.Structure

/-! Protocol descriptions and the message classes generated from them. -/
namespace FreeRil

/-- Whether a message was declared by `in` or by `out`. -/
inductive Direction
  | incoming
  | outgoing
  deriving DecidableEq, Repr

/-- The operations of a request, by the keys of `REQUEST_TYPE_MAP`. -/
inductive RequestType
  | exec
  | get
  | set
  | cfrm
  | event
  deriving DecidableEq, Repr

/-- The enumerators `IPC_CMD_EXEC` to `IPC_CMD_EVENT`. -/
def RequestType.code : RequestType → UInt8
  | exec => 1
  | get => 2
  | set => 3
  | cfrm => 4
  | event => 5

structure MessageDefinition where
  direction : Direction
  id : String
  type : UInt8
  op : RequestType
  fields : List Field

structure MessageGroup where
  id : String
  type : UInt8
  messages : List MessageDefinition
  unsolicited_messages : List String

structure Protocol where
  groups : List MessageGroup

namespace MessageDefinition

/-- The declaration `g.out id, type, op`. -/
def out (id : String) (type : UInt8) (op : RequestType) (fields : List Field) : MessageDefinition :=
  ⟨.outgoing, id, type, op, fields⟩

/-- The declaration `g.in id, type`. -/
def into (id : String) (type : UInt8) (fields : List Field) : MessageDefinition :=
  ⟨.incoming, id, type, .exec, fields⟩

/-- The generated `readFromStream` of a new object: what it returns, and the members and the stream it
leaves. It is `none` where the process ends. -/
def readFromStream (m : MessageDefinition) (memory : Memory) (s : DataStream) :
    Option (Bool × Struct m.fields × DataStream) :=
  let old := newStructure memory m.fields 0
  if s.caughtExceptionHere then some (false, old, s)
  else (readMessage memory m.fields old [] s).map fun r => (true, r)

/-- The generated `writeToStream`: what it returns, and the stream it leaves. -/
def writeToStream (m : MessageDefinition) (v : Struct m.fields) (s : DataStream) : Bool × DataStream :=
  if s.caughtExceptionHere then (false, s) else (true, writeMessage m.fields v s)

end MessageDefinition

/-- An object of a generated class. -/
structure Message where
  group : MessageGroup
  definition : MessageDefinition
  value : Struct definition.fields

namespace Message

def command (m : Message) : UInt8 := m.group.type

def subcommand (m : Message) : UInt8 := m.definition.type

def requestType (m : Message) : RequestType := m.definition.op

/-- The generated `deliver` hands the message to the receiver, or returns false. -/
def deliver (m : Message) : Bool := m.group.unsolicited_messages.contains m.definition.id

/-- The bytes that `writeToStream` leaves in an empty buffer, where it does not return false. -/
def marshal (m : Message) : Option Bytes :=
  let (written, s) := m.definition.writeToStream m.value (.init [] .Write)
  if written then some s.m_buffer else none

end Message
end FreeRil
