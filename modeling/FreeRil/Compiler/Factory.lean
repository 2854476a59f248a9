import FreeRil.Compiler.Protocol

/-! The enumerations and dispatch tables of the generated message factory. -/
namespace FreeRil

structure Enum where
  name : String
  values : List (String × ℕ)

namespace Enum

def min (e : Enum) : ℕ := (e.values.map Prod.snd).min?.getD 0

def max (e : Enum) : ℕ := (e.values.map Prod.snd).max?.getD 0

/-- The generator stops with an error on an enumeration without values. -/
def add_minmax (e : Enum) (pre : String) : Enum :=
  { e with values := e.values ++ [(pre ++ "FIRST", e.min), (pre ++ "LAST", e.max)] }

end Enum

namespace MessageGroup

def fullname (g : MessageGroup) (m : MessageDefinition) : String := g.id ++ "_" ++ m.id

def enum (g : MessageGroup) : Enum :=
  Enum.add_minmax ⟨g.id, g.messages.map fun m => (g.fullname m, m.type.toNat)⟩ (g.id ++ "_")

end MessageGroup

namespace Protocol
variable (p : Protocol)

def cmdEnum : Enum :=
  Enum.add_minmax ⟨"CMD", p.groups.map fun g => ("CMD_" ++ g.id, g.type.toNat)⟩ "CMD_"

/-- The messages by their full names; a later message replaces an earlier one of its name. -/
def message_map (key : String) : Option (MessageGroup × MessageDefinition) :=
  (p.groups.flatMap fun g => g.messages.map fun m => (g, m)).reverse.find?
    fun gm => gm.1.fullname gm.2 = key

/-- Whether the value `key` of an enumeration claims its slot of the dispatch table. -/
def dispatches (e : Enum) (key : String) (slot : Option String) : Bool :=
  (match p.message_map key with
    | some gm => gm.2.direction = .incoming
    | none => false) || (e.name = "CMD" && slot.isNone)

/-- The names of the functions in the table generated for an enumeration; `none` is `NULL`. -/
def functions (e : Enum) : List (Option String) :=
  e.values.foldl
    (fun table kv =>
      if p.dispatches e kv.1 (table.getD (kv.2 - e.min) none) then
        table.set (kv.2 - e.min) (some ("create" ++ kv.1))
      else table)
    (List.replicate (e.max - e.min + 1) none)

end Protocol

namespace Factory

def createFromDispatchTable (table : List (Option String)) (first last type : ℕ) : Option String :=
  if type < first ∨ type > last then none else table.getD (type - first) none

/-- `createCMD_` of a group, which looks the subcommand up in the table of the group and
constructs an object of the class found there. -/
def createCMD (p : Protocol) (g : MessageGroup) (subcommand : UInt8) :
    Option (MessageGroup × MessageDefinition) := do
  let factory ← createFromDispatchTable (p.functions g.enum) g.enum.min g.enum.max subcommand.toNat
  (p.groups.flatMap fun g => g.messages.map fun m => (g, m)).find?
    fun gm => "create" ++ gm.1.fullname gm.2 = factory

/-- The class of the object the factory constructs. -/
def create (p : Protocol) (command subcommand : UInt8) : Option (MessageGroup × MessageDefinition) := do
  let factory ← createFromDispatchTable (p.functions p.cmdEnum) p.cmdEnum.min p.cmdEnum.max
    command.toNat
  let g ← p.groups.find? fun g => "createCMD_" ++ g.id = factory
  createCMD p g subcommand

end Factory
end FreeRil
