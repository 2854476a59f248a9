import FreeRil.Compiler.Cast
import FreeRil.Protocol

/-! The objects that the generated factory constructs, and the casts of them. -/
namespace FreeRil

namespace Factory

/-- The generated `isTypeOf`. -/
def isTypeOf (g : MessageGroup) (m : MessageDefinition) (message : Message) : Bool :=
  message.command = g.type && message.subcommand = m.type

/-- `message_cast` to the class of `m`: the same pointer, or `NULL`. -/
def message_cast (g : MessageGroup) (m : MessageDefinition) (message : Option Message) :
    Option Message :=
  message.filter (isTypeOf g m)

end Factory

namespace Protocol
open Factory
variable (p : Protocol)

/-- The bounds that the generator makes up. -/
def bounds : List String :=
  p.groups.flatMap (fun g => [g.id ++ "_" ++ "FIRST", g.id ++ "_" ++ "LAST"]) ++
    ["CMD_" ++ "FIRST", "CMD_" ++ "LAST"]

variable {p}

namespace WellDescribed
variable (h : p.WellDescribed) {g : MessageGroup} {m : MessageDefinition}
include h

end WellDescribed

end Protocol
end FreeRil
