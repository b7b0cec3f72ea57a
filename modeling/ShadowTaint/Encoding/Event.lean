import ShadowTaint.Encoding.Instruction
import ShadowTaint.Json.Printer
import ShadowTaint.Json.Reader
import ShadowTaint.Trace.Event

/-!
# Events in traces

An event is an object with the name of its kind and the fields of the kind, in
any order, or an array of the name and the fields in declared order. Written
events are objects with every field.
-/

namespace ShadowTaint

namespace Context

/-- A context as its register values and its flag word. -/
def toJson (context : Context) : Json :=
  .object [
    ("regs", .array (context.values.toList.map fun value => .integer value.toNat)),
    ("flags", .integer context.flags.bits.toNat)]

/-- The context of a record. All register values are required; flags are clear
by default. -/
def ofJson? (value : Json) : Option Context := do
  let record ← value.record? ["regs", "flags"]
  let values ← record.required "regs" (Json.listOf Json.uint32?)
  let flags ← record.optional "flags" 0 Json.uint32?
  if sixteen : values.toArray.size = 16 then
    return ⟨⟨values.toArray, sixteen⟩, ⟨flags⟩⟩
  else none

end Context

namespace MemoryArgument

/-- A memory argument with all its fields. -/
def toJson (argument : MemoryArgument) : Json :=
  .object [
    ("direction", .string argument.direction.name),
    ("addr", .integer argument.address.toNat),
    ("len", .integer argument.length.toNat)]

/-- The memory argument of a record. -/
def ofJson? (loose : Bool) (value : Json) : Option MemoryArgument := do
  let record ← value.record? ["direction", "addr", "len"]
  let direction ← record.required "direction" (Json.named? loose Direction.ofName?)
  let address ← record.required "addr" Json.uint32?
  let length ← record.required "len" Json.uint32?
  return ⟨direction, address, length⟩

end MemoryArgument

/-- The kinds of events. -/
inductive EventKind
  | step | callEntry | callReturn | taint | untaint | threadExit
  deriving DecidableEq

namespace EventKind

/-- The name of a kind of event. -/
def name : EventKind -> String
  | step => "step"
  | callEntry => "syscall_enter"
  | callReturn => "syscall_exit"
  | taint => "taint"
  | untaint => "untaint"
  | threadExit => "thread_exit"

/-- The kind of event with a given name. -/
def ofName? : String -> Option EventKind
  | "step" => some step
  | "syscall_enter" => some callEntry
  | "syscall_exit" => some callReturn
  | "taint" => some taint
  | "untaint" => some untaint
  | "thread_exit" => some threadExit
  | _ => none

/-- The names of the fields of a kind, in order. -/
def fieldNames : EventKind -> List String
  | step => ["tid", "instr", "ctx"]
  | callEntry => ["tid", "sysnum", "args"]
  | callReturn => ["tid", "sysnum", "succeeded", "mem_args"]
  | taint => ["addr", "len", "label"]
  | untaint => ["addr", "len"]
  | threadExit => ["tid"]

@[simp] theorem ofName?_name (kind : EventKind) : ofName? kind.name = some kind := by
  cases kind <;> rfl

end EventKind

namespace Event

/-- The kind of an event. -/
def kind : Event -> EventKind
  | step _ _ _ => .step
  | callEntry _ _ _ => .callEntry
  | callReturn _ _ => .callReturn
  | taint _ _ _ => .taint
  | untaint _ _ => .untaint
  | threadExit _ => .threadExit

/-- The fields of an event, in the order of its kind. -/
def fields : Event -> List (String × Json)
  | step thread instr context =>
      [("tid", .integer thread.toNat), ("instr", instr.toJson), ("ctx", context.toJson)]
  | callEntry thread number arguments =>
      [("tid", .integer thread.toNat), ("sysnum", .integer number.toNat),
        ("args", .array (arguments.map fun value => .integer value.toNat))]
  | callReturn thread call =>
      [("tid", .integer thread.toNat), ("sysnum", .integer call.number.toNat),
        ("succeeded", .boolean call.succeeded),
        ("mem_args", Json.ofOption (fun arguments => .array (arguments.map MemoryArgument.toJson))
          call.arguments)]
  | taint address length label =>
      [("addr", .integer address.toNat), ("len", .integer length.toNat),
        ("label", Json.ofOption (fun value => .integer value.toNat) label)]
  | untaint address length =>
      [("addr", .integer address.toNat), ("len", .integer length.toNat)]
  | threadExit thread => [("tid", .integer thread.toNat)]

/-- An event as an object with all its fields. -/
def toJson (event : Event) : Json :=
  .object (("event", .string event.kind.name) :: event.fields)

/-- The event of a kind that a record holds. -/
def ofRecord? (kind : EventKind) (record : Json.Record) : Option Event :=
  let thread : Option UInt32 := record.optional "tid" 0 Json.uint32?
  let word (name : String) : Option UInt32 := record.required name Json.uint32?
  match kind with
  | .step =>
      return step (← thread) (← record.required "instr" (Instruction.ofJson? true))
        (← record.optional "ctx" Context.zero Context.ofJson?)
  | .callEntry =>
      return callEntry (← thread) (← word "sysnum")
        (← record.optional "args" [] (Json.listOf Json.uint32?))
  | .callReturn =>
      return callReturn (← thread) ⟨← word "sysnum", ← record.required "succeeded" Json.boolean?,
        ← record.optional "mem_args" none
          (Json.nullable (Json.listOf (MemoryArgument.ofJson? true)))⟩
  | .taint =>
      return taint (← word "addr") (← word "len")
        (← record.optional "label" none (Json.nullable Json.uint8?))
  | .untaint => return untaint (← word "addr") (← word "len")
  | .threadExit => return threadExit (← thread)

/-- The event that a value denotes. -/
def ofJson? : Json -> Option Event
  | .object members => do
      let tag ← Json.Record.ofMembers? ["event"] members
      let kind ← tag.required "event" Json.string? >>= EventKind.ofName?
      let record ← Json.Record.ofMembers? kind.fieldNames members
      ofRecord? kind record
  | .array (.string name :: items) => do
      let kind ← EventKind.ofName? name
      let record ← Json.Record.ofItems? kind.fieldNames items
      ofRecord? kind record
  | _ => none

/-- The text of an event. -/
def text (event : Event) : String := event.toJson.compact

/-- The event that a text denotes. -/
def ofText? (text : List Char) : Option Event := (Json.read text).bind ofJson?

end Event

namespace Instruction

/-- The text of an instruction. -/
def text (instr : Instruction) : String := instr.toJson.compact

/-- The instruction that a text denotes. -/
def ofText? (text : List Char) : Option Instruction :=
  (Json.read text).bind (ofJson? false)

end Instruction
end ShadowTaint
