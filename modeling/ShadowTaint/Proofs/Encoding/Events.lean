import ShadowTaint.Encoding.Event
import ShadowTaint.Proofs.Encoding.Instructions

/-!
# Events are read as they are written

An event comes back from its text, whatever its kind and its parts. So no two events have
the same text, and a text that is read and written again has reached its normal form: it
may have used second names, left out defaults or listed registers in any order before,
but reading and writing change it no further.
-/

namespace ShadowTaint

open Json (Record)

namespace Context

@[simp] theorem ofJson?_toJson (context : Context) :
    ofJson? context.toJson = some context := by
  have values : Json.listOf Json.uint32?
      (.array (context.values.toList.map fun value => .integer value.toNat)) =
        some context.values.toList :=
    Json.listOf_map _ Json.uint32?_toNat
  have array : context.values.toList.toArray = context.values.toArray := Array.toArray_toList
  rw [toJson, ofJson?, Json.record?_object]
  · simp [values, array]
  · decide
  · rfl

theorem fits (room : Nat) (context : Context) : Json.Fits (room + 2) context.toJson := by
  refine .object ?_
  rw [List.forall_mem_cons, List.forall_mem_singleton]
  exact ⟨.list _ (Json.Fits.uint32 room), .uint32 _ context.flags.bits⟩

end Context

namespace MemoryArgument

@[simp] theorem ofJson?_toJson (loose : Bool) (argument : MemoryArgument) :
    ofJson? loose argument.toJson = some argument := by
  rw [toJson, ofJson?, Json.record?_object]
  · simp
  · decide
  · rfl

theorem fits (room : Nat) (argument : MemoryArgument) :
    Json.Fits (room + 1) argument.toJson := by
  refine .object ?_
  simp only [List.forall_mem_cons]
  exact ⟨.string room _, .uint32 room argument.address, .uint32 room argument.length,
    List.forall_mem_nil _⟩

end MemoryArgument

namespace Event

/-- An event has the fields of its kind. -/
theorem names_fields (event : Event) : event.fields.map Prod.fst = event.kind.fieldNames := by
  cases event <;> rfl

/-- No field of an event has the name under which its kind is told. -/
theorem event_notMem_fieldNames (kind : EventKind) : "event" ∉ kind.fieldNames := by
  cases kind <;> decide

theorem nodup_fieldNames (kind : EventKind) : kind.fieldNames.Nodup := by
  cases kind <;> decide

/-- An event of any kind comes back from its fields. -/
theorem ofRecord?_fields (event : Event) : ofRecord? event.kind ⟨event.fields⟩ = some event := by
  cases event with
  | step thread instr context =>
      simp [ofRecord?, kind, fields]
  | callEntry thread number arguments =>
      have found := Json.listOf_map arguments Json.uint32?_toNat
      simp [ofRecord?, kind, fields, found]
  | callReturn thread call =>
      have each (arguments : List MemoryArgument) :=
        Json.listOf_map arguments (MemoryArgument.ofJson?_toJson true)
      have found := Json.nullable_ofOption call.arguments each fun arguments => by rintro ⟨⟩
      simp [ofRecord?, kind, fields, found]
  | taint address length label? =>
      have found := Json.nullable_ofOption label? Json.uint8?_toNat fun label => by rintro ⟨⟩
      simp [ofRecord?, kind, fields, found]
  | untaint address length =>
      simp [ofRecord?, kind, fields]
  | threadExit thread =>
      simp [ofRecord?, kind, fields]

theorem ofJson?_toJson (event : Event) : ofJson? event.toJson = some event := by
  have apart : ∀ field ∈ event.fields, field.1 ∉ ["event"] := by
    intro field mem named
    have theirs := List.mem_map_of_mem (f := Prod.fst) mem
    rw [event.names_fields, List.mem_singleton.1 named] at theirs
    exact event_notMem_fieldNames _ theirs
  have other : ∀ field ∈ [("event", Json.string event.kind.name)],
      field.1 ∉ event.kind.fieldNames :=
    List.forall_mem_singleton.2 (event_notMem_fieldNames _)
  have distinct : ["event"].Nodup := by decide
  have named : [("event", Json.string event.kind.name)].map Prod.fst = ["event"] := rfl
  have tag : Record.ofMembers? ["event"] (("event", .string event.kind.name) :: event.fields) =
      some ⟨[("event", .string event.kind.name)]⟩ :=
    Record.ofMembers?_before distinct named apart
  have kind : (Record.required ⟨[("event", Json.string event.kind.name)]⟩ "event" Json.string?
      >>= EventKind.ofName?) = some event.kind := event.kind.ofName?_name
  have record : Record.ofMembers? event.kind.fieldNames
      (("event", .string event.kind.name) :: event.fields) = some ⟨event.fields⟩ :=
    Record.ofMembers?_behind (nodup_fieldNames _) event.names_fields other
  refine Option.bind_eq_some_iff.2 ⟨_, tag, ?_⟩
  refine Option.bind_eq_some_iff.2 ⟨_, kind, ?_⟩
  exact Option.bind_eq_some_iff.2 ⟨_, record, event.ofRecord?_fields⟩

/-- The fields of an event nest no deeper than an instruction. -/
theorem fits_fields (room : Nat) (event : Event) :
    ∀ field ∈ event.fields, Json.Fits (room + 4) field.2 := by
  cases event with
  | step thread instr context =>
      rw [fields, List.forall_mem_cons, List.forall_mem_cons, List.forall_mem_singleton]
      exact ⟨.uint32 _ thread, instr.fits room, context.fits _⟩
  | callEntry thread number arguments =>
      rw [fields, List.forall_mem_cons, List.forall_mem_cons, List.forall_mem_singleton]
      exact ⟨.uint32 _ thread, .uint32 _ number, .list arguments (Json.Fits.uint32 _)⟩
  | callReturn thread call =>
      rw [fields, List.forall_mem_cons, List.forall_mem_cons, List.forall_mem_cons,
        List.forall_mem_singleton]
      exact ⟨.uint32 _ thread, .uint32 _ call.number, .boolean _ call.succeeded,
        .ofOption call.arguments fun arguments => .list arguments (MemoryArgument.fits _)⟩
  | taint address length label? =>
      rw [fields, List.forall_mem_cons, List.forall_mem_cons, List.forall_mem_singleton]
      exact ⟨.uint32 _ address, .uint32 _ length, .ofOption label? (Json.Fits.uint8 _)⟩
  | untaint address length =>
      rw [fields, List.forall_mem_cons, List.forall_mem_singleton]
      exact ⟨.uint32 _ address, .uint32 _ length⟩
  | threadExit thread => exact List.forall_mem_singleton.2 (.uint32 _ thread)

/-- The containers of an event need much less room than a reader has. -/
theorem fits (event : Event) : Json.Fits Json.depthLimit event.toJson := by
  have all : ∀ field ∈ ("event", Json.string event.kind.name) :: event.fields,
      Json.Fits (122 + 4) field.2 :=
    List.forall_mem_cons.2 ⟨.string _ _, event.fits_fields 122⟩
  exact .object all

/-- An event comes back from its text. -/
theorem ofText?_text (event : Event) : ofText? event.text.toList = some event := by
  rw [ofText?, text, event.fits.read_compact, Option.bind_some, event.ofJson?_toJson]

/-- Read a text and write it again. -/
def normalize? (text : List Char) : Option String := (ofText? text).map Event.text

/-- Every event comes back from its text. So events with the same text are the same, and a
text that was read and written once is read as before and written as it is. -/
theorem text_is_normal_form :
    (∀ event : Event, ofText? event.text.toList = some event) ∧
    (∀ first second : Event, first.text = second.text → first = second) ∧
    (∀ (text : List Char) (normal : String), normalize? text = some normal →
      ofText? normal.toList = ofText? text ∧ normalize? normal.toList = some normal) := by
  refine ⟨ofText?_text, ?injective, ?idempotent⟩
  case injective =>
    intro first second same
    have firstRead := first.ofText?_text
    rw [same, second.ofText?_text] at firstRead
    exact (Option.some.inj firstRead).symm
  case idempotent =>
    intro text normal normalized
    obtain ⟨event, read, rfl⟩ := Option.map_eq_some_iff.1 normalized
    rw [normalize?, event.ofText?_text, read]
    exact ⟨rfl, rfl⟩

/-- A text with second names, without defaults, with its fields out of order and with a
register listed twice is read as the event whose text has none of this. -/
theorem text_is_normal_form_variant :
    let variant := "\x7b\"instr\":\x7b\"writeback\":true,\"regs\":[\"pc\",\"r4\",\"lr\",\"r4\"]," ++
      "\"base\":\"sp\",\"mode\":\"ia\",\"family\":\"load_multiple\",\"predicate\":\"hs\"," ++
      "\"opcode\":\"ldmia\"\x7d,\"event\":\"step\"\x7d"
    let block : BlockTransfer :=
      ⟨.incrementAfter, Reg.sp, RegList.ofList [⟨4⟩, Reg.lr, Reg.pc], true⟩
    let event : Event := .step 0 ⟨0, .ldmia, some .cs, .loadMultiple block⟩ Context.zero
    variant ≠ event.text ∧
      normalize? variant.toList = some event.text ∧
      normalize? event.text.toList = some event.text := by
  intro variant block event
  have read : ofText? variant.toList = some event := by decide +kernel
  have normalized : normalize? variant.toList = some event.text := by
    rw [normalize?, read, Option.map_some]
  exact ⟨by decide +kernel, normalized, (text_is_normal_form.2.2 _ _ normalized).2⟩

end Event
end ShadowTaint
