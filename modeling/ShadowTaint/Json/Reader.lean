import ShadowTaint.Json.Token

/-!
# Reading JSON

A reader takes one token at a time. It remembers the containers that are open,
and what may come next. Containers may nest up to a limit, which is reached by
counting the outermost container too. After the last token the reader has a
value if it has read exactly one.
-/

namespace ShadowTaint

/-- A container that has been opened, with what it holds so far in reverse. -/
inductive OpenContainer
  | items (reversed : List Json)
  | members (reversed : List (Option String × Json))
  /-- A member of the container below, whose value is to come. Its name may denote no
  text. -/
  | member (name : Option String)

/-- What may come next. -/
inductive Expected
  /-- A value. -/
  | value
  /-- A value, or the end of the array that was just opened. -/
  | valueOrClose
  /-- A comma, or the end of the innermost container. -/
  | separator
  /-- A member name. -/
  | name
  /-- A member name, or the end of the object that was just opened. -/
  | nameOrClose
  /-- A colon. -/
  | colon
  /-- Nothing: the value is complete. -/
  | nothing (value : Json)

/-- The state of a reader. -/
structure Reader where
  /-- How many containers may be open at once. -/
  limit : Nat
  /-- How many containers are open. -/
  depth : Nat
  containers : List OpenContainer
  expected : Expected

namespace Reader

/-- A reader at the beginning of a text. -/
def start (limit : Nat) : Reader := ⟨limit, 0, [], .value⟩

/-- A value is complete: it goes into the innermost container. -/
def supply (reader : Reader) (value : Json) : Option Reader :=
  match reader.containers with
  | [] => some { reader with expected := .nothing value }
  | .items reversed :: rest =>
      some { reader with
        containers := .items (value :: reversed) :: rest
        expected := .separator }
  | .member name :: .members reversed :: rest =>
      some { reader with
        containers := .members ((name, value) :: reversed) :: rest
        expected := .separator }
  | _ => none

/-- A container begins. -/
def openContainer (reader : Reader) (container : OpenContainer) (expected : Expected) :
    Option Reader :=
  if reader.depth < reader.limit then
    some { reader with
      depth := reader.depth + 1
      containers := container :: reader.containers
      expected := expected }
  else none

/-- The innermost container ends, and is a value. -/
def closeContainer (reader : Reader) (value : Json) (rest : List OpenContainer) :
    Option Reader :=
  { reader with depth := reader.depth - 1, containers := rest }.supply value

/-- A value may begin here. -/
def expectsValue (reader : Reader) : Bool :=
  match reader.expected with
  | .value | .valueOrClose => true
  | _ => false

/-- A member name may come here. -/
def expectsName (reader : Reader) : Bool :=
  match reader.expected with
  | .name | .nameOrClose => true
  | _ => false

/-- The innermost container may end here. -/
def mayClose (reader : Reader) : Bool :=
  match reader.expected with
  | .valueOrClose | .nameOrClose | .separator => true
  | _ => false

/-- A member name is read. -/
def nameMember (reader : Reader) (name : Option String) : Reader :=
  { reader with containers := .member name :: reader.containers, expected := .colon }

/-- Take one token. -/
def step (reader : Reader) (token : Token) : Option Reader :=
  match token with
  | .openArray =>
      if reader.expectsValue then reader.openContainer (.items []) .valueOrClose else none
  | .openObject =>
      if reader.expectsValue then reader.openContainer (.members []) .nameOrClose else none
  | .closeArray =>
      match reader.mayClose, reader.containers with
      | true, .items reversed :: rest => reader.closeContainer (.array reversed.reverse) rest
      | _, _ => none
  | .closeObject =>
      match reader.mayClose, reader.containers with
      | true, .members reversed :: rest => reader.closeContainer (.ofMembers reversed.reverse) rest
      | _, _ => none
  | .comma =>
      match reader.expected, reader.containers with
      | .separator, .items _ :: _ => some { reader with expected := .value }
      | .separator, .members _ :: _ => some { reader with expected := .name }
      | _, _ => none
  | .colon =>
      match reader.expected with
      | .colon => some { reader with expected := .value }
      | _ => none
  | .scalar value =>
      if reader.expectsValue then reader.supply value
      else if reader.expectsName then
        match value with
        | .string name => some (reader.nameMember name)
        | .unpaired => some (reader.nameMember none)
        | _ => none
      else none

/-- Take tokens in order. -/
def run (reader : Reader) (tokens : List Token) : Option Reader := tokens.foldlM step reader

/-- The value that was read, if it is complete. -/
def value? (reader : Reader) : Option Json :=
  match reader.expected with
  | .nothing value => some value
  | _ => none

/-- Taking tokens of an append is taking those of the first part, then the
others. -/
theorem run_append (reader : Reader) (first second : List Token) :
    reader.run (first ++ second) = (reader.run first).bind fun next => next.run second :=
  List.foldlM_append

end Reader

namespace Json

/-- How deep containers may nest in data that is held as a whole. -/
def depthLimit : Nat := 127

/-- The value of a text in which containers nest up to a limit. -/
def readNested (limit : Nat) (text : List Char) : Option Json := do
  let tokens ← Token.read text
  let reader ← (Reader.start limit).run tokens
  reader.value?

/-- The value of a text, every part of which can be held. -/
def read (text : List Char) : Option Json :=
  (readNested depthLimit text).filter isRepresentable

end Json
end ShadowTaint
