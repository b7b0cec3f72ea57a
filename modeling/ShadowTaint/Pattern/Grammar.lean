import ShadowTaint.Pattern.Set
import ShadowTaint.Text.Letter

/-!
# The grammar of patterns

A pattern is a regular expression. It consists of branches with bars between them,
and a branch is a row of parts: atoms, sets, and groups in parentheses. A part may be
repeated. Whether a pattern can be used is all that matters here: it has to follow the
grammar, every part of it has to be one that can be matched, and its parts must not
nest too deep.
-/

namespace ShadowTaint
namespace Pattern

/-! ## Groups -/

/-- What an opening parenthesis begins. -/
inductive Opening
  /-- A group with options and perhaps a name. -/
  | group (options : Options) (name : Option (List Char))
  /-- No group, but options for the rest of the group around. -/
  | change (options : Options)

/-- A character may stand in the name of a group, at its start or later. -/
def isGroupNameChar (isFirst : Bool) (char : Char) : Bool :=
  if isFirst then char == '_' || Letter.isAlphabetic char
  else char == '_' || char == '.' || char == '[' || char == ']' || Letter.isAlphanumeric char

/-- A text is the name of a group. -/
def isGroupName : List Char -> Bool
  | [] => false
  | first :: rest => isGroupNameChar true first && rest.all (isGroupNameChar false)

/-- Read the name of a group and its closing mark. -/
def groupName? (text : List Char) : Option (List Char × List Char) :=
  match text.dropWhile (· != '>') with
  | _ :: rest =>
      let name := text.takeWhile (· != '>')
      if isGroupName name then some (name, rest) else none
  | [] => none

/-- Read what an opening parenthesis begins. Options alone must not be empty. -/
def opening? (options : Options) (text : List Char) : Option (Opening × List Char) :=
  match options.skip text with
  | '?' :: 'P' :: '<' :: rest | '?' :: '<' :: rest =>
      (groupName? rest).map fun found => (.group options (some found.1), found.2)
  | '?' :: ')' :: _ => none
  | '?' :: rest =>
      match options.letters? [] rest with
      | some (options, ':', rest) => some (.group options none, rest)
      | some (options, _, rest) => some (.change options, rest)
      | none => none
  | rest => some (.group options none, rest)

/-! ## Branches -/

/-- A group that is being read. -/
structure OpenGroup where
  /-- The options that come back behind the group. -/
  outside : Options
  /-- The parts of the current branch. -/
  row : Row
  /-- The depth of the last part, if it can be repeated. -/
  last : Option Nat
  /-- The depth of the deepest branch before the current one. -/
  branches : Option Nat
  deriving DecidableEq

namespace OpenGroup

/-- A group of which nothing has been read. -/
def start (outside : Options) : OpenGroup := ⟨outside, .empty, none, none⟩

/-- A part that can be repeated follows. -/
def add (group : OpenGroup) (depth : Nat) : OpenGroup :=
  { group with row := group.row.add depth, last := some depth }

/-- A change of options follows. It is a part, but cannot be repeated. -/
def addChange (group : OpenGroup) : OpenGroup :=
  { group with row := group.row.add 0, last := none }

/-- The last part is repeated. -/
def repeat? (group : OpenGroup) : Option OpenGroup :=
  group.last.map fun depth =>
    { group with row := group.row.deepen (depth + 1), last := some (depth + 1) }

/-- A bar ends the current branch. -/
def branch (group : OpenGroup) : OpenGroup :=
  { group with
    row := .empty
    last := none
    branches := some (max (group.branches.getD 0) group.row.depth) }

/-- The depth of the group so far, its parentheses not counted. -/
def content (group : OpenGroup) : Nat := combine group.branches group.row.depth

end OpenGroup

/-! ## Patterns -/

/-- A pattern that has been read in part. -/
structure Draft where
  options : Options
  /-- The names of groups so far. -/
  names : List (List Char)
  /-- The innermost open group; the whole pattern counts as one. -/
  group : OpenGroup
  /-- The groups around it, innermost first. -/
  around : List OpenGroup

namespace Draft

/-- Nothing has been read. -/
def start : Draft := ⟨.standard, [], .start .standard, []⟩

/-- A part that can be repeated follows. -/
def add (draft : Draft) (depth : Nat) : Draft :=
  { draft with group := draft.group.add depth }

/-- What begins behind an opening parenthesis. No name comes twice. -/
def begin? (draft : Draft) : Opening -> Option Draft
  | .change options =>
      some { draft with options := options, group := draft.group.addChange }
  | .group options name =>
      if name.any draft.names.contains then none
      else some {
        options := options
        names := name.toList ++ draft.names
        group := .start draft.options
        around := draft.group :: draft.around }

/-- A closing parenthesis ends the innermost group. -/
def close? (draft : Draft) : Option Draft :=
  match draft.around with
  | [] => none
  | outer :: around =>
      some { draft with
        options := draft.group.outside
        group := outer.add (draft.group.content + 1)
        around := around }

/-- The last part is repeated; a question mark behind that belongs to it. -/
def repeat? (draft : Draft) (text : List Char) : Option (Draft × List Char) :=
  draft.group.repeat?.map fun group =>
    ({ draft with group := group }, match text with
      | '?' :: rest => rest
      | _ => text)

/-- Read one part. No part begins with a brace: whoever holds a pattern between braces
ends it at the first closing one, so that a count is never complete. -/
def step? (draft : Draft) (text : List Char) : Option (Draft × List Char) :=
  match text with
  | '(' :: rest => do
      let (opening, rest) ← opening? draft.options rest
      let draft ← draft.begin? opening
      return (draft, rest)
  | ')' :: rest => draft.close?.map fun draft => (draft, rest)
  | '|' :: rest => some ({ draft with group := draft.group.branch }, rest)
  | '?' :: rest | '*' :: rest | '+' :: rest => draft.repeat? rest
  | '[' :: rest => (set? draft.options rest).map fun found => (draft.add found.1, found.2)
  | '\x7b' :: _ => none
  | _ => do
      let (atom, rest) ← Atom.read? draft.options text
      if atom.isUsable draft.options then return (draft.add 0, rest) else none

/-- Read a pattern to its end, in at most a number of steps. -/
def run? : Nat -> Draft -> List Char -> Option Draft
  | 0, _, _ => none
  | fuel + 1, draft, text =>
      match draft.options.skip text with
      | [] => some draft
      | char :: rest =>
          match draft.step? (char :: rest) with
          | some (draft, rest) => run? fuel draft rest
          | none => none

end Draft

/-- A pattern can be used. Every step reads at least one character. -/
def isUsable (text : List Char) : Bool :=
  match Draft.start.run? (text.length + 1) text with
  | some draft => draft.around.isEmpty && draft.group.content ≤ depthLimit
  | none => false

end Pattern
end ShadowTaint
