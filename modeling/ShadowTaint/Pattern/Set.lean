import ShadowTaint.Pattern.Atom
import ShadowTaint.Pattern.Depth

/-!
# Pattern sets

A set of characters stands in brackets. It holds characters, ranges, classes with
names, and sets; a caret at its start negates it. Doubled marks are operators between
such rows of items. Dashes at the start of a set stand for themselves, and so does a
closing bracket that is the very first item.
-/

namespace ShadowTaint
namespace Pattern

/-- The names of classes of characters. -/
def classNames : List String := [
  "alnum", "alpha", "ascii", "blank", "cntrl", "digit", "graph", "lower", "print",
  "punct", "space", "upper", "word", "xdigit"]

/-- Read a class with a name behind its bracket, and tell whether it is negated. -/
def namedClass? (text : List Char) : Option (Bool × List Char) :=
  match text with
  | ':' :: rest =>
      let (isNegated, rest) := match rest with
        | '^' :: rest => (true, rest)
        | _ => (false, rest)
      match rest.dropWhile (· != ':') with
      | ':' :: ']' :: behind =>
          if classNames.contains (String.ofList (rest.takeWhile (· != ':'))) then
            some (isNegated, behind)
          else none
      | _ => none
  | _ => none

/-- A class with a name can be matched. -/
def isClassUsable (options : Options) (isNegated : Bool) : Bool :=
  if options.unicode then !options.ignoresCase else !isNegated

/-- A set that is being read. -/
structure OpenSet where
  /-- Nothing but dashes has been read. -/
  isFresh : Bool
  /-- The items behind the last operator. -/
  items : Row
  /-- The depth of what stands before that operator. -/
  left : Option Nat
  deriving DecidableEq

namespace OpenSet

/-- A set has one more item. -/
def add (set : OpenSet) (depth : Nat) : OpenSet :=
  { set with isFresh := false, items := set.items.add depth }

/-- A set has one more dash at its start. -/
def addDash (set : OpenSet) : OpenSet := { set with items := set.items.add 0 }

/-- The depth of the set so far, its brackets not counted. -/
def content (set : OpenSet) : Nat := combine set.left set.items.depth

/-- An operator follows. -/
def operate (set : OpenSet) : OpenSet := ⟨false, .empty, some set.content⟩

/-- The depth of the set. -/
def depth (set : OpenSet) : Nat := set.content + 1

/-- Open a set behind its bracket. Negation needs all characters to be text. -/
def open? (options : Options) (text : List Char) : Option (OpenSet × List Char) :=
  match options.skip text with
  | '^' :: rest => if options.unicode then some (⟨true, .empty, none⟩, rest) else none
  | rest => some (⟨true, .empty, none⟩, rest)

end OpenSet

/-- Read a dash and the end of a range that starts with an atom, if there is one. -/
def rangeEnd? (options : Options) (first : Atom) (text : List Char) :
    Option (List Char) :=
  match options.skip text with
  | '-' :: rest =>
      if options.peek rest = some ']' ∨ options.peek rest = some '-' then some ('-' :: rest)
      else do
        let (last, rest) ← Atom.readInSet? options (options.skip rest)
        let low ← first.code?
        let high ← last.code?
        if last.isUsableInSet options && low ≤ high then return rest else none
  | rest => some rest

/-- Read an atom or a range. -/
def range? (options : Options) (text : List Char) : Option (List Char) := do
  let (first, rest) ← Atom.readInSet? options text
  if first.isUsableInSet options then rangeEnd? options first rest else none

/-- A character in a set stands for itself: a dash at its start, or a bracket that is
its first item. -/
def standsForItself (set : OpenSet) (char : Char) : Bool :=
  set.isFresh && (char == '-' || (char == ']' && set.items.count == 0))

/-- A set with a character that stands for itself. -/
def OpenSet.addItself (set : OpenSet) (char : Char) : OpenSet :=
  if char = '-' then set.addDash else set.add 0

/-- Read the rest of a set, in at most a number of steps. The sets around it are
given, innermost first. The answer is the depth of the outermost set. -/
def setWithin? (options : Options) :
    Nat -> OpenSet -> List OpenSet -> List Char -> Option (Nat × List Char)
  | 0, _, _, _ => none
  | fuel + 1, set, around, text =>
      match options.skip text with
      | [] => none
      | char :: rest =>
          if standsForItself set char then
            if (Atom.literal char false).isUsableInSet options then
              setWithin? options fuel (set.addItself char) around rest
            else none
          else
            match char, rest with
            | '[', rest =>
                match namedClass? rest with
                | some (isNegated, behind) =>
                    if isClassUsable options isNegated then
                      setWithin? options fuel (set.add 0) around behind
                    else none
                | none =>
                    match OpenSet.open? options rest with
                    | some (inner, behind) =>
                        setWithin? options fuel inner (set :: around) behind
                    | none => none
            | ']', rest =>
                match around with
                | [] => some (set.depth, rest)
                | outer :: around => setWithin? options fuel (outer.add set.depth) around rest
            | '&', '&' :: rest | '-', '-' :: rest | '~', '~' :: rest =>
                setWithin? options fuel set.operate around rest
            | char, rest =>
                match range? options (char :: rest) with
                | some behind => setWithin? options fuel (set.add 0) around behind
                | none => none

/-- Read a set behind its bracket. The answer is its depth. -/
def set? (options : Options) (text : List Char) : Option (Nat × List Char) := do
  let (set, rest) ← OpenSet.open? options text
  setWithin? options (rest.length + 1) set [] rest

end Pattern
end ShadowTaint
