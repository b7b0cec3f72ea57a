import ShadowTaint.Encoding.Event
import ShadowTaint.Stop
import ShadowTaint.Text.Blank
import ShadowTaint.Text.Utf8
import ShadowTaint.Trace.Replay

/-!
# Traces as text

A trace is a file with one event per line. Blank lines and lines that start with
`#` say nothing. A line that is no text, or no event, ends the replay, and so
does an event that breaks a contract; what came before stays applied. Lines are
counted from one, with those that say nothing.
-/

namespace ShadowTaint

namespace TraceText

/-- The lines of a file, onto finished lines in reverse and the bytes of the
current line in reverse. A line feed ends a line; the last line may lack it. -/
def linesOnto (finished : List (List UInt8)) (current : List UInt8) :
    List UInt8 -> List (List UInt8)
  | [] => (if current.isEmpty then finished else current.reverse :: finished).reverse
  | byte :: rest =>
      if byte = 10 then linesOnto (current.reverse :: finished) [] rest
      else linesOnto finished (byte :: current) rest

/-- The lines of a file, without their line feeds. -/
def lines (bytes : List UInt8) : List (List UInt8) := linesOnto [] [] bytes

/-- A line says nothing: it is blank or a comment. -/
def isSilent (trimmed : List Char) : Bool :=
  match trimmed with
  | [] => true
  | first :: _ => first == '#'

/-- What a line with a given number says: an event, or nothing. -/
def readLine (number : Nat) (bytes : List UInt8) : Except Failure (Option Event) :=
  match Utf8.decode? bytes with
  | none => .error .invalidText
  | some text =>
      let trimmed := Blank.trim text
      if isSilent trimmed then .ok none
      else
        match Event.ofText? trimmed with
        | some event => .ok (some event)
        | none => .error (.malformedLine number)

end TraceText

namespace Analysis

/-- Replay numbered lines, counting the events that were applied. -/
def replayLines (analysis : Analysis) (replay : Replay) (number applied : Nat) :
    List (List UInt8) -> Reached Stop Replay Nat
  | [] => .done replay applied
  | line :: rest =>
      match TraceText.readLine number line with
      | .error failure => .stopped replay (.failure failure)
      | .ok none => analysis.replayLines replay (number + 1) applied rest
      | .ok (some event) =>
          match analysis.apply replay event with
          | ⟨next, .ok ()⟩ => analysis.replayLines next (number + 1) (applied + 1) rest
          | ⟨next, .error fault⟩ => .stopped next (.fault fault)

/-- Replay a file. The value is the number of events in it. -/
def replay (analysis : Analysis) (replay : Replay) (bytes : List UInt8) :
    Reached Stop Replay Nat :=
  analysis.replayLines replay 1 0 (TraceText.lines bytes)

end Analysis
end ShadowTaint
