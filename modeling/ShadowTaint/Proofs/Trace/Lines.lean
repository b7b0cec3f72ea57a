import ShadowTaint.Proofs.Text.Framing
import ShadowTaint.Trace.Text

/-!
# The lines of a trace

The lines of a file are the pieces between its line feeds. A carriage return before a
line feed goes with it, and a last piece that no line feed ends is a line unless there
is nothing in it. A line says what its text says without the white space at its ends,
so a carriage return that is left at the end of a line makes no difference.
-/

namespace ShadowTaint
namespace TraceText

/-! ### Pieces and lines -/

/-- The lines in the pieces of a file: all of them, but not a last one that is empty. -/
def ofPieces (pieces : List (List UInt8)) : List (List UInt8) :=
  pieces.dropLast ++ pieces.getLast?.toList.filter fun piece => !piece.isEmpty

/-- A piece that a line feed ends, without a carriage return before the line feed. -/
def withoutReturn (piece : List UInt8) : List UInt8 :=
  if piece.getLast? = some 13 then piece.dropLast else piece

/-- The lines of a file as its reader sees them. -/
def textLines (bytes : List UInt8) : List (List UInt8) :=
  let pieces := bytes.splitOn 10
  pieces.dropLast.map withoutReturn ++
    pieces.getLast?.toList.filter fun piece => !piece.isEmpty

/-- A file holds whole lines only: it is empty or ends with a line feed. -/
def Whole (bytes : List UInt8) : Prop := bytes = [] ∨ ∃ before, bytes = before ++ [10]

theorem ofPieces_append
    (before : List (List UInt8))
    {pieces : List (List UInt8)}
    (some : pieces ≠ []) :
    ofPieces (before ++ pieces) = before ++ ofPieces pieces := by
  rw [ofPieces, ofPieces, List.dropLast_append_of_ne_nil some, List.append_assoc,
    List.getLast?_append, List.getLast?_eq_some_getLast some, Option.some_or]

theorem ofPieces_cons
    (piece : List UInt8)
    {pieces : List (List UInt8)}
    (some : pieces ≠ []) :
    ofPieces (piece :: pieces) = piece :: ofPieces pieces :=
  ofPieces_append [piece] some

/-- A piece that nothing was read of is as it is found. -/
theorem modifyHead_unread (pieces : List (List UInt8)) :
    pieces.modifyHead (([] : List UInt8).reverse ++ ·) = pieces :=
  congrFun List.modifyHead_id pieces

theorem linesOnto_finished (finished : List (List UInt8)) (current bytes : List UInt8) :
    linesOnto finished current bytes = finished.reverse ++ linesOnto [] current bytes := by
  induction bytes generalizing finished current with
  | nil =>
      rw [linesOnto, linesOnto]
      split <;> simp
  | cons byte rest inductionHypothesis =>
      rw [linesOnto, linesOnto]
      split
      · rw [inductionHypothesis, inductionHypothesis [current.reverse], List.reverse_cons,
          List.append_assoc]
        rfl
      · exact inductionHypothesis finished _

theorem linesOnto_eq_ofPieces (current bytes : List UInt8) :
    linesOnto [] current bytes =
      ofPieces ((bytes.splitOn 10).modifyHead (current.reverse ++ ·)) := by
  induction bytes generalizing current with
  | nil =>
      rw [linesOnto, List.splitOn_nil, List.modifyHead_cons, List.append_nil]
      cases current <;> simp [ofPieces]
  | cons byte rest inductionHypothesis =>
      rw [linesOnto, List.splitOn_cons_eq_if_modifyHead]
      by_cases feed : byte = 10
      · rw [if_pos feed, if_pos (beq_iff_eq.2 feed), linesOnto_finished, inductionHypothesis,
          List.modifyHead_cons, List.append_nil, ofPieces_cons _ (List.splitOn_ne_nil 10 rest),
          modifyHead_unread]
        rfl
      · rw [if_neg feed, if_neg (by simpa using feed), inductionHypothesis,
          List.modifyHead_modifyHead]
        congr 2
        funext piece
        simp

/-- The lines of a file are its pieces between line feeds. -/
theorem lines_eq_ofPieces (bytes : List UInt8) : lines bytes = ofPieces (bytes.splitOn 10) := by
  rw [lines, linesOnto_eq_ofPieces, modifyHead_unread]

@[simp] theorem lines_nil : lines [] = [] := rfl

/-- What a line feed ends are the lines before it. -/
theorem lines_append_feed (before after : List UInt8) :
    lines (before ++ 10 :: after) = before.splitOn 10 ++ lines after := by
  rw [lines_eq_ofPieces, lines_eq_ofPieces, List.splitOn_append_cons_self,
    ofPieces_append _ (List.splitOn_ne_nil 10 after)]

theorem lines_unbroken
    {line : List UInt8}
    (unbroken : 10 ∉ line) :
    lines line = if line.isEmpty then [] else [line] := by
  rw [lines_eq_ofPieces, List.splitOn_eq_singleton unbroken, ofPieces]
  cases line <;> rfl

theorem lines_line
    {line : List UInt8}
    (unbroken : 10 ∉ line)
    (after : List UInt8) :
    lines (line ++ 10 :: after) = line :: lines after := by
  rw [lines_append_feed, List.splitOn_eq_singleton unbroken, List.singleton_append]

/-- The lines behind whole lines are those of what stands there. -/
theorem Whole.lines_append
    {before : List UInt8}
    (whole : Whole before)
    (after : List UInt8) :
    lines (before ++ after) = lines before ++ lines after := by
  obtain rfl | ⟨before, rfl⟩ := whole
  · rfl
  · rw [List.append_assoc, List.singleton_append, lines_append_feed, lines_append_feed,
      lines_nil, List.append_nil]

/-! ### What a line says -/

/-- The text of a line, without the white space at its ends. -/
def lineText? (line : List UInt8) : Option (List Char) := (Utf8.decode? line).map Blank.trim

/-- A line is text, and it is blank or a comment. -/
def Silent (line : List UInt8) : Prop :=
  ∃ text, lineText? line = some text ∧ isSilent text = true

/-- The event on a line, if there is one. -/
def event? (line : List UInt8) : Option Event :=
  (lineText? line).bind fun text => if isSilent text then none else Event.ofText? text

/-- A line says nothing, or an event. -/
def Readable (line : List UInt8) : Prop := Silent line ∨ (event? line).isSome

theorem silent_iff {line : List UInt8} :
    Silent line ↔ (lineText? line).any isSilent = true :=
  (Option.any_eq_true isSilent (lineText? line)).symm

instance (line : List UInt8) : Decidable (Silent line) :=
  decidable_of_iff ((lineText? line).any isSilent = true) silent_iff.symm

instance (line : List UInt8) : Decidable (Readable line) :=
  inferInstanceAs (Decidable (Silent line ∨ (event? line).isSome = true))

/-- The events on lines. -/
def events (lines : List (List UInt8)) : List Event := lines.filterMap event?

/-- What is wrong with a line that is not readable. -/
def flaw (number : Nat) (line : List UInt8) : Failure :=
  match Utf8.decode? line with
  | none => .invalidText
  | some _ => .malformedLine number

/-- White space around a line does not change what it says, nor whether it is text. -/
theorem lineText?_framed
    {left right : List Char}
    (leftBlank : ∀ char ∈ left, Blank.isBlank char)
    (line : List UInt8)
    (rightBlank : ∀ char ∈ right, Blank.isBlank char) :
    lineText? (Utf8.encode (String.ofList left) ++ line ++ Utf8.encode (String.ofList right)) =
      lineText? line := by
  rw [lineText?, lineText?, Utf8.decode?_framed, Option.map_map]
  congr 1
  funext text
  exact Blank.trim_framed leftBlank text rightBlank

/-- A carriage return at the end of a line is white space. -/
theorem lineText?_return (line : List UInt8) : lineText? (line ++ [13]) = lineText? line := by
  have bytes : Utf8.encode (String.ofList ['\r']) = [13] := by
    rw [Utf8.encode_ofList]
    rfl
  have blank : ∀ char ∈ ['\r'], Blank.isBlank char := List.forall_mem_singleton.2 rfl
  have framed := lineText?_framed (List.forall_mem_nil _) line blank
  rwa [String.ofList_nil, Utf8.encode_empty, List.nil_append, bytes] at framed

theorem lineText?_withoutReturn (piece : List UInt8) :
    lineText? (withoutReturn piece) = lineText? piece := by
  rw [withoutReturn]
  split
  · next returned =>
      obtain ⟨line, rfl⟩ := List.getLast?_eq_some_iff.1 returned
      rw [List.dropLast_concat, lineText?_return]
  · rfl

/-- A reader that leaves the carriage returns where they are reads the same texts. -/
theorem map_lineText?_textLines (bytes : List UInt8) :
    (textLines bytes).map lineText? = (lines bytes).map lineText? := by
  rw [lines_eq_ofPieces, textLines, ofPieces, List.map_append, List.map_append, List.map_map]
  congr 2
  funext piece
  exact lineText?_withoutReturn piece

/-- What is read of a line depends on its text without the white space at its ends. -/
theorem readLine_congr
    (number : Nat)
    {first second : List UInt8}
    (same : lineText? first = lineText? second) :
    readLine number first = readLine number second := by
  have byText : ∀ line, readLine number line =
      (lineText? line).elim (.error .invalidText) fun text =>
        if isSilent text then .ok none
        else (Event.ofText? text).elim (.error (.malformedLine number)) fun event =>
          .ok (some event) := by
    intro line
    rw [readLine, lineText?]
    cases Utf8.decode? line with
    | none => rfl
    | some text =>
        dsimp only [Option.map_some, Option.elim_some]
        cases Event.ofText? (Blank.trim text) <;> rfl
  rw [byText, byText, same]

/-- A line that says nothing has no event. -/
theorem Silent.event?_eq_none
    {line : List UInt8}
    (silent : Silent line) :
    event? line = none := by
  obtain ⟨text, found, silent⟩ := silent
  rw [event?, found, Option.bind_some, if_pos silent]

theorem readLine_of_readable
    (number : Nat)
    {line : List UInt8}
    (readable : Readable line) :
    readLine number line = .ok (event? line) := by
  obtain silent | found := readable
  · rw [silent.event?_eq_none]
    obtain ⟨text, found, silent⟩ := silent
    obtain ⟨whole, decoded, rfl⟩ := Option.map_eq_some_iff.1 found
    rw [readLine, decoded]
    exact if_pos silent
  · obtain ⟨event, found⟩ := Option.isSome_iff_exists.1 found
    rw [found]
    obtain ⟨text, trimmed, isEvent⟩ := Option.bind_eq_some_iff.1 found
    obtain ⟨whole, decoded, rfl⟩ := Option.map_eq_some_iff.1 trimmed
    split at isEvent
    · cases isEvent
    · next speaks =>
        rw [readLine, decoded]
        simp only [isEvent, if_neg speaks]

theorem readLine_of_not_readable
    (number : Nat)
    {line : List UInt8}
    (unreadable : ¬Readable line) :
    readLine number line = .error (flaw number line) := by
  rw [readLine, flaw]
  cases decoded : Utf8.decode? line with
  | none => rfl
  | some text =>
      have found : lineText? line = some (Blank.trim text) := by rw [lineText?, decoded]; rfl
      have speaks : ¬isSilent (Blank.trim text) = true := fun silent =>
        unreadable (.inl ⟨_, found, silent⟩)
      have noEvent : Event.ofText? (Blank.trim text) = none := by
        rw [Option.eq_none_iff_forall_ne_some]
        intro event isEvent
        refine unreadable (.inr ?_)
        rw [event?, found, Option.bind_some, if_neg speaks, isEvent]
        rfl
      simp only [noEvent, if_neg speaks]

end TraceText
end ShadowTaint
