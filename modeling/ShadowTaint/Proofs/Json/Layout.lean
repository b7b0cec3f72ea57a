import ShadowTaint.Proofs.Json.Texts

/-!
# Indented texts

An indented text holds the tokens of its value, as a compact text does, with line breaks
and blanks between them. No token stretches over a line break, so the two texts of a value
are read alike.
-/

namespace ShadowTaint

namespace Token

/-! ### Blanks between tokens -/

theorem readOnto_blank
    {char : Char}
    (blank : isBlank char = true)
    (reversed : List Token)
    (rest : List Char) :
    readOnto reversed (char :: rest) = readOnto reversed rest := by
  rw [readOnto, if_pos blank]

/-- Blanks in front of a text hold no token. -/
theorem Reads.blanks
    {blanks text : List Char}
    {tokens : List Token}
    (blank : ∀ char ∈ blanks, isBlank char = true)
    (reads : Reads text tokens) :
    Reads (blanks ++ text) tokens := by
  induction blanks with
  | nil => exact reads
  | cons char others inductionHypothesis =>
      rw [List.forall_mem_cons] at blank
      intro reversed rest ends
      rw [List.cons_append, List.cons_append, readOnto_blank blank.1]
      exact inductionHypothesis blank.2 reversed rest ends

theorem isBlank_of_mem_lineBreak {level : Nat} {char : Char} (mem : char ∈ Json.lineBreak level) :
    isBlank char = true := by
  obtain rfl | inIndent := List.mem_cons.1 mem
  · rfl
  · rw [List.eq_of_mem_replicate inIndent]
    rfl

/-- A text may begin on a line of its own. -/
theorem Reads.onLine
    {text : List Char}
    {tokens : List Token}
    (reads : Reads text tokens)
    (level : Nat) :
    Reads (Json.lineBreak level ++ text) tokens :=
  reads.blanks fun _ mem => isBlank_of_mem_lineBreak mem

/-- A text may go on on a new line. -/
theorem Reads.broken
    {before behind : List Char}
    {first second : List Token}
    (readsBefore : Reads before first)
    (level : Nat)
    (readsBehind : Reads behind second) :
    Reads (before ++ Json.lineBreak level ++ behind) (first ++ second) := by
  intro reversed rest ends
  have endsBefore : EndsWord (Json.lineBreak level ++ behind ++ rest) := rfl
  rw [List.append_assoc before, List.append_assoc before, readsBefore _ _ endsBefore,
    readsBehind.onLine level _ _ ends, List.reverse_append, List.append_assoc]

/-- A blank may stand between a colon and a value. -/
theorem Reads.spacedMember
    (name : String)
    {value : List Char}
    {second : List Token}
    (readsValue : Reads value second) :
    Reads (Json.literal name ++ ':' :: ' ' :: value)
      (.scalar (.string name) :: .colon :: second) := by
  have spaced : Reads ([' '] ++ value) second :=
    readsValue.blanks (List.forall_mem_singleton.2 rfl)
  exact .member name spaced

end Token

namespace Json

/-! ### Items and members on lines of their own -/

theorem reads_prettyItems
    {items : List Json}
    {level : Nat}
    (each : ∀ item ∈ items, Token.Reads (prettyChars level item) (tokens item)) :
    Token.Reads (prettyItems level items) (itemTokens items) := by
  induction items with
  | nil => exact .nil
  | cons item rest inductionHypothesis =>
      have here := (each item List.mem_cons_self).onLine level
      have behind := inductionHypothesis fun other mem => each other (List.mem_cons_of_mem _ mem)
      cases rest with
      | nil => exact here
      | cons next rest => exact .mark rfl here behind

theorem reads_prettyMembers
    {members : List (String × Json)}
    {level : Nat}
    (each : ∀ member ∈ members, Token.Reads (prettyChars level member.2) (tokens member.2)) :
    Token.Reads (prettyMembers level members) (memberTokens members) := by
  induction members with
  | nil => exact .nil
  | cons member rest inductionHypothesis =>
      obtain ⟨name, value⟩ := member
      have here : Token.Reads (prettyChars level value) (tokens value) :=
        each _ List.mem_cons_self
      have behind := inductionHypothesis fun other mem => each other (List.mem_cons_of_mem _ mem)
      cases rest with
      | nil =>
          rw [prettyMembers, List.append_assoc]
          exact (Token.Reads.spacedMember name here).onLine level
      | cons next rest =>
          rw [prettyMembers, List.append_assoc]
          exact (Token.Reads.spacedMember name (.mark rfl here behind)).onLine level

/-- The indented text of a value holds its tokens, at whatever level it stands. -/
theorem Fits.reads_pretty {room : Nat} {value : Json} (fits : Fits room value) (level : Nat) :
    Token.Reads (prettyChars level value) (tokens value) := by
  have closing {char : Char} {token : Token} (mark : Token.mark? char = some token) :
      Token.Reads [char] [token] := .mark mark .nil .nil
  induction fits generalizing level with
  | null room => exact (Fits.null room).reads
  | boolean room value => exact (Fits.boolean room value).reads
  | integer room fits => exact (Fits.integer room fits).reads
  | string room text => exact (Fits.string room text).reads
  | @array _ items _ inductionHypothesis =>
      cases items with
      | nil => exact .opening rfl (closing rfl)
      | cons item rest =>
          have inside := reads_prettyItems fun item mem => inductionHypothesis item mem (level + 1)
          exact .opening rfl (.broken inside level (closing rfl))
  | @object _ members _ inductionHypothesis =>
      cases members with
      | nil => exact .opening rfl (closing rfl)
      | cons member rest =>
          have inside := reads_prettyMembers fun member mem =>
            inductionHypothesis member mem (level + 1)
          exact .opening rfl (.broken inside level (closing rfl))

/-- An indented value is read as it is written. -/
theorem Fits.read_pretty {value : Json} (fits : Fits depthLimit value) :
    read value.pretty.toList = some value := by
  rw [pretty, String.toList_ofList]
  exact fits.read_of_reads (fits.reads_pretty 0)

end Json
end ShadowTaint
