import ShadowTaint.Json.Reader
import ShadowTaint.Proofs.Json.Scalars

/-!
# Values are read as they are written

A text without blanks holds the tokens of its value and nothing else. A reader that
takes these tokens, one after the other, supplies the value to the container that
waits for it. So a value comes back from its text, provided that its numbers are
integers of 64 bits and that its containers nest no deeper than a reader follows.
-/

namespace ShadowTaint
namespace Json

/-- A value can be written and read: its numbers are integers of 64 bits, its strings are
texts, and its containers nest no deeper than there is room. -/
inductive Fits : Nat → Json → Prop
  | null (room : Nat) : Fits room null
  | boolean (room : Nat) (value : Bool) : Fits room (boolean value)
  | integer (room : Nat) {value : Int} (fits : Numeral.Fits value) : Fits room (integer value)
  | string (room : Nat) (text : String) : Fits room (string text)
  | array {room : Nat} {items : List Json} (fit : ∀ item ∈ items, Fits room item) :
      Fits (room + 1) (array items)
  | object {room : Nat} {members : List (String × Json)}
      (fit : ∀ member ∈ members, Fits room member.2) :
      Fits (room + 1) (object members)

mutual

/-- The tokens of a value. -/
def tokens : Json -> List Token
  | array items => .openArray :: (itemTokens items ++ [.closeArray])
  | object members => .openObject :: (memberTokens members ++ [.closeObject])
  | scalar => [.scalar scalar]

/-- The tokens of items, with commas between them. -/
def itemTokens : List Json -> List Token
  | [] => []
  | [item] => tokens item
  | item :: next :: rest => tokens item ++ .comma :: itemTokens (next :: rest)

/-- The tokens of members, with commas between them. -/
def memberTokens : List (String × Json) -> List Token
  | [] => []
  | [(name, value)] => .scalar (string name) :: .colon :: tokens value
  | (name, value) :: next :: rest =>
      .scalar (string name) :: .colon :: (tokens value ++ .comma :: memberTokens (next :: rest))

end

end Json

namespace Token

/-! ### Tokens of a text -/

/-- A word cannot go on: no word character follows. -/
def EndsWord (rest : List Char) : Prop := rest.takeWhile isWordChar = []

/-- A text has the given tokens, wherever it stands before something that ends a word. -/
def Reads (text : List Char) (tokens : List Token) : Prop :=
  ∀ reversed rest, EndsWord rest →
    readOnto reversed (text ++ rest) = readOnto (tokens.reverse ++ reversed) rest

/-- A mark is neither a blank nor part of a word. -/
theorem solid_of_mark? {char : Char} {token : Token} (mark : mark? char = some token) :
    isBlank char = false ∧ isWordChar char = false := by
  unfold mark? at mark
  split at mark
  all_goals first | exact ⟨rfl, rfl⟩ | cases mark

/-- Part of a word is neither a blank nor a mark, and begins no string literal. -/
theorem solid_of_isWordChar {char : Char} (word : isWordChar char = true) :
    isBlank char = false ∧ mark? char = none ∧ char ≠ '"' := by
  refine ⟨?_, ?_, ?_⟩
  · rw [Bool.eq_false_iff]
    intro blank
    simp only [isBlank, Bool.or_eq_true, beq_iff_eq] at blank
    obtain ((rfl | rfl) | rfl) | rfl := blank <;> cases word
  · rw [Option.eq_none_iff_forall_ne_some]
    intro token mark
    rw [(solid_of_mark? mark).2] at word
    cases word
  · rintro rfl
    cases word

theorem readOnto_starting {char : Char} {rest behind : List Char} {token : Token}
    (solid : isBlank char = false)
    (found : starting? char rest = some (token, behind))
    (reversed : List Token) :
    readOnto reversed (char :: rest) = readOnto (token :: reversed) behind := by
  rw [readOnto, if_neg (by rw [solid]; exact Bool.false_ne_true)]
  split
  · next same =>
      rw [found] at same
      cases same
      rfl
  · next none =>
      rw [found] at none
      cases none

theorem Reads.nil : Reads [] [] := fun _ _ _ => rfl

/-- A mark may stand between any two texts. -/
theorem Reads.mark
    {char : Char}
    {token : Token}
    {before behind : List Char}
    {first second : List Token}
    (mark : mark? char = some token)
    (readsBefore : Reads before first)
    (readsBehind : Reads behind second) :
    Reads (before ++ char :: behind) (first ++ token :: second) := by
  intro reversed rest ends
  obtain ⟨solid, noWord⟩ := solid_of_mark? mark
  have endsBefore : EndsWord (char :: (behind ++ rest)) := by
    rw [EndsWord, List.takeWhile_cons, noWord]
    rfl
  have marked : starting? char (behind ++ rest) = some (token, behind ++ rest) := by
    rw [starting?, mark]
  rw [List.append_assoc, List.cons_append, readsBefore _ _ endsBefore,
    readOnto_starting solid marked, readsBehind _ _ ends, List.reverse_append,
    List.reverse_cons, List.append_assoc, List.append_assoc, List.singleton_append]

/-- A mark may stand at the beginning. -/
theorem Reads.opening
    {char : Char}
    {token : Token}
    {behind : List Char}
    {second : List Token}
    (mark : mark? char = some token)
    (readsBehind : Reads behind second) :
    Reads (char :: behind) (token :: second) :=
  .mark mark .nil readsBehind

/-- A string literal is one token. -/
theorem Reads.literal (text : String) : Reads (Json.literal text) [.scalar (.string text)] := by
  intro reversed rest _
  have read : literal? .empty (text.toList.flatMap Json.escape ++ '"' :: rest) =
      some (.string text, rest) := by
    have denoted := literal?_literal [] text.toList rest
    rwa [List.reverse_nil, List.nil_append, String.ofList_toList] at denoted
  have found : starting? '"' (text.toList.flatMap Json.escape ++ '"' :: rest) =
      some (.scalar (.string text), rest) := by
    show (literal? _ _).map _ = _
    rw [read]
    rfl
  rw [Json.literal, List.cons_append, List.append_assoc, List.singleton_append,
    readOnto_starting rfl found]
  rfl

/-- A member is its name, a colon and the tokens of its value. -/
theorem Reads.member
    (name : String)
    {value : List Char}
    {second : List Token}
    (readsValue : Reads value second) :
    Reads (Json.literal name ++ ':' :: value) (.scalar (.string name) :: .colon :: second) := by
  have parts : Reads (Json.literal name ++ ':' :: value)
      ([.scalar (.string name)] ++ .colon :: second) :=
    .mark rfl (.literal name) readsValue
  exact parts

/-- A word is one token. -/
theorem Reads.word
    {first : Char}
    {word : List Char}
    {value : Json}
    (all : (first :: word).all isWordChar = true)
    (denotes : word? (first :: word) = some value) :
    Reads (first :: word) [.scalar value] := by
  intro reversed rest ends
  rw [List.all_eq_true] at all
  obtain ⟨solid, noMark, noQuote⟩ := solid_of_isWordChar (all first List.mem_cons_self)
  have allBehind : ∀ char ∈ word, isWordChar char = true := fun char mem =>
    all char (List.mem_cons_of_mem _ mem)
  have taken : (word ++ rest).takeWhile isWordChar = word := by
    rw [List.takeWhile_append_of_pos allBehind, ends, List.append_nil]
  have dropped : (word ++ rest).dropWhile isWordChar = rest := by
    have whole := List.takeWhile_append_dropWhile (p := isWordChar) (l := rest)
    rwa [ends, List.nil_append, ← List.dropWhile_append_of_pos allBehind] at whole
  have found : starting? first (word ++ rest) = some (.scalar value, rest) := by
    rw [starting?, noMark]
    simp only [if_neg noQuote, if_pos (all first List.mem_cons_self)]
    rw [taken, dropped, denotes]
    rfl
  rw [List.cons_append, readOnto_starting solid found]
  rfl

end Token

namespace Json

theorem reads_items
    {items : List Json}
    (each : ∀ item ∈ items, Token.Reads (compactChars item) (tokens item)) :
    Token.Reads (compactItems items) (itemTokens items) := by
  induction items with
  | nil => exact .nil
  | cons item rest inductionHypothesis =>
      have here := each item List.mem_cons_self
      have behind := inductionHypothesis fun other mem => each other (List.mem_cons_of_mem _ mem)
      cases rest with
      | nil => exact here
      | cons next rest => exact .mark rfl here behind

theorem reads_members
    {members : List (String × Json)}
    (each : ∀ member ∈ members, Token.Reads (compactChars member.2) (tokens member.2)) :
    Token.Reads (compactMembers members) (memberTokens members) := by
  induction members with
  | nil => exact .nil
  | cons member rest inductionHypothesis =>
      obtain ⟨name, value⟩ := member
      have here : Token.Reads (compactChars value) (tokens value) := each _ List.mem_cons_self
      have behind := inductionHypothesis fun other mem => each other (List.mem_cons_of_mem _ mem)
      cases rest with
      | nil => exact .member name here
      | cons next rest => exact .member name (.mark rfl here behind)

/-- The text of a value holds its tokens. -/
theorem Fits.reads {room : Nat} {value : Json} (fits : Fits room value) :
    Token.Reads (compactChars value) (tokens value) := by
  induction fits with
  | null => exact .word rfl rfl
  | boolean _ value =>
      cases value with
      | false => exact .word rfl rfl
      | true => exact .word rfl rfl
  | @integer _ value fits =>
      have denotes := Token.word?_integerText fits
      have all : (integerText value).all Token.isWordChar = true :=
        List.all_eq_true.2 fun _ mem => Token.isWordChar_of_mem_integerText mem
      show Token.Reads (integerText value) [.scalar (.integer value)]
      cases digits : integerText value with
      | nil =>
          rw [digits] at denotes
          cases denotes
      | cons first rest =>
          rw [digits] at denotes all
          exact .word all denotes
  | string _ text => exact .literal text
  | array _ each => exact .opening rfl (.mark rfl (reads_items each) .nil)
  | object _ each => exact .opening rfl (.mark rfl (reads_members each) .nil)

end Json

namespace Reader

/-! ### Taking the tokens of a value -/

/-- A reader takes tokens as if the value were supplied at once, wherever it expects one
and the containers of the value find room. -/
def Takes (room : Nat) (tokens : List Token) (value : Json) : Prop :=
  ∀ reader : Reader, reader.expectsValue = true → reader.depth + room ≤ reader.limit →
    reader.run tokens = reader.supply value

theorem run_cons (reader : Reader) (token : Token) (tokens : List Token) :
    reader.run (token :: tokens) = (reader.step token).bind fun next => next.run tokens :=
  List.foldlM_cons

theorem run_singleton (reader : Reader) (token : Token) :
    reader.run [token] = reader.step token := by
  rw [run_cons]
  exact Option.bind_fun_some _

theorem Takes.scalar (room : Nat) (value : Json) : Takes room [.scalar value] value := by
  intro reader expects _
  rw [run_singleton]
  exact if_pos expects

/-- The reader that has taken items into the innermost container. -/
theorem run_items
    {room : Nat}
    {items : List Json}
    (each : ∀ item ∈ items, Takes room (Json.tokens item) item)
    {limit depth : Nat}
    (fits : depth + room ≤ limit)
    (reversed : List Json)
    (rest : List OpenContainer)
    {expected : Expected}
    (expects : expected = .value ∨ expected = .valueOrClose)
    (some : items ≠ []) :
    Reader.run ⟨limit, depth, .items reversed :: rest, expected⟩ (Json.itemTokens items) =
      Option.some ⟨limit, depth, .items (items.reverse ++ reversed) :: rest, .separator⟩ := by
  induction items generalizing reversed expected with
  | nil => exact absurd rfl some
  | cons item others inductionHypothesis =>
      have expecting :
          (⟨limit, depth, .items reversed :: rest, expected⟩ : Reader).expectsValue = true := by
        obtain rfl | rfl := expects <;> rfl
      have taken := each item List.mem_cons_self _ expecting fits
      cases others with
      | nil => exact taken
      | cons next others =>
          have behind := inductionHypothesis
            (fun other mem => each other (List.mem_cons_of_mem _ mem)) (item :: reversed)
            (.inl rfl) (List.cons_ne_nil _ _)
          rw [Json.itemTokens, run_append, taken, List.reverse_cons, List.append_assoc]
          exact behind

/-- The reader that has taken members into the innermost container. -/
theorem run_members
    {room : Nat}
    {members : List (String × Json)}
    (each : ∀ member ∈ members, Takes room (Json.tokens member.2) member.2)
    {limit depth : Nat}
    (fits : depth + room ≤ limit)
    (reversed : List (Option String × Json))
    (rest : List OpenContainer)
    {expected : Expected}
    (expects : expected = .name ∨ expected = .nameOrClose)
    (some : members ≠ []) :
    Reader.run ⟨limit, depth, .members reversed :: rest, expected⟩ (Json.memberTokens members) =
      Option.some ⟨limit, depth,
        .members ((members.map fun member => (Option.some member.1, member.2)).reverse ++ reversed)
          :: rest, .separator⟩ := by
  induction members generalizing reversed expected with
  | nil => exact absurd rfl some
  | cons member others inductionHypothesis =>
      obtain ⟨name, value⟩ := member
      have named (behind : List Token) :
          Reader.run ⟨limit, depth, .members reversed :: rest, expected⟩
              (.scalar (.string name) :: .colon :: behind) =
            Reader.run ⟨limit, depth, .member (.some name) :: .members reversed :: rest, .value⟩
              behind := by
        obtain rfl | rfl := expects <;> rfl
      have taken : Reader.run
          ⟨limit, depth, .member (.some name) :: .members reversed :: rest, .value⟩
          (Json.tokens value) = _ := each (name, value) List.mem_cons_self _ rfl fits
      cases others with
      | nil => exact (named _).trans taken
      | cons next others =>
          have behind := inductionHypothesis
            (fun other mem => each other (List.mem_cons_of_mem _ mem))
            ((.some name, value) :: reversed) (.inl rfl) (List.cons_ne_nil _ _)
          rw [Json.memberTokens, named, run_append, taken, List.map_cons, List.reverse_cons,
            List.append_assoc]
          exact behind

/-- A container takes one more level, from its first token to its last one. -/
theorem Takes.container
    {room : Nat}
    {first : Token}
    {behind : List Token}
    {opened : OpenContainer}
    {begun : Expected}
    {value : Json}
    (opens : ∀ reader : Reader, reader.expectsValue = true →
      reader.step first = reader.openContainer opened begun)
    (filled : ∀ limit depth rest expected, depth + 1 + room ≤ limit →
      Reader.run ⟨limit, depth + 1, opened :: rest, begun⟩ behind =
        Reader.supply ⟨limit, depth, rest, expected⟩ value) :
    Takes (room + 1) (first :: behind) value := by
  rintro ⟨limit, depth, rest, expected⟩ expects deep
  have fits : depth + 1 + room ≤ limit := by
    rw [Nat.add_right_comm]
    exact deep
  have below : depth < limit := by omega
  rw [run_cons, opens _ expects, openContainer, if_pos below]
  exact filled limit depth rest expected fits

/-- The items of an array are taken one level below it. -/
theorem Takes.array
    {room : Nat}
    {items : List Json}
    (each : ∀ item ∈ items, Takes room (Json.tokens item) item) :
    Takes (room + 1) (.openArray :: (Json.itemTokens items ++ [.closeArray])) (.array items) := by
  refine .container (fun _ expects => if_pos expects) fun limit depth rest expected fits => ?_
  have closes {last : Expected} (closing : last = .valueOrClose ∨ last = .separator) :
      Reader.step ⟨limit, depth + 1, .items items.reverse :: rest, last⟩ .closeArray =
        Reader.supply ⟨limit, depth, rest, expected⟩ (.array items) := by
    conv => rhs; rw [← items.reverse_reverse]
    obtain rfl | rfl := closing <;> rfl
  by_cases empty : items = []
  · subst empty
    exact (run_singleton _ _).trans (closes (.inl rfl))
  · have run := run_items each fits [] rest (.inr rfl) empty
    rw [List.append_nil] at run
    rw [run_append, run, Option.bind_some, run_singleton, closes (.inr rfl)]

/-- The members that were taken make an object, for all their names are texts. -/
theorem ofMembers_some (members : List (String × Json)) :
    Json.ofMembers (members.map fun member => (some member.1, member.2)) = .object members := by
  have named : (members.map fun member => (some member.1, member.2)).mapM
      (fun member : Option String × Json => member.1.map fun name => (name, member.2)) =
        some members := by
    induction members with
    | nil => rfl
    | cons member rest inductionHypothesis =>
        rw [List.map_cons, List.mapM_cons, inductionHypothesis]
        rfl
  rw [Json.ofMembers, named]

/-- The members of an object are taken one level below it. -/
theorem Takes.object
    {room : Nat}
    {members : List (String × Json)}
    (each : ∀ member ∈ members, Takes room (Json.tokens member.2) member.2) :
    Takes (room + 1) (.openObject :: (Json.memberTokens members ++ [.closeObject]))
      (.object members) := by
  refine .container (fun _ expects => if_pos expects) fun limit depth rest expected fits => ?_
  have closes {last : Expected} (closing : last = .nameOrClose ∨ last = .separator) :
      Reader.step ⟨limit, depth + 1,
          .members (members.map fun member => (some member.1, member.2)).reverse :: rest, last⟩
          .closeObject =
        Reader.supply ⟨limit, depth, rest, expected⟩ (.object members) := by
    conv => rhs; rw [← ofMembers_some, ← List.reverse_reverse (members.map _)]
    obtain rfl | rfl := closing <;> rfl
  by_cases empty : members = []
  · subst empty
    exact (run_singleton _ _).trans (closes (.inl rfl))
  · have run := run_members each fits [] rest (.inr rfl) empty
    rw [List.append_nil] at run
    rw [run_append, run, Option.bind_some, run_singleton, closes (.inr rfl)]

end Reader

namespace Json

/-- The tokens of a value are taken as the value. -/
theorem Fits.takes {room : Nat} {value : Json} (fits : Fits room value) :
    Reader.Takes room (tokens value) value := by
  induction fits with
  | null | boolean | integer | string => exact .scalar _ _
  | array _ each => exact .array each
  | object _ each => exact .object each

theorem areRepresentable_iff {items : List Json} :
    areRepresentable items = true ↔ ∀ item ∈ items, isRepresentable item = true := by
  induction items with
  | nil => simp [areRepresentable]
  | cons item rest inductionHypothesis =>
      rw [areRepresentable, Bool.and_eq_true, inductionHypothesis, List.forall_mem_cons]

theorem membersAreRepresentable_iff {members : List (String × Json)} :
    membersAreRepresentable members = true ↔
      ∀ member ∈ members, isRepresentable member.2 = true := by
  induction members with
  | nil => simp [membersAreRepresentable]
  | cons member rest inductionHypothesis =>
      rw [membersAreRepresentable, Bool.and_eq_true, inductionHypothesis, List.forall_mem_cons]

theorem Fits.isRepresentable {room : Nat} {value : Json} (fits : Fits room value) :
    value.isRepresentable = true := by
  induction fits with
  | null | boolean | integer | string => rfl
  | array _ each => exact areRepresentable_iff.2 each
  | object _ each => exact membersAreRepresentable_iff.2 each

/-- A text that holds the tokens of a value, however they are spaced, is read as the
value. -/
theorem Fits.read_of_reads
    {value : Json}
    {text : List Char}
    (fits : Fits depthLimit value)
    (reads : Token.Reads text (tokens value)) :
    read text = some value := by
  have tokens : Token.read text = some (tokens value) := by
    have read := reads [] [] rfl
    rw [List.append_nil, List.append_nil] at read
    rw [Token.read, read, Token.readOnto, List.reverse_reverse]
  have taken := fits.takes (Reader.start depthLimit) rfl
    (Nat.le_of_eq (Nat.zero_add depthLimit))
  rw [read, readNested, tokens]
  show Option.filter _ (((Reader.start depthLimit).run (Json.tokens value)).bind Reader.value?) = _
  rw [taken]
  exact Option.filter_some_pos fits.isRepresentable

/-- A value that fits is read as it is written. -/
theorem Fits.read_compact {value : Json} (fits : Fits depthLimit value) :
    read value.compact.toList = some value := by
  rw [compact, String.toList_ofList]
  exact fits.read_of_reads fits.reads

end Json
end ShadowTaint
