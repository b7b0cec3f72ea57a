import Mathlib.Data.List.TakeWhile
import ShadowTaint.Encoding.Config
import ShadowTaint.Proofs.Config.Priority
import ShadowTaint.Proofs.Config.Statements

/-!
# Numbers among the settings

An integer of a source is held as a signed word of 64 bits. One that does not fit makes a
settings file malformed, and is rounded to a double in the environment. What is held is
clipped to an unsigned number, unless it is a negative integer, and then the low bits of it
are loaded. So an integer is loaded as it is written only if it fits into its field and into
a signed word.
-/

namespace ShadowTaint

/-! ## Integers as text -/

namespace Whole

/-- The digits of a text are decimal, and they have a value. -/
structure IsNumeral (digits : List Char) (value : Nat) : Prop where
  nonempty : digits ≠ []
  decimal : ∀ char ∈ digits, char.isDigit = true
  value_eq : Decimal.digitsValue digits = value

theorem isDigit_of_digit? {char : Char} {digit : Nat} (found : digit? 10 char = some digit) :
    char.isDigit = true ∧ digit = char.toNat - 48 := by
  obtain ⟨found, small⟩ := Option.filter_eq_some_iff.1 found
  rw [decide_eq_true_eq] at small
  split at found
  · rename_i inside
    cases found
    exact ⟨by simpa [Char.isDigit, Char.le_def] using inside, rfl⟩
  · split at found
    · rename_i inside
      have lower : 97 ≤ char.toNat := UInt32.le_iff_toNat_le.1 inside.1
      cases found
      omega
    · split at found
      · rename_i inside
        have lower : 65 ≤ char.toNat := UInt32.le_iff_toNat_le.1 inside.1
        cases found
        omega
      · cases found

theorem foldl_of_ofDigitsOnto? {before value : Nat} {digits : List Char}
    (found : ofDigitsOnto? 10 before digits = some value) :
    (∀ char ∈ digits, char.isDigit = true) ∧
      digits.foldl (fun value digit => 10 * value + (digit.toNat - 48)) before = value := by
  induction digits generalizing before with
  | nil =>
      cases found
      exact ⟨nofun, rfl⟩
  | cons char rest inductionHypothesis =>
      rw [ofDigitsOnto?] at found
      split at found
      · rename_i digit read
        obtain ⟨decimal, rfl⟩ := isDigit_of_digit? read
        obtain ⟨decimalRest, folded⟩ := inductionHypothesis found
        refine ⟨?_, folded⟩
        rintro other (_ | ⟨_, member⟩)
        · exact decimal
        · exact decimalRest other member
      · cases found

theorem isNumeral_of_ofDigits? {digits : List Char} {value : Nat}
    (found : ofDigits? 10 digits = some value) :
    IsNumeral digits value := by
  cases digits with
  | nil => cases found
  | cons char rest =>
      obtain ⟨decimal, folded⟩ := foldl_of_ofDigitsOnto? found
      exact ⟨List.cons_ne_nil _ _, decimal, folded⟩

/-- An integer is written as digits, with a sign or without. -/
theorem cases_of_signed? {text : List Char} {number : Int} (found : signed? text = some number) :
    ∃ (digits : List Char) (value : Nat), IsNumeral digits value ∧
      ((text = '-' :: digits ∧ number = -value) ∨
        ((text = '+' :: digits ∨ text = digits) ∧ number = value)) := by
  rw [signed?.eq_def] at found
  split at found
  · rename_i digits
    obtain ⟨_, magnitude, rfl⟩ := Option.map_eq_some_iff.1 found
    obtain ⟨value, read, same⟩ := Option.bind_eq_some_iff.1 magnitude
    cases same
    exact ⟨digits, value, isNumeral_of_ofDigits? read, .inl ⟨rfl, rfl⟩⟩
  · obtain ⟨value, read, rfl⟩ := Option.map_eq_some_iff.1 found
    rw [unsigned?.eq_def] at read
    split at read
    · rename_i digits _
      exact ⟨digits, value, isNumeral_of_ofDigits? read, .inr ⟨.inl rfl, rfl⟩⟩
    · exact ⟨_, value, isNumeral_of_ofDigits? read, .inr ⟨.inr rfl, rfl⟩⟩

theorem toLower_of_isDigit {char : Char} (digit : char.isDigit = true) : char.toLower = char := by
  have upper : char.toNat ≤ 57 := by
    simp only [Char.isDigit, Bool.and_eq_true, decide_eq_true_eq] at digit
    exact UInt32.le_iff_toNat_le.1 digit.2
  have small : ¬(char.val ≥ 'A'.val ∧ char.val ≤ 'Z'.val) := by
    rintro ⟨lower, -⟩
    have lower : 65 ≤ char.toNat := UInt32.le_iff_toNat_le.1 lower
    omega
  exact dif_neg small

/-- Digits have no letters, in either case. -/
theorem IsNumeral.map_toLower_ne
    {digits rest : List Char}
    {value : Nat}
    {first : Char}
    (numeral : IsNumeral digits value)
    (letter : first.isDigit = false) :
    digits.map Char.toLower ≠ first :: rest := by
  have lowered : digits.map Char.toLower = digits := by
    refine (List.map_congr_left fun char member => ?_).trans digits.map_id
    exact toLower_of_isDigit (numeral.decimal char member)
  intro same
  rw [lowered] at same
  have digit := numeral.decimal first (same ▸ List.mem_cons_self)
  rw [letter] at digit
  cases digit

end Whole

namespace Double

/-- Digits stand for the double that is nearest to their value. -/
theorem ofNumeral?_of_isNumeral {digits : List Char} {value : Nat}
    (numeral : Whole.IsNumeral digits value) (negative : Bool) :
    ofNumeral? negative digits = some (ofDecimal ⟨negative, value, 0⟩) := by
  have taken : digits.takeWhile Char.isDigit = digits :=
    List.takeWhile_eq_self_iff.2 numeral.decimal
  have dropped : digits.dropWhile Char.isDigit = [] :=
    List.dropWhile_eq_nil_iff.2 numeral.decimal
  have nonempty : (!(digits.isEmpty && List.isEmpty ([] : List Char))) = true := by
    simp [numeral.nonempty]
  rw [ofNumeral?, taken, dropped]
  dsimp only
  rw [nonempty, List.append_nil, numeral.value_eq]
  rfl

/-- Digits with a sign or without are no name of a double. -/
theorem ofText?_of_isNumeral
    {digits : List Char}
    {value : Nat}
    (numeral : Whole.IsNumeral digits value) :
    ofText? ('-' :: digits) = some (ofDecimal ⟨true, value, 0⟩) ∧
      ofText? ('+' :: digits) = some (ofDecimal ⟨false, value, 0⟩) ∧
      ofText? digits = some (ofDecimal ⟨false, value, 0⟩) := by
  have unnamed (first : Char) (rest : List Char) (letter : first.isDigit = false) :
      String.ofList (digits.map Char.toLower) ≠ String.ofList (first :: rest) := fun same =>
    numeral.map_toLower_ne letter (String.ofList_inj.1 same)
  have read (negative : Bool) :
      (if String.ofList (digits.map Char.toLower) = "inf" ∨
          String.ofList (digits.map Char.toLower) = "infinity" then some (.infinite negative)
        else if String.ofList (digits.map Char.toLower) = "nan" then some .notANumber
        else ofNumeral? negative digits) = some (ofDecimal ⟨negative, value, 0⟩) := by
    have short := unnamed 'i' ['n', 'f'] rfl
    have long := unnamed 'i' ['n', 'f', 'i', 'n', 'i', 't', 'y'] rfl
    have none := unnamed 'n' ['a', 'n'] rfl
    rw [if_neg (not_or.2 ⟨short, long⟩), if_neg none, ofNumeral?_of_isNumeral numeral]
  refine ⟨read true, read false, ?_⟩
  cases digits with
  | nil => exact absurd rfl numeral.nonempty
  | cons char rest =>
      have minus : char ≠ '-' := by
        rintro rfl
        cases numeral.decimal _ List.mem_cons_self
      have plus : char ≠ '+' := by
        rintro rfl
        cases numeral.decimal _ List.mem_cons_self
      rw [ofText?]
      · exact read false
      · simpa using minus
      · simpa using plus

end Double

namespace Environment

/-- The setting that an integer becomes: itself if it fits into a signed word, or else the
nearest double. -/
def ofInteger (number : Int) : Setting :=
  if Whole.fits number then .integer number
  else .real (Double.ofDecimal ⟨decide (number < 0), number.natAbs, 0⟩)

/-- A variable whose text is an integer has the setting of that integer. -/
theorem value_of_signed? {text : String} {number : Int}
    (found : Whole.signed? text.toList = some number) :
    value text = ofInteger number := by
  obtain ⟨digits, magnitude, numeral, written⟩ := Whole.cases_of_signed? found
  obtain ⟨negative, positive, unsigned⟩ := Double.ofText?_of_isNumeral numeral
  -- An integer begins with a sign or a digit, and the name of a truth value does not.
  have noName (first : Char) (rest : List Char) (letter : first.isDigit = false)
      (minus : first ≠ '-') (plus : first ≠ '+') :
      text.map Char.toLower ≠ String.ofList (first :: rest) := by
    intro same
    have lowered := congrArg String.toList same
    rw [String.toList_map, String.toList_ofList] at lowered
    obtain ⟨signed, -⟩ | ⟨signed | plain, -⟩ := written
    · rw [signed, List.map_cons] at lowered
      exact minus (List.cons.inj lowered).1.symm
    · rw [signed, List.map_cons] at lowered
      exact plus (List.cons.inj lowered).1.symm
    · rw [plain] at lowered
      exact numeral.map_toLower_ne letter lowered
  have yes := noName 't' ['r', 'u', 'e'] rfl (by decide) (by decide)
  have no := noName 'f' ['a', 'l', 's', 'e'] rfl (by decide) (by decide)
  rw [value, if_neg yes, if_neg no, ofInteger, Whole.word?, found, Option.filter_some]
  by_cases fits : Whole.fits number = true
  · rw [if_pos fits, if_pos fits]
  · rw [if_neg fits, if_neg fits]
    dsimp only
    have double : Double.ofText? text.toList =
        some (.ofDecimal ⟨decide (number < 0), number.natAbs, 0⟩) := by
      obtain ⟨signed, rfl⟩ | ⟨signed | plain, rfl⟩ := written
      · have nonzero : magnitude ≠ 0 := by
          rintro rfl
          exact fits (by decide)
        rw [signed, negative, decide_eq_true (by omega), Int.natAbs_neg, Int.natAbs_natCast]
      · rw [signed, positive, decide_eq_false (by omega), Int.natAbs_natCast]
      · rw [plain, unsigned, decide_eq_false (by omega), Int.natAbs_natCast]
    rw [double]

end Environment

namespace Double

/-- A negative number is clipped to zero. -/
theorem toUnsigned_ofDecimal_negative (mantissa : Nat) (exponent : Int) (limit : Nat) :
    (ofDecimal ⟨true, mantissa, exponent⟩).toUnsigned limit = 0 := by
  have clipped (infinite : Prop) [Decidable infinite] (significand : Nat) (exponent : Int) :
      (if infinite then Double.infinite true
        else finite true significand exponent).toUnsigned limit = 0 := by
    split <;> rfl
  have nearestZero (numerator denominator : Nat) :
      (nearest true numerator denominator).toUnsigned limit = 0 := by
    rw [nearest]
    exact clipped _ _ _
  rw [ofDecimal]
  dsimp only
  split
  · rfl
  · split
    · rfl
    · split <;> exact nearestZero _ _

end Double

/-! ## Numbers of an analysis -/

/-- A number among the settings of an analysis: the name of its setting, how many values its
type has, and its value. -/
structure NumberField where
  name : String
  size : Nat
  get : AnalysisConfig -> Nat

/-- The numbers among the settings of an analysis. -/
def AnalysisConfig.numbers : List NumberField := [
  ⟨"shadow_base", UInt32.size, fun config => config.shadowBase.toNat⟩,
  ⟨"shadow_size", UInt64.size, fun config => config.shadowSize.toNat⟩,
  ⟨"default_label", UInt8.size, fun config => config.defaultLabel.toNat⟩]

/-- A source writes an integer under a key of a section: a variable whose text is the integer,
or the settings file if no variable sets the key. In the text of the file the integer may
have any size. -/
inductive Sources.Writes (sources : Sources) (name key : String) (number : Int) : Prop
  | variable (entry : String × String)
      (member : entry ∈ sources.environment)
      (sets : Environment.target? entry.1 = some (name, key))
      (denotes : Whole.signed? entry.2.toList = some number)
  | text (text word : List Char)
      (statements : List Toml.Statement)
      (given : sources.text? = some text)
      (parsed : Toml.statements? text = some statements)
      (unset : Environment.value? sources.environment name key = none)
      (gives : Toml.Gives name key word statements)
      (denotes : Toml.integer? word = some number)
  | file (settings : Setting)
      (read : sources.fileSettings? = some settings)
      (unset : Environment.value? sources.environment name key = none)
      (found : settings.within? name key = some (.integer number))

/-- A file whose text gives an integer to a key has that integer there, unless it cannot be
read; and it cannot if the integer is too large. -/
theorem Sources.within?_of_gives
    {sources : Sources}
    {settings : Setting}
    {text word : List Char}
    {statements : List Toml.Statement}
    {name key : String}
    {number : Int}
    (given : sources.text? = some text)
    (parsed : Toml.statements? text = some statements)
    (gives : Toml.Gives name key word statements)
    (denotes : Toml.integer? word = some number)
    (read : sources.fileSettings? = some settings) :
    settings.within? name key = some (.integer number) := by
  have built : Toml.build? statements = some settings := by
    rw [fileSettings?, given] at read
    change Toml.read? text = some settings at read
    rwa [Toml.read?, parsed, Option.bind_some] at read
  obtain ⟨value, wordRead, found⟩ := Toml.within?_of_gives gives built
  rw [Toml.scalar?_of_integer? denotes] at wordRead
  split at wordRead
  · cases wordRead
    exact found
  · cases wordRead

/-- The integer that a source writes prevails, if the settings file can be read. Only a
variable writes an integer that does not fit into a signed word. -/
theorem Sources.prevailing?_of_writes
    {Config : Type}
    {sources : Sources}
    {wanted : Section Config}
    {key : String}
    {number : Int}
    (flat : sources.IsFlat wanted.name)
    (wellFormed : sources.fileSettings?.isSome)
    (writes : sources.Writes wanted.name key number) :
    sources.prevailing? wanted key = some (Environment.ofInteger number) ∧
      (Whole.fits number = false →
        (Environment.value? sources.environment wanted.name key).isSome = true) := by
  have ofFile
      {settings : Setting}
      (read : sources.fileSettings? = some settings)
      (unset : Environment.value? sources.environment wanted.name key = none)
      (found : settings.within? wanted.name key = some (.integer number)) :
      sources.prevailing? wanted key = some (Environment.ofInteger number) ∧
        (Whole.fits number = false →
          (Environment.value? sources.environment wanted.name key).isSome = true) := by
    have fits := (isWritten_fileSettings? read).fits_of_within? found
    constructor
    · rw [prevailing?, unset, read, Option.bind_some, found, Environment.ofInteger, if_pos fits]
      rfl
    · intro unfit
      rw [fits] at unfit
      cases unfit
  cases writes with
  | «variable» entry member sets denotes =>
      have set := Environment.value?_of_mem flat.environment member sets
      constructor
      · rw [prevailing?, set, Environment.value_of_signed? denotes]
        rfl
      · intro _
        rw [set]
        rfl
  | text text word statements given parsed unset gives denotes =>
      obtain ⟨settings, read⟩ := Option.isSome_iff_exists.1 wellFormed
      exact ofFile read unset (within?_of_gives given parsed gives denotes read)
  | file settings read unset found => exact ofFile read unset found

namespace AnalysisConfig

/-- A number of the settings is the low bits of what prevails under its name. -/
theorem get_eq_mod
    {sources : Sources}
    {config : AnalysisConfig}
    {field : NumberField}
    {value : Setting}
    (decoded : sources.DecodeTo configSection fields config)
    (member : field ∈ numbers)
    (found : sources.prevailing? configSection field.name = some value) :
    ∃ number, value.unsigned? = some number ∧ field.get config = number % field.size := by
  simp only [Sources.DecodeTo, fields, List.forall_mem_cons] at decoded
  obtain ⟨base, size, label, -⟩ := decoded
  simp only [numbers, List.mem_cons, List.not_mem_nil, or_false] at member
  obtain rfl | rfl | rfl := member
  · rw [found] at base
    obtain ⟨number, read, same⟩ := Option.map_eq_some_iff.1 base
    exact ⟨number, read, (congrArg UInt32.toNat same).symm.trans UInt32.toNat_ofNat'⟩
  · rw [found] at size
    obtain ⟨number, read, same⟩ := Option.map_eq_some_iff.1 size
    exact ⟨number, read, (congrArg UInt64.toNat same).symm.trans UInt64.toNat_ofNat'⟩
  · rw [found] at label
    obtain ⟨number, read, same⟩ := Option.map_eq_some_iff.1 label
    exact ⟨number, read, (congrArg UInt8.toNat same).symm.trans UInt8.toNat_ofNat'⟩

/-- Whatever the way of loading, it fails with a complaint about the configuration or each
field is decoded from what prevails. -/
theorem loaded_cases
    {sources : Sources}
    {load : Sources -> Except Stop AnalysisConfig}
    (flat : sources.IsFlat configSection.name)
    (loads : load ∈ [configSection.load, configSection.loadOrDefault, configSection.loadFromFile]) :
    (∃ detail, load sources = .error (.failure (.config detail))) ∨
      ∃ config, load sources = .ok config ∧ sources.fileSettings?.isSome ∧
        sources.DecodeTo configSection fields config := by
  have withDefault : (∃ detail, configSection.loadOrDefault sources =
        .error (.failure (.config detail))) ∨
      ∃ config, configSection.loadOrDefault sources = .ok config ∧ sources.fileSettings?.isSome ∧
        sources.DecodeTo configSection fields config := by
    cases loaded : configSection.loadOrDefault sources with
    | error stop =>
        obtain ⟨detail, rfl⟩ := Section.load_eq_error flat (.inr loaded)
        exact .inl ⟨detail, rfl⟩
    | ok config =>
        obtain ⟨⟨file, wellFormed, -⟩, decoded⟩ :=
          (Section.loadOrDefault_eq_ok_iff isFieldwise flat).1 loaded
        exact .inr ⟨config, rfl, Option.isSome_of_eq_some wellFormed, decoded⟩
  simp only [List.mem_cons, List.not_mem_nil, or_false] at loads
  obtain rfl | rfl | rfl := loads
  · cases loaded : configSection.load sources with
    | error stop =>
        obtain ⟨detail, rfl⟩ := Section.load_eq_error flat (.inl loaded)
        exact .inl ⟨detail, rfl⟩
    | ok config =>
        obtain ⟨⟨file, wellFormed, -⟩, decoded⟩ :=
          (Section.load_eq_ok_iff isFieldwise flat).1 loaded
        exact .inr ⟨config, rfl, Option.isSome_of_eq_some wellFormed, decoded⟩
  · exact withDefault
  · by_cases given : sources.text?.isSome = true
    · rw [Section.loadFromFile, if_pos given]
      exact withDefault
    · rw [Section.loadFromFile, if_neg given]
      exact .inl ⟨_, rfl⟩

/-- An integer that fits into a signed word is loaded as its low bits, unless it is negative.
An integer that does not fit makes a settings file malformed; in the environment it becomes
the nearest double, clipped to an unsigned number of 64 bits, and the low bits of that are
loaded. So a load gives the integer itself if it fits into a signed word and into its field,
and otherwise need not fail. What the sources say beside the section does not matter. -/
theorem number_loaded
    (sources : Sources)
    (field : NumberField)
    (number : Int)
    (load : Sources -> Except Stop AnalysisConfig)
    (flat : sources.IsFlat "taint")
    (member : field ∈ numbers)
    (writes : sources.Writes "taint" field.name number)
    (loads : load ∈
      [configSection.load, configSection.loadOrDefault, configSection.loadFromFile]) :
    (∃ detail, load sources = .error (.failure (.config detail))) ∨
      ∃ config, load sources = .ok config ∧
        (Whole.fits number = true →
          0 ≤ number ∧ field.get config = number.toNat % field.size ∧
            (number < field.size → field.get config = number)) ∧
        (Whole.fits number = false →
          (Environment.value? sources.environment "taint" field.name).isSome = true ∧
            (number < 0 → field.get config = 0) ∧
            (0 ≤ number → field.get config =
              (Double.ofDecimal ⟨false, number.toNat, 0⟩).toUnsigned (UInt64.size - 1) %
                field.size)) := by
  refine (loaded_cases flat loads).imp_right ?_
  rintro ⟨config, loaded, wellFormed, decoded⟩
  obtain ⟨prevails, fromVariable⟩ : sources.prevailing? configSection field.name =
        some (Environment.ofInteger number) ∧
      (Whole.fits number = false →
        (Environment.value? sources.environment "taint" field.name).isSome = true) :=
    Sources.prevailing?_of_writes flat wellFormed writes
  obtain ⟨value, read, low⟩ := get_eq_mod decoded member prevails
  refine ⟨config, loaded, fun fits => ?fitting, fun unfit => ⟨fromVariable unfit, ?unfitting⟩⟩
  case fitting =>
    rw [Environment.ofInteger, if_pos fits, Setting.unsigned?] at read
    split at read
    · rename_i range
      cases read
      refine ⟨range.1, low, fun small => ?_⟩
      have kept : number.toNat < field.size := by omega
      rw [low, Nat.mod_eq_of_lt kept]
      exact Int.toNat_of_nonneg range.1
    · cases read
  case unfitting =>
    rw [Environment.ofInteger, if_neg (by rw [unfit]; decide), Setting.unsigned?] at read
    cases read
    rw [low]
    constructor
    · intro negative
      rw [decide_eq_true negative, Double.toUnsigned_ofDecimal_negative, Nat.zero_mod]
    · intro nonnegative
      have magnitude : number.natAbs = number.toNat := by omega
      rw [decide_eq_false (by omega), magnitude]

/-- A label of 300 is loaded as 44, and a file with a size beyond a signed word is refused. -/
theorem number_loaded_low_bits :
    (let sources : Sources := ⟨none, [("ARMTAINT__TAINT__DEFAULT_LABEL", "300")]⟩
    ∃ config, configSection.loadOrDefault sources = .ok config ∧
      config.defaultLabel.toNat = 44) ∧
    (let sources : Sources :=
      ⟨some (Utf8.encode "[taint]\nshadow_size = 9223372036854775808"), []⟩
    ∃ detail, configSection.loadFromFile sources = .error (.failure (.config detail))) := by
  constructor
  · intro sources
    have writes : sources.Writes "taint" "default_label" 300 :=
      .variable ("ARMTAINT__TAINT__DEFAULT_LABEL", "300") List.mem_cons_self (by decide +kernel)
        (by decide +kernel)
    have loads : (configSection.loadOrDefault sources).toOption.isSome = true := by
      decide +kernel
    obtain ⟨detail, failed⟩ | ⟨config, loaded, fitting, -⟩ :=
      number_loaded sources ⟨"default_label", UInt8.size, fun config => config.defaultLabel.toNat⟩
        300 configSection.loadOrDefault (by decide +kernel) (by simp [numbers]) writes (by simp)
    · rw [failed] at loads
      cases loads
    · exact ⟨config, loaded, (fitting (by decide)).2.1⟩
  · intro sources
    let word := "9223372036854775808".toList
    have parsed : Toml.statements? "[taint]\nshadow_size = 9223372036854775808".toList =
        some [.table ["taint"], .entry ["shadow_size"] (.word word)] := by rfl
    have gives : Toml.Gives "taint" "shadow_size" word
        ([] ++ .table ["taint"] :: ([] ++ .entry ["shadow_size"] (.word word) :: [])) :=
      .below (by simp)
    have writes : sources.Writes "taint" "shadow_size" 9223372036854775808 :=
      .text _ word _ (by decide +kernel) parsed rfl gives (by decide +kernel)
    obtain failed | ⟨config, -, -, unfitting⟩ :=
      number_loaded sources ⟨"shadow_size", UInt64.size, fun config => config.shadowSize.toNat⟩
        9223372036854775808 configSection.loadFromFile (by decide +kernel) (by simp [numbers])
        writes (by simp)
    · exact failed
    · cases (unfitting (by decide)).1

/-- A label of 256 is loaded as zero from the environment and from a file, while a text of
settings with it is refused. -/
theorem label_loaded_as_zero :
    (∃ config,
      configSection.loadOrDefault ⟨none, [("ARMTAINT__TAINT__DEFAULT_LABEL", "256")]⟩ =
        .ok config ∧ config.defaultLabel = 0 ∧ config.defaultLabel.toNat ≠ 256) ∧
    (∃ config,
      configSection.loadFromFile ⟨some (Utf8.encode "[taint]\ndefault_label = 256\n"), []⟩ =
        .ok config ∧ config.defaultLabel = 0 ∧ config.defaultLabel.toNat ≠ 256) ∧
    ofText? "\x7b\"default_label\": 256\x7d".toList = none := by
  refine ⟨⟨{ standard with defaultLabel := 0 }, ?_, rfl, by decide⟩,
    ⟨{ standard with defaultLabel := 0 }, ?_, rfl, by decide⟩, ?_⟩
  · decide +kernel
  · decide +kernel
  · decide +kernel

end AnalysisConfig

end ShadowTaint
