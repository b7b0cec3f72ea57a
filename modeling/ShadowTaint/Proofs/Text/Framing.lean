import ShadowTaint.Text.Blank
import ShadowTaint.Text.Utf8

/-!
# Texts with white space around them

Bytes that are framed by the bytes of other texts are text exactly when they are text
by themselves: a character neither begins nor ends within another one. So white space
around a line can be judged on its characters, and trimming removes it.
-/

namespace ShadowTaint

namespace Utf8

/-! ### The bytes of a text -/

/-- Going through bytes one by one lists all of them. -/
theorem toList_loop (bytes : ByteArray) (index : Nat) (passed : List UInt8) :
    ByteArray.toList.loop bytes index passed =
      passed.reverse ++ bytes.data.toList.drop index := by
  fun_induction ByteArray.toList.loop bytes index passed with
  | case1 index passed inside inductionHypothesis =>
      have within : index < bytes.data.toList.length := by simpa using inside
      have byte : bytes.get! index = bytes.data.toList[index] :=
        getElem!_pos bytes.data index within
      rw [inductionHypothesis, List.drop_eq_getElem_cons within, List.reverse_cons, byte,
        List.append_assoc, List.singleton_append]
  | case2 index passed outside =>
      rw [List.drop_of_length_le (by simpa using outside), List.append_nil]

/-- The bytes of a text are the encodings of its characters. -/
theorem encode_ofList (text : List Char) :
    encode (String.ofList text) = text.utf8Encode.data.toList := by
  rw [encode, ByteArray.toList, toList_loop]
  simp

@[simp] theorem encode_empty : encode "" = [] := by
  have none := encode_ofList []
  simpa using none

theorem encode_cons (char : Char) (text : List Char) :
    encode (String.ofList (char :: text)) =
      String.utf8EncodeChar char ++ encode (String.ofList text) := by
  rw [encode_ofList, encode_ofList, List.utf8Encode_cons, List.utf8Encode_singleton,
    ByteArray.data_append, Array.toList_append, List.data_toByteArray]

/-- The bytes of a text, as they are kept in an array. -/
theorem toByteArray_encode (text : List Char) :
    (encode (String.ofList text)).toByteArray = text.utf8Encode := by
  apply ByteArray.ext
  rw [encode_ofList, List.data_toByteArray, Array.toArray_toList]

/-- Nothing but the line feed has the byte of the line feed in its encoding. -/
theorem lineFeed_notMem_utf8EncodeChar {char : Char} (other : char ≠ '\n') :
    (10 : UInt8) ∉ String.utf8EncodeChar char := by
  intro mem
  obtain ⟨index, inside, byte⟩ := List.getElem_of_mem mem
  -- The byte can only begin a character, and the character that it begins is the line feed.
  have beginning : (String.utf8EncodeChar char)[index].IsUTF8FirstByte := by
    rw [byte]
    decide
  have first : index = 0 := UInt8.isUTF8FirstByte_getElem_utf8EncodeChar.1 beginning
  subst first
  obtain ⟨rest, bytes⟩ : ∃ rest, String.utf8EncodeChar char = 10 :: rest :=
    ⟨_, by rw [← byte, List.getElem_zero, List.cons_head_tail]⟩
  have decoded : (String.utf8EncodeChar char).toByteArray.utf8DecodeChar? 0 = some char := by
    rw [← List.utf8Encode_singleton, List.utf8DecodeChar?_utf8Encode_singleton]
  have feed : (10 :: rest).toByteArray = ['\n'].utf8Encode ++ rest.toByteArray := by
    rw [← List.singleton_append, List.toByteArray_append, List.utf8Encode_singleton]
    rfl
  rw [bytes, feed, List.utf8DecodeChar?_utf8Encode_singleton_append] at decoded
  exact other (Option.some.inj decoded).symm

/-- A text without a line feed has no line feed among its bytes. -/
theorem lineFeed_notMem_encode {text : List Char} (others : ∀ char ∈ text, char ≠ '\n') :
    (10 : UInt8) ∉ encode (String.ofList text) := by
  induction text with
  | nil => simp
  | cons char rest inductionHypothesis =>
      rw [encode_cons, List.mem_append, not_or]
      exact ⟨lineFeed_notMem_utf8EncodeChar (others char List.mem_cons_self),
        inductionHypothesis fun other mem => others other (List.mem_cons_of_mem _ mem)⟩

/-! ### Decoding framed bytes -/

theorem decode?_eq_some_iff {bytes : List UInt8} {text : List Char} :
    decode? bytes = some text ↔ bytes.toByteArray = text.utf8Encode := by
  have array : (⟨bytes.toArray⟩ : ByteArray) = bytes.toByteArray :=
    ByteArray.ext List.data_toByteArray.symm
  rw [decode?, array, String.fromUTF8?]
  constructor
  · intro decoded
    obtain ⟨string, found, rfl⟩ := Option.map_eq_some_iff.1 decoded
    split at found
    · cases found
      rw [String.utf8Encode_toList]
      rfl
    · cases found
  · intro encoded
    have valid : bytes.toByteArray.IsValidUTF8 := ⟨text, encoded⟩
    rw [dif_pos valid, Option.map_some, Option.some_inj, ← String.toList_ofList (l := text),
      String.toList_inj, ← String.toByteArray_inj, String.toByteArray_ofList]
    exact encoded

/-- Decoding gives back what was encoded. -/
theorem decode?_encode (text : List Char) :
    decode? (encode (String.ofList text)) = some text :=
  decode?_eq_some_iff.2 (toByteArray_encode text)

/-- Bytes behind a text are a text by themselves if they are one together with it. -/
theorem isValidUTF8_of_append_left {left : List Char} {bytes : ByteArray}
    (valid : (left.utf8Encode ++ bytes).IsValidUTF8) :
    bytes.IsValidUTF8 := by
  induction left with
  | nil => simpa using valid
  | cons char rest inductionHypothesis =>
      rw [List.utf8Encode_cons, ByteArray.append_assoc,
        ByteArray.isValidUTF8_utf8Encode_singleton_append_iff] at valid
      exact inductionHypothesis valid

/-- Bytes before a text are a text by themselves if they are one together with it. -/
theorem isValidUTF8_of_append_right {bytes : ByteArray} {right : List Char}
    (valid : (bytes ++ right.utf8Encode).IsValidUTF8) :
    bytes.IsValidUTF8 := by
  obtain ⟨text, whole⟩ := valid
  -- The position behind the bytes is one between characters, for a text stands behind it.
  have between : (⟨bytes.size⟩ : String.Pos.Raw).IsValid (String.ofList text) := by
    rw [String.Pos.Raw.isValid_iff_isValidUTF8_extract_utf8ByteSize,
      String.Pos.Raw.le_iff, String.byteIdx_rawEndPos, ← String.size_toByteArray,
      String.toByteArray_ofList, ← whole, ByteArray.size_append]
    refine ⟨Nat.le_add_right _ _, ?_⟩
    rw [ByteArray.extract_append_eq_right rfl rfl]
    exact ByteArray.isValidUTF8_utf8Encode
  have before := between.isValidUTF8_extract_zero
  rw [String.toByteArray_ofList, ← whole, ByteArray.extract_append_eq_left rfl] at before
  exact before

/-- Bytes between two texts are decoded by themselves. -/
theorem decode?_framed (left : List Char) (bytes : List UInt8) (right : List Char) :
    decode? (encode (String.ofList left) ++ bytes ++ encode (String.ofList right)) =
      (decode? bytes).map fun text => left ++ text ++ right := by
  have whole :
      (encode (String.ofList left) ++ bytes ++ encode (String.ofList right)).toByteArray =
        left.utf8Encode ++ bytes.toByteArray ++ right.utf8Encode := by
    rw [List.toByteArray_append, List.toByteArray_append, toByteArray_encode, toByteArray_encode]
  cases decoded : decode? bytes with
  | some text =>
      rw [decode?_eq_some_iff] at decoded
      rw [Option.map_some, decode?_eq_some_iff, whole, decoded, List.utf8Encode_append,
        List.utf8Encode_append]
  | none =>
      rw [Option.map_none, Option.eq_none_iff_forall_ne_some]
      intro text found
      rw [decode?_eq_some_iff, whole] at found
      obtain ⟨inner, encoded⟩ :=
        isValidUTF8_of_append_left (isValidUTF8_of_append_right ⟨text, found⟩)
      rw [decode?_eq_some_iff.2 encoded] at decoded
      cases decoded

end Utf8

namespace Blank

/-- Trimming a text removes white space around it, however much there is. -/
theorem trim_framed {left right : List Char} (leftBlank : ∀ char ∈ left, isBlank char)
    (text : List Char) (rightBlank : ∀ char ∈ right, isBlank char) :
    trim (left ++ text ++ right) = trim text := by
  rw [trim, trim, List.append_assoc, List.dropWhile_append_of_pos leftBlank,
    List.dropWhile_append]
  split
  · next blank =>
      have nothing : right.dropWhile isBlank = [] := by
        rw [← List.append_nil right, List.dropWhile_append_of_pos rightBlank, List.dropWhile_nil]
      rw [nothing, List.isEmpty_iff.1 blank]
  · have reversed : ∀ char ∈ right.reverse, isBlank char := fun char mem =>
      rightBlank char (List.mem_reverse.1 mem)
    rw [List.reverse_append, List.dropWhile_append_of_pos reversed]

end Blank
end ShadowTaint
