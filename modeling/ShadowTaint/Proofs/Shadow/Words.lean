import ShadowTaint.Shadow.LabelWord

/-!
# Labels within words

A word is determined by its four labels as far as shadow memory is concerned, so
every operation on words is described by what it does to the label in each lane.
Bitwise operations act on each lane alone, and a shift by whole lanes moves
labels from lane to lane. A masked store therefore replaces the lanes under the
mask and keeps the others.
-/

namespace ShadowTaint
namespace LabelWord

variable {lane : Nat}

/-- Shifts by lanes stay below the width of a word. -/
theorem toNat_shift_mod (inWord : lane < 4) :
    ((shift lane).toBitVec % 32).toNat = 8 * lane := by
  match lane, inWord with
  | 0, _ | 1, _ | 2, _ | 3, _ => decide

/-- The bits of a label are eight neighbouring bits of its word. -/
theorem getLsbD_label
    (word : UInt32)
    (bit : Nat)
    (inWord : lane < 4) :
    (label word lane).toBitVec.getLsbD bit =
      (decide (bit < 8) && word.toBitVec.getLsbD (8 * lane + bit)) := by
  rw [label, UInt32.toBitVec_toUInt8, UInt32.toBitVec_shiftRight,
    BitVec.getLsbD_setWidth, BitVec.ushiftRight_eq', toNat_shift_mod inWord,
    BitVec.getLsbD_ushiftRight]

/-- Two labels are equal when their bits are. -/
theorem label_ext
    {first second : UInt8}
    (bits : ∀ bit < 8, first.toBitVec.getLsbD bit = second.toBitVec.getLsbD bit) :
    first = second :=
  UInt8.toBitVec_inj.1 (BitVec.eq_of_getLsbD_eq bits)

theorem label_or
    (left right : UInt32)
    (inWord : lane < 4) :
    label (left ||| right) lane = label left lane ||| label right lane := by
  apply label_ext
  intro bit inLabel
  rw [UInt8.toBitVec_or, BitVec.getLsbD_or, getLsbD_label _ _ inWord,
    getLsbD_label _ _ inWord, getLsbD_label _ _ inWord, UInt32.toBitVec_or,
    BitVec.getLsbD_or, Bool.and_or_distrib_left]

theorem label_and
    (left right : UInt32)
    (inWord : lane < 4) :
    label (left &&& right) lane = label left lane &&& label right lane := by
  apply label_ext
  intro bit inLabel
  rw [UInt8.toBitVec_and, BitVec.getLsbD_and, getLsbD_label _ _ inWord,
    getLsbD_label _ _ inWord, getLsbD_label _ _ inWord, UInt32.toBitVec_and,
    BitVec.getLsbD_and]
  simp [inLabel]

theorem label_not
    (word : UInt32)
    (inWord : lane < 4) :
    label (~~~word) lane = ~~~label word lane := by
  apply label_ext
  intro bit inLabel
  have inBits : 8 * lane + bit < 32 := by omega
  rw [UInt8.toBitVec_not, BitVec.getLsbD_not, getLsbD_label _ _ inWord,
    getLsbD_label _ _ inWord, UInt32.toBitVec_not, BitVec.getLsbD_not]
  simp only [inLabel, inBits, decide_true, Bool.true_and]

/-- A shift to the left moves every label up and brings in clean ones. -/
theorem label_shiftLeft
    (word : UInt32)
    {lanes : Nat}
    (shifted : lanes < 4)
    (inWord : lane < 4) :
    label (word <<< shift lanes) lane =
      if lanes ≤ lane then label word (lane - lanes) else 0 := by
  apply label_ext
  intro bit inLabel
  have inBits : 8 * lane + bit < 32 := by omega
  rw [getLsbD_label _ _ inWord, UInt32.toBitVec_shiftLeft, BitVec.shiftLeft_eq',
    toNat_shift_mod shifted, BitVec.getLsbD_shiftLeft]
  by_cases above : lanes ≤ lane
  · have notBelow : ¬8 * lane + bit < 8 * lanes := by omega
    have moved : 8 * lane + bit - 8 * lanes = 8 * (lane - lanes) + bit := by omega
    rw [if_pos above, getLsbD_label _ _ (by omega), moved]
    simp [inBits, notBelow]
  · have below : 8 * lane + bit < 8 * lanes := by omega
    rw [if_neg above]
    simp [below]

/-- A shift to the right moves labels down. -/
theorem label_shiftRight
    (word : UInt32)
    {lanes : Nat}
    (inWord : lanes + lane < 4) :
    label (word >>> shift lanes) lane = label word (lanes + lane) := by
  apply label_ext
  intro bit inLabel
  rw [getLsbD_label _ _ (by omega), getLsbD_label _ _ inWord,
    UInt32.toBitVec_shiftRight, BitVec.ushiftRight_eq', toNat_shift_mod (by omega),
    BitVec.getLsbD_ushiftRight, ← Nat.add_assoc, ← Nat.mul_add]

@[simp] theorem label_zero (lane : Nat) : label 0 lane = 0 := by
  simp [label]

/-- A mask has all bits of the labels that it covers. -/
theorem label_mask
    (width : Width)
    (inWord : lane < 4) :
    label (mask width) lane = if lane < width.bytes then 0xff else 0 := by
  match lane, inWord with
  | 0, _ | 1, _ | 2, _ | 3, _ => cases width <;> decide

/-- A label alone in its word stands in the lowest lane. -/
theorem label_toUInt32
    (value : UInt8)
    (inWord : lane < 4) :
    label value.toUInt32 lane = if lane = 0 then value else 0 := by
  apply label_ext
  intro bit inLabel
  rw [getLsbD_label _ _ inWord, UInt8.toBitVec_toUInt32, BitVec.getLsbD_setWidth]
  by_cases lowest : lane = 0
  · subst lowest
    have inBits : bit < 32 := by omega
    simp [inLabel, inBits]
  · have beyond : 8 ≤ 8 * lane + bit := by omega
    rw [if_neg lowest, BitVec.getLsbD_of_ge _ _ beyond]
    simp

/-- Packed lanes stand in the lanes of the word. -/
theorem label_toWord
    (lanes : Lanes)
    (inWord : lane < 4) :
    label lanes.toWord lane = lanes.toList.getD lane 0 := by
  have lifted (value : UInt8) (position : Nat) (inside : position < 4) :
      label (value.toUInt32 <<< shift position) lane =
        if lane = position then value else 0 := by
    rw [label_shiftLeft _ inside inWord]
    by_cases above : position ≤ lane
    · rw [if_pos above, label_toUInt32 _ (by omega)]
      by_cases here : lane = position
      · rw [if_pos here, if_pos (by omega)]
      · rw [if_neg here, if_neg (by omega)]
    · rw [if_neg above, if_neg (by omega)]
  have packed : lanes.toWord =
      lanes.lane0.toUInt32 ||| (lanes.lane1.toUInt32 <<< shift 1) |||
        (lanes.lane2.toUInt32 <<< shift 2) ||| (lanes.lane3.toUInt32 <<< shift 3) := rfl
  rw [packed, label_or _ _ inWord, label_or _ _ inWord, label_or _ _ inWord,
    label_toUInt32 _ inWord, lifted _ 1 (by omega), lifted _ 2 (by omega),
    lifted _ 3 (by omega)]
  match lane, inWord with
  | 0, _ | 1, _ | 2, _ | 3, _ => simp [Lanes.toList]

/-- Words are equal when their labels are. -/
theorem word_ext
    {first second : UInt32}
    (labels : ∀ lane < 4, label first lane = label second lane) :
    first = second := by
  apply UInt32.toBitVec_inj.1
  apply BitVec.eq_of_getLsbD_eq
  intro bit inBits
  have position : 8 * (bit / 8) + bit % 8 = bit := Nat.div_add_mod bit 8
  have same := congrArg (fun value => value.toBitVec.getLsbD (bit % 8))
    (labels (bit / 8) (by omega))
  simpa only [getLsbD_label _ _ (show bit / 8 < 4 by omega), position,
    Nat.mod_lt bit (show 0 < 8 by decide), decide_true, Bool.true_and] using same

/-- A word is zero when it has no label. -/
theorem eq_zero_iff {word : UInt32} : word = 0 ↔ ∀ lane < 4, label word lane = 0 := by
  constructor
  · rintro rfl lane _
    exact label_zero lane
  · intro clean
    exact word_ext fun lane inWord => (clean lane inWord).trans (label_zero lane).symm

/-- The bits of a label that a mask has are replaced, and the others are kept. -/
def merge (old mask new : UInt8) : UInt8 := (old &&& ~~~mask) ||| (new &&& mask)

@[simp] theorem merge_zero (old new : UInt8) : merge old 0 new = old := by
  rw [merge, UInt8.and_zero, UInt8.or_zero]
  exact UInt8.and_neg_one

@[simp] theorem merge_full (old new : UInt8) : merge old 0xff new = new := by
  rw [merge, show ~~~(0xff : UInt8) = 0 from rfl, UInt8.and_zero, UInt8.zero_or]
  exact UInt8.and_neg_one

@[simp] theorem merge_clean (mask : UInt8) : merge 0 mask 0 = 0 := by
  rw [merge, UInt8.zero_and, UInt8.zero_and, UInt8.or_zero]

/-- A masked store merges every label with the new one under its part of the
mask. -/
theorem label_replace
    (word mask bits : UInt32)
    (inWord : lane < 4) :
    label (replace word mask bits) lane =
      merge (label word lane) (label mask lane) (label bits lane) := by
  unfold replace
  split
  · rename_i whole
    subst whole
    have covered : label 0xffffffff lane = 0xff := by
      rw [show (0xffffffff : UInt32) = LabelWord.mask .word from rfl, label_mask _ inWord,
        if_pos (show lane < Width.word.bytes from inWord)]
    rw [covered, merge_full]
  · rw [merge, label_or _ _ inWord, label_and _ _ inWord, label_and _ _ inWord,
      label_not _ inWord]

/-- An access within a word replaces the labels that it covers. -/
theorem merge_access
    (old : UInt8)
    (width : Width)
    (bits : UInt32)
    {first : Nat}
    (covered : first + width.bytes ≤ 4)
    (inWord : lane < 4) :
    merge old (label (mask width <<< shift first) lane)
        (label (bits <<< shift first) lane) =
      if first ≤ lane ∧ lane < first + width.bytes then label bits (lane - first) else old := by
  have positive := width.bytes_pos
  rw [label_shiftLeft _ (by omega) inWord, label_shiftLeft _ (by omega) inWord]
  by_cases above : first ≤ lane
  · rw [if_pos above, if_pos above, label_mask _ (by omega)]
    by_cases inside : lane < first + width.bytes
    · rw [if_pos (by omega), if_pos ⟨above, inside⟩, merge_full]
    · rw [if_neg (by omega), if_neg (fun both => inside both.2), merge_zero]
  · rw [if_neg above, if_neg above, if_neg (fun both => above both.1), merge_zero]

end LabelWord

namespace Lanes

/-- The lanes of a word are its labels. -/
theorem ofWord_eq (word : UInt32) :
    ofWord word = ⟨LabelWord.label word 0, LabelWord.label word 1,
      LabelWord.label word 2, LabelWord.label word 3⟩ := by
  have unshifted : word >>> LabelWord.shift 0 = word := by
    simp [LabelWord.shift]
  rw [LabelWord.label, unshifted]
  rfl

/-- A word that is shifted down and cut to a width gives the labels of an access
that lies within the word. -/
theorem truncate_ofWord_shiftRight
    (word : UInt32)
    (width : Width)
    {first : Nat}
    (inWord : first + width.bytes ≤ 4) :
    (ofWord (word >>> LabelWord.shift first)).truncate width =
      ofList ((List.range width.bytes).map fun position =>
        LabelWord.label word (first + position)) := by
  have moved (position : Nat) (inside : first + position < 4) :=
    LabelWord.label_shiftRight word inside
  rw [ofWord_eq]
  cases width with
  | byte =>
      have lowest := moved 0 (by simp only [Width.bytes] at inWord; omega)
      simp [truncate, ofList, Width.bytes, List.range_succ, lowest]
  | half =>
      simp only [Width.bytes] at inWord
      simp [truncate, ofList, Width.bytes, List.range_succ, moved 0 (by omega),
        moved 1 (by omega)]
  | word =>
      simp only [Width.bytes] at inWord
      simp [truncate, ofList, Width.bytes, List.range_succ, moved 0 (by omega),
        moved 1 (by omega), moved 2 (by omega), moved 3 (by omega)]

end Lanes
end ShadowTaint
