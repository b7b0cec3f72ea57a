import ShadowTaint.Proofs.Shadow.Words
import ShadowTaint.Shadow.Page

/-!
# Labels within pages

What an operation on a page does to the label at each offset of that page. Two
offsets of one page share a word when they agree up to their lowest two bits, so
a store changes the labels of one such group at most, and a run of whole words
and single labels fills exactly the range it is asked for.
-/

namespace ShadowTaint

/-- Two offsets of one page share a word when they share a group of four. -/
theorem wordIndex_eq_iff
    {first second : Nat}
    (samePage : first / pageSize = second / pageSize) :
    wordIndex first = wordIndex second ↔ first / 4 = second / 4 := by
  rw [Fin.ext_iff]
  simp only [wordIndex, pageSize] at samePage ⊢
  omega

theorem laneIndex_lt (offset : Nat) : laneIndex offset < 4 :=
  Nat.mod_lt offset (by decide)

/-- The end of a page lies behind the offsets of the page. -/
theorem samePage_of_lt
    {first second : Nat}
    (ordered : first ≤ second)
    (inside : second < (first / pageSize + 1) * pageSize) :
    second / pageSize = first / pageSize := by
  simp only [pageSize] at inside ⊢
  omega

namespace Page

@[simp] theorem word_clean (index : Fin wordsPerPage) : clean.word index = 0 := by
  simp [word, clean]

@[simp] theorem label_clean (offset : Nat) : clean.label offset = 0 := by
  simp [label]

/-- A store changes one word. -/
theorem word_replace
    (page : Page)
    (replaced index : Fin wordsPerPage)
    (mask bits : UInt32) :
    (page.replace replaced mask bits).word index =
      if index = replaced then LabelWord.replace (page.word index) mask bits
      else page.word index := by
  simp only [word, replace, Array.getElem_modify, Fin.ext_iff, eq_comm]

/-- A store merges the labels of one group of four. -/
theorem label_replace
    (page : Page)
    {written offset : Nat}
    (samePage : offset / pageSize = written / pageSize)
    (mask bits : UInt32) :
    (page.replace (wordIndex written) mask bits).label offset =
      if offset / 4 = written / 4 then
        LabelWord.merge (page.label offset) (LabelWord.label mask (laneIndex offset))
          (LabelWord.label bits (laneIndex offset))
      else page.label offset := by
  rw [label, word_replace]
  by_cases sameWord : offset / 4 = written / 4
  · rw [if_pos ((wordIndex_eq_iff samePage).2 sameWord), if_pos sameWord,
      LabelWord.label_replace _ _ _ (laneIndex_lt offset)]
    rfl
  · rw [if_neg (fun same => sameWord ((wordIndex_eq_iff samePage).1 same)),
      if_neg sameWord]
    rfl

/-- An access within a word replaces exactly the labels that it covers. -/
theorem label_replace_access
    (page : Page)
    {written offset : Nat}
    (samePage : offset / pageSize = written / pageSize)
    (width : Width)
    (bits : UInt32)
    (covered : laneIndex written + width.bytes ≤ 4) :
    (page.replace (wordIndex written)
        (LabelWord.mask width <<< LabelWord.shift (laneIndex written))
        (bits <<< LabelWord.shift (laneIndex written))).label offset =
      if written ≤ offset ∧ offset < written + width.bytes then
        LabelWord.label bits (offset - written)
      else page.label offset := by
  rw [label_replace _ samePage, LabelWord.merge_access _ _ _ covered (laneIndex_lt offset)]
  have writtenLane : laneIndex written = written % 4 := rfl
  have lane : laneIndex offset = offset % 4 := rfl
  by_cases inside : written ≤ offset ∧ offset < written + width.bytes
  · rw [if_pos (by omega), if_pos (by omega), if_pos inside]
    congr 1
    omega
  · rw [if_neg inside]
    split
    · rw [if_neg (by omega)]
    · rfl

/-- A stored label is the only one that changes in its page. -/
theorem label_setLabel
    (page : Page)
    {written offset : Nat}
    (samePage : offset / pageSize = written / pageSize)
    (value : UInt8) :
    (page.setLabel written value).label offset =
      if offset = written then value else page.label offset := by
  have covered : laneIndex written + Width.byte.bytes ≤ 4 := laneIndex_lt written
  have stored := page.label_replace_access samePage .byte value.toUInt32 covered
  have single : Width.byte.bytes = 1 := rfl
  rw [setLabel, show (0xff : UInt32) = LabelWord.mask .byte from rfl, stored]
  by_cases here : offset = written
  · rw [if_pos (by omega), if_pos here, here, Nat.sub_self,
      LabelWord.label_toUInt32 _ (by decide), if_pos rfl]
  · rw [if_neg (by omega), if_neg here]

/-- A stored word of one label changes exactly the four offsets of the word. -/
theorem label_setWord
    (page : Page)
    {written offset : Nat}
    (samePage : offset / pageSize = written / pageSize)
    (aligned : written % 4 = 0)
    (value : UInt8) :
    (page.replace (wordIndex written) (LabelWord.mask .word)
        (Lanes.splat value).toWord).label offset =
      if written ≤ offset ∧ offset < written + 4 then value else page.label offset := by
  have everyLane : (Lanes.splat value).toList.getD (laneIndex offset) 0 = value := by
    have inWord := laneIndex_lt offset
    match laneIndex offset, inWord with
    | 0, _ | 1, _ | 2, _ | 3, _ => rfl
  rw [label_replace _ samePage, LabelWord.label_mask _ (laneIndex_lt offset),
    if_pos (show laneIndex offset < Width.word.bytes from laneIndex_lt offset),
    LabelWord.merge_full, LabelWord.label_toWord _ (laneIndex_lt offset), everyLane]
  by_cases inside : written ≤ offset ∧ offset < written + 4
  · rw [if_pos (by omega), if_pos inside]
  · rw [if_neg (by omega), if_neg inside]

/-- Filling a range of one page stores the label at exactly its offsets. -/
theorem label_fill
    (page : Page)
    (first past : Nat)
    (value : UInt8)
    (inPage : past ≤ (first / pageSize + 1) * pageSize)
    {offset : Nat}
    (samePage : offset / pageSize = first / pageSize) :
    (page.fill first past value).label offset =
      if first ≤ offset ∧ offset < past then value else page.label offset := by
  fun_induction fill page first past value with
  | case1 page first nonempty whole inductionHypothesis =>
      obtain ⟨aligned, room⟩ := whole
      by_cases more : first + 4 < past
      · have next := samePage_of_lt (Nat.le_add_right first 4) (by omega)
        rw [inductionHypothesis (next ▸ inPage) (samePage.trans next.symm),
          label_setWord _ samePage aligned]
        by_cases later : first + 4 ≤ offset ∧ offset < past
        · rw [if_pos later, if_pos (by omega)]
        · rw [if_neg later]
          by_cases here : first ≤ offset ∧ offset < first + 4
          · rw [if_pos here, if_pos (by omega)]
          · rw [if_neg here, if_neg (by omega)]
      · rw [fill, if_neg more, label_setWord _ samePage aligned,
          show first + 4 = past by omega]
  | case2 page first nonempty single inductionHypothesis =>
      by_cases more : first + 1 < past
      · have next := samePage_of_lt (Nat.le_add_right first 1) (by omega)
        rw [inductionHypothesis (next ▸ inPage) (samePage.trans next.symm),
          label_setLabel _ samePage]
        by_cases here : offset = first
        · rw [if_neg (by omega), if_pos here, if_pos (by omega)]
        · rw [if_neg here]
          by_cases later : first + 1 ≤ offset ∧ offset < past
          · rw [if_pos later, if_pos (by omega)]
          · rw [if_neg later, if_neg (by omega)]
      · rw [fill, if_neg more, label_setLabel _ samePage]
        by_cases here : offset = first
        · rw [if_pos here, if_pos (by omega)]
        · rw [if_neg here, if_neg (by omega)]
  | case3 page first empty => rw [if_neg (by omega)]

/-- An aligned word is zero when its four offsets are clean. -/
theorem word_eq_zero_iff
    (page : Page)
    {first : Nat}
    (aligned : first % 4 = 0) :
    page.word (wordIndex first) = 0 ↔
      ∀ offset, first ≤ offset → offset < first + 4 → page.label offset = 0 := by
  have samePage (lane : Nat) (inWord : lane < 4) :
      (first + lane) / pageSize = first / pageSize := by
    simp only [pageSize]
    omega
  have held (lane : Nat) (inWord : lane < 4) :
      page.label (first + lane) = LabelWord.label (page.word (wordIndex first)) lane := by
    rw [label, (wordIndex_eq_iff (samePage lane inWord)).2 (by omega), laneIndex,
      show (first + lane) % 4 = lane by omega]
  rw [LabelWord.eq_zero_iff]
  constructor
  · intro clean offset lower upper
    have position : offset = first + (offset - first) := by omega
    rw [position, held _ (by omega)]
    exact clean _ (by omega)
  · intro clean lane inWord
    rw [← held lane inWord]
    exact clean _ (by omega) (by omega)

/-- A range of one page is tainted when one of its offsets carries a label. -/
theorem anyTainted_iff
    (page : Page)
    (first past : Nat) :
    page.anyTainted first past = true ↔
      ∃ offset, first ≤ offset ∧ offset < past ∧ page.label offset ≠ 0 := by
  fun_induction anyTainted page first past with
  | case1 first nonempty whole inductionHypothesis =>
      obtain ⟨aligned, room⟩ := whole
      rw [Bool.or_eq_true, bne_iff_ne, ne_eq, word_eq_zero_iff _ aligned,
        inductionHypothesis]
      constructor
      · rintro (here | ⟨offset, lower, upper, tainted⟩)
        · obtain ⟨offset, here⟩ := Classical.not_forall.1 here
          obtain ⟨lower, here⟩ := Classical.not_forall.1 here
          obtain ⟨upper, tainted⟩ := Classical.not_forall.1 here
          exact ⟨offset, lower, by omega, tainted⟩
        · exact ⟨offset, by omega, upper, tainted⟩
      · rintro ⟨offset, lower, upper, tainted⟩
        by_cases here : offset < first + 4
        · exact .inl fun clean => tainted (clean offset lower here)
        · exact .inr ⟨offset, by omega, upper, tainted⟩
  | case2 first nonempty single inductionHypothesis =>
      rw [Bool.or_eq_true, bne_iff_ne, inductionHypothesis]
      constructor
      · rintro (here | ⟨offset, lower, upper, tainted⟩)
        · exact ⟨first, Nat.le_refl first, nonempty, here⟩
        · exact ⟨offset, by omega, upper, tainted⟩
      · rintro ⟨offset, lower, upper, tainted⟩
        by_cases here : offset = first
        · exact .inl (here ▸ tainted)
        · exact .inr ⟨offset, by omega, upper, tainted⟩
  | case3 first empty =>
      constructor
      · intro impossible
        cases impossible
      · rintro ⟨offset, lower, upper, _⟩
        omega

end Page
end ShadowTaint
