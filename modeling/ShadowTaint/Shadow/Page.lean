import ShadowTaint.Shadow.LabelWord

/-!
# Shadow pages

Shadow memory is kept in pages of 64 KiB, and a page is an array of words of
four labels. Offsets count from the start of the memory; the low sixteen bits of
an offset say where it lies in its page.
-/

namespace ShadowTaint

/-- The number of positions of a page. -/
def pageSize : Nat := 65536

/-- The number of words of a page. -/
def wordsPerPage : Nat := 16384

theorem pageSize_pos : 0 < pageSize := by decide

/-- The word of its page that holds an offset. -/
def wordIndex (offset : Nat) : Fin wordsPerPage :=
  ⟨offset % pageSize / 4, Nat.div_lt_of_lt_mul (Nat.mod_lt offset pageSize_pos)⟩

/-- The lane of its word that holds an offset. -/
def laneIndex (offset : Nat) : Nat := offset % 4

/-- The labels of one page of shadow memory. -/
structure Page where
  words : Array UInt32
  size_words : words.size = wordsPerPage

namespace Page

/-- A page without taint. -/
def clean : Page := ⟨Array.replicate wordsPerPage 0, Array.size_replicate⟩

/-- One word of a page. -/
def word (page : Page) (index : Fin wordsPerPage) : UInt32 :=
  have inside : index.val < page.words.size := page.size_words.symm ▸ index.isLt
  page.words[index.val]

/-- Replace the bits of one word that are set in the mask. -/
def replace (page : Page) (index : Fin wordsPerPage) (mask bits : UInt32) : Page :=
  ⟨page.words.modify index fun word => LabelWord.replace word mask bits,
    Array.size_modify.trans page.size_words⟩

/-- The label at an offset. -/
def label (page : Page) (offset : Nat) : UInt8 :=
  LabelWord.label (page.word (wordIndex offset)) (laneIndex offset)

/-- Store the label at an offset. -/
def setLabel (page : Page) (offset : Nat) (label : UInt8) : Page :=
  let shift := LabelWord.shift (laneIndex offset)
  page.replace (wordIndex offset) (0xff <<< shift) (label.toUInt32 <<< shift)

/-- Store one label at the offsets from one up to another in the same page: by
words where a whole aligned word remains, else label by label. -/
def fill (page : Page) (offset past : Nat) (label : UInt8) : Page :=
  if offset < past then
    if offset % 4 = 0 ∧ 4 ≤ past - offset then
      (page.replace (wordIndex offset) (LabelWord.mask .word) (Lanes.splat label).toWord).fill
        (offset + 4) past label
    else (page.setLabel offset label).fill (offset + 1) past label
  else page
termination_by past - offset

/-- Some label at the offsets from one up to another in the same page is not
zero. Whole aligned words are compared at once. -/
def anyTainted (page : Page) (offset past : Nat) : Bool :=
  if offset < past then
    if offset % 4 = 0 ∧ 4 ≤ past - offset then
      page.word (wordIndex offset) != 0 || page.anyTainted (offset + 4) past
    else page.label offset != 0 || page.anyTainted (offset + 1) past
  else false
termination_by past - offset

end Page
end ShadowTaint
