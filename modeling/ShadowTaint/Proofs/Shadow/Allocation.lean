import ShadowTaint.Proofs.Shadow.Offsets

/-!
# Which pages a store allocates

A page is allocated for the first nonzero label that is stored into it, and for nothing
else. The decision is taken for masked words, for single labels of an unaligned access,
and for the chunks of a fill; in all of them the pages that a store adds are those of
the offsets that get a nonzero label.
-/

namespace ShadowTaint
namespace Memory

/-- A page of the memory is allocated. -/
def HasPage (memory : Memory) (number : Nat) : Prop :=
  memory.pages[number]?.join.isSome = true

/-- A page has an offset, from one up to another, that gets a nonzero label. -/
def TaintedPage (first past : Nat) (label : Nat -> UInt8) (number : Nat) : Prop :=
  ∃ position, first ≤ position ∧ position < past ∧ label position ≠ 0 ∧
    position / pageSize = number

/-- A store that runs to its end has added these pages. -/
def Allocates
    (memory : Memory)
    (reached : Reached Fault Memory Unit)
    (pages : Nat -> Prop) : Prop :=
  ∀ after, reached = .done after () ->
    ∀ number, after.HasPage number ↔ memory.HasPage number ∨ pages number

variable {memory : Memory} {offset : Nat}

theorem hasPage_iff (memory : Memory) (offset : Nat) :
    memory.HasPage (offset / pageSize) ↔ (memory.pageOf offset).isSome = true := Iff.rfl

/-- A page that is not allocated is clean. -/
theorem labelAt_of_not_hasPage (absent : ¬memory.HasPage (offset / pageSize)) :
    memory.labelAt offset = 0 := by
  rw [hasPage_iff, Option.not_isSome_iff_eq_none] at absent
  rw [labelAt, absent]

/-- To add a page that is allocated adds nothing. -/
theorem hasPage_or_iff
    {page : Nat}
    (present : memory.HasPage page)
    (number : Nat) :
    memory.HasPage number ∨ page = number ↔ memory.HasPage number :=
  or_iff_left_of_imp fun here => here ▸ present

namespace Allocates

theorem congr
    {reached : Reached Fault Memory Unit}
    {first second : Nat -> Prop}
    (allocates : memory.Allocates reached first)
    (same : ∀ number, memory.HasPage number ∨ first number ↔
      memory.HasPage number ∨ second number) :
    memory.Allocates reached second := by
  intro after ran number
  rw [allocates after ran, same]

/-- A store that runs on adds the pages of both of its parts. -/
theorem andThen
    {reached : Reached Fault Memory Unit}
    {next : Memory -> Reached Fault Memory Unit}
    {first second : Nat -> Prop}
    {labels : Nat -> UInt8}
    (leaves : memory.Leaves reached labels)
    (allocates : memory.Allocates reached first)
    (rest : ∀ middle : Memory, middle.size = memory.size -> middle.Allocates (next middle) second) :
    memory.Allocates (reached.andThen fun middle _ => next middle) fun number =>
      first number ∨ second number := by
  obtain ⟨middle, rfl, -, size, -⟩ := leaves
  intro after ran number
  rw [rest middle size after ran, allocates middle rfl, or_assoc]

end Allocates

/-- A changed page is allocated, and no other. -/
theorem changePage_allocates
    (change : Page -> Page)
    (mapped : offset < memory.size) :
    memory.Allocates (memory.changePage offset change) fun number =>
      offset / pageSize = number := by
  have present := memory.number_lt mapped
  obtain ⟨base, size, pages, inside, counted⟩ := memory
  intro after ran number
  rw [changePage] at ran
  dsimp only at ran present
  rw [if_pos present] at ran
  cases ran
  simp only [HasPage, Array.getElem?_modify]
  by_cases here : offset / pageSize = number
  · subst here
    rw [if_pos rfl, Array.getElem?_eq_getElem present]
    simp
  · simp [here]

/-- A masked store allocates the page of its word, unless all its bits are zero. -/
theorem storeMasked_allocates
    (mask bits : UInt32)
    (mapped : offset < memory.size) :
    memory.Allocates (memory.storeMasked offset mask bits) fun number =>
      bits ≠ 0 ∧ offset / pageSize = number := by
  rw [storeMasked, isAllocated_eq mapped]
  dsimp only
  by_cases skipped : bits = 0 ∧ ¬(memory.pageOf offset).isSome
  · rw [if_pos skipped]
    intro after ran number
    cases ran
    simp [skipped.1]
  · rw [if_neg skipped]
    refine (changePage_allocates _ mapped).congr ?_
    intro number
    by_cases zero : bits = 0
    · have allocated : memory.HasPage (offset / pageSize) := by
        rw [hasPage_iff]
        exact Classical.not_not.1 fun absent => skipped ⟨zero, absent⟩
      simpa [zero] using hasPage_or_iff allocated number
    · simp [zero]

/-- An access that lies within a word, of labels that the access covers, allocates the
page of the word if one of them is not zero. -/
theorem storeAccess_allocates
    (width : Width)
    {bits : UInt32}
    (cut : ∀ lane < 4, width.bytes ≤ lane -> LabelWord.label bits lane = 0)
    (mapped : offset < memory.size)
    (covered : laneIndex offset + width.bytes ≤ 4) :
    memory.Allocates
      (memory.storeMasked offset
        (LabelWord.mask width <<< LabelWord.shift (laneIndex offset))
        (bits <<< LabelWord.shift (laneIndex offset)))
      (TaintedPage offset (offset + width.bytes) fun position =>
        LabelWord.label bits (position - offset)) := by
  refine (storeMasked_allocates _ _ mapped).congr fun number => or_congr_right ?_
  have positive := width.bytes_pos
  have lane : laneIndex offset = offset % 4 := rfl
  have samePage (position : Nat) (inWord : position < width.bytes) :
      (offset + position) / pageSize = offset / pageSize := by
    simp only [pageSize]
    omega
  rw [ne_eq, LabelWord.eq_zero_iff]
  constructor
  · rintro ⟨nonzero, here⟩
    simp only [Classical.not_forall] at nonzero
    obtain ⟨position, inWord, tainted⟩ := nonzero
    rw [LabelWord.label_shiftLeft _ (laneIndex_lt offset) inWord] at tainted
    have above : laneIndex offset ≤ position := by
      apply Classical.not_not.1
      intro below
      rw [if_neg below] at tainted
      exact tainted rfl
    rw [if_pos above] at tainted
    have inAccess : position - laneIndex offset < width.bytes := by
      apply Classical.not_not.1
      intro outside
      exact tainted (cut _ (by omega) (by omega))
    refine ⟨offset + (position - laneIndex offset), by omega, by omega, ?_, ?_⟩
    · dsimp only
      rwa [Nat.add_sub_cancel_left]
    · rw [samePage _ inAccess, here]
  · rintro ⟨position, lower, upper, tainted, here⟩
    have inAccess : position - offset < width.bytes := by omega
    have inPage := samePage _ inAccess
    rw [show offset + (position - offset) = position by omega] at inPage
    refine ⟨?_, inPage.symm.trans here⟩
    intro clean
    have zero := clean (laneIndex offset + (position - offset)) (by omega)
    rw [LabelWord.label_shiftLeft _ (laneIndex_lt offset) (by omega), if_pos (by omega),
      Nat.add_sub_cancel_left] at zero
    exact tainted zero

theorem storeLabel_allocates
    (label : UInt8)
    (mapped : offset < memory.size) :
    memory.Allocates (memory.storeLabel offset label) fun number =>
      label ≠ 0 ∧ offset / pageSize = number := by
  have covered : laneIndex offset + Width.byte.bytes ≤ 4 := laneIndex_lt offset
  have single : Width.byte.bytes = 1 := rfl
  have cut : ∀ lane < 4, Width.byte.bytes ≤ lane -> LabelWord.label label.toUInt32 lane = 0 := by
    intro lane inWord above
    rw [LabelWord.label_toUInt32 _ inWord, if_neg (by omega)]
  refine (storeAccess_allocates .byte cut mapped covered).congr fun number =>
    or_congr_right ?_
  constructor
  · rintro ⟨position, lower, upper, tainted, here⟩
    have same : position = offset := by omega
    dsimp only at tainted
    rw [same, Nat.sub_self, LabelWord.label_toUInt32 _ (by decide), if_pos rfl] at tainted
    exact ⟨tainted, same ▸ here⟩
  · rintro ⟨tainted, here⟩
    refine ⟨offset, Nat.le_refl offset, by omega, ?_, here⟩
    dsimp only
    rwa [Nat.sub_self, LabelWord.label_toUInt32 _ (by decide), if_pos rfl]

theorem storeLabels_allocates
    (memory : Memory)
    (first : Nat)
    (labels : List UInt8)
    (mapped : first + labels.length ≤ memory.size) :
    memory.Allocates (memory.storeLabels first labels)
      (TaintedPage first (first + labels.length) fun position =>
        labels.getD (position - first) 0) := by
  induction labels generalizing memory first with
  | nil =>
      intro after ran number
      cases ran
      refine (or_iff_left ?_).symm
      rintro ⟨position, lower, upper, -⟩
      rw [List.length_nil] at upper
      omega
  | cons label rest inductionHypothesis =>
      rw [List.length_cons] at mapped
      have here : first < memory.size := by omega
      have later (middle : Memory) (size : middle.size = memory.size) :=
        inductionHypothesis middle (first + 1) (by omega)
      refine (Allocates.andThen (storeLabel_leaves label here)
        (storeLabel_allocates label here) later).congr fun number => or_congr_right ?_
      rw [List.length_cons]
      constructor
      · rintro (⟨tainted, inPage⟩ | ⟨position, lower, upper, tainted, inPage⟩)
        · refine ⟨first, Nat.le_refl first, by omega, ?_, inPage⟩
          dsimp only
          rwa [Nat.sub_self, List.getD_cons_zero]
        · refine ⟨position, by omega, by omega, ?_, inPage⟩
          have next : position - first = position - (first + 1) + 1 := by omega
          dsimp only
          rwa [next, List.getD_cons_succ]
      · rintro ⟨position, lower, upper, tainted, inPage⟩
        dsimp only at tainted
        by_cases atFirst : position = first
        · rw [atFirst, Nat.sub_self, List.getD_cons_zero] at tainted
          exact .inl ⟨tainted, atFirst ▸ inPage⟩
        · have next : position - first = position - (first + 1) + 1 := by omega
          rw [next, List.getD_cons_succ] at tainted
          exact .inr ⟨position, by omega, by omega, tainted, inPage⟩

/-- A fill with a nonzero label allocates all pages that it touches, and one with the
label zero none. -/
theorem fillLabels_allocates
    (memory : Memory)
    (first past : Nat)
    (label : UInt8)
    (mapped : past ≤ memory.size) :
    memory.Allocates (memory.fillLabels first past label)
      (TaintedPage first past fun _ => label) := by
  -- The pages of a range are that of its first chunk and those of the rest.
  have chunk (first : Nat) (nonempty : first < past) (number : Nat) :
      TaintedPage first past (fun _ => label) number ↔
        (label ≠ 0 ∧ first / pageSize = number) ∨
          TaintedPage (chunkEnd first past) past (fun _ => label) number := by
    have advance := lt_chunkEnd nonempty
    constructor
    · rintro ⟨position, lower, upper, tainted, here⟩
      by_cases inChunk : position < chunkEnd first past
      · exact .inl ⟨tainted, (samePage_of_lt_chunkEnd lower inChunk).symm.trans here⟩
      · exact .inr ⟨position, Nat.le_of_not_lt inChunk, upper, tainted, here⟩
    · rintro (⟨tainted, here⟩ | ⟨position, lower, upper, tainted, here⟩)
      · exact ⟨first, Nat.le_refl first, nonempty, tainted, here⟩
      · exact ⟨position, by omega, upper, tainted, here⟩
  fun_induction fillLabels memory first past label with
  | case1 memory first nonempty advance allocated found skipped inductionHypothesis =>
      obtain ⟨zero, -⟩ := skipped
      refine (inductionHypothesis mapped).congr fun number => or_congr_right ?_
      rw [chunk first nonempty]
      simp [zero]
  | case2 memory first nonempty advance allocated found stored inductionHypothesis =>
      rw [isAllocated_eq (by omega)] at found
      have inside : first < memory.size := by omega
      have later (middle : Memory) (size : middle.size = memory.size) :=
        inductionHypothesis middle (by omega)
      refine (Allocates.andThen (changePage_leaves _ inside) (changePage_allocates _ inside)
        later).congr fun number => ?_
      rw [chunk first nonempty, ← or_assoc, ← or_assoc]
      refine or_congr_left ?_
      by_cases zero : label = 0
      · have present : memory.HasPage (first / pageSize) := by
          rw [hasPage_iff, Except.ok.inj found]
          exact Classical.not_not.1 fun absent => stored ⟨zero, absent⟩
        simpa [zero] using hasPage_or_iff present number
      · simp [zero]
  | case3 memory first nonempty advance fault found =>
      rw [isAllocated_eq (by omega)] at found
      cases found
  | case4 memory first empty =>
      intro after ran number
      cases ran
      refine (or_iff_left ?_).symm
      rintro ⟨position, lower, upper, -⟩
      omega

end Memory
end ShadowTaint
