import ShadowTaint.Proofs.Shadow.Pages
import ShadowTaint.Shadow.Memory

/-!
# Labels by offset

`Memory.labelAt` reads shadow memory as a map from offsets to labels, in which
absent pages are clean. Within the mapped range every page number has an entry
in the page table, so no operation on offsets faults there. Loads give the labels
of the map, and `Memory.Leaves` says which map a store leaves behind.
-/

namespace ShadowTaint
namespace Memory

/-- The page of an offset, if it is allocated. -/
def pageOf (memory : Memory) (offset : Nat) : Option Page :=
  memory.pages[offset / pageSize]?.join

/-- The label at an offset. -/
def labelAt (memory : Memory) (offset : Nat) : UInt8 :=
  match memory.pageOf offset with
  | some page => page.label offset
  | none => 0

/-- A store runs to its end, over the same addresses, and leaves these labels. -/
def Leaves
    (memory : Memory)
    (reached : Reached Fault Memory Unit)
    (labels : Nat -> UInt8) : Prop :=
  ∃ after : Memory, reached = .done after () ∧
    after.base = memory.base ∧ after.size = memory.size ∧ ∀ offset, after.labelAt offset = labels offset

variable {memory : Memory} {offset : Nat}

/-- The page table has an entry for every mapped offset. -/
theorem number_lt (memory : Memory) {offset : Nat} (mapped : offset < memory.size) :
    offset / pageSize < memory.pages.size := by
  rw [memory.size_pages, pageCount]
  simp only [pageSize]
  omega

/-- An absent page reads like a clean one. -/
theorem labelAt_getD
    {position : Nat}
    (samePage : position / pageSize = offset / pageSize) :
    memory.labelAt position = ((memory.pageOf offset).getD Page.clean).label position := by
  rw [labelAt, pageOf, pageOf, samePage]
  cases memory.pages[offset / pageSize]?.join <;> simp

/-! ## Loads -/

theorem page?_eq (mapped : offset < memory.size) :
    memory.page? offset = .ok (memory.pageOf offset) := by
  rw [page?, pageOf, Array.getElem?_eq_getElem (memory.number_lt mapped)]
  rfl

theorem isAllocated_eq (mapped : offset < memory.size) :
    memory.isAllocated offset = .ok (memory.pageOf offset).isSome := by
  rw [isAllocated, page?_eq mapped]

theorem loadLabel_eq (mapped : offset < memory.size) :
    memory.loadLabel offset = .ok (memory.labelAt offset) := by
  rw [loadLabel, loadWord, page?_eq mapped, labelAt]
  cases memory.pageOf offset with
  | none => simp
  | some page => rfl

theorem loadLabels_eq
    (memory : Memory)
    (first length : Nat)
    (mapped : first + length ≤ memory.size) :
    memory.loadLabels first length =
      .ok ((List.range length).map fun position => memory.labelAt (first + position)) := by
  have each : ∀ positions : List Nat, (∀ position ∈ positions, position < length) →
      positions.mapM (fun position => memory.loadLabel (first + position)) =
        .ok (positions.map fun position => memory.labelAt (first + position)) := by
    intro positions inside
    induction positions with
    | nil => rfl
    | cons position rest inductionHypothesis =>
        have here := inside position List.mem_cons_self
        rw [List.mapM_cons, loadLabel_eq (by omega),
          inductionHypothesis fun other member => inside other (List.mem_cons_of_mem _ member)]
        rfl
  exact each _ fun position member => List.mem_range.1 member

/-- An access that lies within a word reads its labels at once. -/
theorem loadWord_eq
    (width : Width)
    (mapped : offset < memory.size)
    (covered : laneIndex offset + width.bytes ≤ 4) :
    ∃ word, memory.loadWord offset = .ok word ∧
      (Lanes.ofWord (word >>> LabelWord.shift (laneIndex offset))).truncate width =
        Lanes.ofList ((List.range width.bytes).map fun position =>
          memory.labelAt (offset + position)) := by
  have lane : laneIndex offset = offset % 4 := rfl
  have sameNumber (position : Nat) (inside : position < width.bytes) :
      (offset + position) / pageSize = offset / pageSize := by
    simp only [pageSize]
    omega
  have samePage (position : Nat) (inside : position < width.bytes) :
      memory.pageOf (offset + position) = memory.pageOf offset := by
    rw [pageOf, sameNumber position inside, pageOf]
  rw [loadWord, page?_eq mapped]
  cases found : memory.pageOf offset with
  | none =>
      refine ⟨0, rfl, ?_⟩
      rw [Lanes.truncate_ofWord_shiftRight _ _ covered]
      congr 1
      apply List.map_congr_left
      intro position member
      rw [labelAt, samePage position (List.mem_range.1 member), found,
        LabelWord.label_zero]
  | some page =>
      refine ⟨_, rfl, ?_⟩
      rw [Lanes.truncate_ofWord_shiftRight _ _ covered]
      congr 1
      apply List.map_congr_left
      intro position member
      have inside := List.mem_range.1 member
      have sameWord := (wordIndex_eq_iff (sameNumber position inside)).2
        (show (offset + position) / 4 = offset / 4 by omega)
      have movedLane : laneIndex (offset + position) = laneIndex offset + position := by
        simp only [laneIndex]
        omega
      rw [labelAt, samePage position inside, found]
      show _ = page.label (offset + position)
      rw [Page.label, sameWord, movedLane]

/-- The offsets of a chunk are in the page of its first. -/
theorem samePage_of_lt_chunkEnd
    {first past offset : Nat}
    (lower : first ≤ offset)
    (upper : offset < chunkEnd first past) :
    offset / pageSize = first / pageSize :=
  samePage_of_lt lower (Nat.lt_of_lt_of_le upper (Nat.min_le_left _ _))

theorem chunkEnd_le (first past : Nat) : chunkEnd first past ≤ past := Nat.min_le_right _ _

theorem chunkEnd_le_page (first past : Nat) :
    chunkEnd first past ≤ (first / pageSize + 1) * pageSize := Nat.min_le_left _ _

/-- Within a chunk, labels are those of one page. -/
theorem labelAt_chunk
    (memory : Memory)
    {first past offset : Nat}
    (lower : first ≤ offset)
    (upper : offset < chunkEnd first past) :
    memory.labelAt offset =
      match memory.pageOf first with
      | some page => page.label offset
      | none => 0 := by
  rw [labelAt, pageOf, samePage_of_lt_chunkEnd lower upper, ← pageOf]

/-- A range is tainted when one of its offsets carries a label. -/
theorem anyLabel_eq
    (memory : Memory)
    (first past : Nat)
    (mapped : past ≤ memory.size) :
    ∃ tainted, memory.anyLabel first past = .ok tainted ∧
      (tainted = true ↔
        ∃ offset, first ≤ offset ∧ offset < past ∧ memory.labelAt offset ≠ 0) := by
  fun_induction anyLabel memory first past with
  | case1 first nonempty advance page found chunk =>
      refine ⟨true, rfl, iff_of_true rfl ?_⟩
      rw [page?_eq (by omega)] at found
      obtain ⟨offset, lower, upper, tainted⟩ := (Page.anyTainted_iff _ _ _).1 chunk
      refine ⟨offset, lower, Nat.lt_of_lt_of_le upper (chunkEnd_le first past), ?_⟩
      rw [labelAt_chunk memory lower upper, Except.ok.inj found]
      exact tainted
  | case2 first nonempty advance page found chunk inductionHypothesis =>
      obtain ⟨tainted, result, meaning⟩ := inductionHypothesis
      refine ⟨tainted, result, meaning.trans ?_⟩
      rw [page?_eq (by omega)] at found
      constructor
      · rintro ⟨offset, lower, upper, here⟩
        exact ⟨offset, by omega, upper, here⟩
      · rintro ⟨offset, lower, upper, here⟩
        refine ⟨offset, Nat.le_of_not_lt fun inChunk => chunk ?_, upper, here⟩
        rw [labelAt_chunk memory lower inChunk, Except.ok.inj found] at here
        exact (Page.anyTainted_iff _ _ _).2 ⟨offset, lower, inChunk, here⟩
  | case3 first nonempty advance found inductionHypothesis =>
      obtain ⟨tainted, result, meaning⟩ := inductionHypothesis
      refine ⟨tainted, result, meaning.trans ?_⟩
      rw [page?_eq (by omega)] at found
      constructor
      · rintro ⟨offset, lower, upper, here⟩
        exact ⟨offset, by omega, upper, here⟩
      · rintro ⟨offset, lower, upper, here⟩
        refine ⟨offset, Nat.le_of_not_lt fun inChunk => here ?_, upper, here⟩
        rw [labelAt_chunk memory lower inChunk, Except.ok.inj found]
  | case4 first nonempty advance fault found =>
      rw [page?_eq (by omega)] at found
      cases found
  | case5 first empty =>
      refine ⟨false, rfl, iff_of_false Bool.false_ne_true ?_⟩
      rintro ⟨offset, lower, upper, _⟩
      omega

/-! ## Stores -/

/-- A change of a page leaves the changed labels of that page, and those of every
other page. -/
theorem changePage_leaves
    (change : Page -> Page)
    (mapped : offset < memory.size) :
    memory.Leaves (memory.changePage offset change) fun position =>
      if position / pageSize = offset / pageSize then
        (change ((memory.pageOf offset).getD Page.clean)).label position
      else memory.labelAt position := by
  have present := memory.number_lt mapped
  obtain ⟨base, size, pages, inside, counted⟩ := memory
  refine ⟨_, if_pos present, rfl, rfl, ?_⟩
  intro position
  simp only [labelAt, pageOf, Array.getElem?_modify]
  by_cases samePage : position / pageSize = offset / pageSize
  · rw [if_pos samePage.symm, if_pos samePage, samePage,
      Array.getElem?_eq_getElem present]
    rfl
  · rw [if_neg (fun same => samePage same.symm), if_neg samePage]

/-- A store that runs on leaves what its second part leaves. -/
theorem Leaves.andThen
    {reached : Reached Fault Memory Unit}
    {next : Memory -> Reached Fault Memory Unit}
    {between labels : Nat -> UInt8}
    (first : memory.Leaves reached between)
    (second : ∀ after : Memory, after.base = memory.base → after.size = memory.size →
      (∀ position, after.labelAt position = between position) →
      after.Leaves (next after) labels) :
    memory.Leaves (reached.andThen fun after _ => next after) labels := by
  obtain ⟨middle, rfl, base, size, agree⟩ := first
  obtain ⟨after, result, lastBase, lastSize, labelsAfter⟩ := second middle base size agree
  exact ⟨after, result, lastBase.trans base, lastSize.trans size, labelsAfter⟩

theorem Leaves.congr
    {reached : Reached Fault Memory Unit}
    {first second : Nat -> UInt8}
    (leaves : memory.Leaves reached first)
    (agree : ∀ position, first position = second position) :
    memory.Leaves reached second := by
  obtain ⟨after, result, base, size, labels⟩ := leaves
  exact ⟨after, result, base, size, fun position => (labels position).trans (agree position)⟩

/-- A memory that is kept leaves its labels. -/
theorem leaves_done (memory : Memory) : memory.Leaves (.done memory ()) memory.labelAt :=
  ⟨memory, rfl, rfl, rfl, fun _ => rfl⟩

/-- A masked store merges the labels of one group of four offsets. It allocates
nothing only where all of them are clean before and after. -/
theorem storeMasked_leaves
    (mask bits : UInt32)
    (mapped : offset < memory.size) :
    memory.Leaves (memory.storeMasked offset mask bits) fun position =>
      if position / 4 = offset / 4 then
        LabelWord.merge (memory.labelAt position)
          (LabelWord.label mask (laneIndex position))
          (LabelWord.label bits (laneIndex position))
      else memory.labelAt position := by
  have samePage (position : Nat) (sameWord : position / 4 = offset / 4) :
      position / pageSize = offset / pageSize := by
    simp only [pageSize]
    omega
  rw [storeMasked, isAllocated_eq mapped]
  dsimp only
  by_cases skipped : bits = 0 ∧ ¬(memory.pageOf offset).isSome
  · rw [if_pos skipped]
    obtain ⟨rfl, absent⟩ := skipped
    rw [Option.not_isSome_iff_eq_none] at absent
    refine memory.leaves_done.congr fun position => ?_
    split
    · rename_i sameWord
      rw [labelAt, pageOf, samePage position sameWord, ← pageOf, absent,
        LabelWord.label_zero, LabelWord.merge_clean]
    · rfl
  · rw [if_neg skipped]
    refine (changePage_leaves _ mapped).congr fun position => ?_
    by_cases here : position / pageSize = offset / pageSize
    · rw [if_pos here, Page.label_replace _ here, ← labelAt_getD here]
    · rw [if_neg here, if_neg (fun sameWord => here (samePage position sameWord))]

/-- An access that lies within a word stores its labels at once. -/
theorem storeAccess_leaves
    (width : Width)
    (bits : UInt32)
    (mapped : offset < memory.size)
    (covered : laneIndex offset + width.bytes ≤ 4) :
    memory.Leaves
      (memory.storeMasked offset
        (LabelWord.mask width <<< LabelWord.shift (laneIndex offset))
        (bits <<< LabelWord.shift (laneIndex offset))) fun position =>
      if offset ≤ position ∧ position < offset + width.bytes then
        LabelWord.label bits (position - offset)
      else memory.labelAt position := by
  refine (storeMasked_leaves _ _ mapped).congr fun position => ?_
  rw [LabelWord.merge_access _ _ _ covered (laneIndex_lt position)]
  have firstLane : laneIndex offset = offset % 4 := rfl
  have lane : laneIndex position = position % 4 := rfl
  by_cases inside : offset ≤ position ∧ position < offset + width.bytes
  · rw [if_pos (by omega), if_pos (by omega), if_pos inside]
    congr 1
    omega
  · rw [if_neg inside]
    split
    · rw [if_neg (by omega)]
    · rfl

theorem storeLabel_leaves
    (label : UInt8)
    (mapped : offset < memory.size) :
    memory.Leaves (memory.storeLabel offset label) fun position =>
      if position = offset then label else memory.labelAt position := by
  have covered : laneIndex offset + Width.byte.bytes ≤ 4 := laneIndex_lt offset
  have single : Width.byte.bytes = 1 := rfl
  refine (storeAccess_leaves .byte label.toUInt32 mapped covered).congr fun position => ?_
  by_cases here : position = offset
  · rw [if_pos (by omega), if_pos here, here, Nat.sub_self,
      LabelWord.label_toUInt32 _ (by decide), if_pos rfl]
  · rw [if_neg (by omega), if_neg here]

theorem storeLabels_leaves
    (memory : Memory)
    (first : Nat)
    (labels : List UInt8)
    (mapped : first + labels.length ≤ memory.size) :
    memory.Leaves (memory.storeLabels first labels) fun position =>
      if first ≤ position ∧ position < first + labels.length then
        labels.getD (position - first) 0
      else memory.labelAt position := by
  induction labels generalizing memory first with
  | nil =>
      refine memory.leaves_done.congr fun position => ?_
      rw [if_neg]
      simp only [List.length_nil]
      omega
  | cons label rest inductionHypothesis =>
      rw [List.length_cons] at mapped
      refine (storeLabel_leaves label (by omega)).andThen fun after base size agree => ?_
      refine (inductionHypothesis after (first + 1) (by omega)).congr fun position => ?_
      rw [agree, List.length_cons]
      by_cases here : position = first
      · rw [if_neg (by omega), if_pos here, if_pos (by omega), here, Nat.sub_self]
        rfl
      · rw [if_neg here]
        by_cases later : first + 1 ≤ position ∧ position < first + 1 + rest.length
        · have position_eq : position - first = position - (first + 1) + 1 := by omega
          rw [if_pos later, if_pos (by omega), position_eq, List.getD_cons_succ]
        · rw [if_neg later, if_neg (by omega)]

/-- Filling stores the label at exactly the offsets of the range, although the
label zero passes over absent pages. -/
theorem fillLabels_leaves
    (memory : Memory)
    (first past : Nat)
    (label : UInt8)
    (mapped : past ≤ memory.size) :
    memory.Leaves (memory.fillLabels first past label) fun position =>
      if first ≤ position ∧ position < past then label else memory.labelAt position := by
  fun_induction fillLabels memory first past label with
  | case1 memory first nonempty advance allocated found skipped inductionHypothesis =>
      obtain ⟨rfl, absent⟩ := skipped
      rw [isAllocated_eq (by omega)] at found
      rw [← Except.ok.inj found, Option.not_isSome_iff_eq_none] at absent
      refine (inductionHypothesis mapped).congr fun position => ?_
      by_cases later : chunkEnd first past ≤ position ∧ position < past
      · rw [if_pos later, if_pos (by omega)]
      · rw [if_neg later]
        by_cases inside : first ≤ position ∧ position < past
        · have inChunk : position < chunkEnd first past := by omega
          rw [if_pos inside, labelAt_chunk memory inside.1 inChunk, absent]
        · rw [if_neg inside]
  | case2 memory first nonempty advance allocated found stored inductionHypothesis =>
      refine (changePage_leaves _ (by omega)).andThen fun after base size agree => ?_
      refine (inductionHypothesis after (by omega)).congr fun position => ?_
      rw [agree]
      by_cases here : position / pageSize = first / pageSize
      · rw [if_pos here, Page.label_fill _ _ _ _ (chunkEnd_le_page first past) here,
          ← labelAt_getD here]
        by_cases later : chunkEnd first past ≤ position ∧ position < past
        · rw [if_pos later, if_pos (by omega)]
        · rw [if_neg later]
          by_cases inside : first ≤ position ∧ position < past
          · rw [if_pos (by omega), if_pos inside]
          · have within := chunkEnd_le first past
            rw [if_neg (by omega), if_neg inside]
      · have outside : ¬(first ≤ position ∧ position < chunkEnd first past) :=
          fun inChunk => here (samePage_of_lt_chunkEnd inChunk.1 inChunk.2)
        rw [if_neg here]
        by_cases inside : first ≤ position ∧ position < past
        · rw [if_pos (by omega), if_pos inside]
        · rw [if_neg (by omega), if_neg inside]
  | case3 memory first nonempty advance fault found =>
      rw [isAllocated_eq (by omega)] at found
      cases found
  | case4 memory first empty =>
      refine memory.leaves_done.congr fun position => ?_
      rw [if_neg (by omega)]

end Memory
end ShadowTaint
