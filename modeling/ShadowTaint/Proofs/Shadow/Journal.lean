import ShadowTaint.Proofs.Shadow.Allocation
import ShadowTaint.Proofs.Shadow.Refinement

/-!
# Journals of stores

A journal lists the labels that were stored, each with its address. What a sequence of
stores does to a memory is told by its journal: an address has the label that the journal
gives it last, or the one it had, and a page is allocated if it was or if the journal has
a nonzero label in it. Two memories that come of one memory by journals with the same
labels and pages are equal, so stores without a common address may be exchanged.
-/

namespace ShadowTaint

/-- What occurs in a history that has grown by one has occurred before, or is the last. -/
theorem exists_occurrence_concat
    {Item : Type}
    {occurs : List Item -> Item -> List Item -> Prop}
    (past : List Item)
    (last : Item) :
    (∃ earlier item later, past ++ [last] = earlier ++ item :: later ∧
        occurs earlier item later) ↔
      (∃ earlier item later, past = earlier ++ item :: later ∧
        occurs earlier item (later ++ [last])) ∨ occurs past last [] := by
  constructor
  · rintro ⟨earlier, item, later, split, occurred⟩
    obtain rfl | ⟨between, final, rfl⟩ := later.eq_nil_or_concat
    · obtain ⟨rfl, equal⟩ := List.append_inj' split rfl
      cases equal
      exact .inr occurred
    · rw [List.concat_eq_append] at split occurred
      rw [← List.cons_append, ← List.append_assoc] at split
      obtain ⟨rfl, equal⟩ := List.append_inj' split rfl
      cases equal
      exact .inl ⟨earlier, item, between, rfl, occurred⟩
  · rintro (⟨earlier, item, later, rfl, occurred⟩ | occurred)
    · exact ⟨earlier, item, later ++ [last], by simp, occurred⟩
    · exact ⟨past, last, [], rfl, occurred⟩

/-- The labels that were stored, each with its address, the latest first. -/
abbrev Journal := List (Nat × UInt8)

namespace Journal

/-- One label for each address of a range. -/
def ofRange (first length : Nat) (label : Nat -> UInt8) : Journal :=
  (List.range length).map fun position => (first + position, label position)

/-- The journal of stores one after the other. -/
def inOrder (journals : List Journal) : Journal := journals.reverse.flatten

/-- A label was stored at the address. -/
def Writes (journal : Journal) (address : Nat) : Prop := ∃ label, (address, label) ∈ journal

/-- A nonzero label was stored into a page, of those counted from a base. -/
def Taints (journal : Journal) (base number : Nat) : Prop :=
  ∃ entry ∈ journal, entry.2 ≠ 0 ∧ (entry.1 - base) / pageSize = number

theorem lookup_ofRange (first length : Nat) (label : Nat -> UInt8) (address : Nat) :
    (ofRange first length label).lookup address =
      if first ≤ address ∧ address < first + length then some (label (address - first))
      else none := by
  induction length with
  | zero =>
      rw [if_neg (by omega)]
      rfl
  | succ length inductionHypothesis =>
      rw [ofRange, List.range_succ, List.map_append, List.lookup_append, ← ofRange,
        inductionHypothesis]
      by_cases inside : first ≤ address ∧ address < first + length
      · rw [if_pos inside, if_pos (by omega)]
        rfl
      · rw [if_neg inside, Option.none_or, List.map_singleton, List.lookup_cons,
          List.lookup_nil]
        by_cases last : address = first + length
        · rw [if_pos (by omega)]
          simp [last]
        · rw [if_neg (by omega), beq_eq_false_iff_ne.2 last]

theorem writes_ofRange_iff {first length : Nat} {label : Nat -> UInt8} {address : Nat} :
    (ofRange first length label).Writes address ↔
      first ≤ address ∧ address < first + length := by
  simp only [Writes, ofRange, List.mem_map, List.mem_range, Prod.mk.injEq]
  constructor
  · rintro ⟨_, position, inside, rfl, -⟩
    omega
  · rintro ⟨lower, upper⟩
    exact ⟨_, address - first, by omega, by omega, rfl⟩

variable {journal first second : Journal} {address base number : Nat}

theorem writes_append_iff :
    Writes (first ++ second) address ↔ first.Writes address ∨ second.Writes address := by
  simp [Writes, exists_or]

theorem taints_append_iff :
    Taints (first ++ second) base number ↔
      first.Taints base number ∨ second.Taints base number := by
  simp [Taints, or_and_right, exists_or]

@[simp] theorem not_writes_nil : ¬Writes [] address := by
  rintro ⟨label, member⟩
  cases member

@[simp] theorem inOrder_nil : inOrder [] = [] := rfl

theorem inOrder_cons (earlier : Journal) (rest : List Journal) :
    inOrder (earlier :: rest) = inOrder rest ++ earlier := by
  simp [inOrder]

@[simp] theorem inOrder_singleton (journal : Journal) : inOrder [journal] = journal := by
  simp [inOrder]

theorem writes_inOrder_iff {journals : List Journal} :
    (inOrder journals).Writes address ↔ ∃ journal ∈ journals, journal.Writes address := by
  simp only [Writes, inOrder, List.mem_flatten, List.mem_reverse]
  constructor
  · rintro ⟨label, journal, inList, member⟩
    exact ⟨journal, inList, label, member⟩
  · rintro ⟨journal, inList, label, member⟩
    exact ⟨label, journal, inList, member⟩

theorem lookup_eq_none (unwritten : ¬journal.Writes address) :
    journal.lookup address = none := by
  rw [List.lookup_eq_none_iff]
  rintro ⟨written, label⟩ member
  rw [bne_iff_ne]
  rintro rfl
  exact unwritten ⟨label, member⟩

/-- Journals without a common address may be joined in either order. -/
theorem lookup_append_comm
    (apart : ∀ address, first.Writes address -> ¬second.Writes address)
    (address : Nat) :
    (first ++ second).lookup address = (second ++ first).lookup address := by
  rw [List.lookup_append, List.lookup_append]
  by_cases written : first.Writes address
  · rw [lookup_eq_none (apart address written), Option.or_none, Option.none_or]
  · rw [lookup_eq_none written, Option.or_none, Option.none_or]

end Journal

/-! ## Memories with the same labels and pages -/

/-- Pages with the same labels are equal. -/
theorem Page.eq_of_label
    {first second : Page}
    {number : Nat}
    (same : ∀ offset, offset / pageSize = number -> first.label offset = second.label offset) :
    first = second := by
  have words (index : Fin wordsPerPage) : first.word index = second.word index := by
    apply LabelWord.word_ext
    intro lane inWord
    obtain ⟨index, inPage⟩ := index
    have bound : index < 16384 := inPage
    have here := same (number * pageSize + (4 * index + lane)) (by
      simp only [pageSize]
      omega)
    have word : wordIndex (number * pageSize + (4 * index + lane)) = ⟨index, inPage⟩ := by
      simp only [wordIndex, pageSize, Fin.mk.injEq]
      omega
    have position : laneIndex (number * pageSize + (4 * index + lane)) = lane := by
      simp only [laneIndex, pageSize]
      omega
    rwa [label, label, word, position] at here
  obtain ⟨firstWords, firstSize⟩ := first
  obtain ⟨secondWords, secondSize⟩ := second
  congr 1
  apply Array.ext
  · rw [firstSize, secondSize]
  · intro index inFirst inSecond
    exact words ⟨index, firstSize ▸ inFirst⟩

namespace Memory

/-- Memories of the same addresses with the same labels and pages are equal. -/
theorem eq_of_labelAt
    {first second : Memory}
    (base : first.base = second.base)
    (size : first.size = second.size)
    (labels : ∀ offset, first.labelAt offset = second.labelAt offset)
    (pages : ∀ number, first.HasPage number ↔ second.HasPage number) :
    first = second := by
  have sameSize : first.pages.size = second.pages.size := by
    rw [first.size_pages, second.size_pages, size]
  have samePages : first.pages = second.pages := by
    apply Array.ext sameSize
    intro number inFirst inSecond
    have firstPage (offset : Nat) (here : offset / pageSize = number) :
        first.pageOf offset = first.pages[number] := by
      rw [pageOf, here, Array.getElem?_eq_getElem inFirst]
      rfl
    have secondPage (offset : Nat) (here : offset / pageSize = number) :
        second.pageOf offset = second.pages[number] := by
      rw [pageOf, here, Array.getElem?_eq_getElem inSecond]
      rfl
    have allocated := pages number
    rw [HasPage, HasPage, Array.getElem?_eq_getElem inFirst,
      Array.getElem?_eq_getElem inSecond] at allocated
    cases foundFirst : first.pages[number] with
    | none =>
        cases foundSecond : second.pages[number] with
        | none => rfl
        | some page => simp [foundFirst, foundSecond] at allocated
    | some page =>
        cases foundSecond : second.pages[number] with
        | none => simp [foundFirst, foundSecond] at allocated
        | some other =>
            congr 1
            apply Page.eq_of_label
            intro offset here
            have same := labels offset
            rwa [labelAt, labelAt, firstPage offset here, secondPage offset here, foundFirst,
              foundSecond] at same
  obtain ⟨_, _, _, _, _⟩ := first
  obtain ⟨_, _, _, _, _⟩ := second
  cases base
  cases size
  cases samePages
  rfl

/-- The memory after stores with this journal. -/
structure Records (memory : Memory) (journal : Journal) (after : Memory) : Prop where
  base : after.base = memory.base
  size : after.size = memory.size
  label : ∀ offset, after.labelAt offset =
    (journal.lookup (memory.base.toNat + offset)).getD (memory.labelAt offset)
  page : ∀ number, after.HasPage number ↔
    memory.HasPage number ∨ journal.Taints memory.base.toNat number

namespace Records

variable {memory middle after other : Memory} {first second : Journal}

theorem refl (memory : Memory) : memory.Records [] memory where
  base := rfl
  size := rfl
  label := fun _ => rfl
  page := fun _ => by simp [Journal.Taints]

/-- Journals of stores one after the other are joined. -/
theorem trans
    (earlier : memory.Records first middle)
    (later : middle.Records second after) :
    memory.Records (second ++ first) after where
  base := later.base.trans earlier.base
  size := later.size.trans earlier.size
  label := by
    intro offset
    rw [later.label, earlier.label, earlier.base, List.lookup_append, Option.getD_or]
  page := by
    intro number
    rw [later.page, earlier.page, earlier.base, Journal.taints_append_iff, or_assoc,
      or_comm (a := first.Taints _ _)]

/-- Memories that come of one memory by equivalent journals are equal. -/
theorem eq
    (one : memory.Records first after)
    (two : memory.Records second other)
    (labels : ∀ address, first.lookup address = second.lookup address)
    (pages : ∀ base number, first.Taints base number ↔ second.Taints base number) :
    after = other := by
  apply eq_of_labelAt
  · rw [one.base, two.base]
  · rw [one.size, two.size]
  · intro offset
    rw [one.label, two.label, labels]
  · intro number
    rw [one.page, two.page, pages]

/-- A mapped address has the label that was stored last, or the one it had. -/
theorem label_eq_getD
    {address : Nat}
    (records : memory.Records first after)
    (inside : memory.base.toNat ≤ address) :
    after.labels.label address = (first.lookup address).getD (memory.labels.label address) := by
  simp only [labels, records.base]
  rw [if_pos inside, if_pos inside, records.label,
    show memory.base.toNat + (address - memory.base.toNat) = address by omega]

/-- An address that is not written keeps its label. -/
theorem label_eq
    {address : Nat}
    (records : memory.Records first after)
    (unwritten : ¬first.Writes address) :
    after.labels.label address = memory.labels.label address := by
  by_cases inside : memory.base.toNat ≤ address
  · rw [records.label_eq_getD inside, Journal.lookup_eq_none unwritten, Option.getD_none]
  · simp only [labels, records.base]
    rw [if_neg inside, if_neg inside]

end Records

variable {memory : Memory} {address length : UInt32} {width : Width}

/-- A store of labels by offset, as a journal by address. -/
theorem Leaves.records
    {reached : Reached Fault Memory Unit}
    (first length : Nat)
    (label : Nat -> UInt8)
    (leaves : memory.Leaves reached fun position =>
      if first ≤ position ∧ position < first + length then label (position - first)
      else memory.labelAt position)
    (allocates : memory.Allocates reached
      (TaintedPage first (first + length) fun position => label (position - first))) :
    ∃ after, reached = .done after () ∧
      memory.Records (.ofRange (memory.base.toNat + first) length label) after := by
  obtain ⟨after, ran, base, size, labels⟩ := leaves
  refine ⟨after, ran, base, size, ?_, ?_⟩
  · intro offset
    rw [Journal.lookup_ofRange, labels]
    dsimp only
    by_cases inside : first ≤ offset ∧ offset < first + length
    · rw [if_pos inside, if_pos (by omega), Option.getD_some]
      congr 1
      omega
    · rw [if_neg inside, if_neg (by omega), Option.getD_none]
  · intro number
    rw [allocates after ran]
    refine or_congr_right ?_
    simp only [TaintedPage, Journal.Taints, Journal.ofRange, List.mem_map, List.mem_range]
    constructor
    · rintro ⟨position, lower, upper, tainted, here⟩
      refine ⟨_, ⟨position - first, by omega, rfl⟩, tainted, ?_⟩
      have placed : memory.base.toNat + first + (position - first) - memory.base.toNat =
          position := by omega
      rwa [placed]
    · rintro ⟨_, ⟨position, inside, rfl⟩, tainted, here⟩
      have placed : memory.base.toNat + first + position - memory.base.toNat =
          first + position := by omega
      refine ⟨first + position, by omega, by omega, ?_, ?_⟩
      · rwa [Nat.add_sub_cancel_left]
      · rwa [placed] at here

/-- Cut lanes are clean beyond the lanes that the access covers. -/
theorem label_truncate_above
    (lanes : Lanes)
    {lane : Nat}
    (inWord : lane < 4)
    (above : width.bytes ≤ lane) :
    LabelWord.label (lanes.truncate width).toWord lane = 0 := by
  rw [LabelWord.label_toWord _ inWord]
  cases width with
  | byte =>
      change 1 ≤ lane at above
      match lane, inWord with
      | 1, _ | 2, _ | 3, _ => rfl
  | half =>
      change 2 ≤ lane at above
      match lane, inWord with
      | 2, _ | 3, _ => rfl
  | word => exact absurd inWord (Nat.not_lt.2 above)

/-- An access allocates a page if one of the lanes that it covers is not clean. -/
theorem storeLanes_allocates
    {offset : Nat}
    (lanes : Lanes)
    (found : memory.locate address width.bytes = .ok offset)
    (inside : offset + width.bytes ≤ memory.size) :
    memory.Allocates (memory.storeLanes address width lanes)
      (TaintedPage offset (offset + width.bytes) fun position =>
        (lanes.toList.take width.bytes).getD (position - offset) 0) := by
  have positive := width.bytes_pos
  rw [storeLanes, found]
  dsimp only
  by_cases aligned : offset % width.bytes = 0
  · rw [if_pos aligned]
    refine (storeAccess_allocates width (fun _ => label_truncate_above lanes) (by omega)
      (covered_of_aligned aligned)).congr fun number => or_congr_right ?_
    simp only [TaintedPage]
    refine exists_congr fun position => ?_
    constructor
    · rintro ⟨lower, upper, tainted, here⟩
      rw [label_truncate lanes width (by omega)] at tainted
      exact ⟨lower, upper, tainted, here⟩
    · rintro ⟨lower, upper, tainted, here⟩
      rw [← label_truncate lanes width (by omega)] at tainted
      exact ⟨lower, upper, tainted, here⟩
  · rw [if_neg aligned]
    have count := length_take_lanes lanes width
    have stored := storeLabels_allocates memory offset (lanes.toList.take width.bytes) (by omega)
    rwa [count] at stored

theorem storeLanes_records
    (lanes : Lanes)
    (covers : memory.labels.Covers address.toNat width.bytes) :
    ∃ after, memory.storeLanes address width lanes = .done after () ∧
      memory.Records
        (.ofRange address.toNat width.bytes fun lane =>
          (lanes.toList.take width.bytes).getD lane 0) after := by
  obtain ⟨offset, found, located, inside⟩ := locate_ok covers width.bytes_pos
  have stored := Leaves.records offset width.bytes
    (fun lane => (lanes.toList.take width.bytes).getD lane 0)
    (storeLanes_leaves lanes found inside) (storeLanes_allocates lanes found inside)
  rwa [located] at stored

theorem storeRange_records
    (label : UInt8)
    (covers : memory.labels.Covers address.toNat length.toNat) :
    ∃ after, memory.storeRange address length label = .done after () ∧
      memory.Records (.ofRange address.toNat length.toNat fun _ => label) after := by
  by_cases empty : length = 0
  · subst empty
    exact ⟨memory, rfl, .refl memory⟩
  · obtain ⟨offset, found, located, inside⟩ := locate_ok covers (toNat_pos empty)
    rw [storeRange, if_neg empty, found]
    have stored := Leaves.records offset length.toNat (fun _ => label)
      (fillLabels_leaves memory offset _ label inside)
      (fillLabels_allocates memory offset _ label inside)
    rwa [located] at stored

end Memory
end ShadowTaint
