import ShadowTaint.Proofs.Trace.View

/-!
# Tables of threads up to order

Threads stand in a table in the order in which they began. No question to a table depends
on that order: two tables with the same threads, each found under its identifier, stay so
when the same thread is put into both or removed from both. What is done to two different
identifiers may be exchanged.
-/

namespace ShadowTaint
namespace ThreadTable

/-- The same live threads, whatever the order in which they began. -/
structure SameUpToOrder (first second : ThreadTable) : Prop where
  perm : first.threads.Perm second.threads
  find?_eq : ∀ id, first.find? id = second.find? id

theorem insert_of_found
    {table : ThreadTable}
    {thread : Thread}
    (found : (table.find? thread.id).isSome) :
    (table.insert thread).threads =
      table.threads.map fun other => if other.id == thread.id then thread else other := by
  rw [insert, if_pos found]

theorem insert_of_absent
    {table : ThreadTable}
    {thread : Thread}
    (absent : ¬(table.find? thread.id).isSome) :
    (table.insert thread).threads = table.threads ++ [thread] := by
  rw [insert, if_neg absent]

namespace SameUpToOrder

variable {first second third : ThreadTable}

theorem refl (table : ThreadTable) : table.SameUpToOrder table := ⟨.rfl, fun _ => rfl⟩

theorem trans
    (one : first.SameUpToOrder second)
    (other : second.SameUpToOrder third) :
    first.SameUpToOrder third :=
  ⟨one.perm.trans other.perm, fun id => (one.find?_eq id).trans (other.find?_eq id)⟩

theorem insert (same : first.SameUpToOrder second) (thread : Thread) :
    (first.insert thread).SameUpToOrder (second.insert thread) where
  perm := by
    by_cases found : (first.find? thread.id).isSome
    · have foundToo := found
      rw [same.find?_eq] at foundToo
      rw [insert_of_found found, insert_of_found foundToo]
      exact same.perm.map _
    · have absentToo := found
      rw [same.find?_eq] at absentToo
      rw [insert_of_absent found, insert_of_absent absentToo]
      exact same.perm.append_right _
  find?_eq := by
    intro id
    rw [find?_insert, find?_insert, same.find?_eq]

theorem erase (same : first.SameUpToOrder second) (id : UInt32) :
    (first.erase id).SameUpToOrder (second.erase id) where
  perm := same.perm.filter _
  find?_eq := by
    intro other
    rw [find?_erase, find?_erase, same.find?_eq]

end SameUpToOrder

/-- A thread that is not live begins, and another is replaced. -/
theorem insert_comm_of_absent
    {table : ThreadTable}
    {begun replaced : Thread}
    (different : begun.id ≠ replaced.id)
    (absent : ¬(table.find? begun.id).isSome)
    (found : (table.find? replaced.id).isSome) :
    ((table.insert begun).insert replaced).threads =
      ((table.insert replaced).insert begun).threads := by
  have foundToo : ((table.insert begun).find? replaced.id).isSome := by
    rwa [find?_insert, if_neg different.symm]
  have absentToo : ¬((table.insert replaced).find? begun.id).isSome := by
    rwa [find?_insert, if_neg different]
  rw [insert_of_found foundToo, insert_of_absent absent, insert_of_absent absentToo,
    insert_of_found found, List.map_append]
  simp [different]

/-- Different threads may be put into a table in either order. -/
theorem insert_comm
    (table : ThreadTable)
    {first second : Thread}
    (different : first.id ≠ second.id) :
    ((table.insert first).insert second).SameUpToOrder
      ((table.insert second).insert first) where
  perm := by
    have secondFound : (table.insert first).find? second.id = table.find? second.id := by
      rw [find?_insert, if_neg different.symm]
    have firstFound : (table.insert second).find? first.id = table.find? first.id := by
      rw [find?_insert, if_neg different]
    by_cases foundFirst : (table.find? first.id).isSome
    · by_cases foundSecond : (table.find? second.id).isSome
      · rw [insert_of_found (secondFound ▸ foundSecond), insert_of_found foundFirst,
          insert_of_found (firstFound ▸ foundFirst), insert_of_found foundSecond,
          List.map_map, List.map_map]
        refine .of_eq (List.map_congr_left fun other _ => ?_)
        by_cases here : other.id = first.id
        · simp [here, different]
        · by_cases there : other.id = second.id
          · simp [there, different.symm]
          · simp [here, there]
      · exact .of_eq (insert_comm_of_absent different.symm foundSecond foundFirst).symm
    · by_cases foundSecond : (table.find? second.id).isSome
      · exact .of_eq (insert_comm_of_absent different foundFirst foundSecond)
      · rw [insert_of_absent (secondFound ▸ foundSecond), insert_of_absent foundFirst,
          insert_of_absent (firstFound ▸ foundFirst), insert_of_absent foundSecond,
          List.append_assoc, List.append_assoc]
        exact List.perm_append_comm.append_left table.threads
  find?_eq := by
    intro id
    simp only [find?_insert]
    by_cases here : id = first.id
    · simp [here, different]
    · simp [here]

/-- A thread may be put into a table before or after another is removed. -/
theorem erase_insert_comm
    (table : ThreadTable)
    {thread : Thread}
    {id : UInt32}
    (different : thread.id ≠ id) :
    (table.insert thread).erase id = (table.erase id).insert thread := by
  have sameEntry : (table.erase id).find? thread.id = table.find? thread.id := by
    rw [find?_erase, if_neg different]
  have keeps : ((table.insert thread).erase id).threads =
      (table.insert thread).threads.filter fun other => other.id != id := rfl
  suffices same : ((table.insert thread).erase id).threads =
      ((table.erase id).insert thread).threads from congrArg ThreadTable.mk same
  rw [keeps]
  by_cases found : (table.find? thread.id).isSome
  · rw [insert_of_found found, insert_of_found (sameEntry ▸ found), List.filter_map, erase]
    congr 1
    apply List.filter_congr
    intro other _
    by_cases here : other.id = thread.id
    · simp [here]
    · simp [here]
  · rw [insert_of_absent found, insert_of_absent (sameEntry ▸ found), List.filter_append, erase]
    simp [different]

/-! ## Tables without repetition -/

/-- No two live threads have the same identifier. -/
def Distinct (table : ThreadTable) : Prop := (table.threads.map Thread.id).Nodup

namespace Distinct

variable {table : ThreadTable} {id : UInt32}

theorem erase (distinct : table.Distinct) (id : UInt32) : (table.erase id).Distinct :=
  List.Nodup.sublist (List.filter_sublist.map Thread.id) distinct

/-- A live thread stands in the table once, beside those that stay when it is removed. -/
theorem perm_cons_erase
    {thread : Thread}
    (distinct : table.Distinct)
    (found : table.find? id = some thread) :
    table.threads.Perm (thread :: (table.erase id).threads) := by
  have named : thread.id = id := id_of_find? found
  obtain ⟨threads⟩ := table
  induction threads with
  | nil => cases found
  | cons first rest inductionHypothesis =>
      obtain ⟨fresh, distinctRest⟩ := List.nodup_cons.1 distinct
      by_cases here : first.id = id
      · have same : first = thread := by
          simpa [find?, here] using found
        have kept : rest.filter (fun other => other.id != id) = rest := by
          rw [List.filter_eq_self]
          intro other member
          have apart : other.id ≠ id := by
            intro equal
            exact fresh (List.mem_map.2 ⟨other, member, equal.trans here.symm⟩)
          simpa using apart
        subst same
        simp [ThreadTable.erase, here, kept]
      · have foundInRest : find? ⟨rest⟩ id = some thread := by
          simpa [find?, here] using found
        have stays : (ThreadTable.erase ⟨first :: rest⟩ id).threads =
            first :: (ThreadTable.erase ⟨rest⟩ id).threads := by
          simp [ThreadTable.erase, here]
        rw [stays]
        exact ((inductionHypothesis distinctRest foundInRest).cons first).trans (.swap ..)

/-- A thread that is put into a table stands there beside the threads with other
identifiers. -/
theorem insert_perm (distinct : table.Distinct) (thread : Thread) :
    (table.insert thread).threads.Perm (thread :: (table.erase thread.id).threads) := by
  by_cases found : (table.find? thread.id).isSome
  · obtain ⟨old, oldFound⟩ := Option.isSome_iff_exists.1 found
    have named : old.id = thread.id := id_of_find? oldFound
    have others : (table.erase thread.id).threads.map
        (fun other => if other.id == thread.id then thread else other) =
          (table.erase thread.id).threads := by
      conv => rhs; rw [← List.map_id (table.erase thread.id).threads]
      apply List.map_congr_left
      intro other member
      have apart : other.id ≠ thread.id := by simpa using (List.mem_filter.1 member).2
      simp [apart]
    have replaced := (distinct.perm_cons_erase oldFound).map
      fun other => if other.id == thread.id then thread else other
    rw [List.map_cons, others, named, beq_self_eq_true, if_pos rfl] at replaced
    rwa [insert_of_found found]
  · have absent : table.find? thread.id = none := Option.not_isSome_iff_eq_none.1 found
    rw [insert_of_absent found, erase_of_absent absent]
    exact List.perm_append_singleton ..

theorem insert (distinct : table.Distinct) (thread : Thread) :
    (table.insert thread).Distinct := by
  have rearranged := (distinct.insert_perm thread).map Thread.id
  refine rearranged.nodup_iff.2 (List.nodup_cons.2 ⟨?_, distinct.erase thread.id⟩)
  intro member
  obtain ⟨other, inErased, same⟩ := List.mem_map.1 member
  have apart : other.id ≠ thread.id := by simpa using (List.mem_filter.1 inErased).2
  exact apart same

end Distinct

theorem erase_comm (table : ThreadTable) (first second : UInt32) :
    (table.erase first).erase second = (table.erase second).erase first := by
  simp only [erase, List.filter_filter, Bool.and_comm]

end ThreadTable
end ShadowTaint
