import ShadowTaint.Thread.Basic

/-!
# Tables of threads

The live threads of a program, at most one with each identifier.
-/

namespace ShadowTaint

/-- The live threads. -/
structure ThreadTable where
  threads : List Thread

namespace ThreadTable

/-- No thread is live. -/
def empty : ThreadTable := ⟨[]⟩

/-- The live thread with an identifier. -/
def find? (table : ThreadTable) (id : UInt32) : Option Thread :=
  table.threads.find? fun thread => thread.id == id

/-- Put a thread in place of the one with its identifier, or behind the others. -/
def insert (table : ThreadTable) (thread : Thread) : ThreadTable :=
  if (table.find? thread.id).isSome then
    ⟨table.threads.map fun other => if other.id == thread.id then thread else other⟩
  else ⟨table.threads ++ [thread]⟩

/-- Remove the thread with an identifier. -/
def erase (table : ThreadTable) (id : UInt32) : ThreadTable :=
  ⟨table.threads.filter fun thread => thread.id != id⟩

@[simp] theorem find?_empty (id : UInt32) : empty.find? id = none := rfl

/-- A thread that is found has the identifier that was looked for. -/
theorem id_of_find? {table : ThreadTable} {id : UInt32} {thread : Thread}
    (found : table.find? id = some thread) : thread.id = id := by
  simpa using List.find?_some found

theorem find?_erase (table : ThreadTable) (erased id : UInt32) :
    (table.erase erased).find? id = if id = erased then none else table.find? id := by
  unfold erase find?
  rw [List.find?_filter]
  by_cases same : id = erased
  · subst same
    rw [if_pos rfl, List.find?_eq_none]
    intro thread _
    simp
  · rw [if_neg same]
    congr 1
    funext thread
    by_cases here : thread.id = id
    · simp [here, same]
    · simp [here]

/-- An inserted thread is found under its identifier, and the others stay. -/
theorem find?_insert (table : ThreadTable) (thread : Thread) (id : UInt32) :
    (table.insert thread).find? id =
      if id = thread.id then some thread else table.find? id := by
  unfold insert
  split
  · rename_i present
    have replaced : ∀ threads : List Thread,
        (threads.map fun other => if other.id == thread.id then thread else other).find?
            (fun other => other.id == id) =
          if id = thread.id then (threads.find? fun other => other.id == id).map fun _ => thread
          else threads.find? fun other => other.id == id := by
      intro threads
      induction threads with
      | nil => simp
      | cons other rest inductionHypothesis =>
          rw [List.map_cons, List.find?_cons, List.find?_cons, inductionHypothesis]
          by_cases here : id = thread.id
          · subst here
            by_cases same : other.id = thread.id
            · simp [same]
            · have different : (other.id == thread.id) = false := by simpa using same
              simp [different]
          · have elsewhere : (thread.id == id) = false := by
              simpa using fun equal : thread.id = id => here equal.symm
            by_cases same : other.id = thread.id
            · simp [same, here, elsewhere]
            · have different : (other.id == thread.id) = false := by simpa using same
              simp [different, here]
    show List.find? _ _ = _
    rw [replaced]
    by_cases same : id = thread.id
    · rw [if_pos same, if_pos same]
      subst same
      obtain ⟨found, equal⟩ := Option.isSome_iff_exists.1 present
      unfold find? at equal
      rw [equal]
      rfl
    · rw [if_neg same, if_neg same]
      rfl
  · rename_i absent
    have missing : table.find? thread.id = none := by simpa using absent
    unfold find? at missing ⊢
    rw [List.find?_append]
    by_cases same : id = thread.id
    · subst same
      simp [missing]
    · have different : (thread.id == id) = false := by
        simpa using fun equal : thread.id = id => same equal.symm
      simp [same, different]

end ThreadTable
end ShadowTaint
