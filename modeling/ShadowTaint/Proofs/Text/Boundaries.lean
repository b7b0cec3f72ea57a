import ShadowTaint.Text.Utf8

/-!
# Boundaries between characters

A text can be cut at a position if some of its characters, taken from its start, make up
as many bytes. Between two such positions there is always a part of the text.
-/

namespace ShadowTaint
namespace Utf8

/-- A text can be cut at a position. -/
def IsBoundary (text : List Char) (position : Nat) : Prop :=
  ∃ before, before <+: text ∧ size before = position

@[simp] theorem size_nil : size [] = 0 := rfl

@[simp] theorem size_cons (char : Char) (rest : List Char) :
    size (char :: rest) = char.utf8Size + size rest := rfl

@[simp] theorem size_append (first second : List Char) :
    size (first ++ second) = size first + size second := by
  induction first with
  | nil => simp
  | cons char rest inductionHypothesis =>
      rw [List.cons_append, size_cons, size_cons, inductionHypothesis, Nat.add_assoc]

theorem size_le_of_prefix {first second : List Char} (part : first <+: second) :
    size first ≤ size second := by
  obtain ⟨rest, rfl⟩ := part
  rw [size_append]
  exact Nat.le_add_right _ _

/-- Of two beginnings of a text, the smaller one is a beginning of the other. -/
theorem prefix_of_size_le
    {text first second : List Char}
    (firstBegins : first <+: text)
    (secondBegins : second <+: text)
    (ordered : size first ≤ size second) :
    first <+: second := by
  obtain shorter | longer := List.prefix_or_prefix_of_prefix firstBegins secondBegins
  · exact shorter
  · obtain ⟨rest, rfl⟩ := longer
    cases rest with
    | nil => simp
    | cons char rest =>
        have positive := char.utf8Size_pos
        rw [size_append, size_cons] at ordered
        omega

/-- A text splits behind any of its beginnings. -/
theorem splitAt?_size (before behind : List Char) :
    splitAt? (size before) (before ++ behind) = some (before, behind) := by
  induction before with
  | nil => cases behind <;> rfl
  | cons char rest inductionHypothesis =>
      have positive := char.utf8Size_pos
      have behindChar : char.utf8Size + size rest - char.utf8Size = size rest := by omega
      rw [List.cons_append, splitAt?, size_cons, if_neg (by omega),
        if_pos (Nat.le_add_right _ _), behindChar, inductionHypothesis]
      rfl

theorem suffixFrom_size (before behind : List Char) :
    suffixFrom (before ++ behind) (size before) = .ok behind := by
  rw [suffixFrom, splitAt?_size]

theorem exists_suffixFrom
    {text : List Char}
    {first : Nat}
    (starts : IsBoundary text first) :
    ∃ behind, suffixFrom text first = .ok behind := by
  obtain ⟨before, ⟨behind, rfl⟩, rfl⟩ := starts
  exact ⟨behind, suffixFrom_size before behind⟩

/-- Between two positions at which a text can be cut there is a part of it. -/
theorem exists_slice
    {text : List Char}
    {first past : Nat}
    (starts : IsBoundary text first)
    (ends : IsBoundary text past)
    (ordered : first ≤ past) :
    ∃ part, slice text first past = .ok part := by
  obtain ⟨before, begins, rfl⟩ := starts
  obtain ⟨longer, ⟨behind, rfl⟩, rfl⟩ := ends
  obtain ⟨part, rfl⟩ := prefix_of_size_le begins (List.prefix_append _ _) ordered
  have length : size (before ++ part) - size before = size part := by
    rw [size_append]
    omega
  refine ⟨part, ?_⟩
  rw [slice, List.append_assoc, suffixFrom_size]
  dsimp only [bind, Except.bind]
  rw [length, splitAt?_size]

end Utf8
end ShadowTaint
