set_option autoImplicit false

namespace TokenForest.Text

def dropReturn (line : List Char) : List Char :=
  if line.getLast? = some '\r' then line.dropLast else line

@[simp] theorem dropReturn_concat_return (line : List Char) : dropReturn (line ++ ['\r']) = line := by
  simp [dropReturn]

def lines (text : List Char) : List (List Char) :=
  let pieces := text.splitOn '\n'
  pieces.dropLast.map dropReturn ++ (pieces.getLast?.filter (· ≠ [])).toList

@[simp] theorem lines_nil : lines [] = [] := rfl

theorem lines_append_newline (front back : List Char) :
    lines (front ++ '\n' :: back) = (front.splitOn '\n').map dropReturn ++ lines back := by
  have nonempty : back.splitOn '\n' ≠ [] := List.splitOn_ne_nil '\n' back
  have split : (front ++ '\n' :: back).splitOn '\n' = front.splitOn '\n' ++ back.splitOn '\n' :=
    List.splitOnP_append_cons front back (by simp)
  simp [lines, split, List.dropLast_append_of_ne_nil nonempty, List.getLast?_append,
    List.getLast?_eq_some_getLast nonempty]

theorem lines_flatMap {pieces : List (List Char)}
    (plain : ∀ piece ∈ pieces, '\n' ∉ piece ∧ piece.getLast? ≠ some '\r') :
    lines (pieces.flatMap (· ++ ['\n'])) = pieces := by
  induction pieces with
  | nil => rfl
  | cons piece rest ih =>
    obtain ⟨⟨noNewline, noReturn⟩, later⟩ := List.forall_mem_cons.1 plain
    have same : dropReturn piece = piece := if_neg noReturn
    have ended : (piece :: rest).flatMap (· ++ ['\n']) = piece ++ '\n' :: rest.flatMap (· ++ ['\n']) := by simp
    rw [ended, lines_append_newline, List.splitOn_eq_singleton noNewline, ih later]
    simp [same]

example : lines "a\r\n\nb\r".toList = ["a".toList, [], "b\r".toList] := by decide

end TokenForest.Text
