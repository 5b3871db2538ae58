import Mathlib.Data.List.DropRight
import TokenForest.Proofs.Classification.Stream

set_option autoImplicit false

namespace TokenForest.Position

theorem line_advance (position : Position) (text : String) :
    (position.advance text).line.toNat = min (position.line.toNat + text.toList.count '\n') limit := by
  unfold advance
  split
  · exact toNat_forward _ _
  · next unbroken =>
    rw [List.count_eq_zero_of_not_mem unbroken]
    exact (Nat.min_eq_left (toNat_le_limit _)).symm

theorem column_advance_of_mem (position : Position) {text : String} (broken : '\n' ∈ text.toList) :
    (position.advance text).column.toNat = 0 := by
  simp [advance, broken]

theorem column_advance_of_not_mem (position : Position) {text : String} (unbroken : '\n' ∉ text.toList) :
    (position.advance text).column.toNat = min (position.column.toNat + text.toList.length) limit := by
  simp only [advance, if_neg unbroken, toNat_forward]

def source (texts : List String) : List Char :=
  (String.join texts).toList

theorem source_concat (texts : List String) (text : String) :
    source (texts ++ [text]) = source texts ++ text.toList := by
  simp [source]

def sinceBreak (texts : List String) : List String :=
  texts.rtakeWhile fun text => '\n' ∉ text.toList

theorem sinceBreak_concat_of_mem (texts : List String) {text : String} (broken : '\n' ∈ text.toList) :
    sinceBreak (texts ++ [text]) = [] := by
  simp [sinceBreak, broken]

theorem sinceBreak_concat_of_not_mem (texts : List String) {text : String} (unbroken : '\n' ∉ text.toList) :
    sinceBreak (texts ++ [text]) = sinceBreak texts ++ [text] := by
  simp [sinceBreak, unbroken]

def total (texts : List String) : Position :=
  ⟨clamp ((source texts).count '\n'), clamp (source (sinceBreak texts)).length⟩

-- What was cut off is not missed: with any further count it would be beyond the limit as well.
theorem forward_clamp (first second : Nat) : forward (clamp first) second = clamp (first + second) := by
  apply UInt32.toNat_inj.1
  rw [toNat_forward, toNat_clamp, toNat_clamp]
  omega

theorem advance_total (texts : List String) (text : String) :
    (total texts).advance text = total (texts ++ [text]) := by
  by_cases broken : '\n' ∈ text.toList
  · rw [advance, if_pos broken, total, total, forward_clamp, source_concat, List.count_append,
      sinceBreak_concat_of_mem texts broken]
    rfl
  · have none : text.toList.count '\n' = 0 := List.count_eq_zero_of_not_mem broken
    rw [advance, if_neg broken, total, total, forward_clamp, source_concat, List.count_append, none, Nat.add_zero,
      sinceBreak_concat_of_not_mem texts broken, source_concat, List.length_append]

theorem foldl_advance_eq_total (texts : List String) : texts.foldl advance start = total texts := by
  induction texts using List.reverseRecOn with
  | nil => rfl
  | append_singleton texts text ih => rw [List.foldl_concat, ih, advance_total]

theorem starts_eq_totals (texts : List String) :
    start.starts texts = (List.range texts.length).map fun index => total (texts.take index) := by
  apply List.ext_getElem?
  intro index
  by_cases inside : index < texts.length
  · rw [getElem?_starts _ _ inside, foldl_advance_eq_total]
    simp [inside]
  · simp [inside]

/-- Whatever the position and the text, a coordinate becomes the sum of the numbers it is made of, or the limit if that
is less, so no sum wraps around. Texts that follow one another from the start end where the totals of all of them say,
cut off at the limit once, and each begins where the totals of those before it say. -/
theorem totals_saturate :
    (∀ (position : Position) (text : String),
      (position.advance text).line.toNat = min (position.line.toNat + text.toList.count '\n') limit ∧
      (position.advance text).column.toNat =
        if '\n' ∈ text.toList then 0 else min (position.column.toNat + text.toList.length) limit) ∧
    ∀ texts : List String,
      texts.foldl advance start = total texts ∧
      start.starts texts = (List.range texts.length).map (fun index => total (texts.take index)) ∧
      (total texts).line.toNat = min ((source texts).count '\n') limit ∧
      (total texts).column.toNat = min (source (sinceBreak texts)).length limit := by
  refine ⟨fun position text => ⟨line_advance position text, ?_⟩, fun texts => ?_⟩
  · split
    · next broken => exact column_advance_of_mem position broken
    · next unbroken => exact column_advance_of_not_mem position unbroken
  · exact ⟨foldl_advance_eq_total texts, starts_eq_totals texts, toNat_clamp _, toNat_clamp _⟩

end TokenForest.Position
