import Mathlib.Data.List.TakeWhile
import TokenForest.Dump.Basic

set_option autoImplicit false

namespace TokenForest

theorem map_eq_ok_iff {ε α β : Type} {f : α → β} {outcome : Except ε α} {result : β} :
    outcome.map f = .ok result ↔ ∃ value, outcome = .ok value ∧ f value = result := by
  cases outcome <;> simp [Except.map]

namespace Text

theorem not_mem_of_mem_splitOn {separator : Char} {text piece : List Char}
    (inside : piece ∈ text.splitOn separator) : separator ∉ piece := by
  induction text generalizing piece with
  | nil =>
    rw [List.splitOn_nil, List.mem_singleton] at inside
    simp [inside]
  | cons c rest ih =>
    obtain ⟨first, others, pieces⟩ := List.exists_cons_of_ne_nil (List.splitOn_ne_nil separator rest)
    rw [List.splitOn_cons_eq_if_modifyHead] at inside
    split at inside
    · rcases List.mem_cons.1 inside with rfl | later
      · simp
      · exact ih later
    · next other =>
      rw [pieces, List.modifyHead_cons] at inside
      have apart : separator ≠ c := fun same => other (by simp [same])
      rcases List.mem_cons.1 inside with rfl | later
      · have before : separator ∉ first := ih (by simp [pieces])
        simp [apart, before]
      · exact ih (by simp [pieces, later])

theorem mem_of_mem_dropReturn {c : Char} {line : List Char} (inside : c ∈ dropReturn line) : c ∈ line := by
  unfold dropReturn at inside
  split at inside
  · exact List.dropLast_subset line inside
  · exact inside

theorem newline_not_mem_lines {text line : List Char} (inside : line ∈ lines text) : '\n' ∉ line := by
  rcases List.mem_append.1 inside with ended | last
  · obtain ⟨piece, member, rfl⟩ := List.mem_map.1 ended
    exact fun newline => not_mem_of_mem_splitOn (List.dropLast_subset _ member) (mem_of_mem_dropReturn newline)
  · have unended : (text.splitOn '\n').getLast? = some line :=
      (Option.filter_eq_some_iff.1 (Option.mem_toList.1 last)).1
    exact not_mem_of_mem_splitOn (List.mem_of_getLast? unended)

end Text

namespace Dump

theorem ne_tab_of_mem {path : List Char} (noTab : '\t' ∉ path) : ∀ c ∈ path, decide (c ≠ '\t') = true := by
  intro c inside
  have apart : c ≠ '\t' := fun same => noTab (same ▸ inside)
  simpa using apart

theorem decodeLine_of_noTab {line : List Char} (noTab : '\t' ∉ line) : decodeLine line = .error .missingTab := by
  have none : line.dropWhile (· ≠ '\t') = [] := List.dropWhile_eq_nil_iff.2 (ne_tab_of_mem noTab)
  unfold decodeLine
  rw [none]

theorem decodeLine_of_tab {path : List Char} (noTab : '\t' ∉ path) (text : List Char) :
    decodeLine (path ++ '\t' :: text) =
      (unescape text).map fun decoded => ⟨String.ofList path, String.ofList decoded⟩ := by
  unfold decodeLine
  rw [List.dropWhile_append_of_pos (ne_tab_of_mem noTab), List.takeWhile_append_of_pos (ne_tab_of_mem noTab)]
  simp

theorem decodeLine_eq_ok_iff {line : List Char} {token : RawToken} :
    decodeLine line = .ok token ↔
      ∃ text, line = token.path.toList ++ '\t' :: text ∧ '\t' ∉ token.path.toList ∧
        unescape text = .ok token.text.toList := by
  constructor
  · intro decoded
    by_cases tab : '\t' ∈ line
    · obtain ⟨path, text, rfl, noTab⟩ := List.eq_append_cons_of_mem tab
      rw [decodeLine_of_tab noTab, map_eq_ok_iff] at decoded
      obtain ⟨plain, unescaped, rfl⟩ := decoded
      exact ⟨text, by simp, by simpa using noTab, by simpa using unescaped⟩
    · simp [decodeLine_of_noTab tab] at decoded
  · rintro ⟨text, rfl, noTab, unescaped⟩
    simp [decodeLine_of_tab noTab, unescaped, Except.map]

theorem mem_readLines {token : RawToken} {number : Nat} {lines : List (List Char)}
    (inside : .ok token ∈ readLines number lines) :
    ∃ line ∈ lines, isSkipped line = false ∧ decodeLine line = .ok token := by
  induction lines generalizing number with
  | nil => cases inside
  | cons line rest ih =>
    have later (inside : .ok token ∈ readLines (number + 1) rest) :
        ∃ other ∈ line :: rest, isSkipped other = false ∧ decodeLine other = .ok token := by
      obtain ⟨other, member, found⟩ := ih inside
      exact ⟨other, List.mem_cons_of_mem line member, found⟩
    rw [readLines] at inside
    split at inside
    · exact later inside
    · next kept =>
      rcases List.mem_cons.1 inside with own | inside
      · refine ⟨line, List.mem_cons_self, by simpa using kept, ?_⟩
        cases decoded : decodeLine line <;> simp [decoded, Except.mapError] at own
        rw [own]
      · exact later inside

theorem readLines_append (number : Nat) (front back : List (List Char)) :
    readLines number (front ++ back) = readLines number front ++ readLines (number + front.length) back := by
  induction front generalizing number with
  | nil => rfl
  | cons line rest ih =>
    have shifted : number + 1 + rest.length = number + (rest.length + 1) := by omega
    by_cases skipped : isSkipped line = true <;> simp [readLines, skipped, ih, shifted]

theorem mapM_id_eq_ok_iff {items : List (Except Error RawToken)} {tokens : List RawToken} :
    items.mapM id = .ok tokens ↔ items = tokens.map .ok := by
  induction items generalizing tokens with
  | nil => cases tokens <;> simp [pure, Except.pure]
  | cons item rest ih =>
    rw [List.mapM_cons]
    cases item with
    | error error => cases tokens <;> simp [bind, Except.bind]
    | ok token =>
      cases read : rest.mapM id with
      | error error =>
        have none (others : List RawToken) : rest ≠ others.map .ok := fun same => by simp [ih.2 same] at read
        cases tokens <;> simp [bind, Except.bind, none]
      | ok others =>
        have same := ih.1 read
        have injective (front back : List RawToken) :
            front.map (Except.ok : RawToken → Except Error RawToken) = back.map .ok ↔ front = back :=
          List.map_inj_right fun _ _ => Except.ok.inj
        cases tokens <;> simp [bind, Except.bind, pure, Except.pure, same, injective]

theorem parse_eq_ok_iff {text : String} {tokens : List RawToken} :
    parse text = .ok tokens ↔ read text = tokens.map .ok :=
  mapM_id_eq_ok_iff

end Dump

end TokenForest
