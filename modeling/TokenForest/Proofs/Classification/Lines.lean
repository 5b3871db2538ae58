import Mathlib.Data.List.Dedup
import Mathlib.Data.List.SplitBy
import TokenForest.Proofs.Classification.Positions
import TokenForest.Proofs.Text.Quoting
import TokenForest.Text.Lines

set_option autoImplicit false

namespace TokenForest

namespace Position

theorem le_iff_toNat (a b : Position) :
    a ≤ b ↔ a.line.toNat < b.line.toNat ∨ a.line.toNat = b.line.toNat ∧ a.column.toNat ≤ b.column.toNat := by
  rw [le_iff, UInt32.lt_iff_toNat_lt, UInt32.le_iff_toNat_le, UInt32.toNat_inj]

theorem le_refl (position : Position) : position ≤ position :=
  (le_iff_toNat _ _).2 (.inr ⟨rfl, Nat.le_refl _⟩)

theorem le_trans {a b c : Position} (first : a ≤ b) (second : b ≤ c) : a ≤ c := by
  rw [le_iff_toNat] at *
  omega

theorem line_le {a b : Position} (before : a ≤ b) : a.line ≤ b.line := by
  rw [le_iff_toNat] at before
  rw [UInt32.le_iff_toNat_le]
  omega

-- At the last line that can be counted a line feed would reset the column and no more.
theorem le_advance {position : Position} {text : String}
    (countable : position.line.toNat + text.toList.count '\n' ≤ limit) : position ≤ position.advance text := by
  have line := position.line_advance text
  rw [le_iff_toNat]
  by_cases broken : '\n' ∈ text.toList
  · have some : 0 < text.toList.count '\n' := List.count_pos_iff.2 broken
    omega
  · have none : text.toList.count '\n' = 0 := List.count_eq_zero_of_not_mem broken
    have column := column_advance_of_not_mem position broken
    have bounded := toNat_le_limit position.column
    omega

theorem source_cons (text : String) (texts : List String) :
    source (text :: texts) = text.toList ++ source texts := by
  simp [source]

theorem le_of_mem_starts {position next : Position} {texts : List String}
    (countable : position.line.toNat + (source texts).count '\n' ≤ limit)
    (inside : next ∈ position.starts texts) : position ≤ next := by
  induction texts generalizing position with
  | nil => cases inside
  | cons text rest ih =>
    rw [source_cons, List.count_append] at countable
    have line := position.line_advance text
    rcases List.mem_cons.1 inside with rfl | later
    · exact le_refl _
    · exact le_trans (le_advance (by omega)) (ih (by omega) later)

theorem pairwise_starts {position : Position} {texts : List String}
    (countable : position.line.toNat + (source texts).count '\n' ≤ limit) :
    (position.starts texts).Pairwise (· ≤ ·) := by
  induction texts generalizing position with
  | nil => exact .nil
  | cons text rest ih =>
    rw [source_cons, List.count_append] at countable
    have line := position.line_advance text
    refine List.pairwise_cons.2 ⟨fun next later => ?_, ih (by omega)⟩
    exact le_trans (le_advance (by omega)) (le_of_mem_starts (by omega) later)

end Position

namespace TokenList

def onLine (number : UInt32) (tokens : TokenList) : TokenList :=
  tokens.filter (·.position.line = number)

def numbers (tokens : TokenList) : List UInt32 :=
  (tokens.map (·.position.line)).dedup

theorem mem_numbers_iff {tokens : TokenList} {number : UInt32} :
    number ∈ numbers tokens ↔ ∃ token ∈ tokens, token.position.line = number := by
  simp [numbers]

def Ordered (tokens : TokenList) : Prop :=
  tokens.Pairwise fun a b => a.position.line ≤ b.position.line

theorem Ordered.pairwise_numbers {tokens : TokenList} (ordered : tokens.Ordered) :
    (numbers tokens).Pairwise (· < ·) := by
  have lines : (tokens.map (·.position.line)).Pairwise (· ≤ ·) := List.pairwise_map.2 ordered
  have sorted : (numbers tokens).Pairwise (· ≤ ·) := lines.sublist (List.dedup_sublist _)
  exact (sorted.and (List.nodup_dedup _)).imp fun both => UInt32.lt_of_le_of_ne both.1 both.2

theorem Ordered.split {tokens : TokenList} (ordered : tokens.Ordered) {number : UInt32}
    (first : ∀ token ∈ tokens, number ≤ token.position.line) :
    tokens = onLine number tokens ++ tokens.filter (·.position.line ≠ number) := by
  induction tokens with
  | nil => rfl
  | cons token rest ih =>
    obtain ⟨before, later⟩ := List.pairwise_cons.1 ordered
    obtain ⟨own, others⟩ := List.forall_mem_cons.1 first
    by_cases same : token.position.line = number
    · simpa [onLine, same] using ih later others
    · have none : ∀ other ∈ token :: rest, other.position.line ≠ number := by
        refine List.forall_mem_cons.2 ⟨same, fun other inside equal => same ?_⟩
        exact UInt32.le_antisymm (equal ▸ before other inside) own
      have empty : onLine number (token :: rest) = [] := by simpa [onLine] using none
      have whole : (token :: rest).filter (·.position.line ≠ number) = token :: rest := by
        simpa using none
      rw [empty, whole, List.nil_append]

theorem Ordered.flatten_onLine {tokens : TokenList} (ordered : tokens.Ordered) {keys : List UInt32}
    (increasing : keys.Pairwise (· < ·)) (covered : ∀ token ∈ tokens, token.position.line ∈ keys) :
    (keys.map fun number => onLine number tokens).flatten = tokens := by
  induction keys generalizing tokens with
  | nil => exact (List.eq_nil_iff_forall_not_mem.2 fun token inside => by cases covered token inside).symm
  | cons number more ih =>
    obtain ⟨least, later⟩ := List.pairwise_cons.1 increasing
    have first : ∀ token ∈ tokens, number ≤ token.position.line := by
      intro token inside
      rcases List.mem_cons.1 (covered token inside) with same | other
      · exact same ▸ UInt32.le_refl _
      · exact UInt32.le_of_lt (least _ other)
    have rest := ih (List.Pairwise.filter (fun token => decide (token.position.line ≠ number)) ordered) later ?_
    · have same : ∀ key ∈ more, onLine key (tokens.filter (·.position.line ≠ number)) = onLine key tokens := by
        intro key inside
        have other : number ≠ key := UInt32.ne_of_lt (least key inside)
        rw [onLine, List.filter_filter, onLine]
        refine List.filter_congr fun token _ => ?_
        by_cases own : token.position.line = key <;> simp [own, other.symm]
      rw [List.map_congr_left same] at rest
      rw [List.map_cons, List.flatten_cons, rest]
      exact (ordered.split first).symm
    · intro token inside
      obtain ⟨member, other⟩ := List.mem_filter.1 inside
      exact (List.mem_cons.1 (covered token member)).resolve_left (by simpa using other)

theorem line_of_mem_onLine {number : UInt32} {tokens : TokenList} {token : Token}
    (inside : token ∈ onLine number tokens) : token.position.line = number := by
  simpa using (List.mem_filter.1 inside).2

theorem onLine_ne_nil {number : UInt32} {tokens : TokenList} (inside : number ∈ numbers tokens) :
    onLine number tokens ≠ [] := by
  obtain ⟨token, member, own⟩ := mem_numbers_iff.1 inside
  have kept : token ∈ onLine number tokens := List.mem_filter.2 ⟨member, by simpa using own⟩
  exact List.ne_nil_of_mem kept

theorem Ordered.lines_eq {tokens : TokenList} (ordered : tokens.Ordered) :
    lines tokens = (numbers tokens).map fun number => onLine number tokens := by
  have increasing := ordered.pairwise_numbers
  have covered : ∀ token ∈ tokens, token.position.line ∈ numbers tokens :=
    fun token inside => mem_numbers_iff.2 ⟨token, inside, rfl⟩
  refine List.splitBy_eq_iff.2 ⟨(ordered.flatten_onLine increasing covered).symm, ?_, ?_, ?_⟩
  · intro inside
    obtain ⟨number, member, empty⟩ := List.mem_map.1 inside
    exact onLine_ne_nil member empty
  · intro run inside
    obtain ⟨number, -, rfl⟩ := List.mem_map.1 inside
    have same : (onLine number tokens).Pairwise fun a b => (a.position.line == b.position.line) = true := by
      refine List.pairwise_of_forall_mem_list fun a first b second => ?_
      simp [line_of_mem_onLine first, line_of_mem_onLine second]
    exact same.isChain
  · refine (List.isChain_map _).2 (List.Pairwise.isChain ?_)
    refine increasing.imp_of_mem fun {a b} first second less => ?_
    refine ⟨onLine_ne_nil first, onLine_ne_nil second, ?_⟩
    rw [line_of_mem_onLine (List.getLast_mem _), line_of_mem_onLine (List.head_mem _)]
    simpa using UInt32.ne_of_lt less

theorem toList_render (tokens : TokenList) :
    (render tokens).toList =
      ((lines tokens).map fun run => (String.intercalate " " (run.map Token.render)).toList).flatMap (· ++ ['\n']) := by
  simp [render, renderLine, String.toList_join, List.flatMap_map]

theorem lines_render (tokens : TokenList) :
    Text.lines (render tokens).toList =
      (lines tokens).map fun run => (String.intercalate " " (run.map Token.render)).toList := by
  rw [toList_render]
  refine Text.lines_flatMap fun piece inside => ?_
  obtain ⟨run, -, rfl⟩ := List.mem_map.1 inside
  have unbroken : Text.Unbroken (String.intercalate " " (run.map Token.render)).toList := by
    rw [String.toList_intercalate]
    refine .intercalate (by simp [Text.Unbroken]) fun text member => ?_
    rw [List.map_map] at member
    obtain ⟨token, -, rfl⟩ := List.mem_map.1 member
    exact token.unbroken_render
  exact ⟨unbroken.newline_not_mem, unbroken.getLast?_ne_return⟩

end TokenList

namespace Classification

/-- If a stream has no more line feeds than can be counted, the positions of its tokens never go back. So the tokens of
a line are one run, runs go with the lines that tokens begin on, in order, and each is rendered as one line. -/
theorem lines_of_classified {taxonomy : Taxonomy} {raw : List RawToken} {tokens : TokenList}
    (classified : classifyStream taxonomy raw = .ok tokens)
    (countable : (Position.source (raw.map RawToken.text)).count '\n' ≤ Position.limit) :
    (tokens.map Token.position).Pairwise (· ≤ ·) ∧
    (∀ run ∈ tokens.lines, run ≠ []) ∧ tokens.lines.flatten = tokens ∧
    tokens.numbers.Pairwise (· < ·) ∧ (tokens.lines = tokens.numbers.map fun number => tokens.onLine number) ∧
    Text.lines tokens.render.toList = tokens.numbers.map fun number =>
      (String.intercalate " " ((tokens.onLine number).map Token.render)).toList := by
  obtain ⟨last, all, rfl⟩ := classifyStream_eq_ok_iff.1 classified
  have positions : last.tokens.map Token.position = Position.start.starts (raw.map RawToken.text) :=
    (extends_of_classifyAll all).positions
  have sorted : (last.tokens.map Token.position).Pairwise (· ≤ ·) := by
    rw [positions]
    exact Position.pairwise_starts ((Nat.zero_add _).le.trans countable)
  have ordered : TokenList.Ordered last.tokens := (List.pairwise_map.1 sorted).imp Position.line_le
  refine ⟨sorted, fun run inside => List.ne_nil_of_mem_splitBy inside, List.flatten_splitBy _ _,
    ordered.pairwise_numbers, ordered.lines_eq, ?_⟩
  rw [TokenList.lines_render, ordered.lines_eq, List.map_map]
  rfl

theorem lines_of_classified_broken :
    let taxonomy : Taxonomy := ⟨.leaf "Text" (.text .unflavoured) .empty, rfl⟩
    let raw : List RawToken := [⟨"Token.Text", "a\n"⟩, ⟨"Token.Text", "b"⟩, ⟨"Token.Text", "\n\n"⟩, ⟨"Token.Text", "c"⟩]
    let text (text : String) (line column : UInt32) : Token := ⟨.text .unflavoured, text, ⟨line, column⟩⟩
    let tokens : TokenList := [text "a\n" 0 0, text "b" 1 0, text "\n\n" 1 1, text "c" 3 0]
    classifyStream taxonomy raw = .ok tokens ∧
      (Position.source (raw.map RawToken.text)).count '\n' ≤ Position.limit ∧ tokens.numbers = [0, 1, 3] ∧
      tokens.lines = [[text "a\n" 0 0], [text "b" 1 0, text "\n\n" 1 1], [text "c" 3 0]] ∧
      Text.lines tokens.render.toList =
        ["\"a\\n\"@L0:0".toList, "\"b\"@L1:0 \"\\n\\n\"@L1:1".toList, "\"c\"@L3:0".toList] := by
  intro taxonomy raw text tokens
  have classified : classifyStream taxonomy raw = .ok tokens := by decide +kernel
  have countable : (Position.source (raw.map RawToken.text)).count '\n' ≤ Position.limit := by decide +kernel
  have numbers : tokens.numbers = [0, 1, 3] := by decide +kernel
  obtain ⟨-, -, -, -, runs, rendered⟩ := lines_of_classified classified countable
  rw [numbers] at runs rendered
  exact ⟨classified, countable, numbers, runs.trans (by decide +kernel), rendered.trans (by decide +kernel)⟩

end Classification

end TokenForest
