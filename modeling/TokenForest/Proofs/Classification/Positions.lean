import Mathlib.Data.List.DropRight
import TokenForest.Proofs.Classification.Saturation

set_option autoImplicit false

namespace TokenForest

namespace Text

def lastLine (text : List Char) : List Char :=
  text.rtakeWhile (· ≠ '\n')

theorem lastLine_concat (text : List Char) (c : Char) :
    lastLine (text ++ [c]) = if c = '\n' then [] else lastLine text ++ [c] := by
  by_cases newline : c = '\n' <;> simp [lastLine, newline]

theorem lastLine_append_of_mem (front : List Char) {text : List Char} (broken : '\n' ∈ text) :
    lastLine (front ++ text) = lastLine text := by
  induction text using List.reverseRecOn with
  | nil => cases broken
  | append_singleton text c ih =>
    rw [← List.append_assoc, lastLine_concat, lastLine_concat]
    by_cases newline : c = '\n'
    · rw [if_pos newline, if_pos newline]
    · have earlier : '\n' ∈ text := by simpa [Ne.symm newline] using broken
      rw [ih earlier]

theorem lastLine_append_of_not_mem (front : List Char) {text : List Char} (unbroken : '\n' ∉ text) :
    lastLine (front ++ text) = lastLine front ++ text := by
  induction text using List.reverseRecOn with
  | nil => simp
  | append_singleton text c ih =>
    have same := ih fun earlier => unbroken (by simp [earlier])
    have own : c ≠ '\n' := fun newline => unbroken (by simp [newline])
    rw [← List.append_assoc, lastLine_concat, if_neg own, same, List.append_assoc]

theorem lastLine_eq_nil_iff {text : List Char} (broken : '\n' ∈ text) :
    lastLine text = [] ↔ text.getLast? = some '\n' := by
  induction text using List.reverseRecOn with
  | nil => cases broken
  | append_singleton text c _ => by_cases newline : c = '\n' <;> simp [lastLine_concat, newline]

end Text

namespace Position

def lastBroken (texts : List String) : Option String :=
  (texts.filter fun text => '\n' ∈ text.toList).getLast?

/-- How far columns lag behind: the length of what follows the last line feed inside the last text that has one. -/
def lag (texts : List String) : Nat :=
  (lastBroken texts).elim 0 fun text => (Text.lastLine text.toList).length

theorem lag_concat_of_mem (texts : List String) {text : String} (broken : '\n' ∈ text.toList) :
    lag (texts ++ [text]) = (Text.lastLine text.toList).length := by
  simp [lag, lastBroken, broken]

theorem lag_concat_of_not_mem (texts : List String) {text : String} (unbroken : '\n' ∉ text.toList) :
    lag (texts ++ [text]) = lag texts := by
  simp [lag, lastBroken, unbroken]

theorem lag_eq_zero_iff (texts : List String) :
    lag texts = 0 ↔ ∀ text ∈ lastBroken texts, text.toList.getLast? = some '\n' := by
  cases last : lastBroken texts with
  | none => simp [lag, last]
  | some text =>
    have broken : '\n' ∈ text.toList := by simpa using (List.mem_filter.1 (List.mem_of_getLast? last)).2
    simp [lag, last, Text.lastLine_eq_nil_iff broken]

theorem line_foldl_advance (texts : List String) :
    (texts.foldl advance start).line.toNat = min ((source texts).count '\n') limit := by
  rw [foldl_advance_eq_total]
  exact toNat_clamp _

theorem length_lastLine_source (texts : List String) :
    (Text.lastLine (source texts)).length = lag texts + (source (sinceBreak texts)).length := by
  induction texts using List.reverseRecOn with
  | nil => rfl
  | append_singleton texts text ih =>
    rw [source_concat]
    by_cases broken : '\n' ∈ text.toList
    · rw [Text.lastLine_append_of_mem _ broken, lag_concat_of_mem texts broken, sinceBreak_concat_of_mem texts broken]
      rfl
    · rw [Text.lastLine_append_of_not_mem _ broken, lag_concat_of_not_mem texts broken,
        sinceBreak_concat_of_not_mem texts broken, source_concat, List.length_append, List.length_append, ih,
        Nat.add_assoc]

-- Neither the lag nor the number of characters after it is lost when the column reaches its limit.
theorem column_foldl_advance (texts : List String) :
    lag texts ≤ (Text.lastLine (source texts)).length ∧
      (texts.foldl advance start).column.toNat =
        min ((Text.lastLine (source texts)).length - lag texts) limit := by
  have column : (texts.foldl advance start).column.toNat = min (source (sinceBreak texts)).length limit := by
    rw [foldl_advance_eq_total]
    exact toNat_clamp _
  rw [column, length_lastLine_source]
  omega

end Position

namespace Classification

/-- Each token of a classified stream has its own text, and begins on the line that the texts before it end on. If
nothing there is too long to be counted, its column falls short of the source text by the lag, so it is exact if and
only if the last text with a line feed ends with it. -/
theorem positions_follow_source {taxonomy : Taxonomy} {raw : List RawToken} {tokens : TokenList}
    (classified : classifyStream taxonomy raw = .ok tokens) :
    tokens.map Token.text = raw.map RawToken.text ∧
    ∀ index token, tokens[index]? = some token →
      let texts := (raw.take index).map RawToken.text
      let lines := (Position.source texts).count '\n'
      let column := (Text.lastLine (Position.source texts)).length
      (lines ≤ Position.limit → token.position.line.toNat = lines) ∧
      token.position.column.toNat ≤ column ∧
      (column ≤ Position.lag texts + Position.limit →
        token.position.column.toNat + Position.lag texts = column ∧
        (token.position.column.toNat = column ↔
          ∀ text ∈ Position.lastBroken texts, text.toList.getLast? = some '\n')) := by
  obtain ⟨last, all, rfl⟩ := classifyStream_eq_ok_iff.1 classified
  have extended := extends_of_classifyAll all
  refine ⟨extended.texts, fun index token found => ?_⟩
  have begins := extended.position_of_token found
  intro texts lines column
  have line := Position.line_foldl_advance texts
  obtain ⟨behind, exact⟩ := Position.column_foldl_advance texts
  rw [← begins] at line exact
  refine ⟨fun countable => by omega, by omega, fun countable => ?_⟩
  have short : token.position.column.toNat + Position.lag texts = column := by omega
  refine ⟨short, ?_⟩
  rw [← Position.lag_eq_zero_iff]
  omega

theorem positions_follow_source_broken :
    let taxonomy : Taxonomy := ⟨.leaf "Text" (.text .unflavoured) .empty, rfl⟩
    let raw : List RawToken := [⟨"Token.Text", "a\n\nbc"⟩, ⟨"Token.Text", "é"⟩, ⟨"Token.Text", "d"⟩]
    let token : Token := ⟨.text .unflavoured, "d", ⟨2, 1⟩⟩
    ∃ tokens, classifyStream taxonomy raw = .ok tokens ∧ tokens[2]? = some token ∧
      token.position.line.toNat = (Position.source ["a\n\nbc", "é"]).count '\n' ∧
      token.position.column.toNat + 2 = (Text.lastLine (Position.source ["a\n\nbc", "é"])).length := by
  intro taxonomy raw token
  let text (text : String) (line column : UInt32) : Token := ⟨.text .unflavoured, text, ⟨line, column⟩⟩
  have classified : classifyStream taxonomy raw = .ok [text "a\n\nbc" 0 0, text "é" 2 0, token] := by
    decide +kernel
  obtain ⟨line, -, column⟩ := (positions_follow_source classified).2 2 token rfl
  exact ⟨_, classified, rfl, line (by decide), (column (by decide)).1⟩

end Classification

end TokenForest
