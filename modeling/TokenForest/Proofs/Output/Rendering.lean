import Mathlib.Logic.Function.Basic
import TokenForest.Forest.Outline
import TokenForest.Proofs.Classification.Lines
import TokenForest.Proofs.Text.Parts

set_option autoImplicit false

namespace TokenForest

inductive Entry
  | unit (kind : UnitKind)
  | leaf (token : Token)

mutual

def Tree.entries : Tree → Nat → List (Nat × Entry)
  | .leaf token, level => [(level, .leaf token)]
  | .unit kind children, level => (level, .unit kind) :: Forest.entries children (level + 1)

def Forest.entries : List Tree → Nat → List (Nat × Entry)
  | [], _ => []
  | tree :: rest, level => tree.entries level ++ Forest.entries rest level

end

namespace Tree

theorem entries_cons (tree : Tree) (level : Nat) : ∃ entry rest, tree.entries level = (level, entry) :: rest := by
  cases tree with
  | leaf token => exact ⟨.leaf token, [], by simp [entries]⟩
  | unit kind children => exact ⟨.unit kind, Forest.entries children (level + 1), by simp [entries]⟩

end Tree

theorem Forest.level_le (forest : Forest) {level : Nat} {back : List (Nat × Entry)}
    (outer : ∀ entry ∈ back.head?, entry.1 < level) :
    ∀ entry ∈ (entries forest level ++ back).head?, entry.1 ≤ level := by
  cases forest with
  | nil => exact fun entry first => Nat.le_of_lt (outer entry (by simpa [entries] using first))
  | cons tree rest =>
    obtain ⟨entry, more, listed⟩ := tree.entries_cons level
    simp [entries, listed]

mutual

theorem Tree.entries_unique (tree other : Tree) (level : Nat) {back more : List (Nat × Entry)}
    (stops : ∀ entry ∈ back.head?, entry.1 ≤ level) (ends : ∀ entry ∈ more.head?, entry.1 ≤ level)
    (same : tree.entries level ++ back = other.entries level ++ more) : tree = other ∧ back = more := by
  match tree, other with
  | .leaf token, .leaf another => simpa [Tree.entries] using same
  | .leaf token, .unit kind children => simp [Tree.entries] at same
  | .unit kind children, .leaf token => simp [Tree.entries] at same
  | .unit kind children, .unit another others =>
    simp only [Tree.entries, List.cons_append, List.cons.injEq, Prod.mk.injEq, Entry.unit.injEq, true_and] at same
    obtain ⟨rfl, inner⟩ := same
    obtain ⟨rfl, backs⟩ := Forest.entries_unique children others (level + 1)
      (fun entry first => Nat.lt_succ_of_le (stops entry first))
      (fun entry first => Nat.lt_succ_of_le (ends entry first)) inner
    exact ⟨rfl, backs⟩

theorem Forest.entries_unique (forest other : List Tree) (level : Nat) {back more : List (Nat × Entry)}
    (stops : ∀ entry ∈ back.head?, entry.1 < level) (ends : ∀ entry ∈ more.head?, entry.1 < level)
    (same : Forest.entries forest level ++ back = Forest.entries other level ++ more) :
    forest = other ∧ back = more := by
  match forest, other with
  | [], [] => simpa [Forest.entries] using same
  | [], tree :: rest =>
    obtain ⟨entry, after, listed⟩ := tree.entries_cons level
    simp only [Forest.entries, listed, List.nil_append, List.cons_append] at same
    subst same
    exact absurd (stops (level, entry) rfl) (Nat.lt_irrefl level)
  | tree :: rest, [] =>
    obtain ⟨entry, after, listed⟩ := tree.entries_cons level
    simp only [Forest.entries, listed, List.nil_append, List.cons_append] at same
    subst same
    exact absurd (ends (level, entry) rfl) (Nat.lt_irrefl level)
  | tree :: rest, another :: others =>
    simp only [Forest.entries, List.append_assoc] at same
    obtain ⟨rfl, later⟩ := Tree.entries_unique tree another level (Forest.level_le rest stops)
      (Forest.level_le others ends) same
    obtain ⟨rfl, backs⟩ := Forest.entries_unique rest others level stops ends later
    exact ⟨rfl, backs⟩

end

namespace Text

def IsWord (text : List Char) : Prop :=
  text ≠ [] ∧ ∀ c ∈ text, c ≠ ' ' ∧ c ≠ '\n' ∧ c ≠ '\r'

instance (text : List Char) : Decidable (IsWord text) :=
  -- Of all characters, only those of the text are looked at.
  decidable_of_iff (text ≠ [] ∧ text.all (fun c => c != ' ' && (c != '\n' && c != '\r')) = true) (by simp [IsWord])

namespace IsWord

variable {text : List Char}

theorem space_not_mem (word : IsWord text) : ' ' ∉ text :=
  fun inside => (word.2 _ inside).1 rfl

theorem unbroken (word : IsWord text) : Unbroken text :=
  fun c inside => (word.2 c inside).2

theorem head_append (word : IsWord text) (rest : List Char) : ∀ c ∈ (text ++ rest).head?, (c == ' ') = false := by
  obtain ⟨d, more, rfl⟩ := List.exists_cons_of_ne_nil word.1
  simpa using (word.2 d List.mem_cons_self).1

end IsWord

end Text

namespace Kind

theorem dotted_injective {kind other : Kind} (same : kind.dotted = other.dotted) : kind = other := by
  have distinct : (all.map dotted).Nodup := by decide +kernel
  exact List.inj_on_of_nodup_map distinct kind.mem_all other.mem_all same

theorem isWord_dotted (kind : Kind) : Text.IsWord kind.dotted.toList := by
  have each : ∀ kind ∈ all, Text.IsWord kind.dotted.toList := by decide +kernel
  exact each kind kind.mem_all

end Kind

namespace UnitKind

theorem name_injective {kind other : UnitKind} (same : kind.name = other.name) : kind = other := by
  revert same
  cases kind <;> cases other <;> decide

theorem isWord_name (kind : UnitKind) : Text.IsWord kind.name.toList := by
  cases kind <;> decide

end UnitKind

namespace Entry

def text : Entry → String
  | unit kind => kind.name
  | leaf token => token.kind.dotted ++ " " ++ Text.quote token.text ++ " @" ++ token.position.render

def line (entry : Nat × Entry) : List Char :=
  (indentation entry.1 ++ entry.2.text).toList

theorem unbroken_text (entry : Entry) : Text.Unbroken entry.text.toList := by
  cases entry with
  | unit kind => exact kind.isWord_name.unbroken
  | leaf token =>
    simp only [text, String.toList_append, Text.unbroken_append]
    exact ⟨⟨⟨⟨token.kind.isWord_dotted.unbroken, by simp [Text.Unbroken]⟩, Text.unbroken_quote _⟩, by simp [Text.Unbroken]⟩,
      token.position.unbroken_render⟩

theorem unbroken_line (entry : Nat × Entry) : Text.Unbroken (line entry) := by
  rw [line, String.toList_append, Text.unbroken_append]
  exact ⟨by simp [indentation, Text.Unbroken], entry.2.unbroken_text⟩

theorem head_text (entry : Entry) : ∀ c ∈ entry.text.toList.head?, (c == ' ') = false := by
  cases entry with
  | unit kind => simpa [text] using kind.isWord_name.head_append []
  | leaf token =>
    simp only [text, String.toList_append, List.append_assoc]
    exact token.kind.isWord_dotted.head_append _

theorem text_injective {entry other : Entry} (same : entry.text = other.text) : entry = other := by
  have spaced (token : Token) : ' ' ∈ (leaf token).text.toList := by simp [text]
  have unspaced (kind : UnitKind) : ' ' ∉ (unit kind).text.toList := kind.isWord_name.space_not_mem
  match entry, other with
  | unit kind, unit another => rw [UnitKind.name_injective same]
  | unit kind, leaf token => exact absurd (same ▸ spaced token) (unspaced kind)
  | leaf token, unit kind => exact absurd (same ▸ spaced token) (unspaced kind)
  | leaf token, leaf another =>
    have shape (token : Token) : (leaf token).text.toList = token.kind.dotted.toList ++
        ' ' :: ((Text.quote token.text).toList ++ ([' ', '@'] ++ token.position.render.toList)) := by
      simp [text]
    have texts := congrArg String.toList same
    rw [shape, shape] at texts
    obtain ⟨kinds, quoted⟩ := Text.split_unique_at token.kind.isWord_dotted.space_not_mem
      another.kind.isWord_dotted.space_not_mem texts
    obtain ⟨words, positions⟩ := Text.quote_unique quoted
    have places : token.position.render.toList ++ [] = another.position.render.toList ++ [] := by
      rw [List.append_nil, List.append_nil, List.append_cancel_left positions]
    obtain ⟨place, -⟩ := Position.render_unique (by simp) (by simp) places
    obtain ⟨kind, word, position⟩ := token
    cases Kind.dotted_injective (String.toList_injective kinds)
    cases words
    cases place
    rfl

theorem line_injective {entry other : Nat × Entry} (same : line entry = line other) : entry = other := by
  have spaces (level : Nat) : ∀ c ∈ (indentation level).toList, (c == ' ') = true := by simp [indentation]
  rw [line, line, String.toList_append, String.toList_append] at same
  obtain ⟨levels, texts⟩ := Text.split_unique (spaces _) (spaces _) entry.2.head_text other.2.head_text same
  have lengths := congrArg List.length levels
  simp only [indentation, String.toList_ofList, List.length_replicate] at lengths
  exact Prod.ext (by omega) (text_injective (String.toList_injective texts))

end Entry

mutual

theorem Tree.toList_outline (tree : Tree) (level : Nat) :
    (tree.outline level).toList = ((tree.entries level).map Entry.line).flatMap (· ++ ['\n']) := by
  match tree with
  | .leaf token => simp [Tree.outline, Token.outline, Tree.entries, Entry.line, Entry.text]
  | .unit kind children =>
    have inner := Forest.toList_outlineAt children (level + 1)
    simp [Tree.outline, Tree.entries, Entry.line, Entry.text, inner]

theorem Forest.toList_outlineAt (forest : List Tree) (level : Nat) :
    (Forest.outlineAt forest level).toList =
      ((Forest.entries forest level).map Entry.line).flatMap (· ++ ['\n']) := by
  match forest with
  | [] => rfl
  | tree :: rest =>
    have first := Tree.toList_outline tree level
    have later := Forest.toList_outlineAt rest level
    simp [Forest.outlineAt, Forest.entries, first, later]

end

theorem Forest.lines_outline (forest : Forest) :
    Text.lines forest.outline.toList = (Forest.entries forest 0).map Entry.line := by
  rw [Forest.outline, Forest.toList_outlineAt]
  refine Text.lines_flatMap fun line inside => ?_
  obtain ⟨entry, -, rfl⟩ := List.mem_map.1 inside
  exact ⟨(Entry.unbroken_line entry).newline_not_mem, (Entry.unbroken_line entry).getLast?_ne_return⟩

theorem Forest.outline_injective {forest other : Forest} (same : forest.outline = other.outline) : forest = other := by
  have lines : (Forest.entries forest 0).map Entry.line = (Forest.entries other 0).map Entry.line := by
    rw [← Forest.lines_outline, ← Forest.lines_outline, same]
  have entries : Forest.entries forest 0 ++ [] = Forest.entries other 0 ++ [] := by
    rw [List.append_nil, List.append_nil, List.map_injective_iff.2 (fun _ _ => Entry.line_injective) lines]
  exact (Forest.entries_unique forest other 0 (by simp) (by simp) entries).1

namespace TokenList

def shown (token : Token) : String × Position :=
  (token.text, token.position)

def behind (tokens : TokenList) : List Char :=
  tokens.flatMap fun token => ' ' :: token.render.toList

theorem toList_intercalate_render (token : Token) (rest : TokenList) :
    (String.intercalate " " ((token :: rest).map Token.render)).toList = token.render.toList ++ behind rest := by
  induction rest generalizing token with
  | nil => simp [behind]
  | cons next more ih =>
    have later := ih next
    simp only [String.toList_intercalate, List.map_cons, List.intercalate_cons_cons] at later ⊢
    rw [later]
    simp [behind]

theorem behind_unique {tokens others : TokenList} (same : behind tokens = behind others) :
    tokens.map shown = others.map shown := by
  have space (tokens : TokenList) : ∀ c ∈ (behind tokens).head?, c.isDigit = false := by
    cases tokens <;> simp [behind]
  induction tokens generalizing others with
  | nil => cases others <;> simp [behind] at same ⊢
  | cons token rest ih =>
    cases others with
    | nil => simp [behind] at same
    | cons other more =>
      have next : token.render.toList ++ behind rest = other.render.toList ++ behind more := by
        simpa [behind] using same
      obtain ⟨text, position, later⟩ := Token.render_unique (space rest) (space more) next
      simp [shown, text, position, ih later]

theorem intercalate_unique {run other : TokenList}
    (same : (String.intercalate " " (run.map Token.render)).toList =
      (String.intercalate " " (other.map Token.render)).toList) : run.map shown = other.map shown := by
  -- What a token shows begins with a quote, so only no tokens at all show nothing.
  have some (token : Token) (rest : TokenList) :
      (String.intercalate " " ((token :: rest).map Token.render)).toList ≠ [] := by
    simp [Token.render, Text.quote]
  cases run with
  | nil =>
    cases other with
    | nil => rfl
    | cons next more => exact absurd same.symm (some next more)
  | cons token rest =>
    cases other with
    | nil => exact absurd same (some token rest)
    | cons next more =>
      rw [toList_intercalate_render, toList_intercalate_render] at same
      have spaced (token : Token) (rest : TokenList) :
          ' ' :: (token.render.toList ++ behind rest) = behind (token :: rest) := by simp [behind]
      exact behind_unique (by rw [← spaced, ← spaced, same])

theorem render_unique {tokens others : TokenList} (same : tokens.render = others.render) :
    tokens.map shown = others.map shown := by
  let row (run : TokenList) : List Char := (String.intercalate " " (run.map Token.render)).toList
  have rows : (lines tokens).map row = (lines others).map row := by
    rw [← lines_render, ← lines_render, same]
  obtain ⟨read, reads⟩ : ∃ read, List.map shown = read ∘ row :=
    (Function.factorsThrough_iff _).1 fun _ _ => intercalate_unique
  have whole (tokens : TokenList) : tokens.map shown = (((lines tokens).map row).map read).flatten := by
    have own : (lines tokens).flatten = tokens := List.flatten_splitBy _ _
    rw [List.map_map, ← reads, ← List.map_flatten, own]
  rw [whole tokens, whole others, rows]

end TokenList

/-- Two forests with one outline are one forest, with the same units at the same levels, and the same tokens in them. Two
lists of tokens that are rendered alike have the same texts and positions, in the same order. -/
theorem renderings_faithful :
    (∀ forest other : Forest, forest.outline = other.outline → forest = other) ∧
    ∀ tokens others : TokenList, tokens.render = others.render →
      tokens.map Token.text = others.map Token.text ∧ tokens.map Token.position = others.map Token.position := by
  refine ⟨fun _ _ => Forest.outline_injective, fun tokens others same => ?_⟩
  have shown : tokens.map TokenList.shown = others.map TokenList.shown := TokenList.render_unique same
  have texts := congrArg (List.map Prod.fst) shown
  have positions := congrArg (List.map Prod.snd) shown
  rw [List.map_map, List.map_map] at texts positions
  exact ⟨texts, positions⟩

example : Forest.outline [.leaf ⟨.name .unflavoured, "a\" @L0:0\nName \"b", .start⟩] =
    "Name \"a\\\" @L0:0\\nName \\\"b\" @L0:0\n" := by decide +kernel

end TokenForest
