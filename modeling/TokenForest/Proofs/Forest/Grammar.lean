import TokenForest.Proofs.Forest.Units

set_option autoImplicit false

namespace TokenForest

inductive Surrounded (leads ended : Bool) (kind : UnitKind) : Forest → Prop
  | intro {lead own trail : Forest} (built : Built ended kind own) (before : Forest.Loose lead)
      (after : Forest.Loose trail) (first : leads = false → lead = []) (last : ended = false → trail = []) :
      Surrounded leads ended kind (lead ++ own ++ trail)

theorem Built.surrounded {leads ended : Bool} {kind : UnitKind} {own : Forest} (built : Built ended kind own) :
    Surrounded leads ended kind own := by
  simpa using Surrounded.intro built Forest.loose_nil Forest.loose_nil (fun _ => rfl) fun _ => rfl

theorem Surrounded.parts {leads ended : Bool} {kind : UnitKind} {children : Forest}
    (surrounded : Surrounded leads ended kind children) {tree : Tree} (inside : tree ∈ children) :
    tree.kind? ∈ kind.parts := by
  cases surrounded with
  | intro built before after =>
    rcases List.mem_append.1 inside with earlier | trail
    · rcases List.mem_append.1 earlier with lead | own
      · rw [before.kind? lead]
        exact kind.none_mem_parts
      · exact built.parts own
    · rw [after.kind? trail]
      exact kind.none_mem_parts

def Tree.AtTop (leads : Bool) : Tree → Prop
  | .leaf _ => False
  | .unit kind children =>
      kind ≠ .collection ∧ Forest.Sound children ∧ ∃ ended, Surrounded leads ended kind children

namespace Forest

def AtTop : Forest → Prop
  | [] => True
  | first :: rest => first.AtTop true ∧ ∀ tree ∈ rest, tree.AtTop false

def Inner (kind : UnitKind) (children : Forest) (forest : Forest) : Prop :=
  ∃ tree ∈ forest, Occurs kind children tree.children

structure Grammar (forest : Forest) : Prop where
  top : ∀ tree ∈ forest, tree.kind? = some .line ∨ tree.kind? = some .block
  parts : ∀ kind children, Occurs kind children forest → ∀ tree ∈ children, tree.kind? ∈ kind.parts
  -- Openers come first in collections and blocks, trivia before the first unit apart, and nowhere else.
  collection_opener : ∀ children, Occurs .collection children forest →
    ∃ opener rest, children = .leaf opener :: rest ∧ opener.role = .opener .paren
  block_opener : ∀ children, Inner .block children forest ∨ .unit .block children ∈ forest.tail →
    ∃ opener rest, children = .leaf opener :: rest ∧ opener.role = .opener .brace
  first_opener : ∀ children, forest.head? = some (.unit .block children) →
    ∃ lead opener rest, children = lead ++ .leaf opener :: rest ∧ Loose lead ∧ opener.role = .opener .brace
  opener_only : ∀ kind children front token back delimiter, Occurs kind children forest →
    children = front ++ .leaf token :: back → token.role = .opener delimiter →
      kind = delimiter.unitKind ∧ Loose front
  block_leaf : ∀ children front token back, Occurs .block children forest →
    children = front ++ .leaf token :: back →
      token.isTrivia = true ∨ token.role = .opener .brace ∨ token.role = .closer .brace ∧ Loose back
  separator_last : ∀ children front token back, Occurs .line children forest →
    children = front ++ .leaf token :: back → token.role = .separator →
      Loose back ∧ (Inner .line children forest → back = [])
  -- After a line without a separator comes a block, or its scope ends, by the closing brace if there is one.
  unfinished : ∀ siblings front line back, siblings = forest ∨ Occurs .block siblings forest →
    siblings = front ++ .unit .line line :: back → (∀ tree ∈ line, ¬ tree.IsSeparator) →
      back = [] ∨ (∃ children rest, back = .unit .block children :: rest) ∨
        ∃ closer rest, back = .leaf closer :: rest ∧ closer.role = .closer .brace

theorem AtTop.of_mem {forest : Forest} (top : AtTop forest) {tree : Tree} (inside : tree ∈ forest) :
    ∃ leads, tree.AtTop leads := by
  cases forest with
  | nil => cases inside
  | cons first rest =>
    rcases List.mem_cons.1 inside with rfl | later
    · exact ⟨true, top.1⟩
    · exact ⟨false, top.2 tree later⟩

theorem AtTop.built_of_inner {forest : Forest} (top : AtTop forest) {kind : UnitKind} {children : Forest}
    (inner : Inner kind children forest) : ∃ ended, Built ended kind children := by
  obtain ⟨tree, inside, occurs⟩ := inner
  obtain ⟨leads, atTop⟩ := top.of_mem inside
  cases tree with
  | leaf => exact atTop.elim
  | unit => exact (atTop.2.1 kind children occurs).1

theorem AtTop.surrounded {forest : Forest} (top : AtTop forest) {kind : UnitKind} {children : Forest}
    (occurs : Occurs kind children forest) : ∃ leads ended, Surrounded leads ended kind children := by
  cases occurs with
  | here inside =>
    obtain ⟨leads, _, _, ended, surrounded⟩ := top.of_mem inside
    exact ⟨leads, ended, surrounded⟩
  | inner inside deeper =>
    obtain ⟨ended, built⟩ := top.built_of_inner ⟨_, inside, deeper⟩
    exact ⟨true, ended, built.surrounded⟩

theorem AtTop.built_collection {forest : Forest} (top : AtTop forest) {children : Forest}
    (occurs : Occurs .collection children forest) : ∃ ended, Built ended .collection children := by
  cases occurs with
  | here inside =>
    obtain ⟨_, atTop⟩ := top.of_mem inside
    exact absurd rfl atTop.1
  | inner inside deeper => exact top.built_of_inner ⟨_, inside, deeper⟩

theorem AtTop.grammar {forest : Forest} (top : AtTop forest) (follows : forest.IsChain Tree.Follows) :
    Grammar forest where
  top := by
    intro tree inside
    obtain ⟨_, atTop⟩ := top.of_mem inside
    match tree with
    | .unit .line _ => exact .inl rfl
    | .unit .block _ => exact .inr rfl
    | .unit .collection _ => exact absurd rfl atTop.1
  parts := by
    intro kind children occurs tree inside
    obtain ⟨_, _, surrounded⟩ := top.surrounded occurs
    exact surrounded.parts inside
  collection_opener := by
    intro children occurs
    obtain ⟨_, built⟩ := top.built_collection occurs
    exact built.first_paren
  block_opener := by
    rintro children (inner | later)
    · obtain ⟨_, built⟩ := top.built_of_inner inner
      exact built.first_brace
    · cases forest with
      | nil => cases later
      | cons first rest =>
        obtain ⟨_, _, _, @⟨lead, _, trail, built, _, _, first, _⟩⟩ := top.2 _ later
        obtain ⟨opener, rest, rfl, opens⟩ := built.first_brace
        exact ⟨opener, rest ++ trail, by simp [first rfl], opens⟩
  first_opener := by
    intro children head
    obtain ⟨_, _, _, _, ⟨built, before, _, _, _⟩⟩ := top.of_mem (List.mem_of_mem_head? head)
    obtain ⟨opener, rest, rfl, opens⟩ := built.first_brace
    exact ⟨_, opener, _, List.append_assoc _ _ _, before, opens⟩
  opener_only := by
    intro kind children front token back delimiter occurs split opens
    obtain ⟨_, _, ⟨built, before, after, _, _⟩⟩ := top.surrounded occurs
    obtain ⟨inner, rest, rfl, rfl, rfl⟩ := before.split after (significant_leaf (by simp [opens])) split
    obtain ⟨same, rfl⟩ := built.opener_first rfl opens
    exact ⟨same, by simpa using before⟩
  block_leaf := by
    intro children front token back occurs split
    obtain ⟨_, _, ⟨built, before, after, _, _⟩⟩ := top.surrounded occurs
    cases trivia : token.isTrivia with
    | true => exact .inl rfl
    | false =>
      -- What is significant is not in the trivia around the unit, so it is one of its own children.
      have significant : (Tree.leaf token).isSignificant = true := by simp [Tree.isSignificant, trivia]
      obtain ⟨inner, rest, rfl, rfl, rfl⟩ := before.split after significant split
      rcases built.block_leaf rfl with loose | ⟨first, _⟩ | ⟨last, rfl⟩
      · simp [trivia] at loose
      · exact .inr (.inl first)
      · exact .inr (.inr ⟨last, by simpa using after⟩)
  separator_last := by
    intro children front token back occurs split separates
    constructor
    · obtain ⟨_, _, ⟨built, before, after, _, _⟩⟩ := top.surrounded occurs
      obtain ⟨inner, rest, rfl, rfl, rfl⟩ :=
        before.split after (significant_leaf (by simp [separates])) split
      rw [built.separator_last rfl separates]
      simpa using after
    · intro inner
      obtain ⟨_, built⟩ := top.built_of_inner inner
      exact built.separator_last split separates
  unfinished := by
    rintro siblings front line back (rfl | occurs) split unfinished
    · rcases Tree.follows_next follows split unfinished with none | block
      · exact .inl none
      · exact .inr (.inl block)
    · obtain ⟨_, ended, ⟨built, before, after, _, last⟩⟩ := top.surrounded occurs
      obtain ⟨inner, rest, rfl, rfl, rfl⟩ := before.split after rfl split
      rcases built.unfinished_line rfl unfinished with
        ⟨rfl, unended⟩ | ⟨children, more, rfl⟩ | ⟨closer, rfl, closes⟩
      · exact .inl (last unended)
      · exact .inr (.inl ⟨children, _, rfl⟩)
      · exact .inr (.inr ⟨closer, _, rfl, closes⟩)

end Forest

end TokenForest
