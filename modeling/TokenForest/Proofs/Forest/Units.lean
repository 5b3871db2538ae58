import Mathlib.Data.List.Chain
import TokenForest.Forest.Tree

set_option autoImplicit false

namespace TokenForest

namespace Tree

def kind? : Tree → Option UnitKind
  | .leaf _ => none
  | .unit kind _ => some kind

def IsSeparator : Tree → Prop
  | .leaf token => token.role = .separator
  | .unit _ _ => False

def InLine : Tree → Prop
  | .leaf token => token.role ≠ .separator ∧ ∀ delimiter, token.role ≠ .opener delimiter
  | .unit kind _ => kind = .collection

def InCollection : Tree → Prop
  | .leaf token => ∀ delimiter, token.role ≠ .opener delimiter
  | .unit kind _ => kind ≠ .line

def InBlock : Tree → Prop
  | .leaf token => token.isTrivia = true
  | .unit kind _ => kind ≠ .collection

def Unfinished : Tree → Prop
  | .unit .line children => ∀ tree ∈ children, ¬ tree.IsSeparator
  | _ => False

def Follows (first second : Tree) : Prop :=
  first.Unfinished → second.kind? = some .block

end Tree

inductive Built (ended : Bool) : UnitKind → Forest → Prop
  | line {items : Forest} {separator : Option Token} (inside : ∀ tree ∈ items, tree.InLine)
      (separates : ∀ token ∈ separator, token.role = .separator) (ends : separator.isSome = ended) :
      Built ended .line (items ++ separator.toList.map .leaf)
  | collection {opener : Token} {rest : Forest} (opens : opener.role = .opener .paren)
      (inside : ∀ tree ∈ rest, tree.InCollection) : Built ended .collection (.leaf opener :: rest)
  | block {opener : Token} {scope : Forest} {closer : Option Token} (opens : opener.role = .opener .brace)
      (inside : ∀ tree ∈ scope, tree.InBlock) (follows : scope.IsChain Tree.Follows)
      (closes : ∀ token ∈ closer, token.role = .closer .brace) (ends : closer.isSome = ended) :
      Built ended .block (.leaf opener :: (scope ++ closer.toList.map .leaf))

namespace Forest

def Loose (forest : Forest) : Prop :=
  ∀ tree ∈ forest, tree.isSignificant = false

inductive Occurs (kind : UnitKind) (children : Forest) : Forest → Prop
  | here {forest : Forest} (inside : .unit kind children ∈ forest) : Occurs kind children forest
  | inner {forest siblings : Forest} {outer : UnitKind} (inside : .unit outer siblings ∈ forest)
      (deeper : Occurs kind children siblings) : Occurs kind children forest

theorem occurs_append {kind : UnitKind} {children front back : Forest} :
    Occurs kind children (front ++ back) ↔ Occurs kind children front ∨ Occurs kind children back := by
  constructor
  · rintro (⟨inside⟩ | ⟨inside, deeper⟩) <;> rcases List.mem_append.1 inside with first | second
    · exact .inl (.here first)
    · exact .inr (.here second)
    · exact .inl (.inner first deeper)
    · exact .inr (.inner second deeper)
  · rintro ((⟨inside⟩ | ⟨inside, deeper⟩) | (⟨inside⟩ | ⟨inside, deeper⟩))
    · exact .here (List.mem_append_left _ inside)
    · exact .inner (List.mem_append_left _ inside) deeper
    · exact .here (List.mem_append_right _ inside)
    · exact .inner (List.mem_append_right _ inside) deeper

theorem occurs_unit {kind outer : UnitKind} {children siblings : Forest} :
    Occurs kind children [.unit outer siblings] ↔
      kind = outer ∧ children = siblings ∨ Occurs kind children siblings := by
  constructor
  · rintro (⟨inside⟩ | ⟨inside, deeper⟩) <;> cases List.mem_singleton.1 inside
    · exact .inl ⟨rfl, rfl⟩
    · exact .inr deeper
  · rintro (⟨rfl, rfl⟩ | deeper)
    · exact .here (List.mem_singleton.2 rfl)
    · exact .inner (List.mem_singleton.2 rfl) deeper

def Sound (forest : Forest) : Prop :=
  ∀ kind children, Occurs kind children forest →
    (∃ ended, Built ended kind children) ∧ (kind = .line → children.any Tree.isSignificant = true)

@[simp] theorem sound_append {front back : Forest} : Sound (front ++ back) ↔ Sound front ∧ Sound back := by
  simp only [Sound, occurs_append]
  exact ⟨fun sound => ⟨fun _ _ occurs => sound _ _ (.inl occurs), fun _ _ occurs => sound _ _ (.inr occurs)⟩,
    fun ⟨first, second⟩ _ _ occurs => occurs.elim (first _ _) (second _ _)⟩

theorem sound_nil : Sound [] := by
  rintro kind children (⟨inside⟩ | ⟨inside, _⟩) <;> cases inside

@[simp] theorem sound_leaf (token : Token) : Sound [.leaf token] := by
  rintro kind children (⟨inside⟩ | ⟨inside, _⟩) <;> cases List.mem_singleton.1 inside

theorem sound_unit {kind : UnitKind} {children : Forest} {ended : Bool} (built : Built ended kind children)
    (significant : kind = .line → children.any Tree.isSignificant = true) (below : Sound children) :
    Sound [.unit kind children] := by
  intro inner grandchildren occurs
  rcases occurs_unit.1 occurs with ⟨rfl, rfl⟩ | deeper
  · exact ⟨⟨ended, built⟩, significant⟩
  · exact below inner grandchildren deeper

theorem loose_nil : Loose [] := by
  simp [Loose]

theorem Loose.leaf {forest : Forest} (loose : Loose forest) {tree : Tree} (inside : tree ∈ forest) :
    ∃ token : Token, tree = .leaf token ∧ token.isTrivia = true := by
  have trivia := loose tree inside
  cases tree with
  | leaf token => exact ⟨token, rfl, by simpa [Tree.isSignificant] using trivia⟩
  | unit => cases trivia

theorem Loose.tail {tree : Tree} {rest : Forest} (loose : Loose (tree :: rest)) : Loose rest :=
  fun other inside => loose other (List.mem_cons_of_mem tree inside)

theorem Loose.kind? {forest : Forest} (loose : Loose forest) {tree : Tree} (inside : tree ∈ forest) :
    tree.kind? = none := by
  obtain ⟨token, rfl, -⟩ := loose.leaf inside
  rfl

theorem Loose.append {front back : Forest} (first : Loose front) (second : Loose back) :
    Loose (front ++ back) :=
  fun tree inside => (List.mem_append.1 inside).elim (first tree) (second tree)

theorem Loose.sound {forest : Forest} (loose : Loose forest) : Sound forest := by
  rintro kind children (⟨inside⟩ | ⟨inside, _⟩) <;> cases loose.kind? inside

theorem Loose.not_mem {forest : Forest} (loose : Loose forest) {tree : Tree}
    (significant : tree.isSignificant = true) : tree ∉ forest := by
  intro inside
  simp [loose tree inside] at significant

theorem append_splits {first second front back : Forest} {tree : Tree}
    (split : first ++ second = front ++ tree :: back) :
    (∃ rest, first = front ++ tree :: rest ∧ back = rest ++ second) ∨
      ∃ rest, front = first ++ rest ∧ second = rest ++ tree :: back := by
  rcases List.append_eq_append_iff.1 split with ⟨rest, whole, later⟩ | ⟨rest, rfl, same⟩
  · exact .inr ⟨rest, whole, later⟩
  · rcases List.cons_eq_append_iff.1 same with ⟨rfl, rfl⟩ | ⟨more, rfl, rfl⟩
    · exact .inr ⟨[], by simp, rfl⟩
    · exact .inl ⟨more, rfl, rfl⟩

theorem significant_leaf {token : Token} (structural : token.role ≠ .plain) :
    (Tree.leaf token).isSignificant = true := by
  simp [Tree.isSignificant, Token.isTrivia_of_role_ne_plain structural]

theorem Loose.split {lead own trail front back : Forest} {tree : Tree} (before : Loose lead)
    (after : Loose trail) (significant : tree.isSignificant = true)
    (split : lead ++ own ++ trail = front ++ tree :: back) :
    ∃ inner rest, own = inner ++ tree :: rest ∧ front = lead ++ inner ∧ back = rest ++ trail := by
  rw [List.append_assoc] at split
  rcases append_splits split with ⟨_, rfl, _⟩ | ⟨inner, rfl, later⟩
  · exact absurd (by simp) (before.not_mem significant)
  rcases append_splits later with ⟨rest, rfl, rfl⟩ | ⟨_, _, rfl⟩
  · exact ⟨inner, rest, rfl, rfl, rfl⟩
  · exact absurd (by simp) (after.not_mem significant)

end Forest

def UnitKind.parts : UnitKind → List (Option UnitKind)
  | .line => [none, some .collection]
  | .collection => [none, some .collection, some .block]
  | .block => [none, some .line, some .block]

theorem UnitKind.none_mem_parts (kind : UnitKind) : none ∈ kind.parts := by
  cases kind <;> exact List.mem_cons_self

theorem Tree.InLine.kind? {tree : Tree} (inside : tree.InLine) : tree.kind? ∈ UnitKind.line.parts := by
  cases tree with
  | leaf => simp [Tree.kind?, UnitKind.parts]
  | unit kind children =>
    cases inside
    simp [Tree.kind?, UnitKind.parts]

theorem Tree.InCollection.kind? {tree : Tree} (inside : tree.InCollection) :
    tree.kind? ∈ UnitKind.collection.parts := by
  cases tree with
  | leaf => simp [Tree.kind?, UnitKind.parts]
  | unit kind children => cases kind <;> simp_all [Tree.kind?, UnitKind.parts, InCollection]

theorem Tree.InBlock.kind? {tree : Tree} (inside : tree.InBlock) : tree.kind? ∈ UnitKind.block.parts := by
  cases tree with
  | leaf => simp [Tree.kind?, UnitKind.parts]
  | unit kind children => cases kind <;> simp_all [Tree.kind?, UnitKind.parts, InBlock]

theorem Tree.follows_concat {scope : Forest} {tree : Tree} :
    (scope ++ [tree]).IsChain Follows ↔
      scope.IsChain Follows ∧ ∀ last ∈ scope.getLast?, last.Follows tree := by
  simp [List.isChain_append]

theorem Tree.follows_next {scope inner after : Forest} {tree : Tree} (follows : scope.IsChain Follows)
    (split : scope = inner ++ tree :: after) (unfinished : tree.Unfinished) :
    after = [] ∨ ∃ children rest, after = .unit .block children :: rest := by
  subst split
  have later := (List.isChain_append.1 follows).2.1
  rcases after with _ | ⟨_ | ⟨kind, children⟩, rest⟩
  · exact .inl rfl
  · cases (List.isChain_cons_cons.1 later).1 unfinished
  · cases (List.isChain_cons_cons.1 later).1 unfinished
    exact .inr ⟨children, rest, rfl⟩

namespace Built

variable {ended : Bool} {kind : UnitKind} {own inner rest : Forest}

theorem parts (built : Built ended kind own) {tree : Tree} (inside : tree ∈ own) :
    tree.kind? ∈ kind.parts := by
  have last {leaf : Option Token} (inside : tree ∈ leaf.toList.map Tree.leaf) : tree.kind? ∈ kind.parts := by
    obtain ⟨token, _, rfl⟩ := List.mem_map.1 inside
    exact kind.none_mem_parts
  cases built with
  | line items =>
    rcases List.mem_append.1 inside with item | separator
    · exact (items tree item).kind?
    · exact last separator
  | collection _ parts =>
    rcases List.mem_cons.1 inside with rfl | part
    · exact UnitKind.none_mem_parts _
    · exact (parts tree part).kind?
  | block _ parts =>
    rcases List.mem_cons.1 inside with rfl | part
    · exact UnitKind.none_mem_parts _
    · rcases List.mem_append.1 part with part | closer
      · exact (parts tree part).kind?
      · exact last closer

theorem first_paren (built : Built ended .collection own) :
    ∃ opener rest, own = .leaf opener :: rest ∧ opener.role = .opener .paren := by
  cases built with
  | collection opens => exact ⟨_, _, rfl, opens⟩

theorem first_brace (built : Built ended .block own) :
    ∃ opener rest, own = .leaf opener :: rest ∧ opener.role = .opener .brace := by
  cases built with
  | block opens => exact ⟨_, _, rfl, opens⟩

theorem last_leaf {leaf : Option Token} {tree : Tree} (split : leaf.toList.map Tree.leaf = inner ++ tree :: rest) :
    ∃ token ∈ leaf, tree = .leaf token ∧ rest = [] := by
  cases leaf with
  | none => simp at split
  | some token =>
    have single : [Tree.leaf token] = inner ++ tree :: rest := split
    rcases List.cons_eq_append_iff.1 single with ⟨rfl, same⟩ | ⟨more, _, none⟩
    · cases same
      exact ⟨token, rfl, rfl, rfl⟩
    · simp at none

theorem separator_last (built : Built ended .line own) {token : Token}
    (split : own = inner ++ .leaf token :: rest) (separates : token.role = .separator) : rest = [] := by
  cases built with
  | line items =>
    rcases Forest.append_splits split with ⟨_, rfl, _⟩ | ⟨_, _, last⟩
    · exact absurd separates (items (.leaf token) (by simp)).1
    · exact (last_leaf last).choose_spec.2.2

theorem block_leaf (built : Built ended .block own) {token : Token}
    (split : own = inner ++ .leaf token :: rest) :
    token.isTrivia = true ∨ token.role = .opener .brace ∧ inner = [] ∨
      token.role = .closer .brace ∧ rest = [] := by
  cases built with
  | block opens inside _ closes =>
    rcases List.cons_eq_append_iff.1 split with ⟨rfl, same⟩ | ⟨inner, rfl, same⟩
    · cases same
      exact .inr (.inl ⟨opens, rfl⟩)
    rcases Forest.append_splits same with ⟨_, rfl, _⟩ | ⟨_, _, last⟩
    · exact .inl (inside (.leaf token) (by simp))
    · obtain ⟨closer, some, leaf, rfl⟩ := last_leaf last
      cases leaf
      exact .inr (.inr ⟨closes token some, rfl⟩)

theorem opener_first (built : Built ended kind own) {token : Token} {delimiter : Delimiter}
    (split : own = inner ++ .leaf token :: rest) (opens : token.role = .opener delimiter) :
    kind = delimiter.unitKind ∧ inner = [] := by
  cases kind with
  | line =>
    cases built with
    | line items separates =>
      rcases Forest.append_splits split with ⟨_, rfl, _⟩ | ⟨_, _, last⟩
      · exact absurd opens ((items (.leaf token) (by simp)).2 delimiter)
      · obtain ⟨separator, some, leaf, _⟩ := last_leaf last
        cases leaf
        simp [separates token some] at opens
  | collection =>
    cases built with
    | collection first inside =>
      rcases List.cons_eq_append_iff.1 split with ⟨rfl, same⟩ | ⟨inner, rfl, rfl⟩
      · cases same
        cases first.symm.trans opens
        exact ⟨rfl, rfl⟩
      · exact absurd opens (inside (.leaf token) (by simp) delimiter)
  | block =>
    rcases built.block_leaf split with trivia | ⟨first, none⟩ | ⟨last, _⟩
    · simp [Token.role_of_isTrivia trivia] at opens
    · cases first.symm.trans opens
      exact ⟨rfl, none⟩
    · simp [last] at opens

theorem unfinished_line (built : Built ended .block own) {line : Forest}
    (split : own = inner ++ .unit .line line :: rest) (unfinished : (Tree.unit .line line).Unfinished) :
    (rest = [] ∧ ended = false) ∨ (∃ children more, rest = .unit .block children :: more) ∨
      ∃ closer, rest = [.leaf closer] ∧ closer.role = .closer .brace := by
  cases built with
  | @block _ _ closer _ _ follows closes ends =>
    rcases List.cons_eq_append_iff.1 split with ⟨_, same⟩ | ⟨inner, rfl, same⟩
    · cases same
    rcases Forest.append_splits same with ⟨after, rfl, rfl⟩ | ⟨_, _, last⟩
    · rcases Tree.follows_next follows rfl unfinished with rfl | ⟨children, more, rfl⟩
      · cases closer with
        | none => exact .inl ⟨rfl, by simpa using ends.symm⟩
        | some token => exact .inr (.inr ⟨token, rfl, closes token rfl⟩)
      · exact .inr (.inl ⟨children, _, rfl⟩)
    · obtain ⟨_, _, leaf, _⟩ := last_leaf last
      cases leaf

end Built

end TokenForest
