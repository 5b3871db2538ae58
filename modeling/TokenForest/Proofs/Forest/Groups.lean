import TokenForest.Proofs.Forest.Grammar
import TokenForest.Proofs.Forest.Nesting
import TokenForest.Proofs.Forest.Scopes

set_option autoImplicit false

namespace TokenForest

namespace Tree

def opens (delimiter : Delimiter) : Tree → Bool
  | .leaf token => token.Opens delimiter
  | .unit _ _ => false

def closes (delimiter : Delimiter) : Tree → Bool
  | .leaf token => token.Closes delimiter
  | .unit _ _ => false

end Tree

namespace Forest

def first? (forest : Forest) : Option Tree :=
  forest.find? Tree.isSignificant

def last? (forest : Forest) : Option Tree :=
  forest.reverse.find? Tree.isSignificant

end Forest

structure Group where
  kind : UnitKind
  children : Forest

namespace Group

def isClosed (group : Group) : Bool :=
  match group.kind with
  | .line => false
  | .collection => (Forest.last? group.children).any (Tree.closes .paren)
  | .block => (Forest.last? group.children).any (Tree.closes .brace)

-- Lines have no closer to lack.
def isLeftOpen (group : Group) : Bool :=
  group.kind.isDelimited && !group.isClosed

end Group

mutual

def Tree.groups : Tree → List Group
  | .leaf _ => []
  | .unit kind children => ⟨kind, children⟩ :: Forest.groups children

def Forest.groups : List Tree → List Group
  | [] => []
  | tree :: rest => tree.groups ++ Forest.groups rest

end

mutual

def Tree.strays : Tree → TokenList
  | .leaf token => if token.isCloser then [token] else []
  | .unit kind children =>
      if Group.isClosed ⟨kind, children⟩ then (Forest.strays children).dropLast else Forest.strays children

def Forest.strays : List Tree → TokenList
  | [] => []
  | tree :: rest => tree.strays ++ Forest.strays rest

end

namespace Forest

def leftOpen (forest : Forest) : List Group :=
  (groups forest).filter Group.isLeftOpen

@[simp] theorem groups_append (front back : Forest) : groups (front ++ back) = groups front ++ groups back := by
  induction front with
  | nil => rfl
  | cons tree rest ih => simp [groups, ih]

@[simp] theorem groups_singleton (tree : Tree) : groups [tree] = tree.groups := by
  simp [groups]

@[simp] theorem strays_append (front back : Forest) : strays (front ++ back) = strays front ++ strays back := by
  induction front with
  | nil => rfl
  | cons tree rest ih => simp [strays, ih]

@[simp] theorem strays_singleton (tree : Tree) : strays [tree] = tree.strays := by
  simp [strays]

@[simp] theorem leftOpen_append (front back : Forest) :
    leftOpen (front ++ back) = leftOpen front ++ leftOpen back := by
  simp [leftOpen]

theorem leftOpen_unit (kind : UnitKind) (children : Forest) :
    leftOpen [.unit kind children] =
      (if Group.isLeftOpen ⟨kind, children⟩ then [⟨kind, children⟩] else []) ++ leftOpen children := by
  by_cases left : Group.isLeftOpen ⟨kind, children⟩ = true <;> simp [leftOpen, Tree.groups, left]

namespace Loose

variable {forest : Forest}

theorem find?_eq_none (loose : forest.Loose) : forest.find? Tree.isSignificant = none := by
  simpa [Forest.Loose] using loose

theorem reverse (loose : forest.Loose) : Forest.Loose forest.reverse := by
  simpa [Forest.Loose] using loose

theorem groups (loose : forest.Loose) : Forest.groups forest = [] := by
  induction forest with
  | nil => rfl
  | cons tree rest ih =>
    obtain ⟨token, rfl, -⟩ := loose.leaf List.mem_cons_self
    simp [Forest.groups, Tree.groups, ih loose.tail]

theorem strays (loose : forest.Loose) : Forest.strays forest = [] := by
  induction forest with
  | nil => rfl
  | cons tree rest ih =>
    obtain ⟨token, rfl, trivia⟩ := loose.leaf List.mem_cons_self
    simp [Forest.strays, Tree.strays, Token.isCloser_iff, Token.role_of_isTrivia trivia, ih loose.tail]

end Loose

theorem first?_around {lead trail : Forest} (before : lead.Loose) (after : trail.Loose) (own : Forest) :
    first? (lead ++ own ++ trail) = first? own := by
  simp [first?, List.find?_append, before.find?_eq_none, after.find?_eq_none]

theorem last?_around {lead trail : Forest} (before : lead.Loose) (after : trail.Loose) (own : Forest) :
    last? (lead ++ own ++ trail) = last? own := by
  simp [last?, List.find?_append, before.reverse.find?_eq_none, after.reverse.find?_eq_none]

theorem last?_concat (front : Forest) {tree : Tree} (significant : tree.isSignificant = true) :
    last? (front ++ [tree]) = some tree := by
  simp [last?, significant]

end Forest

theorem Group.isClosed_around {lead trail : Forest} (before : lead.Loose) (after : trail.Loose) (kind : UnitKind)
    (own : Forest) : isClosed ⟨kind, lead ++ own ++ trail⟩ = isClosed ⟨kind, own⟩ := by
  simp only [isClosed, Forest.last?_around before after]

theorem Group.isLeftOpen_around {lead trail : Forest} (before : lead.Loose) (after : trail.Loose) (kind : UnitKind)
    (own : Forest) : isLeftOpen ⟨kind, lead ++ own ++ trail⟩ = isLeftOpen ⟨kind, own⟩ := by
  simp only [isLeftOpen, isClosed_around before after]

namespace Forest

theorem ignoresTrivia_strays : IgnoresTrivia (· ++ ·) strays where
  append := strays_append
  nil_join _ := rfl
  join_nil := List.append_nil
  loose loose := loose.strays
  line loose := by simp [Tree.strays, Group.isClosed, loose.strays, strays]
  around before after kind children := by
    simp only [strays_singleton, Tree.strays, Group.isClosed_around before after, strays_append, before.strays,
      after.strays, List.nil_append, List.append_nil]

def begun (forest : Forest) : List (UnitKind × Option Tree) :=
  (leftOpen forest).map fun group => (group.kind, first? group.children)

theorem ignoresTrivia_begun : IgnoresTrivia (· ++ ·) begun where
  append front back := by simp [begun]
  nil_join _ := rfl
  join_nil := List.append_nil
  loose loose := by simp [begun, leftOpen, loose.groups, groups]
  line loose := by simp [begun, leftOpen, Tree.groups, Group.isLeftOpen, UnitKind.isDelimited, loose.groups, groups]
  around before after kind children := by
    have none {trivia : Forest} (loose : trivia.Loose) : leftOpen trivia = [] := by simp [leftOpen, loose.groups]
    simp only [begun, leftOpen_unit, Group.isLeftOpen_around before after, leftOpen_append, none before, none after,
      List.nil_append, List.append_nil, List.map_append]
    split <;> simp only [List.map_cons, List.map_nil, first?_around before after]

end Forest

mutual

theorem Tree.countP_opens (delimiter : Delimiter) (tree : Tree)
    (single : ∀ kind children, Forest.Occurs kind children [tree] →
      children.countP (Tree.opens delimiter) = if kind = delimiter.unitKind then 1 else 0) :
    tree.tokens.countP (·.Opens delimiter) =
      [tree].countP (Tree.opens delimiter) + tree.groups.countP (·.kind = delimiter.unitKind) := by
  match tree with
  | .leaf token => simp [Tree.tokens, Tree.opens, Tree.groups]
  | .unit kind children =>
    have inside := Forest.countP_opens delimiter children fun inner grandchildren occurs =>
      single inner grandchildren (Forest.occurs_unit.2 (.inr occurs))
    have own := single kind children (Forest.occurs_unit.2 (.inl ⟨rfl, rfl⟩))
    simp [Tree.tokens, Tree.groups, Tree.opens, List.countP_cons, inside, own, Nat.add_comm]

theorem Forest.countP_opens (delimiter : Delimiter) (forest : Forest)
    (single : ∀ kind children, Forest.Occurs kind children forest →
      children.countP (Tree.opens delimiter) = if kind = delimiter.unitKind then 1 else 0) :
    (Forest.tokens forest).countP (·.Opens delimiter) =
      forest.countP (Tree.opens delimiter) + (Forest.groups forest).countP (·.kind = delimiter.unitKind) := by
  match forest with
  | [] => rfl
  | tree :: rest =>
    have first := Tree.countP_opens delimiter tree fun kind children occurs =>
      single kind children ((@Forest.occurs_append kind children [tree] rest).2 (.inl occurs))
    have later := Forest.countP_opens delimiter rest fun kind children occurs =>
      single kind children ((@Forest.occurs_append kind children [tree] rest).2 (.inr occurs))
    have split : (tree :: rest).countP (Tree.opens delimiter) =
        [tree].countP (Tree.opens delimiter) + rest.countP (Tree.opens delimiter) := by
      rw [← List.countP_append, List.singleton_append]
    rw [Forest.tokens, Forest.groups, List.countP_append, List.countP_append, first, later, split]
    omega

end

namespace Forest

theorem countP_opens_of_ne {forest : Forest} {delimiter : Delimiter}
    (apart : ∀ token, .leaf token ∈ forest → token.role ≠ .opener delimiter) :
    forest.countP (Tree.opens delimiter) = 0 := by
  apply List.countP_eq_zero.2
  intro tree inside
  cases tree with
  | leaf token => simpa [Tree.opens, Token.opens_iff] using apart token inside
  | unit => simp [Tree.opens]

theorem Loose.countP_opens {forest : Forest} (loose : forest.Loose) (delimiter : Delimiter) :
    forest.countP (Tree.opens delimiter) = 0 := by
  apply countP_opens_of_ne
  intro token inside
  have trivia : token.isTrivia = true := by simpa [Tree.isSignificant] using loose _ inside
  simp [Token.role_of_isTrivia trivia]

end Forest

theorem Built.countP_opens {ended : Bool} {kind : UnitKind} {own : Forest} (built : Built ended kind own)
    (delimiter : Delimiter) :
    own.countP (Tree.opens delimiter) = if kind = delimiter.unitKind then 1 else 0 := by
  by_cases same : kind = delimiter.unitKind
  · subst same
    have first : ∃ opener rest, own = .leaf opener :: rest ∧ opener.role = .opener delimiter := by
      cases delimiter with
      | paren => exact built.first_paren
      | brace => exact built.first_brace
    obtain ⟨opener, rest, rfl, opens⟩ := first
    have none : rest.countP (Tree.opens delimiter) = 0 := by
      apply Forest.countP_opens_of_ne
      intro token inside again
      obtain ⟨front, back, rfl⟩ := List.append_of_mem inside
      have split : Tree.leaf opener :: (front ++ .leaf token :: back) =
          (.leaf opener :: front) ++ .leaf token :: back := rfl
      cases (built.opener_first split again).2
    simp [Tree.opens, Token.opens_iff, opens, none]
  · rw [if_neg same]
    apply Forest.countP_opens_of_ne
    intro token inside opens
    obtain ⟨front, back, split⟩ := List.append_of_mem inside
    exact same (built.opener_first split opens).1

theorem Surrounded.countP_opens {leads ended : Bool} {kind : UnitKind} {children : Forest}
    (surrounded : Surrounded leads ended kind children) (delimiter : Delimiter) :
    children.countP (Tree.opens delimiter) = if kind = delimiter.unitKind then 1 else 0 := by
  cases surrounded with
  | intro built before after =>
    simp [built.countP_opens, before.countP_opens, after.countP_opens]

theorem Forest.AtTop.countP_opens {forest : Forest} (top : forest.AtTop) (delimiter : Delimiter) :
    (Forest.tokens forest).countP (·.Opens delimiter) =
      (groups forest).countP (·.kind = delimiter.unitKind) := by
  have none : forest.countP (Tree.opens delimiter) = 0 := by
    apply countP_opens_of_ne
    intro token inside
    obtain ⟨_, leaf⟩ := top.of_mem inside
    exact leaf.elim
  have counted := Forest.countP_opens delimiter forest fun kind children occurs => by
    obtain ⟨_, _, surrounded⟩ := top.surrounded occurs
    exact surrounded.countP_opens delimiter
  rwa [none, Nat.zero_add] at counted

namespace Group

theorem isClosed_iff (group : Group) :
    group.isClosed = true ↔
      ∃ delimiter, group.kind = delimiter.unitKind ∧
        (Forest.last? group.children).any (Tree.closes delimiter) = true := by
  obtain ⟨kind, children⟩ := group
  constructor
  · intro closed
    cases kind with
    | line => cases closed
    | collection => exact ⟨.paren, rfl, closed⟩
    | block => exact ⟨.brace, rfl, closed⟩
  · rintro ⟨_ | _, rfl, closed⟩ <;> exact closed

theorem closer_of_isClosed {kind : UnitKind} {children : Forest} (closed : isClosed ⟨kind, children⟩ = true) :
    ∃ front closer trail delimiter, children = front ++ .leaf closer :: trail ∧ Forest.Loose trail ∧
      closer.role = .closer delimiter ∧ kind = delimiter.unitKind := by
  obtain ⟨delimiter, same, ends⟩ := (isClosed_iff _).1 closed
  obtain ⟨last, found, closes⟩ := (Option.any_eq_true _ _).1 ends
  obtain ⟨-, after, before, split, loose⟩ := List.find?_eq_some_iff_append.1 found
  cases last with
  | unit => cases closes
  | leaf closer =>
    refine ⟨before.reverse, closer, after.reverse, delimiter, ?_, ?_, ?_, same⟩
    · simpa using congrArg List.reverse split
    · intro tree inside
      simpa using loose tree (List.mem_reverse.1 inside)
    · simpa [Tree.closes, Token.closes_iff] using closes

end Group

theorem Forest.strays_ne_nil {kind : UnitKind} {children : Forest}
    (closed : Group.isClosed ⟨kind, children⟩ = true) : strays children ≠ [] := by
  obtain ⟨front, closer, trail, delimiter, rfl, loose, closes, -⟩ := Group.closer_of_isClosed closed
  have own : closer.isCloser = true := closer.isCloser_iff.2 ⟨delimiter, closes⟩
  simp [strays, Tree.strays, own]

mutual

theorem Tree.countP_isCloser (tree : Tree) :
    tree.tokens.countP Token.isCloser = tree.groups.countP Group.isClosed + tree.strays.length := by
  match tree with
  | .leaf token => by_cases closer : token.isCloser = true <;> simp [Tree.tokens, Tree.groups, Tree.strays, closer]
  | .unit kind children =>
    have inside := Forest.countP_isCloser children
    by_cases closed : Group.isClosed ⟨kind, children⟩ = true
    · have some := List.length_pos_of_ne_nil (Forest.strays_ne_nil closed)
      simp only [Tree.tokens, Tree.groups, Tree.strays, if_pos closed, List.countP_cons, List.length_dropLast]
      omega
    · simpa [Tree.tokens, Tree.groups, Tree.strays, closed] using inside

theorem Forest.countP_isCloser (forest : Forest) :
    (Forest.tokens forest).countP Token.isCloser =
      (Forest.groups forest).countP Group.isClosed + (Forest.strays forest).length := by
  match forest with
  | [] => rfl
  | tree :: rest =>
    have first := tree.countP_isCloser
    have later := Forest.countP_isCloser rest
    simp only [Forest.tokens, Forest.groups, Forest.strays, List.countP_append, List.length_append]
    omega

end

end TokenForest
