import TokenForest.Proofs.Forest.Run
import TokenForest.Proofs.Forest.Units

set_option autoImplicit false

namespace TokenForest

/-- Well-formed trees without trivia, by the kind of unit that they may stand in. The top level is like a block. -/
inductive Tree.Fits : UnitKind → Tree → Prop
  | word {kind : UnitKind} {token : Token} (apart : kind ≠ .block) (plain : token.role = .plain)
      (significant : token.isTrivia = false) : Fits kind (.leaf token)
  | separator {token : Token} (separates : token.role = .separator) : Fits .collection (.leaf token)
  | line {items : Forest} {separator : Option Token} (inside : ∀ tree ∈ items, Fits .line tree)
      (separates : ∀ token ∈ separator, token.role = .separator)
      (nonempty : items ++ separator.toList.map .leaf ≠ []) :
      Fits .block (.unit .line (items ++ separator.toList.map .leaf))
  | collection {kind : UnitKind} {opener closer : Token} {parts : Forest} (apart : kind ≠ .block)
      (opens : opener.role = .opener .paren) (inside : ∀ tree ∈ parts, Fits .collection tree)
      (closes : closer.role = .closer .paren) :
      Fits kind (.unit .collection (.leaf opener :: (parts ++ [.leaf closer])))
  | block {kind : UnitKind} {opener closer : Token} {scope : Forest} (apart : kind ≠ .line)
      (opens : opener.role = .opener .brace) (inside : ∀ tree ∈ scope, Fits .block tree)
      (follows : scope.IsChain Follows) (closes : closer.role = .closer .brace) :
      Fits kind (.unit .block (.leaf opener :: (scope ++ [.leaf closer])))

/-- A scope: lines and blocks, where a line that no separator ends is last or comes right before a block. -/
def Forest.WellFormed (forest : Forest) : Prop :=
  (∀ tree ∈ forest, tree.Fits .block) ∧ forest.IsChain Tree.Follows

theorem Tree.Fits.isSignificant {kind : UnitKind} {tree : Tree} (fits : tree.Fits kind) :
    tree.isSignificant = true := by
  cases fits with
  | word _ _ significant => simp [Tree.isSignificant, significant]
  | separator separates => exact Forest.significant_leaf (by simp [separates])
  | line | collection | block => rfl

theorem Tree.Fits.not_isSeparator {tree : Tree} (fits : tree.Fits .line) : ¬ tree.IsSeparator := by
  cases fits with
  | word _ plain => simp [Tree.IsSeparator, plain]
  | collection | block => exact id

theorem Tree.Fits.isUnit {tree : Tree} (fits : tree.Fits .block) : ∃ kind children, tree = .unit kind children := by
  cases fits with
  | word apart => exact absurd rfl apart
  | line | collection | block => exact ⟨_, _, rfl⟩

namespace TopLevel

def addTree (top : TopLevel) : Tree → TopLevel
  | .leaf token => top.addTrivia [.leaf token]
  | .unit kind children => top.addUnit kind children

theorem forest_addTrees {trees : Forest} (units : ∀ tree ∈ trees, ∃ kind children, tree = .unit kind children)
    {top : TopLevel} (clean : ∀ trivia, top = leading trivia → trivia = []) :
    (trees.foldl addTree top).forest = top.forest ++ trees := by
  induction trees generalizing top with
  | nil => simp
  | cons tree rest ih =>
    obtain ⟨kind, children, rfl⟩ := units tree List.mem_cons_self
    have added : (top.addTree (.unit kind children)).forest = top.forest ++ [.unit kind children] := by
      cases top with
      | leading trivia =>
        cases clean trivia rfl
        rfl
      | units => rfl
    have dirty (trivia : Forest) : top.addTree (.unit kind children) ≠ leading trivia := by
      cases top <;> simp [addTree, addUnit]
    have later := ih (fun other inside => units other (List.mem_cons_of_mem _ inside))
      fun trivia same => absurd same (dirty trivia)
    rw [List.foldl_cons, later, added, List.append_assoc]
    rfl

end TopLevel

namespace OpenForest

def attachAll (state : OpenForest) (trees : Forest) : OpenForest :=
  match state.stack with
  | [] => { state with line := state.line ++ trees }
  | .collection opener children :: below =>
      { state with stack := .collection opener (children ++ trees) :: below }
  | .block opener children line :: below =>
      { state with stack := .block opener children (line ++ trees) :: below }

theorem attachAll_nil (state : OpenForest) : state.attachAll [] = state := by
  obtain ⟨keepTrivia, _ | ⟨_ | _, below⟩, top, line⟩ := state <;> simp [attachAll]

theorem attachAll_attach (state : OpenForest) (tree : Tree) (rest : Forest) :
    (state.attach tree).attachAll rest = state.attachAll (tree :: rest) := by
  obtain ⟨keepTrivia, _ | ⟨_ | _, below⟩, top, line⟩ := state <;> simp [attachAll, attach]

theorem attach_attachAll (state : OpenForest) (trees : Forest) (last : Tree) :
    (state.attachAll trees).attach last = state.attachAll (trees ++ [last]) := by
  obtain ⟨keepTrivia, _ | ⟨_ | _, below⟩, top, line⟩ := state <;> simp [attachAll, attach]

def settle (state : OpenForest) (tree : Tree) : OpenForest :=
  match state.stack with
  | [] => { state with top := state.top.addTree tree }
  | .collection opener siblings :: below =>
      { state with stack := .collection opener (siblings ++ [tree]) :: below }
  | .block opener siblings line :: below =>
      { state with stack := .block opener (siblings ++ [tree]) line :: below }

theorem attachBlock_eq_settle (state : OpenForest) (children : Forest) :
    state.attachBlock children = state.settle (.unit .block children) := by
  obtain ⟨keepTrivia, _ | ⟨_ | _, below⟩, top, line⟩ := state <;> rfl

theorem leave_enter_collection (state : OpenForest) (opener closer : Token) (children : Forest) :
    (state.enter (.collection opener children)).leave (some closer) =
      state.attach (.unit .collection (.leaf opener :: (children ++ [.leaf closer]))) := by
  simp [leave, enter, Frame.delimiter, Frame.closed]

theorem leave_enter_block (state : OpenForest) (opener closer : Token) (children : Forest) :
    (state.enter (.block opener children [])).leave (some closer) =
      state.settle (.unit .block (.leaf opener :: (children ++ [.leaf closer]))) := by
  simp [leave, enter, Frame.delimiter, Frame.closed, attachBlock_eq_settle]

theorem foldl_settle_block (state : OpenForest) (opener : Token) (children line scope : Forest) :
    scope.foldl settle (state.enter (.block opener children line)) =
      state.enter (.block opener (children ++ scope) line) := by
  induction scope generalizing children with
  | nil => simp
  | cons tree rest ih => simpa [settle, enter] using ih (children ++ [tree])

theorem foldl_settle_top {state : OpenForest} (closed : state.stack = []) (scope : Forest) :
    scope.foldl settle state = { state with top := scope.foldl TopLevel.addTree state.top } := by
  induction scope generalizing state with
  | nil => rfl
  | cons tree rest ih =>
    have settled : state.settle tree = { state with top := state.top.addTree tree } := by
      simp [settle, closed]
    rw [List.foldl_cons, settled]
    exact ih closed

def Ready (state : OpenForest) : Prop :=
  match state.stack with
  | [] => state.line = []
  | .collection _ _ :: _ => False
  | .block _ _ line :: _ => line = []

theorem Ready.breakLine {state : OpenForest} (ready : state.Ready) : state.breakLine = state := by
  obtain ⟨keepTrivia, _ | ⟨_ | _, below⟩, top, line⟩ := state
  · cases ready
    simp [OpenForest.breakLine]
  · cases ready
  · cases ready
    simp [OpenForest.breakLine]

theorem Ready.settle {state : OpenForest} (ready : state.Ready) (tree : Tree) : (state.settle tree).Ready := by
  obtain ⟨keepTrivia, _ | ⟨_ | _, below⟩, top, line⟩ := state <;> exact ready

theorem Ready.breakLine_attachAll {state : OpenForest} (ready : state.Ready) {trees : Forest}
    (significant : trees.any Tree.isSignificant = true) :
    (state.attachAll trees).breakLine = state.settle (.unit .line trees) := by
  obtain ⟨keepTrivia, _ | ⟨_ | _, below⟩, top, line⟩ := state
  · cases ready
    simp [OpenForest.breakLine, attachAll, OpenForest.settle, TopLevel.addLine, significant, TopLevel.addTree]
  · cases ready
  · cases ready
    simp [OpenForest.breakLine, attachAll, OpenForest.settle, Forest.addLine, significant]

theorem pushAll_word (state : OpenForest) {token : Token} (plain : token.role = .plain)
    (significant : token.isTrivia = false) (rest : TokenList) :
    state.pushAll (token :: rest) = (state.attach (.leaf token)).pushAll rest := by
  simp [pushAll, push, fault?, absorb, plain, significant]

theorem pushAll_separator (state : OpenForest) {token : Token} (separates : token.role = .separator)
    (rest : TokenList) :
    state.pushAll (token :: rest) = (state.attach (.leaf token)).breakLine.pushAll rest := by
  have significant : token.isTrivia = false := Token.isTrivia_of_role_ne_plain (by simp [separates])
  simp [pushAll, push, fault?, absorb, separates, significant]

theorem pushAll_paren (state : OpenForest) {opener : Token} (opens : opener.role = .opener .paren)
    (rest : TokenList) :
    state.pushAll (opener :: rest) = (state.enter (.collection opener [])).pushAll rest := by
  have significant : opener.isTrivia = false := Token.isTrivia_of_role_ne_plain (by simp [opens])
  simp [pushAll, push, fault?, absorb, opens, significant]

theorem pushAll_brace (state : OpenForest) {opener : Token} (opens : opener.role = .opener .brace)
    (rest : TokenList) :
    state.pushAll (opener :: rest) = (state.breakLine.enter (.block opener [] [])).pushAll rest := by
  have significant : opener.isTrivia = false := Token.isTrivia_of_role_ne_plain (by simp [opens])
  simp [pushAll, push, fault?, absorb, opens, significant]

-- A closer ends the unfinished line of its unit, so it does not matter whether that was ended before.
theorem pushAll_closer {state outer : OpenForest} {frame : Frame} (ended : state.breakLine = outer.enter frame)
    {closer : Token} (closes : closer.role = .closer frame.delimiter) (rest : TokenList) :
    state.pushAll (closer :: rest) = ((outer.enter frame).leave (some closer)).pushAll rest := by
  have significant : closer.isTrivia = false := Token.isTrivia_of_role_ne_plain (by simp [closes])
  obtain ⟨keepTrivia, _ | ⟨_ | _, below⟩, top, line⟩ := state
  · cases congrArg OpenForest.stack ended
  · rw [← ended]
    cases congrArg OpenForest.stack ended
    simp [pushAll, push, fault?, absorb, closes, significant, OpenForest.breakLine]
  · rw [← ended]
    cases congrArg OpenForest.stack ended
    simp [pushAll, push, fault?, absorb, closes, significant, OpenForest.breakLine, leave, Frame.delimiter,
      Frame.closed]

def Attaches (tree : Tree) : Prop :=
  ∀ (state : OpenForest) (rest : TokenList),
    state.pushAll (tree.tokens ++ rest) = (state.attach tree).pushAll rest

theorem pushAll_items {items : Forest} (each : ∀ tree ∈ items, Attaches tree) (state : OpenForest)
    (rest : TokenList) : state.pushAll (Forest.tokens items ++ rest) = (state.attachAll items).pushAll rest := by
  induction items generalizing state with
  | nil => rw [attachAll_nil, Forest.tokens, List.nil_append]
  | cons tree more ih =>
    have later := ih fun other inside => each other (List.mem_cons_of_mem _ inside)
    rw [Forest.tokens, List.append_assoc, each tree List.mem_cons_self, later, attachAll_attach]

def Collects (tree : Tree) : Prop :=
  ∀ (state : OpenForest) (opener : Token) (children : Forest) (rest : TokenList),
    (state.enter (.collection opener children)).pushAll (tree.tokens ++ rest) =
      (state.enter (.collection opener (children ++ [tree]))).pushAll rest

theorem Attaches.collects {tree : Tree} (attaches : Attaches tree) : Collects tree :=
  fun state opener children rest => attaches (state.enter (.collection opener children)) rest

theorem pushAll_parts {parts : Forest} (each : ∀ tree ∈ parts, Collects tree) (state : OpenForest)
    (opener : Token) (children : Forest) (rest : TokenList) :
    (state.enter (.collection opener children)).pushAll (Forest.tokens parts ++ rest) =
      (state.enter (.collection opener (children ++ parts))).pushAll rest := by
  induction parts generalizing children with
  | nil => rw [Forest.tokens, List.nil_append, List.append_nil]
  | cons tree more ih =>
    have later := ih fun other inside => each other (List.mem_cons_of_mem _ inside)
    rw [Forest.tokens, List.append_assoc, each tree List.mem_cons_self, later, List.append_assoc]
    rfl

theorem attaches_collection {opener closer : Token} {parts : Forest} (opens : opener.role = .opener .paren)
    (each : ∀ tree ∈ parts, Collects tree) (closes : closer.role = .closer .paren) :
    Attaches (.unit .collection (.leaf opener :: (parts ++ [.leaf closer]))) := by
  intro state rest
  have entered := pushAll_parts each state opener [] (closer :: rest)
  have closed : (state.enter (.collection opener parts)).pushAll (closer :: rest) =
      ((state.enter (.collection opener parts)).leave (some closer)).pushAll rest :=
    pushAll_closer rfl closes rest
  simp only [Tree.tokens, Forest.tokens, Forest.tokens_append, List.cons_append, List.append_assoc,
    List.nil_append, List.append_nil]
  rw [pushAll_paren state opens, entered, List.nil_append, closed, leave_enter_collection]

-- In a scope of lines the tree is settled, up to an unfinished line if it is one. Only a block may be read where a line
-- is unfinished.
def Settles (tree : Tree) : Prop :=
  ∀ (state : OpenForest) (rest : TokenList),
    state.breakLine.Ready → state.Ready ∨ tree.kind? = some .block →
    ∃ next : OpenForest, state.pushAll (tree.tokens ++ rest) = next.pushAll rest ∧
      next.breakLine = state.breakLine.settle tree ∧ (tree.Unfinished ∨ next.Ready)

theorem pushAll_scope {scope : Forest} (each : ∀ tree ∈ scope, Settles tree) (follows : scope.IsChain Tree.Follows)
    {state : OpenForest} (lines : state.breakLine.Ready)
    (first : state.Ready ∨ ∀ tree ∈ scope.head?, tree.kind? = some .block) (rest : TokenList) :
    ∃ next : OpenForest, state.pushAll (Forest.tokens scope ++ rest) = next.pushAll rest ∧
      next.breakLine = scope.foldl settle state.breakLine := by
  induction scope generalizing state with
  | nil => exact ⟨state, rfl, rfl⟩
  | cons tree more ih =>
    obtain ⟨link, later⟩ := List.isChain_cons.1 follows
    obtain ⟨middle, pushed, settled, ended⟩ := each tree List.mem_cons_self state (Forest.tokens more ++ rest)
      lines (first.imp_right fun block => block tree rfl)
    -- If the tree left an unfinished line, the chain says that what comes next is a block, which ends it.
    have ready : middle.breakLine.Ready := settled ▸ lines.settle tree
    obtain ⟨next, done, whole⟩ := ih (fun other inside => each other (List.mem_cons_of_mem _ inside)) later ready
      (ended.symm.imp_right fun unfinished second head => link second head unfinished)
    refine ⟨next, ?_, ?_⟩
    · rw [Forest.tokens, List.append_assoc, pushed, done]
    · rw [whole, settled, List.foldl_cons]

theorem settles_line {items : Forest} {separator : Option Token} (each : ∀ tree ∈ items, Attaches tree)
    (separates : ∀ token ∈ separator, token.role = .separator) (apart : ∀ tree ∈ items, ¬ tree.IsSeparator)
    (significant : (items ++ separator.toList.map Tree.leaf).any Tree.isSignificant = true) :
    Settles (.unit .line (items ++ separator.toList.map .leaf)) := by
  rintro state rest - (ready | block)
  case inr => simp [Tree.kind?] at block
  have ended := ready.breakLine_attachAll significant
  cases separator with
  | none =>
    simp only [Option.toList_none, List.map_nil, List.append_nil] at ended ⊢
    refine ⟨state.attachAll items, ?_, ?_, .inl apart⟩
    · rw [Tree.tokens, pushAll_items each]
    · rw [ended, ready.breakLine]
  | some token =>
    simp only [Option.toList_some, List.map_cons, List.map_nil] at ended ⊢
    have settled : (state.settle (.unit .line (items ++ [.leaf token]))).Ready := ready.settle _
    refine ⟨state.settle (.unit .line (items ++ [.leaf token])), ?_, ?_, .inr settled⟩
    · simp only [Tree.tokens, Forest.tokens, Forest.tokens_append, List.append_assoc, List.nil_append,
        List.cons_append]
      rw [pushAll_items each, pushAll_separator _ (separates token rfl), attach_attachAll, ended]
    · rw [settled.breakLine, ready.breakLine]

theorem pushAll_block {opener closer : Token} {scope : Forest} (opens : opener.role = .opener .brace)
    (each : ∀ tree ∈ scope, Settles tree) (follows : scope.IsChain Tree.Follows)
    (closes : closer.role = .closer .brace) (state : OpenForest) (rest : TokenList) :
    let block := Tree.unit .block (.leaf opener :: (scope ++ [.leaf closer]))
    state.pushAll (block.tokens ++ rest) = (state.breakLine.settle block).pushAll rest := by
  intro block
  have ready : (state.breakLine.enter (.block opener [] [])).Ready := rfl
  have ended := ready.breakLine
  obtain ⟨next, inside, whole⟩ := pushAll_scope each follows (ended.symm ▸ ready) (.inl ready) (closer :: rest)
  rw [ended, foldl_settle_block, List.nil_append] at whole
  simp only [block, Tree.tokens, Forest.tokens, Forest.tokens_append, List.cons_append, List.append_assoc,
    List.nil_append, List.append_nil]
  rw [pushAll_brace state opens, inside, pushAll_closer whole closes, leave_enter_block]

def Regroups (tree : Tree) : UnitKind → Prop
  | .line => Attaches tree
  | .collection => Collects tree
  | .block => Settles tree

theorem Attaches.regroups {tree : Tree} (attaches : Attaches tree) {kind : UnitKind} (apart : kind ≠ .block) :
    Regroups tree kind := by
  cases kind with
  | line => exact attaches
  | collection => exact attaches.collects
  | block => exact absurd rfl apart

theorem regroups_block {kind : UnitKind} (apart : kind ≠ .line) {children : Forest}
    (pushed : ∀ (state : OpenForest) (rest : TokenList),
      state.pushAll ((Tree.unit .block children).tokens ++ rest) =
        (state.breakLine.settle (.unit .block children)).pushAll rest) :
    Regroups (.unit .block children) kind := by
  cases kind with
  | line => exact absurd rfl apart
  | collection => exact fun state opener siblings rest => pushed (state.enter (.collection opener siblings)) rest
  | block =>
    intro state rest lines _
    have settled : (state.breakLine.settle (.unit .block children)).Ready := lines.settle _
    exact ⟨_, pushed state rest, settled.breakLine, .inr settled⟩

end OpenForest

open OpenForest in
theorem Tree.Fits.regroups {kind : UnitKind} {tree : Tree} (fits : tree.Fits kind) :
    Regroups tree kind := by
  induction fits with
  | word apart plain significant =>
    have attaches : Attaches (.leaf _) := fun state rest => state.pushAll_word plain significant rest
    exact attaches.regroups apart
  | separator separates =>
    exact fun state opener children rest =>
      (state.enter (.collection opener children)).pushAll_separator separates rest
  | @line items separator inside separates nonempty attaches =>
    have significant : (items ++ separator.toList.map Tree.leaf).any Tree.isSignificant = true := by
      obtain ⟨tree, member⟩ := List.exists_mem_of_ne_nil _ nonempty
      refine List.any_eq_true.2 ⟨tree, member, ?_⟩
      rcases List.mem_append.1 member with item | last
      · exact (inside tree item).isSignificant
      · obtain ⟨token, some, rfl⟩ := List.mem_map.1 last
        exact Forest.significant_leaf (by simp [separates token (Option.mem_toList.1 some)])
    exact settles_line attaches separates (fun tree item => (inside tree item).not_isSeparator) significant
  | collection apart opens _ closes collects => exact (attaches_collection opens collects closes).regroups apart
  | block apart opens _ follows closes settles =>
    exact regroups_block apart (pushAll_block opens settles follows closes)

namespace Forest

/-- Grouping undoes flattening. -/
theorem ofTokens_tokens (keepTrivia : Bool) {forest : Forest} (wellFormed : forest.WellFormed) :
    ofTokens keepTrivia (Forest.tokens forest) = .ok forest ∧
      recover keepTrivia (Forest.tokens forest) = ⟨forest, []⟩ := by
  have ready : (OpenForest.empty keepTrivia).Ready := rfl
  have same := ready.breakLine
  obtain ⟨last, pushed, ended⟩ := OpenForest.pushAll_scope (fun tree inside => (wellFormed.1 tree inside).regroups)
    wellFormed.2 (same.symm ▸ ready) (.inl ready) []
  rw [same, OpenForest.foldl_settle_top rfl] at ended
  have closed : last.stack = [] := by
    have counted := last.openCount_breakLine
    simpa [ended, OpenForest.openCount, OpenForest.empty, eq_comm] using counted
  have whole : last.forest = forest := by
    have clean (trivia : Forest) (same : TopLevel.leading [] = .leading trivia) : trivia = [] := by
      cases same
      rfl
    have units := TopLevel.forest_addTrees (fun tree inside => (wellFormed.1 tree inside).isUnit) clean
    have finished : last.forest = last.breakLine.top.forest := by
      simp [OpenForest.forest, OpenForest.breakLine, closed]
    rw [finished, ended]
    exact units
  have grouped : ofTokens keepTrivia (Forest.tokens forest) = .ok forest := by
    rw [List.append_nil] at pushed
    simp [ofTokens, pushed, OpenForest.pushAll, OpenForest.finish, OpenForest.unclosed?, closed, whole]
  exact ⟨grouped, recover_of_ofTokens grouped⟩

theorem ofTokens_tokens_nested :
    let word : Token := ⟨.name .unflavoured, "a", ⟨1, 1⟩⟩
    let mark (text : String) : Token := ⟨.punctuation .unflavoured, text, ⟨1, 1⟩⟩
    let block (scope : Forest) : Tree := .unit .block (.leaf (mark "\x7b") :: (scope ++ [.leaf (mark "\x7d")]))
    let collection : Tree :=
      .unit .collection (.leaf (mark "(") :: ([block [], .leaf (mark ";")] ++ [.leaf (mark ")")]))
    let forest : Forest :=
      [.unit .line [.leaf word, collection],
        block [.unit .line [.leaf word, .leaf (mark ";")], .unit .line [.leaf word]]]
    forest.WellFormed ∧ ofTokens false (Forest.tokens forest) = .ok forest ∧
      recover false (Forest.tokens forest) = ⟨forest, []⟩ := by
  intro word mark block collection forest
  have separates : (mark ";").role = .separator := by decide
  have plain : (Tree.leaf word).Fits .line := .word (by simp) (by decide) (by decide)
  have braces {kind : UnitKind} (apart : kind ≠ .line) {scope : Forest} (inner : scope.WellFormed) :
      (block scope).Fits kind := .block apart (by decide) inner.1 inner.2 (by decide)
  have unfinished (items : Forest) (inside : ∀ tree ∈ items, tree.Fits .line) (nonempty : items ≠ []) :
      (Tree.unit .line (items ++ (none : Option Token).toList.map .leaf)).Fits .block :=
    .line inside (by simp) (by simp [nonempty])
  have ended (items : Forest) (inside : ∀ tree ∈ items, tree.Fits .line) :
      (Tree.unit .line (items ++ (some (mark ";")).toList.map .leaf)).Fits .block :=
    .line inside (by simp [separates]) (by simp)
  have parens : collection.Fits .line := by
    have empty : Forest.WellFormed [] := ⟨by simp, .nil⟩
    have inside : (block []).Fits .collection := braces (by simp) empty
    exact .collection (by simp) (by decide) (by simpa using ⟨inside, .separator separates⟩) (by decide)
  have lines : Forest.WellFormed [.unit .line [.leaf word, .leaf (mark ";")], .unit .line [.leaf word]] := by
    have first : (Tree.unit .line [.leaf word, .leaf (mark ";")]).Fits .block :=
      ended [.leaf word] (by simpa using plain)
    have last : (Tree.unit .line [.leaf word]).Fits .block :=
      unfinished [.leaf word] (by simpa using plain) (by simp)
    refine ⟨by simpa using ⟨first, last⟩, .cons_cons (fun unfinished => ?_) (.singleton _)⟩
    exact absurd separates (unfinished (.leaf (mark ";")) (by simp))
  have wellFormed : forest.WellFormed := by
    have first : (Tree.unit .line [.leaf word, collection]).Fits .block :=
      unfinished [.leaf word, collection] (by simpa using ⟨plain, parens⟩) (by simp)
    have last : (block _).Fits .block := braces (by simp) lines
    exact ⟨by simpa [forest] using ⟨first, last⟩, .cons_cons (fun _ => rfl) (.singleton _)⟩
  exact ⟨wellFormed, ofTokens_tokens false wellFormed⟩

end Forest

end TokenForest
