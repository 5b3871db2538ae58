import TokenForest.Proofs.Forest.Run

set_option autoImplicit false

namespace TokenForest

theorem TokenList.significant_of_trivia {token : Token} (trivia : token.isTrivia = true) (rest : TokenList) :
    significant (token :: rest) = significant rest :=
  List.filter_cons_of_neg (by simp [trivia])

theorem TokenList.significant_cons {token : Token} (significant : token.isTrivia = false) (rest : TokenList) :
    TokenList.significant (token :: rest) = token :: TokenList.significant rest :=
  List.filter_cons_of_pos (by simp [significant])

mutual

def Tree.pruned : Tree → Forest
  | .leaf token => if token.isTrivia then [] else [.leaf token]
  | .unit kind children =>
    match Forest.pruned children with
    | [] => []
    | first :: rest => [.unit kind (first :: rest)]

/-- The forest without its trivia leaves, and without the units that are left with no children. -/
def Forest.pruned : List Tree → Forest
  | [] => []
  | tree :: rest => tree.pruned ++ Forest.pruned rest

end

namespace Forest

@[simp] theorem pruned_append (front back : Forest) : pruned (front ++ back) = pruned front ++ pruned back := by
  induction front with
  | nil => rfl
  | cons tree rest ih => simp [pruned, ih]

theorem pruned_leaf {token : Token} (significant : token.isTrivia = false) :
    pruned [.leaf token] = [.leaf token] := by
  simp [pruned, Tree.pruned, significant]

theorem pruned_trivia {token : Token} (trivia : token.isTrivia = true) : pruned [.leaf token] = [] := by
  simp [pruned, Tree.pruned, trivia]

theorem pruned_unit (kind : UnitKind) {children : Forest} (nonempty : pruned children ≠ []) :
    pruned [.unit kind children] = [.unit kind (pruned children)] := by
  obtain ⟨first, rest, some⟩ := List.exists_cons_of_ne_nil nonempty
  simp [pruned, Tree.pruned, some]

theorem pruned_unit_of_nil (kind : UnitKind) {children : Forest} (none : pruned children = []) :
    pruned [.unit kind children] = [] := by
  simp only [pruned, Tree.pruned, none, List.append_nil]

theorem significant_of_mem_pruned {forest : Forest} :
    ∀ tree ∈ pruned forest, tree.isSignificant = true := by
  induction forest with
  | nil => simp [pruned]
  | cons first rest ih =>
    intro tree inside
    rcases List.mem_append.1 inside with own | later
    · cases first with
      | leaf token =>
        cases trivia : token.isTrivia <;> simp_all [Tree.pruned, Tree.isSignificant]
      | unit kind children =>
        simp only [Tree.pruned] at own
        split at own
        · cases own
        · cases List.mem_singleton.1 own
          rfl
    · exact ih tree later

def Substantial (forest : Forest) : Prop :=
  ∀ tree ∈ forest, tree.isSignificant = true → pruned [tree] ≠ []

theorem Substantial.concat {line : Forest} (substantial : Substantial line) {tree : Tree}
    (left : tree.isSignificant = true → pruned [tree] ≠ []) : Substantial (line ++ [tree]) := by
  intro other inside
  rcases List.mem_append.1 inside with earlier | last
  · exact substantial other earlier
  · cases List.mem_singleton.1 last
    exact left

theorem pruned_of_trivia {line : Forest} (trivia : line.any Tree.isSignificant = false) : pruned line = [] := by
  induction line with
  | nil => rfl
  | cons tree rest ih =>
    simp only [List.any_cons, Bool.or_eq_false_iff] at trivia
    cases tree with
    | unit => cases trivia.1
    | leaf token =>
      have own : token.isTrivia = true := by simpa [Tree.isSignificant] using trivia.1
      simp [pruned, Tree.pruned, own, ih trivia.2]

theorem Substantial.pruned_ne_nil {line : Forest} (substantial : Substantial line)
    (significant : line.any Tree.isSignificant = true) : pruned line ≠ [] := by
  obtain ⟨tree, inside, kept⟩ := List.any_eq_true.1 significant
  obtain ⟨front, back, rfl⟩ := List.append_of_mem inside
  have left := substantial tree inside kept
  have split : front ++ tree :: back = front ++ [tree] ++ back := by simp
  rw [split, pruned_append, pruned_append]
  simp [left]

theorem Substantial.any_pruned {line : Forest} (substantial : Substantial line) :
    (pruned line).any Tree.isSignificant = line.any Tree.isSignificant := by
  cases significant : line.any Tree.isSignificant with
  | false => simp [pruned_of_trivia significant]
  | true =>
    obtain ⟨tree, inside⟩ := List.exists_mem_of_ne_nil _ (substantial.pruned_ne_nil significant)
    exact List.any_eq_true.2 ⟨tree, inside, significant_of_mem_pruned tree inside⟩

theorem pruned_addLine (children : Forest) {line : Forest} (substantial : Substantial line) :
    pruned (addLine children line) = addLine (pruned children) (pruned line) := by
  unfold addLine
  rw [substantial.any_pruned]
  split
  · next significant => simp [pruned_unit .line (substantial.pruned_ne_nil significant)]
  · simp

end Forest

namespace TopLevel

def pruned : TopLevel → TopLevel
  | leading trivia => leading (Forest.pruned trivia)
  | units earlier kind children => units (Forest.pruned earlier) kind (Forest.pruned children)

def Substantial : TopLevel → Prop
  | leading _ => True
  | units _ _ children => Forest.pruned children ≠ []

theorem pruned_addUnit {top : TopLevel} (substantial : top.Substantial) (kind : UnitKind) (children : Forest) :
    (top.addUnit kind children).pruned = top.pruned.addUnit kind (Forest.pruned children) := by
  cases top with
  | leading => simp [pruned, addUnit, Forest.pruned]
  | units earlier latest below => simp [pruned, addUnit, Forest.pruned_unit latest substantial]

theorem substantial_addUnit (top : TopLevel) (kind : UnitKind) {children : Forest}
    (nonempty : Forest.pruned children ≠ []) : (top.addUnit kind children).Substantial := by
  cases top <;> simp [Substantial, addUnit, nonempty]

theorem pruned_addLine {top : TopLevel} (substantial : top.Substantial) {line : Forest} (part : line.Substantial) :
    (top.addLine line).pruned = top.pruned.addLine (Forest.pruned line) := by
  unfold addLine
  rw [part.any_pruned]
  split
  · exact pruned_addUnit substantial .line line
  · cases top <;> simp [pruned, addTrivia]

theorem Substantial.addLine {top : TopLevel} (substantial : top.Substantial) {line : Forest}
    (part : line.Substantial) : (top.addLine line).Substantial := by
  unfold TopLevel.addLine
  split
  · next significant => exact top.substantial_addUnit .line (part.pruned_ne_nil significant)
  · cases top with
    | leading => trivial
    | units => exact fun none => substantial (List.append_eq_nil_iff.1 (by simpa using none)).1

theorem pruned_forest {top : TopLevel} (substantial : top.Substantial) :
    Forest.pruned top.forest = top.pruned.forest := by
  match top with
  | leading [] => rfl
  | leading (tree :: rest) =>
    cases left : Forest.pruned (tree :: rest) with
    | nil => simp only [forest, pruned, left, Forest.pruned_unit_of_nil .line left]
    | cons first others => simp only [forest, pruned, Forest.pruned_unit .line (left ▸ List.cons_ne_nil _ _), left]
  | units earlier kind children => simp [forest, pruned, Forest.pruned_unit kind substantial]

end TopLevel

namespace Frame

def pruned : Frame → Frame
  | collection opener children => collection opener (Forest.pruned children)
  | block opener children line => block opener (Forest.pruned children) (Forest.pruned line)

def Substantial : Frame → Prop
  | collection opener _ => opener.isTrivia = false
  | block opener _ line => opener.isTrivia = false ∧ line.Substantial

@[simp] theorem delimiter_pruned (frame : Frame) : frame.pruned.delimiter = frame.delimiter := by
  cases frame <;> rfl

@[simp] theorem opener_pruned (frame : Frame) : frame.pruned.opener = frame.opener := by
  cases frame <;> rfl

theorem pruned_closed {frame : Frame} (substantial : frame.Substantial) {closer : Option Token}
    (closes : ∀ token ∈ closer, token.isTrivia = false) :
    Forest.pruned (frame.closed closer) = frame.pruned.closed closer := by
  have last : Forest.pruned (closer.toList.map .leaf) = closer.toList.map .leaf := by
    cases closer with
    | none => rfl
    | some token => exact Forest.pruned_leaf (closes token rfl)
  cases frame with
  | collection opener children =>
    simp only [closed, pruned, Forest.pruned_append, Forest.pruned_leaf substantial, last]
  | block opener children line =>
    simp only [closed, pruned, Forest.pruned_append, Forest.pruned_leaf substantial.1,
      Forest.pruned_addLine children substantial.2, last]

theorem closed_ne_nil (frame : Frame) (closer : Option Token) : frame.closed closer ≠ [] := by
  cases frame <;> simp [closed]

end Frame

namespace OpenForest

def pruned (keepTrivia : Bool) (state : OpenForest) : OpenForest :=
  ⟨keepTrivia, state.stack.map Frame.pruned, state.top.pruned, Forest.pruned state.line⟩

structure Substantial (state : OpenForest) : Prop where
  stack : ∀ frame ∈ state.stack, frame.Substantial
  top : state.top.Substantial
  line : state.line.Substantial

theorem substantial_empty (keepTrivia : Bool) : (empty keepTrivia).Substantial :=
  ⟨by simp [empty], trivial, by simp [empty, Forest.Substantial]⟩

theorem pruned_empty (keepTrivia before : Bool) : (empty before).pruned keepTrivia = empty keepTrivia := by
  simp [pruned, empty, TopLevel.pruned, Forest.pruned]

@[simp] theorem openCount_pruned (keepTrivia : Bool) (state : OpenForest) :
    (state.pruned keepTrivia).openCount = state.openCount := by
  simp [pruned, openCount]

@[simp] theorem unclosed?_pruned (keepTrivia : Bool) (state : OpenForest) :
    (state.pruned keepTrivia).unclosed? = state.unclosed? := by
  cases stack : state.stack <;> simp [unclosed?, openCount, pruned, stack]

theorem pruned_attach (keepTrivia : Bool) (state : OpenForest) {tree part : Tree}
    (left : Forest.pruned [tree] = [part]) :
    (state.attach tree).pruned keepTrivia = (state.pruned keepTrivia).attach part := by
  obtain ⟨before, _ | ⟨_ | _, below⟩, top, line⟩ := state <;> simp [attach, pruned, Frame.pruned, left]

theorem pruned_attach_trivia (keepTrivia : Bool) (state : OpenForest) {token : Token}
    (trivia : token.isTrivia = true) :
    (state.attach (.leaf token)).pruned keepTrivia = state.pruned keepTrivia := by
  have gone := Forest.pruned_trivia trivia
  obtain ⟨before, _ | ⟨_ | _, below⟩, top, line⟩ := state <;> simp [attach, pruned, Frame.pruned, gone]

theorem pruned_enter (keepTrivia : Bool) (state : OpenForest) (frame : Frame) :
    (state.enter frame).pruned keepTrivia = (state.pruned keepTrivia).enter frame.pruned := by
  simp [enter, pruned]

namespace Substantial

variable {state : OpenForest}

theorem attach (substantial : state.Substantial) {tree : Tree}
    (left : tree.isSignificant = true → Forest.pruned [tree] ≠ []) : (state.attach tree).Substantial := by
  obtain ⟨keepTrivia, stack, top, line⟩ := state
  match stack with
  | [] => exact { substantial with line := substantial.line.concat left }
  | .collection opener children :: below =>
    obtain ⟨innermost, outer⟩ := List.forall_mem_cons.1 substantial.stack
    exact { substantial with stack := List.forall_mem_cons.2 ⟨innermost, outer⟩ }
  | .block opener children line :: below =>
    obtain ⟨⟨significant, part⟩, outer⟩ := List.forall_mem_cons.1 substantial.stack
    exact { substantial with stack := List.forall_mem_cons.2 ⟨⟨significant, part.concat left⟩, outer⟩ }

theorem attach_leaf (substantial : state.Substantial) (token : Token) :
    (state.attach (.leaf token)).Substantial := by
  refine substantial.attach fun significant => ?_
  have kept : token.isTrivia = false := by simpa [Tree.isSignificant] using significant
  simp [Forest.pruned_leaf kept]

theorem breakLine (substantial : state.Substantial) : state.breakLine.Substantial := by
  obtain ⟨keepTrivia, stack, top, line⟩ := state
  match stack with
  | [] =>
    have none : Forest.Substantial [] := by simp [Forest.Substantial]
    exact ⟨substantial.stack, substantial.top.addLine substantial.line, none⟩
  | .collection _ _ :: _ => exact substantial
  | .block opener children line :: below =>
    obtain ⟨⟨significant, _⟩, outer⟩ := List.forall_mem_cons.1 substantial.stack
    have ended : (Frame.block opener (Forest.addLine children line) []).Substantial :=
      ⟨significant, by simp [Forest.Substantial]⟩
    exact { substantial with stack := List.forall_mem_cons.2 ⟨ended, outer⟩ }

theorem pruned_breakLine (substantial : state.Substantial) (keepTrivia : Bool) :
    state.breakLine.pruned keepTrivia = (state.pruned keepTrivia).breakLine := by
  obtain ⟨before, stack, top, line⟩ := state
  match stack with
  | [] => simp [OpenForest.breakLine, pruned, TopLevel.pruned_addLine substantial.top substantial.line, Forest.pruned]
  | .collection _ _ :: _ => rfl
  | .block opener children line :: below =>
    have part : line.Substantial := (substantial.stack _ List.mem_cons_self).2
    simp [OpenForest.breakLine, pruned, Frame.pruned, Forest.pruned_addLine children part, Forest.pruned]

theorem enter (substantial : state.Substantial) {frame : Frame} (inner : frame.Substantial) :
    (state.enter frame).Substantial :=
  { substantial with stack := List.forall_mem_cons.2 ⟨inner, substantial.stack⟩ }

theorem attachBlock (substantial : state.Substantial) {children : Forest} (nonempty : Forest.pruned children ≠ []) :
    (state.attachBlock children).Substantial := by
  obtain ⟨keepTrivia, stack, top, line⟩ := state
  match stack with
  | [] => exact { substantial with top := top.substantial_addUnit .block nonempty }
  | .collection opener siblings :: below | .block opener siblings line :: below =>
    obtain ⟨innermost, outer⟩ := List.forall_mem_cons.1 substantial.stack
    exact { substantial with stack := List.forall_mem_cons.2 ⟨innermost, outer⟩ }

theorem pruned_attachBlock (substantial : state.Substantial) (keepTrivia : Bool) {children : Forest}
    (nonempty : Forest.pruned children ≠ []) :
    (state.attachBlock children).pruned keepTrivia =
      (state.pruned keepTrivia).attachBlock (Forest.pruned children) := by
  have unit := Forest.pruned_unit .block nonempty
  obtain ⟨before, _ | ⟨_ | _, below⟩, top, line⟩ := state
  · simp [OpenForest.attachBlock, pruned, TopLevel.pruned_addUnit substantial.top]
  · simp [OpenForest.attachBlock, pruned, Frame.pruned, unit]
  · simp [OpenForest.attachBlock, pruned, Frame.pruned, unit]

theorem outer (substantial : state.Substantial) {frame : Frame} {below : List Frame}
    (stack : state.stack = frame :: below) : ({ state with stack := below } : OpenForest).Substantial :=
  { substantial with stack := fun other inside => substantial.stack other (by simp [stack, inside]) }

theorem pruned_closed (substantial : state.Substantial) {frame : Frame} {below : List Frame}
    (stack : state.stack = frame :: below) {closer : Option Token} (closes : ∀ token ∈ closer, token.isTrivia = false) :
    Forest.pruned (frame.closed closer) = frame.pruned.closed closer :=
  Frame.pruned_closed (substantial.stack frame (by simp [stack])) closes

theorem leave (substantial : state.Substantial) {closer : Option Token}
    (closes : ∀ token ∈ closer, token.isTrivia = false) : (state.leave closer).Substantial := by
  unfold OpenForest.leave
  split
  · exact substantial
  · next frame below stack =>
    have left : Forest.pruned (frame.closed closer) ≠ [] := by
      rw [substantial.pruned_closed stack closes]
      exact frame.pruned.closed_ne_nil closer
    cases frame.delimiter
    · exact (substantial.outer stack).attach fun _ => by simp [Forest.pruned_unit .collection left]
    · exact (substantial.outer stack).attachBlock left

theorem pruned_leave (substantial : state.Substantial) (keepTrivia : Bool) {closer : Option Token}
    (closes : ∀ token ∈ closer, token.isTrivia = false) :
    (state.leave closer).pruned keepTrivia = (state.pruned keepTrivia).leave closer := by
  cases stack : state.stack with
  | nil => simp [OpenForest.leave, pruned, stack]
  | cons frame below =>
    have whole := substantial.pruned_closed stack closes
    have left : Forest.pruned (frame.closed closer) ≠ [] := by
      rw [whole]
      exact frame.pruned.closed_ne_nil closer
    have after : (state.pruned keepTrivia).stack = frame.pruned :: below.map Frame.pruned := by simp [pruned, stack]
    simp only [OpenForest.leave, stack, after, Frame.delimiter_pruned, ← whole]
    cases frame.delimiter with
    | paren => exact pruned_attach keepTrivia _ (Forest.pruned_unit .collection left)
    | brace => exact (substantial.outer stack).pruned_attachBlock keepTrivia left

theorem leaveTimes (substantial : state.Substantial) (count : Nat) : (leaveTimes count state).Substantial := by
  induction count generalizing state with
  | zero => exact substantial
  | succ count ih => exact ih (substantial.leave (by simp))

theorem pruned_leaveTimes (substantial : state.Substantial) (keepTrivia : Bool) (count : Nat) :
    (OpenForest.leaveTimes count state).pruned keepTrivia = OpenForest.leaveTimes count (state.pruned keepTrivia) := by
  induction count generalizing state with
  | zero => rfl
  | succ count ih =>
    have left : (state.leave none).pruned keepTrivia = (state.pruned keepTrivia).leave none :=
      substantial.pruned_leave keepTrivia (by simp)
    rw [OpenForest.leaveTimes, OpenForest.leaveTimes, ih (substantial.leave (by simp)), left]

theorem pruned_forest (substantial : state.Substantial) (keepTrivia : Bool) :
    Forest.pruned state.forest = (state.pruned keepTrivia).forest := by
  rw [OpenForest.forest, TopLevel.pruned_forest (substantial.top.addLine substantial.line),
    TopLevel.pruned_addLine substantial.top substantial.line]
  rfl

theorem finishLenient_pruned (substantial : state.Substantial) (keepTrivia : Bool) :
    (state.pruned keepTrivia).finishLenient = (Forest.pruned state.finishLenient.1, state.finishLenient.2) := by
  rw [finishLenient, finishLenient, openCount_pruned, unclosed?_pruned, ← substantial.pruned_leaveTimes keepTrivia,
    (substantial.leaveTimes _).pruned_forest keepTrivia]

end Substantial

theorem Effect.substantial {state next : OpenForest} {token : Token} {mode : Mode}
    {error : Option StructureError} (effect : Effect state token mode next error)
    (substantial : state.Substantial) : next.Substantial := by
  cases effect with
  | refused | dropped => exact substantial
  | misfit | plain => exact substantial.attach_leaf token
  | separator => exact (substantial.attach_leaf token).breakLine
  | collection role => exact substantial.enter (Token.isTrivia_of_role_ne_plain (by simp [role]))
  | block role =>
    exact substantial.breakLine.enter ⟨Token.isTrivia_of_role_ne_plain (by simp [role]), by simp [Forest.Substantial]⟩
  | closed role =>
    have significant : token.isTrivia = false := Token.isTrivia_of_role_ne_plain (by simp [role])
    exact substantial.leave (by simpa using significant)

theorem Substantial.run {state : OpenForest} (substantial : state.Substantial) (offers : List Offer) :
    (state.run offers).Substantial :=
  run_induction Effect.substantial substantial offers

theorem fault?_pruned (keepTrivia : Bool) (state : OpenForest) (token : Token) :
    (state.pruned keepTrivia).fault? token = state.fault? token := by
  unfold fault?
  cases stack : state.stack <;> simp [pruned, stack]

theorem pushLenient_trivia (state : OpenForest) {token : Token} (trivia : token.isTrivia = true) :
    state.pushLenient token = (if state.keepTrivia then state.attach (.leaf token) else state, none) := by
  have plain := Token.role_of_isTrivia trivia
  cases kept : state.keepTrivia <;> simp [pushLenient, fault?, absorb, trivia, plain, kept]

theorem Substantial.absorb_pruned {state : OpenForest} (substantial : state.Substantial) (keepTrivia : Bool)
    {token : Token} (significant : token.isTrivia = false) :
    (state.pruned keepTrivia).absorb token = (state.absorb token).pruned keepTrivia := by
  have leaf := pruned_attach keepTrivia state (Forest.pruned_leaf significant)
  unfold absorb
  simp only [significant, Bool.false_and, Bool.false_eq_true, if_false]
  split
  · rw [pruned_enter]
    rfl
  · rw [pruned_enter, substantial.pruned_breakLine]
    rfl
  · rw [substantial.pruned_leave keepTrivia (by simpa using significant)]
  · rw [(substantial.attach_leaf token).pruned_breakLine, leaf]
  · rw [leaf]

theorem Substantial.pushLenient_pruned {state : OpenForest} (substantial : state.Substantial) (keepTrivia : Bool)
    {token : Token} (significant : token.isTrivia = false) :
    (state.pruned keepTrivia).pushLenient token =
      ((state.pushLenient token).1.pruned keepTrivia, (state.pushLenient token).2) := by
  have leaf := pruned_attach keepTrivia state (Forest.pruned_leaf significant)
  unfold pushLenient
  rw [fault?_pruned]
  cases state.fault? token with
  | some error => rw [leaf]
  | none => rw [substantial.absorb_pruned keepTrivia significant]

theorem Substantial.pushAllLenient_pruned {state : OpenForest} (substantial : state.Substantial) (keepTrivia : Bool)
    (tokens : TokenList) :
    (state.pruned keepTrivia).pushAllLenient tokens.significant =
      ((state.pushAllLenient tokens).1.pruned keepTrivia, (state.pushAllLenient tokens).2) := by
  induction tokens generalizing state with
  | nil => rfl
  | cons token rest ih =>
    have next : (state.pushLenient token).1.Substantial :=
      (state.offer_effect .lenient token).substantial substantial
    cases trivia : token.isTrivia with
    | true =>
      have same : (state.pushLenient token).1.pruned keepTrivia = state.pruned keepTrivia := by
        rw [pushLenient_trivia state trivia]
        cases state.keepTrivia
        · rfl
        · exact pruned_attach_trivia keepTrivia state trivia
      have none : (state.pushLenient token).2 = none := by rw [pushLenient_trivia state trivia]
      have later := ih next
      rw [same] at later
      simp [TokenList.significant_of_trivia trivia, pushAllLenient, none, later]
    | false =>
      rw [TokenList.significant_cons trivia]
      simp only [pushAllLenient, substantial.pushLenient_pruned keepTrivia trivia, ih next]

theorem pushAllLenient_significant {state : OpenForest} (off : state.keepTrivia = false) (tokens : TokenList) :
    state.pushAllLenient tokens.significant = state.pushAllLenient tokens := by
  induction tokens generalizing state with
  | nil => rfl
  | cons token rest ih =>
    have next : (state.pushLenient token).1.keepTrivia = false := by
      rw [← off]
      exact (state.offer_effect .lenient token).keepTrivia
    cases trivia : token.isTrivia with
    | true =>
      have same : state.pushLenient token = (state, none) := by simp [pushLenient_trivia state trivia, off]
      simp [TokenList.significant_of_trivia trivia, pushAllLenient, same, ih off]
    | false =>
      rw [TokenList.significant_cons trivia]
      simp only [pushAllLenient, ih next]

end OpenForest

namespace Forest

theorem recover_significant (keepTrivia before : Bool) (tokens : TokenList) :
    recover keepTrivia tokens.significant =
      ⟨pruned (recover before tokens).forest, (recover before tokens).errors⟩ := by
  have start := OpenForest.substantial_empty before
  have lockstep := start.pushAllLenient_pruned keepTrivia tokens
  rw [OpenForest.pruned_empty] at lockstep
  have last : ((OpenForest.empty before).pushAllLenient tokens).1.Substantial := by
    rw [← (OpenForest.run_of_pushAllLenient _ tokens).1]
    exact start.run _
  simp only [recover, lockstep, last.finishLenient_pruned]

/-- Trivia does not influence the grouping: the forest of a stream without it is the pruned forest of the stream,
whether trivia is kept or not, and the faults are the same. -/
theorem trivia_irrelevant (tokens : TokenList) :
    ((recover true tokens).errors = (recover false tokens).errors ∧
      pruned (recover true tokens).forest = (recover false tokens).forest ∧
      ∀ keepTrivia, (recover keepTrivia tokens.significant).forest = (recover false tokens).forest) ∧
    (ofTokens true tokens).map pruned = ofTokens false tokens ∧
      ∀ keepTrivia, ofTokens keepTrivia tokens.significant = ofTokens false tokens := by
  have dropped : recover false tokens.significant = recover false tokens := by
    simp only [recover, OpenForest.pushAllLenient_significant (rfl : (OpenForest.empty false).keepTrivia = false)]
  have same : Structured.mk (pruned (recover true tokens).forest) (recover true tokens).errors = recover false tokens :=
    (recover_significant false true tokens).symm.trans dropped
  have filtered (keepTrivia : Bool) : recover keepTrivia tokens.significant = recover false tokens :=
    (recover_significant keepTrivia true tokens).trans same
  refine ⟨⟨?_, ?_, fun keepTrivia => ?_⟩, ?_, fun keepTrivia => ?_⟩
  · rw [← same]
  · rw [← same]
  · rw [filtered]
  · rw [ofTokens_eq_strictly, ofTokens_eq_strictly, ← same]
    cases (recover true tokens).errors <;> rfl
  · rw [ofTokens_eq_strictly, ofTokens_eq_strictly, filtered]

end Forest

end TokenForest
