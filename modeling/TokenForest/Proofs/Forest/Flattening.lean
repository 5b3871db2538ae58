import TokenForest.Proofs.Forest.Run

set_option autoImplicit false

namespace TokenForest

def TopLevel.tokens : TopLevel → TokenList
  | leading trivia => Forest.tokens trivia
  | units earlier _ children => Forest.tokens earlier ++ Forest.tokens children

@[simp] theorem TopLevel.tokens_addUnit (top : TopLevel) (kind : UnitKind) (children : Forest) :
    (top.addUnit kind children).tokens = top.tokens ++ Forest.tokens children := by
  cases top <;> simp [addUnit, tokens, Forest.tokens, Tree.tokens]

@[simp] theorem TopLevel.tokens_addTrivia (top : TopLevel) (trivia : Forest) :
    (top.addTrivia trivia).tokens = top.tokens ++ Forest.tokens trivia := by
  cases top <;> simp [addTrivia, tokens]

@[simp] theorem TopLevel.tokens_addLine (top : TopLevel) (line : Forest) :
    (top.addLine line).tokens = top.tokens ++ Forest.tokens line := by
  unfold addLine
  split <;> simp

@[simp] theorem TopLevel.tokens_forest (top : TopLevel) : Forest.tokens top.forest = top.tokens := by
  match top with
  | leading [] => rfl
  | leading (tree :: rest) => simp [forest, tokens, Forest.tokens, Tree.tokens]
  | units earlier kind children => simp [forest, tokens, Forest.tokens, Tree.tokens]

@[simp] theorem Forest.tokens_addLine (children line : Forest) :
    tokens (addLine children line) = tokens children ++ tokens line := by
  unfold addLine
  split <;> simp [tokens, Tree.tokens]

@[simp] theorem Forest.tokens_map_leaf (leaves : TokenList) : tokens (leaves.map .leaf) = leaves := by
  induction leaves with
  | nil => rfl
  | cons token rest ih => simp [tokens, Tree.tokens, ih]

def Frame.tokens : Frame → TokenList
  | collection opener children => opener :: Forest.tokens children
  | block opener children line => opener :: (Forest.tokens children ++ Forest.tokens line)

theorem Frame.tokens_closed (frame : Frame) (closer : Option Token) :
    Forest.tokens (frame.closed closer) = frame.tokens ++ closer.toList := by
  cases frame <;> simp [closed, tokens, Forest.tokens, Tree.tokens]

namespace OpenForest

-- The stack has the innermost unit first, the stream the outermost.
def stackTokens : List Frame → TokenList
  | [] => []
  | frame :: below => stackTokens below ++ frame.tokens

def tokens (state : OpenForest) : TokenList :=
  state.top.tokens ++ Forest.tokens state.line ++ stackTokens state.stack

theorem tokens_attach (state : OpenForest) (tree : Tree) :
    (state.attach tree).tokens = state.tokens ++ tree.tokens := by
  unfold attach
  split <;> simp_all [tokens, stackTokens, Frame.tokens, Forest.tokens]

theorem tokens_breakLine (state : OpenForest) : state.breakLine.tokens = state.tokens := by
  unfold breakLine
  split <;> simp_all [tokens, stackTokens, Frame.tokens, Forest.tokens]

theorem tokens_enter (state : OpenForest) (frame : Frame) :
    (state.enter frame).tokens = state.tokens ++ frame.tokens := by
  simp [tokens, enter, stackTokens]

-- A block comes after the line beside it, which therefore has to be empty.
theorem tokens_attachBlock {state : OpenForest} (children : Forest)
    (ended : innerLine state.line state.stack = []) :
    (state.attachBlock children).tokens = state.tokens ++ Forest.tokens children := by
  unfold attachBlock
  split <;> simp_all [tokens, stackTokens, Frame.tokens, Forest.tokens, Tree.tokens, innerLine]

theorem tokens_leave {state : OpenForest} {frame : Frame} {below : List Frame} (steady : state.Steady)
    (stack : state.stack = frame :: below) (closer : Option Token) :
    (state.leave closer).tokens = state.tokens ++ closer.toList := by
  have split : state.tokens = ({ state with stack := below } : OpenForest).tokens ++ frame.tokens := by
    simp [tokens, stack, stackTokens]
  have children := frame.tokens_closed closer
  cases delimiter : frame.delimiter with
  | paren =>
    simp only [leave, stack, delimiter, tokens_attach, Tree.tokens, children, split, List.append_assoc]
  | brace =>
    -- The line beside the block was ended when the block was entered, so the order is kept.
    have ended : innerLine ({ state with stack := below } : OpenForest).line below = [] := steady.ended stack delimiter
    simp only [leave, stack, delimiter, tokens_attachBlock _ ended, children, split, List.append_assoc]

theorem tokens_leaveTimes {state : OpenForest} (steady : state.Steady) (count : Nat) :
    (leaveTimes count state).tokens = state.tokens := by
  induction count generalizing state with
  | zero => rfl
  | succ count ih =>
    rw [leaveTimes, ih (steady.leave none)]
    cases stack : state.stack with
    | nil => simp [leave, stack]
    | cons frame below => simpa using tokens_leave steady stack none

theorem tokens_finishLenient {state : OpenForest} (steady : state.Steady) :
    Forest.tokens state.finishLenient.1 = state.tokens := by
  rw [← tokens_leaveTimes steady state.openCount, tokens, stack_leaveTimes]
  simp [finishLenient, forest, stackTokens]

theorem Effect.tokens {state next : OpenForest} {token : Token} {mode : Mode}
    {error : Option StructureError} (effect : Effect state token mode next error)
    (steady : state.Steady) :
    next.tokens = state.tokens ++
      TokenList.kept state.keepTrivia (if mode = .strict ∧ error.isSome then [] else [token]) := by
  have held (role : token.role ≠ .plain) : TokenList.kept state.keepTrivia [token] = [token] := by
    simp [TokenList.kept_singleton, Token.isTrivia_of_role_ne_plain role]
  cases effect with
  | refused => simp [TokenList.kept_nil]
  | misfit fault role => simp [tokens_attach, Tree.tokens, held, role]
  | dropped trivia off => simp [TokenList.kept_singleton, trivia, off]
  | plain role kept => simp [tokens_attach, Tree.tokens, TokenList.kept_singleton, kept]
  | separator role => simp [tokens_breakLine, tokens_attach, Tree.tokens, held, role]
  | collection role => simp [tokens_enter, Frame.tokens, Forest.tokens, held, role]
  | block role => simp [tokens_enter, tokens_breakLine, Frame.tokens, Forest.tokens, held, role]
  | closed role stack => simp [tokens_leave steady stack, held, role]

theorem tokens_run {state : OpenForest} (steady : state.Steady) (offers : List Offer) :
    (state.run offers).tokens =
      state.tokens ++ TokenList.kept state.keepTrivia (state.accepted offers) := by
  induction offers generalizing state with
  | nil => simp [run, accepted, TokenList.kept_nil]
  | cons offer rest ih =>
    have effect := state.offer_effect offer.mode offer.token
    have later := ih (effect.steady steady)
    rw [effect.tokens steady, effect.keepTrivia, List.append_assoc, ← TokenList.kept_append] at later
    rw [run, later, accepted]

theorem tokens_finishLenient_run (keepTrivia : Bool) (offers : List Offer) :
    Forest.tokens ((empty keepTrivia).run offers).finishLenient.1 =
      TokenList.kept keepTrivia ((empty keepTrivia).accepted offers) := by
  rw [tokens_finishLenient ((steady_empty keepTrivia).run offers),
    tokens_run (steady_empty keepTrivia) offers]
  rfl

end OpenForest

theorem Forest.tokens_recover (keepTrivia : Bool) (tokens : TokenList) :
    Forest.tokens (recover keepTrivia tokens).forest = TokenList.kept keepTrivia tokens := by
  rw [recover_forest, OpenForest.tokens_finishLenient_run, (OpenForest.run_of_pushAllLenient _ tokens).2]

/-- Flattening undoes grouping, for each way to feed and to finish an open forest and for whole streams. -/
theorem Forest.flattening (keepTrivia : Bool) :
    (∀ offers : List Offer,
      let state := (OpenForest.empty keepTrivia).run offers
      let kept := TokenList.kept keepTrivia ((OpenForest.empty keepTrivia).accepted offers)
      (∀ forest, state.finish = .ok forest → Forest.tokens forest = kept) ∧
        Forest.tokens state.finishLenient.1 = kept) ∧
    ∀ tokens : TokenList,
      (∀ forest, ofTokens keepTrivia tokens = .ok forest →
        Forest.tokens forest = TokenList.kept keepTrivia tokens) ∧
      Forest.tokens (recover keepTrivia tokens).forest = TokenList.kept keepTrivia tokens := by
  refine ⟨fun offers => ⟨fun forest finished => ?_, ?_⟩, fun tokens => ⟨fun forest grouped => ?_, ?_⟩⟩
  · have whole := OpenForest.tokens_finishLenient_run keepTrivia offers
    rwa [OpenForest.finishLenient_of_finish finished] at whole
  · exact OpenForest.tokens_finishLenient_run keepTrivia offers
  · have whole := tokens_recover keepTrivia tokens
    rwa [recover_of_ofTokens grouped] at whole
  · exact tokens_recover keepTrivia tokens

end TokenForest
