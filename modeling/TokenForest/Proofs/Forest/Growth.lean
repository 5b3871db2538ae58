import TokenForest.Proofs.Forest.Flattening
import TokenForest.Proofs.Forest.Scopes

set_option autoImplicit false

namespace TokenForest

namespace OpenForest

-- Scopes keep to the grammar. A scope `waits` if the unit right above it is a block.
def SoundStack (top : TopLevel) (line : Forest) : Bool → List Frame → Prop
  | waits, [] => top.Sound waits ∧ line.Pending
  | waits, frame :: below =>
    frame.Sound waits ∧ SoundStack top line (frame.delimiter = .brace) below

def Sound (waits : Bool) (state : OpenForest) : Prop :=
  SoundStack state.top state.line waits state.stack

theorem Sound.led {waits : Bool} {state : OpenForest} (sound : state.Sound waits) : state.top.Led := by
  obtain ⟨keepTrivia, stack, top, line⟩ := state
  induction stack generalizing waits with
  | nil => exact sound.1.led
  | cons frame below ih => exact ih sound.2

theorem Sound.opens {waits : Bool} {state : OpenForest} (sound : state.Sound waits) :
    ∀ frame ∈ state.stack, frame.opener.role = .opener frame.delimiter := by
  obtain ⟨keepTrivia, stack, top, line⟩ := state
  induction stack generalizing waits with
  | nil => simp
  | cons frame below ih =>
    refine List.forall_mem_cons.2 ⟨?_, ih sound.2⟩
    cases sound.1 with
    | collection opens => exact opens
    | block opens => exact opens

theorem led_attach {state : OpenForest} (led : state.top.Led) (tree : Tree) : (state.attach tree).top.Led := by
  unfold attach
  split <;> exact led

theorem led_leave {state : OpenForest} (led : state.top.Led) (closer : Option Token) :
    (state.leave closer).top.Led := by
  unfold leave
  split
  · exact led
  · next frame below stack =>
    cases frame.delimiter with
    | paren => exact @led_attach { state with stack := below } led _
    | brace =>
      simp only [attachBlock]
      split
      · exact .addUnit _ _ _
      · exact led
      · exact led

theorem led_leaveTimes {state : OpenForest} (led : state.top.Led) (count : Nat) :
    (leaveTimes count state).top.Led := by
  induction count generalizing state with
  | zero => exact led
  | succ count ih => exact ih (led_leave led none)

theorem sound_empty (keepTrivia : Bool) : (empty keepTrivia).Sound false :=
  ⟨.leading Forest.loose_nil fun _ => rfl, Forest.pending_nil⟩

namespace Sound

variable {state : OpenForest}

theorem attach (sound : state.Sound false) {tree : Tree} (inLine : tree.InLine)
    (inCollection : tree.InCollection) (below : Forest.Sound [tree]) : (state.attach tree).Sound false := by
  obtain ⟨keepTrivia, stack, top, line⟩ := state
  match stack with
  | [] => exact ⟨sound.1, sound.2.concat inLine below⟩
  | .collection _ _ :: _ => exact ⟨sound.1.concat inCollection below, sound.2⟩
  | .block _ _ _ :: _ =>
    obtain ⟨frame, rest⟩ := sound
    cases frame with
    | block opens scope pending => exact ⟨.block opens scope (pending.concat inLine below), rest⟩

theorem breakLine (sound : state.Sound false) : state.breakLine.Sound true := by
  obtain ⟨keepTrivia, stack, top, line⟩ := state
  match stack with
  | [] => exact ⟨sound.1.addLine sound.2, Forest.pending_nil⟩
  | .collection _ _ :: _ => exact ⟨sound.1.mono, sound.2⟩
  | .block _ _ _ :: _ =>
    obtain ⟨frame, rest⟩ := sound
    cases frame with
    | block opens scope pending => exact ⟨.block opens (scope.addLine pending) Forest.pending_nil, rest⟩

theorem separate (sound : state.Sound false) {token : Token} (separates : token.role = .separator) :
    (state.attach (.leaf token)).breakLine.Sound false := by
  obtain ⟨keepTrivia, stack, top, line⟩ := state
  match stack with
  | [] => exact ⟨sound.1.addLine_ended sound.2 separates, Forest.pending_nil⟩
  | .collection _ _ :: _ =>
    have inside : (Tree.leaf token).InCollection := by simp [Tree.InCollection, separates]
    exact ⟨sound.1.concat inside (Forest.sound_leaf token), sound.2⟩
  | .block _ _ _ :: _ =>
    obtain ⟨frame, rest⟩ := sound
    cases frame with
    | block opens scope pending =>
      exact ⟨.block opens (scope.addLine_ended pending separates) Forest.pending_nil, rest⟩

-- At the top a block that no brace closed is not ended: nothing may trail it.
theorem attachBlock (sound : state.Sound true) {ended : Bool} {own : Forest}
    (built : Built ended .block own) (below : Forest.Sound own) :
    (state.attachBlock own).Sound (!ended && state.stack.isEmpty) := by
  obtain ⟨keepTrivia, stack, top, line⟩ := state
  have whole : Forest.Sound [.unit .block own] := Forest.sound_unit built (by simp) below
  match stack with
  | [] =>
    have added := sound.1.addUnit built (by simp) below (by simp) (fun _ => rfl)
    rw [List.isEmpty_nil, Bool.and_true]
    exact ⟨added, sound.2⟩
  | .collection _ _ :: _ =>
    have inside : (Tree.unit .block own).InCollection := by simp [Tree.InCollection]
    rw [List.isEmpty_cons, Bool.and_false]
    exact ⟨(sound.1.concat inside whole).mono, sound.2⟩
  | .block _ _ _ :: _ =>
    obtain ⟨frame, rest⟩ := sound
    rw [List.isEmpty_cons, Bool.and_false]
    cases frame with
    | block opens scope pending =>
      exact ⟨.block opens (scope.concat (by simp [Tree.InBlock]) whole (fun _ => rfl) (fun _ => id)) pending, rest⟩

theorem leave_collection (sound : state.Sound false) {frame : Frame} {below : List Frame}
    (stack : state.stack = frame :: below) {closer : Option Token}
    (closes : ∀ token ∈ closer, token.role = .closer frame.delimiter) (paren : frame.delimiter = .paren) :
    (state.leave closer).Sound false := by
  obtain ⟨keepTrivia, _, top, line⟩ := state
  cases stack
  have ⟨built, within⟩ := sound.1.closed closes
  have outer : SoundStack top line false below := by simpa [paren] using sound.2
  rw [paren] at built
  have unit : Forest.Sound [.unit .collection (frame.closed closer)] :=
    Forest.sound_unit built (by simp) within
  have inLine : (Tree.unit .collection (frame.closed closer)).InLine := rfl
  have attached : (OpenForest.mk keepTrivia below top line).Sound false := outer
  simpa [leave, paren] using attached.attach inLine (by simp [Tree.InCollection]) unit

theorem leave_block (sound : state.Sound false) {frame : Frame} {below : List Frame}
    (stack : state.stack = frame :: below) {closer : Option Token}
    (closes : ∀ token ∈ closer, token.role = .closer frame.delimiter) (brace : frame.delimiter = .brace) :
    (state.leave closer).Sound (!closer.isSome && below.isEmpty) := by
  obtain ⟨keepTrivia, _, top, line⟩ := state
  cases stack
  have ⟨built, within⟩ := sound.1.closed closes
  have outer : SoundStack top line true below := by simpa [brace] using sound.2
  rw [brace] at built
  have attached : (OpenForest.mk keepTrivia below top line).Sound true := outer
  simpa [leave, brace] using attached.attachBlock built within

end Sound

theorem Effect.sound {state next : OpenForest} {token : Token} {mode : Mode}
    {error : Option StructureError} (effect : Effect state token mode next error)
    (sound : state.Sound false) : next.Sound false := by
  cases effect with
  | refused | dropped => exact sound
  | misfit fault role =>
    exact sound.attach (by simp [Tree.InLine, role]) (by simp [Tree.InCollection, role]) (Forest.sound_leaf token)
  | plain role =>
    exact sound.attach (by simp [Tree.InLine, role]) (by simp [Tree.InCollection, role]) (Forest.sound_leaf token)
  | separator role => exact sound.separate role
  | collection role => exact ⟨.collection role (by simp) Forest.sound_nil, sound⟩
  | block role => exact ⟨.block role Forest.scope_nil Forest.pending_nil, sound.breakLine⟩
  | @closed _ frame below role stack =>
    have closes : ∀ closer ∈ some token, closer.role = .closer frame.delimiter := by simpa using role
    cases delimiter : frame.delimiter with
    | paren => exact sound.leave_collection stack closes delimiter
    | brace => exact sound.leave_block stack closes delimiter

namespace Sound

variable {state : OpenForest}

theorem run (sound : state.Sound false) (offers : List Offer) : (state.run offers).Sound false :=
  run_induction Effect.sound sound offers

theorem leaveTimes (sound : state.Sound false) (steady : state.Steady) :
    (leaveTimes state.openCount state).Sound false ∨
      (leaveTimes state.openCount state).Sound true ∧ (leaveTimes state.openCount state).line = [] := by
  generalize counted : state.openCount = count
  induction count generalizing state with
  | zero => exact .inl sound
  | succ count ih =>
    cases stack : state.stack with
    | nil => simp [openCount, stack] at counted
    | cons frame below =>
      have fewer : (state.leave none).openCount = count := by simp [counted]
      cases delimiter : frame.delimiter with
      | paren => exact ih (sound.leave_collection stack (by simp) delimiter) (steady.leave none) fewer
      | brace =>
        have left : (state.leave none).Sound (!false && below.isEmpty) :=
          sound.leave_block stack (by simp) delimiter
        cases below with
        | cons outer below => exact ih (by simpa using left) (steady.leave none) fewer
        | nil =>
          -- Only the outermost block leaves a unit that is not ended, and then no line is left to come after it.
          have last : count = 0 := by simpa [openCount, stack] using counted.symm
          subst last
          have ended : state.line = [] := steady.ended stack delimiter
          refine .inr ⟨left, ?_⟩
          change (state.leave none).line = []
          simp [leave, stack, delimiter, OpenForest.attachBlock, ended]

end Sound

end OpenForest

namespace Forest

theorem Loose.inLine {forest : Forest} (loose : Loose forest) : ∀ tree ∈ forest, tree.InLine := by
  intro tree inside
  obtain ⟨token, rfl, trivia⟩ := loose.leaf inside
  simp [Tree.InLine, Token.role_of_isTrivia trivia]

theorem Loose.eq_map_tokens {forest : Forest} (loose : Loose forest) :
    forest = (Forest.tokens forest).map .leaf := by
  induction forest with
  | nil => rfl
  | cons tree rest ih =>
    obtain ⟨token, rfl, -⟩ := loose.leaf List.mem_cons_self
    simpa [Forest.tokens, Tree.tokens] using ih loose.tail

theorem Loose.isTrivia {forest : Forest} (loose : Loose forest) :
    ∀ token ∈ Forest.tokens forest, token.isTrivia = true := by
  intro token inside
  have leaf : Tree.leaf token ∈ forest := by
    rw [loose.eq_map_tokens]
    exact List.mem_map_of_mem inside
  simpa [Tree.isSignificant] using loose _ leaf

end Forest

theorem TopLevel.Sound.forest {top : TopLevel} (sound : top.Sound true) :
    top.forest.AtTop ∧ top.forest.IsChain Tree.Follows ∧
      (top.forest.Meaningful ∨
        ∃ trivia, trivia ≠ [] ∧ top.forest = [.unit .line trivia] ∧ Forest.Loose trivia) := by
  cases sound with
  | @leading trivia loose =>
    cases trivia with
    | nil => exact ⟨trivial, .nil, .inl (by simp [Forest.Meaningful, TopLevel.forest])⟩
    | cons tree rest =>
      have built : Built false .line (tree :: rest) := Forest.Pending.built ⟨loose.inLine, loose.sound⟩
      exact ⟨⟨⟨by simp, loose.sound, false, built.surrounded⟩, by simp⟩, .singleton _,
        .inr ⟨tree :: rest, by simp, rfl, loose⟩⟩
  | units before apart below latest follows meaningful =>
    exact ⟨before.concat ⟨apart, below, _, latest⟩, follows, .inl meaningful⟩

theorem OpenForest.Sound.finishLenient {state : OpenForest} (sound : state.Sound false)
    (steady : state.Steady) : ∃ top : TopLevel, top.Sound true ∧ state.finishLenient.1 = top.forest := by
  have ended := state.stack_leaveTimes
  refine ⟨_, ?_, rfl⟩
  rcases sound.leaveTimes steady with last | ⟨last, none⟩
  · unfold OpenForest.Sound at last
    rw [ended] at last
    exact last.1.addLine last.2
  · unfold OpenForest.Sound at last
    rw [ended] at last
    rw [none, TopLevel.addLine_nil]
    exact last.1

namespace Forest

theorem mem_tokens {forest : Forest} {tree : Tree} (inside : tree ∈ forest) {token : Token}
    (held : token ∈ tree.tokens) : token ∈ Forest.tokens forest := by
  obtain ⟨front, back, rfl⟩ := List.append_of_mem inside
  simp [Forest.tokens, held]

theorem significant_of_delimited {leads ended : Bool} {kind : UnitKind} {children : Forest}
    (surrounded : Surrounded leads ended kind children) (delimited : kind ≠ .line) :
    ∃ token ∈ Forest.tokens children, token.isTrivia = false := by
  have opener {opener : Token} {delimiter : Delimiter} (opens : opener.role = .opener delimiter) :
      opener.isTrivia = false := Token.isTrivia_of_role_ne_plain (by simp [opens])
  cases surrounded with
  | intro built =>
    cases kind with
    | line => exact absurd rfl delimited
    | collection =>
      obtain ⟨token, rest, rfl, opens⟩ := built.first_paren
      exact ⟨token, by simp [Forest.tokens, Tree.tokens], opener opens⟩
    | block =>
      obtain ⟨token, rest, rfl, opens⟩ := built.first_brace
      exact ⟨token, by simp [Forest.tokens, Tree.tokens], opener opens⟩

theorem significant_of_meaningful {forest : Forest} (top : AtTop forest) (meaningful : Meaningful forest)
    (nonempty : forest ≠ []) : ∃ token ∈ Forest.tokens forest, token.isTrivia = false := by
  obtain ⟨tree, inside⟩ := List.exists_mem_of_ne_nil forest nonempty
  obtain ⟨_, atTop⟩ := top.of_mem inside
  match tree with
  | .unit .collection _ => exact absurd rfl atTop.1
  | .unit .block children =>
    obtain ⟨_, _, _, surrounded⟩ := atTop
    obtain ⟨token, held, significant⟩ := significant_of_delimited surrounded (by simp)
    exact ⟨token, mem_tokens inside held, significant⟩
  | .unit .line children =>
    obtain ⟨_, below, _, surrounded⟩ := atTop
    obtain ⟨part, member, significant⟩ := List.any_eq_true.1 (meaningful children inside)
    match part with
    | .leaf token =>
      have held : token ∈ Forest.tokens children := mem_tokens member (by simp [Tree.tokens])
      exact ⟨token, mem_tokens inside held, by simpa [Tree.isSignificant] using significant⟩
    | .unit kind grandchildren =>
      have delimited : kind ≠ .line := by
        rintro rfl
        simpa [UnitKind.parts, Tree.kind?] using surrounded.parts member
      obtain ⟨⟨_, built⟩, _⟩ := below kind grandchildren (.here member)
      have outer : Surrounded true _ kind grandchildren := built.surrounded
      obtain ⟨token, held, significant⟩ := significant_of_delimited outer delimited
      exact ⟨token, mem_tokens inside (mem_tokens member held), significant⟩

theorem significant_line {forest : Forest} (top : AtTop forest) (meaningful : Meaningful forest)
    {children : Forest} (occurs : Occurs .line children forest) :
    ∃ tree ∈ children, tree.isSignificant = true := by
  have any : children.any Tree.isSignificant = true := by
    cases occurs with
    | here inside => exact meaningful children inside
    | inner inside deeper =>
      obtain ⟨_, _, below, _⟩ := top.of_mem inside
      exact (below _ children deeper).2 rfl
  exact List.any_eq_true.1 any

theorem atTop_recover (keepTrivia : Bool) (tokens : TokenList) : (recover keepTrivia tokens).forest.AtTop := by
  have sound := (OpenForest.sound_empty keepTrivia).run (tokens.map (Offer.mk .lenient))
  obtain ⟨top, topSound, same⟩ := sound.finishLenient ((OpenForest.steady_empty keepTrivia).run _)
  rw [recover_forest, same]
  exact topSound.forest.1

structure StreamGrammar (kept : TokenList) (forest : Forest) : Prop extends Grammar forest where
  -- Lines hold more than trivia, unless there is nothing but trivia, which is one line.
  lines : ¬ (kept ≠ [] ∧ ∀ token ∈ kept, token.isTrivia = true) →
    ∀ children, Occurs .line children forest → ∃ tree ∈ children, tree.isSignificant = true
  only_trivia : kept ≠ [] → (∀ token ∈ kept, token.isTrivia = true) →
    forest = [.unit .line (kept.map .leaf)]

theorem streamGrammar_run (keepTrivia : Bool) (offers : List Offer) :
    StreamGrammar (TokenList.kept keepTrivia ((OpenForest.empty keepTrivia).accepted offers))
      ((OpenForest.empty keepTrivia).run offers).finishLenient.1 := by
  have sound := (OpenForest.sound_empty keepTrivia).run offers
  have steady := (OpenForest.steady_empty keepTrivia).run offers
  have held := OpenForest.tokens_finishLenient_run keepTrivia offers
  obtain ⟨top, topSound, same⟩ := sound.finishLenient steady
  rw [same] at held ⊢
  obtain ⟨atTop, follows, meaningful | ⟨trivia, nonempty, whole, loose⟩⟩ := topSound.forest
  · refine ⟨atTop.grammar follows, fun _ children => significant_line atTop meaningful, fun some only => ?_⟩
    have forest : top.forest ≠ [] := by
      intro none
      rw [none] at held
      exact some held.symm
    obtain ⟨token, inside, significant⟩ := significant_of_meaningful atTop meaningful forest
    rw [held] at inside
    simp [only token inside] at significant
  · rw [whole] at held
    have leaves : Forest.tokens trivia =
        TokenList.kept keepTrivia ((OpenForest.empty keepTrivia).accepted offers) := by
      simpa [Forest.tokens, Tree.tokens] using held
    refine ⟨atTop.grammar follows, fun mixed => ?_, fun _ _ => ?_⟩
    · refine absurd ⟨fun none => nonempty ?_, ?_⟩ mixed
      · rw [loose.eq_map_tokens, leaves, none]
        rfl
      · rw [← leaves]
        exact loose.isTrivia
    · rw [whole, ← leaves, ← loose.eq_map_tokens]

/-- Every forest that a stream is grouped into, strictly or past its faults, has the grammar. -/
theorem streamGrammar (keepTrivia : Bool) (tokens : TokenList) :
    (∀ forest, ofTokens keepTrivia tokens = .ok forest →
      StreamGrammar (TokenList.kept keepTrivia tokens) forest) ∧
    StreamGrammar (TokenList.kept keepTrivia tokens) (recover keepTrivia tokens).forest := by
  have recovered : StreamGrammar (TokenList.kept keepTrivia tokens) (recover keepTrivia tokens).forest := by
    have grammar := streamGrammar_run keepTrivia (tokens.map (Offer.mk .lenient))
    rwa [← recover_forest, (OpenForest.run_of_pushAllLenient _ tokens).2] at grammar
  refine ⟨fun forest grouped => ?_, recovered⟩
  rwa [recover_of_ofTokens grouped] at recovered

end Forest

end TokenForest
