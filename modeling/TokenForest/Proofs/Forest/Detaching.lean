import Mathlib.Data.List.DropRight
import TokenForest.Proofs.Forest.Closing
import TokenForest.Proofs.Forest.Regrouping

set_option autoImplicit false

namespace TokenForest

def Tree.hasRole (role : Role) : Tree → Bool
  | .leaf token => token.role = role
  | .unit _ _ => false

def Forest.cutAfter (role : Role) (kind : UnitKind) (children : Forest) : Forest :=
  .unit kind (children.rdropWhile fun tree => !tree.hasRole role) ::
    children.rtakeWhile fun tree => !tree.hasRole role

def Tree.detached : Tree → Forest
  | .unit .block children =>
      (children.takeWhile fun tree => !tree.hasRole (.opener .brace)) ++
        Forest.cutAfter (.closer .brace) .block (children.dropWhile fun tree => !tree.hasRole (.opener .brace))
  | .unit .line children =>
      if children.any (Tree.hasRole .separator) then Forest.cutAfter .separator .line children
      else if children.any Tree.isSignificant then [.unit .line children]
      else children
  | tree => [tree]

def Forest.detached (forest : Forest) : Forest :=
  forest.flatMap Tree.detached

namespace Forest

theorem detached_singleton (tree : Tree) : detached [tree] = tree.detached := by
  simp [detached]

theorem Loose.hasRole {forest : Forest} (loose : Loose forest) {role : Role} (structural : role ≠ .plain) :
    ∀ tree ∈ forest, (!tree.hasRole role) = true := by
  intro tree inside
  obtain ⟨token, rfl, trivia⟩ := loose.leaf inside
  simp [Tree.hasRole, Token.role_of_isTrivia trivia, structural.symm]

theorem Pending.hasRole {line : Forest} (pending : Pending line) : line.any (Tree.hasRole .separator) = false := by
  apply List.any_eq_false.2
  intro tree inside
  have inLine := pending.inside tree inside
  cases tree with
  | leaf token => simpa [Tree.hasRole] using inLine.1
  | unit => simp [Tree.hasRole]

theorem cutAfter_eq {role : Role} (structural : role ≠ .plain) {token : Token} (own : token.role = role)
    (kind : UnitKind) (front : Forest) {trail : Forest} (after : trail.Loose) :
    cutAfter role kind (front ++ [.leaf token] ++ trail) = .unit kind (front ++ [.leaf token]) :: trail := by
  have last : (Tree.leaf token).hasRole role = true := by simpa [Tree.hasRole] using own
  have none : ∀ tree ∈ trail.reverse, (!tree.hasRole role) = true := by
    simpa using after.hasRole structural
  unfold cutAfter List.rdropWhile List.rtakeWhile
  rw [List.reverse_append, List.dropWhile_append_of_pos none, List.takeWhile_append_of_pos none]
  simp [last]

end Forest

namespace Tree

theorem detached_block {lead own trail : Forest} (before : lead.Loose) (built : Built true .block own)
    (after : trail.Loose) :
    (Tree.unit .block (lead ++ own ++ trail)).detached = lead ++ [.unit .block own] ++ trail := by
  cases built with
  | @block opener scope closer opens inside follows closes ends =>
    obtain ⟨closer, rfl⟩ := Option.isSome_iff_exists.1 ends
    have none : ∀ tree ∈ lead, (!tree.hasRole (.opener .brace)) = true := before.hasRole (by simp)
    have cut := Forest.cutAfter_eq (by simp) (closes closer rfl) .block (.leaf opener :: scope) after
    simp only [detached, List.append_assoc, List.takeWhile_append_of_pos none, List.dropWhile_append_of_pos none]
    simpa [hasRole, opens] using cut

theorem detached_line {own trail : Forest} (lead : Forest) (built : Built true .line own) (after : trail.Loose) :
    (Tree.unit .line (lead ++ own ++ trail)).detached = .unit .line (lead ++ own) :: trail := by
  cases built with
  | @line items separator inside separates ends =>
    obtain ⟨separator, rfl⟩ := Option.isSome_iff_exists.1 ends
    have last : separator.role = .separator := separates separator rfl
    have cut := Forest.cutAfter_eq (by simp) last .line (lead ++ items) after
    simpa [detached, hasRole, last] using cut

theorem detached_pending {line : Forest} (pending : line.Pending) (significant : line.any isSignificant = true) :
    (Tree.unit .line line).detached = [.unit .line line] := by
  simp [detached, pending.hasRole, significant]

theorem detached_loose {trivia : Forest} (loose : trivia.Loose) : (Tree.unit .line trivia).detached = trivia := by
  have pending : trivia.Pending := ⟨loose.inLine, loose.sound⟩
  have insignificant : trivia.any isSignificant = false := by simpa [Forest.Loose] using loose
  simp [detached, pending.hasRole, insignificant]

end Tree

theorem Surrounded.detached_append {leads : Bool} {kind : UnitKind} {children trivia : Forest}
    (surrounded : Surrounded leads true kind children) (apart : kind ≠ .collection) (loose : trivia.Loose) :
    (Tree.unit kind (children ++ trivia)).detached = (Tree.unit kind children).detached ++ trivia := by
  cases surrounded with
  | @intro lead own trail built before after =>
    have more : (trail ++ trivia).Loose := after.append loose
    cases kind with
    | collection => exact absurd rfl apart
    | block =>
      rw [List.append_assoc, Tree.detached_block before built more, Tree.detached_block before built after]
      simp
    | line =>
      rw [List.append_assoc, Tree.detached_line lead built more, Tree.detached_line lead built after]
      simp

namespace TopLevel

theorem detached_leading {trivia : Forest} (loose : trivia.Loose) :
    Forest.detached (leading trivia).forest = trivia := by
  cases trivia with
  | nil => rfl
  | cons tree rest => simpa [forest, Forest.detached_singleton] using Tree.detached_loose loose

theorem detached_addBlock {top : TopLevel} (led : top.Led) {own : Forest} (built : Built true .block own) :
    Forest.detached (top.addUnit .block own).forest = Forest.detached top.forest ++ [.unit .block own] := by
  cases top with
  | leading trivia =>
    have added := Tree.detached_block led built Forest.loose_nil
    rw [detached_leading led]
    simpa [addUnit, forest, Forest.detached_singleton] using added
  | units earlier kind children =>
    have alone := Tree.detached_block Forest.loose_nil built Forest.loose_nil
    simpa [addUnit, forest, Forest.detached] using alone

theorem detached_addTrivia {top : TopLevel} (sound : top.Sound false) {trivia : Forest} (loose : trivia.Loose) :
    Forest.detached (top.addTrivia trivia).forest = Forest.detached top.forest ++ trivia := by
  cases sound with
  | leading before => rw [addTrivia, detached_leading before, detached_leading (before.append loose)]
  | units _ apart _ latest _ _ ends =>
    cases ends rfl
    simp [addTrivia, forest, Forest.detached, latest.detached_append apart loose]

-- No trivia comes to lead a line: it waits for the first unit only if that is a block.
theorem detached_addLine {top : TopLevel} (sound : top.Sound false) {line : Forest}
    (whole : line.any Tree.isSignificant = true → (Tree.unit .line line).detached = [.unit .line line]) :
    Forest.detached (top.addLine line).forest = Forest.addLine (Forest.detached top.forest) line := by
  unfold addLine Forest.addLine
  split
  · next significant =>
    cases sound with
    | leading _ none =>
      cases none rfl
      simpa [addUnit, forest, Forest.detached] using whole significant
    | units => simpa [addUnit, forest, Forest.detached] using whole significant
  · next trivia => exact detached_addTrivia sound (Forest.loose_of_any trivia)

end TopLevel

namespace OpenForest

def enclosed (opener : Token) (state : OpenForest) : OpenForest :=
  ⟨state.keepTrivia, state.stack ++ [.block opener (Forest.detached state.top.forest) state.line], .leading [], []⟩

theorem keepTrivia_enclosed (state : OpenForest) (opener : Token) :
    (state.enclosed opener).keepTrivia = state.keepTrivia := by
  rfl

theorem attach_enclosed (state : OpenForest) (opener : Token) (tree : Tree) :
    (state.enclosed opener).attach tree = (state.attach tree).enclosed opener := by
  obtain ⟨keepTrivia, _ | ⟨_ | _, below⟩, top, line⟩ := state <;> rfl

theorem enter_enclosed (state : OpenForest) (opener : Token) (frame : Frame) :
    (state.enclosed opener).enter frame = (state.enter frame).enclosed opener := by
  rfl

theorem breakLine_enclosed {state : OpenForest} (opener : Token)
    (whole : state.stack = [] →
      Forest.detached state.forest = Forest.addLine (Forest.detached state.top.forest) state.line) :
    (state.enclosed opener).breakLine = state.breakLine.enclosed opener := by
  obtain ⟨keepTrivia, _ | ⟨_ | _, below⟩, top, line⟩ := state
  · have ended : Forest.detached (top.addLine line).forest = _ := whole rfl
    simp [enclosed, breakLine, ended]
  · rfl
  · rfl

theorem Sound.detached_forest {state : OpenForest} (sound : state.Sound false) (stack : state.stack = []) :
    Forest.detached state.forest = Forest.addLine (Forest.detached state.top.forest) state.line := by
  obtain ⟨keepTrivia, _, top, line⟩ := state
  cases stack
  exact TopLevel.detached_addLine sound.1 (Tree.detached_pending sound.2)

theorem separate_enclosed {state : OpenForest} (opener : Token) (sound : state.Sound false) {token : Token}
    (separates : token.role = .separator) :
    ((state.enclosed opener).attach (.leaf token)).breakLine =
      (state.attach (.leaf token)).breakLine.enclosed opener := by
  rw [attach_enclosed]
  apply breakLine_enclosed
  intro stack
  obtain ⟨keepTrivia, _ | ⟨_ | _, below⟩, top, line⟩ := state
  · have alone := Tree.detached_line [] (sound.2.built_ended separates) Forest.loose_nil
    rw [List.append_nil] at alone
    exact TopLevel.detached_addLine sound.1 fun _ => alone
  · cases stack
  · cases stack

theorem attachBlock_enclosed {state : OpenForest} (opener : Token) (led : state.top.Led) {own : Forest}
    (built : Built true .block own) :
    (state.enclosed opener).attachBlock own = (state.attachBlock own).enclosed opener := by
  obtain ⟨keepTrivia, _ | ⟨_ | _, below⟩, top, line⟩ := state
  · simp [enclosed, attachBlock, TopLevel.detached_addBlock led built]
  · rfl
  · rfl

theorem leave_enclosed {state : OpenForest} (opener : Token) (sound : state.Sound false) {frame : Frame}
    {below : List Frame} (stack : state.stack = frame :: below) {closer : Token}
    (closes : closer.role = .closer frame.delimiter) :
    (state.enclosed opener).leave (some closer) = (state.leave (some closer)).enclosed opener := by
  obtain ⟨keepTrivia, _, top, line⟩ := state
  cases stack
  have only : ∀ token ∈ some closer, token.role = .closer frame.delimiter := by simpa using closes
  have ⟨built, _⟩ := sound.1.closed only
  have outer := (OpenForest.mk keepTrivia below top line).attach_enclosed opener
  have led : top.Led := sound.led
  cases delimiter : frame.delimiter with
  | paren => simpa [leave, delimiter, enclosed] using outer _
  | brace =>
    rw [delimiter] at built
    have attached := (OpenForest.mk keepTrivia below top line).attachBlock_enclosed opener led built
    simpa [leave, delimiter, enclosed] using attached

theorem fault?_enclosed {state : OpenForest} (opener : Token) {token : Token} (taken : state.fault? token = none) :
    (state.enclosed opener).fault? token = none := by
  obtain ⟨keepTrivia, _ | ⟨frame, below⟩, top, line⟩ := state
  -- With nothing open every closer is at fault, so none gets to the block around.
  · cases role : token.role <;> simp_all [fault?]
  · exact taken

theorem absorb_enclosed {state : OpenForest} (opener : Token) (sound : state.Sound false) {token : Token}
    (taken : state.fault? token = none) :
    (state.enclosed opener).absorb token = (state.absorb token).enclosed opener := by
  unfold absorb
  rw [keepTrivia_enclosed]
  split
  · rfl
  · cases role : token.role with
    | opener delimiter =>
      cases delimiter with
      | paren => exact enter_enclosed state opener _
      | brace => simp only [breakLine_enclosed opener sound.detached_forest, enter_enclosed]
    | closer delimiter =>
      obtain ⟨frame, below, stack, rfl⟩ := stack_of_fault_none role taken
      exact leave_enclosed opener sound stack role
    | separator => exact separate_enclosed opener sound role
    | plain => exact attach_enclosed state opener _

theorem push_enclosed {state next : OpenForest} (opener : Token) (sound : state.Sound false) {token : Token}
    (pushed : state.push token = .ok next) :
    (state.enclosed opener).push token = .ok (next.enclosed opener) ∧ next.Sound false := by
  cases fault : state.fault? token with
  | some error => simp [push, fault] at pushed
  | none =>
    have absorbed : state.absorb token = next := by simpa [push, fault] using pushed
    subst absorbed
    refine ⟨?_, (state.absorb_effect token .strict fault).sound sound⟩
    simp [push, fault?_enclosed opener fault, absorb_enclosed opener sound fault]

theorem pushAll_enclosed {state last : OpenForest} (opener : Token) (sound : state.Sound false) {tokens : TokenList}
    (pushed : state.pushAll tokens = .ok last) (rest : TokenList) :
    (state.enclosed opener).pushAll (tokens ++ rest) = (last.enclosed opener).pushAll rest ∧ last.Sound false := by
  induction tokens generalizing state with
  | nil =>
    cases pushed
    exact ⟨rfl, sound⟩
  | cons token more ih =>
    unfold pushAll at pushed
    split at pushed
    · next next first =>
      have ⟨moved, after⟩ := push_enclosed opener sound first
      have ⟨later, kept⟩ := ih after pushed
      exact ⟨by simpa [pushAll, moved] using later, kept⟩
    · cases pushed

theorem finish_enclosed {state : OpenForest} (opener : Token) (sound : state.Sound false) (stack : state.stack = [])
    (closer : Token) :
    ((state.enclosed opener).leave (some closer)).finish =
      .ok [.unit .block (.leaf opener :: (Forest.detached state.forest ++ [.leaf closer]))] := by
  rw [sound.detached_forest stack]
  obtain ⟨keepTrivia, _, top, line⟩ := state
  cases stack
  simp [enclosed, leave, Frame.delimiter, Frame.closed, attachBlock, finish, unclosed?, OpenForest.forest,
    TopLevel.addUnit, TopLevel.forest]

end OpenForest

namespace Forest

open OpenForest

/-- A scope is grouped alike at the top and inside a block, but for where the trivia around its units goes. -/
theorem ofTokens_braces (keepTrivia : Bool) {tokens : TokenList} {forest : Forest}
    (grouped : ofTokens keepTrivia tokens = .ok forest) {opener closer : Token} (opens : opener.Opens .brace)
    (closes : closer.Closes .brace) :
    ofTokens keepTrivia ([opener] ++ tokens ++ [closer]) =
      .ok [.unit .block (.leaf opener :: (detached forest ++ [.leaf closer]))] := by
  obtain ⟨last, pushed, stack, rfl⟩ := last_of_ofTokens grouped
  have opening : opener.role = .opener .brace := (opener.role_eq_opener_iff _).2 opens
  have entered : (empty keepTrivia).breakLine.enter (.block opener [] []) = (empty keepTrivia).enclosed opener := rfl
  have ⟨moved, sound⟩ := pushAll_enclosed opener (sound_empty keepTrivia) pushed [closer]
  have bottom : (last.enclosed opener).stack = [.block opener (detached last.top.forest) last.line] := by
    simp [enclosed, stack]
  have closed := push_closer bottom closes
  unfold ofTokens
  rw [List.append_assoc, List.singleton_append, pushAll_brace _ opening, entered, moved]
  simp [pushAll, closed, finish_enclosed opener sound stack]

theorem ofTokens_braces_trivia :
    let word : Token := ⟨.name .unflavoured, "a", ⟨0, 0⟩⟩
    let space : Token := ⟨.text .unflavoured, " ", ⟨0, 0⟩⟩
    let mark (text : String) : Token := ⟨.punctuation .unflavoured, text, ⟨0, 0⟩⟩
    let tokens := [space, mark "\x7b", mark "\x7d", word, mark ";", space]
    let line : Forest := [.leaf word, .leaf (mark ";")]
    let block : Forest := [.leaf (mark "\x7b"), .leaf (mark "\x7d")]
    ofTokens true tokens = .ok [.unit .block (.leaf space :: block), .unit .line (line ++ [.leaf space])] ∧
      ofTokens true ([mark "\x7b"] ++ tokens ++ [mark "\x7d"]) =
        .ok [.unit .block (.leaf (mark "\x7b") ::
          ([.leaf space, .unit .block block, .unit .line line, .leaf space] ++ [.leaf (mark "\x7d")]))] := by
  intro word space mark tokens line block
  have grouped : ofTokens true tokens =
      .ok [.unit .block (.leaf space :: block), .unit .line (line ++ [.leaf space])] := by cbv
  have loose : detached [.unit .block (.leaf space :: block), .unit .line (line ++ [.leaf space])] =
      [.leaf space, .unit .block block, .unit .line line, .leaf space] := by cbv
  have opens : (mark "\x7b").Opens .brace := ⟨rfl, rfl⟩
  have closes : (mark "\x7d").Closes .brace := ⟨rfl, rfl⟩
  exact ⟨grouped, loose ▸ ofTokens_braces true grouped opens closes⟩

end Forest

end TokenForest
