import TokenForest.Proofs.Forest.Pruning
import TokenForest.Proofs.Forest.Scopes

set_option autoImplicit false

namespace TokenForest

def Token.isMisfit (token : Token) (parent : Option UnitKind) : Bool :=
  match parent, token.role with
  | some .line, .closer _ => true
  | some .collection, .closer .brace => true
  | _, _ => false

mutual

def Tree.withoutMisfits (parent : Option UnitKind) : Tree → Forest
  | .leaf token => if token.isMisfit parent then [] else [.leaf token]
  | .unit kind children => [.unit kind (Forest.withoutMisfits (some kind) children)]

def Forest.withoutMisfits (parent : Option UnitKind) : List Tree → Forest
  | [] => []
  | tree :: rest => tree.withoutMisfits parent ++ Forest.withoutMisfits parent rest

end

namespace Forest

/-- The children of a unit, or without one a whole forest, that are left without the misfits, the trivia and then the
units that have no children any more. -/
def tidied (parent : Option UnitKind) (forest : Forest) : Forest :=
  pruned (withoutMisfits parent forest)

theorem withoutMisfits_append (parent : Option UnitKind) (front back : Forest) :
    withoutMisfits parent (front ++ back) = withoutMisfits parent front ++ withoutMisfits parent back := by
  induction front with
  | nil => rfl
  | cons tree rest ih => simp [withoutMisfits, ih]

@[simp] theorem tidied_append (parent : Option UnitKind) (front back : Forest) :
    tidied parent (front ++ back) = tidied parent front ++ tidied parent back := by
  simp [tidied, withoutMisfits_append]

theorem tidied_concat_misfit {forest other : Forest} {parent : Option UnitKind}
    (same : tidied parent forest = tidied parent other) {token : Token} (misfit : token.isMisfit parent = true) :
    tidied parent forest = tidied parent (other ++ [.leaf token]) := by
  have nothing : tidied parent [.leaf token] = [] := by
    simp [tidied, withoutMisfits, Tree.withoutMisfits, misfit, pruned]
  rw [tidied_append, nothing, List.append_nil, same]

theorem tidied_trivia {token : Token} (trivia : token.isTrivia = true) (parent : Option UnitKind) :
    tidied parent [.leaf token] = [] := by
  have fits : token.isMisfit parent = false := by
    unfold Token.isMisfit
    split <;> simp_all [Token.role_of_isTrivia trivia]
  simp [tidied, withoutMisfits, Tree.withoutMisfits, fits, pruned_trivia trivia]

theorem tidied_loose {forest : Forest} (loose : forest.Loose) (parent : Option UnitKind) :
    tidied parent forest = [] := by
  induction forest with
  | nil => rfl
  | cons tree rest ih =>
    obtain ⟨token, rfl, trivia⟩ := loose.leaf List.mem_cons_self
    rw [← List.singleton_append, tidied_append, tidied_trivia trivia, ih loose.tail, List.append_nil]

theorem tidied_unit_congr {kind : UnitKind} {children others : Forest}
    (same : tidied (some kind) children = tidied (some kind) others) (parent outer : Option UnitKind) :
    tidied parent [.unit kind children] = tidied outer [.unit kind others] := by
  unfold tidied at same
  simp only [tidied, withoutMisfits, Tree.withoutMisfits, List.append_nil, pruned, Tree.pruned, same]

theorem tidied_unit_of_nil {kind : UnitKind} {children : Forest} (none : tidied (some kind) children = [])
    (parent : Option UnitKind) : tidied parent [.unit kind children] = [] := by
  unfold tidied at none
  simp only [tidied, withoutMisfits, Tree.withoutMisfits, List.append_nil, pruned_unit_of_nil kind none]

theorem ignoresTrivia_tidied : IgnoresTrivia (· ++ ·) (tidied none) where
  append := tidied_append none
  nil_join _ := rfl
  join_nil := List.append_nil
  loose loose := tidied_loose loose none
  line loose := tidied_unit_of_nil (tidied_loose loose _) none
  around before after kind children := by
    refine tidied_unit_congr ?_ none none
    rw [tidied_append, tidied_append, tidied_loose before, tidied_loose after, List.nil_append, List.append_nil]

theorem tidied_addLine (children line : Forest) :
    tidied (some .block) (addLine children line) =
      tidied (some .block) children ++ tidied none [.unit .line line] := by
  unfold addLine
  split
  · rw [tidied_append, tidied_unit_congr rfl (some .block) none]
  · next trivia =>
    have loose := loose_of_any trivia
    rw [tidied_append, tidied_loose loose, tidied_unit_of_nil (tidied_loose loose _)]

end Forest

namespace TopLevel

variable {top : TopLevel}

structure Matches (top other : TopLevel) : Prop where
  forest : top.forest.tidied none = other.forest.tidied none
  led : top.Led
  otherLed : other.Led

theorem Matches.addUnit {top other : TopLevel} (same : top.Matches other) {kind : UnitKind} {children others : Forest}
    (inside : Forest.tidied (some kind) children = Forest.tidied (some kind) others) :
    (top.addUnit kind children).Matches (other.addUnit kind others) where
  forest := by
    rw [Forest.ignoresTrivia_tidied.top_addUnit same.led, Forest.ignoresTrivia_tidied.top_addUnit same.otherLed,
      same.forest, Forest.tidied_unit_congr inside none none]
  led := .addUnit top kind children
  otherLed := .addUnit other kind others

theorem Matches.addLine {top other : TopLevel} (same : top.Matches other) {line another : Forest}
    (unfinished : Forest.tidied (some .line) line = Forest.tidied (some .line) another) :
    (top.addLine line).Matches (other.addLine another) where
  forest := by
    rw [Forest.ignoresTrivia_tidied.top_addLine same.led, Forest.ignoresTrivia_tidied.top_addLine same.otherLed,
      same.forest, Forest.tidied_unit_congr unfinished none none]
  led := same.led.addLine line
  otherLed := same.otherLed.addLine another

end TopLevel

namespace Frame

inductive Matches : Frame → Frame → Prop
  | collection {opener : Token} {children others : Forest}
      (inside : Forest.tidied (some .collection) children = Forest.tidied (some .collection) others) :
      Matches (.collection opener children) (.collection opener others)
  | block {opener : Token} {children others line another : Forest}
      (inside : Forest.tidied (some .block) children = Forest.tidied (some .block) others)
      (unfinished : Forest.tidied (some .line) line = Forest.tidied (some .line) another) :
      Matches (.block opener children line) (.block opener others another)

theorem Matches.opener {frame other : Frame} (same : frame.Matches other) : frame.opener = other.opener := by
  cases same <;> rfl

theorem Matches.delimiter {frame other : Frame} (same : frame.Matches other) : frame.delimiter = other.delimiter := by
  cases same <;> rfl

theorem Matches.closed {frame other : Frame} (same : frame.Matches other) (closer : Option Token) :
    Forest.tidied (some frame.delimiter.unitKind) (frame.closed closer) =
      Forest.tidied (some frame.delimiter.unitKind) (other.closed closer) := by
  cases same with
  | collection inside =>
    simp only [Frame.closed, Frame.delimiter, Delimiter.unitKind, Forest.tidied_append, inside]
  | block inside unfinished =>
    simp only [Frame.closed, Frame.delimiter, Delimiter.unitKind, Forest.tidied_append, Forest.tidied_addLine, inside,
      Forest.tidied_unit_congr unfinished none none]

end Frame

namespace OpenForest

def observations (state : OpenForest) : List Offer → List (Option StructureError × Nat)
  | [] => []
  | offer :: rest =>
    let (next, error) := state.offer offer.mode offer.token
    (error, next.openCount) :: next.observations rest

def innerKind : List Frame → UnitKind
  | .collection _ _ :: _ => .collection
  | _ => .line

theorem isMisfit_of_fault {state : OpenForest} {token : Token} {error : StructureError}
    (fault : state.fault? token = some error) : token.isMisfit (some (innerKind state.stack)) = true := by
  obtain ⟨delimiter, role⟩ := role_of_fault fault
  unfold innerKind
  split
  · next opener children below collection =>
    -- The parenthesis of a collection would have closed it.
    cases delimiter with
    | paren => simp [fault?, role, collection, Frame.delimiter] at fault
    | brace => simp [Token.isMisfit, role]
  · simp [Token.isMisfit, role]

structure InStep (strict lenient : OpenForest) : Prop where
  keepTrivia : strict.keepTrivia = lenient.keepTrivia
  stack : List.Forall₂ Frame.Matches strict.stack lenient.stack
  top : strict.top.Matches lenient.top
  line : strict.line.tidied (some .line) = lenient.line.tidied (some .line)

namespace InStep

variable {strict lenient : OpenForest}

theorem openCount (inStep : InStep strict lenient) : strict.openCount = lenient.openCount :=
  inStep.stack.length_eq

theorem fault? (inStep : InStep strict lenient) (token : Token) : strict.fault? token = lenient.fault? token := by
  obtain ⟨keepTrivia, stack, top, line⟩ := strict
  obtain ⟨_, others, otherTop, another⟩ := lenient
  obtain ⟨trivia, frames, tops, unfinished⟩ := inStep
  cases frames with
  | nil => rfl
  | cons inner below => simp only [OpenForest.fault?, inner.opener, inner.delimiter]

theorem attach (inStep : InStep strict lenient) {tree other : Tree}
    (same : ∀ parent, Forest.tidied parent [tree] = Forest.tidied parent [other]) :
    InStep (strict.attach tree) (lenient.attach other) := by
  obtain ⟨keepTrivia, stack, top, line⟩ := strict
  obtain ⟨_, others, otherTop, another⟩ := lenient
  obtain ⟨trivia, frames, tops, unfinished⟩ := inStep
  cases frames with
  | nil => exact ⟨trivia, .nil, tops, by simpa [OpenForest.attach, same] using unfinished⟩
  | cons inner below =>
    cases inner with
    | collection inside => exact ⟨trivia, .cons (.collection (by simp [inside, same])) below, tops, unfinished⟩
    | block inside own => exact ⟨trivia, .cons (.block inside (by simp [own, same])) below, tops, unfinished⟩

theorem attach_misfit (inStep : InStep strict lenient) {token : Token} {error : StructureError}
    (fault : lenient.fault? token = some error) : InStep strict (lenient.attach (.leaf token)) := by
  have misfit := isMisfit_of_fault fault
  obtain ⟨keepTrivia, stack, top, line⟩ := strict
  obtain ⟨_, others, otherTop, another⟩ := lenient
  obtain ⟨trivia, frames, tops, unfinished⟩ := inStep
  cases frames with
  | nil => exact ⟨trivia, .nil, tops, Forest.tidied_concat_misfit unfinished misfit⟩
  | cons inner below =>
    cases inner with
    | collection inside =>
      have same := Forest.tidied_concat_misfit inside misfit
      exact ⟨trivia, .cons (.collection same) below, tops, unfinished⟩
    | block inside own =>
      have same := Forest.tidied_concat_misfit own misfit
      exact ⟨trivia, .cons (.block inside same) below, tops, unfinished⟩

theorem breakLine (inStep : InStep strict lenient) : InStep strict.breakLine lenient.breakLine := by
  obtain ⟨keepTrivia, stack, top, line⟩ := strict
  obtain ⟨_, others, otherTop, another⟩ := lenient
  obtain ⟨trivia, frames, tops, unfinished⟩ := inStep
  cases frames with
  | nil => exact ⟨trivia, .nil, tops.addLine unfinished, rfl⟩
  | cons inner below =>
    cases inner with
    | collection inside => exact ⟨trivia, .cons (.collection inside) below, tops, unfinished⟩
    | block inside own =>
      have whole := Forest.tidied_unit_congr own none none
      exact ⟨trivia, .cons (.block (by simp [Forest.tidied_addLine, inside, whole]) rfl) below, tops, unfinished⟩

theorem enter (inStep : InStep strict lenient) {frame other : Frame} (same : frame.Matches other) :
    InStep (strict.enter frame) (lenient.enter other) :=
  { inStep with stack := .cons same inStep.stack }

theorem attachBlock (inStep : InStep strict lenient) {children others : Forest}
    (same : Forest.tidied (some .block) children = Forest.tidied (some .block) others) :
    InStep (strict.attachBlock children) (lenient.attachBlock others) := by
  have whole (parent : Option UnitKind) := Forest.tidied_unit_congr same parent parent
  obtain ⟨keepTrivia, stack, top, line⟩ := strict
  obtain ⟨_, _, otherTop, another⟩ := lenient
  obtain ⟨trivia, frames, tops, unfinished⟩ := inStep
  cases frames with
  | nil => exact ⟨trivia, .nil, tops.addUnit same, unfinished⟩
  | cons inner below =>
    cases inner with
    | collection inside => exact ⟨trivia, .cons (.collection (by simp [inside, whole])) below, tops, unfinished⟩
    | block inside own => exact ⟨trivia, .cons (.block (by simp [inside, whole]) own) below, tops, unfinished⟩

theorem leave (inStep : InStep strict lenient) (closer : Option Token) :
    InStep (strict.leave closer) (lenient.leave closer) := by
  obtain ⟨keepTrivia, stack, top, line⟩ := strict
  obtain ⟨_, others, otherTop, another⟩ := lenient
  obtain ⟨trivia, frames, tops, unfinished⟩ := inStep
  cases frames with
  | nil => exact ⟨trivia, .nil, tops, unfinished⟩
  | @cons frame other below others same outer =>
    have inside := same.closed closer
    have around : InStep ⟨keepTrivia, below, top, line⟩ ⟨_, others, otherTop, another⟩ :=
      ⟨trivia, outer, tops, unfinished⟩
    unfold OpenForest.leave
    simp only [← same.delimiter]
    cases kind : frame.delimiter with
    | paren =>
      rw [kind] at inside
      exact around.attach fun parent => Forest.tidied_unit_congr inside parent parent
    | brace =>
      rw [kind] at inside
      exact around.attachBlock inside

theorem leaveTimes (inStep : InStep strict lenient) (count : Nat) :
    InStep (leaveTimes count strict) (leaveTimes count lenient) := by
  induction count generalizing strict lenient with
  | zero => exact inStep
  | succ count ih => exact ih (inStep.leave none)

theorem absorb (inStep : InStep strict lenient) (token : Token) :
    InStep (strict.absorb token) (lenient.absorb token) := by
  have leaf : InStep (strict.attach (.leaf token)) (lenient.attach (.leaf token)) := inStep.attach fun _ => rfl
  unfold OpenForest.absorb
  rw [inStep.keepTrivia]
  split
  · exact inStep
  · split
    · exact inStep.enter (.collection rfl)
    · exact inStep.breakLine.enter (.block rfl rfl)
    · exact inStep.leave (some token)
    · exact leaf.breakLine
    · exact leaf

theorem finishLenient (inStep : InStep strict lenient) :
    strict.finishLenient.1.tidied none = lenient.finishLenient.1.tidied none := by
  have closed := inStep.leaveTimes strict.openCount
  have whole := closed.top.addLine closed.line
  rw [OpenForest.finishLenient, OpenForest.finishLenient, ← inStep.openCount]
  exact whole.forest

theorem offer (inStep : InStep strict lenient) (token : Token) :
    (strict.offer .strict token).2 = (lenient.offer .lenient token).2 ∧
      InStep (strict.offer .strict token).1 (lenient.offer .lenient token).1 := by
  have found := inStep.fault? token
  cases fault : lenient.fault? token with
  | none =>
    rw [fault] at found
    simpa [OpenForest.offer, push, pushLenient, fault, found] using inStep.absorb token
  | some error =>
    rw [fault] at found
    simpa [OpenForest.offer, push, pushLenient, fault, found] using inStep.attach_misfit fault

theorem run (inStep : InStep strict lenient) (tokens : List Token) :
    strict.observations (tokens.map (Offer.mk .strict)) = lenient.observations (tokens.map (Offer.mk .lenient)) ∧
      InStep (strict.run (tokens.map (Offer.mk .strict))) (lenient.run (tokens.map (Offer.mk .lenient))) := by
  induction tokens generalizing strict lenient with
  | nil => exact ⟨rfl, inStep⟩
  | cons token rest ih =>
    obtain ⟨error, next⟩ := inStep.offer token
    obtain ⟨later, last⟩ := ih next
    refine ⟨?_, last⟩
    simp only [List.map_cons, observations, error, next.openCount, later]

end InStep

theorem inStep_empty (keepTrivia : Bool) : InStep (empty keepTrivia) (empty keepTrivia) :=
  ⟨rfl, .nil, ⟨rfl, Forest.loose_nil, Forest.loose_nil⟩, rfl⟩

end OpenForest

open OpenForest in
/-- A closer that matches nothing may be dropped or kept as a leaf: the faults and the numbers of open units are the
same at every token, and the forests are the same but for trivia, misfits and the units that consist of them. -/
theorem Forest.misfits_irrelevant (keepTrivia : Bool) (tokens : TokenList) :
    let strict := tokens.map (Offer.mk .strict)
    let lenient := tokens.map (Offer.mk .lenient)
    (empty keepTrivia).observations strict = (empty keepTrivia).observations lenient ∧
      tidied none ((empty keepTrivia).run strict).finishLenient.1 =
        tidied none ((empty keepTrivia).run lenient).finishLenient.1 := by
  intro strict lenient
  obtain ⟨seen, last⟩ := (inStep_empty keepTrivia).run tokens
  exact ⟨seen, last.finishLenient⟩

end TokenForest
