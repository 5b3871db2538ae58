import TokenForest.Proofs.Forest.Growth
import TokenForest.Proofs.Forest.Nesting

set_option autoImplicit false

namespace TokenForest

/-- The second forest is the first with these closers, innermost first: each of them is added as the last child of the
unit that its opener begins. The units lie inside one another at the end of the forest. -/
inductive Forest.ClosedBy : List (Token × Delimiter) → TokenList → Forest → Forest → Prop
  | none (forest : Forest) : ClosedBy [] [] forest forest
  | line {openers : List (Token × Delimiter)} {closers : TokenList} {front part whole : Forest}
      (inner : ClosedBy openers closers part whole) :
      ClosedBy openers closers (front ++ [.unit .line part]) (front ++ [.unit .line whole])
  | unit {openers : List (Token × Delimiter)} {closers : TokenList} {front lead part whole : Forest}
      {opener closer : Token} {delimiter : Delimiter} (inner : ClosedBy openers closers part whole)
      (before : Loose lead) (closes : closer.Closes delimiter) :
      ClosedBy (openers ++ [(opener, delimiter)]) (closers ++ [closer])
        (front ++ [.unit delimiter.unitKind (lead ++ .leaf opener :: part)])
        (front ++ [.unit delimiter.unitKind (lead ++ .leaf opener :: (whole ++ [.leaf closer]))])

theorem Forest.any_concat_unit (line : Forest) (kind : UnitKind) (children : Forest) :
    (line ++ [Tree.unit kind children]).any Tree.isSignificant = true := by
  simp [Tree.isSignificant]

namespace Forest.ClosedBy

variable {openers : List (Token × Delimiter)} {closers : TokenList} {part whole : Forest}

theorem append_front (closed : ClosedBy openers closers part whole) (front : Forest) :
    ClosedBy openers closers (front ++ part) (front ++ whole) := by
  cases closed with
  | none forest => exact .none _
  | line inner =>
    rw [← List.append_assoc, ← List.append_assoc]
    exact .line inner
  | unit inner before closes =>
    rw [← List.append_assoc, ← List.append_assoc]
    exact .unit inner before closes

end Forest.ClosedBy

namespace Frame

def inside : Frame → Forest
  | collection _ children => children
  | block _ children line => Forest.addLine children line

theorem closed_eq (frame : Frame) (closer : Option Token) :
    frame.closed closer = .leaf frame.opener :: (frame.inside ++ closer.toList.map .leaf) := by
  cases frame <;> simp [closed, opener, inside]

def receive (delimiter : Delimiter) (children : Forest) : Frame → Frame
  | collection opener siblings => collection opener (siblings ++ [.unit delimiter.unitKind children])
  | block opener siblings line =>
    match delimiter with
    | .paren => block opener siblings (line ++ [.unit .collection children])
    | .brace => block opener (siblings ++ [.unit .block children]) line

@[simp] theorem opener_receive (delimiter : Delimiter) (children : Forest) (frame : Frame) :
    (frame.receive delimiter children).opener = frame.opener := by
  cases frame <;> cases delimiter <;> rfl

@[simp] theorem delimiter_receive (delimiter : Delimiter) (children : Forest) (frame : Frame) :
    (frame.receive delimiter children).delimiter = frame.delimiter := by
  cases frame <;> cases delimiter <;> rfl

end Frame

namespace OpenForest

theorem push_closer {state : OpenForest} {frame : Frame} {below : List Frame} (stack : state.stack = frame :: below)
    {closer : Token} (closes : closer.Closes frame.delimiter) :
    state.push closer = .ok (state.leave (some closer)) := by
  have role : closer.role = .closer frame.delimiter := (closer.role_eq_closer_iff _).2 closes
  have significant : closer.isTrivia = false := Token.isTrivia_of_role_ne_plain (by simp [role])
  simp [push, fault?, absorb, stack, role, significant]

theorem leave_inner {state : OpenForest} {frame outer : Frame} {below : List Frame}
    (stack : state.stack = frame :: outer :: below) (closer : Option Token) :
    state.leave closer =
      { state with stack := outer.receive frame.delimiter (frame.closed closer) :: below } := by
  unfold leave
  cases delimiter : frame.delimiter <;> cases outer <;>
    simp [stack, delimiter, attach, attachBlock, Frame.receive, Delimiter.unitKind]

theorem forest_leave_paren {frame : Frame} (paren : frame.delimiter = .paren) (keepTrivia : Bool) (top : TopLevel)
    (line : Forest) (closer : Option Token) :
    ((OpenForest.mk keepTrivia [frame] top line).leave closer).forest =
      (top.addUnit .line (line ++ [.unit .collection (frame.closed closer)])).forest := by
  simp [leave, paren, attach, forest, TopLevel.addLine, Tree.isSignificant]

theorem forest_leave_brace {frame : Frame} (brace : frame.delimiter = .brace) (keepTrivia : Bool) (top : TopLevel)
    (closer : Option Token) :
    ((OpenForest.mk keepTrivia [frame] top []).leave closer).forest =
      (top.addUnit .block (frame.closed closer)).forest := by
  simp [leave, brace, attachBlock, forest]

end OpenForest

structure Forest.Nests (clean : Forest → Prop) (related : Forest → Forest → Prop) : Prop where
  behind {front part whole : Forest} (ahead : clean front) (inner : related part whole) :
    related (front ++ part) (front ++ whole)
  line {part whole : Forest} (inner : related part whole) : related [.unit .line part] [.unit .line whole]
  loose {trivia : Forest} (loose : trivia.Loose) : clean trivia
  append {front back : Forest} (first : clean front) (second : clean back) : clean (front ++ back)
  of_addLine {children line : Forest} (whole : clean (addLine children line)) : clean children ∧ clean line

namespace Forest.Nests

variable {clean : Forest → Prop} {related : Forest → Forest → Prop} {part whole : Forest}

theorem receive (nests : Nests clean related) {delimiter : Delimiter} (part whole : Forest)
    (unit : related [.unit delimiter.unitKind part] [.unit delimiter.unitKind whole]) {frame : Frame}
    (ahead : clean frame.inside) {below : List Frame} {line : Forest}
    (ended : delimiter = .brace → OpenForest.innerLine line (frame :: below) = []) :
    related (frame.receive delimiter part).inside (frame.receive delimiter whole).inside := by
  cases frame with
  | collection opener siblings => exact nests.behind ahead unit
  | block opener siblings own =>
    obtain ⟨before, beside⟩ := nests.of_addLine ahead
    cases delimiter with
    | paren =>
      simp only [Frame.receive, Frame.inside, addLine, any_concat_unit, if_true]
      exact nests.behind before (nests.line (nests.behind beside unit))
    | brace =>
      cases ended rfl
      simp only [Frame.receive, Frame.inside, addLine_nil]
      exact nests.behind before unit

-- Only trivia may lead a forest, so a unit at its beginning still begins with its opener.
theorem addUnit (nests : Nests clean related) {kind : UnitKind}
    (unit : ∀ lead : Forest, lead.Loose → related [.unit kind (lead ++ part)] [.unit kind (lead ++ whole)])
    {top : TopLevel} (led : top.Led) (ahead : clean top.forest) :
    related (top.addUnit kind part).forest (top.addUnit kind whole).forest := by
  cases top with
  | leading trivia => exact unit trivia led
  | units earlier latest children => exact nests.behind ahead (unit [] loose_nil)

theorem leave_last (nests : Nests clean related) {frame other : Frame} (same : other.delimiter = frame.delimiter)
    (closer another : Option Token)
    (unit : ∀ lead : Forest, lead.Loose → related [.unit frame.delimiter.unitKind (lead ++ frame.closed closer)]
      [.unit frame.delimiter.unitKind (lead ++ other.closed another)])
    {keepTrivia : Bool} {top : TopLevel} {line : Forest} (steady : (OpenForest.mk keepTrivia [frame] top line).Steady)
    (led : top.Led) (ahead : clean top.forest) (beside : clean line) :
    related ((OpenForest.mk keepTrivia [frame] top line).leave closer).forest
      ((OpenForest.mk keepTrivia [other] top line).leave another).forest := by
  cases delimiter : frame.delimiter with
  | paren =>
    rw [delimiter] at unit
    rw [OpenForest.forest_leave_paren delimiter, OpenForest.forest_leave_paren (same.trans delimiter)]
    refine nests.addUnit (fun lead before => ?_) led ahead
    rw [← List.append_assoc, ← List.append_assoc]
    exact nests.line (nests.behind (nests.append (nests.loose before) beside) (unit [] loose_nil))
  | brace =>
    have ended : line = [] := steady.ended rfl delimiter
    rw [delimiter] at unit
    rw [ended, OpenForest.forest_leave_brace delimiter, OpenForest.forest_leave_brace (same.trans delimiter)]
    exact nests.addUnit unit led ahead

end Forest.Nests

theorem Forest.nests_closedBy (openers : List (Token × Delimiter)) (closers : TokenList) :
    Nests (fun _ => True) (ClosedBy openers closers) where
  behind _ inner := inner.append_front _
  line inner := @ClosedBy.line _ _ [] _ _ inner
  loose _ := trivial
  append _ _ := trivial
  of_addLine _ := ⟨trivial, trivial⟩

namespace OpenForest

structure Alike (openers : List (Token × Delimiter)) (closers : TokenList) (frame other : Frame) : Prop where
  opener : other.opener = frame.opener
  delimiter : other.delimiter = frame.delimiter
  inside : Forest.ClosedBy openers closers frame.inside other.inside

namespace Alike

variable {openers : List (Token × Delimiter)} {closers : TokenList} {frame other : Frame}

theorem closed (alike : Alike openers closers frame other) {closer : Token} (closes : closer.Closes frame.delimiter)
    {lead : Forest} (before : lead.Loose) :
    Forest.ClosedBy (openers ++ [(frame.opener, frame.delimiter)]) (closers ++ [closer])
      [.unit frame.delimiter.unitKind (lead ++ frame.closed none)]
      [.unit frame.delimiter.unitKind (lead ++ other.closed (some closer))] := by
  have unit := @Forest.ClosedBy.unit openers closers [] lead _ _ frame.opener closer _ alike.inside before closes
  simpa [Frame.closed_eq, alike.opener] using unit

theorem leave_last (alike : Alike openers closers frame other) {keepTrivia : Bool} {top : TopLevel} {line : Forest}
    (steady : (OpenForest.mk keepTrivia [frame] top line).Steady) (led : top.Led) {closer : Token}
    (closes : closer.Closes frame.delimiter) :
    Forest.ClosedBy (openers ++ [(frame.opener, frame.delimiter)]) (closers ++ [closer])
      ((OpenForest.mk keepTrivia [frame] top line).leave none).forest
      ((OpenForest.mk keepTrivia [other] top line).leave (some closer)).forest := by
  have unit (lead : Forest) (before : lead.Loose) := alike.closed closes before
  exact (Forest.nests_closedBy _ _).leave_last alike.delimiter none (some closer) unit steady led trivial trivial

theorem receive (alike : Alike openers closers frame other) {outer : Frame} {below : List Frame} {line : Forest}
    (ended : frame.delimiter = .brace → innerLine line (outer :: below) = []) {closer : Token}
    (closes : closer.Closes frame.delimiter) :
    Alike (openers ++ [(frame.opener, frame.delimiter)]) (closers ++ [closer])
      (outer.receive frame.delimiter (frame.closed none))
      (outer.receive frame.delimiter (other.closed (some closer))) :=
  ⟨by simp, by simp, (Forest.nests_closedBy _ _).receive _ _ (alike.closed closes Forest.loose_nil) trivial ended⟩

theorem pushAll_cons (alike : Alike openers closers frame other) {closer : Token}
    (closes : closer.Closes frame.delimiter) (keepTrivia : Bool) (below : List Frame) (top : TopLevel) (line : Forest)
    (rest : TokenList) :
    (OpenForest.mk keepTrivia (other :: below) top line).pushAll (closer :: rest) =
      ((OpenForest.mk keepTrivia (other :: below) top line).leave (some closer)).pushAll rest := by
  have pushed : (OpenForest.mk keepTrivia (other :: below) top line).push closer =
      .ok ((OpenForest.mk keepTrivia (other :: below) top line).leave (some closer)) :=
    push_closer rfl (alike.delimiter.symm ▸ closes)
  simp [pushAll, pushed]

-- By induction on the units below: a unit that is closed goes into the next one, and again they are alike.
theorem close (alike : Alike openers closers frame other) {keepTrivia : Bool} {below : List Frame} {top : TopLevel}
    {line : Forest} (steady : (OpenForest.mk keepTrivia (frame :: below) top line).Steady) (led : top.Led)
    {more : TokenList}
    (closes : List.Forall₂ (fun closer opened => closer.Closes opened.2) more
      (OpenForest.mk keepTrivia (frame :: below) top line).openers) :
    ∃ last, (OpenForest.mk keepTrivia (other :: below) top line).pushAll more = .ok last ∧ last.stack = [] ∧
      Forest.ClosedBy (openers ++ (OpenForest.mk keepTrivia (frame :: below) top line).openers) (closers ++ more)
        (leaveTimes (below.length + 1) (OpenForest.mk keepTrivia (frame :: below) top line)).forest last.forest := by
  induction below generalizing frame other openers closers more with
  | nil =>
    obtain ⟨closer, rest, own, later, rfl⟩ := List.forall₂_cons_right_iff.1 closes
    cases later
    refine ⟨_, alike.pushAll_cons own keepTrivia [] top line [], ?_, alike.leave_last steady led own⟩
    simpa [openCount] using openCount_leave (OpenForest.mk keepTrivia [other] top line) (some closer)
  | cons outer below ih =>
    obtain ⟨closer, rest, own, later, rfl⟩ := List.forall₂_cons_right_iff.1 closes
    have implicit := @leave_inner (OpenForest.mk keepTrivia (frame :: outer :: below) top line) _ _ _ rfl none
    have explicit := @leave_inner (OpenForest.mk keepTrivia (other :: outer :: below) top line) _ _ _ rfl (some closer)
    have next := alike.receive (steady.ended rfl) own
    rw [alike.delimiter] at explicit
    obtain ⟨last, pushed, empty, closed⟩ :=
      ih next (implicit ▸ steady.leave none) (by simpa [OpenForest.openers] using later)
    refine ⟨last, ?_, empty, ?_⟩
    · rw [alike.pushAll_cons own, explicit, pushed]
    · rw [leaveTimes, List.length_cons, implicit]
      simpa [OpenForest.openers] using closed

end Alike

/-- Closers for the open units, innermost unit first, are all taken, and then nothing is open. Without them the end of
the stream closes the units, and the forest is the same but for the closers, each of which is the last child of its
unit. -/
theorem finish_after_closers (keepTrivia : Bool) (offers : List Offer) {closers : TokenList}
    (closes : List.Forall₂ (fun closer opened => closer.Closes opened.2) closers
      ((empty keepTrivia).run offers).openers) :
    ∃ last forest, ((empty keepTrivia).run offers).pushAll closers = .ok last ∧ last.finish = .ok forest ∧
      Forest.ClosedBy ((empty keepTrivia).run offers).openers closers
        ((empty keepTrivia).run offers).finishLenient.1 forest := by
  have sound := (sound_empty keepTrivia).run offers
  have steady := (steady_empty keepTrivia).run offers
  generalize (empty keepTrivia).run offers = state at *
  obtain ⟨keepTrivia, stack, top, line⟩ := state
  cases stack with
  | nil =>
    cases closes
    exact ⟨_, _, rfl, rfl, .none _⟩
  | cons frame below =>
    have alike : Alike [] [] frame frame := ⟨rfl, rfl, .none _⟩
    obtain ⟨last, pushed, empty, closed⟩ := alike.close steady sound.led closes
    refine ⟨last, last.forest, pushed, by simp [finish, unclosed?, empty], closed⟩

theorem finish_after_closers_nested :
    let word : Token := ⟨.name .unflavoured, "a", ⟨0, 0⟩⟩
    let mark (text : String) : Token := ⟨.punctuation .unflavoured, text, ⟨0, 0⟩⟩
    let state := (empty false).run
      [⟨.strict, word⟩, ⟨.strict, mark "\x7b"⟩, ⟨.strict, word⟩, ⟨.strict, mark "("⟩, ⟨.lenient, mark "\x7d"⟩]
    state.openers = [(mark "(", .paren), (mark "\x7b", .brace)] ∧
      ∃ last forest, state.pushAll [mark ")", mark "\x7d"] = .ok last ∧ last.finish = .ok forest ∧
        Forest.ClosedBy state.openers [mark ")", mark "\x7d"] state.finishLenient.1 forest := by
  intro word mark state
  have opened : state.openers = [(mark "(", .paren), (mark "\x7b", .brace)] := by decide +kernel
  refine ⟨opened, finish_after_closers false _ ?_⟩
  change List.Forall₂ _ _ state.openers
  rw [opened]
  exact .cons ⟨rfl, rfl⟩ (.cons ⟨rfl, rfl⟩ .nil)

end OpenForest

end TokenForest
