import TokenForest.Proofs.Forest.Tracking

set_option autoImplicit false

namespace TokenForest

namespace Forest

theorem tracks_strays : Tracks strays where
  toIgnoresTrivia := ignoresTrivia_strays
  through_line children := by simp [Tree.strays, Group.isClosed]
  leaf {token} role := by
    have other : ¬ token.isCloser = true := by simpa [Token.isCloser_iff] using role
    simp [Tree.strays, other]
  closed {frame} opens closer closes := by
    have opener : ¬ frame.opener.isCloser = true := by simp [Token.isCloser_iff, opens]
    have own : closer.isCloser = true := closer.isCloser_iff.2 ⟨_, closes⟩
    rw [strays_singleton, Tree.strays, if_pos (frame.isClosed_closed closes), Frame.closed_eq]
    simp [strays, Tree.strays, opener, own]

theorem groups_closed (frame : Frame) (closer : Option Token) : groups (frame.closed closer) = groups frame.inside := by
  cases closer <;> simp [Frame.closed_eq, groups, Tree.groups]

theorem leftOpen_closed (frame : Frame) (closer : Option Token) :
    leftOpen (frame.closed closer) = leftOpen frame.inside := by
  rw [leftOpen, groups_closed, leftOpen]

theorem tracks_begun : Tracks begun where
  toIgnoresTrivia := ignoresTrivia_begun
  through_line children := by simp [begun, leftOpen_unit, Group.isLeftOpen, UnitKind.isDelimited]
  leaf {token} _ := by simp [begun, leftOpen, Tree.groups]
  closed {frame} opens closer closes := by
    have closed : ¬ Group.isLeftOpen ⟨frame.delimiter.unitKind, frame.closed (some closer)⟩ = true := by
      simp [Group.isLeftOpen, frame.isClosed_closed closes]
    rw [begun, leftOpen_unit, if_neg closed, List.nil_append, leftOpen_closed, begun]

theorem strays_unclosed {frame : Frame} (gapes : frame.Gapes)
    (opens : frame.opener.role = .opener frame.delimiter) :
    strays [.unit frame.delimiter.unitKind (frame.closed none)] = strays frame.inside := by
  have opener : ¬ frame.opener.isCloser = true := by simp [Token.isCloser_iff, opens]
  have unclosed : ¬ Group.isClosed ⟨frame.delimiter.unitKind, frame.closed none⟩ = true := by
    simp [gapes.isClosed_eq_false opens]
  rw [strays_singleton, Tree.strays, if_neg unclosed, Frame.closed_eq]
  simp [strays, Tree.strays, opener]

/-- The units of these openers, the innermost first, lack their closers, and each lies inside the next. No other unit of
the forest is left open. -/
structure Awaits (openers : List (Token × Delimiter)) (forest : Forest) : Prop where
  opens : ∀ opened ∈ openers, opened.1.role = .opener opened.2
  begun : forest.begun = openers.reverse.map fun opened => (opened.2.unitKind, some (.leaf opened.1))
  nested : (leftOpen forest).Pairwise fun outer inner => inner ∈ groups outer.children

namespace Awaits

variable {openers : List (Token × Delimiter)} {forest : Forest}

theorem none (clean : forest.begun = []) : Awaits [] forest where
  opens := by simp
  begun := clean
  nested := by
    have empty : leftOpen forest = [] := by simpa [Forest.begun] using clean
    simp [empty]

theorem append_front (awaits : Awaits openers forest) {front : Forest} (clean : front.begun = []) :
    Awaits openers (front ++ forest) where
  opens := awaits.opens
  begun := by rw [tracks_begun.append, clean, List.nil_append, awaits.begun]
  nested := by
    have empty : leftOpen front = [] := by simpa [Forest.begun] using clean
    simpa [empty] using awaits.nested

theorem line (awaits : Awaits openers forest) : Awaits openers [.unit .line forest] where
  opens := awaits.opens
  begun := by rw [tracks_begun.through_line, awaits.begun]
  nested := by simpa [leftOpen_unit, Group.isLeftOpen, UnitKind.isDelimited] using awaits.nested

theorem unit {frame : Frame} (awaits : Awaits openers frame.inside) (gapes : frame.Gapes)
    (opens : frame.opener.role = .opener frame.delimiter) {lead : Forest} (before : lead.Loose) :
    Awaits (openers ++ [(frame.opener, frame.delimiter)])
      [.unit frame.delimiter.unitKind (lead ++ frame.closed .none)] := by
  have around := Group.isLeftOpen_around before loose_nil frame.delimiter.unitKind (frame.closed .none)
  have left : Group.isLeftOpen ⟨frame.delimiter.unitKind, lead ++ frame.closed .none⟩ = true := by
    have delimited : frame.delimiter.unitKind.isDelimited = true := by cases frame <;> rfl
    rw [List.append_nil] at around
    rw [around, Group.isLeftOpen, gapes.isClosed_eq_false opens, delimited]
    rfl
  have first : first? (lead ++ frame.closed .none) = some (.leaf frame.opener) := by
    have significant : (Tree.leaf frame.opener).isSignificant = true := significant_leaf (by simp [opens])
    have own := first?_around before loose_nil (frame.closed .none)
    rw [List.append_nil] at own
    rw [own, Frame.closed_eq]
    simp [first?, significant]
  have within : leftOpen (lead ++ frame.closed .none) = leftOpen frame.inside := by
    have none : leftOpen lead = [] := by simp [leftOpen, before.groups]
    rw [leftOpen_append, none, List.nil_append, leftOpen_closed]
  constructor
  · exact List.forall_mem_append.2 ⟨awaits.opens, by simpa using opens⟩
  · have inner := awaits.begun
    unfold Forest.begun at inner
    simp [Forest.begun, leftOpen_unit, left, first, within, inner]
  · rw [leftOpen_unit, if_pos left, within, List.singleton_append, List.pairwise_cons]
    refine ⟨fun group inside => ?_, awaits.nested⟩
    rw [← within] at inside
    exact (List.mem_filter.1 inside).1

theorem nests (openers : List (Token × Delimiter)) :
    Nests (fun front => front.begun = []) fun part _ => Awaits openers part where
  behind ahead inner := inner.append_front ahead
  line inner := inner.line
  loose loose := tracks_begun.loose loose
  append first second := by rw [tracks_begun.append, first, second, List.append_nil]
  of_addLine whole := by rwa [tracks_begun.addLine_eq, List.append_eq_nil_iff] at whole

theorem length (awaits : Awaits openers forest) : (leftOpen forest).length = openers.length := by
  simpa [Forest.begun] using congrArg List.length awaits.begun

theorem innermost (awaits : Awaits openers forest) :
    (leftOpen forest).getLast?.map (fun group => (group.kind, first? group.children)) =
      openers.head?.map fun opened => (opened.2.unitKind, some (.leaf opened.1)) := by
  simpa [Forest.begun] using congrArg List.getLast? awaits.begun

end Awaits

end Forest

namespace OpenForest

variable {state : OpenForest}

-- By induction on the units below: a unit that lacks its closer goes into the next one, and that one lacks its own too.
theorem awaits_leaveTimes {openers : List (Token × Delimiter)} {frame : Frame} {below : List Frame} {keepTrivia : Bool}
    {top : TopLevel} {line : Forest} (awaits : Forest.Awaits openers frame.inside)
    (steady : (OpenForest.mk keepTrivia (frame :: below) top line).Steady) (led : top.Led)
    (gapes : (OpenForest.mk keepTrivia (frame :: below) top line).Gapes)
    (opens : ∀ other ∈ frame :: below, other.opener.role = .opener other.delimiter)
    (clean : (OpenForest.mk keepTrivia below top line).reading Forest.begun = []) :
    Forest.Awaits (openers ++ (OpenForest.mk keepTrivia (frame :: below) top line).openers)
      (leaveTimes (below.length + 1) (OpenForest.mk keepTrivia (frame :: below) top line)).forest := by
  induction below generalizing frame openers with
  | nil =>
    simp only [reading, stackReading, List.append_nil, List.append_eq_nil_iff] at clean
    have own : frame.opener.role = .opener frame.delimiter := opens frame List.mem_cons_self
    have unit (lead : Forest) (before : lead.Loose) := awaits.unit (gapes frame List.mem_cons_self) own before
    have single : (OpenForest.mk keepTrivia [frame] top line).openers = [(frame.opener, frame.delimiter)] := rfl
    have once : leaveTimes 1 (OpenForest.mk keepTrivia [frame] top line) =
        (OpenForest.mk keepTrivia [frame] top line).leave none := rfl
    rw [single, List.length_nil, Nat.zero_add, once]
    exact (Forest.Awaits.nests _).leave_last rfl none none unit steady led clean.1 clean.2
  | cons outer below ih =>
    have own : frame.opener.role = .opener frame.delimiter := opens frame List.mem_cons_self
    have unit := awaits.unit (gapes frame List.mem_cons_self) own Forest.loose_nil
    rw [List.nil_append] at unit
    have left := @leave_inner (OpenForest.mk keepTrivia (frame :: outer :: below) top line) _ _ _ rfl none
    obtain ⟨cleanBelow, cleanOuter⟩ := List.append_eq_nil_iff.1 ((List.append_assoc _ _ _).trans clean)
    have next := (Forest.Awaits.nests _).receive (frame.closed none) (frame.closed none) unit cleanOuter (steady.ended rfl)
    have others : ∀ other ∈ outer.receive frame.delimiter (frame.closed none) :: below,
        other.opener.role = .opener other.delimiter := by
      simpa using (List.forall_mem_cons.1 opens).2
    have rest := ih next (left ▸ steady.leave none) (left ▸ gapes.leave none) others cleanBelow
    rw [List.length_cons, leaveTimes, left]
    simpa [OpenForest.openers] using rest

theorem awaits_finishLenient (steady : state.Steady) (sound : state.Sound false) (gapes : state.Gapes)
    (clean : state.reading Forest.begun = []) : Forest.Awaits state.openers state.finishLenient.1 := by
  have led := sound.led
  have opens := sound.opens
  obtain ⟨keepTrivia, stack, top, line⟩ := state
  cases stack with
  | nil =>
    have whole : Forest.begun (top.addLine line).forest = [] := by
      rw [Forest.tracks_begun.top_addLine led, Forest.tracks_begun.through_line]
      simpa [reading, stackReading] using clean
    exact .none whole
  | cons frame below =>
    simp only [reading, stackReading, ← List.append_assoc] at clean
    obtain ⟨cleanBelow, cleanInside⟩ := List.append_eq_nil_iff.1 clean
    exact awaits_leaveTimes (.none cleanInside) steady led gapes opens cleanBelow

theorem strays_leaveTimes (steady : state.Steady) (led : state.top.Led) (gapes : state.Gapes)
    (opens : ∀ opened ∈ state.openers, opened.1.role = .opener opened.2) (count : Nat) :
    (leaveTimes count state).reading Forest.strays = state.reading Forest.strays := by
  induction count generalizing state with
  | zero => rfl
  | succ count ih =>
    cases stack : state.stack with
    | nil =>
      have same : state.leave none = state := by simp [leave, stack]
      rw [leaveTimes, same]
      exact ih steady led gapes opens
    | cons frame below =>
      have frames : frame.opener.role = .opener frame.delimiter ∧
          ∀ opened ∈ (state.leave none).openers, opened.1.role = .opener opened.2 := by
        rw [openers_leave stack]
        simpa [openers, stack] using opens
      have inside := Forest.strays_unclosed (gapes frame (by simp [stack])) frames.1
      rw [leaveTimes, ih (steady.leave none) (led_leave led none) (gapes.leave none) frames.2]
      exact Forest.tracks_strays.leave steady led stack inside

theorem strays_finishLenient (steady : state.Steady) (sound : state.Sound false) (gapes : state.Gapes) :
    Forest.strays state.finishLenient.1 = state.reading Forest.strays := by
  have opens : ∀ opened ∈ state.openers, opened.1.role = .opener opened.2 := by
    simpa [openers] using sound.opens
  have led := led_leaveTimes sound.led state.openCount
  rw [← strays_leaveTimes steady sound.led gapes opens state.openCount, reading, stack_leaveTimes, finishLenient,
    forest, Forest.tracks_strays.top_addLine led, Forest.tracks_strays.through_line, stackReading, List.append_nil]

end OpenForest

theorem Forest.strays_leaves {leaves : TokenList} (closers : ∀ token ∈ leaves, token.isCloser = true) :
    strays (leaves.map .leaf) = leaves := by
  induction leaves with
  | nil => rfl
  | cons token rest ih =>
    obtain ⟨first, later⟩ := List.forall_mem_cons.1 closers
    simp [strays, Tree.strays, first, ih later]

theorem Forest.begun_leaves (leaves : TokenList) : begun (leaves.map .leaf) = [] := by
  induction leaves with
  | nil => rfl
  | cons token rest ih => simpa [begun, leftOpen, groups, Tree.groups] using ih

open OpenForest in
theorem Forest.recover_awaits (keepTrivia : Bool) (tokens : TokenList) :
    ∃ openers faults, Awaits openers (recover keepTrivia tokens).forest ∧
      (recover keepTrivia tokens).errors = faults ++
        (openers.head?.map fun opened => .unterminated opened.1 opened.2 openers.length).toList ∧
      (∀ error ∈ faults, error.isMisfit = true) ∧
      faults.map StructureError.token = strays (recover keepTrivia tokens).forest := by
  have sound := (sound_empty keepTrivia).run (tokens.map (Offer.mk .lenient))
  have steady := (steady_empty keepTrivia).run (tokens.map (Offer.mk .lenient))
  have gapes := (gapes_empty keepTrivia).run (tokens.map (Offer.mk .lenient))
  rw [(run_of_pushAllLenient _ tokens).1] at sound steady gapes
  have strays := reading_pushAllLenient tracks_strays (steady_empty keepTrivia) (sound_empty keepTrivia) tokens
  have begun := reading_pushAllLenient tracks_begun (steady_empty keepTrivia) (sound_empty keepTrivia) tokens
  have faults := (empty keepTrivia).pushAllLenient_misfits tokens
  have leaves : ((empty keepTrivia).pushAllLenient tokens).2.map (fun error => Tree.leaf error.token) =
      (((empty keepTrivia).pushAllLenient tokens).2.map StructureError.token).map .leaf := by
    rw [List.map_map]
    rfl
  rw [leaves, strays_leaves (by simpa using fun error inside => (faults error inside).2)] at strays
  rw [leaves, begun_leaves] at begun
  refine ⟨((empty keepTrivia).pushAllLenient tokens).1.openers, ((empty keepTrivia).pushAllLenient tokens).2,
    awaits_finishLenient steady sound gapes begun, ?_, fun error inside => (faults error inside).1, ?_⟩
  · rw [← unclosed?_eq]
    rfl
  · exact strays.symm.trans (strays_finishLenient steady sound gapes).symm

/-- Recovery accounts for every delimiter. Each opener begins a unit, and each closer closes one or is a stray with an
error of its own. If units are left open, they lie inside one another, and one more error, the last, names the opener of
the innermost. -/
theorem Forest.recover_accounts (keepTrivia : Bool) (tokens : TokenList) :
    let structured := recover keepTrivia tokens
    let misfits := structured.errors.filter StructureError.isMisfit
    let left := leftOpen structured.forest
    (∀ delimiter : Delimiter,
      (groups structured.forest).countP (·.kind = delimiter.unitKind) = tokens.countP (·.Opens delimiter)) ∧
    tokens.countP Token.isCloser = (groups structured.forest).countP Group.isClosed + misfits.length ∧
    misfits.map StructureError.token = strays structured.forest ∧
    left.Pairwise (fun outer inner => inner ∈ groups outer.children) ∧
    match left.getLast? with
    | none => structured.errors = misfits
    | some innermost => ∃ opener delimiter, innermost.kind = delimiter.unitKind ∧
        first? innermost.children = some (.leaf opener) ∧ opener.Opens delimiter ∧
        structured.errors = misfits ++ [.unterminated opener delimiter left.length] := by
  intro structured misfits left
  have held : Forest.tokens structured.forest = TokenList.kept keepTrivia tokens := tokens_recover keepTrivia tokens
  have top : structured.forest.AtTop := atTop_recover keepTrivia tokens
  obtain ⟨openers, faults, awaits, errors, misfit, own⟩ := recover_awaits keepTrivia tokens
  have same : misfits = faults := by
    have kept : faults.filter StructureError.isMisfit = faults := List.filter_eq_self.2 misfit
    have split : misfits = (faults ++ _).filter StructureError.isMisfit :=
      congrArg (List.filter StructureError.isMisfit) errors
    rw [split, List.filter_append, kept]
    cases openers <;> simp [StructureError.isMisfit]
  rw [same]
  refine ⟨fun delimiter => ?_, ?_, own, awaits.nested, ?_⟩
  · have counted := top.countP_opens delimiter
    rw [held, TokenList.countP_kept (fun token opens => ?_)] at counted
    · exact counted.symm
    · simp [(token.opens_iff delimiter).1 (by simpa using opens)]
  · have counted := Forest.countP_isCloser structured.forest
    rw [held, TokenList.countP_kept (fun token closer => ?_), ← own, List.length_map] at counted
    · exact counted
    · obtain ⟨delimiter, role⟩ := token.isCloser_iff.1 closer
      simp [role]
  · have innermost := awaits.innermost
    have length : left.length = openers.length := awaits.length
    rw [length]
    cases openers with
    | nil =>
      have none : left.getLast? = none := by simpa using innermost
      rw [none]
      exact errors.trans (List.append_nil _)
    | cons last below =>
      obtain ⟨group, found, begins⟩ := Option.map_eq_some_iff.1 innermost
      obtain ⟨kind, first⟩ := Prod.mk.inj begins
      have some : left.getLast? = some group := found
      rw [some]
      exact ⟨last.1, last.2, kind, first, (last.1.opens_iff _).2 (awaits.opens last List.mem_cons_self), errors⟩

end TokenForest
