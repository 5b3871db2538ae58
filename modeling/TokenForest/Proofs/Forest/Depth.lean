import Mathlib.Order.Bounds.Lattice
import TokenForest.Proofs.Forest.Closing

set_option autoImplicit false

namespace TokenForest

@[simp] theorem Forest.depth_leaves (leaves : TokenList) : depth (leaves.map .leaf) = 0 := by
  induction leaves with
  | nil => rfl
  | cons token rest ih => simp [depth, Tree.depth, ih]

theorem Forest.Loose.depth {forest : Forest} (loose : forest.Loose) : Forest.depth forest = 0 := by
  rw [loose.eq_map_tokens, depth_leaves]

@[simp] theorem Forest.depth_singleton (tree : Tree) : depth [tree] = tree.depth := by
  simp [depth]

@[simp] theorem Forest.depth_line (children : Forest) : (Tree.unit .line children).depth = depth children := by
  simp [Tree.depth, UnitKind.isDelimited]

theorem Forest.ignoresTrivia_depth : IgnoresTrivia max depth where
  append := depth_append
  nil_join := Nat.zero_max
  join_nil := Nat.max_zero
  loose loose := loose.depth
  line loose := by simp [loose.depth, depth]
  around before after kind children := by
    simp [Tree.depth, before.depth, after.depth]

@[simp] theorem Forest.depth_addLine (children line : Forest) :
    depth (addLine children line) = max (depth children) (depth line) := by
  rw [ignoresTrivia_depth.addLine, depth_singleton, depth_line]

namespace TopLevel

variable {top : TopLevel}

theorem Led.depth_addUnit (led : top.Led) (kind : UnitKind) (children : Forest) :
    Forest.depth (top.addUnit kind children).forest =
      max (Forest.depth top.forest) (Tree.unit kind children).depth := by
  rw [Forest.ignoresTrivia_depth.top_addUnit led, Forest.depth_singleton]

theorem Led.depth_addLine (led : top.Led) (line : Forest) :
    Forest.depth (top.addLine line).forest = max (Forest.depth top.forest) (Forest.depth line) := by
  rw [Forest.ignoresTrivia_depth.top_addLine led, Forest.depth_singleton, Forest.depth_line]

end TopLevel

def Frame.depth (frame : Frame) : Nat :=
  Forest.depth frame.inside + 1

theorem Frame.depth_closed (frame : Frame) (closer : Option Token) :
    (Tree.unit frame.delimiter.unitKind (frame.closed closer)).depth = frame.depth := by
  have delimited : frame.delimiter.unitKind.isDelimited = true := by cases frame <;> rfl
  rw [closed_eq, Tree.depth, if_pos delimited, depth]
  simp [Forest.depth, Tree.depth]

namespace OpenForest

def stackDepth : List Frame → Nat
  | [] => 0
  | frame :: below => max (below.length + frame.depth) (stackDepth below)

def depth (state : OpenForest) : Nat :=
  max (max (Forest.depth state.top.forest) (Forest.depth state.line)) (stackDepth state.stack)

theorem openCount_le_depth (state : OpenForest) : state.openCount ≤ state.depth := by
  unfold openCount depth
  cases state.stack with
  | nil => exact Nat.zero_le _
  | cons frame below =>
    simp only [List.length_cons, stackDepth, Frame.depth]
    omega

theorem depth_enter (state : OpenForest) (frame : Frame) :
    (state.enter frame).depth = max state.depth (state.openCount + frame.depth) := by
  simp only [depth, enter, stackDepth, openCount]
  omega

theorem depth_replace {state : OpenForest} {frame inner : Frame} {below : List Frame}
    (stack : state.stack = frame :: below) {deep : Nat} (deeper : inner.depth = max frame.depth (deep + 1)) :
    ({ state with stack := inner :: below } : OpenForest).depth = max state.depth (state.openCount + deep) := by
  have grown : stackDepth (inner :: below) = max (stackDepth (frame :: below)) (below.length + 1 + deep) := by
    simp only [stackDepth, deeper]
    omega
  simp only [depth, openCount, stack, List.length_cons, grown, Nat.max_assoc]

theorem depth_attach (state : OpenForest) (tree : Tree) :
    (state.attach tree).depth = max state.depth (state.openCount + tree.depth) := by
  unfold attach
  split
  · next none => simp [depth, openCount, none, stackDepth, Nat.max_assoc]
  · next opener children below some =>
    apply depth_replace some
    simp [Frame.depth, Frame.inside, Nat.add_max_add_right]
  · next opener children line below some =>
    apply depth_replace some
    simp [Frame.depth, Frame.inside, Nat.add_max_add_right, Nat.max_assoc]

theorem depth_attachBlock {state : OpenForest} (led : state.top.Led) (children : Forest) :
    (state.attachBlock children).depth = max state.depth (state.openCount + (Tree.unit .block children).depth) := by
  unfold attachBlock
  split
  · next none =>
    simp only [depth, openCount, none, List.length_nil, Nat.zero_add, stackDepth, Nat.max_zero, led.depth_addUnit]
    exact Nat.max_right_comm _ _ _
  · next opener siblings below some =>
    apply depth_replace some
    simp [Frame.depth, Frame.inside, Nat.add_max_add_right]
  · next opener siblings line below some =>
    apply depth_replace some
    simp only [Frame.depth, Frame.inside, Forest.depth_addLine, Forest.depth_append, Forest.depth_singleton]
    rw [Nat.add_max_add_right, Nat.max_right_comm]

theorem depth_breakLine {state : OpenForest} (led : state.top.Led) : state.breakLine.depth = state.depth := by
  unfold breakLine
  split
  · next none => simp [depth, none, led.depth_addLine, Forest.depth]
  · rfl
  · next opener children line below some =>
    simp [depth, some, stackDepth, Frame.depth, Frame.inside]

theorem depth_leave {state : OpenForest} (led : state.top.Led) (closer : Option Token) :
    (state.leave closer).depth = state.depth := by
  cases stack : state.stack with
  | nil => simp [leave, stack]
  | cons frame below =>
    have outer : state.depth =
        max ({ state with stack := below } : OpenForest).depth
          (({ state with stack := below } : OpenForest).openCount + frame.depth) := by
      rw [← depth_enter]
      simp [enter, stack, depth]
    have unit := frame.depth_closed closer
    rw [outer]
    cases delimiter : frame.delimiter with
    | paren =>
      rw [delimiter] at unit
      simp only [leave, stack, delimiter, depth_attach]
      rw [← unit]
      rfl
    | brace =>
      rw [delimiter] at unit
      have attached := @depth_attachBlock { state with stack := below } led (frame.closed closer)
      simp only [leave, stack, delimiter]
      rw [attached, ← unit]
      rfl

theorem depth_leaveTimes {state : OpenForest} (led : state.top.Led) (count : Nat) :
    (leaveTimes count state).depth = state.depth := by
  induction count generalizing state with
  | zero => rfl
  | succ count ih => rw [leaveTimes, ih (led_leave led none), depth_leave led]

theorem depth_finishLenient {state : OpenForest} (led : state.top.Led) :
    Forest.depth state.finishLenient.1 = state.depth := by
  have last := led_leaveTimes led state.openCount
  rw [← depth_leaveTimes led state.openCount, depth, stack_leaveTimes, finishLenient, forest, last.depth_addLine]
  simp [stackDepth]

theorem Effect.depth {state next : OpenForest} {token : Token} {mode : Mode} {error : Option StructureError}
    (effect : Effect state token mode next error) (led : state.top.Led) :
    next.depth = max state.depth next.openCount := by
  have open_le := state.openCount_le_depth
  have leaf : (state.attach (.leaf token)).depth = state.depth := by
    rw [depth_attach]
    exact Nat.max_eq_left open_le
  cases effect with
  | refused | dropped => exact (Nat.max_eq_left open_le).symm
  | misfit | plain => simp [leaf, open_le]
  | separator => simp [depth_breakLine (led_attach led _), leaf, open_le]
  | collection => simp [depth_enter, Frame.depth, Frame.inside, Forest.depth]
  | block => simp [depth_enter, depth_breakLine led, Frame.depth, Frame.inside, Forest.depth]
  | closed =>
    rw [depth_leave led, openCount_leave]
    omega

theorem depth_run (keepTrivia : Bool) (offers : List Offer) :
    IsGreatest {count | ∃ front, front <+: offers ∧ ((empty keepTrivia).run front).openCount = count}
      ((empty keepTrivia).run offers).depth := by
  induction offers using List.reverseRecOn with
  | nil =>
    refine ⟨⟨[], List.prefix_rfl, rfl⟩, ?_⟩
    rintro count ⟨front, none, rfl⟩
    rw [List.prefix_nil.1 none]
    exact openCount_le_depth _
  | append_singleton offers offer ih =>
    have last : (empty keepTrivia).run (offers ++ [offer]) =
        (((empty keepTrivia).run offers).offer offer.mode offer.token).1 := run_append _ offers [offer]
    have effect := ((empty keepTrivia).run offers).offer_effect offer.mode offer.token
    have deeper := effect.depth ((sound_empty keepTrivia).run offers).led
    have points : {count | ∃ front, front <+: offers ++ [offer] ∧ ((empty keepTrivia).run front).openCount = count} =
        insert ((empty keepTrivia).run (offers ++ [offer])).openCount
          {count | ∃ front, front <+: offers ∧ ((empty keepTrivia).run front).openCount = count} := by
      ext count
      simp only [List.prefix_concat_iff, Set.mem_ofPred_eq, Set.mem_insert_iff, or_and_right, exists_or,
        exists_eq_left, eq_comm (a := count)]
    rw [points, last, deeper, Nat.max_comm]
    exact ih.insert _

theorem openCount_of_pushAll {keepTrivia : Bool} {tokens : TokenList} {last : OpenForest}
    (pushed : (empty keepTrivia).pushAll tokens = .ok last) :
    last.openCount + tokens.countP Token.isCloser = tokens.countP Token.isOpener := by
  have scanned := (empty keepTrivia).pushAll_openers tokens
  rw [pushed] at scanned
  have counted := length_of_nest scanned.symm
  simpa [openers, openCount, empty] using counted

end OpenForest

open OpenForest in
/-- A forest is as deep as there were units open at once while it grew, so for a stream that strict grouping takes, as
openers are ahead of closers at most. -/
theorem Forest.depth_eq_most_open (keepTrivia : Bool) :
    (∀ offers : List Offer,
      IsGreatest {count | ∃ front, front <+: offers ∧ ((empty keepTrivia).run front).openCount = count}
        (depth ((empty keepTrivia).run offers).finishLenient.1)) ∧
    ∀ (tokens : TokenList) (forest : Forest), ofTokens keepTrivia tokens = .ok forest →
      IsGreatest {ahead : Int | ∃ front, front <+: tokens ∧
        ahead = front.countP Token.isOpener - front.countP Token.isCloser} (depth forest) := by
  have deepest (offers : List Offer) :
      IsGreatest {count | ∃ front, front <+: offers ∧ ((empty keepTrivia).run front).openCount = count}
        (depth ((empty keepTrivia).run offers).finishLenient.1) := by
    rw [depth_finishLenient ((sound_empty keepTrivia).run offers).led]
    exact depth_run keepTrivia offers
  refine ⟨deepest, fun tokens forest grouped => ?_⟩
  obtain ⟨last, pushed, closed, rfl⟩ := last_of_ofTokens grouped
  have finished : last.finishLenient.1 = last.forest := by simp [finishLenient, openCount, closed, leaveTimes]
  -- No closer fails on the way, so what is open at a point is by how much openers are ahead there.
  have ahead {front : TokenList} (early : front <+: tokens) :
      (((empty keepTrivia).run (front.map (Offer.mk .strict))).openCount : Int) =
        front.countP Token.isOpener - front.countP Token.isCloser := by
    obtain ⟨back, rfl⟩ := early
    obtain ⟨middle, same⟩ := pushAll_front pushed
    have counted := openCount_of_pushAll same
    rw [run_of_pushAll same]
    omega
  have greatest := deepest (tokens.map (Offer.mk .strict))
  rw [run_of_pushAll pushed, finished] at greatest
  obtain ⟨⟨offers, shorter, most⟩, bound⟩ := greatest
  obtain ⟨front, early, rfl⟩ := List.prefix_map_iff.1 shorter
  constructor
  · exact ⟨front, early, by rw [← ahead early, most]⟩
  · rintro _ ⟨other, early, rfl⟩
    rw [← ahead early]
    exact_mod_cast bound ⟨_, early.map _, rfl⟩

end TokenForest
