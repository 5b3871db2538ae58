import TokenForest.Proofs.Forest.Closing
import TokenForest.Proofs.Forest.Groups

set_option autoImplicit false

namespace TokenForest

def StructureError.isMisfit : StructureError → Bool
  | .mismatched .. | .unopened .. => true
  | .unterminated .. => false

structure Forest.Tracks {α : Type} (read : Forest → List α) : Prop extends IgnoresTrivia (· ++ ·) read where
  through_line (children : Forest) : read [.unit .line children] = read children
  leaf {token : Token} (role : ∀ delimiter, token.role ≠ .closer delimiter) : read [.leaf token] = []
  closed {frame : Frame} (opens : frame.opener.role = .opener frame.delimiter) {closer : Token}
    (closes : closer.role = .closer frame.delimiter) :
    read [.unit frame.delimiter.unitKind (frame.closed (some closer))] = read frame.inside

namespace OpenForest

variable {α : Type} {read : Forest → List α} {state : OpenForest}

def stackReading (read : Forest → List α) : List Frame → List α
  | [] => []
  | frame :: below => stackReading read below ++ read frame.inside

def reading (read : Forest → List α) (state : OpenForest) : List α :=
  read state.top.forest ++ read state.line ++ stackReading read state.stack

end OpenForest

namespace Forest.Tracks

variable {α : Type} {read : Forest → List α} {state : OpenForest}

theorem nil (tracks : Tracks read) : read [] = [] := by
  simpa using tracks.nil_join []

theorem addLine_eq (tracks : Tracks read) (children line : Forest) :
    read (addLine children line) = read children ++ read line := by
  rw [tracks.addLine, tracks.through_line]

theorem attach (tracks : Tracks read) (state : OpenForest) (tree : Tree) :
    (state.attach tree).reading read = state.reading read ++ read [tree] := by
  unfold OpenForest.attach
  split
  · next none => simp [OpenForest.reading, none, OpenForest.stackReading, tracks.append]
  · next some => simp [OpenForest.reading, some, OpenForest.stackReading, Frame.inside, tracks.append]
  · next some =>
    simp [OpenForest.reading, some, OpenForest.stackReading, Frame.inside, tracks.addLine_eq, tracks.append]

theorem breakLine (tracks : Tracks read) (led : state.top.Led) :
    state.breakLine.reading read = state.reading read := by
  unfold OpenForest.breakLine
  split
  · next none =>
    simp [OpenForest.reading, none, OpenForest.stackReading, tracks.top_addLine led, tracks.through_line, tracks.nil]
  · rfl
  · next some => simp [OpenForest.reading, some, OpenForest.stackReading, Frame.inside]

theorem attachBlock (tracks : Tracks read) (led : state.top.Led)
    (ended : OpenForest.innerLine state.line state.stack = []) (children : Forest) :
    (state.attachBlock children).reading read = state.reading read ++ read [.unit .block children] := by
  unfold OpenForest.attachBlock
  split
  · next none =>
    have line : state.line = [] := by simpa [none, OpenForest.innerLine] using ended
    simp [OpenForest.reading, none, OpenForest.stackReading, tracks.top_addUnit led, line, tracks.nil]
  · next some => simp [OpenForest.reading, some, OpenForest.stackReading, Frame.inside, tracks.append]
  · next some =>
    simp only [some, OpenForest.innerLine] at ended
    simp [OpenForest.reading, some, OpenForest.stackReading, Frame.inside, tracks.append, ended]

theorem leave (tracks : Tracks read) (steady : state.Steady) (led : state.top.Led) {frame : Frame}
    {below : List Frame} (stack : state.stack = frame :: below) {closer : Option Token}
    (same : read [.unit frame.delimiter.unitKind (frame.closed closer)] = read frame.inside) :
    (state.leave closer).reading read = state.reading read := by
  have split : state.reading read = ({ state with stack := below } : OpenForest).reading read ++ read frame.inside := by
    simp [OpenForest.reading, stack, OpenForest.stackReading]
  rw [split, ← same]
  cases delimiter : frame.delimiter with
  | paren =>
    simp only [OpenForest.leave, stack, delimiter]
    exact tracks.attach _ _
  | brace =>
    have ended : OpenForest.innerLine ({ state with stack := below } : OpenForest).line below = [] :=
      steady.ended stack delimiter
    simp only [OpenForest.leave, stack, delimiter]
    exact @attachBlock _ _ { state with stack := below } tracks led ended _

end Forest.Tracks

theorem Forest.mem_addLine {children line : Forest} {token : Token} (inside : .leaf token ∈ addLine children line) :
    .leaf token ∈ children ∨ token.isTrivia = true := by
  unfold addLine at inside
  split at inside
  · exact .inl (by simpa using inside)
  · next trivia =>
    rcases List.mem_append.1 inside with before | last
    · exact .inl before
    · exact .inr (by simpa [Tree.isSignificant] using loose_of_any trivia _ last)

theorem Forest.subset_addLine (children line : Forest) : children ⊆ addLine children line := by
  unfold addLine
  split <;> exact List.subset_append_left _ _

namespace Frame

def Gapes (frame : Frame) : Prop :=
  ∀ token, .leaf token ∈ frame.inside → token.role ≠ .closer frame.delimiter

theorem isClosed_closed (frame : Frame) {closer : Token} (closes : closer.role = .closer frame.delimiter) :
    Group.isClosed ⟨frame.delimiter.unitKind, frame.closed (some closer)⟩ = true := by
  have significant : (Tree.leaf closer).isSignificant = true := Forest.significant_leaf (by simp [closes])
  have last : Forest.last? (frame.closed (some closer)) = some (.leaf closer) := by
    simpa [closed_eq] using Forest.last?_concat (.leaf frame.opener :: frame.inside) significant
  refine (Group.isClosed_iff _).2 ⟨frame.delimiter, rfl, ?_⟩
  simp [last, Tree.closes, Token.closes_iff, closes]

theorem Gapes.isClosed_eq_false {frame : Frame} (gapes : frame.Gapes)
    (opens : frame.opener.role = .opener frame.delimiter) :
    Group.isClosed ⟨frame.delimiter.unitKind, frame.closed none⟩ = false := by
  rw [← Bool.not_eq_true]
  intro closed
  obtain ⟨front, closer, trail, delimiter, split, -, closes, same⟩ := Group.closer_of_isClosed closed
  have own : frame.delimiter = delimiter := by
    cases left : frame.delimiter <;> cases delimiter <;> simp_all [Delimiter.unitKind]
  subst own
  have child : Tree.leaf closer ∈ frame.closed none := by simp [split]
  rw [closed_eq] at child
  rcases List.mem_cons.1 child with first | inside
  · cases first
    simp [opens] at closes
  · exact gapes closer (by simpa using inside) closes

-- The leaves of a line are not children of the block, unless they are trivia.
theorem Gapes.block {opener : Token} {siblings line : Forest} (gapes : (block opener siblings line).Gapes)
    {children : Forest} (leaves : ∀ token, .leaf token ∈ children → .leaf token ∈ siblings) (another : Forest) :
    (block opener children another).Gapes := by
  intro token inside
  rcases Forest.mem_addLine inside with before | trivia
  · exact gapes token (Forest.subset_addLine siblings line (leaves token before))
  · simp [Token.role_of_isTrivia trivia]

end Frame

namespace OpenForest

variable {state : OpenForest}

def Gapes (state : OpenForest) : Prop :=
  ∀ frame ∈ state.stack, frame.Gapes

theorem misfit_of_fault {token : Token} {error : StructureError} (fault : state.fault? token = some error) :
    error.isMisfit = true ∧ error.token = token := by
  obtain ⟨delimiter, role⟩ := role_of_fault fault
  simp only [fault?, role] at fault
  split at fault
  · cases fault
    exact ⟨rfl, rfl⟩
  · split at fault <;> cases fault
    exact ⟨rfl, rfl⟩

namespace Gapes

theorem replace (gapes : state.Gapes) {frame inner : Frame} {below : List Frame} (stack : state.stack = frame :: below)
    (inside : inner.Gapes) : ({ state with stack := inner :: below } : OpenForest).Gapes := by
  unfold Gapes at *
  rw [stack] at gapes
  exact List.forall_mem_cons.2 ⟨inside, (List.forall_mem_cons.1 gapes).2⟩

theorem enter (gapes : state.Gapes) {frame : Frame} (inside : frame.Gapes) : (state.enter frame).Gapes :=
  List.forall_mem_cons.2 ⟨inside, gapes⟩

theorem breakLine (gapes : state.Gapes) : state.breakLine.Gapes := by
  unfold OpenForest.breakLine
  split
  · exact gapes
  · exact gapes
  · next opener children line below stack =>
    have frame : (Frame.block opener children line).Gapes := gapes _ (by simp [stack])
    refine gapes.replace stack ?_
    simpa [Frame.Gapes, Frame.inside, Frame.delimiter] using frame

theorem attach (gapes : state.Gapes) {tree : Tree}
    (fits : ∀ token frame, tree = .leaf token → state.stack.head? = some frame → token.role ≠ .closer frame.delimiter) :
    (state.attach tree).Gapes := by
  unfold OpenForest.attach
  split
  · exact gapes
  · next opener children below stack =>
    have frame : (Frame.collection opener children).Gapes := gapes _ (by simp [stack])
    refine gapes.replace stack fun token inside => ?_
    rcases List.mem_append.1 inside with before | last
    · exact frame token before
    · exact fits token (.collection opener children) (List.mem_singleton.1 last).symm (by simp [stack])
  · next opener children line below stack =>
    have frame : (Frame.block opener children line).Gapes := gapes _ (by simp [stack])
    exact gapes.replace stack (frame.block (fun _ => id) _)

theorem attachBlock (gapes : state.Gapes) (children : Forest) : (state.attachBlock children).Gapes := by
  unfold OpenForest.attachBlock
  split
  · exact gapes
  · next opener siblings below stack =>
    have frame : (Frame.collection opener siblings).Gapes := gapes _ (by simp [stack])
    refine gapes.replace stack ?_
    simpa [Frame.Gapes, Frame.inside, Frame.delimiter] using frame
  · next opener siblings line below stack =>
    have frame : (Frame.block opener siblings line).Gapes := gapes _ (by simp [stack])
    exact gapes.replace stack (frame.block (by simp) line)

theorem leave (gapes : state.Gapes) (closer : Option Token) : (state.leave closer).Gapes := by
  unfold OpenForest.leave
  split
  · exact gapes
  · next frame below stack =>
    have outer : ({ state with stack := below } : OpenForest).Gapes := fun other inside =>
      gapes other (by simp [stack, show other ∈ below from inside])
    cases frame.delimiter with
    | paren => exact outer.attach fun token frame unit => by cases unit
    | brace => exact outer.attachBlock _

end Gapes

theorem Effect.gapes {next : OpenForest} {token : Token} {mode : Mode} {error : Option StructureError}
    (effect : Effect state token mode next error) (gapes : state.Gapes) : next.Gapes := by
  cases effect with
  | refused | dropped => exact gapes
  | misfit fault =>
    refine gapes.attach fun other frame leaf inner => ?_
    cases leaf
    exact role_ne_of_fault fault inner
  | plain role =>
    refine gapes.attach fun other frame leaf _ => ?_
    cases leaf
    simp [role]
  | separator role =>
    refine (gapes.attach fun other frame leaf _ => ?_).breakLine
    cases leaf
    simp [role]
  | collection => exact gapes.enter (by simp [Frame.Gapes, Frame.inside])
  | block => exact gapes.breakLine.enter (by simp [Frame.Gapes, Frame.inside])
  | closed => exact gapes.leave _

theorem gapes_empty (keepTrivia : Bool) : (empty keepTrivia).Gapes := by
  simp [Gapes, empty]

theorem Gapes.run (gapes : state.Gapes) (offers : List Offer) : (state.run offers).Gapes :=
  run_induction Effect.gapes gapes offers

theorem Effect.reading {α : Type} {read : Forest → List α} (tracks : Forest.Tracks read) {next : OpenForest}
    {token : Token} {error : Option StructureError} (effect : Effect state token .lenient next error)
    (steady : state.Steady) (sound : state.Sound false) :
    next.reading read = state.reading read ++ read (error.toList.map fun error => .leaf error.token) := by
  have leaf (role : ∀ delimiter, token.role ≠ .closer delimiter) : read [.leaf token] = [] := tracks.leaf role
  cases effect with
  | dropped => simp [tracks.nil]
  | misfit fault => simp [tracks.attach, (misfit_of_fault fault).2]
  | plain role => simp [tracks.attach, leaf, role, tracks.nil]
  | separator role => simp [tracks.breakLine (led_attach sound.led _), tracks.attach, leaf, role, tracks.nil]
  | collection => simp [OpenForest.reading, enter, stackReading, Frame.inside, tracks.nil]
  | block =>
    rw [← tracks.breakLine sound.led]
    simp [OpenForest.reading, enter, stackReading, Frame.inside, tracks.nil]
  | @closed _ frame below role stack =>
    have opens := sound.opens frame (by simp [stack])
    simp [tracks.leave steady sound.led stack (tracks.closed opens role), tracks.nil]

theorem reading_pushAllLenient {α : Type} {read : Forest → List α} (tracks : Forest.Tracks read)
    (steady : state.Steady) (sound : state.Sound false) (tokens : TokenList) :
    (state.pushAllLenient tokens).1.reading read =
      state.reading read ++ read ((state.pushAllLenient tokens).2.map fun error => .leaf error.token) := by
  induction tokens generalizing state with
  | nil => simp [pushAllLenient, tracks.nil]
  | cons token rest ih =>
    have effect := state.offer_effect .lenient token
    have later := ih (effect.steady steady) (effect.sound sound)
    rw [effect.reading tracks steady sound, List.append_assoc, ← tracks.append, ← List.map_append] at later
    exact later

theorem pushAllLenient_misfits (state : OpenForest) (tokens : TokenList) :
    ∀ error ∈ (state.pushAllLenient tokens).2, error.isMisfit = true ∧ error.token.isCloser = true := by
  induction tokens generalizing state with
  | nil => simp [pushAllLenient]
  | cons token rest ih =>
    cases fault : state.fault? token with
    | none => simpa [pushAllLenient, pushLenient, fault] using ih (state.absorb token)
    | some first =>
      obtain ⟨misfit, same⟩ := misfit_of_fault fault
      have closer : first.token.isCloser = true := same ▸ token.isCloser_iff.2 (role_of_fault fault)
      simpa [pushAllLenient, pushLenient, fault, misfit, closer] using ih (state.attach (.leaf token))

end OpenForest

end TokenForest
