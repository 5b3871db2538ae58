import TokenForest.Forest.Open
import TokenForest.Proofs.Forest.Grammar

set_option autoImplicit false

namespace TokenForest

namespace Forest

structure Pending (line : Forest) : Prop where
  inside : ∀ tree ∈ line, tree.InLine
  sound : Sound line

theorem pending_nil : Pending [] :=
  ⟨by simp, sound_nil⟩

theorem Pending.concat {line : Forest} (pending : Pending line) {tree : Tree} (inside : tree.InLine)
    (sound : Sound [tree]) : Pending (line ++ [tree]) where
  inside := List.forall_mem_append.2 ⟨pending.inside, by simpa using inside⟩
  sound := sound_append.2 ⟨pending.sound, sound⟩

theorem Pending.built {line : Forest} (pending : Pending line) : Built false .line line := by
  have none : Built false .line (line ++ (none : Option Token).toList.map .leaf) :=
    .line pending.inside (by simp) rfl
  simpa using none

theorem Pending.built_ended {line : Forest} (pending : Pending line) {token : Token}
    (separates : token.role = .separator) : Built true .line (line ++ [.leaf token]) := by
  have some : Built true .line (line ++ (some token).toList.map .leaf) :=
    .line pending.inside (by simpa using separates) rfl
  simpa using some

theorem Pending.sound_ended {line : Forest} (pending : Pending line) (token : Token) :
    Sound (line ++ [.leaf token]) :=
  sound_append.2 ⟨pending.sound, sound_leaf token⟩

theorem any_ended {line : Forest} {token : Token} (separates : token.role = .separator) :
    (line ++ [Tree.leaf token]).any Tree.isSignificant = true := by
  have significant : (Tree.leaf token).isSignificant = true := significant_leaf (by simp [separates])
  simp [significant]

theorem not_unfinished_ended {line : Forest} {token : Token} (separates : token.role = .separator) :
    ¬ (Tree.unit .line (line ++ [.leaf token])).Unfinished :=
  fun unfinished => unfinished (.leaf token) (by simp) separates

theorem loose_of_any {line : Forest} (trivia : ¬ line.any Tree.isSignificant = true) : Loose line := by
  intro tree inside
  simp only [List.any_eq_true, not_exists, not_and, Bool.not_eq_true] at trivia
  exact trivia tree inside

-- The finished trees of a block. If it `waits` for the block above it, the last of them may be an unfinished line.
structure Scope (waits : Bool) (children : Forest) : Prop where
  inside : ∀ tree ∈ children, tree.InBlock
  follows : children.IsChain Tree.Follows
  sound : Sound children
  ends : waits = false → ∀ tree ∈ children.getLast?, ¬ tree.Unfinished

theorem scope_nil : Scope false [] :=
  ⟨by simp, .nil, sound_nil, by simp⟩

theorem Scope.follows_last {waits : Bool} {children : Forest} (scope : Scope waits children) {next : Tree}
    (block : waits = true → next.kind? = some .block) :
    ∀ last ∈ children.getLast?, last.Follows next := by
  intro last member unfinished
  cases waits with
  | false => exact absurd unfinished (scope.ends rfl last member)
  | true => exact block rfl

theorem Scope.concat {waits later : Bool} {children : Forest} (scope : Scope waits children) {tree : Tree}
    (inside : tree.InBlock) (sound : Sound [tree]) (block : waits = true → tree.kind? = some .block)
    (ends : later = false → ¬ tree.Unfinished) : Scope later (children ++ [tree]) where
  inside := List.forall_mem_append.2 ⟨scope.inside, by simpa using inside⟩
  follows := Tree.follows_concat.2 ⟨scope.follows, scope.follows_last block⟩
  sound := sound_append.2 ⟨scope.sound, sound⟩
  ends := by
    intro off other last
    rw [List.getLast?_concat, Option.mem_some_iff] at last
    exact last ▸ ends off

theorem Scope.append_loose {children line : Forest} (scope : Scope false children) (loose : Loose line) :
    Scope false (children ++ line) := by
  induction line generalizing children with
  | nil => simpa using scope
  | cons tree rest ih =>
    obtain ⟨token, rfl, trivia⟩ := loose.leaf List.mem_cons_self
    have inside : (Tree.leaf token).InBlock := by simpa [Tree.InBlock] using trivia
    have next : Scope false (children ++ [.leaf token]) :=
      scope.concat inside (sound_leaf token) (by simp) (fun _ => id)
    simpa using ih next loose.tail

theorem Scope.mono {waits : Bool} {children : Forest} (scope : Scope false children) : Scope waits children :=
  { scope with ends := fun _ => scope.ends rfl }

theorem Scope.addLine {children line : Forest} (scope : Scope false children) (pending : Pending line) :
    Scope true (Forest.addLine children line) := by
  unfold Forest.addLine
  split
  · next significant =>
    exact scope.concat (by simp [Tree.InBlock])
      (sound_unit pending.built (fun _ => significant) pending.sound) (by simp) (by simp)
  · next trivia => exact (scope.append_loose (loose_of_any trivia)).mono

theorem Scope.addLine_ended {children line : Forest} (scope : Scope false children) (pending : Pending line)
    {token : Token} (separates : token.role = .separator) :
    Scope false (Forest.addLine children (line ++ [.leaf token])) := by
  rw [Forest.addLine, if_pos (any_ended separates)]
  exact scope.concat (by simp [Tree.InBlock])
    (sound_unit (pending.built_ended separates) (fun _ => any_ended separates) (pending.sound_ended token))
    (by simp) (fun _ => not_unfinished_ended separates)

def Meaningful (forest : Forest) : Prop :=
  ∀ children, .unit .line children ∈ forest → children.any Tree.isSignificant = true

theorem Meaningful.concat {forest children : Forest} {kind : UnitKind} (meaningful : Meaningful forest)
    (significant : kind = .line → children.any Tree.isSignificant = true) :
    Meaningful (forest ++ [.unit kind children]) := by
  intro line inside
  rcases List.mem_append.1 inside with earlier | last
  · exact meaningful line earlier
  · cases List.mem_singleton.1 last
    exact significant rfl

theorem AtTop.concat {forest : Forest} (top : AtTop forest) {tree : Tree} (last : tree.AtTop forest.isEmpty) :
    AtTop (forest ++ [tree]) := by
  cases forest with
  | nil => exact ⟨last, by simp⟩
  | cons first rest =>
    exact ⟨top.1, List.forall_mem_append.2 ⟨top.2, by simpa using last⟩⟩

end Forest

theorem Built.surrounded_after {ended : Bool} {kind : UnitKind} {trivia own : Forest}
    (built : Built ended kind own) (loose : Forest.Loose trivia) :
    Surrounded true ended kind (trivia ++ own) := by
  simpa using Surrounded.intro built loose Forest.loose_nil (by simp : true = false → trivia = []) fun _ => rfl

theorem Surrounded.addTrivia {leads : Bool} {kind : UnitKind} {children trivia : Forest}
    (surrounded : Surrounded leads true kind children) (loose : Forest.Loose trivia) :
    Surrounded leads true kind (children ++ trivia) := by
  cases surrounded with
  | intro built before after first _ =>
    rw [List.append_assoc]
    exact .intro built before (after.append loose) first (by simp)

theorem Surrounded.not_unfinished {leads : Bool} {kind : UnitKind} {children : Forest}
    (surrounded : Surrounded leads true kind children) : ¬ (Tree.unit kind children).Unfinished := by
  intro unfinished
  cases surrounded with
  | intro built =>
    cases built with
    | @line _ separator _ separates ends =>
      obtain ⟨token, rfl⟩ := Option.isSome_iff_exists.1 ends
      exact unfinished (.leaf token) (by simp) (separates token rfl)
    | collection | block => exact unfinished

-- The finished top level. If it `waits` for the block above it, its latest unit need not be ended, and if there is
-- none yet, trivia may wait with it.
inductive TopLevel.Sound (waits : Bool) : TopLevel → Prop
  | leading {trivia : Forest} (loose : Forest.Loose trivia) (none : waits = false → trivia = []) :
      Sound waits (.leading trivia)
  | units {ended : Bool} {earlier children : Forest} {kind : UnitKind} (before : earlier.AtTop)
      (apart : kind ≠ .collection) (sound : Forest.Sound children)
      (latest : Surrounded earlier.isEmpty ended kind children)
      (follows : (earlier ++ [Tree.unit kind children]).IsChain Tree.Follows)
      (meaningful : Forest.Meaningful (earlier ++ [.unit kind children]))
      (ends : waits = false → ended = true) : Sound waits (.units earlier kind children)

def TopLevel.Led : TopLevel → Prop
  | leading trivia => trivia.Loose
  | units _ _ _ => True

theorem TopLevel.Led.addUnit (top : TopLevel) (kind : UnitKind) (children : Forest) :
    (top.addUnit kind children).Led := by
  cases top <;> trivial

theorem TopLevel.Led.addLine {top : TopLevel} (led : top.Led) (line : Forest) : (top.addLine line).Led := by
  unfold TopLevel.addLine
  split
  · exact Led.addUnit top .line line
  · next trivia =>
    cases top with
    | leading before => exact Forest.Loose.append led (Forest.loose_of_any trivia)
    | units => trivial

structure Forest.IgnoresTrivia {α : Type} (join : α → α → α) (read : Forest → α) : Prop where
  append (front back : Forest) : read (front ++ back) = join (read front) (read back)
  nil_join (value : α) : join (read []) value = value
  join_nil (value : α) : join value (read []) = value
  loose {trivia : Forest} (loose : trivia.Loose) : read trivia = read []
  line {trivia : Forest} (loose : trivia.Loose) : read [.unit .line trivia] = read []
  around {lead trail : Forest} (before : lead.Loose) (after : trail.Loose) (kind : UnitKind) (children : Forest) :
    read [.unit kind (lead ++ children ++ trail)] = read [.unit kind children]

namespace Forest.IgnoresTrivia

variable {α : Type} {join : α → α → α} {read : Forest → α} {top : TopLevel}

theorem addLine (ignores : IgnoresTrivia join read) (children line : Forest) :
    read (Forest.addLine children line) = join (read children) (read [.unit .line line]) := by
  unfold Forest.addLine
  split
  · exact ignores.append children _
  · next trivia =>
    have loose := Forest.loose_of_any trivia
    rw [ignores.append, ignores.loose loose, ignores.line loose]

theorem leading (ignores : IgnoresTrivia join read) {trivia : Forest} (loose : trivia.Loose) :
    read (TopLevel.leading trivia).forest = read [] := by
  cases trivia with
  | nil => rfl
  | cons tree rest => exact ignores.line loose

theorem top_addUnit (ignores : IgnoresTrivia join read) (led : top.Led) (kind : UnitKind) (children : Forest) :
    read (top.addUnit kind children).forest = join (read top.forest) (read [.unit kind children]) := by
  cases top with
  | leading trivia =>
    have same := ignores.around led Forest.loose_nil kind children
    rw [List.append_nil] at same
    rw [ignores.leading led, ignores.nil_join]
    exact same
  | units earlier latest below => exact ignores.append (earlier ++ [.unit latest below]) _

theorem top_addTrivia (ignores : IgnoresTrivia join read) (led : top.Led) {trivia : Forest} (loose : trivia.Loose) :
    read (top.addTrivia trivia).forest = read top.forest := by
  cases top with
  | leading before => rw [TopLevel.addTrivia, ignores.leading (Forest.Loose.append led loose), ignores.leading led]
  | units earlier latest below =>
    have same : read [.unit latest (below ++ trivia)] = read [.unit latest below] :=
      ignores.around Forest.loose_nil loose latest below
    simp only [TopLevel.addTrivia, TopLevel.forest, ignores.append, same]

theorem top_addLine (ignores : IgnoresTrivia join read) (led : top.Led) (line : Forest) :
    read (top.addLine line).forest = join (read top.forest) (read [.unit .line line]) := by
  unfold TopLevel.addLine
  split
  · exact ignores.top_addUnit led .line line
  · next trivia =>
    have loose := Forest.loose_of_any trivia
    rw [ignores.top_addTrivia led loose, ignores.line loose, ignores.join_nil]

end Forest.IgnoresTrivia

theorem TopLevel.Sound.led {waits : Bool} {top : TopLevel} (sound : top.Sound waits) : top.Led := by
  cases sound with
  | leading loose => exact loose
  | units => trivial

namespace TopLevel.Sound

theorem mono {waits : Bool} {top : TopLevel} (sound : top.Sound false) : top.Sound waits := by
  cases sound with
  | leading loose none => exact .leading loose fun _ => none rfl
  | units before apart below latest follows meaningful ends =>
    exact .units before apart below latest follows meaningful fun _ => ends rfl

theorem addUnit {waits ended : Bool} {top : TopLevel} (sound : top.Sound waits) {kind : UnitKind}
    {own : Forest} (built : Built ended kind own) (apart : kind ≠ .collection) (below : Forest.Sound own)
    (significant : kind = .line → own.any Tree.isSignificant = true) (block : waits = true → kind = .block) :
    (top.addUnit kind own).Sound !ended := by
  cases sound with
  | @leading trivia loose =>
    have surrounded : Surrounded true ended kind (trivia ++ own) := built.surrounded_after loose
    have first : Forest.AtTop [] := trivial
    refine .units first apart (Forest.sound_append.2 ⟨loose.sound, below⟩) surrounded (.singleton _) ?_ (by simp)
    intro line inside
    cases List.mem_singleton.1 inside
    simp [significant rfl]
  | @units endedBefore earlier children latestKind before apartBefore soundBefore latest follows meaningful ends =>
    have nonempty : (earlier ++ [Tree.unit latestKind children]).isEmpty = false := by simp
    have surrounded : Surrounded false ended kind own := built.surrounded
    have whole : Forest.AtTop (earlier ++ [.unit latestKind children]) :=
      before.concat ⟨apartBefore, soundBefore, endedBefore, latest⟩
    refine .units whole apart below (nonempty ▸ surrounded) ?_ (meaningful.concat significant) (by simp)
    refine Tree.follows_concat.2 ⟨follows, fun last member unfinished => ?_⟩
    rw [List.getLast?_concat, Option.mem_some_iff] at member
    subst member
    cases waits with
    | true => exact congrArg some (block rfl)
    | false =>
      cases ends rfl
      exact absurd unfinished latest.not_unfinished

theorem addTrivia {top : TopLevel} (sound : top.Sound false) {trivia : Forest}
    (loose : Forest.Loose trivia) : (top.addTrivia trivia).Sound true := by
  cases sound with
  | leading before => exact .leading (before.append loose) (by simp)
  | @units ended earlier children kind before apart below latest follows meaningful ends =>
    cases ends rfl
    -- Trivia changes neither the kind of the latest unit nor whether its line is significant.
    obtain ⟨first, link⟩ := Tree.follows_concat.1 follows
    have chained : (earlier ++ [Tree.unit kind (children ++ trivia)]).IsChain Tree.Follows :=
      Tree.follows_concat.2 ⟨first, link⟩
    refine .units before apart (Forest.sound_append.2 ⟨below, loose.sound⟩) (latest.addTrivia loose) chained ?_
      (by simp)
    intro line inside
    rcases List.mem_append.1 inside with before | last
    · exact meaningful line (List.mem_append_left _ before)
    · cases List.mem_singleton.1 last
      simp [meaningful children (by simp)]

theorem addLine {top : TopLevel} (sound : top.Sound false) {line : Forest} (pending : line.Pending) :
    (top.addLine line).Sound true := by
  unfold TopLevel.addLine
  split
  · next significant =>
    exact sound.addUnit pending.built (by simp) pending.sound (fun _ => significant) (by simp)
  · next trivia => exact sound.addTrivia (Forest.loose_of_any trivia)

theorem addLine_ended {top : TopLevel} (sound : top.Sound false) {line : Forest} (pending : line.Pending)
    {token : Token} (separates : token.role = .separator) :
    (top.addLine (line ++ [.leaf token])).Sound false := by
  rw [TopLevel.addLine, if_pos (Forest.any_ended separates)]
  exact sound.addUnit (pending.built_ended separates) (by simp) (pending.sound_ended token)
    (fun _ => Forest.any_ended separates) (by simp)

end TopLevel.Sound

inductive Frame.Sound (waits : Bool) : Frame → Prop
  | collection {opener : Token} {children : Forest} (opens : opener.role = .opener .paren)
      (inside : ∀ tree ∈ children, tree.InCollection) (sound : Forest.Sound children) :
      Sound waits (.collection opener children)
  | block {opener : Token} {children line : Forest} (opens : opener.role = .opener .brace)
      (scope : Forest.Scope waits children) (pending : line.Pending) :
      Sound waits (.block opener children line)

theorem Frame.Sound.concat {waits : Bool} {opener : Token} {children : Forest}
    (sound : (Frame.collection opener children).Sound waits) {tree : Tree} (part : tree.InCollection)
    (below : Forest.Sound [tree]) : (Frame.collection opener (children ++ [tree])).Sound waits := by
  cases sound with
  | collection opens inside within =>
    exact .collection opens (List.forall_mem_append.2 ⟨inside, by simpa using part⟩)
      (Forest.sound_append.2 ⟨within, below⟩)

-- A collection has no line that could wait.
theorem Frame.Sound.mono {waits other : Bool} {opener : Token} {children : Forest}
    (sound : (Frame.collection opener children).Sound waits) :
    (Frame.collection opener children).Sound other := by
  cases sound with
  | collection opens inside within => exact .collection opens inside within

theorem Frame.Sound.closed {frame : Frame} (sound : frame.Sound false) {closer : Option Token}
    (closes : ∀ token ∈ closer, token.role = .closer frame.delimiter) :
    Built closer.isSome frame.delimiter.unitKind (frame.closed closer) ∧
      Forest.Sound (frame.closed closer) := by
  have last : Forest.Sound (closer.toList.map Tree.leaf) := by
    cases closer with
    | none => exact Forest.sound_nil
    | some token => exact Forest.sound_leaf token
  cases sound with
  | @collection opener children opens inside below =>
    refine ⟨.collection opens (List.forall_mem_append.2 ⟨inside, fun tree close => ?_⟩),
      Forest.sound_append.2 ⟨Forest.sound_append.2 ⟨Forest.sound_leaf opener, below⟩, last⟩⟩
    obtain ⟨token, some, rfl⟩ := List.mem_map.1 close
    simp [Tree.InCollection, closes token (Option.mem_toList.1 some)]
  | @block opener children line opens scope pending =>
    have whole := scope.addLine pending
    exact ⟨.block opens whole.inside whole.follows closes rfl,
      Forest.sound_append.2 ⟨Forest.sound_append.2 ⟨Forest.sound_leaf opener, whole.sound⟩, last⟩⟩

end TokenForest
