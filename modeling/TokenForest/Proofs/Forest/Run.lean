import TokenForest.Forest.Structured

set_option autoImplicit false

namespace TokenForest

def TokenList.kept (keepTrivia : Bool) (tokens : TokenList) : TokenList :=
  if keepTrivia then tokens else tokens.significant

@[simp] theorem TokenList.kept_append (keepTrivia : Bool) (front back : TokenList) :
    kept keepTrivia (front ++ back) = kept keepTrivia front ++ kept keepTrivia back := by
  cases keepTrivia <;> simp [kept, significant]

theorem TokenList.kept_nil (keepTrivia : Bool) : kept keepTrivia [] = [] := by
  cases keepTrivia <;> rfl

theorem TokenList.kept_singleton (keepTrivia : Bool) (token : Token) :
    kept keepTrivia [token] = if token.isTrivia && !keepTrivia then [] else [token] := by
  cases keepTrivia <;> cases h : token.isTrivia <;> simp [kept, significant, h]

theorem TokenList.countP_kept {count : Token → Bool} (significant : ∀ token, count token = true → token.role ≠ .plain)
    (keepTrivia : Bool) (tokens : TokenList) : (kept keepTrivia tokens).countP count = tokens.countP count := by
  cases keepTrivia with
  | true => rfl
  | false =>
    have counted (token : Token) : (count token && !token.isTrivia) = count token := by
      cases own : count token with
      | false => rfl
      | true => simp [Token.isTrivia_of_role_ne_plain (significant token own)]
    change (tokens.filter fun token => !token.isTrivia).countP count = tokens.countP count
    simp only [List.countP_filter, counted]

structure Offer where
  mode : OpenForest.Mode
  token : Token

namespace OpenForest

def run (state : OpenForest) : List Offer → OpenForest
  | [] => state
  | offer :: rest => (state.offer offer.mode offer.token).1.run rest

def accepted (state : OpenForest) : List Offer → TokenList
  | [] => []
  | offer :: rest =>
    let (next, error) := state.offer offer.mode offer.token
    (if offer.mode = .strict ∧ error.isSome then [] else [offer.token]) ++ next.accepted rest

inductive Effect (state : OpenForest) (token : Token) :
    Mode → OpenForest → Option StructureError → Prop
  | refused {error : StructureError} (fault : state.fault? token = some error) :
      Effect state token .strict state (some error)
  | misfit {error : StructureError} {delimiter : Delimiter} (fault : state.fault? token = some error)
      (role : token.role = .closer delimiter) :
      Effect state token .lenient (state.attach (.leaf token)) (some error)
  | dropped {mode : Mode} (trivia : token.isTrivia = true) (off : state.keepTrivia = false) :
      Effect state token mode state none
  | plain {mode : Mode} (role : token.role = .plain)
      (kept : (token.isTrivia && !state.keepTrivia) = false) :
      Effect state token mode (state.attach (.leaf token)) none
  | separator {mode : Mode} (role : token.role = .separator) :
      Effect state token mode (state.attach (.leaf token)).breakLine none
  | collection {mode : Mode} (role : token.role = .opener .paren) :
      Effect state token mode (state.enter (.collection token [])) none
  | block {mode : Mode} (role : token.role = .opener .brace) :
      Effect state token mode (state.breakLine.enter (.block token [] [])) none
  | closed {mode : Mode} {frame : Frame} {below : List Frame}
      (role : token.role = .closer frame.delimiter) (stack : state.stack = frame :: below) :
      Effect state token mode (state.leave (some token)) none

theorem role_of_fault {state : OpenForest} {token : Token} {error : StructureError}
    (fault : state.fault? token = some error) : ∃ delimiter, token.role = .closer delimiter := by
  unfold fault? at fault
  split at fault
  · next delimiter role => exact ⟨delimiter, role⟩
  · cases fault

theorem role_ne_of_fault {state : OpenForest} {token : Token} {error : StructureError} (fault : state.fault? token = some error)
    {frame : Frame} (inner : state.stack.head? = some frame) : token.role ≠ .closer frame.delimiter := by
  intro role
  cases stack : state.stack with
  | nil => simp [stack] at inner
  | cons innermost below =>
    have same : innermost = frame := by simpa [stack] using inner
    simp [fault?, role, stack, same] at fault

theorem stack_of_fault_none {state : OpenForest} {token : Token} {delimiter : Delimiter}
    (role : token.role = .closer delimiter) (fault : state.fault? token = none) :
    ∃ frame below, state.stack = frame :: below ∧ frame.delimiter = delimiter := by
  simp only [fault?, role] at fault
  split at fault
  · cases fault
  · next frame below stack =>
    split at fault
    · next same => exact ⟨frame, below, stack, same⟩
    · cases fault

theorem absorb_effect (state : OpenForest) (token : Token) (mode : Mode)
    (fault : state.fault? token = none) : Effect state token mode (state.absorb token) none := by
  unfold absorb
  split
  · next skipped =>
    rw [Bool.and_eq_true, Bool.not_eq_true'] at skipped
    exact .dropped skipped.1 skipped.2
  · next kept =>
    split
    · next role => exact .collection role
    · next role => exact .block role
    · next delimiter role =>
      obtain ⟨frame, below, stack, rfl⟩ := stack_of_fault_none role fault
      exact .closed role stack
    · next role => exact .separator role
    · next role => exact .plain role (by simpa using kept)

theorem offer_effect (state : OpenForest) (mode : Mode) (token : Token) :
    Effect state token mode (state.offer mode token).1 (state.offer mode token).2 := by
  cases fault : state.fault? token with
  | none =>
    have absorbed := state.absorb_effect token mode fault
    cases mode <;> simpa [offer, push, pushLenient, fault] using absorbed
  | some error =>
    obtain ⟨delimiter, role⟩ := role_of_fault fault
    cases mode with
    | strict => simpa [offer, push, fault] using Effect.refused fault
    | lenient => simpa [offer, pushLenient, fault] using Effect.misfit fault role

@[simp] theorem keepTrivia_attach (state : OpenForest) (tree : Tree) :
    (state.attach tree).keepTrivia = state.keepTrivia := by
  unfold attach
  split <;> rfl

@[simp] theorem keepTrivia_breakLine (state : OpenForest) :
    state.breakLine.keepTrivia = state.keepTrivia := by
  unfold breakLine
  split <;> rfl

@[simp] theorem keepTrivia_attachBlock (state : OpenForest) (children : Forest) :
    (state.attachBlock children).keepTrivia = state.keepTrivia := by
  unfold attachBlock
  split <;> rfl

@[simp] theorem keepTrivia_leave (state : OpenForest) (closer : Option Token) :
    (state.leave closer).keepTrivia = state.keepTrivia := by
  unfold leave
  split
  · rfl
  · next frame below _ => cases frame.delimiter <;> simp

theorem Effect.keepTrivia {state next : OpenForest} {token : Token} {mode : Mode}
    {error : Option StructureError} (effect : Effect state token mode next error) :
    next.keepTrivia = state.keepTrivia := by
  cases effect <;> simp [enter]

def innerLine (line : Forest) : List Frame → Forest
  | [] => line
  | .collection _ _ :: _ => []
  | .block _ _ line :: _ => line

-- Below an open block no line is unfinished: it ended where the block began.
def LinesEnded (line : Forest) : List Frame → Prop
  | [] => True
  | .collection _ _ :: below => LinesEnded line below
  | .block _ _ _ :: below => innerLine line below = [] ∧ LinesEnded line below

def Steady (state : OpenForest) : Prop :=
  LinesEnded state.line state.stack

theorem Steady.ended {state : OpenForest} (steady : state.Steady) {frame : Frame} {below : List Frame}
    (stack : state.stack = frame :: below) (brace : frame.delimiter = .brace) : innerLine state.line below = [] := by
  unfold Steady at steady
  rw [stack] at steady
  cases frame with
  | collection => cases brace
  | block => exact steady.1

theorem steady_empty (keepTrivia : Bool) : (empty keepTrivia).Steady :=
  trivial

theorem Steady.attach {state : OpenForest} (steady : state.Steady) (tree : Tree) :
    (state.attach tree).Steady := by
  unfold OpenForest.attach
  unfold Steady at *
  split <;> simp_all [LinesEnded]

theorem Steady.breakLine {state : OpenForest} (steady : state.Steady) : state.breakLine.Steady := by
  unfold OpenForest.breakLine
  unfold Steady at *
  split <;> simp_all [LinesEnded]

theorem innerLine_breakLine (state : OpenForest) :
    innerLine state.breakLine.line state.breakLine.stack = [] := by
  unfold OpenForest.breakLine
  split <;> simp_all [innerLine]

theorem Steady.attachBlock {state : OpenForest} (steady : state.Steady) (children : Forest) :
    (state.attachBlock children).Steady := by
  unfold OpenForest.attachBlock
  unfold Steady at *
  split <;> simp_all [LinesEnded]

theorem Steady.leave {state : OpenForest} (steady : state.Steady) (closer : Option Token) :
    (state.leave closer).Steady := by
  unfold OpenForest.leave
  split
  · exact steady
  · next frame below stack =>
    have outer : ({ state with stack := below } : OpenForest).Steady := by
      unfold Steady at *
      cases frame <;> simp_all [LinesEnded]
    cases frame.delimiter
    · exact outer.attach _
    · exact outer.attachBlock _

theorem Effect.steady {state next : OpenForest} {token : Token} {mode : Mode}
    {error : Option StructureError} (effect : Effect state token mode next error)
    (steady : state.Steady) : next.Steady := by
  cases effect with
  | refused | dropped => exact steady
  | misfit | plain => exact steady.attach _
  | separator => exact (steady.attach _).breakLine
  | collection => exact steady
  | block => exact ⟨innerLine_breakLine state, steady.breakLine⟩
  | closed => exact steady.leave _

theorem run_induction {Holds : OpenForest → Prop}
    (preserved : ∀ {state next : OpenForest} {token : Token} {mode : Mode} {error : Option StructureError},
      Effect state token mode next error → Holds state → Holds next)
    {state : OpenForest} (holds : Holds state) (offers : List Offer) : Holds (state.run offers) := by
  induction offers generalizing state with
  | nil => exact holds
  | cons offer rest ih => exact ih (preserved (state.offer_effect offer.mode offer.token) holds)

theorem Steady.run {state : OpenForest} (steady : state.Steady) (offers : List Offer) :
    (state.run offers).Steady :=
  run_induction Effect.steady steady offers

theorem run_append (state : OpenForest) (front back : List Offer) :
    state.run (front ++ back) = (state.run front).run back := by
  induction front generalizing state with
  | nil => rfl
  | cons offer rest ih => exact ih _

theorem stack_leaveTimes (state : OpenForest) : (leaveTimes state.openCount state).stack = [] := by
  have closed := openCount_leaveTimes state.openCount state
  simpa [openCount] using closed

theorem run_of_pushAllLenient (state : OpenForest) (tokens : List Token) :
    state.run (tokens.map (Offer.mk .lenient)) = (state.pushAllLenient tokens).1 ∧
      state.accepted (tokens.map (Offer.mk .lenient)) = tokens := by
  induction tokens generalizing state with
  | nil => exact ⟨rfl, rfl⟩
  | cons token rest ih => simpa [run, accepted, offer, pushAllLenient] using ih (state.pushLenient token).1

theorem run_of_pushAll {state last : OpenForest} {tokens : List Token} (pushed : state.pushAll tokens = .ok last) :
    state.run (tokens.map (Offer.mk .strict)) = last := by
  induction tokens generalizing state with
  | nil => exact Except.ok.inj pushed
  | cons token rest ih =>
    cases step : state.push token with
    | error error => simp [pushAll, step] at pushed
    | ok next =>
      simp only [pushAll, step] at pushed
      simpa [run, offer, step] using ih pushed

theorem pushAll_front {state last : OpenForest} {front back : List Token}
    (pushed : state.pushAll (front ++ back) = .ok last) : ∃ middle, state.pushAll front = .ok middle := by
  induction front generalizing state with
  | nil => exact ⟨state, rfl⟩
  | cons token rest ih =>
    cases step : state.push token with
    | error error => simp [pushAll, step] at pushed
    | ok next =>
      simp only [List.cons_append, pushAll, step] at pushed
      obtain ⟨middle, same⟩ := ih pushed
      exact ⟨middle, by simp [pushAll, step, same]⟩

def strictly {α : Type} : α × List StructureError → Except StructureError α
  | (result, []) => .ok result
  | (_, error :: _) => .error error

theorem strictly_eq_ok_iff {α : Type} {outcome : α × List StructureError} {result : α} :
    strictly outcome = .ok result ↔ outcome = (result, []) := by
  obtain ⟨value, _ | ⟨error, rest⟩⟩ := outcome <;> simp [strictly]

theorem strictly_eq_error_iff {α : Type} {outcome : α × List StructureError} {error : StructureError} :
    strictly outcome = .error error ↔ outcome.2.head? = some error := by
  obtain ⟨value, _ | ⟨first, rest⟩⟩ := outcome <;> simp [strictly]

theorem pushAll_eq_strictly (state : OpenForest) (tokens : List Token) :
    state.pushAll tokens = strictly (state.pushAllLenient tokens) := by
  induction tokens generalizing state with
  | nil => rfl
  | cons token rest ih =>
    cases fault : state.fault? token with
    | some error => simp [pushAll, pushAllLenient, push, pushLenient, fault, strictly]
    | none => simp [pushAll, pushAllLenient, push, pushLenient, fault, ih]

theorem finish_eq_strictly (state : OpenForest) :
    state.finish = strictly (state.finishLenient.1, state.finishLenient.2.toList) := by
  cases stack : state.stack with
  | nil => simp [finish, finishLenient, unclosed?, openCount, stack, leaveTimes, strictly]
  | cons frame below => simp [finish, finishLenient, unclosed?, stack, strictly]

theorem finish_eq_ok_iff {state : OpenForest} {forest : Forest} :
    state.finish = .ok forest ↔ state.finishLenient = (forest, none) := by
  rw [finish_eq_strictly, strictly_eq_ok_iff]
  rcases state.finishLenient with ⟨whole, _ | error⟩ <;> simp

theorem finish_eq_error_iff {state : OpenForest} {error : StructureError} :
    state.finish = .error error ↔ state.finishLenient.2 = some error := by
  rw [finish_eq_strictly, strictly_eq_error_iff]
  rcases state.finishLenient with ⟨whole, _ | unclosed⟩ <;> simp

theorem finishLenient_of_finish {state : OpenForest} {forest : Forest}
    (finished : state.finish = .ok forest) : state.finishLenient = (forest, none) :=
  finish_eq_ok_iff.1 finished

end OpenForest

open OpenForest in
theorem Forest.ofTokens_eq_strictly (keepTrivia : Bool) (tokens : TokenList) :
    ofTokens keepTrivia tokens =
      strictly ((recover keepTrivia tokens).forest, (recover keepTrivia tokens).errors) := by
  rw [ofTokens, pushAll_eq_strictly, recover]
  obtain ⟨last, _ | ⟨error, rest⟩⟩ := (empty keepTrivia).pushAllLenient tokens
  · simp [strictly, finish_eq_strictly]
  · simp [strictly]

open OpenForest in
theorem Forest.ofTokens_eq_ok_iff {keepTrivia : Bool} {tokens : TokenList} {forest : Forest} :
    ofTokens keepTrivia tokens = .ok forest ↔ recover keepTrivia tokens = ⟨forest, []⟩ := by
  rw [ofTokens_eq_strictly, strictly_eq_ok_iff]
  cases recover keepTrivia tokens
  simp

open OpenForest in
theorem Forest.last_of_ofTokens {keepTrivia : Bool} {tokens : TokenList} {forest : Forest}
    (grouped : ofTokens keepTrivia tokens = .ok forest) :
    ∃ last, (empty keepTrivia).pushAll tokens = .ok last ∧ last.stack = [] ∧ last.forest = forest := by
  unfold ofTokens at grouped
  split at grouped
  · next last pushed =>
    cases stack : last.stack with
    | nil => exact ⟨last, pushed, stack, by simpa [finish, unclosed?, stack] using grouped⟩
    | cons => simp [finish, unclosed?, stack] at grouped
  · cases grouped

theorem Forest.recover_of_ofTokens {keepTrivia : Bool} {tokens : TokenList} {forest : Forest}
    (grouped : ofTokens keepTrivia tokens = .ok forest) :
    recover keepTrivia tokens = ⟨forest, []⟩ :=
  ofTokens_eq_ok_iff.1 grouped

/-- Strict and lenient grouping agree: without errors they have the same forest, and otherwise the first error of
recovery is the one that strict grouping ends with. The same holds of the two ways to finish an open forest. -/
theorem Forest.strict_iff_lenient (keepTrivia : Bool) :
    (∀ tokens : TokenList,
      (∀ forest, ofTokens keepTrivia tokens = .ok forest ↔ recover keepTrivia tokens = ⟨forest, []⟩) ∧
      ∀ error, ofTokens keepTrivia tokens = .error error ↔
        (recover keepTrivia tokens).errors.head? = some error) ∧
    ∀ offers : List Offer,
      let state := (OpenForest.empty keepTrivia).run offers
      (∀ forest, state.finish = .ok forest ↔ state.finishLenient = (forest, none)) ∧
      ∀ error, state.finish = .error error ↔ state.finishLenient.2 = some error := by
  refine ⟨fun tokens => ⟨fun forest => ofTokens_eq_ok_iff, fun error => ?_⟩, fun offers => ?_⟩
  · rw [ofTokens_eq_strictly, OpenForest.strictly_eq_error_iff]
  · exact ⟨fun forest => OpenForest.finish_eq_ok_iff, fun error => OpenForest.finish_eq_error_iff⟩

theorem Forest.recover_forest (keepTrivia : Bool) (tokens : TokenList) :
    (recover keepTrivia tokens).forest =
      ((OpenForest.empty keepTrivia).run (tokens.map (Offer.mk .lenient))).finishLenient.1 := by
  rw [(OpenForest.run_of_pushAllLenient _ tokens).1]
  rfl

end TokenForest
