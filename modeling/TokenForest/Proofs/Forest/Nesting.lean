import Mathlib.Data.List.Induction
import TokenForest.Proofs.Forest.Run

set_option autoImplicit false

namespace TokenForest

def Token.Opens (token : Token) (delimiter : Delimiter) : Prop :=
  token.kind.flavour = .punctuation ∧ token.text = delimiter.openText

def Token.Closes (token : Token) (delimiter : Delimiter) : Prop :=
  token.kind.flavour = .punctuation ∧ token.text = delimiter.closeText

instance (token : Token) (delimiter : Delimiter) : Decidable (token.Opens delimiter) :=
  inferInstanceAs (Decidable (_ ∧ _))

instance (token : Token) (delimiter : Delimiter) : Decidable (token.Closes delimiter) :=
  inferInstanceAs (Decidable (_ ∧ _))

theorem Token.opens_iff (token : Token) (delimiter : Delimiter) :
    token.Opens delimiter ↔ token.role = .opener delimiter :=
  (token.role_eq_opener_iff delimiter).symm

theorem Token.closes_iff (token : Token) (delimiter : Delimiter) :
    token.Closes delimiter ↔ token.role = .closer delimiter :=
  (token.role_eq_closer_iff delimiter).symm

def Token.isOpener (token : Token) : Bool :=
  token.Opens .paren ∨ token.Opens .brace

def Token.isCloser (token : Token) : Bool :=
  token.Closes .paren ∨ token.Closes .brace

theorem Token.isOpener_iff (token : Token) :
    token.isOpener = true ↔ ∃ delimiter, token.role = .opener delimiter := by
  simp only [isOpener, decide_eq_true_eq, opens_iff]
  constructor
  · rintro (paren | brace)
    · exact ⟨.paren, paren⟩
    · exact ⟨.brace, brace⟩
  · rintro ⟨_ | _, opens⟩
    · exact .inl opens
    · exact .inr opens

theorem Token.isCloser_iff (token : Token) :
    token.isCloser = true ↔ ∃ delimiter, token.role = .closer delimiter := by
  simp only [isCloser, decide_eq_true_eq, closes_iff]
  constructor
  · rintro (paren | brace)
    · exact ⟨.paren, paren⟩
    · exact ⟨.brace, brace⟩
  · rintro ⟨_ | _, closes⟩
    · exact .inl closes
    · exact .inr closes

def Token.isBracket (token : Token) : Bool :=
  token.kind.flavour = .punctuation && token.text ∈ ["(", ")", "\x7b", "\x7d"]

theorem Token.isBracket_iff (token : Token) :
    token.isBracket = true ↔ ∃ delimiter, token.Opens delimiter ∨ token.Closes delimiter := by
  simp only [isBracket, Bool.and_eq_true, decide_eq_true_eq, List.mem_cons, List.not_mem_nil, or_false,
    Opens, Closes, ← and_or_left, exists_and_left]
  refine and_congr_right fun _ => ⟨?_, ?_⟩
  · rintro (text | text | text | text)
    · exact ⟨.paren, .inl text⟩
    · exact ⟨.paren, .inr text⟩
    · exact ⟨.brace, .inl text⟩
    · exact ⟨.brace, .inr text⟩
  · rintro ⟨_ | _, text | text⟩
    · exact .inl text
    · exact .inr (.inl text)
    · exact .inr (.inr (.inl text))
    · exact .inr (.inr (.inr text))

def TokenList.brackets (tokens : TokenList) : TokenList :=
  tokens.filter Token.isBracket

theorem TokenList.isBracket_of_mem_brackets (tokens : TokenList) :
    ∀ token ∈ tokens.brackets, token.isBracket = true :=
  fun _ inside => (List.mem_filter.1 inside).2

-- The grammar `D ::= ε | ( D ) D | { D } D`.
inductive Balanced : TokenList → Prop
  | empty : Balanced []
  | group {opener closer : Token} {delimiter : Delimiter} {inside rest : TokenList}
      (opens : opener.Opens delimiter) (inner : Balanced inside) (closes : closer.Closes delimiter)
      (after : Balanced rest) : Balanced (opener :: inside ++ closer :: rest)

/-- Every closer of the word matches, and these openers, each with its delimiter and the last of them first, are left
unmatched: between them stand balanced words only. -/
inductive Unmatched : TokenList → List (Token × Delimiter) → Prop
  | none {word : TokenList} (balanced : Balanced word) : Unmatched word []
  | opener {front back : TokenList} {opener : Token} {delimiter : Delimiter}
      {openers : List (Token × Delimiter)} (before : Unmatched front openers)
      (opens : opener.Opens delimiter) (balanced : Balanced back) :
      Unmatched (front ++ opener :: back) ((opener, delimiter) :: openers)

/-- After a word whose closers all match, the closer does not match the last unmatched opener. -/
def FailsAfter (front : TokenList) (closer : Token) : Prop :=
  ∃ openers delimiter, Unmatched front openers ∧ closer.Closes delimiter ∧
    ∀ opener expected, openers.head? = some (opener, expected) → expected ≠ delimiter

theorem Balanced.append {front back : TokenList} (first : Balanced front) (second : Balanced back) :
    Balanced (front ++ back) := by
  induction first with
  | empty => exact second
  | group opens inner closes _ _ ih => simpa using Balanced.group opens inner closes ih

theorem Unmatched.append {front back : TokenList} {openers : List (Token × Delimiter)}
    (first : Unmatched front openers) (second : Balanced back) : Unmatched (front ++ back) openers := by
  cases first with
  | none balanced => exact .none (balanced.append second)
  | opener before opens balanced =>
    simpa using Unmatched.opener before opens (balanced.append second)

theorem Unmatched.close {word : TokenList} {opener closer : Token} {delimiter : Delimiter}
    {openers : List (Token × Delimiter)} (unmatched : Unmatched word ((opener, delimiter) :: openers))
    (closes : closer.Closes delimiter) : Unmatched (word ++ [closer]) openers := by
  cases unmatched with
  | opener before opens balanced => simpa using before.append (.group opens balanced closes .empty)

theorem unmatched_nil_iff {word : TokenList} : Unmatched word [] ↔ Balanced word := by
  constructor
  · intro unmatched
    cases unmatched with
    | none balanced => exact balanced
  · exact .none

theorem unmatched_or_fails (word : TokenList) (brackets : ∀ token ∈ word, token.isBracket = true) :
    (∃ openers, Unmatched word openers) ∨
      ∃ front closer back, word = front ++ closer :: back ∧ FailsAfter front closer := by
  induction word using List.reverseRecOn with
  | nil => exact .inl ⟨[], .none .empty⟩
  | append_singleton word token ih =>
    rcases ih fun other inside => brackets other (by simp [inside]) with
      ⟨openers, unmatched⟩ | ⟨front, closer, back, rfl, fails⟩
    case inr => exact .inr ⟨front, closer, back ++ [token], by simp, fails⟩
    -- A closer takes the last unmatched opener away, or it is the first one to fail.
    obtain ⟨delimiter, opens | closes⟩ := token.isBracket_iff.1 (brackets token (by simp))
    · exact .inl ⟨_, .opener unmatched opens .empty⟩
    cases openers with
    | nil => exact .inr ⟨word, token, [], rfl, [], delimiter, unmatched, closes, by simp⟩
    | cons last openers =>
      by_cases same : last.2 = delimiter
      · subst same
        exact .inl ⟨openers, unmatched.close closes⟩
      · refine .inr ⟨word, token, [], rfl, _, delimiter, unmatched, closes, ?_⟩
        rintro opener expected ⟨⟩
        exact same

def nest (openers : List (Token × Delimiter)) :
    TokenList → Except StructureError (List (Token × Delimiter))
  | [] => .ok openers
  | token :: rest =>
    match token.role, openers with
    | .opener delimiter, _ => nest ((token, delimiter) :: openers) rest
    | .closer delimiter, [] => .error (.unopened token delimiter)
    | .closer delimiter, (opener, expected) :: below =>
      if expected = delimiter then nest below rest else .error (.mismatched opener token expected)
    | _, _ => nest openers rest

theorem nest_brackets (openers : List (Token × Delimiter)) (tokens : TokenList) :
    nest openers tokens.brackets = nest openers tokens := by
  induction tokens generalizing openers with
  | nil => rfl
  | cons token rest ih =>
    cases bracket : token.isBracket with
    | true =>
      rw [TokenList.brackets, List.filter_cons_of_pos bracket]
      change nest openers (token :: TokenList.brackets rest) = _
      simp only [nest, ih]
    | false =>
      rw [TokenList.brackets, List.filter_cons_of_neg (by simp [bracket]), ← TokenList.brackets, ih]
      have neither (delimiter : Delimiter) :
          ¬ (token.Opens delimiter ∨ token.Closes delimiter) := fun either =>
        by simp [token.isBracket_iff.2 ⟨delimiter, either⟩] at bracket
      cases role : token.role with
      | opener delimiter => exact absurd (.inl ((token.role_eq_opener_iff _).1 role)) (neither delimiter)
      | closer delimiter => exact absurd (.inr ((token.role_eq_closer_iff _).1 role)) (neither delimiter)
      | separator | plain => simp [nest, role]

theorem length_of_nest {openers left : List (Token × Delimiter)} {tokens : TokenList}
    (scanned : nest openers tokens = .ok left) :
    left.length + tokens.countP Token.isCloser = openers.length + tokens.countP Token.isOpener := by
  induction tokens generalizing openers with
  | nil =>
    cases scanned
    rfl
  | cons token rest ih =>
    cases role : token.role with
    | opener delimiter =>
      have counted : (token :: rest).countP Token.isOpener = rest.countP Token.isOpener + 1 ∧
          (token :: rest).countP Token.isCloser = rest.countP Token.isCloser := by
        simp [Token.isOpener_iff, Token.isCloser_iff, role]
      simp only [nest, role] at scanned
      have later := ih scanned
      rw [List.length_cons] at later
      omega
    | closer delimiter =>
      have counted : (token :: rest).countP Token.isOpener = rest.countP Token.isOpener ∧
          (token :: rest).countP Token.isCloser = rest.countP Token.isCloser + 1 := by
        simp [Token.isOpener_iff, Token.isCloser_iff, role]
      cases openers with
      | nil => simp [nest, role] at scanned
      | cons last below =>
        simp only [nest, role] at scanned
        split at scanned
        · have later := ih scanned
          rw [List.length_cons]
          omega
        · cases scanned
    | separator | plain =>
      simp only [nest, role] at scanned
      simpa [Token.isOpener_iff, Token.isCloser_iff, role] using ih scanned

theorem nest_balanced {word : TokenList} (balanced : Balanced word) (openers : List (Token × Delimiter))
    (rest : TokenList) : nest openers (word ++ rest) = nest openers rest := by
  induction balanced generalizing openers rest with
  | empty => rfl
  | @group opener closer delimiter inside after opens _ closes _ inner later =>
    have opening : opener.role = .opener delimiter := (opener.role_eq_opener_iff _).2 opens
    have closing : closer.role = .closer delimiter := (closer.role_eq_closer_iff _).2 closes
    simp [nest, opening, inner, closing, later]

theorem nest_unmatched {word : TokenList} {left : List (Token × Delimiter)}
    (unmatched : Unmatched word left) (rest : TokenList) : nest [] (word ++ rest) = nest left rest := by
  induction unmatched generalizing rest with
  | none balanced => exact nest_balanced balanced [] rest
  | @opener front back opener delimiter openers _ opens balanced ih =>
    have opening : opener.role = .opener delimiter := (opener.role_eq_opener_iff _).2 opens
    rw [List.append_assoc, ih]
    simp [nest, opening, nest_balanced balanced]

theorem Unmatched.nest {word : TokenList} {openers : List (Token × Delimiter)}
    (unmatched : Unmatched word openers) : nest [] word = .ok openers := by
  have scanned := nest_unmatched unmatched []
  rwa [List.append_nil] at scanned

theorem Unmatched.unique {word : TokenList} {openers others : List (Token × Delimiter)}
    (unmatched : Unmatched word openers) (again : Unmatched word others) : openers = others := by
  have same := unmatched.nest.symm.trans again.nest
  exact Except.ok.inj same

theorem nest_closer {closer : Token} {delimiter : Delimiter} (closes : closer.Closes delimiter)
    (openers : List (Token × Delimiter)) (rest : TokenList) :
    nest openers (closer :: rest) = match openers with
      | [] => .error (.unopened closer delimiter)
      | (opener, expected) :: below =>
        if expected = delimiter then nest below rest else .error (.mismatched opener closer expected) := by
  have closing : closer.role = .closer delimiter := (closer.role_eq_closer_iff _).2 closes
  cases openers <;> simp [nest, closing]

theorem FailsAfter.nest {front : TokenList} {closer : Token} (fails : FailsAfter front closer)
    (back : TokenList) : ∃ error, nest [] (front ++ closer :: back) = .error error := by
  obtain ⟨openers, delimiter, unmatched, closes, other⟩ := fails
  rw [nest_unmatched unmatched, nest_closer closes]
  cases openers with
  | nil => exact ⟨_, rfl⟩
  | cons last below => exact ⟨_, if_neg (other last.1 last.2 rfl)⟩

theorem Unmatched.not_fails {word front back : TokenList} {closer : Token}
    {openers : List (Token × Delimiter)} (unmatched : Unmatched word openers)
    (split : word = front ++ closer :: back) : ¬ FailsAfter front closer := by
  intro fails
  obtain ⟨error, scanned⟩ := fails.nest back
  rw [← split, unmatched.nest] at scanned
  cases scanned

namespace OpenForest

def openers (state : OpenForest) : List (Token × Delimiter) :=
  state.stack.map fun frame => (frame.opener, frame.delimiter)

@[simp] theorem openers_attach (state : OpenForest) (tree : Tree) :
    (state.attach tree).openers = state.openers := by
  unfold attach
  split <;> simp_all [openers, Frame.opener, Frame.delimiter]

@[simp] theorem openers_breakLine (state : OpenForest) : state.breakLine.openers = state.openers := by
  unfold breakLine
  split <;> simp_all [openers, Frame.opener, Frame.delimiter]

@[simp] theorem openers_enter (state : OpenForest) (frame : Frame) :
    (state.enter frame).openers = (frame.opener, frame.delimiter) :: state.openers := by
  simp [openers, enter]

@[simp] theorem openers_attachBlock (state : OpenForest) (children : Forest) :
    (state.attachBlock children).openers = state.openers := by
  unfold attachBlock
  split <;> simp_all [openers, Frame.opener, Frame.delimiter]

theorem openers_leave {state : OpenForest} {frame : Frame} {below : List Frame}
    (stack : state.stack = frame :: below) (closer : Option Token) :
    (state.leave closer).openers = ({ state with stack := below } : OpenForest).openers := by
  simp only [leave, stack]
  cases frame.delimiter <;> simp

theorem Effect.nest {state next : OpenForest} {token : Token} {mode : Mode}
    (effect : Effect state token mode next none) (rest : TokenList) :
    nest state.openers (token :: rest) = nest next.openers rest := by
  cases effect with
  | dropped trivia => simp [TokenForest.nest, Token.role_of_isTrivia trivia]
  | plain role | separator role => simp [TokenForest.nest, role]
  | collection role | block role => simp [TokenForest.nest, role, Frame.opener, Frame.delimiter]
  | @closed _ frame below role stack =>
    rw [openers_leave stack]
    simp [TokenForest.nest, role, openers, stack]

theorem nest_of_fault {state : OpenForest} {token : Token} {error : StructureError}
    (fault : state.fault? token = some error) (rest : TokenList) :
    nest state.openers (token :: rest) = .error error := by
  obtain ⟨delimiter, role⟩ := role_of_fault fault
  simp only [fault?, role] at fault
  cases stack : state.stack with
  | nil =>
    simp only [stack, Option.some.injEq] at fault
    simp [nest, role, openers, stack, fault]
  | cons frame below =>
    simp only [stack] at fault
    split at fault
    · cases fault
    · next other =>
      simp only [Option.some.injEq] at fault
      simp [nest, role, openers, stack, other, fault]

theorem pushAll_openers (state : OpenForest) (tokens : TokenList) :
    (state.pushAll tokens).map openers = nest state.openers tokens := by
  induction tokens generalizing state with
  | nil => rfl
  | cons token rest ih =>
    cases fault : state.fault? token with
    | some error => simp [pushAll, push, fault, nest_of_fault fault, Except.map]
    | none =>
      have next := (state.absorb_effect token .strict fault).nest rest
      simp only [pushAll, push, fault, ih, next]

theorem unclosed?_eq (state : OpenForest) :
    state.unclosed? = state.openers.head?.map fun opened => .unterminated opened.1 opened.2 state.openers.length := by
  cases stack : state.stack <;> simp [unclosed?, openers, openCount, stack]

theorem finish_eq (state : OpenForest) :
    state.finish = match state.openers with
      | [] => .ok state.forest
      | (opener, delimiter) :: below => .error (.unterminated opener delimiter (below.length + 1)) := by
  cases stack : state.stack <;> simp [finish, unclosed?, openers, openCount, stack]

theorem pushAll_brackets (keepTrivia : Bool) (tokens : TokenList) :
    ((empty keepTrivia).pushAll tokens).map openers = nest [] tokens.brackets := by
  rw [pushAll_openers, nest_brackets]
  rfl

theorem pushAll_of_unmatched (keepTrivia : Bool) {tokens : TokenList} {left : List (Token × Delimiter)}
    (unmatched : Unmatched tokens.brackets left) :
    ∃ last, (empty keepTrivia).pushAll tokens = .ok last ∧ last.openers = left := by
  have pushed := pushAll_brackets keepTrivia tokens
  rw [unmatched.nest] at pushed
  cases result : (empty keepTrivia).pushAll tokens with
  | error => simp [result, Except.map] at pushed
  | ok last => exact ⟨last, rfl, by simpa [result, Except.map] using pushed⟩

end OpenForest

namespace Forest

theorem ofTokens_of_balanced (keepTrivia : Bool) {tokens : TokenList}
    (balanced : Balanced tokens.brackets) : ∃ forest, ofTokens keepTrivia tokens = .ok forest := by
  obtain ⟨last, pushed, none⟩ := OpenForest.pushAll_of_unmatched keepTrivia (.none balanced)
  exact ⟨last.forest, by simp [ofTokens, pushed, OpenForest.finish_eq, none]⟩

theorem ofTokens_of_unmatched (keepTrivia : Bool) {tokens : TokenList} {opener : Token}
    {delimiter : Delimiter} {below : List (Token × Delimiter)}
    (unmatched : Unmatched tokens.brackets ((opener, delimiter) :: below)) :
    ofTokens keepTrivia tokens = .error (.unterminated opener delimiter (below.length + 1)) := by
  obtain ⟨last, pushed, some⟩ := OpenForest.pushAll_of_unmatched keepTrivia unmatched
  simp [ofTokens, pushed, OpenForest.finish_eq, some]

theorem ofTokens_of_nest_error (keepTrivia : Bool) {tokens : TokenList} {error : StructureError}
    (scanned : nest [] tokens.brackets = .error error) : ofTokens keepTrivia tokens = .error error := by
  have pushed := OpenForest.pushAll_brackets keepTrivia tokens
  rw [scanned] at pushed
  cases result : (OpenForest.empty keepTrivia).pushAll tokens with
  | error other => simpa [result, Except.map, ofTokens] using pushed
  | ok last => simp [result, Except.map] at pushed

theorem balanced_of_ofTokens {keepTrivia : Bool} {tokens : TokenList} {forest : Forest}
    (grouped : ofTokens keepTrivia tokens = .ok forest) : Balanced tokens.brackets := by
  rcases unmatched_or_fails _ tokens.isBracket_of_mem_brackets with
    ⟨_ | ⟨⟨opener, delimiter⟩, below⟩, unmatched⟩ | ⟨front, closer, back, word, fails⟩
  · exact unmatched_nil_iff.1 unmatched
  · simp [ofTokens_of_unmatched keepTrivia unmatched] at grouped
  · obtain ⟨error, scanned⟩ := fails.nest back
    rw [← word] at scanned
    simp [ofTokens_of_nest_error keepTrivia scanned] at grouped

/-- Strict grouping takes a stream if and only if its brackets are balanced. If no closer fails, the last unmatched
opener is reported; else the first closer that does, with the opener it was tried against if there is one. -/
theorem ofTokens_nesting (keepTrivia : Bool) (tokens : TokenList) :
    ((∃ forest, ofTokens keepTrivia tokens = .ok forest) ↔ Balanced tokens.brackets) ∧
    (¬ Balanced tokens.brackets →
      (∀ front closer back, tokens.brackets = front ++ closer :: back → ¬ FailsAfter front closer) →
      ∃ opener delimiter below, Unmatched tokens.brackets ((opener, delimiter) :: below) ∧
        ofTokens keepTrivia tokens = .error (.unterminated opener delimiter (below.length + 1))) ∧
    ∀ front closer back, tokens.brackets = front ++ closer :: back → FailsAfter front closer →
      (∀ shorter earlier between, front = shorter ++ earlier :: between → ¬ FailsAfter shorter earlier) ∧
      (Balanced front → ∃ delimiter, closer.Closes delimiter ∧
        ofTokens keepTrivia tokens = .error (.unopened closer delimiter)) ∧
      (¬ Balanced front → ∃ opener expected below, Unmatched front ((opener, expected) :: below) ∧
        ofTokens keepTrivia tokens = .error (.mismatched opener closer expected)) := by
  refine ⟨⟨?_, ofTokens_of_balanced keepTrivia⟩, ?_, ?_⟩
  · rintro ⟨forest, grouped⟩
    exact balanced_of_ofTokens grouped
  · intro unbalanced matching
    rcases unmatched_or_fails _ tokens.isBracket_of_mem_brackets with
      ⟨_ | ⟨⟨opener, delimiter⟩, below⟩, unmatched⟩ | ⟨front, closer, back, word, fails⟩
    · exact absurd (unmatched_nil_iff.1 unmatched) unbalanced
    · exact ⟨opener, delimiter, below, unmatched, ofTokens_of_unmatched keepTrivia unmatched⟩
    · exact absurd fails (matching front closer back word)
  · rintro front closer back word ⟨openers, delimiter, unmatched, closes, other⟩
    refine ⟨fun shorter earlier between earliest => unmatched.not_fails earliest, ?_, ?_⟩
    · intro balanced
      cases unmatched.unique (.none balanced)
      refine ⟨delimiter, closes, ofTokens_of_nest_error keepTrivia ?_⟩
      rw [word, nest_unmatched unmatched, nest_closer closes]
    · intro unbalanced
      rcases openers with _ | ⟨⟨opener, expected⟩, below⟩
      · exact absurd (unmatched_nil_iff.1 unmatched) unbalanced
      · refine ⟨opener, expected, below, unmatched, ofTokens_of_nest_error keepTrivia ?_⟩
        have differs : expected ≠ delimiter := other opener expected rfl
        rw [word, nest_unmatched unmatched, nest_closer closes]
        simp [differs]

end Forest

end TokenForest
