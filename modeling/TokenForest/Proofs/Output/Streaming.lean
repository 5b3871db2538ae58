import Mathlib.Data.List.Induction
import TokenForest.Output
import TokenForest.Proofs.Classification.Stream
import TokenForest.Proofs.Dump.Locality

set_option autoImplicit false

namespace TokenForest

namespace Dump

inductive Says : List (List Char) → List RawToken → Prop
  | nil : Says [] []
  | skip {line : List Char} {rest : List (List Char)} {raw : List RawToken} (silent : Silent line)
      (later : Says rest raw) : Says (line :: rest) raw
  | token {line : List Char} {rest : List (List Char)} {token : RawToken} {raw : List RawToken}
      (spoken : ¬ Silent line) (decoded : decodeLine line = .ok token) (later : Says rest raw) :
      Says (line :: rest) (token :: raw)

theorem Says.append {front back : List (List Char)} {raw more : List RawToken} (first : Says front raw)
    (second : Says back more) : Says (front ++ back) (raw ++ more) := by
  induction first with
  | nil => exact second
  | skip silent _ ih => exact .skip silent ih
  | token spoken decoded _ ih => exact .token spoken decoded ih

theorem Says.readLines {lines : List (List Char)} {raw : List RawToken} (said : Says lines raw) (number : Nat) :
    readLines number lines = raw.map .ok := by
  induction said generalizing number with
  | nil => rfl
  | skip silent _ ih => simp [readLines_cons, silent, ih]
  | token spoken decoded _ ih => simp [readLines_cons, spoken, item, decoded, ih, Except.mapError]

end Dump

namespace Output

theorem classifyItems_append (name : String) (classified : Classification) (raw : List RawToken)
    (items : List (Except Dump.Error RawToken)) :
    classifyItems name classified (raw.map .ok ++ items) =
      match classified.classifyAll raw with
      | (last, none) => classifyItems name last items
      | (_, some error) => .error (.unclassified name error) := by
  induction raw generalizing classified with
  | nil => rfl
  | cons token rest ih =>
    cases step : classified.classify token <;> simp [classifyItems, Classification.classifyAll, step, ih]

theorem classifyItems_eq_ok_iff {name : String} {classified last : Classification}
    {items : List (Except Dump.Error RawToken)} :
    classifyItems name classified items = .ok last ↔
      ∃ raw, items = raw.map .ok ∧ classified.classifyAll raw = (last, none) := by
  constructor
  · intro ended
    induction items generalizing classified with
    | nil =>
      cases ended
      exact ⟨[], rfl, rfl⟩
    | cons item rest ih =>
      cases item with
      | error error => cases ended
      | ok token =>
        cases step : classified.classify token with
        | error error => simp [classifyItems, step] at ended
        | ok next =>
          simp only [classifyItems, step] at ended
          obtain ⟨raw, rfl, all⟩ := ih ended
          exact ⟨token :: raw, rfl, by simp [Classification.classifyAll, step, all]⟩
  · rintro ⟨raw, rfl, all⟩
    have whole := classifyItems_append name classified raw []
    simpa [all, classifyItems] using whole

theorem ofDump_eq_ok_iff {name dump : String} {taxonomy : Taxonomy} {settings : Settings} {output : Output} :
    ofDump name dump taxonomy settings = .ok output ↔
      ∃ raw tokens, Dump.parse dump = .ok raw ∧ classifyStream taxonomy raw = .ok tokens ∧
        ofTokens name settings tokens = output := by
  simp only [ofDump, map_eq_ok_iff, classifyItems_eq_ok_iff, Dump.parse_eq_ok_iff,
    Classification.classifyStream_eq_ok_iff]
  constructor
  · rintro ⟨last, ⟨raw, said, all⟩, made⟩
    exact ⟨raw, last.tokens, said, ⟨last, all, rfl⟩, made⟩
  · rintro ⟨raw, _, said, ⟨last, all, rfl⟩, made⟩
    exact ⟨last, ⟨raw, said, all⟩, made⟩

/-- What is wrong with the line of that number, if the texts before it end at the position. -/
inductive LineFault (name : String) (taxonomy : Taxonomy) (number : Nat) (position : Position)
    (line : List Char) : Failure → Prop
  | malformed {fault : Dump.Fault} (decoded : Dump.decodeLine line = .error fault) :
      LineFault name taxonomy number position line (.malformed name ⟨number, fault⟩)
  | unclassified {raw : RawToken} {cause : Taxonomy.ResolveError} (decoded : Dump.decodeLine line = .ok raw)
      (unresolved : taxonomy.resolve raw.path = .error cause) :
      LineFault name taxonomy number position line (.unclassified name ⟨position, cause⟩)

/-- The line is not silent and at fault, and none is before it. -/
def FirstFault (name : String) (taxonomy : Taxonomy) (front : List (List Char)) (line : List Char)
    (failure : Failure) : Prop :=
  ∃ raw, Dump.Says front raw ∧ (∀ token ∈ raw, ∃ kind, taxonomy.resolve token.path = .ok kind) ∧
    ¬ Dump.Silent line ∧
    LineFault name taxonomy (front.length + 1) ((raw.map RawToken.text).foldl Position.advance .start) line failure

theorem said_or_firstFault (name : String) (taxonomy : Taxonomy) (lines : List (List Char)) :
    (∃ raw, Dump.Says lines raw ∧ ∀ token ∈ raw, ∃ kind, taxonomy.resolve token.path = .ok kind) ∨
      ∃ front line back failure, lines = front ++ line :: back ∧ FirstFault name taxonomy front line failure := by
  induction lines using List.reverseRecOn with
  | nil => exact .inl ⟨[], .nil, by simp⟩
  | append_singleton lines line ih =>
    rcases ih with ⟨raw, said, resolves⟩ | ⟨front, first, back, failure, rfl, fault⟩
    case inr => exact .inr ⟨front, first, back ++ [line], failure, by simp, fault⟩
    by_cases silent : Dump.Silent line
    · exact .inl ⟨raw, by simpa using said.append (.skip silent .nil), resolves⟩
    cases decoded : Dump.decodeLine line with
    | error fault => exact .inr ⟨lines, line, [], _, rfl, raw, said, resolves, silent, .malformed decoded⟩
    | ok token =>
      cases resolved : taxonomy.resolve token.path with
      | error cause => exact .inr ⟨lines, line, [], _, rfl, raw, said, resolves, silent, .unclassified decoded resolved⟩
      | ok kind =>
        refine .inl ⟨raw ++ [token], said.append (.token silent decoded .nil), ?_⟩
        exact List.forall_mem_append.2 ⟨resolves, by simp [resolved]⟩

theorem ofDump_of_said {name dump : String} {taxonomy : Taxonomy} {raw : List RawToken}
    (said : Dump.Says (Text.lines dump.toList) raw)
    (resolves : ∀ token ∈ raw, ∃ kind, taxonomy.resolve token.path = .ok kind) (settings : Settings) :
    ∃ output, ofDump name dump taxonomy settings = .ok output := by
  obtain ⟨tokens, classified⟩ := Classification.classifyStream_isOk_iff.2 resolves
  have parsed : Dump.parse dump = .ok raw := Dump.parse_eq_ok_iff.2 (said.readLines 1)
  exact ⟨_, ofDump_eq_ok_iff.2 ⟨raw, tokens, parsed, classified, rfl⟩⟩

theorem FirstFault.ofDump {name dump : String} {taxonomy : Taxonomy} {front back : List (List Char)}
    {line : List Char} {failure : Failure} (first : FirstFault name taxonomy front line failure)
    (split : Text.lines dump.toList = front ++ line :: back) (settings : Settings) :
    ofDump name dump taxonomy settings = .error failure := by
  obtain ⟨raw, said, resolves, spoken, fault⟩ := first
  obtain ⟨last, all, -⟩ := @Classification.classifyAll_of_resolves (.empty taxonomy) raw resolves
  have extended := Classification.extends_of_classifyAll all
  have items : Dump.read dump = raw.map .ok ++ Dump.readLines (front.length + 1) (line :: back) := by
    rw [Dump.read, split, Dump.readLines_append, said.readLines, Nat.add_comm]
  have rest : classifyItems name last (Dump.readLines (front.length + 1) (line :: back)) = .error failure := by
    cases fault with
    | malformed decoded => simp [Dump.readLines_cons, spoken, Dump.item, decoded, Except.mapError, classifyItems]
    | @unclassified token cause decoded unresolved =>
      have stopped : last.classify token = .error ⟨last.position, cause⟩ :=
        Classification.classify_of_unresolved (by rw [extended.taxonomy]; exact unresolved)
      simp [Dump.readLines_cons, spoken, Dump.item, decoded, Except.mapError, classifyItems, stopped,
        extended.position, Classification.empty]
  simp only [Output.ofDump, items, classifyItems_append, all, rest, Except.map]

/-- A dump has an output if and only if it parses and its tokens are classified, and then these are its tokens. It fails
with the first line at fault, and so does every dump that begins with the same lines, whatever its settings. -/
theorem ofDump_streaming (name dump : String) (taxonomy : Taxonomy) (settings : Settings) :
    (∀ tokens, (∃ output, ofDump name dump taxonomy settings = .ok output ∧ output.tokens = tokens) ↔
      ∃ raw, Dump.parse dump = .ok raw ∧ classifyStream taxonomy raw = .ok tokens) ∧
    (∀ failure, ofDump name dump taxonomy settings = .error failure ↔
      ∃ front line back, Text.lines dump.toList = front ++ line :: back ∧
        FirstFault name taxonomy front line failure) ∧
    ∀ front line back failure, Text.lines dump.toList = front ++ line :: back →
      FirstFault name taxonomy front line failure →
      ∀ other more others, Text.lines other.toList = front ++ line :: more →
        ofDump name other taxonomy others = ofDump name dump taxonomy settings := by
  refine ⟨fun tokens => ?_, fun failure => ⟨fun failed => ?_, ?_⟩, ?_⟩
  · simp only [ofDump_eq_ok_iff]
    constructor
    · rintro ⟨_, ⟨raw, tokens, parsed, classified, rfl⟩, rfl⟩
      exact ⟨raw, parsed, classified⟩
    · rintro ⟨raw, parsed, classified⟩
      exact ⟨_, ⟨raw, tokens, parsed, classified, rfl⟩, rfl⟩
  · rcases said_or_firstFault name taxonomy (Text.lines dump.toList) with
      ⟨raw, said, resolves⟩ | ⟨front, line, back, found, split, first⟩
    · obtain ⟨output, made⟩ := @ofDump_of_said name _ _ _ said resolves settings
      cases made.symm.trans failed
    · have same := (first.ofDump split settings).symm.trans failed
      cases same
      exact ⟨front, line, back, split, first⟩
  · rintro ⟨front, line, back, split, first⟩
    exact first.ofDump split settings
  · intro front line back failure split first other more others again
    rw [first.ofDump split settings, first.ofDump again others]

end Output

end TokenForest
