import TokenForest.Classification

set_option autoImplicit false

namespace TokenForest

theorem Position.getElem?_starts (position : Position) (texts : List String) {index : Nat}
    (inside : index < texts.length) :
    (position.starts texts)[index]? = some ((texts.take index).foldl advance position) := by
  induction texts generalizing position index with
  | nil => cases inside
  | cons text rest ih =>
    cases index with
    | zero => rfl
    | succ index => simpa [starts] using ih (position.advance text) (Nat.lt_of_succ_lt_succ inside)

namespace Classification

theorem classify_of_resolve {classified : Classification} {raw : RawToken} {kind : Kind}
    (resolved : classified.taxonomy.resolve raw.path = .ok kind) :
    classified.classify raw = .ok (classified.add ⟨kind, raw.text, classified.position⟩) := by
  simp [classify, next, resolved, Except.map]

theorem classify_of_unresolved {classified : Classification} {raw : RawToken} {cause : Taxonomy.ResolveError}
    (unresolved : classified.taxonomy.resolve raw.path = .error cause) :
    classified.classify raw = .error ⟨classified.position, cause⟩ := by
  simp [classify, next, unresolved, Except.map]

structure Extends (classified : Classification) (raw : List RawToken) (last : Classification) : Prop where
  resolves : ∀ token ∈ raw, ∃ kind, classified.taxonomy.resolve token.path = .ok kind
  taxonomy : last.taxonomy = classified.taxonomy
  kinds : last.tokens.map (fun token => .ok token.kind) =
    classified.tokens.map (fun token => .ok token.kind) ++ raw.map fun token => classified.taxonomy.resolve token.path
  position : last.position = (raw.map RawToken.text).foldl Position.advance classified.position
  texts : last.tokens.map Token.text = classified.tokens.map Token.text ++ raw.map RawToken.text
  positions : last.tokens.map Token.position =
    classified.tokens.map Token.position ++ classified.position.starts (raw.map RawToken.text)

theorem extends_nil (classified : Classification) : classified.Extends [] classified :=
  ⟨by simp, rfl, by simp, rfl, by simp, by simp [Position.starts]⟩

theorem Extends.cons {classified last : Classification} {raw : RawToken} {rest : List RawToken} {kind : Kind}
    (resolved : classified.taxonomy.resolve raw.path = .ok kind)
    (later : (classified.add ⟨kind, raw.text, classified.position⟩).Extends rest last) :
    classified.Extends (raw :: rest) last where
  resolves := List.forall_mem_cons.2 ⟨⟨kind, resolved⟩, later.resolves⟩
  taxonomy := later.taxonomy
  kinds := by simpa [add, resolved] using later.kinds
  position := later.position
  texts := by simpa [add] using later.texts
  positions := by simpa [add, Position.starts] using later.positions

theorem Extends.position_of_token {taxonomy : Taxonomy} {last : Classification} {raw : List RawToken}
    (extended : (empty taxonomy).Extends raw last) {index : Nat} {token : Token}
    (found : last.tokens[index]? = some token) :
    token.position = ((raw.take index).map RawToken.text).foldl Position.advance .start := by
  have positions : last.tokens.map Token.position = Position.start.starts (raw.map RawToken.text) :=
    extended.positions
  have own : (last.tokens.map Token.position)[index]? = some token.position := by simp [found]
  have inside : index < (raw.map RawToken.text).length := by
    rw [← Position.length_starts .start, ← positions]
    exact (List.getElem?_eq_some_iff.1 own).1
  rw [positions, Position.getElem?_starts _ _ inside, ← List.map_take, Option.some.injEq] at own
  exact own.symm

theorem extends_of_classifyAll {classified last : Classification} {raw : List RawToken}
    (all : classified.classifyAll raw = (last, none)) : classified.Extends raw last := by
  induction raw generalizing classified with
  | nil =>
    cases all
    exact extends_nil last
  | cons token rest ih =>
    cases resolved : classified.taxonomy.resolve token.path with
    | error cause => simp [classifyAll, classify_of_unresolved resolved] at all
    | ok kind =>
      simp only [classifyAll, classify_of_resolve resolved] at all
      exact (ih all).cons resolved

theorem classifyAll_of_resolves {classified : Classification} {raw : List RawToken}
    (resolves : ∀ token ∈ raw, ∃ kind, classified.taxonomy.resolve token.path = .ok kind) :
    ∃ last, classified.classifyAll raw = (last, none) ∧
      last.tokens.map Token.text = classified.tokens.map Token.text ++ raw.map RawToken.text := by
  suffices all : ∃ last, classified.classifyAll raw = (last, none) by
    obtain ⟨last, all⟩ := all
    exact ⟨last, all, (extends_of_classifyAll all).texts⟩
  induction raw generalizing classified with
  | nil => exact ⟨classified, rfl⟩
  | cons token rest ih =>
    obtain ⟨⟨kind, resolved⟩, later⟩ := List.forall_mem_cons.1 resolves
    obtain ⟨last, all⟩ := @ih (classified.add ⟨kind, token.text, classified.position⟩) later
    exact ⟨last, by simp [classifyAll, classify_of_resolve resolved, all]⟩

theorem classifyStream_eq_ok_iff {taxonomy : Taxonomy} {raw : List RawToken} {tokens : TokenList} :
    classifyStream taxonomy raw = .ok tokens ↔
      ∃ last, (empty taxonomy).classifyAll raw = (last, none) ∧ last.tokens = tokens := by
  unfold classifyStream
  rcases (empty taxonomy).classifyAll raw with ⟨last, _ | error⟩ <;> simp

theorem classifyStream_isOk_iff {taxonomy : Taxonomy} {raw : List RawToken} :
    (∃ tokens, classifyStream taxonomy raw = .ok tokens) ↔
      ∀ token ∈ raw, ∃ kind, taxonomy.resolve token.path = .ok kind := by
  constructor
  · intro ⟨tokens, classified⟩
    obtain ⟨last, all, -⟩ := classifyStream_eq_ok_iff.1 classified
    exact (extends_of_classifyAll all).resolves
  · intro resolves
    obtain ⟨last, all, -⟩ := @classifyAll_of_resolves (empty taxonomy) raw resolves
    exact ⟨last.tokens, classifyStream_eq_ok_iff.2 ⟨last, all, rfl⟩⟩

end Classification

end TokenForest
