import TokenForest.Proofs.Dump.RoundTrip
import TokenForest.Proofs.Forest.Flattening
import TokenForest.Proofs.Forest.Nesting
import TokenForest.Proofs.Output.Streaming
import TokenForest.Proofs.Taxonomy.Lookup

set_option autoImplicit false

namespace TokenForest

theorem RawToken.writable_of_rooted {token : RawToken}
    (rooted : (Taxonomy.segments token.path).head? = some Kind.root) (noTab : '\t' ∉ token.path.toList)
    (noNewline : '\n' ∉ token.path.toList) : token.Writable := by
  obtain ⟨rest, path⟩ := Taxonomy.prefix_of_head_segment rooted
  have first : token.path.toList.head? = some 'T' := by
    rw [← path]
    rfl
  have blank : Text.isBlank 'T' = false := by decide
  refine ⟨noTab, noNewline, by simp [first], fun ⟨blanks, _⟩ => ?_⟩
  simpa [blank] using blanks 'T' (List.mem_of_mem_head? first)

namespace Output

theorem classifyItems_ok (name : String) (classified : Classification) (raw : List RawToken) :
    classifyItems name classified (raw.map .ok) =
      match classified.classifyAll raw with
      | (last, none) => .ok last
      | (_, some error) => .error (.unclassified name error) := by
  have whole := classifyItems_append name classified raw []
  rw [List.append_nil] at whole
  exact whole

end Output

theorem TokenList.sourceText_append (front back : TokenList) :
    sourceText (front ++ back) = sourceText front ++ sourceText back := by
  simp [sourceText]

theorem Forest.join_text (forest : Forest) :
    String.join (forest.map Tree.text) = TokenList.sourceText (Forest.tokens forest) := by
  induction forest with
  | nil => rfl
  | cons tree rest ih => simp [Forest.tokens, TokenList.sourceText_append, ih, Tree.text]

namespace Output

theorem tokens_structureTokens (settings : Settings) {tokens : TokenList}
    (grouped : settings.recover = true ∨ Balanced tokens.brackets) :
    Forest.tokens (structureTokens settings tokens).forest = TokenList.kept settings.keepTrivia tokens := by
  have recovered := Forest.tokens_recover settings.keepTrivia tokens
  unfold structureTokens
  split
  · exact recovered
  · next strict =>
    obtain ⟨forest, whole⟩ := Forest.ofTokens_of_balanced settings.keepTrivia (grouped.resolve_left strict)
    rw [Forest.recover_of_ofTokens whole] at recovered
    simp only [whole, recovered]

/-- Whatever a list of tokens is named and how it is grouped, its dump is classified as the list itself is, and keeps
every text. The texts of the units make up the source text, or that of the significant tokens if trivia is not kept. -/
theorem ofDump_write (name : String) (taxonomy : Taxonomy) (settings : Settings) {raw : List RawToken}
    (resolves : ∀ token ∈ raw, ∃ kind, taxonomy.resolve token.path = .ok kind)
    (plain : ∀ token ∈ raw, '\t' ∉ token.path.toList ∧ '\n' ∉ token.path.toList) :
    ∃ output, ofDump name (Dump.write raw) taxonomy settings = .ok output ∧
      classifyStream taxonomy raw = .ok output.tokens ∧
      output.tokens.sourceText = String.join (raw.map RawToken.text) ∧
      (settings.structured = true → settings.recover = true ∨ Balanced output.tokens.brackets →
        ∃ structured, output.structured = some structured ∧
          String.join (structured.forest.map Tree.text) =
            if settings.keepTrivia then String.join (raw.map RawToken.text)
            else output.tokens.significant.sourceText) := by
  have writable : ∀ token ∈ raw, token.Writable := by
    intro token inside
    obtain ⟨kind, resolved⟩ := resolves token inside
    obtain ⟨noTab, noNewline⟩ := plain token inside
    exact RawToken.writable_of_rooted (Taxonomy.rooted_of_resolve resolved) noTab noNewline
  obtain ⟨last, all, texts⟩ := @Classification.classifyAll_of_resolves (.empty taxonomy) raw resolves
  have source : last.tokens.sourceText = String.join (raw.map RawToken.text) := by
    rw [TokenList.sourceText, texts]
    rfl
  refine ⟨ofTokens name settings last.tokens, ?_, ?_, source, fun structured grouped => ?_⟩
  · simp [ofDump, Dump.read_write writable, classifyItems_ok, all, Except.map]
  · simp [classifyStream, all, ofTokens]
  · have held : Forest.tokens (structureTokens settings last.tokens).forest =
        TokenList.kept settings.keepTrivia last.tokens := tokens_structureTokens settings grouped
    refine ⟨structureTokens settings last.tokens, by simp [ofTokens, structured], ?_⟩
    rw [Forest.join_text, held, TokenList.kept]
    split
    · exact source
    · rfl

theorem ofDump_write_block :
    let taxonomy : Taxonomy :=
      ⟨.leaf "Text" (.text .unflavoured) (.leaf "Punctuation" (.punctuation .unflavoured) .empty), rfl⟩
    let raw : List RawToken :=
      [⟨"Token.Punctuation", "\x7b"⟩, ⟨"Token.Text", "#\t\\\r\n"⟩, ⟨"Token.Punctuation.Marker", "\x7d"⟩]
    ∃ output structured, ofDump "block" (Dump.write raw) taxonomy ⟨true, false, true, true⟩ = .ok output ∧
      output.structured = some structured ∧
      String.join (structured.forest.map Tree.text) = "\x7b#\t\\\r\n\x7d" := by
  intro taxonomy raw
  let mark (text : String) (line : UInt32) : Token := ⟨.punctuation .unflavoured, text, ⟨line, 0⟩⟩
  let tokens : TokenList := [mark "\x7b" 0, ⟨.text .unflavoured, "#\t\\\r\n", ⟨0, 1⟩⟩, mark "\x7d" 1]
  have resolves : ∀ token ∈ raw, ∃ kind, taxonomy.resolve token.path = .ok kind := by
    simp only [raw, List.forall_mem_cons]
    exact ⟨⟨.punctuation .unflavoured, by decide⟩, ⟨.text .unflavoured, by decide⟩,
      ⟨.punctuation .unflavoured, by decide⟩, by simp⟩
  obtain ⟨output, made, classified, -, grouped⟩ :=
    ofDump_write "block" taxonomy ⟨true, false, true, true⟩ resolves (by decide)
  have known : classifyStream taxonomy raw = .ok tokens := by decide +kernel
  have same : output.tokens = tokens := Except.ok.inj (classified.symm.trans known)
  have balanced : Balanced output.tokens.brackets := by
    have brackets : tokens.brackets = [] ++ mark "\x7b" 0 :: [] ++ mark "\x7d" 1 :: [] := by decide
    have opens : (mark "\x7b" 0).Opens .brace := ⟨rfl, rfl⟩
    rw [same, brackets]
    exact .group opens .empty ⟨rfl, rfl⟩ .empty
  obtain ⟨structured, units, texts⟩ := grouped rfl (.inr balanced)
  exact ⟨output, structured, made, units, texts⟩

end Output

end TokenForest
