import TokenForest.Proofs.Taxonomy.Lookup

set_option autoImplicit false

namespace TokenForest.Taxonomy

theorem Branches.mono {paths more : List String} (included : paths ⊆ more) {branch : List String}
    (stands : Branches paths branch) : Branches more branch := by
  rcases stands with root | ⟨path, inside, above⟩
  · exact .inl root
  · exact .inr ⟨path, included inside, above⟩

theorem Deepest.unique {paths : List String} {path branch other : List String} (deepest : Deepest paths path branch)
    (again : Deepest paths path other) : branch = other := by
  have shorter := again.longest branch deepest.ahead deepest.stands
  have longer := deepest.longest other again.ahead again.stands
  exact eq_of_prefix_of_length deepest.ahead again.ahead (Nat.le_antisymm shorter longer)

theorem Answers.unique {entries : List (String × Kind)} (compatible : Compatible (entries.map Prod.fst))
    {path : List String} {answer other : Except (Option String) Kind} (found : Answers entries path answer)
    (again : Answers entries path other) : answer = other := by
  cases found with
  | terminal held begins => exact (again.eq_of_begins compatible held begins).symm
  | fallback none deepest held key =>
    obtain ⟨branch, same, fallback, -⟩ := again.deepest compatible none
    obtain rfl := deepest.unique same
    exact (fallback _ held key).symm
  | nothing none deepest missing =>
    obtain ⟨branch, same, -, nothing⟩ := again.deepest compatible none
    obtain rfl := deepest.unique same
    exact (nothing missing).symm

theorem mapError_unresolved_inj {path : String} {answer other : Except (Option String) Kind} :
    answer.mapError (ResolveError.unresolved path) = other.mapError (.unresolved path) ↔ answer = other := by
  cases answer <;> cases other <;> simp [Except.mapError]

section Built

variable {entries : List (String × Kind)} {taxonomy : Taxonomy} (built : ofEntries entries = .ok taxonomy) {path : String}

include built

theorem consistent_of_ofEntries : Consistent (entries.map Prod.fst) := by
  obtain ⟨holds, compatible⟩ := holds_of_ofEntries built
  exact (holds.consistent_iff compatible).2 taxonomy.complete

theorem resolve_eq_iff (rooted : (segments path).head? = some Kind.root) (answer : Except (Option String) Kind) :
    taxonomy.resolve path = answer.mapError (.unresolved path) ↔ Answers entries (segments path) answer := by
  obtain ⟨holds, compatible⟩ := holds_of_ofEntries built
  obtain ⟨below, parts⟩ := List.head?_eq_some_iff.1 rooted
  have found : Answers entries (segments path) (taxonomy.trie.find below) := by
    rw [parts]
    exact (Reached.start holds compatible.formed below).find_answers holds.sound
  rw [resolve_of_segments parts, mapError_unresolved_inj]
  exact ⟨fun same => same ▸ found, found.unique compatible⟩

theorem resolve_eq_error_iff (rooted : (segments path).head? = some Kind.root) {segment : Option String} :
    taxonomy.resolve path = .error (.unresolved path segment) ↔ Answers entries (segments path) (.error segment) :=
  resolve_eq_iff built rooted (.error segment)

theorem resolve_eq_ok_iff {kind : Kind} :
    taxonomy.resolve path = .ok kind ↔
      (segments path).head? = some Kind.root ∧ Answers entries (segments path) (.ok kind) := by
  constructor
  · intro resolved
    have rooted := rooted_of_resolve resolved
    exact ⟨rooted, (resolve_eq_iff built rooted (.ok kind)).1 resolved⟩
  · exact fun ⟨rooted, found⟩ => (resolve_eq_iff built rooted (.ok kind)).2 found

end Built

theorem resolve_ok_or_unresolved (taxonomy : Taxonomy) {path : String}
    (rooted : (segments path).head? = some Kind.root) :
    (∃ kind, taxonomy.resolve path = .ok kind) ∨
      ∃ segment, taxonomy.resolve path = .error (.unresolved path segment) := by
  obtain ⟨below, parts⟩ := List.head?_eq_some_iff.1 rooted
  rw [resolve_of_segments parts]
  cases taxonomy.trie.find below with
  | ok kind => exact .inl ⟨kind, rfl⟩
  | error segment => exact .inr ⟨segment, rfl⟩

def Known (paths : List String) (segment : String) : Prop :=
  ∃ path ∈ paths, (segments path)[1]? = some segment

theorem Formed.long {path : String} (formed : Formed path) : 1 < (segments path).length := by
  obtain ⟨below, parts⟩ := List.head?_eq_some_iff.1 formed.rooted
  have more : below ≠ [] := by
    rintro rfl
    exact formed.longer parts
  simpa [parts, List.length_pos_iff] using more

theorem Formed.parts_of_second {path second : String} (formed : Formed path) (next : (segments path)[1]? = some second) :
    ∃ more, segments path = Kind.root :: second :: more := by
  obtain ⟨below, parts⟩ := List.head?_eq_some_iff.1 formed.rooted
  rw [parts, List.getElem?_cons_succ, ← List.head?_eq_getElem?] at next
  obtain ⟨more, rfl⟩ := List.head?_eq_some_iff.1 next
  exact ⟨more, parts⟩

theorem Known.of_prefix {paths : List String} {branch whole : List String} (ahead : branch <+: whole)
    (long : 1 < branch.length) {path : String} (inside : path ∈ paths) (begins : branch <+: segments path) :
    ∃ second, whole[1]? = some second ∧ Known paths second := by
  have shared {whole : List String} (ahead : branch <+: whole) : whole[1]? = some branch[1] :=
    List.prefix_iff_getElem?.1 ahead 1 long
  exact ⟨branch[1], shared ahead, path, inside, shared begins⟩

theorem Consistent.length_le_one {entries : List (String × Kind)} (consistent : Consistent (entries.map Prod.fst))
    {branch : List String} (stands : Branches (entries.map Prod.fst) branch)
    (missing : ∀ entry ∈ entries, segments entry.1 ≠ branch ++ [fallbackKey]) : branch.length ≤ 1 := by
  by_contra long
  rcases stands with rfl | ⟨path, inside, above⟩
  · simp at long
  · obtain ⟨other, held, fallback⟩ := consistent.complete path inside branch above (by omega)
    obtain ⟨entry, listed, rfl⟩ := List.mem_map.1 held
    exact missing entry listed fallback

structure Uncovered (entries : List (String × Kind)) (path : List String) : Prop where
  missing : ∀ entry ∈ entries, segments entry.1 ≠ [Kind.root, fallbackKey]
  unknown : ∀ second, path[1]? = some second → ¬ Known (entries.map Prod.fst) second

theorem uncovered_iff {entries : List (String × Kind)} {path : List String} :
    Uncovered entries path ↔ (∀ entry ∈ entries, segments entry.1 ≠ [Kind.root, fallbackKey]) ∧
      ∀ second, path[1]? = some second → ¬ Known (entries.map Prod.fst) second :=
  ⟨fun uncovered => ⟨uncovered.missing, uncovered.unknown⟩, fun ⟨missing, unknown⟩ => ⟨missing, unknown⟩⟩

theorem Deepest.eq_root {paths below branch : List String} (deepest : Deepest paths (Kind.root :: below) branch)
    (short : branch.length ≤ 1) : branch = [Kind.root] := by
  have root : [Kind.root] <+: Kind.root :: below := List.prefix_append [Kind.root] below
  have deep := deepest.longest [Kind.root] root (.inl rfl)
  exact eq_of_prefix_of_length deepest.ahead root (Nat.le_antisymm short deep)

section Failing

variable {entries : List (String × Kind)} {below : List String}

theorem Answers.uncovered (consistent : Consistent (entries.map Prod.fst)) {segment : Option String}
    (found : Answers entries (Kind.root :: below) (.error segment)) :
    segment = (Kind.root :: below)[1]? ∧ Uncovered entries (Kind.root :: below) := by
  cases found with
  | @nothing branch none deepest missing =>
    obtain rfl := deepest.eq_root (consistent.length_le_one deepest.stands missing)
    refine ⟨by simp [List.head?_eq_getElem?], missing, fun second next known => ?_⟩
    obtain ⟨path, inside, again⟩ := known
    obtain ⟨entry, held, rfl⟩ := List.mem_map.1 inside
    obtain ⟨more, parts⟩ := (consistent.formed _ inside).parts_of_second again
    obtain ⟨rest, rfl⟩ := List.head?_eq_some_iff.1 (List.head?_eq_getElem?.trans next)
    cases more with
    | nil =>
      -- An entry of two segments is the root's fallback, or it begins the path.
      by_cases key : second = fallbackKey
      · exact missing entry held (by simp [parts, key])
      · exact none entry held ⟨by simpa [parts] using key, by simp [parts]⟩
    | cons third more =>
      have above : Above [Kind.root, second] (segments entry.1) := by simp [parts]
      have deep := deepest.longest [Kind.root, second] (by simp) (.inr ⟨entry.1, inside, above⟩)
      simp at deep

theorem Uncovered.answers (compatible : Compatible (entries.map Prod.fst))
    (uncovered : Uncovered entries (Kind.root :: below)) :
    Answers entries (Kind.root :: below) (.error (Kind.root :: below)[1]?) := by
  have none : ∀ entry ∈ entries, ¬ Begins entry.1 (Kind.root :: below) := by
    intro entry held begins
    have inside : entry.1 ∈ entries.map Prod.fst := List.mem_map_of_mem held
    obtain ⟨second, next, known⟩ :=
      Known.of_prefix begins.ahead (compatible.formed _ inside).long inside List.prefix_rfl
    exact uncovered.unknown second next known
  have deepest : Deepest (entries.map Prod.fst) (Kind.root :: below) [Kind.root] := by
    refine ⟨List.prefix_append [Kind.root] below, .inl rfl, fun other ahead stands => ?_⟩
    by_contra long
    rcases stands with rfl | ⟨path, inside, above⟩
    · simp at long
    · obtain ⟨second, next, known⟩ := Known.of_prefix ahead (by simpa using long) inside above.1
      exact uncovered.unknown second next known
  simpa [List.head?_eq_getElem?] using Answers.nothing none deepest uncovered.missing

end Failing

theorem resolve_eq_unresolved_iff {entries : List (String × Kind)} {taxonomy : Taxonomy}
    (built : ofEntries entries = .ok taxonomy) {path origin : String} {segment : Option String} :
    taxonomy.resolve path = .error (.unresolved origin segment) ↔
      origin = path ∧ (segments path).head? = some Kind.root ∧
        segment = (segments path)[1]? ∧ Uncovered entries (segments path) := by
  have consistent := consistent_of_ofEntries built
  constructor
  · intro failed
    by_cases rooted : (segments path).head? = some Kind.root
    · obtain ⟨below, parts⟩ := List.head?_eq_some_iff.1 rooted
      obtain rfl : origin = path := by
        rw [resolve_of_segments parts] at failed
        cases found : taxonomy.trie.find below <;> simp_all [Except.mapError]
      have found := (resolve_eq_error_iff built rooted).1 failed
      rw [parts] at found
      exact ⟨rfl, rooted, parts ▸ found.uncovered consistent⟩
    · rw [resolve_malformed_iff.2 rooted] at failed
      cases failed
  · rintro ⟨rfl, rooted, rfl, uncovered⟩
    obtain ⟨below, parts⟩ := List.head?_eq_some_iff.1 rooted
    rw [resolve_eq_error_iff built rooted]
    rw [parts] at uncovered ⊢
    exact uncovered.answers consistent.toCompatible

theorem segments_eq_root_iff {path : String} : segments path = [Kind.root] ↔ path = Kind.root := by
  constructor
  · intro alone
    rw [← joined_segments path, alone]
    rfl
  · rintro rfl
    decide

/-- A rooted path is unresolved if and only if the table has no fallback for the root and the path is the root itself, or
its second segment, which the error names, comes right below the root in no entry. So any path resolves whose second
segment is known, and with a fallback for the root every rooted path does. -/
theorem resolve_fails_below_root {entries : List (String × Kind)} {taxonomy : Taxonomy}
    (built : ofEntries entries = .ok taxonomy) (path : String) :
    (∀ origin segment, taxonomy.resolve path = .error (.unresolved origin segment) ↔
      origin = path ∧ (segments path).head? = some Kind.root ∧
      (∀ entry ∈ entries, segments entry.1 ≠ [Kind.root, fallbackKey]) ∧
      (path = Kind.root ∧ segment = none ∨
        ∃ second, (segments path)[1]? = some second ∧ segment = some second ∧
          ¬ Known (entries.map Prod.fst) second)) ∧
    ((segments path).head? = some Kind.root →
      (∃ second, (segments path)[1]? = some second ∧ Known (entries.map Prod.fst) second) ∨
        (∃ entry ∈ entries, segments entry.1 = [Kind.root, fallbackKey]) →
      ∃ kind, taxonomy.resolve path = .ok kind) := by
  constructor
  · intro origin segment
    rw [resolve_eq_unresolved_iff built]
    refine and_congr_right fun _ => and_congr_right fun rooted => ?_
    obtain ⟨below, parts⟩ := List.head?_eq_some_iff.1 rooted
    rw [← segments_eq_root_iff, parts]
    cases below <;> simp [uncovered_iff, and_assoc, and_comm]
  · intro rooted covered
    rcases resolve_ok_or_unresolved taxonomy rooted with resolved | ⟨segment, failed⟩
    · exact resolved
    · obtain ⟨-, -, -, uncovered⟩ := (resolve_eq_unresolved_iff built).1 failed
      rcases covered with ⟨second, next, known⟩ | ⟨entry, held, fallback⟩
      · exact absurd known (uncovered.unknown second next)
      · exact absurd fallback (uncovered.missing entry held)

theorem resolve_fails_below_root_names :
    let entries : List (String × Kind) :=
      [("Token.Name._", .name .unflavoured), ("Token.Name.Class", .name .className), ("Token.Text", .text .unflavoured)]
    ∃ taxonomy, ofEntries entries = .ok taxonomy ∧
      taxonomy.resolve "Token.Names.Class" = .error (.unresolved "Token.Names.Class" (some "Names")) ∧
      ∃ kind, taxonomy.resolve "Token.Name..Class" = .ok kind := by
  intro entries
  let names : Trie Kind :=
    .branch "Name" (.leaf "Class" (.name .className) (.stem (some (.name .unflavoured))))
      (.leaf "Text" (.text .unflavoured) .empty)
  have built : ofEntries entries = .ok ⟨names, rfl⟩ := by decide +kernel
  have unknown : ¬ Known (entries.map Prod.fst) "Names" := by
    unfold Known
    decide
  have failed := (resolve_fails_below_root built "Token.Names.Class").1 "Token.Names.Class" (some "Names")
  have covered := (resolve_fails_below_root built "Token.Name..Class").2 (by decide)
  refine ⟨_, built, failed.2 ⟨rfl, by decide, by decide, .inr ⟨"Names", by decide, rfl, unknown⟩⟩, covered (.inl ?_)⟩
  exact ⟨"Name", by decide, "Token.Name._", by decide, by decide⟩

end TokenForest.Taxonomy
