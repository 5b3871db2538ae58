import TokenForest.Proofs.Taxonomy.Consistency

set_option autoImplicit false

namespace TokenForest.Taxonomy

/-- The entry is not a fallback, and the path is its own or goes on from it. -/
structure Begins (entry : String) (path : List String) : Prop where
  named : (segments entry).getLast? ≠ some fallbackKey
  ahead : segments entry <+: path

def Branches (paths : List String) (branch : List String) : Prop :=
  branch = [Kind.root] ∨ ∃ path ∈ paths, Above branch (segments path)

structure Deepest (paths : List String) (path branch : List String) : Prop where
  ahead : branch <+: path
  stands : Branches paths branch
  longest : ∀ other, other <+: path → Branches paths other → other.length ≤ branch.length

/-- The answer for a path by the entries alone. An error holds the first segment below the deepest branch. -/
inductive Answers (entries : List (String × Kind)) (path : List String) :
    Except (Option String) Kind → Prop
  | terminal {entry : String × Kind} (held : entry ∈ entries) (begins : Begins entry.1 path) :
      Answers entries path (.ok entry.2)
  | fallback {entry : String × Kind} {branch : List String} (none : ∀ entry ∈ entries, ¬ Begins entry.1 path)
      (deepest : Deepest (entries.map Prod.fst) path branch) (held : entry ∈ entries)
      (key : segments entry.1 = branch ++ [fallbackKey]) : Answers entries path (.ok entry.2)
  | nothing {branch : List String} (none : ∀ entry ∈ entries, ¬ Begins entry.1 path)
      (deepest : Deepest (entries.map Prod.fst) path branch)
      (missing : ∀ entry ∈ entries, segments entry.1 ≠ branch ++ [fallbackKey]) :
      Answers entries path (.error (path.drop branch.length).head?)

structure Reached (entries : List (String × Kind)) (lead rest : List String) (trie : Trie Kind) : Prop where
  stands : Branches (entries.map Prod.fst) (Kind.root :: lead)
  passed : ∀ entry ∈ entries, ¬ segments entry.1 <+: Kind.root :: lead
  agree : ∀ segment key value, rest.head? = some segment ∨ segment = fallbackKey →
    ((Kind.root :: lead ++ segment :: key, value) ∈ entries.map keyed ↔ (segment :: key, value) ∈ trie.entries)

namespace Reached

variable {entries : List (String × Kind)} {lead rest : List String} {segment : String} {trie : Trie Kind}

theorem start (holds : Holds trie entries) (formed : ∀ path ∈ entries.map Prod.fst, Formed path) (path : List String) :
    Reached entries [] path trie where
  stands := .inl rfl
  passed entry held short := by
    have own := formed entry.1 (List.mem_map_of_mem held)
    rcases prefix_iff_above_or_eq.1 short with above | root
    · exact segments_ne_nil entry.1 above.nil_of_singleton
    · exact own.longer root
  agree segment key value _ := holds.mem_iff

-- What stands beside the next segment can be left behind.
theorem skip (reached : Reached entries lead rest trie) {others : Trie Kind} (apart : rest.head? ≠ some segment)
    (named : segment ≠ fallbackKey)
    (same : ∀ key value, key.head? ≠ some segment → ((key, value) ∈ trie.entries ↔ (key, value) ∈ others.entries)) :
    Reached entries lead rest others where
  stands := reached.stands
  passed := reached.passed
  agree next key value needed := by
    rw [reached.agree next key value needed]
    apply same
    rintro ⟨⟩
    rcases needed with ahead | fallback
    · exact apart ahead
    · exact named fallback

theorem enter {inner others : Trie Kind}
    (reached : Reached entries lead (segment :: rest) (.branch segment inner others))
    (free : ∀ entry ∈ others.entries, entry.1.head? ≠ some segment) (inhabited : inner.entries ≠ []) :
    Reached entries (lead ++ [segment]) rest inner := by
  have inside (key : List String) (value : Kind) :
      (Kind.root :: (lead ++ [segment]) ++ key, value) ∈ entries.map keyed ↔ (key, value) ∈ inner.entries := by
    rw [← Trie.mem_branch_cons_iff free, ← reached.agree segment key value (.inl rfl)]
    simp
  refine ⟨.inr ?_, fun entry held short => ?_, fun next key value _ => inside (next :: key) value⟩
  · obtain ⟨⟨key, value⟩, stored⟩ := List.exists_mem_of_ne_nil _ inhabited
    obtain ⟨entry, held, path, -⟩ := mem_keyed_iff.1 ((inside key value).2 stored)
    refine ⟨entry.1, List.mem_map_of_mem held, ?_⟩
    rw [path]
    exact above_append (inner.key_ne_nil _ stored)
  · rw [← List.cons_append] at short
    rcases List.prefix_concat_iff.1 short with whole | before
    · have stored : ([], entry.2) ∈ inner.entries := by
        rw [← inside, mem_keyed_iff]
        exact ⟨entry, held, by simpa using whole, rfl⟩
      exact inner.key_ne_nil _ stored rfl
    · exact reached.passed entry held before

section Stem

variable {fallback : Option Kind} (reached : Reached entries lead rest (.stem fallback))

include reached

-- The only entry left that a longer path could meet is the fallback.
theorem beyond {entry : String × Kind} (held : entry ∈ entries) {key : List String}
    (path : segments entry.1 = Kind.root :: lead ++ segment :: key) (next : rest.head? = some segment) :
    segment :: key = [fallbackKey] := by
  have stored : (segment :: key, entry.2) ∈ (Trie.stem fallback).entries := by
    rw [← reached.agree segment key entry.2 (.inl next), mem_keyed_iff]
    exact ⟨entry, held, path, rfl⟩
  exact (Trie.mem_entries_stem.1 stored).1

theorem not_begins : ∀ entry ∈ entries, ¬ Begins entry.1 (Kind.root :: lead ++ rest) := by
  rintro entry held ⟨named, ahead⟩
  rcases prefix_append_cases ahead with short | ⟨segment, key, path, next⟩
  · exact reached.passed entry held short
  · apply named
    rw [path, reached.beyond held path next, List.getLast?_concat]

theorem deepest : Deepest (entries.map Prod.fst) (Kind.root :: lead ++ rest) (Kind.root :: lead) := by
  refine ⟨List.prefix_append _ _, reached.stands, fun other ahead stands => ?_⟩
  rcases prefix_append_cases ahead with short | ⟨segment, key, rfl, next⟩
  · exact short.length_le
  · rcases stands with root | ⟨path, inside, above⟩
    · simp at root
    · obtain ⟨entry, held, rfl⟩ := List.mem_map.1 inside
      obtain ⟨first, more, parts⟩ := above.exists_append
      have path : segments entry.1 = Kind.root :: lead ++ segment :: (key ++ first :: more) := by simp [parts]
      simpa using reached.beyond held path next

theorem stem_answers : Answers entries (Kind.root :: lead ++ rest) ((Trie.stem fallback).find rest) := by
  have agree (value : Kind) := reached.agree fallbackKey [] value (.inr rfl)
  cases fallback with
  | some value =>
    obtain ⟨entry, held, path, kind⟩ := mem_keyed_iff.1 ((agree value).2 (by simp [Trie.entries]))
    rw [Trie.find, ← kind]
    exact .fallback reached.not_begins reached.deepest held path
  | none =>
    have missing : ∀ entry ∈ entries, segments entry.1 ≠ Kind.root :: lead ++ [fallbackKey] := by
      intro entry held path
      have stored := (agree entry.2).1 (mem_keyed_iff.2 ⟨entry, held, path, rfl⟩)
      simp [Trie.entries] at stored
    have next : ((Kind.root :: lead ++ rest).drop (Kind.root :: lead).length).head? = rest.head? := by
      rw [List.drop_left]
    rw [Trie.find, ← next]
    exact .nothing reached.not_begins reached.deepest missing

end Stem

theorem leaf_answers {value : Kind} {others : Trie Kind} (named : segment ≠ fallbackKey)
    (reached : Reached entries lead (segment :: rest) (.leaf segment value others)) :
    Answers entries (Kind.root :: lead ++ segment :: rest) (.ok value) := by
  have own : ([segment], value) ∈ (Trie.leaf segment value others).entries := by simp [Trie.entries]
  obtain ⟨entry, held, path, kind⟩ := mem_keyed_iff.1 ((reached.agree segment [] value (.inl rfl)).2 own)
  have begins : Begins entry.1 (Kind.root :: lead ++ segment :: rest) := by
    constructor
    · rw [path, List.getLast?_concat]
      simpa using named
    · rw [path, List.prefix_append_right_inj]
      simp
  rw [← kind]
  exact .terminal held begins

theorem find_answers (sound : trie.Sound) (reached : Reached entries lead rest trie) :
    Answers entries (Kind.root :: lead ++ rest) (trie.find rest) := by
  induction sound generalizing lead rest with
  | stem => exact reached.stem_answers
  | @leaf segment value others named free sound ih =>
    by_cases ahead : rest.head? = some segment
    · obtain ⟨tail, rfl⟩ := List.head?_eq_some_iff.1 ahead
      rw [Trie.find, if_pos ahead]
      exact reached.leaf_answers named
    · rw [Trie.find, if_neg ahead]
      exact ih (reached.skip ahead named fun key value => Trie.mem_leaf_iff)
  | @branch segment inner others named free inhabited below sound ihBelow ihOthers =>
    by_cases ahead : rest.head? = some segment
    · obtain ⟨tail, rfl⟩ := List.head?_eq_some_iff.1 ahead
      rw [Trie.find, if_pos ahead]
      simpa using ihBelow (reached.enter free inhabited)
    · rw [Trie.find, if_neg ahead]
      exact ihOthers (reached.skip ahead named fun key value => Trie.mem_branch_iff)

end Reached

theorem resolve_of_segments {taxonomy : Taxonomy} {path : String} {below : List String}
    (parts : segments path = Kind.root :: below) :
    taxonomy.resolve path = (taxonomy.trie.find below).mapError (.unresolved path) := by
  simp [resolve, parts]

theorem resolve_malformed_iff {taxonomy : Taxonomy} {path : String} :
    taxonomy.resolve path = .error (.malformed path) ↔ (segments path).head? ≠ some Kind.root := by
  cases parts : segments path with
  | nil => exact absurd parts (segments_ne_nil path)
  | cons first below =>
    by_cases rooted : first = Kind.root
    · subst rooted
      rw [resolve_of_segments parts]
      cases taxonomy.trie.find below <;> simp [Except.mapError]
    · simp [resolve, parts, rooted]

theorem rooted_of_resolve {taxonomy : Taxonomy} {path : String} {kind : Kind}
    (resolved : taxonomy.resolve path = .ok kind) : (segments path).head? = some Kind.root := by
  by_contra unrooted
  rw [resolve_malformed_iff.2 unrooted] at resolved
  cases resolved

section Accepted

variable {entries : List (String × Kind)} (compatible : Compatible (entries.map Prod.fst)) {entry other : String × Kind}

include compatible

theorem Compatible.entry_unique (held : entry ∈ entries) (inside : other ∈ entries)
    (same : segments other.1 = segments entry.1) : other = entry :=
  List.inj_on_of_nodup_map compatible.distinct inside held (segments_injective same)

theorem Compatible.begins_unique {path : List String} (held : entry ∈ entries) (begins : Begins entry.1 path)
    (inside : other ∈ entries) (again : Begins other.1 path) : other = entry := by
  have free (first second : String × Kind) (one : first ∈ entries) (two : second ∈ entries) :
      ¬ Above (segments first.1) (segments second.1) :=
    compatible.apart _ (List.mem_map_of_mem one) _ (List.mem_map_of_mem two)
  apply compatible.entry_unique held inside
  rcases List.prefix_or_prefix_of_prefix again.ahead begins.ahead with short | short
  · exact (prefix_iff_above_or_eq.1 short).resolve_left (free other entry inside held)
  · exact ((prefix_iff_above_or_eq.1 short).resolve_left (free entry other held inside)).symm

theorem Compatible.own_fallback (held : entry ∈ entries) {branch : List String}
    (path : segments entry.1 = branch ++ [fallbackKey]) :
    (∀ other ∈ entries, ¬ Begins other.1 (segments entry.1)) ∧
      ∀ deepest, Deepest (entries.map Prod.fst) (segments entry.1) deepest → deepest = branch := by
  have listed : entry.1 ∈ entries.map Prod.fst := List.mem_map_of_mem held
  constructor
  · rintro other inside ⟨named, ahead⟩
    rcases prefix_iff_above_or_eq.1 ahead with above | same
    · exact compatible.apart _ (List.mem_map_of_mem inside) _ listed above
    · exact named (by rw [same, path, List.getLast?_concat])
  · intro deepest found
    have above : Above branch (segments entry.1) := path ▸ above_append (by simp)
    have deep := found.longest branch above.1 (.inr ⟨entry.1, listed, above⟩)
    have ahead := found.ahead
    rw [path] at ahead
    rcases List.prefix_concat_iff.1 ahead with whole | before
    · rw [← path] at whole
      subst whole
      rcases found.stands with root | ⟨other, inside, beyond⟩
      · exact absurd root (compatible.formed _ listed).longer
      · exact absurd beyond (compatible.apart _ listed _ inside)
    · exact before.eq_of_length_le deep

variable {path : List String} {answer : Except (Option String) Kind}

theorem Answers.eq_of_begins (found : Answers entries path answer) (held : entry ∈ entries)
    (begins : Begins entry.1 path) : answer = .ok entry.2 := by
  cases found with
  | terminal inside again => rw [compatible.begins_unique held begins inside again]
  | fallback none | nothing none => exact absurd begins (none entry held)

theorem Answers.deepest (found : Answers entries path answer) (none : ∀ entry ∈ entries, ¬ Begins entry.1 path) :
    ∃ branch, Deepest (entries.map Prod.fst) path branch ∧
      (∀ entry ∈ entries, segments entry.1 = branch ++ [fallbackKey] → answer = .ok entry.2) ∧
      ((∀ entry ∈ entries, segments entry.1 ≠ branch ++ [fallbackKey]) →
        answer = .error (path.drop branch.length).head?) := by
  cases found with
  | @terminal entry held begins => exact absurd begins (none entry held)
  | @fallback entry branch _ deepest held key =>
    refine ⟨branch, deepest, fun other inside same => ?_, fun missing => absurd key (missing entry held)⟩
    rw [compatible.entry_unique held inside (same.trans key.symm)]
  | @nothing branch _ deepest missing =>
    exact ⟨branch, deepest, fun entry held key => absurd key (missing entry held), fun _ => rfl⟩

theorem Answers.own (found : Answers entries (segments entry.1) answer) (held : entry ∈ entries) :
    answer = .ok entry.2 := by
  by_cases last : (segments entry.1).getLast? = some fallbackKey
  · obtain ⟨own, path⟩ := List.getLast?_eq_some_iff.1 last
    obtain ⟨none, same⟩ := compatible.own_fallback held path
    obtain ⟨branch, deepest, fallback, -⟩ := found.deepest compatible none
    rw [same branch deepest] at fallback
    exact fallback entry held path
  · exact found.eq_of_begins compatible held ⟨last, List.prefix_rfl⟩

end Accepted

/-- An accepted table answers for every path. Only a path without the root is malformed. At most one entry other than a
fallback begins the path, and it is the answer. If there is none, the answer is the fallback of the longest branch that
begins the path; without that the path is unresolved, at the first segment below the branch. Every entry answers for its
own path. -/
theorem resolve_longest_prefix {entries : List (String × Kind)} {taxonomy : Taxonomy}
    (built : ofEntries entries = .ok taxonomy) (path : String) :
    (taxonomy.resolve path = .error (.malformed path) ↔ (segments path).head? ≠ some Kind.root) ∧
    ((segments path).head? = some Kind.root →
      (∀ entry ∈ entries, Begins entry.1 (segments path) →
        taxonomy.resolve path = .ok entry.2 ∧
          ∀ other ∈ entries, Begins other.1 (segments path) → other = entry) ∧
      ((∀ entry ∈ entries, ¬ Begins entry.1 (segments path)) →
        ∃ branch, Deepest (entries.map Prod.fst) (segments path) branch ∧
          (∀ entry ∈ entries, segments entry.1 = branch ++ [fallbackKey] → taxonomy.resolve path = .ok entry.2) ∧
          ((∀ entry ∈ entries, segments entry.1 ≠ branch ++ [fallbackKey]) →
            taxonomy.resolve path = .error (.unresolved path ((segments path).drop branch.length).head?)))) ∧
    ∀ entry ∈ entries, taxonomy.resolve entry.1 = .ok entry.2 := by
  obtain ⟨holds, compatible⟩ := holds_of_ofEntries built
  have answers {path : String} (rooted : (segments path).head? = some Kind.root) :
      ∃ answer, Answers entries (segments path) answer ∧
        taxonomy.resolve path = answer.mapError (.unresolved path) := by
    obtain ⟨below, parts⟩ := List.head?_eq_some_iff.1 rooted
    refine ⟨_, ?_, resolve_of_segments parts⟩
    rw [parts]
    exact (Reached.start holds compatible.formed below).find_answers holds.sound
  refine ⟨resolve_malformed_iff, fun rooted => ?_, fun entry held => ?_⟩
  · obtain ⟨answer, found, result⟩ := answers rooted
    rw [result]
    constructor
    · intro entry held begins
      refine ⟨?_, fun other inside again => compatible.begins_unique held begins inside again⟩
      rw [found.eq_of_begins compatible held begins]
      rfl
    · intro none
      obtain ⟨branch, deepest, fallback, nothing⟩ := found.deepest compatible none
      refine ⟨branch, deepest, fun entry held key => ?_, fun missing => ?_⟩
      · rw [fallback entry held key]
        rfl
      · rw [nothing missing]
        rfl
  · have formed := compatible.formed entry.1 (List.mem_map_of_mem held)
    obtain ⟨answer, found, result⟩ := answers formed.rooted
    rw [result, found.own compatible held]
    rfl

theorem resolve_longest_prefix_names :
    let entries : List (String × Kind) :=
      [("Token.Name._", .name .unflavoured), ("Token.Name.Class", .name .className), ("Token.Text", .text .unflavoured)]
    ∃ taxonomy, ofEntries entries = .ok taxonomy ∧
      taxonomy.resolve "Token.Name.Class.Inner." = .ok (.name .className) ∧
      taxonomy.resolve "Token.Name._" = .ok (.name .unflavoured) := by
  intro entries
  let names : Trie Kind :=
    .branch "Name" (.leaf "Class" (.name .className) (.stem (some (.name .unflavoured))))
      (.leaf "Text" (.text .unflavoured) .empty)
  have built : ofEntries entries = .ok ⟨names, rfl⟩ := by decide +kernel
  obtain ⟨-, rooted, own⟩ := resolve_longest_prefix built "Token.Name.Class.Inner."
  have named : Begins "Token.Name.Class" (segments "Token.Name.Class.Inner.") := ⟨by decide, by decide⟩
  have terminal := ((rooted (by decide)).1 ("Token.Name.Class", .name .className) (by decide) named).1
  exact ⟨_, built, terminal, own ("Token.Name._", .name .unflavoured) (by decide)⟩

end TokenForest.Taxonomy
