import TokenForest.Proofs.Taxonomy.Coverage
import TokenForest.Proofs.Text.ByteOrder

set_option autoImplicit false

namespace TokenForest.Taxonomy

section Listed

variable {entries : List (String × Kind)} {taxonomy : Taxonomy} (built : ofEntries entries = .ok taxonomy)

include built

theorem size_eq_length : taxonomy.size = entries.length := by
  simpa [size] using (holds_of_ofEntries built).1.same.length_eq

theorem entries_perm : taxonomy.entries.Perm entries := by
  have listed := (holds_of_ofEntries built).1.same.map fun entry => (joined entry.1, entry.2)
  have whole : entries.map (fun entry => (joined (keyed entry).1, (keyed entry).2)) = entries := by
    simp [keyed, joined_segments]
  rw [List.map_map, List.map_map, Function.comp_def, Function.comp_def, whole] at listed
  exact (List.mergeSort_perm _ _).trans listed

theorem entries_sorted : taxonomy.entries.Pairwise fun a b => Text.bytes a.1 < Text.bytes b.1 := by
  have sorted : taxonomy.entries.Pairwise fun a b => decide (a.1 ≤ b.1) = true := by
    apply List.pairwise_mergeSort
    · intro a b c first second
      simpa using String.le_trans (by simpa using first) (by simpa using second)
    · intro a b
      simpa using String.le_total a.1 b.1
  have distinct : (taxonomy.entries.map Prod.fst).Nodup :=
    ((entries_perm built).map Prod.fst).nodup_iff.2 (holds_of_ofEntries built).2.distinct
  refine (sorted.and (List.pairwise_map.1 distinct)).imp fun {a b} ⟨first, apart⟩ => Text.bytes_lt_iff.2 ?_
  exact Std.lt_of_le_of_ne (by simpa using first) apart

end Listed

theorem eq_of_perm_of_sorted {first second : List (String × Kind)} (perm : first.Perm second)
    (sorted : first.Pairwise fun a b => Text.bytes a.1 < Text.bytes b.1)
    (again : second.Pairwise fun a b => Text.bytes a.1 < Text.bytes b.1) : first = second :=
  perm.eq_of_pairwise (fun _ _ _ _ less more => absurd more (List.lt_asymm less)) sorted again

section Reordered

variable {paths others : List String} (same : others.Perm paths)

include same

theorem Compatible.perm (compatible : Compatible paths) : Compatible others where
  formed path inside := compatible.formed path (same.mem_iff.1 inside)
  distinct := same.nodup_iff.2 compatible.distinct
  apart path inside other held := compatible.apart path (same.mem_iff.1 inside) other (same.mem_iff.1 held)

theorem Lacking.perm {branch : List String} (lacking : Lacking paths branch) : Lacking others branch where
  long := lacking.long
  below := by
    obtain ⟨path, inside, above⟩ := lacking.below
    exact ⟨path, same.mem_iff.2 inside, above⟩
  missing other held := lacking.missing other (same.mem_iff.1 held)

theorem Consistent.perm (consistent : Consistent paths) : Consistent others := by
  obtain ⟨compatible, covered⟩ := consistent_iff.1 consistent
  exact consistent_iff.2 ⟨compatible.perm same, fun branch lacking => covered branch (lacking.perm same.symm)⟩

theorem Deepest.perm {path branch : List String} (deepest : Deepest paths path branch) : Deepest others path branch where
  ahead := deepest.ahead
  stands := deepest.stands.mono same.symm.subset
  longest other ahead stands := deepest.longest other ahead (stands.mono same.subset)

end Reordered

theorem Answers.perm {entries others : List (String × Kind)} (same : others.Perm entries) {path : List String}
    {answer : Except (Option String) Kind} (found : Answers entries path answer) : Answers others path answer := by
  cases found with
  | terminal held begins => exact .terminal (same.mem_iff.2 held) begins
  | fallback none deepest held key =>
    refine .fallback (fun entry inside => none entry (same.mem_iff.1 inside)) (deepest.perm (same.map _)) ?_ key
    exact same.mem_iff.2 held
  | nothing none deepest missing =>
    refine .nothing (fun entry inside => none entry (same.mem_iff.1 inside)) (deepest.perm (same.map _)) ?_
    exact fun entry inside => missing entry (same.mem_iff.1 inside)

theorem resolve_perm {entries others : List (String × Kind)} (same : others.Perm entries) {taxonomy other : Taxonomy}
    (built : ofEntries entries = .ok taxonomy) (again : ofEntries others = .ok other) (path : String) :
    other.resolve path = taxonomy.resolve path := by
  by_cases rooted : (segments path).head? = some Kind.root
  · obtain ⟨below, parts⟩ := List.head?_eq_some_iff.1 rooted
    have found := (resolve_eq_iff built rooted _).1 (resolve_of_segments parts)
    have own : taxonomy.resolve path = _ := resolve_of_segments parts
    rw [own]
    exact (resolve_eq_iff again rooted _).2 (found.perm same)
  · rw [resolve_malformed_iff.2 rooted, resolve_malformed_iff.2 rooted]

theorem Compatible.exists_trie {entries : List (String × Kind)} (compatible : Compatible (entries.map Prod.fst)) :
    ∃ trie, entries.foldlM addEntry Trie.empty = .ok trie ∧ Holds trie entries := by
  rcases foldlM_addEntry_or_fault entries with
    ⟨trie, stored, holds, -⟩ | ⟨front, entry, back, defect, rfl, -, fault, -⟩
  · exact ⟨trie, stored, holds⟩
  · exact absurd fault (Compatible.no_fault (by simpa using compatible) defect)

theorem Consistent.exists_taxonomy {entries : List (String × Kind)} (consistent : Consistent (entries.map Prod.fst)) :
    ∃ taxonomy, ofEntries entries = .ok taxonomy := by
  obtain ⟨trie, stored, holds⟩ := consistent.toCompatible.exists_trie
  rcases ofEntries_of_foldlM_ok stored with ⟨complete, built⟩ | ⟨branch, found, -⟩
  · exact ⟨_, built⟩
  · exact absurd (holds.first_lacking found).1 ((consistent_iff.1 consistent).2 _)

structure FirstLacking (paths : List String) (branch : List String) : Prop where
  lacking : Lacking paths branch
  first : ∀ other, Lacking paths other → branch = other ∨ VisitedBefore branch other

theorem FirstLacking.unique {paths : List String} {branch other : List String} (first : FirstLacking paths branch)
    (again : FirstLacking paths other) : branch = other := by
  rcases first.first other again.lacking with same | before
  · exact same
  · rcases again.first branch first.lacking with same | after
    · exact same.symm
    · exact absurd after before.asymm

theorem FirstLacking.perm {paths others : List String} (same : others.Perm paths) {branch : List String}
    (first : FirstLacking paths branch) : FirstLacking others branch where
  lacking := first.lacking.perm same
  first other lacking := first.first other (lacking.perm same.symm)

theorem Malformed.ne_missingFallback {path : String} {defect : Defect} (malformed : Malformed path defect) :
    defect ≠ .missingFallback := by
  rintro rfl
  cases malformed

theorem Fault.ne_missingFallback {earlier : List String} {path : String} {defect : Defect}
    (fault : Fault earlier path defect) : defect ≠ .missingFallback := by
  cases fault with
  | malformed malformed => exact malformed.ne_missingFallback
  | duplicate | conflict => simp

theorem ofEntries_missingFallback_iff {entries : List (String × Kind)} {path : String} :
    ofEntries entries = .error ⟨.missingFallback, path⟩ ↔
      Compatible (entries.map Prod.fst) ∧
        ∃ branch, FirstLacking (entries.map Prod.fst) branch ∧ joined branch = path := by
  constructor
  · intro failed
    rcases foldlM_addEntry_or_fault entries with
      ⟨trie, stored, holds, compatible⟩ | ⟨front, entry, back, defect, rfl, -, fault, refused⟩
    · rcases ofEntries_of_foldlM_ok stored with ⟨complete, built⟩ | ⟨branch, found, built⟩
      · cases built.symm.trans failed
      · cases built.symm.trans failed
        exact ⟨compatible, _, ⟨(holds.first_lacking found).1, (holds.first_lacking found).2⟩, rfl⟩
    · rw [ofEntries_of_foldlM_error refused] at failed
      cases failed
      exact absurd rfl fault.ne_missingFallback
  · rintro ⟨compatible, branch, first, rfl⟩
    obtain ⟨trie, stored, holds⟩ := compatible.exists_trie
    rcases ofEntries_of_foldlM_ok stored with ⟨complete, -⟩ | ⟨own, found, built⟩
    · obtain ⟨below, listed, -⟩ := holds.lacking_iff.1 first.lacking
      simp [complete] at listed
    · obtain ⟨lacking, least⟩ := holds.first_lacking found
      rw [built, first.unique ⟨lacking, least⟩]

structure Alike (taxonomy other : Taxonomy) : Prop where
  entries : other.entries = taxonomy.entries
  resolve : ∀ path, other.resolve path = taxonomy.resolve path

theorem exists_alike_of_perm {entries others : List (String × Kind)} {taxonomy : Taxonomy}
    (built : ofEntries entries = .ok taxonomy) (same : others.Perm entries) :
    ∃ again, ofEntries others = .ok again ∧ Alike taxonomy again := by
  obtain ⟨again, rebuilt⟩ := ((consistent_of_ofEntries built).perm (same.map Prod.fst)).exists_taxonomy
  have listed : again.entries.Perm taxonomy.entries :=
    (entries_perm rebuilt).trans (same.trans (entries_perm built).symm)
  exact ⟨again, rebuilt, eq_of_perm_of_sorted listed (entries_sorted rebuilt) (entries_sorted built),
    resolve_perm same built rebuilt⟩

/-- A taxonomy lists the table it was built from, sorted by the bytes of the paths, and from the same entries in any
order, as from its own list, an alike one is built. Of a table that lacks a fallback, no order of the entries changes the
branch that is reported. -/
theorem ofEntries_order_irrelevant (entries : List (String × Kind)) :
    (∀ taxonomy, ofEntries entries = .ok taxonomy →
      taxonomy.entries.Perm entries ∧
      (taxonomy.entries.Pairwise fun a b => Text.bytes a.1 < Text.bytes b.1) ∧
      taxonomy.size = entries.length ∧
      (∀ others, others.Perm entries → ∃ again, ofEntries others = .ok again ∧ Alike taxonomy again) ∧
      ∃ again, ofEntries taxonomy.entries = .ok again ∧ Alike taxonomy again) ∧
    ∀ first others path, first.Perm entries → others.Perm entries →
      ofEntries first = .error ⟨.missingFallback, path⟩ → ofEntries others = .error ⟨.missingFallback, path⟩ := by
  constructor
  · intro taxonomy built
    have reordered (others : List (String × Kind)) (same : others.Perm entries) := exists_alike_of_perm built same
    exact ⟨entries_perm built, entries_sorted built, size_eq_length built, reordered, reordered _ (entries_perm built)⟩
  · intro first others path one two failed
    have paths := (two.trans one.symm).map Prod.fst
    obtain ⟨compatible, branch, least, same⟩ := ofEntries_missingFallback_iff.1 failed
    exact ofEntries_missingFallback_iff.2 ⟨compatible.perm paths, branch, least.perm paths, same⟩

end TokenForest.Taxonomy
