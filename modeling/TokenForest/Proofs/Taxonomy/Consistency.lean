import Mathlib.Data.List.Induction
import Mathlib.Data.List.Nodup
import TokenForest.Proofs.Taxonomy.Walk

set_option autoImplicit false

namespace TokenForest.Taxonomy

structure Formed (path : String) : Prop where
  rooted : (segments path).head? = some Kind.root
  longer : segments path ≠ [Kind.root]
  filled : "" ∉ segments path
  terminal : fallbackKey ∉ (segments path).dropLast

/-- What is wrong with a path by itself. Of several defects the first in this order counts. -/
inductive Malformed (path : String) : Defect → Prop
  | missingRoot (other : (segments path).head? ≠ some Kind.root) : Malformed path .missingRoot
  | emptySegment (rooted : (segments path).head? = some Kind.root) (empty : "" ∈ segments path) :
      Malformed path .emptySegment
  | bareRoot (alone : segments path = [Kind.root]) : Malformed path .leafBranchConflict
  | fallbackNotTerminal (rooted : (segments path).head? = some Kind.root) (filled : "" ∉ segments path)
      (early : fallbackKey ∈ (segments path).dropLast) : Malformed path .fallbackNotTerminal

/-- What is wrong with the path of an entry that comes after entries with these paths. -/
inductive Fault (earlier : List String) (path : String) : Defect → Prop
  | malformed {defect : Defect} (malformed : Malformed path defect) : Fault earlier path defect
  | duplicate (formed : Formed path) (held : path ∈ earlier) : Fault earlier path .duplicate
  | conflict {other : String} (formed : Formed path) (held : other ∈ earlier)
      (above : Above (segments path) (segments other) ∨ Above (segments other) (segments path)) :
      Fault earlier path .leafBranchConflict

structure Compatible (paths : List String) : Prop where
  formed : ∀ path ∈ paths, Formed path
  distinct : paths.Nodup
  apart : ∀ path ∈ paths, ∀ other ∈ paths, ¬ Above (segments path) (segments other)

structure Consistent (paths : List String) : Prop extends Compatible paths where
  complete : ∀ path ∈ paths, ∀ branch, Above branch (segments path) → 1 < branch.length →
    ∃ other ∈ paths, segments other = branch ++ [fallbackKey]

/-- A branch below the root with an entry below it and no entry for its fallback. -/
structure Lacking (paths : List String) (branch : List String) : Prop where
  long : 1 < branch.length
  below : ∃ path ∈ paths, Above branch (segments path)
  missing : ∀ other ∈ paths, segments other ≠ branch ++ [fallbackKey]

theorem Malformed.not_formed {path : String} {defect : Defect} (malformed : Malformed path defect) : ¬ Formed path := by
  intro formed
  cases malformed with
  | missingRoot other => exact other formed.rooted
  | emptySegment _ empty => exact formed.filled empty
  | bareRoot alone => exact formed.longer alone
  | fallbackNotTerminal _ _ early => exact formed.terminal early

theorem Malformed.unique {path : String} {defect other : Defect} (malformed : Malformed path defect)
    (again : Malformed path other) : defect = other := by
  cases malformed <;> cases again <;> simp_all [Kind.root]

theorem Compatible.not_conflict {paths : List String} (compatible : Compatible paths) {path other : String}
    (held : path ∈ paths) (inside : other ∈ paths) :
    ¬ (Above (segments path) (segments other) ∨ Above (segments other) (segments path)) := by
  rintro (above | above)
  · exact compatible.apart path held other inside above
  · exact compatible.apart other inside path held above

theorem Fault.unique {earlier : List String} (compatible : Compatible earlier) {path : String} {defect other : Defect}
    (fault : Fault earlier path defect) (again : Fault earlier path other) : defect = other := by
  cases fault with
  | malformed malformed =>
    cases again with
    | malformed later => exact malformed.unique later
    | duplicate formed | conflict formed => exact absurd formed malformed.not_formed
  | duplicate formed held =>
    cases again with
    | malformed malformed => exact absurd formed malformed.not_formed
    | duplicate => rfl
    | conflict _ inside above => exact absurd above (compatible.not_conflict held inside)
  | conflict formed inside above =>
    cases again with
    | malformed malformed => exact absurd formed malformed.not_formed
    | duplicate _ held => exact absurd above (compatible.not_conflict held inside)
    | conflict => rfl

inductive Segmented (path : String) : Except Defect (String × List String) → Prop
  | ok {segment : String} {rest : List String} (formed : Formed path)
      (parts : segments path = Kind.root :: segment :: rest) : Segmented path (.ok (segment, rest))
  | error {defect : Defect} (malformed : Malformed path defect) : Segmented path (.error defect)

theorem entrySegments_segmented (path : String) : Segmented path (entrySegments path) := by
  unfold entrySegments
  split
  · next none => exact absurd none (segments_ne_nil path)
  next first below parts =>
  split
  · next other => exact .error (.missingRoot (by simpa [parts] using other))
  next rooted =>
  rw [ne_eq, not_not] at rooted
  subst rooted
  have head : (segments path).head? = some Kind.root := by simp [parts]
  split
  · next empty => exact .error (.emptySegment head (by simp [parts, empty]))
  next filled =>
  have whole : "" ∉ segments path := by
    rw [parts, List.mem_cons, not_or]
    exact ⟨by simp [Kind.root], filled⟩
  split
  · exact .error (.bareRoot parts)
  next segment rest =>
  have early : fallbackKey ∈ (segments path).dropLast ↔ fallbackKey ∈ (segment :: rest).dropLast := by
    simp [parts, List.dropLast_cons_cons, Kind.root, fallbackKey]
  split
  · next inside => exact .error (.fallbackNotTerminal head whole (early.2 inside))
  · next terminal => exact .ok ⟨head, by simp [parts], whole, fun inside => terminal (early.1 inside)⟩ parts

theorem no_fault_iff {earlier : List String} {path : String} :
    (∀ defect, ¬ Fault earlier path defect) ↔
      Formed path ∧ ∀ other ∈ earlier, ¬ Clash (segments path) (segments other) := by
  constructor
  · intro none
    have formed : Formed path := by
      have segmented := entrySegments_segmented path
      generalize entrySegments path = result at segmented
      cases segmented with
      | ok formed => exact formed
      | error malformed => exact absurd (.malformed malformed) (none _)
    refine ⟨formed, fun other inside clash => ?_⟩
    rcases clash with same | above
    · exact none _ (.duplicate formed (segments_injective same ▸ inside))
    · exact none _ (.conflict formed inside above)
  · rintro ⟨formed, free⟩ defect fault
    cases fault with
    | malformed malformed => exact malformed.not_formed formed
    | duplicate _ held => exact free path held (.inl rfl)
    | conflict _ held above => exact free _ held (.inr above)

theorem compatible_concat {paths : List String} {path : String} :
    Compatible (paths ++ [path]) ↔ Compatible paths ∧ ∀ defect, ¬ Fault paths path defect := by
  rw [no_fault_iff]
  constructor
  · rintro ⟨formed, distinct, apart⟩
    simp only [List.mem_append, List.mem_singleton] at formed apart
    obtain ⟨before, -, fresh⟩ := List.nodup_append.1 distinct
    refine ⟨⟨fun other inside => formed other (.inl inside), before, fun first one second two =>
      apart first (.inl one) second (.inl two)⟩, formed path (.inr rfl), fun other inside clash => ?_⟩
    rcases clash with same | above | above
    · exact fresh other inside path List.mem_cons_self (segments_injective same).symm
    · exact apart path (.inr rfl) other (.inl inside) above
    · exact apart other (.inl inside) path (.inr rfl) above
  · rintro ⟨⟨formed, distinct, apart⟩, own, free⟩
    refine ⟨List.forall_mem_append.2 ⟨formed, by simpa using own⟩, ?_, ?_⟩
    · refine List.nodup_append.2 ⟨distinct, List.nodup_singleton path, fun other inside last single => ?_⟩
      rw [List.mem_singleton] at single
      rintro rfl
      exact free other inside (.inl (congrArg segments single.symm))
    · simp only [List.mem_append, List.mem_singleton]
      rintro first (one | rfl) second (two | rfl)
      · exact apart first one second two
      · exact fun above => free first one (.inr (.inr above))
      · exact fun above => free second two (.inr (.inl above))
      · exact fun above => above.2 rfl

theorem Compatible.front {front back : List String} (compatible : Compatible (front ++ back)) : Compatible front where
  formed path inside := compatible.formed path (List.mem_append_left _ inside)
  distinct := (List.nodup_append.1 compatible.distinct).1
  apart path inside other held :=
    compatible.apart path (List.mem_append_left _ inside) other (List.mem_append_left _ held)

theorem Compatible.no_fault {front back : List String} {path : String} (compatible : Compatible (front ++ path :: back))
    (defect : Defect) : ¬ Fault front path defect := by
  have split : front ++ path :: back = front ++ [path] ++ back := by simp
  rw [split] at compatible
  exact (compatible_concat.1 compatible.front).2 defect

def keyed (entry : String × Kind) : List String × Kind :=
  (segments entry.1, entry.2)

theorem mem_keyed_iff {entries : List (String × Kind)} {key : List String} {value : Kind} :
    (key, value) ∈ entries.map keyed ↔ ∃ entry ∈ entries, segments entry.1 = key ∧ entry.2 = value := by
  simp only [List.mem_map, keyed, Prod.mk.injEq]

structure Holds (trie : Trie Kind) (entries : List (String × Kind)) : Prop where
  sound : trie.Sound
  same : (trie.entries.map (Trie.under Kind.root)).Perm (entries.map keyed)

theorem holds_empty : Holds Trie.empty [] :=
  ⟨.stem, .nil⟩

namespace Holds

variable {trie : Trie Kind} {entries : List (String × Kind)}

theorem mem_iff (holds : Holds trie entries) {key : List String} {value : Kind} :
    (Kind.root :: key, value) ∈ entries.map keyed ↔ (key, value) ∈ trie.entries := by
  simp [← holds.same.mem_iff, Trie.under]

theorem key_of_path (holds : Holds trie entries) {path : String} (inside : path ∈ entries.map Prod.fst) :
    ∃ entry ∈ trie.entries, Kind.root :: entry.1 = segments path := by
  obtain ⟨entry, held, rfl⟩ := List.mem_map.1 inside
  obtain ⟨below, stored, same⟩ := List.mem_map.1 (holds.same.mem_iff.2 (List.mem_map_of_mem (f := keyed) held))
  exact ⟨below, stored, congrArg Prod.fst same⟩

theorem path_of_key (holds : Holds trie entries) {entry : List String × Kind} (stored : entry ∈ trie.entries) :
    ∃ path ∈ entries.map Prod.fst, segments path = Kind.root :: entry.1 := by
  obtain ⟨original, held, same, -⟩ := mem_keyed_iff.1 (holds.mem_iff.2 stored)
  exact ⟨original.1, List.mem_map_of_mem held, same⟩

end Holds

theorem Holds.insert_or_fault {trie : Trie Kind} {entries : List (String × Kind)} (holds : Holds trie entries)
    {entry : String × Kind} {segment : String} {rest : List String} (formed : Formed entry.1)
    (parts : segments entry.1 = Kind.root :: segment :: rest) :
    (∃ extended, trie.insert entry.2 segment rest = .ok extended ∧ Holds extended (entries ++ [entry]) ∧
      ∀ defect, ¬ Fault (entries.map Prod.fst) entry.1 defect) ∨
    ∃ defect, trie.insert entry.2 segment rest = .error defect ∧ Fault (entries.map Prod.fst) entry.1 defect := by
  have early : fallbackKey ∉ (segment :: rest).dropLast := by
    have terminal := formed.terminal
    rw [parts, List.dropLast_cons_cons, List.mem_cons, not_or] at terminal
    exact terminal.2
  have own : Trie.under Kind.root (segment :: rest, entry.2) = keyed entry := by simp [Trie.under, keyed, parts]
  have inserted := holds.sound.insert entry.2 early
  cases step : trie.insert entry.2 segment rest with
  | ok extended =>
    rw [step] at inserted
    cases inserted with
    | added sound apart =>
      refine .inl ⟨extended, rfl, ⟨sound, ?_⟩, no_fault_iff.2 ⟨formed, fun other inside clash => ?_⟩⟩
      · have more := ((Trie.entries_insert step).map (Trie.under Kind.root)).trans (holds.same.cons _)
        rw [own] at more
        rw [List.map_append]
        exact more.trans (List.perm_append_singleton _ _).symm
      · obtain ⟨stored, held, same⟩ := holds.key_of_path inside
        rw [parts, ← same, clash_cons_iff] at clash
        exact apart stored held clash
  | error defect =>
    rw [step] at inserted
    refine .inr ⟨defect, rfl, ?_⟩
    cases inserted with
    | duplicate held same =>
      obtain ⟨other, inside, key⟩ := holds.path_of_key held
      have equal : entry.1 = other := segments_injective (by rw [key, ← same, parts])
      exact .duplicate formed (equal ▸ inside)
    | conflict held above =>
      obtain ⟨other, inside, key⟩ := holds.path_of_key held
      exact .conflict formed inside (by simpa [key, parts] using above)

theorem Holds.addEntry_or_fault {trie : Trie Kind} {entries : List (String × Kind)} (holds : Holds trie entries)
    (entry : String × Kind) :
    (∃ extended, addEntry trie entry = .ok extended ∧ Holds extended (entries ++ [entry]) ∧
      ∀ defect, ¬ Fault (entries.map Prod.fst) entry.1 defect) ∨
    ∃ defect, addEntry trie entry = .error ⟨defect, entry.1⟩ ∧ Fault (entries.map Prod.fst) entry.1 defect := by
  have segmented := entrySegments_segmented entry.1
  cases parsed : entrySegments entry.1 with
  | error defect =>
    rw [parsed] at segmented
    cases segmented with
    | error malformed =>
      have failed : addEntry trie entry = .error ⟨defect, entry.1⟩ := by
        simp [addEntry, parsed, bind, Except.bind, Except.mapError]
      exact .inr ⟨defect, failed, .malformed malformed⟩
  | ok key =>
    rw [parsed] at segmented
    cases segmented with
    | @ok segment rest formed parts =>
      have outcome : addEntry trie entry = (trie.insert entry.2 segment rest).mapError (⟨·, entry.1⟩) := by
        simp [addEntry, parsed, bind, Except.bind]
      rcases holds.insert_or_fault formed parts with ⟨extended, step, more, sound⟩ | ⟨defect, step, fault⟩
      · exact .inl ⟨extended, by rw [outcome, step]; rfl, more, sound⟩
      · exact .inr ⟨defect, by rw [outcome, step]; rfl, fault⟩

theorem foldlM_addEntry_or_fault (entries : List (String × Kind)) :
    (∃ trie, entries.foldlM addEntry Trie.empty = .ok trie ∧ Holds trie entries ∧ Compatible (entries.map Prod.fst)) ∨
    ∃ front entry back defect, entries = front ++ entry :: back ∧ Compatible (front.map Prod.fst) ∧
      Fault (front.map Prod.fst) entry.1 defect ∧
      entries.foldlM addEntry Trie.empty = .error ⟨defect, entry.1⟩ := by
  induction entries using List.reverseRecOn with
  | nil => exact .inl ⟨Trie.empty, rfl, holds_empty, ⟨by simp, List.nodup_nil, by simp⟩⟩
  | append_singleton entries entry ih =>
    rcases ih with ⟨trie, built, holds, compatible⟩ | ⟨front, faulty, back, defect, rfl, before, fault, failed⟩
    · have last : (entries ++ [entry]).foldlM addEntry Trie.empty = addEntry trie entry := by
        rw [List.foldlM_append, built]
        simp [bind, Except.bind, pure, Except.pure]
        cases addEntry trie entry <;> rfl
      rcases holds.addEntry_or_fault entry with ⟨extended, added, more, sound⟩ | ⟨defect, refused, fault⟩
      · refine .inl ⟨extended, last.trans added, more, ?_⟩
        rw [List.map_append]
        exact compatible_concat.2 ⟨compatible, sound⟩
      · exact .inr ⟨entries, entry, [], defect, rfl, compatible, fault, last.trans refused⟩
    · refine .inr ⟨front, faulty, back ++ [entry], defect, by simp, before, fault, ?_⟩
      rw [List.foldlM_append, failed]
      rfl

theorem ofEntries_of_foldlM_ok {entries : List (String × Kind)} {trie : Trie Kind}
    (built : entries.foldlM addEntry Trie.empty = .ok trie) :
    (∃ complete, ofEntries entries = .ok ⟨trie, complete⟩) ∨
      ∃ branch, trie.firstBare true = some branch ∧
        ofEntries entries = .error ⟨.missingFallback, joined (Kind.root :: branch)⟩ := by
  simp only [ofEntries, built, bind, Except.bind]
  split
  · next found => exact .inl ⟨Trie.bare_of_firstBare found, rfl⟩
  · next branch found => exact .inr ⟨branch, found, rfl⟩

theorem ofEntries_of_foldlM_error {entries : List (String × Kind)} {error : Error}
    (failed : entries.foldlM addEntry Trie.empty = .error error) : ofEntries entries = .error error := by
  simp only [ofEntries, failed]
  rfl

theorem holds_of_ofEntries {entries : List (String × Kind)} {taxonomy : Taxonomy}
    (built : ofEntries entries = .ok taxonomy) : Holds taxonomy.trie entries ∧ Compatible (entries.map Prod.fst) := by
  rcases foldlM_addEntry_or_fault entries with ⟨trie, step, holds, compatible⟩ | ⟨_, entry, _, defect, _, _, _, failed⟩
  · rcases ofEntries_of_foldlM_ok step with ⟨complete, whole⟩ | ⟨branch, -, refused⟩
    · cases whole.symm.trans built
      exact ⟨holds, compatible⟩
    · cases refused.symm.trans built
  · rw [ofEntries_of_foldlM_error failed] at built
    cases built

theorem consistent_iff {paths : List String} :
    Consistent paths ↔ Compatible paths ∧ ∀ branch, ¬ Lacking paths branch := by
  constructor
  · rintro ⟨compatible, complete⟩
    refine ⟨compatible, fun branch ⟨long, ⟨path, inside, above⟩, missing⟩ => ?_⟩
    obtain ⟨other, held, fallback⟩ := complete path inside branch above long
    exact missing other held fallback
  · rintro ⟨compatible, covered⟩
    refine ⟨compatible, fun path inside branch above long => ?_⟩
    by_contra none
    exact covered branch ⟨long, ⟨path, inside, above⟩, fun other held same => none ⟨other, held, same⟩⟩

theorem Holds.lacking_iff {trie : Trie Kind} {entries : List (String × Kind)} (holds : Holds trie entries)
    {branch : List String} :
    Lacking (entries.map Prod.fst) branch ↔ ∃ below ∈ trie.bare, branch = Kind.root :: below := by
  constructor
  · rintro ⟨long, ⟨path, inside, above⟩, missing⟩
    obtain ⟨entry, stored, same⟩ := holds.key_of_path inside
    rw [← same] at above
    cases branch with
    | nil => simp at long
    | cons first below =>
      obtain ⟨rfl, deeper⟩ := above_cons_iff.1 above
      refine ⟨below, holds.sound.mem_bare_iff.2 ⟨?_, ⟨entry.1, entry.2, stored, deeper⟩, fun value held => ?_⟩, rfl⟩
      · rintro rfl
        simp at long
      · obtain ⟨other, listed, key⟩ := holds.path_of_key held
        exact missing other listed key
  · rintro ⟨below, listed, rfl⟩
    obtain ⟨nonempty, ⟨key, value, stored, above⟩, missing⟩ := holds.sound.mem_bare_iff.1 listed
    obtain ⟨path, inside, same⟩ := holds.path_of_key stored
    refine ⟨?_, ⟨path, inside, same ▸ above_cons_iff.2 ⟨rfl, above⟩⟩, fun other held fallback => ?_⟩
    · simpa [List.length_pos_iff] using nonempty
    · obtain ⟨entry, kept, key⟩ := holds.key_of_path held
      rw [fallback] at key
      have same : entry.1 = below ++ [fallbackKey] := (List.cons.inj key).2
      refine missing entry.2 ?_
      rw [← same]
      exact kept

theorem Holds.consistent_iff {trie : Trie Kind} {entries : List (String × Kind)} (holds : Holds trie entries)
    (compatible : Compatible (entries.map Prod.fst)) : Consistent (entries.map Prod.fst) ↔ trie.bare = [] := by
  rw [Taxonomy.consistent_iff, List.eq_nil_iff_forall_not_mem]
  constructor
  · exact fun ⟨_, covered⟩ below listed => covered _ (holds.lacking_iff.2 ⟨below, listed, rfl⟩)
  · refine fun none => ⟨compatible, fun branch lacking => ?_⟩
    obtain ⟨below, listed, -⟩ := holds.lacking_iff.1 lacking
    exact none below listed

theorem Holds.first_lacking {trie : Trie Kind} {entries : List (String × Kind)} (holds : Holds trie entries)
    {branch : List String} (found : trie.firstBare true = some branch) :
    Lacking (entries.map Prod.fst) (Kind.root :: branch) ∧
      ∀ other, Lacking (entries.map Prod.fst) other →
        Kind.root :: branch = other ∨ VisitedBefore (Kind.root :: branch) other := by
  have first := holds.sound.finds_firstBare
  rw [found] at first
  refine ⟨holds.lacking_iff.2 ⟨_, first.1, rfl⟩, fun other lacking => ?_⟩
  obtain ⟨below, inside, rfl⟩ := holds.lacking_iff.1 lacking
  exact (first.2 below inside).imp (congrArg _) (·.cons Kind.root)

/-- A taxonomy is built from a table if and only if the table is consistent. If its entries are not even compatible, the
first of them that is at fault after those before it is reported; else the branch lacking a fallback that a depth-first
walk visits first. -/
theorem ofEntries_consistency (entries : List (String × Kind)) :
    let paths := entries.map Prod.fst
    ((∃ taxonomy, ofEntries entries = .ok taxonomy) ↔ Consistent paths) ∧
    (¬ Compatible paths → ∃ front entry back defect, entries = front ++ entry :: back ∧
      (∀ shorter other between, front = shorter ++ other :: between →
        ∀ defect, ¬ Fault (shorter.map Prod.fst) other.1 defect) ∧
      (∀ other, Fault (front.map Prod.fst) entry.1 other ↔ other = defect) ∧
      ofEntries entries = .error ⟨defect, entry.1⟩) ∧
    (Compatible paths → ¬ Consistent paths → ∃ branch, Lacking paths branch ∧
      (∀ other, Lacking paths other → branch = other ∨ VisitedBefore branch other) ∧
      ofEntries entries = .error ⟨.missingFallback, joined branch⟩) := by
  intro paths
  rcases foldlM_addEntry_or_fault entries with
    ⟨trie, built, holds, compatible⟩ | ⟨front, entry, back, defect, rfl, before, fault, failed⟩
  · rcases ofEntries_of_foldlM_ok built with ⟨complete, result⟩ | ⟨branch, found, result⟩
    · have consistent : Consistent paths := (holds.consistent_iff compatible).2 complete
      refine ⟨?_, fun clashing => absurd compatible clashing, fun _ inconsistent => absurd consistent inconsistent⟩
      simp [consistent, result]
    · obtain ⟨lacking, first⟩ := holds.first_lacking found
      have inconsistent : ¬ Consistent paths := fun whole => (Taxonomy.consistent_iff.1 whole).2 _ lacking
      refine ⟨?_, fun clashing => absurd compatible clashing, fun _ _ => ⟨_, lacking, first, result⟩⟩
      simp [inconsistent, result]
  · have result := ofEntries_of_foldlM_error failed
    have clashing : ¬ Compatible paths := fun compatible =>
      Compatible.no_fault (by simpa [paths] using compatible) defect fault
    refine ⟨?_, fun _ => ⟨front, entry, back, defect, rfl, ?_, ?_, result⟩,
      fun compatible => absurd compatible clashing⟩
    · simp only [result, reduceCtorEq, exists_false, false_iff]
      exact fun consistent => clashing consistent.toCompatible
    · rintro shorter other between rfl
      exact Compatible.no_fault (by simpa using before)
    · exact fun other => ⟨fun again => again.unique before fault, fun same => same ▸ fault⟩

end TokenForest.Taxonomy
