import TokenForest.Proofs.Taxonomy.Refinement
import TokenForest.Taxonomy.Standard

set_option autoImplicit false

namespace TokenForest

namespace Kind

def entrySegments (kind : Kind) : List String :=
  root :: kind.segments ++ if kind.isUnflavoured then [Taxonomy.fallbackKey] else []

def entryPath (kind : Kind) : String :=
  Taxonomy.joined kind.entrySegments

theorem plain_segments (kind : Kind) :
    ∀ segment ∈ kind.segments, segment ≠ Taxonomy.fallbackKey ∧ '.' ∉ segment.toList := by
  have all : ∀ kind ∈ Kind.all, ∀ segment ∈ kind.segments, segment ≠ Taxonomy.fallbackKey ∧ '.' ∉ segment.toList := by
    decide +kernel
  exact all kind kind.mem_all

theorem segments_inj {kind other : Kind} (same : kind.segments = other.segments) : kind = other := by
  have distinct : (Kind.all.map Kind.segments).Nodup := by decide +kernel
  exact List.inj_on_of_nodup_map distinct kind.mem_all other.mem_all same

theorem segments_typePath (kind : Kind) : Taxonomy.segments kind.typePath = root :: kind.segments := by
  refine Taxonomy.segments_joined (List.cons_ne_nil _ _) (List.forall_mem_cons.2 ⟨by decide, ?_⟩)
  exact fun segment inside => (kind.plain_segments segment inside).2

theorem segments_entryPath (kind : Kind) :
    Taxonomy.segments kind.entryPath =
      Taxonomy.segments kind.typePath ++ if kind.isUnflavoured then [Taxonomy.fallbackKey] else [] := by
  rw [segments_typePath]
  refine Taxonomy.segments_joined (List.cons_ne_nil _ _) fun segment inside => ?_
  rw [entrySegments, List.cons_append, List.mem_cons, List.mem_append] at inside
  rcases inside with rfl | own | key
  · decide
  · exact (kind.plain_segments segment own).2
  · obtain ⟨-, rfl⟩ : kind.isUnflavoured = true ∧ segment = Taxonomy.fallbackKey := by simpa using key
    decide

theorem typePath_prefix_entryPath (kind : Kind) :
    Taxonomy.segments kind.typePath <+: Taxonomy.segments kind.entryPath :=
  kind.segments_entryPath ▸ List.prefix_append _ _

theorem getLast?_entryPath_iff (kind : Kind) :
    (Taxonomy.segments kind.entryPath).getLast? = some Taxonomy.fallbackKey ↔ kind.isUnflavoured = true := by
  rw [segments_entryPath]
  cases unflavoured : kind.isUnflavoured with
  | true => simp
  | false =>
    rw [segments_typePath]
    simp only [Bool.false_eq_true, if_false, List.append_nil, iff_false]
    intro last
    have inside : Taxonomy.fallbackKey ∈ kind.segments := List.mem_of_getLast? (by simpa [Kind.segments] using last)
    exact (kind.plain_segments _ inside).1 rfl

theorem flavour_of_typePath_prefix {kind : Kind} {path : List String}
    (ahead : Taxonomy.segments kind.typePath <+: path) : path[1]? = some kind.flavour.segment := by
  obtain ⟨tail, rfl⟩ := ahead
  simp [segments_typePath, Kind.segments]

end Kind

theorem Flavour.exists_kind (flavour : Flavour) : ∃ kind : Kind, kind.flavour = flavour := by
  cases flavour with
  | keyword => exact ⟨.keyword .unflavoured, rfl⟩
  | comment => exact ⟨.comment .unflavoured, rfl⟩
  | name => exact ⟨.name .unflavoured, rfl⟩
  | literal => exact ⟨.literal .unflavoured, rfl⟩
  | text => exact ⟨.text .unflavoured, rfl⟩
  | punctuation => exact ⟨.punctuation .unflavoured, rfl⟩
  | operator => exact ⟨.operator .unflavoured, rfl⟩

namespace Taxonomy

theorem standardEntries_eq : standardEntries = Kind.all.map fun kind => (kind.entryPath, kind) := by
  decide +kernel

theorem mem_standardEntries_iff {entry : String × Kind} : entry ∈ standardEntries ↔ entry.1 = entry.2.entryPath := by
  obtain ⟨path, kind⟩ := entry
  simp [standardEntries_eq, Kind.mem_all, eq_comm]

theorem entry_mem (kind : Kind) : (kind.entryPath, kind) ∈ standardEntries :=
  mem_standardEntries_iff.2 rfl

theorem entryPath_mem (kind : Kind) : kind.entryPath ∈ standardEntries.map Prod.fst :=
  List.mem_map_of_mem (entry_mem kind)

/-- The kind's type path begins the path, and no kind has a longer one that does. -/
structure LongestKind (path : List String) (kind : Kind) : Prop where
  ahead : segments kind.typePath <+: path
  longest : ∀ other : Kind, segments other.typePath <+: path →
    (segments other.typePath).length ≤ (segments kind.typePath).length

theorem LongestKind.unique {path : List String} {kind other : Kind} (longest : LongestKind path kind)
    (again : LongestKind path other) : kind = other := by
  have shorter := again.longest kind longest.ahead
  have longer := longest.longest other again.ahead
  have same := eq_of_prefix_of_length longest.ahead again.ahead (Nat.le_antisymm shorter longer)
  rw [Kind.segments_typePath, Kind.segments_typePath] at same
  exact Kind.segments_inj (List.cons.inj same).2

theorem longest_of_begins {path : List String} {kind : Kind} (begins : Begins kind.entryPath path) :
    LongestKind path kind := by
  have own : segments kind.entryPath = segments kind.typePath := by
    simpa [Kind.segments_entryPath] using mt kind.getLast?_entryPath_iff.2 begins.named
  refine ⟨own ▸ begins.ahead, fun other also => ?_⟩
  -- This entry would stand above that of a kind with a longer type path.
  by_contra longer
  have below := List.prefix_of_prefix_length_le begins.ahead also (by rw [own]; omega)
  have short := other.typePath_prefix_entryPath.length_le
  have above : Above (segments kind.entryPath) (segments other.entryPath) :=
    above_of_length_lt (below.trans other.typePath_prefix_entryPath) (by rw [own]; omega)
  have compatible := (consistent_of_ofEntries ofEntries_standardEntries).toCompatible
  exact compatible.apart _ (entryPath_mem kind) _ (entryPath_mem other) above

theorem longest_of_fallsBack {path branch : List String} {kind : Kind}
    (falls : FallsBack standardEntries path branch (kind.entryPath, kind)) : LongestKind path kind := by
  have key : segments kind.entryPath = branch ++ [fallbackKey] := falls.key
  have unflavoured : kind.isUnflavoured = true := by
    rw [← kind.getLast?_entryPath_iff, key, List.getLast?_concat]
  have own : segments kind.typePath = branch := by
    rw [Kind.segments_entryPath, if_pos unflavoured] at key
    exact List.append_cancel_right key
  refine ⟨own ▸ falls.deepest.ahead, fun other also => ?_⟩
  rw [own]
  by_cases catchAll : other.isUnflavoured = true
  · have above : Above (segments other.typePath) (segments other.entryPath) := by
      rw [Kind.segments_entryPath, if_pos catchAll]
      exact above_append (by simp)
    exact falls.deepest.longest _ also (.inr ⟨_, entryPath_mem other, above⟩)
  · have begins : Begins other.entryPath path := by
      refine ⟨mt other.getLast?_entryPath_iff.1 catchAll, ?_⟩
      rw [Kind.segments_entryPath, if_neg catchAll, List.append_nil]
      exact also
    exact absurd begins (falls.none _ (entry_mem other))

theorem longest_of_resolve {path : String} {kind : Kind} (resolved : standard.resolve path = .ok kind) :
    LongestKind (segments path) kind := by
  obtain ⟨-, found⟩ := (resolve_eq_ok_iff ofEntries_standardEntries).1 resolved
  rcases answers_ok_iff.1 found with ⟨⟨entry, kind⟩, held, begins, rfl⟩ | ⟨branch, ⟨entry, kind⟩, falls, rfl⟩
  · obtain rfl : entry = kind.entryPath := mem_standardEntries_iff.1 held
    exact longest_of_begins begins
  · obtain rfl : entry = kind.entryPath := mem_standardEntries_iff.1 falls.held
    exact longest_of_fallsBack falls

theorem known_flavour (flavour : Flavour) : Known (standardEntries.map Prod.fst) flavour.segment := by
  obtain ⟨kind, rfl⟩ := flavour.exists_kind
  exact ⟨kind.entryPath, entryPath_mem kind, Kind.flavour_of_typePath_prefix kind.typePath_prefix_entryPath⟩

theorem exists_kind_of_flavour {path : String} (rooted : (segments path).head? = some Kind.root) {flavour : Flavour}
    (second : (segments path)[1]? = some flavour.segment) : ∃ kind, standard.resolve path = .ok kind := by
  rcases resolve_ok_or_unresolved standard rooted with resolved | ⟨segment, failed⟩
  · exact resolved
  · obtain ⟨-, -, -, uncovered⟩ := (resolve_eq_unresolved_iff ofEntries_standardEntries).1 failed
    exact absurd (known_flavour flavour) (uncovered.unknown _ second)

theorem resolve_typePath (kind : Kind) : standard.resolve kind.typePath = .ok kind := by
  have rooted : (segments kind.typePath).head? = some Kind.root := by simp [Kind.segments_typePath]
  obtain ⟨other, resolved⟩ := exists_kind_of_flavour rooted (Kind.flavour_of_typePath_prefix List.prefix_rfl)
  have own : LongestKind (segments kind.typePath) kind := ⟨List.prefix_rfl, fun _ ahead => ahead.length_le⟩
  rw [resolved, (longest_of_resolve resolved).unique own]

/-- The standard taxonomy gives a path to the kind with the longest type path that begins it, which is one kind for every
path with the root and a flavour as its first segments. Paths without the root are malformed, and the others unresolved at
their second segment. -/
theorem standard_longest_typePath (path : String) :
    (∀ kind, standard.resolve path = .ok kind ↔
      (segments path).head? = some Kind.root ∧
      (∃ flavour : Flavour, (segments path)[1]? = some flavour.segment) ∧ LongestKind (segments path) kind) ∧
    ((segments path).head? = some Kind.root →
      (∃ flavour : Flavour, (segments path)[1]? = some flavour.segment) → ∃! kind, LongestKind (segments path) kind) ∧
    (standard.resolve path = .error (.malformed path) ↔ (segments path).head? ≠ some Kind.root) ∧
    ((segments path).head? = some Kind.root →
      (¬ ∃ flavour : Flavour, (segments path)[1]? = some flavour.segment) →
      standard.resolve path = .error (.unresolved path (segments path)[1]?) ∧
        ((segments path)[1]? = none ↔ path = Kind.root)) := by
  refine ⟨fun kind => ⟨fun resolved => ?_, fun ⟨rooted, ⟨flavour, second⟩, longest⟩ => ?_⟩, ?_, resolve_malformed_iff, ?_⟩
  · have longest := longest_of_resolve resolved
    exact ⟨rooted_of_resolve resolved, ⟨kind.flavour, Kind.flavour_of_typePath_prefix longest.ahead⟩, longest⟩
  · obtain ⟨other, resolved⟩ := exists_kind_of_flavour rooted second
    rw [resolved, (longest_of_resolve resolved).unique longest]
  · rintro rooted ⟨flavour, second⟩
    obtain ⟨kind, resolved⟩ := exists_kind_of_flavour rooted second
    exact ⟨kind, longest_of_resolve resolved, fun other again => again.unique (longest_of_resolve resolved)⟩
  · intro rooted foreign
    rcases resolve_ok_or_unresolved standard rooted with ⟨kind, resolved⟩ | ⟨segment, failed⟩
    · exact absurd ⟨_, Kind.flavour_of_typePath_prefix (longest_of_resolve resolved).ahead⟩ foreign
    · obtain ⟨-, -, rfl, -⟩ := (resolve_eq_unresolved_iff ofEntries_standardEntries).1 failed
      obtain ⟨below, parts⟩ := List.head?_eq_some_iff.1 rooted
      refine ⟨failed, ?_⟩
      rw [← segments_eq_root_iff, parts]
      simp [← List.head?_eq_getElem?]

end Taxonomy

end TokenForest
