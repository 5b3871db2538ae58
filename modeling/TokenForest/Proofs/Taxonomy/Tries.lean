import TokenForest.Proofs.Taxonomy.Segments

set_option autoImplicit false

namespace TokenForest.Taxonomy

def Clash (path other : List String) : Prop :=
  path = other ∨ Above path other ∨ Above other path

theorem not_clash {segment : String} {path other : List String} (nonempty : other ≠ [])
    (apart : other.head? ≠ some segment) : ¬ Clash (segment :: path) other := by
  obtain ⟨first, rest, rfl⟩ := List.exists_cons_of_ne_nil nonempty
  have differs : first ≠ segment := by simpa using apart
  rintro (same | above | above)
  · exact differs (List.cons.inj same).1.symm
  · exact differs (above_cons_iff.1 above).1.symm
  · exact differs (above_cons_iff.1 above).1

theorem clash_cons_iff {segment : String} {path other : List String} :
    Clash (segment :: path) (segment :: other) ↔ Clash path other := by
  simp [Clash]

namespace Trie

variable {α : Type}

inductive Sound : Trie α → Prop
  | stem {fallback : Option α} : Sound (.stem fallback)
  | leaf {segment : String} {value : α} {rest : Trie α} (named : segment ≠ fallbackKey)
      (free : ∀ entry ∈ rest.entries, entry.1.head? ≠ some segment) (others : Sound rest) :
      Sound (.leaf segment value rest)
  | branch {segment : String} {inner rest : Trie α} (named : segment ≠ fallbackKey)
      (free : ∀ entry ∈ rest.entries, entry.1.head? ≠ some segment) (inhabited : inner.entries ≠ [])
      (below : Sound inner) (others : Sound rest) : Sound (.branch segment inner rest)

theorem key_ne_nil (trie : Trie α) : ∀ entry ∈ trie.entries, entry.1 ≠ [] := by
  induction trie with
  | stem fallback => cases fallback <;> simp [entries]
  | leaf segment value rest ih => simpa [entries] using ih
  | branch segment inner rest _ ih =>
    intro entry inside
    rcases List.mem_append.1 inside with below | beside
    · obtain ⟨_, _, rfl⟩ := List.mem_map.1 below
      exact List.cons_ne_nil _ _
    · exact ih entry beside

theorem mem_entries_stem {fallback : Option α} {entry : List String × α} :
    entry ∈ (stem fallback).entries ↔ entry.1 = [fallbackKey] ∧ fallback = some entry.2 := by
  obtain ⟨key, value⟩ := entry
  cases fallback <;> simp [entries, eq_comm]

theorem sound_single (value : α) {segment : String} {path : List String}
    (early : fallbackKey ∉ (segment :: path).dropLast) : (single value segment path).Sound := by
  induction path generalizing segment with
  | nil =>
    unfold single
    split
    · exact .stem
    · next named => exact .leaf named (by simp [empty, entries]) .stem
  | cons next path ih =>
    rw [List.dropLast_cons_cons, List.mem_cons, not_or] at early
    exact .branch (Ne.symm early.1) (by simp [empty, entries]) (by simp [entries_single]) (ih early.2) .stem

inductive Inserted (trie : Trie α) (path : List String) : Except Defect (Trie α) → Prop
  | added {extended : Trie α} (sound : extended.Sound) (apart : ∀ entry ∈ trie.entries, ¬ Clash path entry.1) :
      Inserted trie path (.ok extended)
  | duplicate {entry : List String × α} (held : entry ∈ trie.entries) (same : path = entry.1) :
      Inserted trie path (.error .duplicate)
  | conflict {entry : List String × α} (held : entry ∈ trie.entries)
      (above : Above path entry.1 ∨ Above entry.1 path) : Inserted trie path (.error .leafBranchConflict)

namespace Inserted

variable {segment : String} {path : List String}

-- The entries beside do not matter if none of them begins like the path.
theorem beside {rest trie : Trie α} {result : Except Defect (Trie α)}
    (inserted : Inserted rest (segment :: path) result)
    (included : ∀ entry ∈ rest.entries, entry ∈ trie.entries)
    (apart : ∀ entry ∈ trie.entries, entry ∈ rest.entries ∨ entry.1.head? ≠ some segment) {extend : Trie α → Trie α}
    (sound : ∀ extended, result = .ok extended → extended.Sound → (extend extended).Sound) :
    Inserted trie (segment :: path) (result.map extend) := by
  cases inserted with
  | @added extended whole free =>
    refine .added (sound extended rfl whole) fun entry inside => ?_
    rcases apart entry inside with old | other
    · exact free entry old
    · exact not_clash (trie.key_ne_nil entry inside) other
  | duplicate held same => exact .duplicate (included _ held) same
  | conflict held above => exact .conflict (included _ held) above

theorem inside {inner rest : Trie α} {result : Except Defect (Trie α)} (inserted : Inserted inner path result)
    (free : ∀ entry ∈ rest.entries, entry.1.head? ≠ some segment)
    (sound : ∀ extended, result = .ok extended → extended.Sound → (branch segment extended rest).Sound) :
    Inserted (branch segment inner rest) (segment :: path) (result.map (branch segment · rest)) := by
  have included {entry : List String × α} (held : entry ∈ inner.entries) :
      under segment entry ∈ (branch segment inner rest).entries :=
    List.mem_append_left _ (List.mem_map_of_mem held)
  cases inserted with
  | @added extended whole apart =>
    refine .added (sound extended rfl whole) fun entry held => ?_
    rcases List.mem_append.1 held with below | beside
    · obtain ⟨entry, old, rfl⟩ := List.mem_map.1 below
      exact fun clash => apart entry old (clash_cons_iff.1 clash)
    · exact not_clash (rest.key_ne_nil entry beside) (free entry beside)
  | duplicate held same => exact .duplicate (included held) (congrArg _ same)
  | conflict held above => exact .conflict (included held) (by simpa [under] using above)

end Inserted

theorem free_insert {value : α} {trie extended : Trie α} {segment other : String} {path : List String}
    (step : trie.insert value segment path = .ok extended) (apart : segment ≠ other)
    (free : ∀ entry ∈ trie.entries, entry.1.head? ≠ some other) :
    ∀ entry ∈ extended.entries, entry.1.head? ≠ some other := by
  intro entry inside
  rcases List.mem_cons.1 ((entries_insert step).mem_iff.1 inside) with rfl | old
  · simpa using apart
  · exact free entry old

theorem free_stem {fallback : Option α} {segment : String} (named : segment ≠ fallbackKey) :
    ∀ entry ∈ (stem fallback).entries, entry.1.head? ≠ some segment := by
  intro entry inside
  simp [(mem_entries_stem.1 inside).1, Ne.symm named]

theorem inserted_stem (value : α) (fallback : Option α) {segment : String} {path : List String}
    (early : fallbackKey ∉ (segment :: path).dropLast) :
    Inserted (stem fallback) (segment :: path) ((stem fallback).insert value segment path) := by
  have apart (named : segment ≠ fallbackKey) :
      ∀ entry ∈ (stem fallback).entries, ¬ Clash (segment :: path) entry.1 :=
    fun entry inside => not_clash (key_ne_nil _ entry inside) (free_stem named entry inside)
  cases path with
  | nil =>
    simp only [insert]
    split
    · next key =>
      cases fallback with
      | none => exact .added .stem (by simp [entries])
      | some old =>
        have held : ([fallbackKey], old) ∈ (stem (some old)).entries := by simp [entries]
        exact .duplicate held (by simp [key])
    · next named => exact .added (.leaf named (free_stem named) .stem) (apart named)
  | cons next path =>
    rw [List.dropLast_cons_cons, List.mem_cons, not_or] at early
    have named : segment ≠ fallbackKey := Ne.symm early.1
    have single : (branch segment (single value next path) (stem fallback)).Sound :=
      .branch named (free_stem named) (by simp [entries_single]) (sound_single value early.2) .stem
    exact .added single (apart named)

theorem Sound.insert {trie : Trie α} (sound : trie.Sound) (value : α) {segment : String} {path : List String}
    (early : fallbackKey ∉ (segment :: path).dropLast) :
    Inserted trie (segment :: path) (trie.insert value segment path) := by
  induction sound generalizing segment path with
  | @stem fallback => exact inserted_stem value fallback early
  | @leaf other old rest named free others ih =>
    simp only [Trie.insert]
    have own : ([other], old) ∈ (Trie.leaf other old rest).entries := by simp [entries]
    split
    · next same =>
      subst same
      cases path with
      | nil => exact .duplicate own rfl
      | cons next path => exact .conflict own (.inr (by simp))
    · next apart =>
      have included : ∀ entry ∈ rest.entries, entry ∈ (Trie.leaf other old rest).entries :=
        fun entry inside => List.mem_cons_of_mem _ inside
      refine (ih early).beside included (fun entry inside => ?_) ?_
      · rcases List.mem_cons.1 inside with rfl | later
        · exact .inr (by simpa using Ne.symm apart)
        · exact .inl later
      · exact fun extended step whole => .leaf named (free_insert step apart free) whole
  | @branch other inner rest named free inhabited below others ihBelow ihOthers =>
    simp only [Trie.insert]
    split
    · next same =>
      subst same
      cases path with
      | nil =>
        obtain ⟨entry, held⟩ := List.exists_mem_of_ne_nil _ inhabited
        have nested : under segment entry ∈ (Trie.branch segment inner rest).entries :=
          List.mem_append_left _ (List.mem_map_of_mem held)
        exact .conflict nested (.inl (by simpa [under] using inner.key_ne_nil entry held))
      | cons next path =>
        rw [List.dropLast_cons_cons, List.mem_cons, not_or] at early
        refine (ihBelow early.2).inside free fun extended step whole => ?_
        have some : extended.entries ≠ [] := by
          intro none
          simpa [none] using entries_insert step
        exact .branch named free some whole others
    · next apart =>
      refine (ihOthers early).beside (fun entry inside => List.mem_append_right _ inside) (fun entry inside => ?_) ?_
      · rcases List.mem_append.1 inside with nested | later
        · obtain ⟨entry, _, rfl⟩ := List.mem_map.1 nested
          exact .inr (by simpa [under] using Ne.symm apart)
        · exact .inl later
      · exact fun extended step whole => .branch named (free_insert step apart free) inhabited below whole

section Members

variable {segment : String} {old value : α} {key : List String} {inner rest : Trie α}

theorem mem_leaf_iff (apart : key.head? ≠ some segment) :
    (key, value) ∈ (leaf segment old rest).entries ↔ (key, value) ∈ rest.entries := by
  have other : (key, value) ≠ ([segment], old) := by
    rintro ⟨⟩
    simp at apart
  simp [entries, other]

theorem mem_branch_iff (apart : key.head? ≠ some segment) :
    (key, value) ∈ (branch segment inner rest).entries ↔ (key, value) ∈ rest.entries := by
  have other : (key, value) ∉ inner.entries.map (under segment) := by
    intro inside
    obtain ⟨entry, _, same⟩ := List.mem_map.1 inside
    cases same
    simp at apart
  simp [entries, other]

theorem mem_branch_cons_iff (free : ∀ entry ∈ rest.entries, entry.1.head? ≠ some segment) :
    (segment :: key, value) ∈ (branch segment inner rest).entries ↔ (key, value) ∈ inner.entries := by
  have other : (segment :: key, value) ∉ rest.entries := fun inside => free _ inside rfl
  simp [entries, under, other]

end Members

theorem Sound.fallback_iff {trie : Trie α} (sound : trie.Sound) {value : α} :
    trie.fallback = some value ↔ ([fallbackKey], value) ∈ trie.entries := by
  induction sound with
  | stem => simp [fallback, mem_entries_stem]
  | leaf named _ _ ih => rw [fallback, ih, mem_leaf_iff (by simpa using Ne.symm named)]
  | branch named _ _ _ _ _ ih => rw [fallback, ih, mem_branch_iff (by simpa using Ne.symm named)]

structure Bare (trie : Trie α) (branch : List String) : Prop where
  below : ∃ key value, (key, value) ∈ trie.entries ∧ Above branch key
  missing : ∀ value, (branch ++ [fallbackKey], value) ∉ trie.entries

theorem bare_cons_iff {trie : Trie α} {segment : String} {branch : List String} :
    trie.Bare (segment :: branch) ↔
      (∃ key value, (segment :: key, value) ∈ trie.entries ∧ Above branch key) ∧
        ∀ value, (segment :: (branch ++ [fallbackKey]), value) ∉ trie.entries := by
  constructor
  · rintro ⟨⟨key, value, inside, above⟩, missing⟩
    cases key with
    | nil => exact absurd above not_above_nil
    | cons first key =>
      obtain ⟨rfl, deeper⟩ := above_cons_iff.1 above
      exact ⟨⟨key, value, inside, deeper⟩, missing⟩
  · rintro ⟨⟨key, value, inside, above⟩, missing⟩
    exact ⟨⟨segment :: key, value, inside, above_cons_iff.2 ⟨rfl, above⟩⟩, missing⟩

theorem bare_cons_congr {trie other : Trie α} {segment : String} {branch : List String}
    (same : ∀ key value, key ≠ [] →
      ((segment :: key, value) ∈ trie.entries ↔ (segment :: key, value) ∈ other.entries)) :
    trie.Bare (segment :: branch) ↔ other.Bare (segment :: branch) := by
  simp only [bare_cons_iff]
  refine and_congr (exists_congr fun key => exists_congr fun value => ?_) (forall_congr' fun value => ?_)
  · refine and_congr_left fun above => same key value ?_
    rintro rfl
    exact not_above_nil above
  · rw [same _ value (by simp)]

theorem Bare.eq_nil_of_stem {fallback : Option α} {branch : List String} (bare : (stem fallback).Bare branch) :
    branch = [] := by
  obtain ⟨key, value, inside, above⟩ := bare.below
  have own : key = [fallbackKey] := (mem_entries_stem.1 inside).1
  exact (own ▸ above).nil_of_singleton

theorem not_bare_of_free {trie : Trie α} {segment : String}
    (free : ∀ entry ∈ trie.entries, entry.1.head? ≠ some segment) (branch : List String) : ¬ trie.Bare (segment :: branch) := by
  rw [bare_cons_iff]
  rintro ⟨⟨key, value, inside, -⟩, -⟩
  exact free _ inside rfl

theorem bare_branch_iff {segment : String} {inner rest : Trie α} {branch : List String}
    (free : ∀ entry ∈ rest.entries, entry.1.head? ≠ some segment) :
    (Trie.branch segment inner rest).Bare (segment :: branch) ↔ inner.Bare branch := by
  simp only [bare_cons_iff, mem_branch_cons_iff free]
  exact ⟨fun held => ⟨held.1, held.2⟩, fun bare => ⟨bare.below, bare.missing⟩⟩

theorem Sound.bare_nil_iff {trie : Trie α} (sound : trie.Sound) (inhabited : trie.entries ≠ []) :
    trie.Bare [] ↔ trie.fallback = none := by
  obtain ⟨entry, held⟩ := List.exists_mem_of_ne_nil _ inhabited
  have below : ∃ key value, (key, value) ∈ trie.entries ∧ Above [] key :=
    ⟨entry.1, entry.2, held, above_nil_iff.2 (trie.key_ne_nil entry held)⟩
  rw [Option.eq_none_iff_forall_ne_some]
  simp only [ne_eq, sound.fallback_iff]
  exact ⟨fun bare => bare.missing, fun missing => ⟨below, missing⟩⟩

theorem Sound.mem_bare_iff {trie : Trie α} (sound : trie.Sound) {branch : List String} :
    branch ∈ trie.bare ↔ branch ≠ [] ∧ trie.Bare branch := by
  induction sound generalizing branch with
  | stem =>
    simp only [bare, List.not_mem_nil, false_iff]
    exact fun held => held.1 held.2.eq_nil_of_stem
  | @leaf segment value rest named free others ih =>
    cases branch with
    | nil => simp [bare, ih]
    | cons first branch =>
      have same : (Trie.leaf segment value rest).Bare (first :: branch) ↔ rest.Bare (first :: branch) :=
        bare_cons_congr fun key other long => by simp [entries, long]
      rw [same, bare, ih]
  | @branch segment inner rest named free inhabited below others ihBelow ihOthers =>
    have listed : branch ∈ (Trie.branch segment inner rest).bare ↔
        (inner.fallback = none ∧ branch = [segment] ∨ ∃ stem ∈ inner.bare, segment :: stem = branch) ∨
          branch ∈ rest.bare := by
      cases lacking : inner.fallback <;> simp [bare, lacking, or_assoc]
    rw [listed, ihOthers]
    cases branch with
    | nil => simp
    | cons first branch =>
      by_cases same : first = segment
      · subst same
        have beside := not_bare_of_free free branch
        cases branch with
        | nil => simp [ihBelow, beside, bare_branch_iff free, below.bare_nil_iff inhabited]
        | cons next branch => simp [ihBelow, beside, bare_branch_iff free]
      · have alike : (Trie.branch segment inner rest).Bare (first :: branch) ↔ rest.Bare (first :: branch) :=
          bare_cons_congr fun key value _ => mem_branch_iff (by simpa using same)
        simp [alike, same, Ne.symm same]

end Trie

end TokenForest.Taxonomy
