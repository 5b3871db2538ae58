import TokenForest.Proofs.Taxonomy.Coverage

set_option autoImplicit false

namespace TokenForest.Taxonomy

structure FallsBack (entries : List (String × Kind)) (path branch : List String) (entry : String × Kind) : Prop where
  held : entry ∈ entries
  none : ∀ other ∈ entries, ¬ Begins other.1 path
  deepest : Deepest (entries.map Prod.fst) path branch
  key : segments entry.1 = branch ++ [fallbackKey]

theorem FallsBack.answers {entries : List (String × Kind)} {path branch : List String} {entry : String × Kind}
    (falls : FallsBack entries path branch entry) : Answers entries path (.ok entry.2) :=
  .fallback falls.none falls.deepest falls.held falls.key

theorem answers_ok_iff {entries : List (String × Kind)} {path : List String} {kind : Kind} :
    Answers entries path (.ok kind) ↔
      (∃ entry ∈ entries, Begins entry.1 path ∧ entry.2 = kind) ∨
        ∃ branch entry, FallsBack entries path branch entry ∧ entry.2 = kind := by
  constructor
  · intro found
    generalize result : Except.ok kind = answer at found
    cases found with
    | terminal held begins =>
      cases result
      exact .inl ⟨_, held, begins, rfl⟩
    | fallback none deepest held key =>
      cases result
      exact .inr ⟨_, _, ⟨held, none, deepest, key⟩, rfl⟩
    | nothing => cases result
  · rintro (⟨entry, held, begins, rfl⟩ | ⟨branch, entry, falls, rfl⟩)
    · exact .terminal held begins
    · exact falls.answers

theorem next_of_prefix {branch long path : List String} (ahead : branch <+: path) (also : long <+: path)
    (longer : branch.length < long.length) :
    ∃ next, path[branch.length]? = some next ∧ branch ++ [next] <+: long := by
  obtain ⟨rest, rfl⟩ := List.prefix_of_prefix_length_le ahead also (Nat.le_of_lt longer)
  cases rest with
  | nil => simp at longer
  | cons next rest =>
    obtain ⟨tail, rfl⟩ := also
    exact ⟨next, by simp, by simp⟩

section Extended

variable {entries more : List (String × Kind)} (included : entries ⊆ more)
  (consistent : Consistent (more.map Prod.fst)) {below branch : List String} {entry : String × Kind}

include included consistent

-- An entry that begins the path of a fallback is beyond its branch, for the branch is still one.
theorem FallsBack.length_lt_of_begins {path : List String} (falls : FallsBack entries path branch entry)
    {newer : String × Kind} (held : newer ∈ more) (begins : Begins newer.1 path) :
    branch.length < (segments newer.1).length := by
  have inside : newer.1 ∈ more.map Prod.fst := List.mem_map_of_mem held
  by_contra short
  have ahead : segments newer.1 <+: branch :=
    List.prefix_of_prefix_length_le begins.ahead falls.deepest.ahead (Nat.not_lt.1 short)
  rcases falls.deepest.stands.mono (List.map_subset _ included) with rfl | ⟨path, held, above⟩
  · exact absurd ahead.length_le (Nat.not_le.2 (consistent.formed _ inside).long)
  · exact consistent.apart _ inside _ held (above.of_prefix ahead)

theorem FallsBack.extended (falls : FallsBack entries (Kind.root :: below) branch entry)
    {answer : Except (Option String) Kind} (found : Answers more (Kind.root :: below) answer) :
    answer = .ok entry.2 ∨ ∃ newer ∈ more, newer ∉ entries ∧ answer = .ok newer.2 ∧
      ∃ next, (Kind.root :: below)[branch.length]? = some next ∧ branch ++ [next] <+: segments newer.1 := by
  have stands : Branches (more.map Prod.fst) branch := falls.deepest.stands.mono (List.map_subset _ included)
  cases found with
  | @terminal newer held begins =>
    have longer := falls.length_lt_of_begins included consistent held begins
    have fresh : newer ∉ entries := fun old => falls.none newer old begins
    exact .inr ⟨newer, held, fresh, rfl, next_of_prefix falls.deepest.ahead begins.ahead longer⟩
  | @fallback newer deeper none deepest held key =>
    have deep := deepest.longest branch falls.deepest.ahead stands
    rcases Nat.eq_or_lt_of_le deep with same | longer
    · left
      obtain rfl := eq_of_prefix_of_length falls.deepest.ahead deepest.ahead same
      rw [consistent.entry_unique (included falls.held) held (key.trans falls.key.symm)]
    · right
      have fresh : newer ∉ entries := by
        intro old
        have branches : Branches (entries.map Prod.fst) deeper :=
          .inr ⟨newer.1, List.mem_map_of_mem old, key ▸ above_append (by simp)⟩
        exact absurd longer (Nat.not_lt.2 (falls.deepest.longest deeper deepest.ahead branches))
      obtain ⟨next, step, ahead⟩ := next_of_prefix falls.deepest.ahead deepest.ahead longer
      exact ⟨newer, held, fresh, rfl, next, step, ahead.trans (key ▸ List.prefix_append _ _)⟩
  | @nothing deeper none deepest missing =>
    have short := consistent.length_le_one deepest.stands missing
    have deep := deepest.longest branch falls.deepest.ahead stands
    have root := falls.deepest.eq_root (Nat.le_trans deep short)
    exact absurd (root ▸ falls.key) (deepest.eq_root short ▸ missing entry (included falls.held))

end Extended

theorem Begins.rooted {entry : String} {path : List String} (begins : Begins entry path) (formed : Formed entry) :
    path.head? = some Kind.root := by
  obtain ⟨below, parts⟩ := List.head?_eq_some_iff.1 formed.rooted
  obtain ⟨tail, rfl⟩ := begins.ahead
  simp [parts]

theorem FallsBack.rooted {entries : List (String × Kind)} {path branch : List String} {entry : String × Kind}
    (falls : FallsBack entries path branch entry) (formed : Formed entry.1) : path.head? = some Kind.root := by
  have rooted := formed.rooted
  have long := formed.long
  rw [falls.key] at rooted long
  obtain ⟨tail, rfl⟩ := falls.deepest.ahead
  cases branch with
  | nil => simp at long
  | cons first rest => simpa using rooted

/-- A path resolves through an entry that begins it or through the fallback of a branch. In a larger table the first is
kept, and the second is kept or gives way to a new entry, whose path goes on from the branch with the next segment. -/
theorem resolve_refines {entries more : List (String × Kind)} {taxonomy larger : Taxonomy}
    (built : ofEntries entries = .ok taxonomy) (extended : ofEntries more = .ok larger) (included : entries ⊆ more)
    (path : String) :
    (∀ entry ∈ entries, Begins entry.1 (segments path) →
      taxonomy.resolve path = .ok entry.2 ∧ larger.resolve path = .ok entry.2) ∧
    (∀ branch entry, FallsBack entries (segments path) branch entry →
      taxonomy.resolve path = .ok entry.2 ∧
      (larger.resolve path = .ok entry.2 ∨ ∃ newer ∈ more, newer ∉ entries ∧ larger.resolve path = .ok newer.2 ∧
        ∃ next, (segments path)[branch.length]? = some next ∧ branch ++ [next] <+: segments newer.1)) ∧
    ∀ kind, taxonomy.resolve path = .ok kind →
      (∃ entry ∈ entries, Begins entry.1 (segments path) ∧ entry.2 = kind) ∨
        ∃ branch entry, FallsBack entries (segments path) branch entry ∧ entry.2 = kind := by
  have consistent := consistent_of_ofEntries extended
  have formed {entry : String × Kind} (held : entry ∈ entries) : Formed entry.1 :=
    (consistent_of_ofEntries built).formed _ (List.mem_map_of_mem held)
  refine ⟨fun entry held begins => ?_, fun branch entry falls => ?_, fun kind resolved => ?_⟩
  · have rooted := begins.rooted (formed held)
    exact ⟨(resolve_eq_iff built rooted _).2 (.terminal held begins),
      (resolve_eq_iff extended rooted _).2 (.terminal (included held) begins)⟩
  · have rooted := falls.rooted (formed falls.held)
    refine ⟨(resolve_eq_iff built rooted _).2 falls.answers, ?_⟩
    obtain ⟨below, parts⟩ := List.head?_eq_some_iff.1 rooted
    have found := (resolve_eq_iff extended rooted _).1 (resolve_of_segments parts)
    rw [parts] at falls found ⊢
    rw [resolve_of_segments parts]
    rcases falls.extended included consistent found with same | ⟨newer, held, fresh, same, next⟩
    · exact .inl (by rw [same]; rfl)
    · exact .inr ⟨newer, held, fresh, by rw [same]; rfl, next⟩
  · exact answers_ok_iff.1 ((resolve_eq_ok_iff built).1 resolved).2

theorem resolve_refines_names :
    let entries : List (String × Kind) := [("Token.Name._", .name .unflavoured)]
    let more : List (String × Kind) := ("Token.Name.Class._", .name .className) :: entries
    ∃ taxonomy larger, ofEntries entries = .ok taxonomy ∧ ofEntries more = .ok larger ∧
      taxonomy.resolve "Token.Name.Class.Inner" = .ok (.name .unflavoured) ∧
      ∃ newer ∈ more, newer ∉ entries ∧ larger.resolve "Token.Name.Class.Inner" = .ok newer.2 := by
  intro entries more
  let names : Trie Kind := .branch "Name" (.stem (some (.name .unflavoured))) .empty
  let classes : Trie Kind := .branch "Class" (.stem (some (.name .className))) (.stem (some (.name .unflavoured)))
  have built : ofEntries entries = .ok ⟨names, rfl⟩ := by decide +kernel
  have extended : ofEntries more = .ok ⟨.branch "Name" classes .empty, rfl⟩ := by decide +kernel
  obtain ⟨-, refined, through⟩ :=
    resolve_refines built extended (List.subset_cons_self _ _) "Token.Name.Class.Inner"
  refine ⟨_, _, built, extended, by decide, ?_⟩
  rcases through (.name .unflavoured) (by decide) with ⟨entry, held, begins, -⟩ | ⟨branch, entry, falls, kind⟩
  · obtain rfl := List.mem_singleton.1 held
    exact absurd (by decide) begins.named
  · rcases (refined branch entry falls).2 with same | ⟨newer, held, fresh, answer, -⟩
    · rw [kind] at same
      exact absurd same (by decide)
    · exact ⟨newer, held, fresh, answer⟩

end TokenForest.Taxonomy
