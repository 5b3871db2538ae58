import TokenForest.Taxonomy.Basic

set_option autoImplicit false

namespace TokenForest.Taxonomy

theorem joined_segments (path : String) : joined (segments path) = path := by
  have parts : (segments path).map String.toList = path.toList.splitOn '.' := by
    simp [segments, Function.comp_def]
  apply String.toList_injective
  rw [joined, String.toList_intercalate, parts]
  exact List.intercalate_splitOn '.'

theorem segments_joined {parts : List String} (some : parts ≠ []) (plain : ∀ part ∈ parts, '.' ∉ part.toList) :
    segments (joined parts) = parts := by
  have split : (joined parts).toList.splitOn '.' = parts.map String.toList := by
    rw [joined, String.toList_intercalate]
    exact List.splitOn_intercalate '.' (by simpa [List.forall_mem_map] using plain) (by simpa using some)
  rw [segments, split]
  simp [Function.comp_def]

theorem segments_injective {path other : String} (same : segments path = segments other) : path = other := by
  rw [← joined_segments path, same, joined_segments]

theorem prefix_of_head_segment {path segment : String} (head : (segments path).head? = some segment) :
    segment.toList <+: path.toList := by
  obtain ⟨below, parts⟩ := List.head?_eq_some_iff.1 head
  rw [← joined_segments path, parts, joined, String.toList_intercalate]
  cases below <;> simp

def Above (branch path : List String) : Prop :=
  branch <+: path ∧ branch ≠ path

@[simp] theorem above_nil_iff {path : List String} : Above [] path ↔ path ≠ [] := by
  simp [Above, eq_comm]

@[simp] theorem not_above_nil {branch : List String} : ¬ Above branch [] := by
  simp [Above]

@[simp] theorem above_cons_iff {a b : String} {branch path : List String} :
    Above (a :: branch) (b :: path) ↔ a = b ∧ Above branch path := by
  simp only [Above, List.cons_prefix_cons, ne_eq, List.cons.injEq]
  grind

theorem Above.nil_of_singleton {branch : List String} {segment : String} (above : Above branch [segment]) :
    branch = [] := by
  cases branch with
  | nil => rfl
  | cons first rest => simp at above

theorem above_append {branch more : List String} (some : more ≠ []) : Above branch (branch ++ more) :=
  ⟨List.prefix_append _ _, by simpa using some⟩

theorem Above.exists_append {branch path : List String} (above : Above branch path) :
    ∃ segment more, path = branch ++ segment :: more := by
  obtain ⟨⟨more, rfl⟩, apart⟩ := above
  cases more with
  | nil => exact absurd (List.append_nil branch).symm apart
  | cons segment more => exact ⟨segment, more, rfl⟩

theorem prefix_iff_above_or_eq {branch path : List String} : branch <+: path ↔ Above branch path ∨ branch = path := by
  by_cases same : branch = path
  · simp [same]
  · simp [Above, same]

theorem Above.length_lt {branch path : List String} (above : Above branch path) : branch.length < path.length := by
  obtain ⟨segment, more, rfl⟩ := above.exists_append
  simp

theorem above_of_length_lt {branch path : List String} (ahead : branch <+: path) (longer : branch.length < path.length) :
    Above branch path :=
  ⟨ahead, fun same => Nat.ne_of_lt longer (congrArg List.length same)⟩

theorem Above.of_prefix {short branch path : List String} (ahead : short <+: branch) (above : Above branch path) :
    Above short path :=
  above_of_length_lt (ahead.trans above.1) (Nat.lt_of_le_of_lt ahead.length_le above.length_lt)

theorem eq_of_prefix_of_length {branch other path : List String} (ahead : branch <+: path) (also : other <+: path)
    (same : branch.length = other.length) : branch = other :=
  (List.prefix_of_prefix_length_le ahead also (Nat.le_of_eq same)).eq_of_length same

theorem prefix_append_cases {short lead rest : List String} (ahead : short <+: lead ++ rest) :
    short <+: lead ∨ ∃ segment key, short = lead ++ segment :: key ∧ rest.head? = some segment := by
  rcases List.prefix_or_prefix_of_prefix ahead (List.prefix_append lead rest) with inside | ⟨more, rfl⟩
  · exact .inl inside
  · cases more with
    | nil => exact .inl (by simp)
    | cons segment key =>
      obtain ⟨tail, rfl⟩ := (List.prefix_append_right_inj lead).1 ahead
      exact .inr ⟨segment, key, rfl, rfl⟩

/-- The order of a depth-first walk that takes children in the order of their segments: a branch comes before all below
it, and where two branches part, the lesser segment comes first. -/
inductive VisitedBefore : List String → List String → Prop
  | above {branch other : List String} (above : Above branch other) : VisitedBefore branch other
  | beside (common : List String) {front back : List String} {a b : String} (less : a < b) :
      VisitedBefore (common ++ a :: front) (common ++ b :: back)

theorem VisitedBefore.cons {branch other : List String} (before : VisitedBefore branch other) (segment : String) :
    VisitedBefore (segment :: branch) (segment :: other) := by
  cases before with
  | above above => exact .above (above_cons_iff.2 ⟨rfl, above⟩)
  | beside common less => exact .beside (segment :: common) less

theorem visitedBefore_cons_iff {a b : String} {branch other : List String} :
    VisitedBefore (a :: branch) (b :: other) ↔ a < b ∨ a = b ∧ VisitedBefore branch other := by
  constructor
  · generalize left : a :: branch = longer, right : b :: other = last
    intro before
    cases before with
    | above above =>
      subst left right
      obtain ⟨same, below⟩ := above_cons_iff.1 above
      exact .inr ⟨same, .above below⟩
    | beside common less =>
      cases common with
      | nil =>
        cases left
        cases right
        exact .inl less
      | cons segment common =>
        cases left
        cases right
        exact .inr ⟨rfl, .beside common less⟩
  · rintro (less | ⟨rfl, before⟩)
    · exact .beside [] less
    · exact before.cons a

theorem not_visitedBefore_nil {branch : List String} : ¬ VisitedBefore branch [] := by
  generalize last : ([] : List String) = other
  intro before
  cases before with
  | above above => exact not_above_nil (last ▸ above)
  | beside common less => simp at last

theorem VisitedBefore.asymm {branch other : List String} (before : VisitedBefore branch other) :
    ¬ VisitedBefore other branch := by
  induction branch generalizing other with
  | nil => exact not_visitedBefore_nil
  | cons a branch ih =>
    cases other with
    | nil => exact absurd before not_visitedBefore_nil
    | cons b other =>
      rw [visitedBefore_cons_iff] at before ⊢
      rintro (more | ⟨same, after⟩)
      · rcases before with less | ⟨same, -⟩
        · exact String.lt_asymm less more
        · exact String.lt_irrefl a (same ▸ more)
      · rcases before with less | ⟨-, before⟩
        · exact String.lt_irrefl a (same ▸ less)
        · exact ih before after

end TokenForest.Taxonomy
