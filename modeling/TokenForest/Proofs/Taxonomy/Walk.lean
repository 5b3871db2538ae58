import TokenForest.Proofs.Taxonomy.Tries

set_option autoImplicit false

namespace TokenForest.Taxonomy

def Finds (branches : List String → Prop) : Option (List String) → Prop
  | none => ∀ branch, ¬ branches branch
  | some branch => branches branch ∧ ∀ other, branches other → branch = other ∨ VisitedBefore branch other

theorem finds_congr {branches others : List String → Prop} (same : ∀ branch, branches branch ↔ others branch)
    {found : Option (List String)} : Finds branches found ↔ Finds others found := by
  cases found <;> simp [Finds, same]

theorem finds_nil {branches : List String → Prop} (held : branches []) : Finds branches (some []) := by
  refine ⟨held, fun other _ => ?_⟩
  by_cases top : other = []
  · exact .inl top.symm
  · exact .inr (.above (above_nil_iff.2 top))

namespace Trie

variable {α : Type}

theorem pairwise_enqueue (visit : Visit) {visits : List Visit} (ordered : visits.Pairwise fun a b => a.1 ≤ b.1) :
    (enqueue visit visits).Pairwise fun a b => a.1 ≤ b.1 := by
  induction visits with
  | nil => simp [enqueue]
  | cons next rest ih =>
    obtain ⟨least, later⟩ := List.pairwise_cons.1 ordered
    unfold enqueue
    split
    · next less =>
      refine List.pairwise_cons.2 ⟨fun other inside => ?_, ih later⟩
      rcases mem_enqueue.1 inside with rfl | inside
      · exact Std.le_of_lt less
      · exact least other inside
    · next more =>
      have first : visit.1 ≤ next.1 := Std.not_lt.1 more
      refine List.pairwise_cons.2 ⟨fun other inside => ?_, ordered⟩
      rcases List.mem_cons.1 inside with rfl | inside
      · exact first
      · exact String.le_trans first (least other inside)

theorem pairwise_visits (trie : Trie α) : trie.visits.Pairwise fun a b => a.1 ≤ b.1 := by
  induction trie with
  | stem fallback => exact .nil
  | leaf segment value rest ih => exact ih
  | branch segment inner rest _ ih => exact pairwise_enqueue _ ih

-- The first visit that finds a branch comes before those of greater segments, whatever they would find.
theorem finds_firstFound {visits : List Visit} {branches : List String → Prop}
    (ordered : visits.Pairwise fun a b => a.1 ≤ b.1)
    (each : ∀ visit ∈ visits, Finds (fun below => branches (visit.1 :: below)) visit.2)
    (all : ∀ branch, branches branch → ∃ visit ∈ visits, branch.head? = some visit.1) :
    Finds branches (firstFound visits) := by
  cases found : firstFound visits with
  | none =>
    intro branch held
    obtain ⟨visit, inside, head⟩ := all branch held
    obtain ⟨below, rfl⟩ := List.head?_eq_some_iff.1 head
    have nothing := each visit inside
    rw [firstFound_eq_none_iff.1 found visit inside] at nothing
    exact nothing below held
  | some branch =>
    obtain ⟨front, visit, back, rfl, own, before⟩ := List.findSome?_eq_some_iff.1 found
    obtain ⟨below, value, rfl⟩ := Option.map_eq_some_iff.1 own
    have inside : visit ∈ front ++ visit :: back := by simp
    have first := each visit inside
    rw [value] at first
    refine ⟨first.1, fun other held => ?_⟩
    obtain ⟨another, listed, head⟩ := all other held
    obtain ⟨deeper, rfl⟩ := List.head?_eq_some_iff.1 head
    by_cases same : another.1 = visit.1
    · rw [same] at held ⊢
      exact (first.2 deeper held).imp (congrArg _) (·.cons visit.1)
    refine .inr (.beside [] ?_)
    rcases List.mem_append.1 listed with early | late
    · have nothing := each another listed
      rw [Option.map_eq_none_iff.1 (before another early)] at nothing
      exact absurd held (nothing deeper)
    rcases List.mem_cons.1 late with rfl | late
    · exact absurd rfl same
    · have behind := (List.pairwise_cons.1 (List.pairwise_append.1 ordered).2.1).1 another late
      exact Std.lt_of_le_of_ne behind (Ne.symm same)

theorem exists_visit_of_bare {trie : Trie α} {branch : List String} (bare : branch ∈ trie.bare) :
    ∃ visit ∈ trie.visits, branch.head? = some visit.1 := by
  induction trie generalizing branch with
  | stem fallback => cases bare
  | leaf segment value rest ih => exact ih bare
  | branch segment inner rest _ ih =>
    rcases List.mem_append.1 bare with own | beside
    · have head : branch.head? = some segment := by
        rcases List.mem_append.1 own with itself | below
        · split at itself <;> simp_all
        · obtain ⟨_, -, rfl⟩ := List.mem_map.1 below
          rfl
      exact ⟨_, mem_enqueue.2 (.inl rfl), head⟩
    · obtain ⟨visit, inside, head⟩ := ih beside
      exact ⟨visit, mem_enqueue.2 (.inr inside), head⟩

theorem Sound.exists_entry_of_visit {trie : Trie α} (sound : trie.Sound) {visit : Visit}
    (made : visit ∈ trie.visits) : ∃ entry ∈ trie.entries, entry.1.head? = some visit.1 := by
  induction sound generalizing visit with
  | stem => cases made
  | leaf named free others ih =>
    obtain ⟨entry, held, head⟩ := ih made
    exact ⟨entry, List.mem_cons_of_mem _ held, head⟩
  | @branch segment inner rest named free inhabited below others _ ih =>
    rcases mem_enqueue.1 made with rfl | later
    · obtain ⟨entry, held⟩ := List.exists_mem_of_ne_nil _ inhabited
      exact ⟨under segment entry, List.mem_append_left _ (List.mem_map_of_mem held), rfl⟩
    · obtain ⟨entry, held, head⟩ := ih later
      exact ⟨entry, List.mem_append_right _ held, head⟩

theorem Sound.finds_visit {trie : Trie α} (sound : trie.Sound) :
    ∀ visit ∈ trie.visits, Finds (visit.1 :: · ∈ trie.bare) visit.2 := by
  induction sound with
  | stem => simp [visits]
  | leaf named free others ih => exact ih
  | @branch segment inner rest named free inhabited below others ihInner ihRest =>
    intro visit made
    rcases mem_enqueue.1 made with rfl | later
    · have beside (branch : List String) : segment :: branch ∉ rest.bare := fun listed =>
        not_bare_of_free free branch (others.mem_bare_iff.1 listed).2
      cases lacking : inner.fallback with
      | none => exact finds_nil (by simp [bare, lacking])
      | some value =>
        have deeper := finds_firstFound inner.pairwise_visits ihInner fun _ => exists_visit_of_bare
        refine (finds_congr fun branch => ?_).1 deeper
        simp [bare, lacking, beside]
    · obtain ⟨entry, held, head⟩ := others.exists_entry_of_visit later
      have apart : segment ≠ visit.1 := fun same => free entry held (same ▸ head)
      refine (finds_congr fun branch => ?_).1 (ihRest visit later)
      cases lacking : inner.fallback <;> simp [bare, lacking, apart, apart.symm]

theorem Sound.finds_firstBare {trie : Trie α} (sound : trie.Sound) : Finds (· ∈ trie.bare) (trie.firstBare true) :=
  finds_firstFound trie.pairwise_visits sound.finds_visit fun _ => exists_visit_of_bare

end Trie

end TokenForest.Taxonomy
