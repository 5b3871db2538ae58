import TokenForest.Taxonomy.Error

set_option autoImplicit false

namespace TokenForest.Taxonomy

inductive Trie (α : Type)
  | stem (fallback : Option α)
  | leaf (segment : String) (value : α) (rest : Trie α)
  | branch (segment : String) (inner rest : Trie α)
deriving DecidableEq

namespace Trie

variable {α : Type}

def empty : Trie α := .stem none

def fallback : Trie α → Option α
  | stem fallback => fallback
  | leaf _ _ rest | branch _ _ rest => rest.fallback

/-- The value that answers for a path below the branch. Otherwise the first segment that nothing answers for, or
`none` when the path itself ends at a branch without a fallback. -/
def find : Trie α → List String → Except (Option String) α
  | stem (some value), _ => .ok value
  | stem none, path => .error path.head?
  | leaf segment value rest, path => if path.head? = some segment then .ok value else rest.find path
  | branch segment inner rest, path =>
      if path.head? = some segment then inner.find path.tail else rest.find path

def single (value : α) (segment : String) : List String → Trie α
  | [] => if segment = fallbackKey then stem (some value) else leaf segment value empty
  | next :: path => branch segment (single value next path) empty

def insert (value : α) : Trie α → String → List String → Except Defect (Trie α)
  | stem fallback, segment, [] =>
      if segment = fallbackKey then
        match fallback with
        | none => .ok (stem (some value))
        | some _ => .error .duplicate
      else .ok (leaf segment value (stem fallback))
  | stem fallback, segment, next :: path => .ok (branch segment (single value next path) (stem fallback))
  | leaf other old rest, segment, path =>
      if segment = other then .error (if path = [] then .duplicate else .leafBranchConflict)
      else (rest.insert value segment path).map (leaf other old)
  | branch other inner rest, segment, path =>
      if segment = other then
        match path with
        | [] => .error .leafBranchConflict
        | next :: path => (inner.insert value next path).map (branch other · rest)
      else (rest.insert value segment path).map (branch other inner)

def under (segment : String) (entry : List String × α) : List String × α :=
  (segment :: entry.1, entry.2)

def entries : Trie α → List (List String × α)
  | stem none => []
  | stem (some value) => [([fallbackKey], value)]
  | leaf segment value rest => ([segment], value) :: rest.entries
  | branch segment inner rest => inner.entries.map (under segment) ++ rest.entries

def bare : Trie α → List (List String)
  | stem _ => []
  | leaf _ _ rest => rest.bare
  | branch segment inner rest =>
      (if inner.fallback.isNone then [[segment]] else []) ++ inner.bare.map (segment :: ·) ++ rest.bare

/-- A visit of a child that is a branch: its segment, and the first branch without a fallback that is found there. -/
abbrev Visit := String × Option (List String)

def enqueue (visit : Visit) : List Visit → List Visit
  | [] => [visit]
  | next :: rest => if next.1 < visit.1 then next :: enqueue visit rest else visit :: next :: rest

-- No visit is made after one that finds a branch.
def firstFound (visits : List Visit) : Option (List String) :=
  visits.findSome? fun visit => visit.2.map (visit.1 :: ·)

def visits : Trie α → List Visit
  | stem _ => []
  | leaf _ _ rest => rest.visits
  | branch segment inner rest =>
      enqueue (segment, if inner.fallback.isNone then some [] else firstFound inner.visits) rest.visits

/-- The first branch without a fallback, from the one at hand on. The root needs none. -/
def firstBare (isRoot : Bool) (trie : Trie α) : Option (List String) :=
  if !isRoot && trie.fallback.isNone then some [] else firstFound trie.visits

theorem visits_branch (segment : String) (inner rest : Trie α) :
    (branch segment inner rest).visits = enqueue (segment, inner.firstBare false) rest.visits :=
  rfl

theorem mem_enqueue {visit other : Visit} {visits : List Visit} :
    other ∈ enqueue visit visits ↔ other = visit ∨ other ∈ visits := by
  induction visits with
  | nil => simp [enqueue]
  | cons next rest ih =>
    unfold enqueue
    split
    · simp [ih, or_left_comm]
    · simp

theorem firstFound_eq_none_iff {visits : List Visit} :
    firstFound visits = none ↔ ∀ visit ∈ visits, visit.2 = none := by
  simp [firstFound]

theorem bare_of_firstBare {trie : Trie α} (none : trie.firstBare true = none) : trie.bare = [] := by
  replace none : firstFound trie.visits = Option.none := none
  induction trie with
  | stem fallback => rfl
  | leaf segment value rest ih => exact ih none
  | branch segment inner rest ihInner ihRest =>
    simp only [visits_branch, firstFound_eq_none_iff, mem_enqueue, forall_eq_or_imp] at none ihRest
    obtain ⟨own, later⟩ := none
    cases lacking : inner.fallback with
    | none => simp [firstBare, lacking] at own
    | some value =>
      have deeper : firstFound inner.visits = Option.none := by simpa [firstBare, lacking] using own
      simp [bare, lacking, ihInner deeper, ihRest later]

theorem entries_single (value : α) (segment : String) (path : List String) :
    (single value segment path).entries = [(segment :: path, value)] := by
  induction path generalizing segment with
  | nil =>
    unfold single
    split
    · next key => simp [entries, key]
    · simp [entries, empty]
  | cons next path ih => simp [single, entries, ih, under, empty]

theorem entries_insert {value : α} {trie extended : Trie α} {segment : String} {path : List String}
    (h : trie.insert value segment path = .ok extended) :
    extended.entries.Perm ((segment :: path, value) :: trie.entries) := by
  induction trie generalizing extended segment path with
  | stem fallback =>
    cases path with
    | nil =>
      simp only [insert] at h
      split at h
      · next key => cases fallback <;> simp_all [entries]; subst h; simp [entries]
      · cases fallback <;> cases h <;> simp [entries]
    | cons next path =>
      cases h
      simp [entries, entries_single, under]
  | leaf other old rest ih =>
    simp only [insert] at h
    split at h
    · cases h
    · cases step : rest.insert value segment path with
      | error defect => simp [step, Except.map] at h
      | ok result =>
        simp only [step, Except.map, Except.ok.injEq] at h
        subst h
        simpa [entries] using ((ih step).cons _).trans (.swap _ _ _)
  | branch other inner rest ihInner ihRest =>
    simp only [insert] at h
    split at h
    · next same =>
      subst same
      cases path with
      | nil => cases h
      | cons next path =>
        cases step : inner.insert value next path with
        | error defect => simp [step, Except.map] at h
        | ok result =>
          simp only [step, Except.map, Except.ok.injEq] at h
          subst h
          simpa [entries, under] using ((ihInner step).map (under segment)).append_right rest.entries
    · cases step : rest.insert value segment path with
      | error defect => simp [step, Except.map] at h
      | ok result =>
        simp only [step, Except.map, Except.ok.injEq] at h
        subst h
        exact ((ihRest step).append_left _).trans List.perm_middle

end Trie

end TokenForest.Taxonomy
