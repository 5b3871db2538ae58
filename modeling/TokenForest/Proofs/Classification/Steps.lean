import Mathlib.Data.List.TakeWhile
import TokenForest.Proofs.Classification.Stream

set_option autoImplicit false

namespace TokenForest

def Taxonomy.resolves (taxonomy : Taxonomy) (raw : RawToken) : Bool :=
  (taxonomy.resolve raw.path).isOk

theorem Taxonomy.resolves_iff (taxonomy : Taxonomy) (raw : RawToken) :
    taxonomy.resolves raw = true ↔ ∃ kind, taxonomy.resolve raw.path = .ok kind := by
  unfold resolves
  cases taxonomy.resolve raw.path <;> simp [Except.isOk, Except.toBool]

namespace Classification

inductive Step
  | one (raw : RawToken)
  | all (raw : List RawToken)

namespace Step

def tokens : Step → List RawToken
  | one raw => [raw]
  | all raw => raw

def offered (taxonomy : Taxonomy) (step : Step) : List RawToken :=
  step.tokens.takeWhile taxonomy.resolves ++ (step.tokens.dropWhile taxonomy.resolves).take 1

end Step

def step (classified : Classification) : Step → Classification × Option ClassifyError
  | .one raw =>
    match classified.classify raw with
    | .ok extended => (extended, none)
    | .error error => (classified, some error)
  | .all raw => classified.classifyAll raw

def run (classified : Classification) : List Step → Classification
  | [] => classified
  | step :: rest => (classified.step step).1.run rest

def cursor (raw : List RawToken) : Position :=
  (raw.map RawToken.text).foldl Position.advance .start

theorem step_eq (classified : Classification) (step : Step) :
    classified.step step = classified.classifyAll step.tokens := by
  cases step with
  | one raw =>
    cases own : classified.classify raw <;> simp [Classification.step, Step.tokens, classifyAll, own]
  | all raw => rfl

theorem Step.filter_offered (taxonomy : Taxonomy) (step : Step) :
    (step.offered taxonomy).filter taxonomy.resolves = step.tokens.takeWhile taxonomy.resolves := by
  have kept : (step.tokens.takeWhile taxonomy.resolves).filter taxonomy.resolves =
      step.tokens.takeWhile taxonomy.resolves :=
    List.filter_eq_self.2 fun _ inside => List.mem_takeWhile_imp inside
  have failing := List.head?_dropWhile_not taxonomy.resolves step.tokens
  rw [offered, List.filter_append, kept]
  cases rest : step.tokens.dropWhile taxonomy.resolves with
  | nil => simp
  | cons first back =>
    rw [rest] at failing
    simpa using failing

theorem classifyAll_append {classified middle : Classification} {front : List RawToken}
    (first : classified.classifyAll front = (middle, none)) (back : List RawToken) :
    classified.classifyAll (front ++ back) = middle.classifyAll back := by
  induction front generalizing classified with
  | nil =>
    cases first
    rfl
  | cons raw rest ih =>
    cases own : classified.classify raw with
    | error error => simp [classifyAll, own] at first
    | ok extended =>
      simp only [classifyAll, own] at first
      simp only [List.cons_append, classifyAll, own, ih first]

-- The tokens up to the first that fails come to the same, without the error.
theorem classifyAll_takeWhile (classified : Classification) (raw : List RawToken) :
    classified.classifyAll (raw.takeWhile classified.taxonomy.resolves) = ((classified.classifyAll raw).1, none) := by
  induction raw generalizing classified with
  | nil => rfl
  | cons token rest ih =>
    cases resolved : classified.taxonomy.resolve token.path with
    | error cause =>
      have fails : ¬ classified.taxonomy.resolves token = true := by simp [Taxonomy.resolves_iff, resolved]
      rw [List.takeWhile_cons_of_neg fails]
      simp [classifyAll, classify_of_unresolved resolved]
    | ok kind =>
      have resolves : classified.taxonomy.resolves token = true := by simp [Taxonomy.resolves_iff, resolved]
      rw [List.takeWhile_cons_of_pos resolves]
      simp only [classifyAll, classify_of_resolve resolved]
      exact ih (classified.add ⟨kind, token.text, classified.position⟩)

theorem classifyAll_failing {classified : Classification} {front : List RawToken} {failing : RawToken}
    {cause : Taxonomy.ResolveError} (resolves : ∀ token ∈ front, classified.taxonomy.resolves token = true)
    (fails : classified.taxonomy.resolve failing.path = .error cause) (back : List RawToken) :
    (classified.classifyAll (front ++ failing :: back)).2 =
      some ⟨(front.map RawToken.text).foldl Position.advance classified.position, cause⟩ := by
  obtain ⟨last, all, -⟩ := @classifyAll_of_resolves classified front fun token inside =>
    (classified.taxonomy.resolves_iff token).1 (resolves token inside)
  have extended := extends_of_classifyAll all
  rw [classifyAll_append all, ← extended.position]
  rw [← extended.taxonomy] at fails
  simp [classifyAll, classify_of_unresolved fails]

theorem classifyAll_eq_error_iff {classified : Classification} {raw : List RawToken} {error : ClassifyError} :
    (classified.classifyAll raw).2 = some error ↔
      ∃ front failing back cause, raw = front ++ failing :: back ∧
        (∀ token ∈ front, classified.taxonomy.resolves token = true) ∧
        classified.taxonomy.resolve failing.path = .error cause ∧
        error = ⟨(front.map RawToken.text).foldl Position.advance classified.position, cause⟩ := by
  constructor
  · intro failed
    have split := @List.takeWhile_append_dropWhile _ classified.taxonomy.resolves raw
    have first := List.head?_dropWhile_not classified.taxonomy.resolves raw
    cases rest : raw.dropWhile classified.taxonomy.resolves with
    | nil =>
      have whole := classified.classifyAll_takeWhile raw
      rw [rest, List.append_nil] at split
      rw [split] at whole
      rw [whole] at failed
      cases failed
    | cons failing back =>
      rw [rest] at split first
      have resolves : ∀ token ∈ raw.takeWhile classified.taxonomy.resolves,
          classified.taxonomy.resolves token = true := fun _ inside => List.mem_takeWhile_imp inside
      cases resolved : classified.taxonomy.resolve failing.path with
      | ok kind => simp [Taxonomy.resolves, resolved, Except.isOk, Except.toBool] at first
      | error cause =>
        refine ⟨_, failing, back, cause, split.symm, resolves, resolved, ?_⟩
        rw [← split, classifyAll_failing resolves resolved, Option.some.injEq] at failed
        exact failed.symm
  · rintro ⟨front, failing, back, cause, rfl, resolves, fails, rfl⟩
    exact classifyAll_failing resolves fails back

theorem Extends.token {taxonomy : Taxonomy} {last : Classification} {raw : List RawToken}
    (extended : (empty taxonomy).Extends raw last) {index : Nat} {offered : RawToken}
    (found : raw[index]? = some offered) :
    ∃ kind, taxonomy.resolve offered.path = .ok kind ∧
      last.tokens[index]? = some ⟨kind, offered.text, cursor (raw.take index)⟩ := by
  have texts : last.tokens.map Token.text = raw.map RawToken.text := extended.texts
  have kinds : last.tokens.map (fun token => Except.ok token.kind) =
      raw.map fun token => taxonomy.resolve token.path := extended.kinds
  have text := congrArg (·[index]?) texts
  have kind := congrArg (·[index]?) kinds
  simp only [List.getElem?_map, found] at text kind
  obtain ⟨token, own, text⟩ := Option.map_eq_some_iff.1 text
  have position : token.position = cursor (raw.take index) := extended.position_of_token own
  refine ⟨token.kind, ?_, ?_⟩
  · simpa [own] using kind.symm
  · rw [own, ← text, ← position]

theorem classifyAll_offered (classified : Classification) (step : Step) :
    classified.classifyAll ((step.offered classified.taxonomy).filter classified.taxonomy.resolves) =
      ((classified.step step).1, none) := by
  rw [Step.filter_offered, classifyAll_takeWhile, step_eq]

theorem taxonomy_step (classified : Classification) (step : Step) :
    (classified.step step).1.taxonomy = classified.taxonomy :=
  (extends_of_classifyAll (classified.classifyAll_offered step)).taxonomy

theorem classifyAll_steps (classified : Classification) (steps : List Step) :
    classified.classifyAll ((steps.flatMap (Step.offered classified.taxonomy)).filter classified.taxonomy.resolves) =
      (classified.run steps, none) := by
  induction steps generalizing classified with
  | nil => rfl
  | cons step rest ih =>
    have later := ih (classified.step step).1
    rw [taxonomy_step] at later
    rw [List.flatMap_cons, List.filter_append, classifyAll_append (classified.classifyAll_offered step), later, run]

/-- Failed classifications leave no trace. After steps in any order, errors or not, all is as if the tokens that resolve
had been classified alone: each has the kind of its path, its own text and the position that the ones before it lead to.
An error of the next step has the cause for its path and the position that those offered before it lead to. -/
theorem failures_leave_no_trace (taxonomy : Taxonomy) (steps : List Step) :
    let classified := (empty taxonomy).run steps
    let resolved := (steps.flatMap (Step.offered taxonomy)).filter taxonomy.resolves
    (empty taxonomy).classifyAll resolved = (classified, none) ∧
    classified.tokens.length = resolved.length ∧
    (∀ (index : Nat) (raw : RawToken), resolved[index]? = some raw → ∃ kind, taxonomy.resolve raw.path = .ok kind ∧
      classified.tokens[index]? = some ⟨kind, raw.text, cursor (resolved.take index)⟩) ∧
    ∀ step error, (classified.step step).2 = some error ↔
      ∃ front failing back cause, step.tokens = front ++ failing :: back ∧
        (∀ token ∈ front, taxonomy.resolves token = true) ∧ taxonomy.resolve failing.path = .error cause ∧
        error = ⟨cursor (resolved ++ front), cause⟩ := by
  intro classified resolved
  have all : (empty taxonomy).classifyAll resolved = (classified, none) := (empty taxonomy).classifyAll_steps steps
  have extended := extends_of_classifyAll all
  refine ⟨all, ?_, fun index raw found => extended.token found, fun step error => ?_⟩
  · simpa [empty] using congrArg List.length extended.texts
  · have same : classified.taxonomy = taxonomy := extended.taxonomy
    have position : classified.position = cursor resolved := extended.position
    rw [step_eq, classifyAll_eq_error_iff, same, position]
    simp only [cursor, List.map_append, List.foldl_append]

end Classification

end TokenForest
