import Mathlib.Data.List.Forall2
import Mathlib.Data.List.TakeWhile
import TokenForest.CommandLine

set_option autoImplicit false

namespace TokenForest

namespace Text

theorem exists_trim (text : List Char) :
    ∃ front back, text = front ++ trim text ++ back ∧ ∀ c ∈ front ++ back, isBlank c = true := by
  let rest := text.dropWhile isBlank
  refine ⟨text.takeWhile isBlank, (rest.reverse.takeWhile isBlank).reverse, ?_, fun c inside => ?_⟩
  · rw [trim, List.append_assoc, ← List.reverse_append, List.takeWhile_append_dropWhile, List.reverse_reverse,
      List.takeWhile_append_dropWhile]
  · rcases List.mem_append.1 inside with before | after
    · exact List.mem_takeWhile_imp before
    · exact List.mem_takeWhile_imp (List.mem_reverse.1 after)

theorem trim_append {front word back : List Char} (blank : ∀ c ∈ front ++ back, isBlank c = true)
    (plain : ∀ c ∈ word, isBlank c = false) : trim (front ++ word ++ back) = word := by
  obtain ⟨before, after⟩ := List.forall_mem_append.1 blank
  have kept {letters : List Char} (own : ∀ c ∈ letters, isBlank c = false) : letters.dropWhile isBlank = letters :=
    List.dropWhile_eq_self_iff.2 fun some => by simp [own _ (List.getElem_mem some)]
  cases word with
  | nil =>
    have nothing : (front ++ back).dropWhile isBlank = [] := List.dropWhile_eq_nil_iff.2 blank
    simp [trim, nothing]
  | cons c rest =>
    have head : (c :: rest ++ back).dropWhile isBlank = c :: rest ++ back :=
      List.dropWhile_eq_self_iff.2 fun _ => by simp [plain c]
    have last : ∀ c ∈ back.reverse, isBlank c = true := by simpa using after
    rw [trim, List.append_assoc, List.dropWhile_append_of_pos before, head, List.reverse_append,
      List.dropWhile_append_of_pos last, kept fun c inside => plain c (List.mem_reverse.1 inside), List.reverse_reverse]

theorem eq_toLower_or_eq_toUpper (c : Char) : c = c.toLower ∨ c = c.toLower.toUpper := by
  by_cases capital : c.toNat < 91
  · have known : ∀ code < 91, Char.ofNat code = (Char.ofNat code).toLower ∨
        Char.ofNat code = (Char.ofNat code).toLower.toUpper := by decide
    simpa using known c.toNat capital
  · have small : ¬ (c.val ≥ 'A'.val ∧ c.val ≤ 'Z'.val) := fun upper => capital (Nat.lt_succ_of_le upper.2)
    have same : c.toLower = c := dif_neg small
    exact .inl same.symm

end Text

namespace Settings

def trueWords : List String := ["1", "true", "yes", "on"]

def falseWords : List String := ["0", "false", "no", "off"]

/-- The value is one of the words in capital or small letters, with white space around it. -/
def IsWord (words : List String) (value : String) : Prop :=
  ∃ front word back, value.toList = front ++ word ++ back ∧ (∀ c ∈ front ++ back, Text.isBlank c = true) ∧
    ∃ name ∈ words, List.Forall₂ (fun c letter => c = letter ∨ c = letter.toUpper) word name.toList

def isSmall (letter : Char) : Bool :=
  letter.toLower = letter && letter.toUpper.toLower = letter && !Text.isBlank letter && !Text.isBlank letter.toUpper

theorem toLower_eq_iff {c letter : Char} (small : isSmall letter = true) :
    c.toLower = letter ↔ c = letter ∨ c = letter.toUpper := by
  simp only [isSmall, Bool.and_eq_true, decide_eq_true_eq] at small
  constructor
  · rintro rfl
    exact Text.eq_toLower_or_eq_toUpper c
  · rintro (rfl | rfl)
    · exact small.1.1.1
    · exact small.1.1.2

theorem map_toLower_eq_iff {word letters : List Char} (small : ∀ letter ∈ letters, isSmall letter = true) :
    word.map Char.toLower = letters ↔
      List.Forall₂ (fun c letter => c = letter ∨ c = letter.toUpper) word letters := by
  induction letters generalizing word with
  | nil => simp
  | cons letter letters ih =>
    obtain ⟨own, later⟩ := List.forall_mem_cons.1 small
    cases word with
    | nil => simp
    | cons c word => simp [toLower_eq_iff own, ih later]

theorem isBlank_of_spelled {word letters : List Char} (small : ∀ letter ∈ letters, isSmall letter = true)
    (spelled : List.Forall₂ (fun c letter => c = letter ∨ c = letter.toUpper) word letters) :
    ∀ c ∈ word, Text.isBlank c = false := by
  induction spelled with
  | nil => simp
  | @cons c letter word letters own _ ih =>
    obtain ⟨first, later⟩ := List.forall_mem_cons.1 small
    refine List.forall_mem_cons.2 ⟨?_, ih later⟩
    simp only [isSmall, Bool.and_eq_true, Bool.not_eq_true'] at first
    rcases own with rfl | rfl
    · exact first.1.2
    · exact first.2

theorem flagWord_mem_iff {words : List String} (small : ∀ name ∈ words, name.toList.all isSmall = true)
    (value : String) : flagWord value ∈ words ↔ IsWord words value := by
  have letters (name : String) (inside : name ∈ words) := List.all_eq_true.1 (small name inside)
  have same (name : String) : flagWord value = name ↔ (Text.trim value.toList).map Char.toLower = name.toList := by
    rw [← String.toList_inj, flagWord, String.toList_ofList]
  constructor
  · intro inside
    obtain ⟨front, back, split, blank⟩ := Text.exists_trim value.toList
    exact ⟨front, _, back, split, blank, _, inside, (map_toLower_eq_iff (letters _ inside)).1 ((same _).1 rfl)⟩
  · rintro ⟨front, word, back, split, blank, name, inside, spelled⟩
    have trimmed : Text.trim value.toList = word := by
      rw [split, Text.trim_append blank (isBlank_of_spelled (letters name inside) spelled)]
    rw [(same name).2 (by rw [trimmed, (map_toLower_eq_iff (letters name inside)).2 spelled])]
    exact inside

theorem parseFlag_eq (value : String) :
    parseFlag value =
      if flagWord value ∈ trueWords then some true else if flagWord value ∈ falseWords then some false else none :=
  rfl

theorem parseFlag_eq_true_iff (value : String) : parseFlag value = some true ↔ IsWord trueWords value := by
  rw [← flagWord_mem_iff (by decide), parseFlag_eq]
  by_cases yes : flagWord value ∈ trueWords <;> by_cases no : flagWord value ∈ falseWords <;> simp [yes, no]

theorem parseFlag_eq_false_iff (value : String) : parseFlag value = some false ↔ IsWord falseWords value := by
  have apart : ∀ word ∈ trueWords, word ∉ falseWords := by decide
  rw [← flagWord_mem_iff (by decide), parseFlag_eq]
  by_cases yes : flagWord value ∈ trueWords
  · simp [yes, apart _ yes]
  · by_cases no : flagWord value ∈ falseWords <;> simp [yes, no]

end Settings

namespace CommandLine

def isFlag (argument : String) : Bool :=
  argument.toList.head? = some '-'

def knownFlags (grouping : Bool) : List String :=
  if grouping then ["--sequential", "--significant", "--recover"] else ["--sequential"]

def withFlags (settings : Settings) (arguments : List String) : Settings :=
  { settings with
    recover := settings.recover || "--recover" ∈ arguments
    keepTrivia := settings.keepTrivia && "--significant" ∉ arguments
    parallel := settings.parallel && "--sequential" ∉ arguments }

theorem withFlags_cons (settings : Settings) (argument : String) (rest : List String) :
    withFlags settings (argument :: rest) = withFlags (withFlags settings [argument]) rest := by
  simp [withFlags, Bool.or_assoc, Bool.and_assoc]

theorem ne_of_plain {argument : String} (plain : isFlag argument = false) :
    argument ≠ "--sequential" ∧ argument ≠ "--significant" ∧ argument ≠ "--recover" := by
  have dashed : ∀ flag ∈ knownFlags true, isFlag flag = true := by decide
  have unknown : argument ∉ knownFlags true := fun known => by simp [dashed argument known] at plain
  simpa [knownFlags] using unknown

theorem withFlags_plain (settings : Settings) {argument : String} (plain : isFlag argument = false) :
    withFlags settings [argument] = settings := by
  have ⟨sequential, significant, recover⟩ := ne_of_plain plain
  simp [withFlags, recover.symm, significant.symm, sequential.symm]

theorem add_known (request : Request) {argument : String} (flag : isFlag argument = true)
    (known : argument ∈ knownFlags request.settings.structured) :
    request.add argument = .ok { request with settings := withFlags request.settings [argument] } := by
  unfold knownFlags at known
  by_cases grouping : request.settings.structured = true
  · rw [if_pos grouping] at known
    simp only [List.mem_cons, List.not_mem_nil, or_false] at known
    rcases known with rfl | rfl | rfl <;> simp [Request.add, withFlags, grouping]
  · rw [if_neg grouping] at known
    cases List.mem_singleton.1 known
    simp [Request.add, withFlags]

theorem add_file (request : Request) {argument : String} (plain : isFlag argument = false) :
    request.add argument = .ok { request with files := request.files ++ [argument] } := by
  have ⟨sequential, significant, recover⟩ := ne_of_plain plain
  have undashed : argument.toList.head? ≠ some '-' := by simpa [isFlag] using plain
  simp [Request.add, recover, significant, sequential, undashed]

theorem addAll_known (request : Request) {arguments : List String}
    (known : ∀ argument ∈ arguments, isFlag argument = true → argument ∈ knownFlags request.settings.structured) :
    request.addAll arguments =
      .ok ⟨withFlags request.settings arguments, request.files ++ arguments.filter fun argument => !isFlag argument⟩ := by
  induction arguments generalizing request with
  | nil => simp [Request.addAll, withFlags]
  | cons argument rest ih =>
    obtain ⟨own, later⟩ := List.forall_mem_cons.1 known
    rw [withFlags_cons]
    by_cases flag : isFlag argument = true
    · rw [Request.addAll, add_known request flag (own flag)]
      have added := ih { request with settings := withFlags request.settings [argument] } later
      simpa [flag] using added
    · have plain : isFlag argument = false := by simpa using flag
      rw [Request.addAll, add_file request plain, withFlags_plain request.settings plain]
      have added := ih { request with files := request.files ++ [argument] } later
      simpa [plain] using added

def settingsOf (around : Surroundings) (grouping : Bool) (arguments : List String) : Settings :=
  withFlags { Settings.ofLookup around.lookup with structured := grouping } arguments

@[simp] theorem structured_settingsOf (around : Surroundings) (grouping : Bool) (arguments : List String) :
    (settingsOf around grouping arguments).structured = grouping :=
  rfl

def Surroundings.Says (around : Surroundings) (name : String) (words : List String) : Prop :=
  ∃ value, around.lookup name = some value ∧ Settings.IsWord words value

-- Only a word for the other value takes a setting away from its default.
theorem flag_eq_not_iff {around : Surroundings} {name : String} (default : Bool) {words : List String}
    (own : ∀ value, Settings.parseFlag value = some (!default) ↔ Settings.IsWord words value) :
    Settings.flag around.lookup name default = !default ↔ around.Says name words := by
  cases value : around.lookup name with
  | none => cases default <;> simp [Surroundings.Says, Settings.flag, value]
  | some text =>
    simp only [Surroundings.Says, Settings.flag, value, Option.some.injEq, exists_eq_left', Option.bind_some, ← own]
    cases Settings.parseFlag text <;> cases default <;> simp

def Recovers (around : Surroundings) (arguments : List String) : Prop :=
  "--recover" ∈ arguments ∨ around.Says "QRP_RECOVER" Settings.trueWords

def KeepsTrivia (around : Surroundings) (arguments : List String) : Prop :=
  "--significant" ∉ arguments ∧ ¬ around.Says "QRP_KEEP_TRIVIA" Settings.falseWords

theorem recover_settingsOf (around : Surroundings) (grouping : Bool) (arguments : List String) :
    (settingsOf around grouping arguments).recover = true ↔ Recovers around arguments := by
  have set := @flag_eq_not_iff around "QRP_RECOVER" false _ Settings.parseFlag_eq_true_iff
  simp [settingsOf, withFlags, Settings.ofLookup, Recovers, ← set, or_comm]

theorem keepTrivia_settingsOf (around : Surroundings) (grouping : Bool) (arguments : List String) :
    (settingsOf around grouping arguments).keepTrivia = true ↔ KeepsTrivia around arguments := by
  have set := @flag_eq_not_iff around "QRP_KEEP_TRIVIA" true _ Settings.parseFlag_eq_false_iff
  simp [settingsOf, withFlags, Settings.ofLookup, KeepsTrivia, ← set, and_comm]

instance (around : Surroundings) (arguments : List String) : Decidable (Recovers around arguments) :=
  decidable_of_iff _ (recover_settingsOf around false arguments)

instance (around : Surroundings) (arguments : List String) : Decidable (KeepsTrivia around arguments) :=
  decidable_of_iff _ (keepTrivia_settingsOf around false arguments)

theorem recover_eq_decide (around : Surroundings) (grouping : Bool) (arguments : List String) :
    (settingsOf around grouping arguments).recover = decide (Recovers around arguments) := by
  rw [Bool.eq_iff_iff, recover_settingsOf, decide_eq_true_iff]

theorem keepTrivia_eq_decide (around : Surroundings) (grouping : Bool) (arguments : List String) :
    (settingsOf around grouping arguments).keepTrivia = decide (KeepsTrivia around arguments) := by
  rw [Bool.eq_iff_iff, keepTrivia_settingsOf, decide_eq_true_iff]

end CommandLine

end TokenForest
