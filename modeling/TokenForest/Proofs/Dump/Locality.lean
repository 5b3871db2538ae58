import TokenForest.Proofs.Dump.Reading

set_option autoImplicit false

namespace TokenForest

namespace Text

def Ended (text : List Char) : Prop :=
  text = [] ∨ text.getLast? = some '\n'

instance (text : List Char) : Decidable (Ended text) :=
  inferInstanceAs (Decidable (_ ∨ _))

theorem Ended.cases {text : List Char} (ended : Ended text) : text = [] ∨ ∃ front, text = front ++ ['\n'] :=
  ended.imp_right List.getLast?_eq_some_iff.1

theorem length_splitOn (separator : Char) (text : List Char) :
    (text.splitOn separator).length = text.count separator + 1 := by
  induction text with
  | nil => simp
  | cons c rest ih =>
    rw [List.splitOn_cons_eq_if_modifyHead]
    by_cases same : c = separator <;> simp [same, ih]

theorem lines_append {front : List Char} (ended : Ended front) (back : List Char) :
    lines (front ++ back) = lines front ++ lines back := by
  rcases ended.cases with rfl | ⟨front, rfl⟩
  · simp
  · have whole := lines_append_newline front back
    have alone := lines_append_newline front []
    rw [lines_nil, List.append_nil] at alone
    rw [List.append_assoc, List.singleton_append, whole, alone]

theorem length_lines {text : List Char} (ended : Ended text) : (lines text).length = text.count '\n' := by
  rcases ended.cases with rfl | ⟨front, rfl⟩
  · rfl
  · simp [lines_append_newline, length_splitOn]

theorem trim_eq_nil_iff (text : List Char) : trim text = [] ↔ ∀ c ∈ text, isBlank c = true := by
  rw [trim, List.reverse_eq_nil_iff, List.dropWhile_eq_nil_iff]
  simp only [List.mem_reverse]
  constructor
  · intro blank c inside
    rw [← List.takeWhile_append_dropWhile (p := isBlank) (l := text), List.mem_append] at inside
    rcases inside with first | rest
    · exact List.mem_takeWhile_imp first
    · exact blank c rest
  · exact fun blank c inside => blank c (List.dropWhile_subset _ inside)

end Text

namespace Dump

open Text (Ended)

/-- A line says nothing if it is empty but for white space, or a comment. -/
def Silent (line : List Char) : Prop :=
  Text.trim line = [] ∨ line.head? = some '#'

instance (line : List Char) : Decidable (Silent line) :=
  inferInstanceAs (Decidable (_ ∨ _))

theorem isSkipped_iff_silent (line : List Char) : isSkipped line = true ↔ Silent line := by
  simp [isSkipped, Silent, Text.trim_eq_nil_iff]

def item (line : List Char) (number : Nat) : Except Error RawToken :=
  (decodeLine line).mapError (⟨number, ·⟩)

def moved (lines : Nat) (item : Except Error RawToken) : Except Error RawToken :=
  item.mapError fun error => { error with line := error.line + lines }

@[simp] theorem moved_item (lines number : Nat) (line : List Char) :
    moved lines (item line number) = item line (number + lines) := by
  cases decoded : decodeLine line <;> simp [moved, item, decoded, Except.mapError]

theorem moved_add (first second : Nat) (item : Except Error RawToken) :
    moved (first + second) item = moved second (moved first item) := by
  cases item <;> simp [moved, Except.mapError, Nat.add_assoc]

@[simp] theorem toOption_moved (lines : Nat) (item : Except Error RawToken) :
    (moved lines item).toOption = item.toOption := by
  cases item <;> rfl

theorem readLines_cons (number : Nat) (line : List Char) (rest : List (List Char)) :
    readLines number (line :: rest) =
      if Silent line then readLines (number + 1) rest else item line number :: readLines (number + 1) rest := by
  simp only [readLines, isSkipped_iff_silent, item]

theorem readLines_eq (number : Nat) (lines : List (List Char)) :
    readLines number lines =
      (lines.zipIdx number).filterMap fun (line, place) => if Silent line then none else some (item line place) := by
  induction lines generalizing number with
  | nil => rfl
  | cons line rest ih =>
    rw [readLines_cons, List.zipIdx_cons, List.filterMap_cons, ih]
    by_cases silent : Silent line <;> simp [silent]

theorem readLines_add (number shift : Nat) (lines : List (List Char)) :
    readLines (number + shift) lines = (readLines number lines).map (moved shift) := by
  induction lines generalizing number with
  | nil => rfl
  | cons line rest ih =>
    have next : number + shift + 1 = number + 1 + shift := by omega
    rw [readLines_cons, readLines_cons, next, ih]
    by_cases silent : Silent line <;> simp [silent]

theorem readLines_silent {lines : List (List Char)} (silent : ∀ line ∈ lines, Silent line) (number : Nat) :
    readLines number lines = [] := by
  induction lines generalizing number with
  | nil => rfl
  | cons line rest ih =>
    obtain ⟨own, later⟩ := List.forall_mem_cons.1 silent
    rw [readLines_cons, if_pos own, ih later]

theorem read_append {front : String} (ended : Ended front.toList) (back : String) :
    read (front ++ back) = read front ++ (read back).map (moved (front.toList.count '\n')) := by
  rw [read, String.toList_append, Text.lines_append ended, readLines_append, Text.length_lines ended, readLines_add]
  rfl

-- A gap that does not end its last line is allowed where nothing follows it.
theorem read_gap {front gap back : String} (ended : Ended front.toList) (ends : Ended gap.toList ∨ back = "")
    (silent : ∀ line ∈ Text.lines gap.toList, Silent line) :
    read (front ++ gap ++ back) =
      read front ++ (read back).map (moved (front.toList.count '\n' + gap.toList.count '\n')) := by
  have nothing : read gap = [] := readLines_silent silent 1
  rcases ends with inner | rfl
  · have both : Ended (front ++ gap).toList := by
      rcases inner.cases with empty | ⟨init, last⟩
      · simpa [empty] using ended
      · exact .inr (by simp [last])
    rw [read_append both, read_append ended, nothing, String.toList_append, List.count_append]
    simp
  · have empty : read "" = [] := rfl
    rw [String.append_empty, read_append ended, nothing, empty]
    rfl

def FirstError (error : Error) (items : List (Except Error RawToken)) : Prop :=
  ∃ (tokens : List RawToken) (rest : List (Except Error RawToken)), items = tokens.map .ok ++ .error error :: rest

theorem firstError_error_iff (error other : Error) (rest : List (Except Error RawToken)) :
    FirstError error (.error other :: rest) ↔ other = error := by
  constructor
  · rintro ⟨_ | ⟨token, tokens⟩, back, same⟩
    · exact Except.error.inj (List.cons.inj same).1
    · cases (List.cons.inj same).1
  · rintro rfl
    exact ⟨[], rest, rfl⟩

theorem firstError_ok_iff (error : Error) (token : RawToken) (rest : List (Except Error RawToken)) :
    FirstError error (.ok token :: rest) ↔ FirstError error rest := by
  constructor
  · rintro ⟨_ | ⟨first, tokens⟩, back, same⟩
    · cases (List.cons.inj same).1
    · exact ⟨tokens, back, (List.cons.inj same).2⟩
  · rintro ⟨tokens, back, rfl⟩
    exact ⟨token :: tokens, back, rfl⟩

theorem mapM_id_eq_error_iff {items : List (Except Error RawToken)} {error : Error} :
    items.mapM id = .error error ↔ FirstError error items := by
  induction items with
  | nil => simp [pure, Except.pure, FirstError]
  | cons item rest ih =>
    rw [List.mapM_cons]
    cases item with
    | error other => simp [firstError_error_iff, bind, Except.bind]
    | ok token =>
      rw [firstError_ok_iff, ← ih]
      cases rest.mapM id <;> simp [bind, Except.bind, pure, Except.pure]

theorem parse_eq_error_iff {text : String} {error : Error} :
    parse text = .error error ↔ FirstError error (read text) :=
  mapM_id_eq_error_iff

theorem parse_fails_iff (text : String) : (∃ error, parse text = .error error) ↔ ∃ error, .error error ∈ read text := by
  constructor
  · rintro ⟨error, failed⟩
    obtain ⟨tokens, rest, said⟩ := parse_eq_error_iff.1 failed
    exact ⟨error, by simp [said]⟩
  · rintro ⟨error, inside⟩
    cases parsed : parse text with
    | error first => exact ⟨first, rfl⟩
    | ok tokens =>
      rw [parse_eq_ok_iff.1 parsed] at inside
      simp at inside

/-- Reading a dump that goes on after the end of a line is reading its parts one after the other, with the errors of
the second part moved down by the lines of the first. So silent lines between two parts, or after the last one, change no
token and only move errors. A dump has one item for each line that is not silent, in order and numbered from one, and it
fails to parse exactly if one of them is an error, with the first. -/
theorem read_line_by_line :
    (∀ front back : String, Ended front.toList →
      read (front ++ back) = read front ++ (read back).map (moved (front.toList.count '\n'))) ∧
    (∀ front gap back : String, Ended front.toList → Ended gap.toList ∨ back = "" →
      (∀ line ∈ Text.lines gap.toList, Silent line) →
      (read (front ++ gap ++ back)).filterMap Except.toOption = (read (front ++ back)).filterMap Except.toOption ∧
      ∃ later, read (front ++ back) = read front ++ later ∧
        read (front ++ gap ++ back) = read front ++ later.map (moved (gap.toList.count '\n'))) ∧
    (∀ text : String, read text = ((Text.lines text.toList).zipIdx 1).filterMap fun (line, number) =>
      if Silent line then none else some ((decodeLine line).mapError (⟨number, ·⟩))) ∧
    (∀ text : String, (∃ error, parse text = .error error) ↔ ∃ error, .error error ∈ read text) ∧
    ∀ (text : String) (error : Error), parse text = .error error ↔ FirstError error (read text) := by
  refine ⟨fun _ back ended => read_append ended back, fun front gap back ended ends silent => ?_,
    fun text => readLines_eq 1 _, parse_fails_iff, fun _ _ => parse_eq_error_iff⟩
  have without := read_append ended back
  have within := read_gap ended ends silent
  refine ⟨?_, _, without, ?_⟩
  · have kept (lines : Nat) : Except.toOption ∘ moved lines = Except.toOption := funext (toOption_moved lines)
    simp only [without, within, List.filterMap_append, List.filterMap_map, kept]
  · rw [within, List.map_map]
    exact congrArg _ (List.map_congr_left fun item _ => moved_add _ _ item)

example : read "# a\r\n\t\nb\r\n" = [.error ⟨3, .missingTab⟩] := by decide +kernel

end Dump

end TokenForest
