import TokenForest.Diagnostic.Terminal
import TokenForest.Proofs.Text.Parts

set_option autoImplicit false

namespace TokenForest

namespace Terminal

def escapeChar : Char := '\x1b'

def Plain (text : List Char) : Prop :=
  escapeChar ∉ text

instance (text : List Char) : Decidable (Plain text) :=
  inferInstanceAs (Decidable (¬ _))

@[simp] theorem plain_append (front back : List Char) : Plain (front ++ back) ↔ Plain front ∧ Plain back := by
  simp [Plain]

theorem plain_toString (number : Nat) : Plain (toString number).toList := by
  intro inside
  exact absurd (Text.isDigit_of_mem_toString _ inside) (by decide)

def strip : Bool → List Char → List Char
  | _, [] => []
  | true, c :: rest => strip (c ≠ 'm') rest
  | false, c :: rest => if c = escapeChar then strip true rest else c :: strip false rest

/-- The text without its control sequences. One that is not ended goes on to the end of the text. -/
def withoutCodes (text : List Char) : List Char :=
  strip false text

def IsCode (code : List Char) : Prop :=
  ∃ body, code = escapeChar :: (body ++ ['m']) ∧ Plain body ∧ 'm' ∉ body

theorem withoutCodes_plain {text : List Char} (plain : Plain text) (rest : List Char) :
    withoutCodes (text ++ rest) = text ++ withoutCodes rest := by
  induction text with
  | nil => rfl
  | cons c more ih =>
    have other := List.ne_of_not_mem_cons plain
    have later := List.not_mem_of_not_mem_cons plain
    have own : withoutCodes (c :: (more ++ rest)) = c :: withoutCodes (more ++ rest) := if_neg (Ne.symm other)
    rw [List.cons_append, own, ih later, List.cons_append]

theorem strip_body {body : List Char} (inner : 'm' ∉ body) (rest : List Char) :
    strip true (body ++ 'm' :: rest) = withoutCodes rest := by
  induction body with
  | nil => rfl
  | cons c more ih =>
    have other := List.ne_of_not_mem_cons inner
    have later := List.not_mem_of_not_mem_cons inner
    have within : decide (c ≠ 'm') = true := by simpa using Ne.symm other
    rw [List.cons_append, strip, within, ih later]

theorem IsCode.withoutCodes {code : List Char} (isCode : IsCode code) (rest : List Char) :
    withoutCodes (code ++ rest) = Terminal.withoutCodes rest := by
  obtain ⟨body, rfl, -, inner⟩ := isCode
  rw [List.cons_append, List.append_assoc, List.singleton_append]
  exact strip_body inner rest

theorem IsCode.unique {code other back more : List Char} (first : IsCode code) (second : IsCode other)
    (same : code ++ back = other ++ more) : code = other ∧ back = more := by
  obtain ⟨body, rfl, -, inner⟩ := first
  obtain ⟨middle, rfl, -, within⟩ := second
  simp only [List.cons_append, List.append_assoc, List.cons.injEq, true_and] at same
  obtain ⟨rfl, backs⟩ := Text.split_unique_at inner within same
  exact ⟨rfl, backs⟩

theorem isCode_reset : IsCode Style.reset.toList :=
  ⟨['[', '0'], by decide⟩

theorem isCode_start {style : Style} {code : String} (start : style.start = some code) : IsCode code.toList := by
  cases style <;> cases start
  · exact ⟨['[', '1'], by decide⟩
  · exact ⟨['[', '1', ';', '3', '1'], by decide⟩
  · exact ⟨['[', '1', ';', '3', '3'], by decide⟩
  · exact ⟨['[', '1', ';', '3', '2'], by decide⟩
  · exact ⟨['[', '1', ';', '3', '4'], by decide⟩

theorem start_ne_reset {style : Style} {code : String} (start : style.start = some code) : code ≠ Style.reset := by
  cases style <;> cases start <;> decide

inductive Coded : List Char → Prop
  | reset (rest : List Char) : Coded (Style.reset.toList ++ rest)
  | start {style : Style} {code : String} (begins : style.start = some code) {text : List Char} (plain : Plain text)
      (rest : List Char) : Coded (code.toList ++ (text ++ (Style.reset.toList ++ rest)))

def AllCoded (text : List Char) : Prop :=
  ∀ tail, tail <:+ text → tail.head? = some escapeChar → Coded tail

theorem AllCoded.plain_append {text rest : List Char} (plain : Plain text) (later : AllCoded rest) :
    AllCoded (text ++ rest) := by
  induction text with
  | nil => exact later
  | cons c more ih =>
    have other := List.ne_of_not_mem_cons plain
    have inner := List.not_mem_of_not_mem_cons plain
    intro tail suffix first
    rcases List.suffix_cons_iff.1 suffix with rfl | shorter
    · exact absurd (Option.some.inj first).symm other
    · exact ih inner tail shorter first

theorem AllCoded.code_append {code rest : List Char} (isCode : IsCode code) (coded : Coded (code ++ rest))
    (later : AllCoded rest) : AllCoded (code ++ rest) := by
  obtain ⟨body, rfl, plain, -⟩ := isCode
  have inner : Plain (body ++ ['m']) := by simpa [plain] using by decide
  intro tail suffix first
  rcases List.suffix_cons_iff.1 suffix with rfl | shorter
  · exact coded
  · exact later.plain_append inner tail shorter first

end Terminal

namespace Span

open Terminal

theorem withoutCodes_render {span : Span} (plain : Plain span.text.toList) (rest : List Char) :
    withoutCodes ((span.render true).toList ++ rest) = span.text.toList ++ withoutCodes rest := by
  unfold render
  cases start : span.style.start with
  | none => exact withoutCodes_plain plain rest
  | some code =>
    simp only [String.toList_append, List.append_assoc]
    rw [(isCode_start start).withoutCodes, withoutCodes_plain plain, isCode_reset.withoutCodes]

theorem allCoded_render {span : Span} (plain : Plain span.text.toList) {rest : List Char} (later : AllCoded rest) :
    AllCoded ((span.render true).toList ++ rest) := by
  unfold render
  cases start : span.style.start with
  | none => exact later.plain_append plain
  | some code =>
    simp only [String.toList_append, List.append_assoc]
    have taken : AllCoded (Style.reset.toList ++ rest) := later.code_append isCode_reset (.reset rest)
    exact (taken.plain_append plain).code_append (isCode_start start) (.start start plain rest)

end Span

namespace Terminal

theorem withoutCodes_renderSpans {spans : List Span} (plain : ∀ span ∈ spans, Plain span.text.toList) :
    withoutCodes (renderSpans spans true).toList = (renderSpans spans false).toList := by
  rw [toList_renderSpans, toList_renderSpans]
  induction spans with
  | nil => rfl
  | cons span rest ih =>
    obtain ⟨own, later⟩ := List.forall_mem_cons.1 plain
    rw [List.flatMap_cons, List.flatMap_cons, Span.withoutCodes_render own, ih later, Span.render_false]

theorem allCoded_renderSpans {spans : List Span} (plain : ∀ span ∈ spans, Plain span.text.toList) :
    AllCoded (renderSpans spans true).toList := by
  rw [toList_renderSpans]
  induction spans with
  | nil =>
    intro tail suffix first
    cases List.suffix_nil.1 suffix
    cases first
  | cons span rest ih =>
    obtain ⟨own, later⟩ := List.forall_mem_cons.1 plain
    exact Span.allCoded_render own (ih later)

end Terminal

def Diagnostic.texts (diagnostic : Diagnostic) : List String :=
  diagnostic.message :: diagnostic.file.toList ++ diagnostic.labels.map Label.message ++ diagnostic.notes
    ++ diagnostic.suggestions

namespace Terminal

def Call.texts : Call → List String
  | .emit diagnostic => diagnostic.texts
  | .emitAll diagnostics => diagnostics.flatMap Diagnostic.texts
  | .summary _ _ | .flush => []

theorem plain_labelSpans {file : String} (named : Plain file.toList) (severity : Severity) {label : Label}
    (plain : Plain label.message.toList) : ∀ span ∈ labelSpans file severity label, Plain span.text.toList := by
  have marker : Plain label.marker.toList := by
    unfold Label.marker
    split <;> decide
  simp only [labelSpans, Span.plain, List.forall_mem_cons, String.toList_append, plain_append, marker,
    named, plain, plain_toString, and_true]
  decide

theorem plain_remark {style : Style} {word remark : String} (leading : Plain word.toList) (plain : Plain remark.toList) :
    ∀ span ∈ [.plain "  = ", ⟨style, word⟩, .plain (": " ++ remark ++ "\n")], Plain (Span.text span).toList := by
  simp only [Span.plain, List.forall_mem_cons, String.toList_append, plain_append, leading, plain, and_true, true_and]
  decide

theorem plain_diagnosticSpans {diagnostic : Diagnostic} (plain : ∀ text ∈ diagnostic.texts, Plain text.toList) :
    ∀ span ∈ diagnosticSpans diagnostic, Plain span.text.toList := by
  simp only [Diagnostic.texts, List.forall_mem_append, List.forall_mem_cons] at plain
  obtain ⟨⟨⟨⟨message, given⟩, labels⟩, notes⟩, suggestions⟩ := plain
  have severity : Plain diagnostic.severity.text.toList := by cases diagnostic.severity <;> decide
  have code : Plain diagnostic.code.text.toList := by cases diagnostic.code <;> decide
  have file : Plain (diagnostic.file.getD "<input>").toList := by
    cases own : diagnostic.file with
    | none => decide
    | some file => exact given file (by simp [own])
  simp only [diagnosticSpans, List.forall_mem_append, List.mem_flatMap]
  refine ⟨⟨⟨⟨?header, ?labels⟩, ?notes⟩, ?suggestions⟩, ?last⟩
  case header =>
    simp only [Span.plain, List.forall_mem_cons, String.toList_append, plain_append, severity, code, message, and_true,
      true_and]
    decide
  case labels =>
    rintro span ⟨label, inside, own⟩
    exact plain_labelSpans file _ (labels _ (List.mem_map_of_mem inside)) span own
  case notes =>
    rintro span ⟨note, inside, own⟩
    exact plain_remark (by decide) (notes note inside) span own
  case suggestions =>
    rintro span ⟨suggestion, inside, own⟩
    exact plain_remark (by decide) (suggestions suggestion inside) span own
  case last => decide

theorem plain_summarySpans (failed total : Nat) : ∀ span ∈ summarySpans failed total, Plain span.text.toList := by
  unfold summarySpans
  split
  · simp
  · have ending : Plain (if total = 1 then "" else "s").toList := by split <;> decide
    simp only [Span.plain, List.forall_mem_cons, String.toList_append, plain_append, plain_toString, ending, and_true]
    decide

theorem plain_spans {call : Call} (plain : ∀ text ∈ call.texts, Plain text.toList) :
    ∀ span ∈ call.spans, Plain span.text.toList := by
  cases call with
  | emit diagnostic => exact plain_diagnosticSpans plain
  | emitAll diagnostics =>
    intro span inside
    obtain ⟨diagnostic, member, own⟩ := List.mem_flatMap.1 inside
    exact plain_diagnosticSpans (fun text given => plain text (List.mem_flatMap.2 ⟨diagnostic, member, given⟩)) span own
  | summary failed total => exact plain_summarySpans failed total
  | flush => simp [Call.spans]

theorem Coded.closed {style : Style} {code : String} (start : style.start = some code) {back : List Char}
    (coded : Coded (code.toList ++ back)) : ∃ text after, Plain text ∧ back = text ++ Style.reset.toList ++ after := by
  generalize whole : code.toList ++ back = tail at coded
  cases coded with
  | reset rest =>
    obtain ⟨same, -⟩ := (isCode_start start).unique isCode_reset whole
    exact absurd (String.toList_injective same) (start_ne_reset start)
  | start other plain rest =>
    obtain ⟨-, rfl⟩ := (isCode_start start).unique (isCode_start other) whole
    exact ⟨_, rest, plain, (List.append_assoc _ _ _).symm⟩

/-- Colours only decorate a report, as long as no text in it has an escape: without control sequences it reads as it
does without colours. Every control sequence begins a style or is a reset, and one that begins a style is followed by a
reset before any other. -/
theorem colours_decorate (calls : List Call) (plain : ∀ call ∈ calls, ∀ text ∈ call.texts, Plain text.toList) :
    withoutCodes (write true calls).toList = (write false calls).toList ∧
    (∀ style code front back, Style.start style = some code → (write true calls).toList = front ++ code.toList ++ back →
      ∃ text after, Plain text ∧ back = text ++ Style.reset.toList ++ after) ∧
    ∀ front back, (write true calls).toList = front ++ escapeChar :: back →
      Style.reset.toList <+: escapeChar :: back ∨
        ∃ style code, Style.start style = some code ∧ code.toList <+: escapeChar :: back := by
  have spans : ∀ span ∈ calls.flatMap Call.spans, Plain span.text.toList := by
    intro span inside
    obtain ⟨call, member, own⟩ := List.mem_flatMap.1 inside
    exact plain_spans (plain call member) span own
  have coded : AllCoded (write true calls).toList := allCoded_renderSpans spans
  refine ⟨withoutCodes_renderSpans spans, fun style code front back start whole => ?_, fun front back whole => ?_⟩
  · rw [List.append_assoc] at whole
    have first : (code.toList ++ back).head? = some escapeChar := by
      obtain ⟨body, shape, -, -⟩ := isCode_start start
      rw [shape]
      rfl
    exact (coded _ (whole ▸ List.suffix_append _ _) first).closed start
  · generalize here : escapeChar :: back = tail at whole
    cases coded tail (whole ▸ List.suffix_append _ _) (here ▸ rfl) with
    | reset rest => exact .inl (List.prefix_append _ _)
    | start begins => exact .inr ⟨_, _, begins, List.prefix_append _ _⟩

theorem colours_decorate_brackets :
    let label : Label := ⟨⟨0, 4294967295⟩, "[0m", false⟩
    let diagnostic : Diagnostic := ⟨.unopenedDelimiter, .warning, "[1;31m\nm", some "m", [label], ["1m"], ["m"]⟩
    let calls : List Call := [.emitAll [diagnostic, diagnostic.recovered], .flush, .summary 1 2]
    (∀ call ∈ calls, ∀ text ∈ call.texts, Plain text.toList) ∧
      withoutCodes (write true calls).toList = (write false calls).toList ∧ write true calls ≠ write false calls := by
  intro label diagnostic calls
  have plain : ∀ call ∈ calls, ∀ text ∈ call.texts, Plain text.toList := by decide +kernel
  exact ⟨plain, (colours_decorate calls plain).1, by decide +kernel⟩

end Terminal

end TokenForest
