set_option autoImplicit false

namespace TokenForest

inductive ErrorCode
  | malformedPath
  | unresolvedPath
  | invalidTaxonomy
  | mismatchedDelimiter
  | unterminatedStructure
  | unopenedDelimiter
  | malformedDump
  | unreadableInput
deriving DecidableEq

namespace ErrorCode

def all : List ErrorCode :=
  [.malformedPath, .unresolvedPath, .invalidTaxonomy, .mismatchedDelimiter, .unterminatedStructure,
    .unopenedDelimiter, .malformedDump, .unreadableInput]

theorem mem_all (code : ErrorCode) : code ∈ all := by
  cases code <;> decide

def text : ErrorCode → String
  | .malformedPath => "E0001"
  | .unresolvedPath => "E0002"
  | .invalidTaxonomy => "E0003"
  | .mismatchedDelimiter => "E1001"
  | .unterminatedStructure => "E1002"
  | .unopenedDelimiter => "E1003"
  | .malformedDump => "E2001"
  | .unreadableInput => "E2002"

theorem text_inj {a b : ErrorCode} (h : a.text = b.text) : a = b := by
  revert h
  cases a <;> cases b <;> decide

def description : ErrorCode → String
  | .malformedPath => "malformed type path"
  | .unresolvedPath => "unresolved taxonomy"
  | .invalidTaxonomy => "invalid taxonomy"
  | .mismatchedDelimiter => "mismatched delimiter"
  | .unterminatedStructure => "unterminated structure"
  | .unopenedDelimiter => "unopened delimiter"
  | .malformedDump => "malformed token dump"
  | .unreadableInput => "input unreadable"

def isRecoverable : ErrorCode → Bool
  | .mismatchedDelimiter | .unterminatedStructure | .unopenedDelimiter => true
  | _ => false

def explanation (code : ErrorCode) : String :=
  let effect :=
    if code.isRecoverable then
      "the classified tokens are still reported; with --recover the partial structure is too"
    else "the file produces no output"
  code.text ++ ": " ++ code.description ++ "\n" ++ effect ++ "\n"

-- No character outside ASCII has an upper case among the letters and digits of a code.
def upperCase (text : String) : String :=
  String.ofList (text.toList.map Char.toUpper)

def parse? (text : String) : Option ErrorCode :=
  all.find? (·.text == upperCase text)

theorem parse?_text (code : ErrorCode) : parse? code.text = some code := by
  cases code <;> decide

end ErrorCode

end TokenForest
