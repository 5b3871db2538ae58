import TokenForest.Diagnostic.Basic
import TokenForest.Dump.Escape
import TokenForest.Text.Blank
import TokenForest.Text.Lines
import TokenForest.Token

set_option autoImplicit false

namespace TokenForest.Dump

structure Error where
  line : Nat
  fault : Fault
deriving DecidableEq

def Fault.message : Fault → String
  | .missingTab => "missing tab between type path and text"
  | .unknownEscape letter => "unknown escape `\\" ++ String.singleton letter ++ "`"
  | .trailingBackslash => "text ends with a lone backslash"

def Fault.suggestion : Fault → String
  | .missingTab => "separate the type path and the text with a tab"
  | .unknownEscape _ | .trailingBackslash => "write a literal backslash as `\\\\`"

def Error.message (error : Error) : String :=
  "dump line " ++ toString error.line ++ ": " ++ error.fault.message

def Error.diagnostic (error : Error) : Diagnostic :=
  ((Diagnostic.error .malformedDump error.fault.message).withNote
      ("at line " ++ toString error.line ++ " of the token dump"))
    |>.withSuggestion error.fault.suggestion

def isSkipped (line : List Char) : Bool :=
  line.all Text.isBlank || line.head? == some '#'

def decodeLine (line : List Char) : Except Fault RawToken :=
  match line.dropWhile (· ≠ '\t') with
  | [] => .error .missingTab
  | _ :: text =>
    (unescape text).map fun decoded =>
      ⟨String.ofList (line.takeWhile (· ≠ '\t')), String.ofList decoded⟩

def readLines : Nat → List (List Char) → List (Except Error RawToken)
  | _, [] => []
  | number, line :: rest =>
    if isSkipped line then readLines (number + 1) rest
    else (decodeLine line).mapError (⟨number, ·⟩) :: readLines (number + 1) rest

def read (text : String) : List (Except Error RawToken) :=
  readLines 1 (Text.lines text.toList)

def parse (text : String) : Except Error (List RawToken) :=
  (read text).mapM id

def escapeText (text : String) : String :=
  String.ofList (escape text.toList)

def writeToken (token : RawToken) : String :=
  token.path ++ "\t" ++ escapeText token.text ++ "\n"

def write (tokens : List RawToken) : String :=
  String.join (tokens.map writeToken)

example : (parse "# c\n\nA\ta\\n\r\n").toOption = some [⟨"A", "a\n"⟩] := by decide +kernel

end TokenForest.Dump
