import TokenForest.Text.ExtendingMark
import TokenForest.Text.Unprintable

set_option autoImplicit false

namespace TokenForest.Text

def escapeLetter : Char → Option Char
  | '\x00' => some '0'
  | '\t' => some 't'
  | '\n' => some 'n'
  | '\r' => some 'r'
  | '"' => some '"'
  | '\\' => some '\\'
  | _ => none

def isAsciiPrintable (c : Char) : Bool :=
  decide (0x20 ≤ c.toNat) && decide (c.toNat ≤ 0x7e)

def isShown (c : Char) : Bool :=
  isAsciiPrintable c || !(unprintable.has c || extendingMarks.has c)

def escapedChar (c : Char) : List Char :=
  match escapeLetter c with
  | some letter => ['\\', letter]
  | none =>
    if isShown c then [c]
    else ['\\', 'u', '\x7b'] ++ Nat.toDigits 16 c.toNat ++ ['\x7d']

def quote (text : String) : String :=
  String.ofList (['"'] ++ text.toList.flatMap escapedChar ++ ['"'])

-- U+0CC0 extends the letter before it, U+3164 is ignored, U+FF9E is a letter.
example : ['\u0cc0', '\u3164', '\uff9e'].map isShown = [false, false, true] := by decide +kernel

example : quote "a'\"\\\n\u00a0\u0301" = "\"a'\\\"\\\\\\n\\u\x7ba0\x7d\\u\x7b301\x7d\"" := by
  decide +kernel

end TokenForest.Text
