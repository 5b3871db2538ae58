import TokenForest.Text.Blank

set_option autoImplicit false

namespace TokenForest

structure Settings where
  structured : Bool := false
  recover : Bool := false
  keepTrivia : Bool := true
  parallel : Bool := true
deriving DecidableEq

namespace Settings

-- Letters outside ASCII keep their case.
def flagWord (text : String) : String :=
  String.ofList ((Text.trim text.toList).map Char.toLower)

def parseFlag (text : String) : Option Bool :=
  let word := flagWord text
  if word ∈ ["1", "true", "yes", "on"] then some true
  else if word ∈ ["0", "false", "no", "off"] then some false
  else none

def flag (lookup : String → Option String) (name : String) (default : Bool) : Bool :=
  ((lookup name).bind parseFlag).getD default

def variableNames : List String :=
  ["QRP_STRUCTURE", "QRP_RECOVER", "QRP_KEEP_TRIVIA", "QRP_PARALLEL"]

def ofLookup (lookup : String → Option String) : Settings where
  structured := flag lookup "QRP_STRUCTURE" false
  recover := flag lookup "QRP_RECOVER" false
  keepTrivia := flag lookup "QRP_KEEP_TRIVIA" true
  parallel := flag lookup "QRP_PARALLEL" true

example : parseFlag " Yes\n" = some true := by decide +kernel

end Settings

end TokenForest
