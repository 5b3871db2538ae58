import TokenForest.Kind

set_option autoImplicit false

namespace TokenForest.Taxonomy

def fallbackKey : String := "_"

def segments (path : String) : List String :=
  (path.toList.splitOn '.').map String.ofList

def joined (segments : List String) : String :=
  String.intercalate "." segments

theorem segments_ne_nil (path : String) : segments path ≠ [] := by
  simp [segments]

example : segments "Token..A." = ["Token", "", "A", ""] := by decide

end TokenForest.Taxonomy
