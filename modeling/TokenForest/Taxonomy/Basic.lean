import TokenForest.Taxonomy.Trie

set_option autoImplicit false

namespace TokenForest

structure Taxonomy where
  trie : Taxonomy.Trie Kind
  complete : trie.bare = []
deriving DecidableEq

namespace Taxonomy

def entrySegments (path : String) : Except Defect (String × List String) :=
  match segments path with
  | [] => .error .missingRoot
  | first :: below =>
    if first ≠ Kind.root then .error .missingRoot
    else if "" ∈ below then .error .emptySegment
    else
      match below with
      | [] => .error .leafBranchConflict
      | segment :: rest =>
        if fallbackKey ∈ below.dropLast then .error .fallbackNotTerminal else .ok (segment, rest)

def addEntry (trie : Trie Kind) (entry : String × Kind) : Except Error (Trie Kind) :=
  let inserted := do
    let (segment, rest) ← entrySegments entry.1
    trie.insert entry.2 segment rest
  inserted.mapError (⟨·, entry.1⟩)

def ofEntries (entries : List (String × Kind)) : Except Error Taxonomy := do
  let trie ← entries.foldlM addEntry Trie.empty
  match found : trie.firstBare true with
  | none => .ok ⟨trie, Trie.bare_of_firstBare found⟩
  | some branch => .error ⟨.missingFallback, joined (Kind.root :: branch)⟩

def resolve (taxonomy : Taxonomy) (path : String) : Except ResolveError Kind :=
  match segments path with
  | [] => .error (.malformed path)
  | first :: below =>
    if first = Kind.root then (taxonomy.trie.find below).mapError (.unresolved path)
    else .error (.malformed path)

def entries (taxonomy : Taxonomy) : List (String × Kind) :=
  (taxonomy.trie.entries.map fun entry => (joined (Kind.root :: entry.1), entry.2)).mergeSort
    fun a b => a.1 ≤ b.1

def size (taxonomy : Taxonomy) : Nat :=
  taxonomy.trie.entries.length

def render (taxonomy : Taxonomy) : String :=
  let entries := taxonomy.entries
  let width := (entries.map (·.1.utf8ByteSize)).foldl max 0
  String.join <| entries.map fun (path, kind) =>
    path ++ String.ofList (List.replicate (width - path.length) ' ') ++ "  " ++ kind.dotted ++ "\n"

end Taxonomy

end TokenForest
