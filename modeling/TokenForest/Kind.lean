set_option autoImplicit false

namespace TokenForest

inductive KeywordType
  | constant | declaration | namespaceWord | pseudo | reserved | typeWord | unflavoured
deriving DecidableEq

inductive CommentType
  | hashbang | multiline | preprocessor | single | special | unflavoured
deriving DecidableEq

inductive NameType
  | attributeName | builtin | className | constant | decorator | exception | functionName | label
  | namespaceName | property | tag | variableName | unflavoured
deriving DecidableEq

inductive NumberType
  | integer | float | hex | bin | oct | unflavoured
deriving DecidableEq

inductive LiteralType
  | number (type : NumberType)
  | string
  | unflavoured
deriving DecidableEq

inductive TextType
  | whitespace | unflavoured
deriving DecidableEq

inductive PunctuationType
  | marker | unflavoured
deriving DecidableEq

inductive OperatorType
  | word | unflavoured
deriving DecidableEq

inductive Flavour
  | keyword | comment | name | literal | text | punctuation | operator
deriving DecidableEq

inductive Kind
  | keyword (type : KeywordType)
  | comment (type : CommentType)
  | name (type : NameType)
  | literal (type : LiteralType)
  | text (type : TextType)
  | punctuation (type : PunctuationType)
  | operator (type : OperatorType)
deriving DecidableEq

def KeywordType.segments : KeywordType → List String
  | .constant => ["Constant"]
  | .declaration => ["Declaration"]
  | .namespaceWord => ["Namespace"]
  | .pseudo => ["Pseudo"]
  | .reserved => ["Reserved"]
  | .typeWord => ["Type"]
  | .unflavoured => []

def CommentType.segments : CommentType → List String
  | .hashbang => ["Hashbang"]
  | .multiline => ["Multiline"]
  | .preprocessor => ["Preproc"]
  | .single => ["Single"]
  | .special => ["Special"]
  | .unflavoured => []

def NameType.segments : NameType → List String
  | .attributeName => ["Attribute"]
  | .builtin => ["Builtin"]
  | .className => ["Class"]
  | .constant => ["Constant"]
  | .decorator => ["Decorator"]
  | .exception => ["Exception"]
  | .functionName => ["Function"]
  | .label => ["Label"]
  | .namespaceName => ["Namespace"]
  | .property => ["Property"]
  | .tag => ["Tag"]
  | .variableName => ["Variable"]
  | .unflavoured => []

def NumberType.segments : NumberType → List String
  | .integer => ["Integer"]
  | .float => ["Float"]
  | .hex => ["Hex"]
  | .bin => ["Bin"]
  | .oct => ["Oct"]
  | .unflavoured => []

def LiteralType.segments : LiteralType → List String
  | .number type => "Number" :: type.segments
  | .string => ["String"]
  | .unflavoured => []

def TextType.segments : TextType → List String
  | .whitespace => ["Whitespace"]
  | .unflavoured => []

def PunctuationType.segments : PunctuationType → List String
  | .marker => ["Marker"]
  | .unflavoured => []

def OperatorType.segments : OperatorType → List String
  | .word => ["Word"]
  | .unflavoured => []

def Flavour.segment : Flavour → String
  | .keyword => "Keyword"
  | .comment => "Comment"
  | .name => "Name"
  | .literal => "Literal"
  | .text => "Text"
  | .punctuation => "Punctuation"
  | .operator => "Operator"

def Flavour.all : List Flavour :=
  [.keyword, .comment, .name, .literal, .text, .punctuation, .operator]

theorem Flavour.mem_all (flavour : Flavour) : flavour ∈ Flavour.all := by
  cases flavour <;> decide

namespace Kind

def root : String := "Token"

def flavour : Kind → Flavour
  | .keyword _ => .keyword
  | .comment _ => .comment
  | .name _ => .name
  | .literal _ => .literal
  | .text _ => .text
  | .punctuation _ => .punctuation
  | .operator _ => .operator

def typeSegments : Kind → List String
  | .keyword type => type.segments
  | .comment type => type.segments
  | .name type => type.segments
  | .literal type => type.segments
  | .text type => type.segments
  | .punctuation type => type.segments
  | .operator type => type.segments

def segments (kind : Kind) : List String :=
  kind.flavour.segment :: kind.typeSegments

def flavourType (kind : Kind) : Option String :=
  kind.typeSegments.head?

def isUnflavoured : Kind → Bool
  | .keyword .unflavoured | .comment .unflavoured | .name .unflavoured | .literal .unflavoured
  | .literal (.number .unflavoured) | .text .unflavoured | .punctuation .unflavoured
  | .operator .unflavoured => true
  | _ => false

def isTrivia : Kind → Bool
  | .text _ | .comment _ => true
  | _ => false

theorem isTrivia_iff (kind : Kind) :
    kind.isTrivia = true ↔ kind.flavour = .text ∨ kind.flavour = .comment := by
  cases kind <;> simp [isTrivia, flavour]

def dotted (kind : Kind) : String :=
  String.intercalate "." kind.segments

def typePath (kind : Kind) : String :=
  String.intercalate "." (root :: kind.segments)

def nested (kind : Kind) : String :=
  let names := kind.segments ++ if kind.isUnflavoured then ["Unflavoured"] else []
  String.intercalate "(" names ++ String.join (List.replicate (names.length - 1) ")")

def all : List Kind :=
  [.keyword .constant, .keyword .declaration, .keyword .namespaceWord, .keyword .pseudo, .keyword .reserved,
    .keyword .typeWord, .keyword .unflavoured,
    .comment .hashbang, .comment .multiline, .comment .preprocessor, .comment .single, .comment .special,
    .comment .unflavoured,
    .name .attributeName, .name .builtin, .name .className, .name .constant, .name .decorator, .name .exception,
    .name .functionName, .name .label, .name .namespaceName, .name .property, .name .tag, .name .variableName,
    .name .unflavoured,
    .literal (.number .integer), .literal (.number .float), .literal (.number .hex), .literal (.number .bin),
    .literal (.number .oct), .literal (.number .unflavoured), .literal .string, .literal .unflavoured,
    .text .whitespace, .text .unflavoured,
    .punctuation .marker, .punctuation .unflavoured,
    .operator .word, .operator .unflavoured]

theorem mem_all (kind : Kind) : kind ∈ all := by
  rcases kind with type | type | type | (type | _ | _) | type | type | type <;>
    (try cases type) <;> decide

theorem nodup_all : all.Nodup := by
  decide

def rank (kind : Kind) : Nat :=
  all.idxOf kind

instance : LE Kind := ⟨fun a b => a.rank ≤ b.rank⟩

instance (a b : Kind) : Decidable (a ≤ b) :=
  inferInstanceAs (Decidable (a.rank ≤ b.rank))

def ofDotted? (text : String) : Option Kind :=
  all.find? (·.dotted == text)

example : (Kind.literal (.number .hex)).dotted = "Literal.Number.Hex" := by decide
example : (Kind.literal (.number .unflavoured)).nested = "Literal(Number(Unflavoured))" := by decide
example : all.length = 40 := by decide

end Kind

end TokenForest
