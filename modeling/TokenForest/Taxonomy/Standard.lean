import TokenForest.Taxonomy.Basic

set_option autoImplicit false

namespace TokenForest.Taxonomy

def standardEntries : List (String × Kind) :=
  [("Token.Keyword.Constant", .keyword .constant), ("Token.Keyword.Declaration", .keyword .declaration),
    ("Token.Keyword.Namespace", .keyword .namespaceWord), ("Token.Keyword.Pseudo", .keyword .pseudo),
    ("Token.Keyword.Reserved", .keyword .reserved), ("Token.Keyword.Type", .keyword .typeWord),
    ("Token.Keyword._", .keyword .unflavoured),
    ("Token.Comment.Hashbang", .comment .hashbang), ("Token.Comment.Multiline", .comment .multiline),
    ("Token.Comment.Preproc", .comment .preprocessor), ("Token.Comment.Single", .comment .single),
    ("Token.Comment.Special", .comment .special), ("Token.Comment._", .comment .unflavoured),
    ("Token.Name.Attribute", .name .attributeName), ("Token.Name.Builtin", .name .builtin),
    ("Token.Name.Class", .name .className), ("Token.Name.Constant", .name .constant),
    ("Token.Name.Decorator", .name .decorator), ("Token.Name.Exception", .name .exception),
    ("Token.Name.Function", .name .functionName), ("Token.Name.Label", .name .label),
    ("Token.Name.Namespace", .name .namespaceName), ("Token.Name.Property", .name .property),
    ("Token.Name.Tag", .name .tag), ("Token.Name.Variable", .name .variableName),
    ("Token.Name._", .name .unflavoured),
    ("Token.Literal.Number.Integer", .literal (.number .integer)),
    ("Token.Literal.Number.Float", .literal (.number .float)),
    ("Token.Literal.Number.Hex", .literal (.number .hex)), ("Token.Literal.Number.Bin", .literal (.number .bin)),
    ("Token.Literal.Number.Oct", .literal (.number .oct)),
    ("Token.Literal.Number._", .literal (.number .unflavoured)), ("Token.Literal.String", .literal .string),
    ("Token.Literal._", .literal .unflavoured),
    ("Token.Text.Whitespace", .text .whitespace), ("Token.Text._", .text .unflavoured),
    ("Token.Punctuation.Marker", .punctuation .marker), ("Token.Punctuation._", .punctuation .unflavoured),
    ("Token.Operator.Word", .operator .word), ("Token.Operator._", .operator .unflavoured)]

theorem standardEntries_consistent : (ofEntries standardEntries).isOk = true := by
  decide +kernel

def valueOf {ε α : Type} : (result : Except ε α) → result.isOk = true → α
  | .ok value, _ => value
  | .error _, ok => nomatch ok

theorem eq_ok_valueOf {ε α : Type} (result : Except ε α) (ok : result.isOk = true) :
    result = .ok (valueOf result ok) := by
  cases result with
  | ok value => rfl
  | error error => cases ok

def standard : Taxonomy :=
  valueOf (ofEntries standardEntries) standardEntries_consistent

theorem ofEntries_standardEntries : ofEntries standardEntries = .ok standard :=
  eq_ok_valueOf _ _

end TokenForest.Taxonomy
