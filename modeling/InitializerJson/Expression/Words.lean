namespace InitializerJson

/-!
# Words with a meaning of their own

Reserved words cannot name anything.  Some of them may still begin a chain of
members, and some may stand right before an expression.
-/

/-- The words that never name anything. -/
def reservedWords : List String :=
  [
    "abstract", "as", "base", "bool", "break", "byte", "case", "catch", "char",
    "checked", "class", "const", "continue", "decimal", "default", "delegate",
    "do", "double", "else", "enum", "event", "explicit", "extern", "false",
    "finally", "fixed", "float", "for", "foreach", "goto", "if", "implicit",
    "in", "int", "interface", "internal", "is", "lock", "long", "namespace",
    "new", "null", "object", "operator", "out", "override", "params",
    "private", "protected", "public", "readonly", "ref", "return", "sbyte",
    "sealed", "short", "sizeof", "stackalloc", "static", "string", "struct",
    "switch", "this", "throw", "true", "try", "typeof", "uint", "ulong",
    "unchecked", "unsafe", "ushort", "using", "virtual", "void", "volatile",
    "while"
  ]

/-- The reserved words that may begin a chain of members. -/
def chainHeads : List String :=
  [
    "bool", "byte", "char", "decimal", "double", "float", "int", "long",
    "object", "sbyte", "short", "string", "uint", "ulong", "ushort", "this",
    "base"
  ]

/-- The words behind which an identifier begins an expression. -/
def expressionLeaders : List String :=
  ["return", "else", "do", "in", "throw", "case"]

/-- Whether a word is reserved. -/
def isReserved
    (word : String) :
    Bool :=
  reservedWords.contains word

/-- Whether a word may begin a chain of members. -/
def beginsChain
    (word : String) :
    Bool :=
  chainHeads.contains word || !isReserved word

end InitializerJson
