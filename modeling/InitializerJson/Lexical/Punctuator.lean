import InitializerJson.Remainder

namespace InitializerJson.Lexical

/-!
# Punctuators

The operators and brackets of the language.  A text begins with the longest
punctuator that fits; `Punctuator.all` lists them so that the first one that
fits is the longest.  Two closing angle brackets are always two punctuators, so
that nested type arguments close one at a time.
-/

/-- An operator or bracket. -/
inductive Punctuator where
  | shiftLeftAssign
  | coalesceAssign
  | equal
  | notEqual
  | lessOrEqual
  | greaterOrEqual
  | arrow
  | conditionalAnd
  | conditionalOr
  | coalesce
  | conditionalDot
  | scope
  | pointerArrow
  | increment
  | decrement
  | addAssign
  | subtractAssign
  | multiplyAssign
  | divideAssign
  | remainderAssign
  | andAssign
  | orAssign
  | xorAssign
  | shiftLeft
  | range
  | openBrace
  | closeBrace
  | openParenthesis
  | closeParenthesis
  | openBracket
  | closeBracket
  | semicolon
  | comma
  | dot
  | colon
  | question
  | assign
  | less
  | greater
  | plus
  | minus
  | star
  | slash
  | percent
  | ampersand
  | bar
  | caret
  | exclamation
  | tilde
  deriving Repr, DecidableEq

namespace Punctuator

/-- The characters of a punctuator. -/
def spelling : Punctuator → List Char
  | shiftLeftAssign => ['<', '<', '=']
  | coalesceAssign => ['?', '?', '=']
  | equal => ['=', '=']
  | notEqual => ['!', '=']
  | lessOrEqual => ['<', '=']
  | greaterOrEqual => ['>', '=']
  | arrow => ['=', '>']
  | conditionalAnd => ['&', '&']
  | conditionalOr => ['|', '|']
  | coalesce => ['?', '?']
  | conditionalDot => ['?', '.']
  | scope => [':', ':']
  | pointerArrow => ['-', '>']
  | increment => ['+', '+']
  | decrement => ['-', '-']
  | addAssign => ['+', '=']
  | subtractAssign => ['-', '=']
  | multiplyAssign => ['*', '=']
  | divideAssign => ['/', '=']
  | remainderAssign => ['%', '=']
  | andAssign => ['&', '=']
  | orAssign => ['|', '=']
  | xorAssign => ['^', '=']
  | shiftLeft => ['<', '<']
  | range => ['.', '.']
  | openBrace => ['{']
  | closeBrace => ['}']
  | openParenthesis => ['(']
  | closeParenthesis => [')']
  | openBracket => ['[']
  | closeBracket => [']']
  | semicolon => [';']
  | comma => [',']
  | dot => ['.']
  | colon => [':']
  | question => ['?']
  | assign => ['=']
  | less => ['<']
  | greater => ['>']
  | plus => ['+']
  | minus => ['-']
  | star => ['*']
  | slash => ['/']
  | percent => ['%']
  | ampersand => ['&']
  | bar => ['|']
  | caret => ['^']
  | exclamation => ['!']
  | tilde => ['~']

/-- Every punctuator, longer spellings first. -/
def all : List Punctuator :=
  [
    shiftLeftAssign, coalesceAssign, equal, notEqual, lessOrEqual,
    greaterOrEqual, arrow, conditionalAnd, conditionalOr, coalesce,
    conditionalDot, scope, pointerArrow, increment, decrement, addAssign,
    subtractAssign, multiplyAssign, divideAssign, remainderAssign, andAssign,
    orAssign, xorAssign, shiftLeft, range, openBrace, closeBrace,
    openParenthesis, closeParenthesis, openBracket, closeBracket, semicolon,
    comma, dot, colon, question, assign, less, greater, plus, minus, star,
    slash, percent, ampersand, bar, caret, exclamation, tilde
  ]

/-- The punctuator that a text begins with, and the text after it. -/
def read?
    (text : List Char) :
    Option (Punctuator × List Char) :=
  all.findSome? fun punctuator =>
    (afterMark? punctuator.spelling text).map fun rest => (punctuator, rest)

/-- The brackets that open a group. -/
def isOpener : Punctuator → Bool
  | openParenthesis => true
  | openBracket => true
  | openBrace => true
  | _ => false

/-- The brackets that close a group. -/
def isCloser : Punctuator → Bool
  | closeParenthesis => true
  | closeBracket => true
  | closeBrace => true
  | _ => false

/-- The marks that end an expression. -/
def isDelimiter : Punctuator → Bool
  | comma => true
  | semicolon => true
  | punctuator => punctuator.isCloser

/-- The list of punctuators holds every one. -/
theorem mem_all
    (punctuator : Punctuator) :
    punctuator ∈ all := by
  cases punctuator <;> decide

/-- What was read and what was left spell the text. -/
theorem read?_eq_append
    {text : List Char}
    {read : Punctuator × List Char}
    (found : read? text = some read) :
    text = read.1.spelling ++ read.2 := by
  obtain ⟨punctuator, _, matched⟩ := List.exists_of_findSome?_eq_some found
  obtain ⟨rest, marked, rfl⟩ := Option.map_eq_some_iff.mp matched
  exact afterMark?_eq_some_iff.mp marked

/-- Every punctuator has one character at least. -/
theorem spelling_ne_nil
    (punctuator : Punctuator) :
    punctuator.spelling ≠ [] := by
  cases punctuator <;> simp [spelling]

/-- A punctuator leaves a proper suffix. -/
theorem read?_properSuffix
    {text : List Char}
    {read : Punctuator × List Char}
    (found : read? text = some read) :
    ProperSuffix read.2 text := by
  have shape := read?_eq_append found
  obtain ⟨first, others, spelled⟩ := List.exists_cons_of_ne_nil (spelling_ne_nil read.1)
  rw [shape, spelled]
  exact ProperSuffix.cons_of_suffix (List.suffix_append others read.2)

end Punctuator

end InitializerJson.Lexical
