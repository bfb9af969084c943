import InitializerJson.Expression.Reader
import InitializerJson.Proofs.Lexical.TextLexeme
import InitializerJson.Proofs.Number.LiteralImage

namespace InitializerJson

open Lexical

/-!
# Printing expressions

How an expression is written as source text, and which expressions are what
their text is read as.  These are built from literals that some source writes,
from names that begin with an unreserved word, and from creations of types that
may be qualified and generic.
-/

/-- Texts with a comma and a space between them. -/
def commaSeparated
    (texts : List (List Char)) :
    List Char :=
  [',', ' '].intercalate texts

/-- A comma and a space stand between the first of some texts and the others. -/
theorem commaSeparated_cons_cons
    (first second : List Char)
    (others : List (List Char)) :
    commaSeparated (first :: second :: others) =
      first ++ ',' :: ' ' :: commaSeparated (second :: others) := by
  simp [commaSeparated]

/-- Arguments in their parentheses. -/
def inParentheses
    (texts : List (List Char)) :
    List Char :=
  '(' :: (commaSeparated texts ++ [')'])

/-- Entries in the braces of a block. -/
def inBraces
    (texts : List (List Char)) :
    List Char :=
  '{' :: ' ' :: (commaSeparated texts ++ [' ', '}'])

/-- A literal as source text. -/
def Literal.print : Literal → List Char
  | null => ['n', 'u', 'l', 'l']
  | bool true => ['t', 'r', 'u', 'e']
  | bool false => ['f', 'a', 'l', 's', 'e']
  | number value => value.text.toList
  | string value => regularLiteral value.toList
  | verbatim text => text.toList

namespace Expression

/-- The arguments of a creation, which are left out before a block when there are none. -/
def printArguments
    (beforeBlock : Bool)
    (texts : List (List Char)) :
    List Char :=
  if beforeBlock && texts.isEmpty then
    []
  else
    inParentheses texts

mutual

/-- An expression as source text. -/
def print : Expression → List Char
  | literal value => value.print
  | invocation callee arguments => callee.toList ++ inParentheses (printAll arguments)
  | creation type arguments block =>
      ['n', 'e', 'w', ' '] ++
        (type.toList ++
          (printArguments block.isSome (printAll arguments) ++ printBlock block))
  | targetTypedCreation arguments block =>
      ['n', 'e', 'w'] ++ (inParentheses (printAll arguments) ++ printBlock block)
  | assignment target _ value => target.toList ++ ([' ', '=', ' '] ++ print value)
  | initializer entries => inBraces (printAll entries)
  | name text => text.toList
  | index text => text.toList
  | unsupported text => text.toList

/-- Some expressions as source texts. -/
def printAll : List Expression → List (List Char)
  | [] => []
  | expression :: rest => print expression :: printAll rest

/-- The block behind a creation, if it has one. -/
def printBlock : Option (List Expression) → List Char
  | none => []
  | some entries => ' ' :: inBraces (printAll entries)

end

mutual

/-- The number of layers that an expression opens, itself included. -/
def layers : Expression → Nat
  | invocation _ arguments => layersOfAll arguments + 1
  | creation _ arguments block =>
      max (layersOfAll arguments) (layersOfBlock block) + 1
  | targetTypedCreation arguments block =>
      max (layersOfAll arguments) (layersOfBlock block) + 1
  | assignment _ _ value => layers value + 1
  | initializer entries => layersOfAll entries + 1
  | _ => 1

/-- The greatest number of layers that one of some expressions opens. -/
def layersOfAll : List Expression → Nat
  | [] => 0
  | expression :: rest => max (layers expression) (layersOfAll rest)

/-- The greatest number of layers that one of the entries of a block opens. -/
def layersOfBlock : Option (List Expression) → Nat
  | none => 0
  | some entries => layersOfAll entries

end

end Expression

/-- Words with dots between them, of which the first is not reserved; a bare one is one word. -/
inductive ChainText : (bare : Bool) → List Char → Prop where
  | word
      {word : List Char} :
      IsWord word →
      isReserved (String.ofList word) = false →
      ChainText true word
  | member
      {bare : Bool}
      {chain word : List Char} :
      ChainText bare chain →
      IsWord word →
      ChainText false (chain ++ '.' :: word)

/-- Where a type stands: by itself, or among the arguments of another one. -/
inductive TypePlace where
  | alone
  | argument

/-- A type as written. -/
inductive TypeText : TypePlace → List Char → Prop where
  | word
      {word : List Char} :
      IsWord word →
      TypeText .alone word
  | member
      {qualifier word : List Char} :
      TypeText .alone qualifier →
      IsWord word →
      TypeText .alone (qualifier ++ '.' :: word)
  | qualified
      {qualifier word : List Char} :
      TypeText .alone qualifier →
      IsWord word →
      TypeText .alone (qualifier ++ ':' :: ':' :: word)
  | generic
      {type : List Char}
      {arguments : List (List Char)} :
      TypeText .alone type →
      arguments ≠ [] →
      (∀ argument ∈ arguments, TypeText .argument argument) →
      TypeText .alone (type ++ '<' :: (commaSeparated arguments ++ ['>']))
  | argument
      {type : List Char} :
      TypeText .alone type →
      TypeText .argument type
  | nullable
      {type : List Char} :
      TypeText .alone type →
      TypeText .argument (type ++ ['?'])
  | array
      {type : List Char} :
      TypeText .argument type →
      TypeText .argument (type ++ ['[', ']'])
  | tuple
      {parts : List (List Char)} :
      parts ≠ [] →
      (∀ part ∈ parts, TypeText .argument part) →
      TypeText .argument (inParentheses parts)

/-- The literals that some source writes. -/
inductive Literal.IsCanonical : Literal → Prop where
  | null :
      IsCanonical .null
  | bool
      (value : Bool) :
      IsCanonical (.bool value)
  | number
      {value : Number} :
      value.IsOfLiteral →
      IsCanonical (.number value)
  | string
      (value : String) :
      IsCanonical (.string value)
  | default :
      IsCanonical (.verbatim "default")
  | character
      {text : String} :
      IsCharacterLiteral text.toList →
      IsCanonical (.verbatim text)

/-- The expressions that are read from the text they are printed as. -/
inductive Expression.Canonical : Expression → Prop where
  | literal
      {value : Literal} :
      value.IsCanonical →
      Canonical (.literal value)
  | name
      {bare : Bool}
      {text : String} :
      ChainText bare text.toList →
      Canonical (.name text)
  | invocation
      {bare : Bool}
      {callee : String}
      {arguments : List Expression} :
      ChainText bare callee.toList →
      (∀ argument ∈ arguments, Canonical argument) →
      Canonical (.invocation callee arguments)
  | creation
      {type : String}
      {arguments : List Expression}
      {initializer : Option (List Expression)} :
      TypeText .alone type.toList →
      (∀ argument ∈ arguments, Canonical argument) →
      (∀ entries, initializer = some entries → ∀ entry ∈ entries, Canonical entry) →
      Canonical (.creation type arguments initializer)
  | targetTypedCreation
      {arguments : List Expression}
      {initializer : Option (List Expression)} :
      (∀ argument ∈ arguments, Canonical argument) →
      (∀ entries, initializer = some entries → ∀ entry ∈ entries, Canonical entry) →
      Canonical (.targetTypedCreation arguments initializer)
  | initializer
      {entries : List Expression} :
      (∀ entry ∈ entries, Canonical entry) →
      Canonical (.initializer entries)
  | assignment
      {bare : Bool}
      {target : String}
      {value : Expression} :
      ChainText bare target.toList →
      Canonical value →
      Canonical (.assignment target bare value)
  | indexAssignment
      {literal : Literal}
      {target : String}
      {value : Expression} :
      literal.IsCanonical →
      target.toList = '[' :: (literal.print ++ [']']) →
      Canonical value →
      Canonical (.assignment target false value)

namespace Expression

/-- Expressions are printed one by one. -/
theorem printAll_eq_map
    (expressions : List Expression) :
    printAll expressions = expressions.map print := by
  induction expressions with
  | nil => rfl
  | cons expression rest hypothesis => rw [printAll, hypothesis, List.map_cons]

/-- Every expression opens a layer. -/
theorem layers_pos
    (expression : Expression) :
    0 < expression.layers := by
  cases expression <;> simp [layers]

end Expression

end InitializerJson
