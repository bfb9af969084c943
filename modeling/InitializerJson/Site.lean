import InitializerJson.Expression.Reader

namespace InitializerJson

/-!
# Sites of assignments and creations

Assignments and object creations are found by looking at every site between
the tokens of a source: at the tokens before it, nearest first, and those behind
it.  Only from the sites that qualify is an expression read.
-/

open Lexical

/-- A place between tokens. -/
structure Site where
  /-- The tokens before the site, the nearest one first. -/
  before : List Token
  /-- The tokens behind the site, the nearest one first. -/
  behind : List Token

namespace Site

/-- The sites before each of some tokens, behind the tokens already passed. -/
def allFrom
    (before : List Token) :
    List Token → List Site
  | [] => []
  | token :: rest => ⟨before, token :: rest⟩ :: allFrom (token :: before) rest

/-- The sites before each token, in order. -/
def all
    (tokens : List Token) :
    List Site :=
  allFrom [] tokens

/--
The innermost bracket that is open behind some tokens, nearest first, with the
tokens before it; `depth` groups have been entered from behind.
-/
def enclosingOpener? : Nat → List Token → Option (Token × List Token)
  | _, [] => none
  | depth, token :: before =>
      if token.isCloser then
        enclosingOpener? (depth + 1) before
      else if token.isOpener then
        match depth with
        | 0 => some (token, before)
        | depth + 1 => enclosingOpener? depth before
      else
        enclosingOpener? depth before

/--
Whether a bracket opens a list of attributes: a square one at the front of the
source, or behind a statement, a block or another list.
-/
def opensAttributes
    (opener : Token)
    (before : List Token) :
    Bool :=
  startsWith .openBracket [opener] &&
    match before with
    | [] => true
    | previous :: _ =>
        previous.punctuator?.any fun punctuator =>
          [Punctuator.semicolon, .openBrace, .closeBrace, .closeBracket].contains punctuator

/--
Whether a name here declares a member of an anonymous object or names an
argument of an attribute.
-/
def declaresMember
    (before : List Token) :
    Bool :=
  match enclosingOpener? 0 before with
  | none => false
  | some (opener, outer) =>
      if startsWith .openBrace [opener] then
        firstWord? outer == some "new"
      else
        startsWith .openParenthesis [opener] &&
          (enclosingOpener? 0 outer).any fun enclosing =>
            opensAttributes enclosing.1 enclosing.2

/--
The punctuators behind which a name belongs to a longer name, or is declared
with the type before it.
-/
def bindsName : Punctuator → Bool
  | .dot => true
  | .conditionalDot => true
  | .scope => true
  | .pointerArrow => true
  | .greater => true
  | .closeBracket => true
  | .question => true
  | .star => true
  | _ => false

/-- Whether a name behind some tokens stands by itself. -/
def separatesName : List Token → Bool
  | [] => true
  | previous :: _ =>
      match previous.kind with
      | .identifier word => expressionLeaders.contains word
      | .punctuator punctuator => !bindsName punctuator
      | _ => true

/-- The word right behind the site. -/
def word?
    (site : Site) :
    Option String :=
  firstWord? site.behind

/-- Whether an assignment to a bare identifier begins here. -/
def beginsAssignment
    (site : Site) :
    Bool :=
  site.word?.any (fun word => !isReserved word)
    && startsWith .assign site.behind.tail
    && separatesName site.before
    && !declaresMember site.before

/-- The assignment to the word here, its value read from behind the sign. -/
def assignment
    (site : Site) :
    Assignment where
  target :=
    site.word?.getD ""
  value :=
    (readExpression site.behind.tail.tail).1

/-- The creation that begins here and names its type, if one does. -/
def creation?
    (site : Site) :
    Option Creation :=
  Creation.ofExpression? (readCreation (expressionReader nestingLimit) site.behind).1

/-- The type that a creation here names, if it is the type of an object. -/
def declaredType?
    (site : Site) :
    Option String :=
  match (readDeclaredType site.behind.tail).1 with
  | .named text => some text
  | _ => none

/-- The sites at which a creation begins. -/
def creationSites
    (tokens : List Token) :
    List Site :=
  (all tokens).filter fun site => site.word? == some "new"

end Site

/-- The assignments to bare identifiers, in the order of the source. -/
def assignments
    (tokens : List Token) :
    List Assignment :=
  ((Site.all tokens).filter Site.beginsAssignment).map Site.assignment

/-- The first assignment to a bare identifier of a given name. -/
def findAssignment?
    (tokens : List Token)
    (name : String) :
    Option Assignment :=
  (((Site.all tokens).filter fun site => site.word? == some name).find?
    Site.beginsAssignment).map Site.assignment

/-- The creations that name their type, outer ones before inner ones. -/
def creations
    (tokens : List Token) :
    List Creation :=
  (Site.creationSites tokens).filterMap Site.creation?

/-- The first creation whose type reads exactly as given. -/
def findCreation?
    (tokens : List Token)
    (type : String) :
    Option Creation :=
  ((Site.creationSites tokens).filter fun site =>
    site.declaredType? == some type).findSome? Site.creation?

end InitializerJson
