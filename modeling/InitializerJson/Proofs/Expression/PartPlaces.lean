import InitializerJson.Proofs.Expression.InnerPlaces
import InitializerJson.Proofs.Expression.Parts
import InitializerJson.Proofs.Number.LiteralImage

namespace InitializerJson

open Lexical

/-!
# Where the parts of an expression come from

Every part of an expression is what the reader of inner expressions answers at
one of the places where it is asked, and every such place lies behind the first
token of the expression or at it.  A number is one that a literal writes, and a
creation is read from its own `new`.
-/

/-- What a reader answers at some places. -/
def Reader.answers
    (inner : Reader Expression)
    (places : List (List Token)) :
    List Expression :=
  places.map fun place => (inner.read place).1

section Answers

variable
  (inner : Reader Expression)
  (tokens : List Token)

/-- Arguments are the answers at their places. -/
theorem readArgumentList_eq_answers :
    (readArgumentList inner tokens).1 = inner.answers (argumentListPlaces inner tokens) := by
  fun_induction argumentListPlaces inner tokens with
  | case1 tokens behind comma hypothesis =>
      simp only [behind] at comma hypothesis
      rw [readArgumentList_step]
      simp only [comma, ↓reduceIte, hypothesis, Reader.answers, List.map_cons, behind]
  | case2 tokens behind comma =>
      simp only [behind] at comma
      rw [readArgumentList_step]
      simp only [comma, ↓reduceIte, Reader.answers, List.map_cons, List.map_nil,
        Bool.false_eq_true]

/-- Arguments in parentheses are the answers at their places. -/
theorem readArguments_eq_answers :
    (readArguments inner tokens).1 = inner.answers (argumentPlaces inner tokens) := by
  unfold readArguments argumentPlaces
  split
  · rfl
  · exact readArgumentList_eq_answers inner tokens

/-- Entries are the answers at their places. -/
theorem readEntries_eq_answers :
    (readEntries inner tokens).1 = inner.answers (entryPlaces inner tokens) := by
  fun_induction entryPlaces inner tokens with
  | case1 tokens ended =>
      rw [readEntries_step]
      rcases Bool.or_eq_true_iff.mp ended with empty | closed
      · rw [if_pos empty]
        rfl
      · have filled : tokens ≠ [] :=
          ne_nil_of_startsWith closed
        rw [if_neg (by simpa using filled), if_pos closed]
        rfl
  | case2 tokens goesOn behind comma hypothesis =>
      rw [Bool.not_eq_true, Bool.or_eq_false_iff] at goesOn
      simp only [behind] at comma hypothesis
      rw [readEntries_step]
      simp only [goesOn, comma, ↓reduceIte, hypothesis, Reader.answers, List.map_cons, behind,
        Bool.false_eq_true]
  | case3 tokens goesOn behind comma =>
      rw [Bool.not_eq_true, Bool.or_eq_false_iff] at goesOn
      simp only [behind] at comma
      rw [readEntries_step]
      simp only [goesOn, comma, ↓reduceIte, Reader.answers, List.map_cons, List.map_nil,
        Bool.false_eq_true]

/-- The entries of a block that may be absent are the answers at their places. -/
theorem readBlock?_eq_answers :
    (readBlock? inner tokens).1.getD [] = inner.answers (blockPlaces inner tokens) := by
  unfold readBlock? blockPlaces
  split
  · exact readEntries_eq_answers inner tokens.tail
  · rfl

/-- Arguments that may be absent are the answers at their places. -/
theorem readOptionalArguments_eq_answers :
    (readOptionalArguments inner tokens).1 =
      inner.answers (optionalArgumentPlaces inner tokens) := by
  unfold readOptionalArguments optionalArgumentPlaces
  split
  · exact readArguments_eq_answers inner tokens.tail
  · rfl

/-- The parts of a creation are the answers at its places. -/
theorem parts_readCreation :
    (readCreation inner tokens).1.parts = inner.answers (creationPlaces inner tokens) := by
  unfold readCreation creationPlaces
  simp only
  split
  · rw [Reader.answers, List.map_append, ← Reader.answers, ← Reader.answers,
      ← readArguments_eq_answers, ← readBlock?_eq_answers]
    rfl
  · split
    · rfl
    · rcases readDeclaredType tokens.tail with ⟨type, rest⟩
      cases type with
      | malformed | array => rfl
      | named type =>
          simp only
          rw [Reader.answers, List.map_append, ← Reader.answers, ← Reader.answers,
            ← readOptionalArguments_eq_answers, ← readBlock?_eq_answers]
          rfl

end Answers

/-- The expressions that a chain holds when it ends in a given way. -/
def ChainEnd.parts : ChainEnd → List Expression
  | call _ arguments => arguments
  | _ => []

/-- The parts of a chain are those of its end. -/
theorem ChainEnd.parts_toExpression
    (start rest : List Token)
    (last : ChainEnd) :
    (last.toExpression start rest).parts = last.parts := by
  cases last <;> rfl

/-- The parts of a chain are answers at its places, or were there before. -/
theorem mem_parts_readChain
    {inner : Reader Expression}
    {start tokens : List Token}
    {last : ChainEnd}
    {part : Expression}
    (isPart : part ∈ (readChain inner start last tokens).1.parts) :
    part ∈ last.parts ∨ part ∈ inner.answers (chainPlaces inner tokens) := by
  fun_induction chainPlaces inner tokens generalizing last with
  | case1 tokens member hypothesis =>
      rw [readChain_step, if_pos member] at isPart
      rcases hypothesis isPart with before | later
      · cases before
      · exact .inr later
  | case2 tokens noMember call hypothesis =>
      rw [readChain_step, if_neg noMember, if_pos call] at isPart
      rw [Reader.answers, List.map_append, ← Reader.answers, ← Reader.answers,
        ← readArguments_eq_answers]
      rcases hypothesis isPart with inCall | later
      · exact .inr (List.mem_append_left _ inCall)
      · exact .inr (List.mem_append_right _ later)
  | case3 tokens noMember noCall access hypothesis =>
      rw [readChain_step, if_neg noMember, if_neg noCall, if_pos access] at isPart
      rcases hypothesis isPart with before | later
      · cases before
      · exact .inr later
  | case4 tokens noMember noCall noAccess =>
      rw [readChain_step, if_neg noMember, if_neg noCall, if_neg noAccess,
        ChainEnd.parts_toExpression] at isPart
      exact .inl isPart

/-- A chain is a name, a call or a text of no known form. -/
inductive IsChain : Expression → Prop where
  | name {text : String} :
      IsChain (.name text)
  | call {callee : String} {arguments : List Expression} :
      IsChain (.invocation callee arguments)
  | access {text : String} :
      IsChain (.unsupported text)

/-- What a chain is read as is a chain. -/
theorem isChain_readChain
    (inner : Reader Expression)
    (start : List Token)
    (last : ChainEnd)
    (tokens : List Token) :
    IsChain (readChain inner start last tokens).1 := by
  fun_induction readChain inner start last tokens with
  | case1 last tokens member hypothesis => exact hypothesis
  | case2 last tokens noMember call arguments behind reading hypothesis => exact hypothesis
  | case3 last tokens noMember noCall access hypothesis => exact hypothesis
  | case4 last tokens noMember noCall noAccess =>
      cases last with
      | member => exact .name
      | call opening arguments => exact .call
      | access => exact .access

/--
The forms of an expression without operators, with the places at which it reads
its parts.
-/
inductive PrimaryForm
    (inner : Reader Expression)
    (tokens : List Token) :
    Expression → List (List Token) → Prop where
  | literal
      {value : Literal} :
      (∀ number, value = .number number → number.IsOfLiteral) →
      PrimaryForm inner tokens (.literal value) []
  | block :
      PrimaryForm inner tokens (.initializer (readEntries inner tokens.tail).1)
        (entryPlaces inner tokens.tail)
  | creation :
      firstWord? tokens = some "new" →
      PrimaryForm inner tokens (readCreation inner tokens).1 (creationPlaces inner tokens)
  | chain :
      PrimaryForm inner tokens (readChain inner tokens .member tokens.tail).1
        (chainPlaces inner tokens.tail)
  | index
      {text : String} :
      PrimaryForm inner tokens (.index text) []
  | unsupported
      {text : String} :
      PrimaryForm inner tokens (.unsupported text) []

/-- One token or group of no known form has no parts. -/
theorem primaryForm_readUnsupported
    (inner : Reader Expression)
    (tokens : List Token) :
    PrimaryForm inner tokens (readUnsupported tokens).1 [] := by
  unfold readUnsupported
  split
  · exact .unsupported
  · split
    · exact .unsupported
    · exact .unsupported

/-- A numeral is a number that it writes, or a text of no known form. -/
theorem primaryForm_numberUpTo
    (inner : Reader Expression)
    (tokens : List Token)
    (text : String)
    (negative : Bool)
    (start rest : List Token) :
    PrimaryForm inner tokens (numberUpTo text negative start rest).1 [] := by
  unfold numberUpTo
  split
  · next number written =>
      refine .literal fun other same => ?_
      cases same
      exact ⟨text, negative, written⟩
  · exact .unsupported

/-- What begins with a minus sign is a number or has no known form. -/
theorem primaryForm_readNegative
    (inner : Reader Expression)
    (tokens : List Token) :
    PrimaryForm inner tokens (readNegative tokens).1 [] := by
  unfold readNegative
  split
  · exact primaryForm_readUnsupported inner tokens
  · split
    · exact primaryForm_numberUpTo inner tokens _ true tokens _
    · exact primaryForm_readUnsupported inner tokens

/-- What begins with a word is a literal, a creation, a chain or has no known form. -/
theorem primaryForm_readWord
    (inner : Reader Expression)
    {word : String}
    {tokens : List Token}
    (first : firstWord? tokens = some word) :
    PrimaryForm inner tokens (readWord inner word tokens).1 (wordPlaces inner word tokens) := by
  have plain :
      word ≠ "new" → beginsChain word = false → wordPlaces inner word tokens = [] := by
    intro notNew noChain
    rw [wordPlaces, if_neg notNew, noChain]
    rfl
  unfold readWord
  split
  · next isNull =>
      subst isNull
      rw [plain (by decide) (by decide)]
      exact .literal (by simp)
  split
  · next isTrue =>
      subst isTrue
      rw [plain (by decide) (by decide)]
      exact .literal (by simp)
  split
  · next isFalse =>
      subst isFalse
      rw [plain (by decide) (by decide)]
      exact .literal (by simp)
  split
  · next isDefault =>
      rw [Bool.and_eq_true, decide_eq_true_eq] at isDefault
      obtain ⟨rfl, _⟩ := isDefault
      rw [plain (by decide) (by decide)]
      exact .literal (by simp)
  split
  · next isNew =>
      rw [wordPlaces, if_pos isNew]
      exact .creation (by rw [first, isNew])
  · next notNew =>
      split
      · next chained =>
          rw [wordPlaces, if_neg notNew, if_pos chained]
          exact .chain
      · next noChain =>
          rw [plain notNew (Bool.eq_false_iff.mpr noChain)]
          exact primaryForm_readUnsupported inner tokens

/-- Every expression without operators has one of the forms, with its places. -/
theorem primaryForm_readPrimary
    (inner : Reader Expression)
    (tokens : List Token) :
    PrimaryForm inner tokens (readPrimary inner tokens).1 (primaryPlaces inner tokens) := by
  unfold readPrimary primaryPlaces
  cases tokens with
  | nil => exact .unsupported
  | cons token rest =>
      rcases token with ⟨kind, gap, lexeme⟩
      cases kind with
      | identifier word => exact primaryForm_readWord inner rfl
      | number text => exact primaryForm_numberUpTo inner _ text false _ rest
      | string | character => exact .literal (by simp)
      | interpolated | unknown => exact primaryForm_readUnsupported inner _
      | punctuator mark =>
          cases mark with
          | minus => exact primaryForm_readNegative inner _
          | openBrace => exact .block
          | openBracket => exact .index
          | _ => exact primaryForm_readUnsupported inner _

/-- The parts of an expression without operators are answers at its places. -/
theorem PrimaryForm.mem_answers
    {inner : Reader Expression}
    {tokens : List Token}
    {expression part : Expression}
    {places : List (List Token)}
    (form : PrimaryForm inner tokens expression places)
    (isPart : part ∈ expression.parts) :
    part ∈ inner.answers places := by
  cases form with
  | literal => cases isPart
  | index => cases isPart
  | unsupported => cases isPart
  | block =>
      rw [← readEntries_eq_answers]
      exact isPart
  | creation =>
      rw [← parts_readCreation]
      exact isPart
  | chain =>
      rcases mem_parts_readChain isPart with before | inCalls
      · cases before
      · exact inCalls

/-- The parts of an expression are answers at its places. -/
theorem mem_parts_readOperation
    {inner : Reader Expression}
    {tokens : List Token}
    {part : Expression}
    (isPart : part ∈ (readOperation inner tokens).1.parts) :
    part ∈ inner.answers (operationPlaces inner tokens) := by
  have form := primaryForm_readPrimary inner tokens
  unfold readOperation at isPart
  rw [operationPlaces, Reader.answers, List.map_append, List.mem_append, ← Reader.answers,
    ← Reader.answers]
  simp only at isPart
  split at isPart
  · next assigns =>
      cases List.mem_singleton.mp isPart
      rw [assignedPlaces, if_pos assigns]
      exact .inr (List.mem_singleton.mpr rfl)
  · split at isPart
    · exact .inl (form.mem_answers isPart)
    · cases isPart

/-- What begins with `new` is a creation or a text of no known form. -/
inductive IsNew : Expression → Prop where
  | creation {type : String} {arguments : List Expression} {block : Option (List Expression)} :
      IsNew (.creation type arguments block)
  | targetTyped {arguments : List Expression} {block : Option (List Expression)} :
      IsNew (.targetTypedCreation arguments block)
  | unsupported {text : String} :
      IsNew (.unsupported text)

/-- What a creation is read as begins with `new`. -/
theorem isNew_readCreation
    (inner : Reader Expression)
    (tokens : List Token) :
    IsNew (readCreation inner tokens).1 := by
  unfold readCreation
  simp only
  split
  · exact .targetTyped
  · split
    · exact .unsupported
    · rcases readDeclaredType tokens.tail with ⟨type, rest⟩
      cases type with
      | named type => exact .creation
      | array | malformed => exact .unsupported

/-- A number without operators is one that a literal writes. -/
theorem PrimaryForm.isOfLiteral
    {inner : Reader Expression}
    {tokens : List Token}
    {number : Number}
    {places : List (List Token)}
    (form : PrimaryForm inner tokens (.literal (.number number)) places) :
    number.IsOfLiteral := by
  generalize shape : Expression.literal (.number number) = expression at form
  cases form with
  | literal written =>
      cases shape
      exact written number rfl
  | block | index | unsupported => cases shape
  | chain =>
      have chain := isChain_readChain inner tokens .member tokens.tail
      rw [← shape] at chain
      cases chain
  | creation =>
      have creation := isNew_readCreation inner tokens
      rw [← shape] at creation
      cases creation

/-- A creation without operators is read from its own `new`. -/
theorem PrimaryForm.readCreation_eq
    {inner : Reader Expression}
    {tokens : List Token}
    {type : String}
    {arguments : List Expression}
    {block : Option (List Expression)}
    {places : List (List Token)}
    (form : PrimaryForm inner tokens (.creation type arguments block) places) :
    firstWord? tokens = some "new" ∧
      (readCreation inner tokens).1 = .creation type arguments block ∧
      places = creationPlaces inner tokens := by
  generalize shape : Expression.creation type arguments block = expression at form
  cases form with
  | creation first => exact ⟨first, rfl, rfl⟩
  | literal | block | index | unsupported => cases shape
  | chain =>
      have chain := isChain_readChain inner tokens .member tokens.tail
      rw [← shape] at chain
      cases chain

/-- A number among the expressions is one that a literal writes. -/
theorem isOfLiteral_of_readOperation
    {inner : Reader Expression}
    {tokens : List Token}
    {number : Number}
    (read : (readOperation inner tokens).1 = .literal (.number number)) :
    number.IsOfLiteral := by
  have form := primaryForm_readPrimary inner tokens
  unfold readOperation at read
  simp only at read
  split at read
  · cases read
  · split at read
    · rw [read] at form
      generalize primaryPlaces inner tokens = places at form
      exact form.isOfLiteral
    · cases read

/-- A creation among the expressions is read from its own `new`, where the expression begins. -/
theorem readCreation_eq_of_readOperation
    {inner : Reader Expression}
    {tokens : List Token}
    {type : String}
    {arguments : List Expression}
    {block : Option (List Expression)}
    (read : (readOperation inner tokens).1 = .creation type arguments block) :
    firstWord? tokens = some "new" ∧
      (readCreation inner tokens).1 = .creation type arguments block ∧
      ∀ place ∈ creationPlaces inner tokens, place ∈ operationPlaces inner tokens := by
  have form := primaryForm_readPrimary inner tokens
  unfold readOperation at read
  simp only at read
  split at read
  · cases read
  · split at read
    · rw [read] at form
      obtain ⟨first, created, places⟩ := form.readCreation_eq
      refine ⟨first, created, fun place member => ?_⟩
      rw [operationPlaces, places]
      exact List.mem_append_left _ member
    · cases read

end InitializerJson
