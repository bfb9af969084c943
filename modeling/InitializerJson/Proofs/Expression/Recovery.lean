import InitializerJson.Proofs.Expression.AngleBrackets
import InitializerJson.Proofs.Expression.StoredTexts
import InitializerJson.Proofs.Lexical.TokenSlices

namespace InitializerJson

open Lexical

/-!
# Reading recovers at the next delimiter

Whatever the tokens are, an expression is read up to a delimiter or the end, and
takes a token at least unless it began there.  Therefore lists of arguments and
entries end on malformed tokens too.
-/

/-- Passing over tokens ends before a delimiter or with the tokens. -/
theorem atExpressionEnd_fromDelimiter
    (depth : Nat)
    (tokens : List Token) :
    atExpressionEnd (fromDelimiter depth tokens) = true := by
  fun_induction fromDelimiter depth tokens with
  | case1 => rfl
  | case2 token rest delimiter => exact delimiter
  | case3 token rest _ _ hypothesis => exact hypothesis
  | case4 token rest _ _ hypothesis => exact hypothesis
  | case5 depth token rest _ hypothesis => exact hypothesis
  | case6 depth token rest _ _ hypothesis => exact hypothesis
  | case7 depth token rest _ _ hypothesis => exact hypothesis

/-- Passing over tokens takes one at least unless it begins before a delimiter. -/
theorem fromDelimiter_properSuffix
    {tokens : List Token}
    (goesOn : atExpressionEnd tokens = false) :
    ProperSuffix (fromDelimiter 0 tokens) tokens := by
  cases tokens with
  | nil => cases goesOn
  | cons token rest =>
      have notDelimiter : ¬ token.isDelimiter = true :=
        Bool.eq_false_iff.mp goesOn
      rw [fromDelimiter, if_neg notDelimiter]
      split
      · exact ProperSuffix.cons_of_suffix (fromDelimiter_suffix 1 rest)
      · exact ProperSuffix.cons_of_suffix (fromDelimiter_suffix 0 rest)

/-- One token or group of no known form takes a token unless an expression ends there. -/
theorem readUnsupported_properSuffix
    {token : Token}
    {rest : List Token}
    (goesOn : atExpressionEnd (token :: rest) = false) :
    ProperSuffix (readUnsupported (token :: rest)).2 (token :: rest) := by
  rw [readUnsupported, goesOn]
  split
  · exact ⟨afterGroup_suffix 0 _, afterGroup_length_lt (List.cons_ne_nil token rest)⟩
  · exact ProperSuffix.tail

/-- What begins with a minus sign takes a token. -/
theorem readNegative_properSuffix
    {token : Token}
    {rest : List Token}
    (goesOn : atExpressionEnd (token :: rest) = false) :
    ProperSuffix (readNegative (token :: rest)).2 (token :: rest) := by
  unfold readNegative
  split
  · exact readUnsupported_properSuffix goesOn
  · next second behind shape =>
      split
      · rw [numberUpTo_rest]
        have tail : rest = second :: behind := shape
        rw [tail]
        exact ProperSuffix.cons_of_suffix (List.suffix_cons second behind)
      · exact readUnsupported_properSuffix goesOn

/-- What begins with a word takes it. -/
theorem readWord_properSuffix
    (inner : Reader Expression)
    {word : String}
    {token : Token}
    {rest : List Token}
    (goesOn : atExpressionEnd (token :: rest) = false) :
    ProperSuffix (readWord inner word (token :: rest)).2 (token :: rest) := by
  unfold readWord
  split
  · exact ProperSuffix.tail
  split
  · exact ProperSuffix.tail
  split
  · exact ProperSuffix.tail
  split
  · exact ProperSuffix.tail
  split
  · exact ProperSuffix.cons_of_suffix (readCreation_suffix_tail inner _)
  split
  · exact ProperSuffix.cons_of_suffix (readChain_suffix inner _ _ rest)
  · exact readUnsupported_properSuffix goesOn

/-- An expression without operators takes a token unless it begins where one ends. -/
theorem readPrimary_properSuffix
    (inner : Reader Expression)
    {tokens : List Token}
    (goesOn : atExpressionEnd tokens = false) :
    ProperSuffix (readPrimary inner tokens).2 tokens := by
  unfold readPrimary
  split
  · cases goesOn
  · next token rest =>
      split
      · rw [numberUpTo_rest]
        exact ProperSuffix.tail
      · exact ProperSuffix.tail
      · exact ProperSuffix.tail
      · exact readWord_properSuffix inner goesOn
      · exact readNegative_properSuffix goesOn
      · exact ProperSuffix.cons_of_suffix (readEntries_suffix inner rest)
      · exact ⟨afterGroup_suffix 0 _, afterGroup_length_lt (List.cons_ne_nil token rest)⟩
      · exact readUnsupported_properSuffix goesOn

/-- Reading ends before a delimiter or with the tokens, and takes a token unless it begins there. -/
theorem atExpressionEnd_read
    (room : Nat)
    (tokens : List Token) :
    atExpressionEnd ((expressionReader room).read tokens).2 = true ∧
      (atExpressionEnd tokens = false →
        ProperSuffix ((expressionReader room).read tokens).2 tokens) := by
  induction room generalizing tokens with
  | zero => exact ⟨atExpressionEnd_fromDelimiter 0 tokens, fromDelimiter_properSuffix⟩
  | succ room hypothesis =>
      have primary :
          atExpressionEnd tokens = false →
          ProperSuffix (readPrimary (expressionReader room) tokens).2 tokens :=
        readPrimary_properSuffix (expressionReader room)
      change atExpressionEnd (readOperation (expressionReader room) tokens).2 = true ∧
        (atExpressionEnd tokens = false →
          ProperSuffix (readOperation (expressionReader room) tokens).2 tokens)
      unfold readOperation
      rcases read : readPrimary (expressionReader room) tokens with ⟨left, behind⟩
      rw [read] at primary
      simp only
      split
      · refine ⟨(hypothesis behind.tail).1, fun goesOn => ?_⟩
        have suffix := (expressionReader room).suffix behind.tail
        exact ProperSuffix.of_suffix (suffix.trans (List.tail_suffix behind)) (primary goesOn)
      · split
        · next ended => exact ⟨ended, primary⟩
        · exact ⟨atExpressionEnd_fromDelimiter 0 behind,
            fun goesOn => ProperSuffix.of_suffix (fromDelimiter_suffix 0 behind) (primary goesOn)⟩

/-- The marks that end an expression. -/
def delimiters : List Punctuator :=
  [.comma, .semicolon, .closeParenthesis, .closeBracket, .closeBrace]

/-- An expression ends at a place among some tokens: with the tokens, or before a delimiter. -/
def EndsAt
    (tokens : List Token)
    (place : Nat) :
    Prop :=
  place = tokens.length ∨
    ∃ token delimiter,
      tokens[place]? = some token ∧
        token.kind = .punctuator delimiter ∧
        delimiter ∈ delimiters

/-- The delimiters are the punctuators told as such. -/
theorem isDelimiter_iff
    {punctuator : Punctuator} :
    punctuator.isDelimiter = true ↔ punctuator ∈ delimiters := by
  cases punctuator <;> decide

/-- A token ends an expression exactly when it is a delimiter. -/
theorem Lexical.Token.isDelimiter_iff
    {token : Token} :
    token.isDelimiter = true ↔
      ∃ delimiter, token.kind = .punctuator delimiter ∧ delimiter ∈ delimiters := by
  rw [Token.isDelimiter, Token.punctuator?]
  cases token.kind with
  | punctuator punctuator => simp [InitializerJson.isDelimiter_iff]
  | identifier | number | string | character | interpolated | unknown => simp

/-- An expression ends at a place exactly when the tokens from there on say so. -/
theorem endsAt_iff
    {tokens : List Token}
    {place : Nat}
    (inside : place ≤ tokens.length) :
    EndsAt tokens place ↔ atExpressionEnd (tokens.drop place) = true := by
  rcases Nat.lt_or_eq_of_le inside with before | rfl
  · have front := List.drop_eq_getElem_cons before
    rw [front, atExpressionEnd, Token.isDelimiter_iff, EndsAt, List.getElem?_eq_getElem before]
    constructor
    · rintro (atEnd | ⟨token, delimiter, found, delimits⟩)
      · omega
      · cases found
        exact ⟨delimiter, delimits⟩
    · rintro ⟨delimiter, delimits⟩
      exact .inr ⟨_, delimiter, rfl, delimits⟩
  · rw [List.drop_length]
    exact ⟨fun _ => rfl, fun _ => .inl rfl⟩

/-- The texts of tokens from a place on are slices of their source. -/
theorem IsTextOf.isTokenSlice
    {source : String}
    {tokens : List Token}
    {start : Nat}
    {text : String}
    (isText : IsTextOf (tokens.drop start) text)
    (tokenized : tokenize source = .ok tokens)
    (inside : start ≤ tokens.length) :
    text = "" ∨
      ∃ first last, start ≤ first ∧ IsTokenSlice source.toList tokens first last text := by
  rcases isText with empty | ⟨before, run, behind, shape, filled, rfl⟩
  · exact .inl empty
  · right
    have whole : tokens = tokens.take start ++ before ++ run ++ behind := by
      rw [List.append_assoc, List.append_assoc, ← List.append_assoc before, ← shape,
        List.take_append_drop]
    have length : (tokens.take start ++ before).length = start + before.length := by
      rw [List.length_append, List.length_take, Nat.min_eq_left inside]
    have slice := isTokenSlice_sourceText (whole ▸ tokenized) filled
    rw [← whole, length] at slice
    exact ⟨_, _, Nat.le_add_right start before.length, slice⟩

/--
How an expression is read from a place on: where it stops, and what it keeps of the
tokens of a source.
-/
structure Recovers
    (source : List Char)
    (tokens : List Token)
    (start stop : Nat)
    (expression : Expression) :
    Prop where
  forward : start ≤ stop
  inside : stop ≤ tokens.length
  ends : EndsAt tokens stop
  /-- A token is taken unless an expression ends where this one begins. -/
  progress : start < stop ∨ EndsAt tokens start
  /-- Every text that is kept is empty or a slice of the source between tokens. -/
  texts : ∀ inner : Expression,
    inner.IsWithin expression →
    ∀ text ∈ inner.ownTexts,
      text = "" ∨ ∃ first last, start ≤ first ∧ IsTokenSlice source tokens first last text
  strings : ∀ value,
    (Expression.literal (.string value)).IsWithin expression →
    ∃ token ∈ tokens, token.kind = .string value
  numbers : ∀ number,
    (Expression.literal (.number number)).IsWithin expression →
    ∃ token ∈ tokens, ∃ text negative,
      token.kind = .number text ∧ Number.ofLiteral? text negative = some number

/--
From every place among the tokens of a source and with every number of layers left, an
expression is read up to the next delimiter and only keeps slices of the source.  No
type that is read on the way counts its angle brackets below zero.
-/
theorem read_recovers
    {source : String}
    {tokens : List Token}
    (tokenized : tokenize source = .ok tokens)
    {start : Nat}
    (inside : start ≤ tokens.length)
    (room : Nat) :
    (∃ stop,
      ((expressionReader room).read (tokens.drop start)).2 = tokens.drop stop ∧
        Recovers source.toList tokens start stop
          ((expressionReader room).read (tokens.drop start)).1) ∧
      ∀ place,
        countDeclaredType? (tokens.drop place) =
          some (readDeclaredType (tokens.drop place)) := by
  refine ⟨?_, fun place => countDeclaredType?_eq_some _⟩
  obtain ⟨ended, takes⟩ := atExpressionEnd_read room (tokens.drop start)
  have carries : ∀ token ∈ tokens.drop start, token.CarriesLexeme := by
    intro token member
    exact (covers_of_tokenize tokenized).carriesLexeme token (List.mem_of_mem_drop member)
  have keeps : ∀ inner : Expression,
      inner.IsWithin ((expressionReader room).read (tokens.drop start)).1 →
        inner.KeepsTokens (tokens.drop start) :=
    fun inner within => Expression.keepsTokens_read room carries within
  have shorter := (expressionReader room).suffix (tokens.drop start)
  generalize (expressionReader room).read (tokens.drop start) = read at *
  have rest := List.suffix_iff_eq_drop.mp (shorter.trans (List.drop_suffix start tokens))
  have bound := shorter.length_le
  rw [List.length_drop] at bound
  have stopInside : tokens.length - read.2.length ≤ tokens.length :=
    Nat.sub_le _ _
  refine ⟨tokens.length - read.2.length, rest, ?_⟩
  refine ⟨by omega, stopInside, ?_, ?_, ?_, ?_, ?_⟩
  · rw [endsAt_iff stopInside, ← rest]
    exact ended
  · rw [endsAt_iff inside]
    cases here : atExpressionEnd (tokens.drop start) with
    | true => exact .inr rfl
    | false =>
        have taken := (takes here).shorter
        rw [List.length_drop] at taken
        exact .inl (by omega)
  · intro inner within text member
    exact ((keeps inner within).texts text member).isTokenSlice tokenized inside
  · intro value within
    obtain ⟨token, member, kind⟩ := (keeps _ within).string value rfl
    exact ⟨token, List.mem_of_mem_drop member, kind⟩
  · intro number within
    obtain ⟨token, member, written⟩ := (keeps _ within).number number rfl
    exact ⟨token, List.mem_of_mem_drop member, written⟩

/-- The tokens of a call that breaks off inside its argument. -/
def brokenTokens : List Token :=
  [
    ⟨.identifier "f", [], ['f']⟩,
    ⟨.punctuator .openParenthesis, [], ['(']⟩,
    ⟨.identifier "new", [], ['n', 'e', 'w']⟩,
    ⟨.identifier "A", [' '], ['A']⟩,
    ⟨.punctuator .less, [], ['<']⟩,
    ⟨.identifier "é", [], ['é']⟩,
    ⟨.punctuator .semicolon, [], [';']⟩
  ]

/-- A call that breaks off is read up to the semicolon. -/
theorem read_recovers_broken :
    tokenize "f(new A<é;" = .ok brokenTokens ∧
      0 ≤ brokenTokens.length ∧
      (∃ stop,
        ((expressionReader 128).read (brokenTokens.drop 0)).2 = brokenTokens.drop stop ∧
          Recovers "f(new A<é;".toList brokenTokens 0 stop
            ((expressionReader 128).read (brokenTokens.drop 0)).1) ∧
      ∀ place,
        countDeclaredType? (brokenTokens.drop place) =
          some (readDeclaredType (brokenTokens.drop place)) := by
  have tokenized : tokenize "f(new A<é;" = .ok brokenTokens :=
    tokenize_eq_ok_iff.mpr (by decide +kernel)
  have inside : 0 ≤ brokenTokens.length :=
    Nat.zero_le _
  exact ⟨tokenized, inside, read_recovers tokenized inside 128⟩

end InitializerJson
