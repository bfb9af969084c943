import InitializerJson.Proofs.Lexical.OpenPlace
import InitializerJson.Proofs.Lexical.PassedText
import InitializerJson.Proofs.Lexical.Respacing

namespace InitializerJson.Lexical

open Character

/-!
# Interpolated texts are read back

An interpolated literal is made of plain characters, doubled braces, escape sequences
or doubled quotes, and holes.  A hole may hold anything with balanced braces, regular
and character literals included.  Such a literal is read as one token, exactly as
written, and what follows it is read on its own.  The reader of holes knows regular
literals only: it takes the quote of the character literal of a quote for one of their
quotes, so that character literals may hold no quote.
-/

/-! ## Parts of a literal -/

/-- A text that is one regular literal. -/
def IsRegularLiteral
    (text : List Char) :
    Prop :=
  ∃ value, regularText? text = some (value, [])

/-- A text that is one escape sequence. -/
def IsEscapeSequence
    (text : List Char) :
    Prop :=
  ∃ character, escape? text = some (character, [])

/-- A character literal that has no brace in it. -/
structure IsHoleCharacter
    (text : List Char) :
    Prop where
  literal : IsCharacterLiteral text
  notOpen : '{' ∉ text
  notClose : '}' ∉ text

/-- A character literal that has no brace and no quote in it. -/
structure IsQuietCharacter
    (text : List Char) :
    Prop
    extends IsHoleCharacter text where
  notQuote : '"' ∉ text

/-- What may stand in a hole, with the character literals that are admitted there. -/
inductive HoleText
    (admitted : List Char → Prop) :
    List Char → Prop where
  | nil :
      HoleText admitted []
  | plain
      {character : Char}
      {rest : List Char} :
      character ∉ ['"', '\'', '{', '}'] →
      HoleText admitted rest →
      HoleText admitted (character :: rest)
  | text
      {literal rest : List Char} :
      IsRegularLiteral literal →
      HoleText admitted rest →
      HoleText admitted (literal ++ rest)
  | character
      {literal rest : List Char} :
      admitted literal →
      HoleText admitted rest →
      HoleText admitted (literal ++ rest)
  | braces
      {inner rest : List Char} :
      HoleText admitted inner →
      HoleText admitted rest →
      HoleText admitted ('{' :: (inner ++ '}' :: rest))

/-- What may stand between the quotes of an interpolated literal. -/
inductive InterpolatedBody
    (admitted : List Char → Prop)
    (verbatim : Bool) :
    List Char → Prop where
  | nil :
      InterpolatedBody admitted verbatim []
  /-- A backslash is plain in the verbatim form only. -/
  | plain
      {character : Char}
      {rest : List Char} :
      character ∉ ['"', '{', '}'] →
      (character = '\\' → verbatim = true) →
      InterpolatedBody admitted verbatim rest →
      InterpolatedBody admitted verbatim (character :: rest)
  | doubledBrace
      {brace : Char}
      {rest : List Char} :
      brace ∈ ['{', '}'] →
      InterpolatedBody admitted verbatim rest →
      InterpolatedBody admitted verbatim (brace :: brace :: rest)
  | escaped
      {sequence rest : List Char} :
      verbatim = false →
      IsEscapeSequence sequence →
      InterpolatedBody admitted verbatim rest →
      InterpolatedBody admitted verbatim (sequence ++ rest)
  | doubledQuote
      {rest : List Char} :
      verbatim = true →
      InterpolatedBody admitted verbatim rest →
      InterpolatedBody admitted verbatim ('"' :: '"' :: rest)
  | hole
      {inner rest : List Char} :
      HoleText admitted inner →
      inner.head? ≠ some '{' →
      InterpolatedBody admitted verbatim rest →
      InterpolatedBody admitted verbatim ('{' :: (inner ++ '}' :: rest))

/-- The interpolated literals, in their three forms. -/
inductive IsInterpolatedLiteral
    (admitted : List Char → Prop) :
    List Char → Prop where
  | regular
      {body : List Char} :
      InterpolatedBody admitted false body →
      IsInterpolatedLiteral admitted ('$' :: '"' :: (body ++ ['"']))
  | dollarFirst
      {body : List Char} :
      InterpolatedBody admitted true body →
      IsInterpolatedLiteral admitted ('$' :: '@' :: '"' :: (body ++ ['"']))
  | atFirst
      {body : List Char} :
      InterpolatedBody admitted true body →
      IsInterpolatedLiteral admitted ('@' :: '$' :: '"' :: (body ++ ['"']))

/-! ## Escape sequences -/

/-- The digits of a code may go on in what follows. -/
theorem codeEscape?_append
    {fewest most : Nat}
    {digits : List Char}
    {character : Char}
    (found : codeEscape? fewest most digits = some (character, []))
    (rest : List Char) :
    ∃ more behind other,
      rest = more ++ behind ∧
        (∀ digit ∈ more, isHexDigit digit = true) ∧
        codeEscape? fewest most (digits ++ rest) = some (other, behind) := by
  unfold codeEscape? at found
  simp only at found
  split at found
  · next enough =>
      rw [Option.some.injEq, Prod.mk.injEq, List.drop_eq_nil_iff] at found
      generalize front : (digits.take most).takeWhile isHexDigit = run at enough found
      have isPrefix : run <+: digits.take most := by
        rw [← front]
        exact List.takeWhile_prefix _
      -- The run of digits in front is all there is.
      have whole : run = digits :=
        (isPrefix.trans (List.take_prefix most digits)).eq_of_length_le found.2
      have fits : digits.length ≤ most := by
        rw [← whole]
        exact Nat.le_trans isPrefix.length_le (List.length_take_le most digits)
      have areDigits : ∀ digit ∈ digits, isHexDigit digit = true := by
        rw [← whole, ← front]
        exact List.all_eq_true.mp List.all_takeWhile
      generalize goesOn : (rest.take (most - digits.length)).takeWhile isHexDigit = more
      have morePrefix : more <+: rest := by
        rw [← goesOn]
        exact (List.takeWhile_prefix _).trans (List.take_prefix _ rest)
      have moreDigits : ∀ digit ∈ more, isHexDigit digit = true := by
        rw [← goesOn]
        exact List.all_eq_true.mp List.all_takeWhile
      obtain ⟨behind, rfl⟩ := morePrefix
      refine ⟨more, behind, scalarOrReplacement (positionalValue 16 (digits ++ more)), rfl,
        moreDigits, ?_⟩
      have longer : ((digits ++ (more ++ behind)).take most).takeWhile isHexDigit =
          digits ++ more := by
        rw [List.take_append, List.take_of_length_le fits,
          List.takeWhile_append_of_pos areDigits, goesOn]
      have count : fewest ≤ (digits ++ more).length := by
        rw [List.length_append, ← whole]
        omega
      rw [codeEscape?]
      simp only [longer, if_pos count]
      rw [← List.append_assoc, List.drop_left]
  · cases found

/-- An escape sequence may go on in hexadecimal digits that follow it. -/
theorem escape?_append
    {sequence : List Char}
    {character : Char}
    (found : escape? sequence = some (character, []))
    (rest : List Char) :
    ∃ more behind other,
      rest = more ++ behind ∧
        (∀ digit ∈ more, isHexDigit digit = true) ∧
        escape? (sequence ++ rest) = some (other, behind) := by
  unfold escape? at found
  split at found
  · next mark digits =>
      cases simple : simpleEscapes.lookup mark with
      | some resolved =>
          rw [simple] at found
          cases found
          exact ⟨[], rest, _, rfl, List.forall_mem_nil _, by simp [escape?, simple]; rfl⟩
      | none =>
          rw [simple] at found
          simp only at found
          have coded {fewest most : Nat}
              (code : codeEscape? fewest most digits = some (character, []))
              (step : ∀ text, escape? ('\\' :: mark :: text) = codeEscape? fewest most text) :
              ∃ more behind other,
                rest = more ++ behind ∧
                  (∀ digit ∈ more, isHexDigit digit = true) ∧
                  escape? ('\\' :: mark :: digits ++ rest) = some (other, behind) := by
            obtain ⟨more, behind, other, shape, areDigits, read⟩ := codeEscape?_append code rest
            exact ⟨more, behind, other, shape, areDigits, (step (digits ++ rest)).trans read⟩
          split at found
          · next short =>
              subst short
              exact coded found fun _ => rfl
          · split at found
            · next long =>
                subst long
                exact coded found fun _ => rfl
            · split at found
              · next ranged =>
                  subst ranged
                  exact coded found fun _ => rfl
              · cases found
  · cases found

/-! ## What is passed over -/

section Passing

variable
  {verbatim : Bool}
  {depth : Nat}

/-- A character without a meaning of its own is passed over. -/
theorem afterInterpolatedBody?_plain
    {character : Char}
    (plain : character ∉ ['"', '{', '}'])
    (backslash : character = '\\' → (verbatim || 0 < depth) = true)
    (rest : List Char) :
    afterInterpolatedBody? verbatim depth (character :: rest) =
      afterInterpolatedBody? verbatim depth rest := by
  simp only [List.mem_cons, List.not_mem_nil, or_false, not_or] at plain
  by_cases slash : character = '\\'
  · rw [slash, afterInterpolatedBody?, if_pos (backslash slash)]
  · rw [afterInterpolatedBody?]
    · exact plain.1
    · exact slash
    · exact plain.2.1
    · exact plain.2.2

/-- Characters without a meaning of their own are passed over. -/
theorem afterInterpolatedBody?_append
    {text : List Char}
    (plain : ∀ character ∈ text, character ∉ ['"', '{', '}'])
    (backslash : '\\' ∈ text → (verbatim || 0 < depth) = true)
    (rest : List Char) :
    afterInterpolatedBody? verbatim depth (text ++ rest) =
      afterInterpolatedBody? verbatim depth rest := by
  induction text with
  | nil => rfl
  | cons character text hypothesis =>
      obtain ⟨first, others⟩ := List.forall_mem_cons.mp plain
      have slash : character = '\\' → (verbatim || 0 < depth) = true := by
        rintro rfl
        exact backslash List.mem_cons_self
      rw [List.cons_append, afterInterpolatedBody?_plain first slash,
        hypothesis others fun member => backslash (.tail _ member)]

/-- An escape sequence is passed over, with the digits that it goes on in or without them. -/
theorem IsEscapeSequence.afterInterpolatedBody?_append
    {sequence : List Char}
    (isSequence : IsEscapeSequence sequence)
    (rest : List Char) :
    afterInterpolatedBody? false 0 (sequence ++ rest) = afterInterpolatedBody? false 0 rest := by
  obtain ⟨character, found⟩ := isSequence
  obtain ⟨more, behind, other, rfl, digits, escape⟩ := escape?_append found rest
  have shape : ∃ escaped, sequence = '\\' :: escaped := by
    unfold escape? at found
    split at found
    · exact ⟨_, rfl⟩
    · cases found
  obtain ⟨escaped, rfl⟩ := shape
  have passed :
      afterInterpolatedBody? false 0 ('\\' :: escaped ++ (more ++ behind)) =
        afterInterpolatedBody? false 0 behind := by
    rw [List.cons_append] at escape ⊢
    rw [afterInterpolatedBody?, if_neg (by decide)]
    split
    · next found =>
        rw [escape] at found
        cases found
        rfl
    · next none =>
        rw [escape] at none
        cases none
  have isPlain : ∀ digit ∈ more, digit ∉ ['"', '{', '}'] := by
    intro digit member marked
    have isDigit := digits digit member
    revert isDigit
    simp only [List.mem_cons, List.not_mem_nil, or_false] at marked
    rcases marked with rfl | rfl | rfl <;> decide
  have noSlash : '\\' ∈ more → (false || decide (0 < 0)) = true :=
    fun member => absurd (digits _ member) (by decide)
  rw [passed, Lexical.afterInterpolatedBody?_append isPlain noSlash]

/-- A regular literal is read up to its end, whatever follows. -/
theorem IsRegularLiteral.exists_body
    {literal : List Char}
    (isLiteral : IsRegularLiteral literal) :
    ∃ body value,
      literal = '"' :: body ∧ ∀ rest, regularBody? (body ++ rest) = some (value, rest) := by
  obtain ⟨value, found⟩ := isLiteral
  unfold regularText? at found
  split at found
  · obtain ⟨body, shape, _, _, again⟩ := regularBody?_extent found
    rw [List.append_nil] at shape
    exact ⟨body, value, by rw [shape], again⟩
  · cases found

/-- A regular literal in a hole is passed over. -/
theorem IsRegularLiteral.afterInterpolatedBody?_append
    {literal : List Char}
    (isLiteral : IsRegularLiteral literal)
    (rest : List Char) :
    afterInterpolatedBody? verbatim (depth + 1) (literal ++ rest) =
      afterInterpolatedBody? verbatim (depth + 1) rest := by
  obtain ⟨body, value, rfl, read⟩ := isLiteral.exists_body
  rw [List.cons_append, afterInterpolatedBody?, if_pos (Nat.succ_pos depth)]
  split
  · next found =>
      rw [read] at found
      cases found
      rfl
  · next none =>
      rw [read] at none
      cases none

/-- A hole is passed over once it is open, whatever is admitted that has no quote and no brace. -/
theorem HoleText.afterInterpolatedBody?_append
    {admitted : List Char → Prop}
    {text : List Char}
    (holds : HoleText admitted text)
    (quiet : ∀ literal, admitted literal → ∀ character ∈ literal, character ∉ ['"', '{', '}'])
    (rest : List Char) :
    afterInterpolatedBody? verbatim (depth + 1) (text ++ rest) =
      afterInterpolatedBody? verbatim (depth + 1) rest := by
  have inside : (verbatim || decide (0 < depth + 1)) = true := by
    simp
  induction holds generalizing depth rest with
  | nil => rfl
  | @plain character behind plain _ hypothesis =>
      simp only [List.mem_cons, List.not_mem_nil, or_false, not_or] at plain
      rw [List.cons_append, afterInterpolatedBody?_plain (by simp [plain]) fun _ => inside]
      exact hypothesis rest inside
  | @text literal behind isLiteral _ hypothesis =>
      rw [List.append_assoc, isLiteral.afterInterpolatedBody?_append]
      exact hypothesis rest inside
  | @character literal behind isAdmitted _ hypothesis =>
      rw [List.append_assoc,
        Lexical.afterInterpolatedBody?_append (quiet literal isAdmitted) fun _ => inside]
      exact hypothesis rest inside
  | @braces inner behind _ _ innerHypothesis hypothesis =>
      have closing :
          afterInterpolatedBody? verbatim (depth + 1 + 1) ('}' :: (behind ++ rest)) =
            afterInterpolatedBody? verbatim (depth + 1) (behind ++ rest) := by
        rw [afterInterpolatedBody?, if_neg (by simp), Nat.add_sub_cancel]
      rw [List.cons_append, List.append_assoc, List.cons_append, afterInterpolatedBody?,
        if_neg (by simp), innerHypothesis _ (by simp), closing]
      exact hypothesis rest inside

/-- The body of a literal is passed over. -/
theorem InterpolatedBody.afterInterpolatedBody?_append
    {admitted : List Char → Prop}
    {text : List Char}
    (body : InterpolatedBody admitted verbatim text)
    (quiet : ∀ literal, admitted literal → ∀ character ∈ literal, character ∉ ['"', '{', '}'])
    (rest : List Char) :
    afterInterpolatedBody? verbatim 0 (text ++ rest) = afterInterpolatedBody? verbatim 0 rest := by
  induction body generalizing rest with
  | nil => rfl
  | plain plain backslash _ hypothesis =>
      rw [List.cons_append, afterInterpolatedBody?_plain plain, hypothesis]
      intro slash
      simp [backslash slash]
  | @doubledBrace brace behind isBrace _ hypothesis =>
      have doubled :
          afterInterpolatedBody? verbatim 0 (brace :: brace :: (behind ++ rest)) =
            afterInterpolatedBody? verbatim 0 (behind ++ rest) := by
        simp only [List.mem_cons, List.not_mem_nil, or_false] at isBrace
        rcases isBrace with rfl | rfl
        · rw [afterInterpolatedBody?, if_pos (by simp), List.tail_cons]
        · rw [afterInterpolatedBody?, if_pos (by simp), List.tail_cons]
      rw [List.cons_append, List.cons_append, doubled, hypothesis]
  | escaped regular isSequence _ hypothesis =>
      subst regular
      rw [List.append_assoc, isSequence.afterInterpolatedBody?_append, hypothesis]
  | doubledQuote isVerbatim _ hypothesis =>
      subst isVerbatim
      rw [List.cons_append, List.cons_append, afterInterpolatedBody?, if_neg (by simp),
        if_pos (by simp), List.tail_cons, hypothesis]
  | @hole inner behind holds opens _ hypothesis =>
      have single : ¬ (0 = 0 && (inner ++ '}' :: (behind ++ rest)).head? == some '{') = true := by
        cases inner with
        | nil => simp
        | cons first others => simpa using opens
      have closing :
          afterInterpolatedBody? verbatim (0 + 1) ('}' :: (behind ++ rest)) =
            afterInterpolatedBody? verbatim 0 (behind ++ rest) := by
        rw [afterInterpolatedBody?, if_neg (by simp), Nat.add_sub_cancel]
      rw [List.cons_append, List.append_assoc, List.cons_append, afterInterpolatedBody?,
        if_neg single, holds.afterInterpolatedBody?_append quiet, closing, hypothesis]

end Passing

/-! ## Literals -/

/-- An interpolated literal is read up to its end. -/
theorem IsInterpolatedLiteral.afterInterpolatedText?_eq
    {admitted : List Char → Prop}
    {literal : List Char}
    (isLiteral : IsInterpolatedLiteral admitted literal)
    (quiet : ∀ literal, admitted literal → ∀ character ∈ literal, character ∉ ['"', '{', '}']) :
    afterInterpolatedText? literal = some [] := by
  have closing (verbatim : Bool) : afterInterpolatedBody? verbatim 0 ['"'] = some [] := by
    simp [afterInterpolatedBody?]
  cases isLiteral with
  | regular body | dollarFirst body | atFirst body =>
      exact (body.afterInterpolatedBody?_append quiet ['"']).trans (closing _)

/-- An interpolated literal is one token before a space. -/
theorem IsInterpolatedLiteral.isLexeme
    {admitted : List Char → Prop}
    {literal : List Char}
    (isLiteral : IsInterpolatedLiteral admitted literal)
    (quiet : ∀ literal, admitted literal → ∀ character ∈ literal, character ∉ ['"', '{', '}'])
    (rest : List Char) :
    IsLexeme (.interpolated (String.ofList literal)) literal (' ' :: rest) := by
  obtain ⟨lexeme, shape, closed⟩ :=
    isClosedLexeme_interpolatedText (isLiteral.afterInterpolatedText?_eq quiet)
  rw [List.append_nil] at shape
  subst shape
  exact closed (' ' :: rest) (IsParted.endsLiteral (by simp [IsParted]))

/--
An interpolated literal whose holes have no character literal with a quote is read as one
token, exactly as written, and the tokens of what stands behind a space follow it.
-/
theorem tokenize_interpolatedLiteral
    {literal : List Char}
    {rest : String}
    {tokens : List Token}
    (isLiteral : IsInterpolatedLiteral IsQuietCharacter literal)
    (tokenized : tokenize rest = .ok tokens) :
    ∃ others,
      tokenize (String.ofList literal ++ " " ++ rest) =
          .ok (⟨.interpolated (String.ofList literal), [], literal⟩ :: others) ∧
        others.map Token.kind = tokens.map Token.kind ∧
        others.map Token.lexeme = tokens.map Token.lexeme := by
  obtain ⟨rfl, complete⟩ := tokenize_eq_ok_iff.mp tokenized
  have quiet : ∀ literal, IsQuietCharacter literal →
      ∀ character ∈ literal, character ∉ ['"', '{', '}'] := by
    intro literal isQuiet character member marked
    simp only [List.mem_cons, List.not_mem_nil, or_false] at marked
    rcases marked with rfl | rfl | rfl
    · exact isQuiet.notQuote member
    · exact isQuiet.notOpen member
    · exact isQuiet.notClose member
  have readBack :
      Token.IsReadBack ⟨.interpolated (String.ofList literal), [], literal⟩ (' ' :: rest.toList) :=
    ⟨List.forall_mem_nil _, isLiteral.isLexeme quiet rest.toList⟩
  have read := readTokens_of_isReadBack readBack
  have behind : readTokens (' ' :: rest.toList) = (readTokens rest.toList).behind [' '] :=
    readTokens_append (show afterGap ([' '] ++ rest.toList) = _ from afterGap_of_piece rfl)
  have shape :
      (String.ofList literal ++ " " ++ rest).toList = literal ++ ' ' :: rest.toList := by
    simp
  rw [List.nil_append, ← shape, behind, TokenRun.rest_behind, complete] at read
  refine ⟨((readTokens rest.toList).behind [' ']).tokens, tokenize_eq_ok_iff.mpr ?_,
    TokenRun.map_kind_behind _ _, TokenRun.map_lexeme_behind _ _⟩
  rw [read]
  exact ⟨rfl, rfl⟩

/-- An escape that goes on in a digit, a hole with two kinds of literals, and a doubled brace. -/
def closedHole : List Char :=
  "$\"\\x41\x7b\"\x7d\"+'c'\x7d\x7d\x7d\"".toList

/-- A literal with an escape, a hole and a doubled brace is made of them. -/
theorem isInterpolatedLiteral_closedHole :
    IsInterpolatedLiteral IsQuietCharacter closedHole := by
  have text : IsRegularLiteral "\"\x7d\"".toList :=
    ⟨['}'], by decide +kernel⟩
  have sequence : IsEscapeSequence "\\x4".toList :=
    ⟨'\x04', by decide +kernel⟩
  have quiet : IsQuietCharacter "'c'".toList :=
    { literal := by decide +kernel
      notOpen := by decide
      notClose := by decide
      notQuote := by decide }
  have inner : HoleText IsQuietCharacter ("\"\x7d\"".toList ++ '+' :: ("'c'".toList ++ [])) :=
    .text text (.plain (by decide) (.character quiet .nil))
  have body : InterpolatedBody IsQuietCharacter false
      ("\\x4".toList ++ '1' :: '{' ::
        ("\"\x7d\"".toList ++ '+' :: ("'c'".toList ++ []) ++ '}' :: '}' :: '}' :: [])) :=
    .escaped rfl sequence
      (.plain (by decide) (by decide) (.hole inner (by decide) (.doubledBrace (by decide) .nil)))
  exact .regular body

/-- A literal with an escape, a hole and a doubled brace is one token. -/
theorem tokenize_interpolatedLiteral_closedHole :
    tokenize "né;" = .ok [⟨.identifier "né", [], ['n', 'é']⟩, ⟨.punctuator .semicolon, [], [';']⟩] ∧
      IsInterpolatedLiteral IsQuietCharacter closedHole ∧
      ∃ others,
        tokenize (String.ofList closedHole ++ " " ++ "né;") =
            .ok (⟨.interpolated (String.ofList closedHole), [], closedHole⟩ :: others) ∧
          others.map Token.kind = [.identifier "né", .punctuator .semicolon] ∧
          others.map Token.lexeme = [['n', 'é'], [';']] := by
  have tokenized :
      tokenize "né;" =
        .ok [⟨.identifier "né", [], ['n', 'é']⟩, ⟨.punctuator .semicolon, [], [';']⟩] :=
    tokenize_eq_ok_iff.mpr (by decide +kernel)
  exact ⟨tokenized, isInterpolatedLiteral_closedHole,
    tokenize_interpolatedLiteral isInterpolatedLiteral_closedHole tokenized⟩

/-- A hole with the character literal of a quote. -/
def quoteInHole : List Char :=
  "$\"\x7b'\"'\x7d\"".toList

/--
The quote of a character literal in a hole is taken for the first of a regular literal, so
that the interpolated literal has no end.
-/
theorem tokenize_quoteInHole :
    IsInterpolatedLiteral IsHoleCharacter quoteInHole ∧
      tokenize "x" = .ok [⟨.identifier "x", [], ['x']⟩] ∧
      tokenize (String.ofList quoteInHole ++ " " ++ "x") =
        .error ⟨⟨1, 6⟩, .characterLiteral⟩ := by
  have literal : IsHoleCharacter "'\"'".toList :=
    { literal := by decide +kernel
      notOpen := by decide
      notClose := by decide }
  have inner : HoleText IsHoleCharacter ("'\"'".toList ++ []) :=
    .character literal .nil
  have body : InterpolatedBody IsHoleCharacter false ('{' :: ("'\"'".toList ++ [] ++ '}' :: [])) :=
    .hole inner (by decide) .nil
  exact ⟨.regular body, tokenize_eq_ok_iff.mpr (by decide +kernel),
    tokenize_eq_error_iff.mpr (by decide +kernel)⟩

end InitializerJson.Lexical
