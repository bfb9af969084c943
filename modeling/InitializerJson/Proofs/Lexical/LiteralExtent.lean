import InitializerJson.Proofs.Lexical.EncodedText
import Mathlib.Data.List.Basic

namespace InitializerJson.Lexical

open Character

/-!
# Literals end where they end

What a reader takes for a literal, it takes again when other text follows: a
literal carries its own end.  Only the quotes of verbatim text could be doubled by
what follows, and the digits of a code could go on in it; neither happens as long
as the next character is as before, or is no quote.
-/

/-- The digits of a code are taken again in front of the same next character. -/
theorem codeEscape?_extent
    {fewest most : Nat}
    {text : List Char}
    {read : Char × List Char}
    (found : codeEscape? fewest most text = some read) :
    ∃ digits,
      text = digits ++ read.2 ∧
        ∀ rest,
          rest.head? = read.2.head? →
          codeEscape? fewest most (digits ++ rest) = some (read.1, rest) := by
  unfold codeEscape? at found
  simp only at found
  split at found
  · next enough =>
      cases found
      generalize shape : (text.take most).takeWhile isHexDigit = digits at enough ⊢
      have isPrefix : digits <+: text := by
        rw [← shape]
        exact (List.takeWhile_prefix _).trans (List.take_prefix most text)
      have fits : digits.length ≤ most := by
        rw [← shape]
        exact Nat.le_trans (List.takeWhile_prefix _).length_le (List.length_take_le most text)
      have areDigits : ∀ digit ∈ digits, isHexDigit digit = true := by
        rw [← shape]
        exact List.all_eq_true.mp List.all_takeWhile
      obtain ⟨behind, rfl⟩ := isPrefix
      have ends : digits.length = most ∨ EndsRun isHexDigit behind := by
        rcases Nat.eq_or_lt_of_le fits with full | room
        · exact .inl full
        · refine .inr fun next first => ?_
          obtain ⟨others, rfl⟩ := List.head?_eq_some_iff.mp first
          obtain ⟨left, capacity⟩ : ∃ left, most - digits.length = left + 1 :=
            ⟨most - digits.length - 1, by omega⟩
          rw [List.take_append, List.take_of_length_le fits, capacity, List.take_succ_cons,
            List.takeWhile_append_of_pos areDigits] at shape
          have nothing := List.append_cancel_left (shape.trans (List.append_nil digits).symm)
          simpa [List.takeWhile_cons] using nothing
      refine ⟨digits, by simp, fun rest same => ?_⟩
      rw [List.drop_left] at same
      refine codeEscape?_of_digits areDigits enough fits (ends.imp_right fun endsHere => ?_)
      intro next first
      exact endsHere next (same ▸ first)
  · cases found

/-- An escape sequence is taken again in front of the same next character. -/
theorem escape?_extent
    {text : List Char}
    {read : Char × List Char}
    (found : escape? text = some read) :
    ∃ escaped,
      text = '\\' :: escaped ++ read.2 ∧
        ∀ rest,
          rest.head? = read.2.head? →
          escape? ('\\' :: escaped ++ rest) = some (read.1, rest) := by
  unfold escape? at found
  split at found
  · next mark behind =>
      cases simple : simpleEscapes.lookup mark with
      | some resolved =>
          rw [simple] at found
          cases found
          exact ⟨[mark], rfl, fun rest _ => by simp [escape?, simple]⟩
      | none =>
          rw [simple] at found
          simp only at found
          have coded {fewest most : Nat}
              (code : codeEscape? fewest most behind = some read)
              (step : ∀ other,
                escape? ('\\' :: mark :: other) = codeEscape? fewest most other) :
              ∃ escaped,
                '\\' :: mark :: behind = '\\' :: escaped ++ read.2 ∧
                  ∀ rest,
                    rest.head? = read.2.head? →
                    escape? ('\\' :: escaped ++ rest) = some (read.1, rest) := by
            obtain ⟨digits, shape, again⟩ := codeEscape?_extent code
            refine ⟨mark :: digits, by rw [shape]; rfl, fun rest same => ?_⟩
            exact (step (digits ++ rest)).trans (again rest same)
          split at found
          · next short =>
              subst short
              exact coded found fun _ => rfl
          · split at found
            · next long =>
                subst long
                exact coded found fun _ => rfl
            · split at found
              · next ranged =>
                  subst ranged
                  exact coded found fun _ => rfl
              · cases found
  · cases found

/-- Regular text is taken again, whatever follows its closing quote. -/
theorem regularBody?_extent
    {text : List Char}
    {read : List Char × List Char}
    (found : regularBody? text = some read) :
    ∃ body,
      text = body ++ read.2 ∧
        body ≠ [] ∧
        (body = ['"'] ∨ body.head? ≠ some '"') ∧
        ∀ rest, regularBody? (body ++ rest) = some (read.1, rest) := by
  fun_induction regularBody? text generalizing read with
  | case1 => cases found
  | case2 => cases found
  | case3 rest =>
      cases found
      exact ⟨['"'], rfl, by simp, .inl rfl, fun other => by simp [regularBody?]⟩
  | case4 escaped character rest escape hypothesis =>
      obtain ⟨inner, innerFound, rfl⟩ := Option.map_eq_some_iff.mp found
      obtain ⟨body, shape, filled, _, again⟩ := hypothesis innerFound
      obtain ⟨written, spelled, escapes⟩ := escape?_extent escape
      refine ⟨'\\' :: written ++ body, ?_, by simp, .inr (by simp), fun other => ?_⟩
      · rw [spelled, shape]
        simp [prepend]
      · have same : (body ++ other).head? = rest.head? := by
          obtain ⟨first, others, rfl⟩ := List.exists_cons_of_ne_nil filled
          rw [shape]
          rfl
        have escapesHere := escapes (body ++ other) same
        rw [List.append_assoc]
        rw [List.cons_append] at escapesHere ⊢
        rw [regularBody?_of_escape? escapesHere, again]
        rfl
  | case5 => cases found
  | case6 character rest notLineFeed notQuote notBackslash hypothesis =>
      obtain ⟨inner, innerFound, rfl⟩ := Option.map_eq_some_iff.mp found
      obtain ⟨body, shape, _, _, again⟩ := hypothesis innerFound
      refine ⟨character :: body, by rw [shape]; rfl, by simp, .inr (by simpa using notQuote),
        fun other => ?_⟩
      rw [List.cons_append, regularBody?, again]
      · rfl
      · exact notLineFeed
      · exact notQuote
      · exact notBackslash

/-- Verbatim text is the text with its quotes doubled. -/
theorem eq_flatMap_of_verbatimBody?
    {text : List Char}
    {read : List Char × List Char}
    (found : verbatimBody? text = some read) :
    text = read.1.flatMap doubleQuote ++ '"' :: read.2 := by
  fun_induction verbatimBody? text generalizing read with
  | case1 => cases found
  | case2 rest hypothesis =>
      obtain ⟨inner, innerFound, rfl⟩ := Option.map_eq_some_iff.mp found
      rw [hypothesis innerFound]
      rfl
  | case3 rest =>
      cases found
      rfl
  | case4 character rest _ notQuote hypothesis =>
      obtain ⟨inner, innerFound, rfl⟩ := Option.map_eq_some_iff.mp found
      have plain : doubleQuote character = [character] :=
        if_neg notQuote
      rw [hypothesis innerFound, prepend, List.flatMap_cons, plain]
      rfl

/-- A mark is found at the same place, whatever follows it. -/
theorem splitAtMark?_append
    {mark front rest : List Char}
    (found : splitAtMark? mark (front ++ mark ++ rest) = some (front, rest))
    (filled : mark ≠ [])
    (other : List Char) :
    splitAtMark? mark (front ++ mark ++ other) = some (front, other) := by
  have first : ¬ mark <:+: front ++ mark.dropLast :=
    first_of_splitAtMark? found filled
  rw [List.append_assoc]
  exact splitAtMark?_of_first other filled first

/-- Raw text is taken again, whatever follows its closing quotes. -/
theorem rawText?_extent
    {text : List Char}
    {read : List Char × List Char}
    (found : rawText? text = some read) :
    ∃ lexeme,
      text = '"' :: lexeme ++ read.2 ∧
        ∀ rest, rawText? ('"' :: lexeme ++ rest) = some (read.1, rest) := by
  unfold rawText? at found
  simp only at found
  split at found
  · next enough =>
      obtain ⟨⟨content, behind⟩, marked, rfl⟩ := Option.map_eq_some_iff.mp found
      have whole := List.takeWhile_append_dropWhile (p := (· == '"')) (l := text)
      have areQuotes : ∀ character ∈ text.takeWhile (· == '"'), (character == '"') = true :=
        List.all_eq_true.mp List.all_takeWhile
      have opened := List.head?_dropWhile_not (· == '"') text
      generalize text.takeWhile (· == '"') = quotes at enough marked whole areQuotes
      generalize text.dropWhile (· == '"') = body at whole opened
      subst whole
      rw [List.drop_left] at marked
      have shape := eq_append_of_splitAtMark? marked
      subst shape
      obtain ⟨quote, others, rfl⟩ := List.exists_cons_of_ne_nil
        (List.ne_nil_of_length_pos (Nat.lt_of_lt_of_le (by decide) enough))
      have isQuote : quote = '"' := by
        simpa using areQuotes quote List.mem_cons_self
      subst isQuote
      -- The content begins with another character, as the opening quotes are all there are.
      obtain ⟨first, content, rfl⟩ : ∃ first inside, content = first :: inside := by
        cases content with
        | nil => simp at opened
        | cons first inside => exact ⟨first, inside, rfl⟩
      have notQuote : (first == '"') = false := by
        simpa using opened
      refine ⟨others ++ (first :: content ++ '"' :: others), by simp, fun rest => ?_⟩
      have run :
          (('"' :: others) ++ (first :: content ++ '"' :: others ++ rest)).takeWhile (· == '"') =
            '"' :: others :=
        takeWhile_append_of_endsRun areQuotes (endsRun_cons notQuote)
      have again := splitAtMark?_append marked (by simp) rest
      have assembled :
          '"' :: (others ++ (first :: content ++ '"' :: others)) ++ rest =
            ('"' :: others) ++ (first :: content ++ '"' :: others ++ rest) := by
        simp
      simp only [rawText?]
      rw [assembled, run, if_pos enough, List.drop_left, again]
      rfl
  · cases found

/-- Interpolated text from behind its quote or a later place on, up to its end. -/
structure ClosesText
    (verbatim : Bool)
    (depth : Nat)
    (body : List Char) :
    Prop where
  filled : body ≠ []
  again : ∀ other,
    other.head? ≠ some '"' →
    afterInterpolatedBody? verbatim depth (body ++ other) = some other

namespace ClosesText

variable
  {verbatim : Bool}
  {depth : Nat}
  {body : List Char}

/-- The closing quote ends the text. -/
theorem quote
    (closed : ¬ 0 < depth) :
    ClosesText verbatim depth ['"'] where
  filled := by
    simp
  again other ends := by
    have alone : (verbatim && other.head? == some '"') = false := by
      simp [ends]
    rw [List.cons_append, List.nil_append, afterInterpolatedBody?, if_neg closed, alone]
    rfl

/-- A doubled quote stands for itself in verbatim text. -/
theorem doubledQuote
    (closed : ¬ 0 < depth)
    (closes : ClosesText true depth body) :
    ClosesText true depth ('"' :: '"' :: body) where
  filled := by
    simp
  again other ends := by
    rw [List.cons_append, List.cons_append, afterInterpolatedBody?, if_neg closed]
    simpa using closes.again other ends

/-- Regular text may stand in a hole. -/
theorem innerText
    {value text : List Char}
    (open_ : 0 < depth)
    (inner : ∀ rest, regularBody? (text ++ rest) = some (value, rest))
    (closes : ClosesText verbatim depth body) :
    ClosesText verbatim depth ('"' :: text ++ body) where
  filled := by
    simp
  again other ends := by
    rw [List.append_assoc, List.cons_append, afterInterpolatedBody?, if_pos open_]
    split
    · next found =>
        rw [inner] at found
        cases found
        exact closes.again other ends
    · next none =>
        rw [inner] at none
        cases none

/-- A backslash stands for itself in verbatim text and in holes. -/
theorem backslash
    (plain : (verbatim || 0 < depth) = true)
    (closes : ClosesText verbatim depth body) :
    ClosesText verbatim depth ('\\' :: body) where
  filled := by
    simp
  again other ends := by
    rw [List.cons_append, afterInterpolatedBody?, if_pos plain]
    exact closes.again other ends

/-- An escape sequence may stand in other text. -/
theorem escaped
    {character : Char}
    {sequence : List Char}
    (special : ¬ (verbatim || 0 < depth) = true)
    (escapes : ∀ rest,
      rest.head? = body.head? →
      escape? ('\\' :: sequence ++ rest) = some (character, rest))
    (closes : ClosesText verbatim depth body) :
    ClosesText verbatim depth ('\\' :: sequence ++ body) where
  filled := by
    simp
  again other ends := by
    have escapesHere :=
      escapes (body ++ other) (List.head?_append_of_ne_nil body closes.filled)
    rw [List.append_assoc]
    rw [List.cons_append] at escapesHere ⊢
    rw [afterInterpolatedBody?, if_neg special]
    split
    · next found =>
        rw [escapesHere] at found
        cases found
        exact closes.again other ends
    · next none =>
        rw [escapesHere] at none
        cases none

/-- A doubled brace stands for itself outside the holes. -/
theorem doubledBrace
    {brace : Char}
    (isBrace : brace = '{' ∨ brace = '}')
    (outside : depth = 0)
    (closes : ClosesText verbatim depth body) :
    ClosesText verbatim depth (brace :: brace :: body) where
  filled := by
    simp
  again other ends := by
    rcases isBrace with rfl | rfl
    · rw [List.cons_append, List.cons_append, afterInterpolatedBody?]
      simpa [outside] using closes.again other ends
    · rw [List.cons_append, List.cons_append, afterInterpolatedBody?]
      simpa [outside] using closes.again other ends

/-- Another opening brace opens a hole. -/
theorem openBrace
    (single : ¬ (depth = 0 && body.head? == some '{') = true)
    (closes : ClosesText verbatim (depth + 1) body) :
    ClosesText verbatim depth ('{' :: body) where
  filled := by
    simp
  again other ends := by
    rw [List.cons_append, afterInterpolatedBody?,
      List.head?_append_of_ne_nil body closes.filled, if_neg single]
    exact closes.again other ends

/-- Another closing brace closes a hole. -/
theorem closeBrace
    (single : ¬ (depth = 0 && body.head? == some '}') = true)
    (closes : ClosesText verbatim (depth - 1) body) :
    ClosesText verbatim depth ('}' :: body) where
  filled := by
    simp
  again other ends := by
    rw [List.cons_append, afterInterpolatedBody?,
      List.head?_append_of_ne_nil body closes.filled, if_neg single]
    exact closes.again other ends

end ClosesText

/-- Interpolated text is taken again, unless a quote follows it. -/
theorem afterInterpolatedBody?_extent
    {verbatim : Bool}
    {depth : Nat}
    {text rest : List Char}
    (found : afterInterpolatedBody? verbatim depth text = some rest) :
    ∃ body, text = body ++ rest ∧ ClosesText verbatim depth body := by
  fun_induction afterInterpolatedBody? verbatim depth text with
  | case1 => cases found
  | case2 depth quoted open_ value after inner hypothesis =>
      obtain ⟨body, rfl, closes⟩ := hypothesis found
      obtain ⟨text, shape, _, _, innerAgain⟩ := regularBody?_extent inner
      exact ⟨'"' :: text ++ body, by rw [shape]; simp, closes.innerText open_ innerAgain⟩
  | case3 => cases found
  | case4 depth quoted closed doubled hypothesis =>
      obtain ⟨body, shape, closes⟩ := hypothesis found
      obtain ⟨rfl, quote⟩ := Bool.and_eq_true_iff.mp doubled
      obtain ⟨others, rfl⟩ := List.head?_eq_some_iff.mp (beq_iff_eq.mp quote)
      rw [List.tail_cons] at shape
      exact ⟨'"' :: '"' :: body, by rw [shape]; rfl, closes.doubledQuote closed⟩
  | case5 depth quoted closed single =>
      cases found
      exact ⟨['"'], rfl, .quote closed⟩
  | case6 depth escaped plain hypothesis =>
      obtain ⟨body, rfl, closes⟩ := hypothesis found
      exact ⟨'\\' :: body, rfl, closes.backslash plain⟩
  | case7 depth escaped special value after escape hypothesis =>
      obtain ⟨body, rfl, closes⟩ := hypothesis found
      obtain ⟨written, spelled, escapes⟩ := escape?_extent escape
      rw [List.head?_append_of_ne_nil body closes.filled] at escapes
      exact ⟨'\\' :: written ++ body, by rw [spelled]; simp, closes.escaped special escapes⟩
  | case8 => cases found
  | case9 depth braced doubled hypothesis | case11 depth braced doubled hypothesis =>
      obtain ⟨body, shape, closes⟩ := hypothesis found
      obtain ⟨outside, brace⟩ := Bool.and_eq_true_iff.mp doubled
      obtain ⟨others, rfl⟩ := List.head?_eq_some_iff.mp (beq_iff_eq.mp brace)
      rw [List.tail_cons] at shape
      exact ⟨_ :: _ :: body, by rw [shape]; rfl,
        closes.doubledBrace (by simp) (of_decide_eq_true outside)⟩
  | case10 depth braced single hypothesis =>
      obtain ⟨body, rfl, closes⟩ := hypothesis found
      rw [List.head?_append_of_ne_nil body closes.filled] at single
      exact ⟨'{' :: body, rfl, closes.openBrace single⟩
  | case12 depth braced single hypothesis =>
      obtain ⟨body, rfl, closes⟩ := hypothesis found
      rw [List.head?_append_of_ne_nil body closes.filled] at single
      exact ⟨'}' :: body, rfl, closes.closeBrace single⟩
  | case13 depth character behind notQuote notBackslash notOpen notClose hypothesis =>
      obtain ⟨body, rfl, closes⟩ := hypothesis found
      refine ⟨character :: body, rfl, by simp, fun other ends => ?_⟩
      rw [List.cons_append, afterInterpolatedBody?]
      · exact closes.again other ends
      · exact notQuote
      · exact notBackslash
      · exact notOpen
      · exact notClose

/-- Interpolated text with its marks is taken again, unless a quote follows it. -/
theorem afterInterpolatedText?_extent
    {text rest : List Char}
    (found : afterInterpolatedText? text = some rest) :
    ∃ first others,
      text = first :: others ++ rest ∧
        (first = '$' ∨ first = '@') ∧
        ∀ other,
          other.head? ≠ some '"' →
          afterInterpolatedText? (first :: others ++ other) = some other := by
  unfold afterInterpolatedText? at found
  split at found
  · obtain ⟨body, rfl, _, again⟩ := afterInterpolatedBody?_extent found
    exact ⟨'$', '@' :: '"' :: body, rfl, .inl rfl, again⟩
  · obtain ⟨body, rfl, _, again⟩ := afterInterpolatedBody?_extent found
    exact ⟨'@', '$' :: '"' :: body, rfl, .inr rfl, again⟩
  · obtain ⟨body, rfl, _, again⟩ := afterInterpolatedBody?_extent found
    exact ⟨'$', '"' :: body, rfl, .inl rfl, again⟩
  · cases found

/-- A character literal is taken again, whatever follows it. -/
theorem afterCharacterLiteral?_extent
    {text rest : List Char}
    (found : afterCharacterLiteral? text = some rest) :
    ∃ body,
      text = '\'' :: body ++ rest ∧
        ∀ other, afterCharacterLiteral? ('\'' :: body ++ other) = some other := by
  unfold afterCharacterLiteral? at found
  split at found
  · next behind =>
      obtain ⟨closing, body, closed⟩ := Option.bind_eq_some_iff.mp found
      obtain rfl := afterMark?_eq_some_iff.mp closed
      have close (content : List Char)
          (shape : behind = content ++ '\'' :: rest)
          (again : ∀ other, afterCharacterBody? (content ++ '\'' :: other) = some ('\'' :: other)) :
          ∃ body,
            '\'' :: behind = '\'' :: body ++ rest ∧
              ∀ other, afterCharacterLiteral? ('\'' :: body ++ other) = some other := by
        refine ⟨content ++ ['\''], by rw [shape]; simp, fun other => ?_⟩
        simp [afterCharacterLiteral?, again, afterMark?]
      unfold afterCharacterBody? at body
      split at body
      · cases body
      · next escaped =>
          obtain ⟨read, escape, left⟩ := Option.map_eq_some_iff.mp body
          obtain ⟨written, spelled, escapes⟩ := escape?_extent escape
          refine close ('\\' :: written) (by rw [spelled, left]; rfl) fun other => ?_
          have escapesHere := escapes ('\'' :: other) (by rw [left]; rfl)
          rw [List.cons_append] at escapesHere ⊢
          rw [afterCharacterBody?, escapesHere]
          rfl
      · next character left notEscape =>
          split at body
          · cases body
          · next plain =>
              cases body
              refine close [character] rfl fun other => ?_
              rw [List.cons_append, afterCharacterBody?, if_neg plain]
              · rfl
              · exact notEscape
  · cases found

end InitializerJson.Lexical
