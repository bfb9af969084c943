import InitializerJson.Proofs.Lexical.QuoteParity

namespace InitializerJson.Lexical

/-!
# Texts that stay open

A raw or verbatim literal without an end is not refused at once: its quotes are tried
as those of other literals, two for each of them.  So it is refused for certain where
one quote is left over in the end: where an odd number of quotes stands in front of
quotes in pairs, and where plain text has an odd number of quotes in all.  An even
number of quotes is read as literals instead, and so are quotes that a backslash hides
from the regular literal that is tried last.
-/

/-- Text that is refused, as a string literal in it has no end. -/
def LeavesTextOpen
    (text : List Char) :
    Prop :=
  ∃ position, tokenize (String.ofList text) = .error ⟨position, .stringLiteral⟩

/-- Text is refused for a string literal, if a quote is left of it. -/
theorem leavesTextOpen_of_rest
    {text others : List Char}
    (left : (readTokens text).rest = '"' :: others) :
    LeavesTextOpen text := by
  refine ⟨Position.after (taken text ('"' :: others)), tokenize_eq_error_iff.mpr ⟨?_, ?_⟩⟩
  · simp [left]
  · simp only [String.toList_ofList, left]
    rfl

/-- Text that is read to its end is not refused. -/
theorem not_leavesTextOpen_of_rest
    {text : List Char}
    (complete : (readTokens text).rest = []) :
    ¬ LeavesTextOpen text := by
  rintro ⟨position, failed⟩
  have left := (tokenize_eq_error_iff.mp failed).1
  rw [String.toList_ofList] at left
  exact left complete

/-- An odd number of quotes in front of quotes in pairs, none of them escaped, is refused. -/
theorem StaysOpen.leavesTextOpen_replicate
    {text : List Char}
    {count : Nat}
    (opens : StaysOpen text)
    (odd : Odd count) :
    LeavesTextOpen (List.replicate count '"' ++ text) := by
  obtain ⟨pairs, rfl⟩ := odd
  have behindFirst : StaysOpen (List.replicate (2 * pairs) '"' ++ text) :=
    ⟨opens.paired.replicate_append pairs, opens.unescaped.replicate_append (2 * pairs)⟩
  obtain ⟨others, left⟩ := behindFirst.exists_rest
  exact leavesTextOpen_of_rest left

/-- The mark of a verbatim literal in front of quotes in pairs, none of them escaped, is refused. -/
theorem StaysOpen.leavesTextOpen_at
    {text : List Char}
    (opens : StaysOpen text) :
    LeavesTextOpen ('@' :: '"' :: text) := by
  obtain ⟨others, left⟩ := opens.exists_rest
  exact leavesTextOpen_of_rest (opens.paired.readTokens_at.trans left)

/-- Behind quotes, plain text is read to the same end as behind one of them or none. -/
theorem IsPlainText.exists_same_rest
    {text : List Char}
    (isPlain : IsPlainText text)
    (ends : text.head? ≠ some '"')
    (count : Nat) :
    ∃ few ≤ 1,
      (Even (count + text.count '"') ↔ Even ((List.replicate few '"' ++ text).count '"')) ∧
        (readTokens (List.replicate count '"' ++ text)).rest =
          (readTokens (List.replicate few '"' ++ text)).rest := by
  have halves : 2 * (count / 2) + count % 2 = count :=
    Nat.div_add_mod count 2
  have same := rest_readTokens_replicate ends isPlain.few (count / 2) (count % 2)
  rw [halves] at same
  refine ⟨count % 2, by omega, ?_, same⟩
  rw [List.count_append, List.count_replicate_self, Nat.even_iff, Nat.even_iff]
  omega

/-- Quotes in front of plain text are refused, when they make an odd number with those in it. -/
theorem IsPlainText.leavesTextOpen_of_odd
    {text : List Char}
    {count : Nat}
    (isPlain : IsPlainText text)
    (ends : text.head? ≠ some '"')
    (odd : Odd (count + text.count '"')) :
    LeavesTextOpen (List.replicate count '"' ++ text) := by
  obtain ⟨few, atMostOne, parity, same⟩ := isPlain.exists_same_rest ends count
  have fewOdd : Odd ((List.replicate few '"' ++ text).count '"') := by
    rw [← Nat.not_even_iff_odd] at odd ⊢
    exact fun even => odd (parity.mpr even)
  obtain ⟨others, left⟩ := (isPlain.replicate_append ends atMostOne).exists_rest_of_odd fewOdd
  exact leavesTextOpen_of_rest (same.trans left)

/-- Quotes in front of a line of plain text are refused for an odd number of quotes only. -/
theorem IsPlainText.odd_of_leavesTextOpen
    {text : List Char}
    {count : Nat}
    (isPlain : IsPlainText text)
    (ends : text.head? ≠ some '"')
    (oneLine : '\n' ∉ text)
    (leavesOpen : LeavesTextOpen (List.replicate count '"' ++ text)) :
    Odd (count + text.count '"') := by
  obtain ⟨few, atMostOne, parity, same⟩ := isPlain.exists_same_rest ends count
  rw [← Nat.not_even_iff_odd]
  intro even
  have noFeed : '\n' ∉ List.replicate few '"' ++ text := by
    simp [oneLine]
  have complete :=
    (isPlain.replicate_append ends atMostOne).rest_eq_nil_of_even noFeed (parity.mp even)
  exact not_leavesTextOpen_of_rest (same.trans complete) leavesOpen

/--
Quotes that open a literal without an end are refused in two kinds of text.  Where the
quotes behind stand in pairs and none is escaped, an odd number of quotes in front is, and
so is a quote behind the mark of a verbatim literal.  In front of plain text an odd number
of quotes in all is, and if it is one line, no other number.
-/
theorem tokenize_staysOpen
    (text : List Char) :
    (QuotesPaired text →
        EscapesNoQuote text →
        (∀ count, Odd count → LeavesTextOpen (List.replicate count '"' ++ text)) ∧
          LeavesTextOpen ('@' :: '"' :: text)) ∧
      (IsPlainText text →
        text.head? ≠ some '"' →
        ∀ count,
          (Odd (count + text.count '"') → LeavesTextOpen (List.replicate count '"' ++ text)) ∧
            ('\n' ∉ text →
              LeavesTextOpen (List.replicate count '"' ++ text) →
              Odd (count + text.count '"'))) := by
  constructor
  · intro paired unescaped
    have opens : StaysOpen text :=
      ⟨paired, unescaped⟩
    exact ⟨fun _ odd => opens.leavesTextOpen_replicate odd, opens.leavesTextOpen_at⟩
  · intro isPlain ends count
    exact ⟨isPlain.leavesTextOpen_of_odd ends,
      fun oneLine leavesOpen => isPlain.odd_of_leavesTextOpen ends oneLine leavesOpen⟩

/--
Quotes that stand in pairs over two lines behind an escaped backslash, and plain text
with two quotes, are refused behind three more.
-/
theorem tokenize_staysOpen_threeQuotes :
    (QuotesPaired "a\\\\\"\"\n b".toList ∧
        EscapesNoQuote "a\\\\\"\"\n b".toList ∧
        LeavesTextOpen (List.replicate 3 '"' ++ "a\\\\\"\"\n b".toList) ∧
        LeavesTextOpen ('@' :: '"' :: "a\\\\\"\"\n b".toList)) ∧
      IsPlainText "say \"hi\"".toList ∧
        Odd (3 + "say \"hi\"".toList.count '"') ∧
        LeavesTextOpen (List.replicate 3 '"' ++ "say \"hi\"".toList) := by
  have paired : QuotesPaired ['a', '\\', '\\', '"', '"', '\n', ' ', 'b'] :=
    .other (by decide) (.other (by decide) (.other (by decide)
      (.pair (.other (by decide) (.other (by decide) (.other (by decide) .nil))))))
  have unescaped : EscapesNoQuote ['a', '\\', '\\', '"', '"', '\n', ' ', 'b'] :=
    .other (by decide) (.escape (by decide) (.other (by decide) (.other (by decide)
      (.other (by decide) (.other (by decide) (.other (by decide) .nil))))))
  have isPlain : IsPlainText "say \"hi\"".toList :=
    { plain := by simp
      few := by decide +kernel }
  have odd : Odd (3 + "say \"hi\"".toList.count '"') := by
    decide +kernel
  have both := (tokenize_staysOpen _).1 paired unescaped
  have spoken := (tokenize_staysOpen _).2 isPlain (by decide +kernel) 3
  exact ⟨⟨paired, unescaped, both.1 3 (by decide), both.2⟩, isPlain, odd, spoken.1 odd⟩

/--
Three quotes in front of plain text with one more are read as two literals, and a quote
behind a backslash closes the regular literal that is tried last.
-/
theorem tokenize_quotesClosed :
    ("say \"hi".toList.head? ≠ some '"' ∧
        ¬ List.replicate 3 '"' <:+: "say \"hi".toList ∧
        tokenize (String.ofList (List.replicate 3 '"' ++ "say \"hi".toList)) =
          .ok
            [⟨.string "", [], ['"', '"']⟩, ⟨.string "say ", [], "\"say \"".toList⟩,
              ⟨.identifier "hi", [], ['h', 'i']⟩]) ∧
      QuotesPaired ['\\', '"', '"'] ∧
        tokenize (String.ofList ('@' :: '"' :: ['\\', '"', '"'])) =
          .ok [⟨.unknown '@', [], ['@']⟩, ⟨.string "\"", [], ['"', '\\', '"', '"']⟩] :=
  ⟨⟨by decide +kernel, by decide +kernel, tokenize_eq_ok_iff.mpr (by decide +kernel)⟩,
    .other (by decide) (.pair .nil), tokenize_eq_ok_iff.mpr (by decide +kernel)⟩

end InitializerJson.Lexical
