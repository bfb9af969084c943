import InitializerJson.Proofs.Lexical.Tiling

namespace InitializerJson.Lexical

/-!
# Tokens shared with a longer source

A longer source may begin with the tokens of a shorter one, in kind and span.  As
the spans cut the same text at the same bytes, it then begins with the very same
tokens, their gaps and characters included.
-/

/-- The kind of a placed token with the bytes where it begins and ends. -/
def PlacedToken.span
    (placed : PlacedToken) :
    TokenKind × Nat × Nat :=
  (placed.token.kind, placed.offset, placed.endOffset)

/-- The first token that covers a text comes first in it, and the others cover the rest. -/
theorem Covers.exists_rest
    {token : Token}
    {tokens : List Token}
    {text : List Char}
    (covers : Covers (token :: tokens) text) :
    ∃ rest, text = token.gap ++ (token.lexeme ++ rest) ∧ Covers tokens rest := by
  cases covers with
  | @cons _ _ rest _ _ _ others => exact ⟨rest, List.append_assoc _ _ _, others⟩

/-- Tokens whose spans a longer text begins with are the first tokens of that text. -/
theorem Covers.prefix_of_spans
    {tokens longer : List Token}
    {text more : List Char}
    (covers : Covers tokens text)
    (longerCovers : Covers longer (text ++ more))
    (start : Nat)
    (place longerPlace : Position)
    (begins :
      (placeFrom start place tokens).map PlacedToken.span <+:
        (placeFrom start longerPlace longer).map PlacedToken.span) :
    tokens <+: longer := by
  induction tokens generalizing longer text start place longerPlace with
  | nil => exact List.nil_prefix
  | cons token rest hypothesis =>
      cases longer with
      | nil => simp [placeFrom] at begins
      | cons other others =>
          obtain ⟨behind, rfl, restCovers⟩ := covers.exists_rest
          obtain ⟨otherBehind, shape, othersCover⟩ := longerCovers.exists_rest
          simp only [placeFrom, List.map_cons, List.cons_prefix_cons, PlacedToken.span,
            PlacedToken.endOffset, Prod.mk.injEq] at begins
          obtain ⟨⟨sameKind, sameStart, sameEnd⟩, restBegins⟩ := begins
          rw [List.append_assoc, List.append_assoc] at shape
          obtain ⟨sameGap, behindGap⟩ := append_inj_of_byteLength shape (by omega)
          obtain ⟨sameLexeme, rfl⟩ := append_inj_of_byteLength behindGap (by omega)
          have same : token = other := by
            cases token
            cases other
            simp_all
          subst same
          exact List.cons_prefix_cons.mpr ⟨rfl, hypothesis restCovers othersCover _ _ _ restBegins⟩

/-- A longer source that begins with the spans of a source's tokens begins with the tokens. -/
theorem prefix_of_spans
    {source more : String}
    {tokens longer : List Token}
    (tokenized : tokenize source = .ok tokens)
    (longerTokenized : tokenize (source ++ more) = .ok longer)
    (begins :
      (placeTokens tokens).map PlacedToken.span <+:
        (placeTokens longer).map PlacedToken.span) :
    tokens <+: longer := by
  have longerCovers := covers_of_tokenize longerTokenized
  rw [String.toList_append] at longerCovers
  exact (covers_of_tokenize tokenized).prefix_of_spans longerCovers 0 _ _ begins

end InitializerJson.Lexical
