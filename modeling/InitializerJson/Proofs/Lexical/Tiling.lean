import InitializerJson.Lexical.Listing
import InitializerJson.Proofs.Lexical.GapText
import InitializerJson.Proofs.Position.Offset

namespace InitializerJson.Lexical

/-!
# Tokens tile their source

Reading takes the characters of a source one after the other: a gap of complete
pieces, the characters of a token, the next gap, and so on to the end.  From
this order follows what holds of the byte spans: they cut the source between
characters, none is empty, and each begins where the gap behind the span before
it ends.
-/

/-- Whether a token of this kind carries its characters as written. -/
def TokenKind.isVerbatim : TokenKind → Bool
  | string _ => false
  | _ => true

/-- What a token carries is how it is written, unless it is a resolved string. -/
def Token.CarriesLexeme
    (token : Token) :
    Prop :=
  token.kind.isVerbatim = true →
    token.kind.text.toList = token.lexeme

/--
Some tokens cover a text: gaps of complete pieces stand before each token and
behind the last one, and nothing else is left of the text.
-/
inductive Covers : List Token → List Char → Prop where
  | nil
      {gap : List Char} :
      GapText gap [] →
      Covers [] gap
  | cons
      {token : Token}
      {tokens : List Token}
      {rest : List Char} :
      GapText token.gap (token.lexeme ++ rest) →
      token.lexeme ≠ [] →
      token.CarriesLexeme →
      Covers tokens rest →
      Covers (token :: tokens) (token.gap ++ token.lexeme ++ rest)

/-- A kind that is kept as written carries what was taken for it. -/
theorem asWritten_carries
    {kind : String → TokenKind}
    (carried : ∀ text, (kind text).text = text)
    (text rest : List Char) :
    (asWritten kind text rest).1.text.toList =
      taken text (asWritten kind text rest).2 := by
  simp [asWritten, carried]

/-- A token that is kept as written carries the characters read for it. -/
theorem readKind?_carries
    {text : List Char}
    {read : TokenKind × List Char}
    (found : readKind? text = some read)
    (verbatim : read.1.isVerbatim = true) :
    read.1.text.toList = taken text read.2 := by
  simp only [readKind?, Option.or_eq_some_iff, Option.map_eq_some_iff] at found
  rcases found with
    ⟨part, _, rfl⟩ | ⟨_, ⟨rest, _, rfl⟩ | ⟨_, ⟨part, _, rfl⟩ |
    ⟨_, ⟨part, _, rfl⟩ | ⟨_, ⟨rest, _, rfl⟩ | ⟨_, ⟨rest, _, rfl⟩ |
    ⟨_, ⟨rest, _, rfl⟩ | ⟨_, ⟨part, punctuator, rfl⟩ |
    ⟨_, ⟨part, unknown, rfl⟩⟩⟩⟩⟩⟩⟩⟩⟩
  · cases verbatim
  · exact asWritten_carries (fun _ => rfl) text rest
  · cases verbatim
  · cases verbatim
  · exact asWritten_carries (fun _ => rfl) text rest
  · exact asWritten_carries (fun _ => rfl) text rest
  · exact asWritten_carries (fun _ => rfl) text rest
  · rw [Punctuator.read?_eq_append punctuator, taken_append_left]
    exact String.toList_ofList
  · rw [unknown?_eq_cons unknown]
    exact (String.toList_ofList).trans (taken_append_left [part.1] part.2).symm

/-- A token read behind a gap carries its characters, if it is kept as written. -/
theorem readBehindGap?_carries
    {text : List Char}
    {read : TokenKind × List Char}
    (found : readBehindGap? text = some read)
    (verbatim : read.1.isVerbatim = true) :
    read.1.text.toList = taken text read.2 :=
  readKind?_carries (readKind?_of_readBehindGap? found) verbatim

/-- What a reader took is not empty when it leaves a proper suffix. -/
theorem taken_ne_nil
    {text rest : List Char}
    (proper : ProperSuffix rest text) :
    taken text rest ≠ [] := by
  intro nothing
  have whole := taken_append proper.suffix
  rw [nothing, List.nil_append] at whole
  have shorter := proper.shorter
  rw [whole] at shorter
  exact Nat.lt_irrefl _ shorter

/-- Reading that ends with nothing left covers the text. -/
theorem covers_readTokens
    {text : List Char}
    (complete : (readTokens text).rest = []) :
    Covers (readTokens text).tokens text := by
  fun_induction readTokens text with
  | case1 text start found =>
      have gap := gapText_afterGap text
      have whole := taken_append (afterGap_suffix text)
      change start = [] at complete
      rw [show afterGap text = [] from complete] at gap whole
      rw [List.append_nil] at whole
      rw [whole] at gap
      exact .nil gap
  | case2 text start kind rest found run hypothesis =>
      have proper := readBehindGap?_properSuffix found
      have lexemeShape : taken start rest ++ rest = start :=
        taken_append proper.suffix
      have gapShape : taken text start ++ start = text :=
        taken_append (afterGap_suffix text)
      have gap : GapText (taken text start) (taken start rest ++ rest) := by
        rw [lexemeShape]
        exact gapText_afterGap text
      have shape :
          text = taken text start ++ taken start rest ++ rest := by
        rw [List.append_assoc, lexemeShape, gapShape]
      have covered :
          Covers (⟨kind, taken text start, taken start rest⟩ :: run.tokens)
            (taken text start ++ taken start rest ++ rest) :=
        .cons gap (taken_ne_nil proper) (readBehindGap?_carries found)
          (hypothesis complete)
      rw [← shape] at covered
      exact covered

/-- The tokens of a source cover it. -/
theorem covers_of_tokenize
    {source : String}
    {tokens : List Token}
    (tokenized : tokenize source = .ok tokens) :
    Covers tokens source.toList := by
  obtain ⟨rfl, complete⟩ := tokenize_eq_ok_iff.mp tokenized
  exact covers_readTokens complete

/-- The characters of a source from one byte offset to another, cut between characters. -/
def Slice
    (source : List Char)
    (start stop : Nat)
    (characters : List Char) :
    Prop :=
  ∃ before after,
    source = before ++ characters ++ after ∧
      byteLength before = start ∧
      start + byteLength characters = stop

/-- The characters between two byte offsets are complete pieces of a gap. -/
def GapSlice
    (source : List Char)
    (start stop : Nat) :
    Prop :=
  ∃ before gap after,
    source = before ++ gap ++ after ∧
      byteLength before = start ∧
      start + byteLength gap = stop ∧
      GapText gap after

/--
The byte spans before each of some placed tokens and behind the last one, from
`start` to the end of the source.
-/
def gapSpans
    (start finish : Nat) :
    List PlacedToken → List (Nat × Nat)
  | [] => [(start, finish)]
  | placed :: others =>
      (start, placed.offset) :: gapSpans placed.endOffset finish others

/-- Placed tokens tile a source, from the byte offset `start` on. -/
structure TilesFrom
    (source : List Char)
    (start : Nat)
    (placed : List PlacedToken) :
    Prop where
  /-- No span is empty. -/
  nonempty : ∀ token ∈ placed, token.offset < token.endOffset
  /-- Every span lies between characters, and holds the token's characters. -/
  slices :
    ∀ token ∈ placed,
      Slice source token.offset token.endOffset token.token.lexeme
  /-- Spans behind `start` stay behind it and inside the source. -/
  bounds :
    ∀ token ∈ placed,
      start ≤ token.offset ∧ token.endOffset ≤ byteLength source
  /-- Spans do not overlap and follow each other. -/
  ordered :
    placed.Pairwise fun earlier later => earlier.endOffset ≤ later.offset
  /-- Between the spans stand complete pieces only. -/
  gaps :
    ∀ span ∈ gapSpans start (byteLength source) placed,
      GapSlice source span.1 span.2
  /-- A token carries its span's text, unless it is a resolved string. -/
  carried : ∀ token ∈ placed, token.token.CarriesLexeme

/-- Without tokens the rest of the source is one gap. -/
theorem TilesFrom.nil
    {before gap : List Char}
    (complete : GapText gap []) :
    TilesFrom (before ++ gap) (byteLength before) [] where
  nonempty := by simp
  slices := by simp
  bounds := by simp
  ordered := .nil
  gaps := by
    intro span member
    cases List.mem_singleton.mp member
    exact ⟨before, gap, [], by simp, rfl, by simp, complete⟩
  carried := by simp

/-- A token behind a gap, in front of tokens that tile the rest. -/
theorem TilesFrom.cons
    {source before rest : List Char}
    {token : PlacedToken}
    {others : List PlacedToken}
    (shape :
      source = before ++ token.token.gap ++ token.token.lexeme ++ rest)
    (offset :
      token.offset = byteLength before + byteLength token.token.gap)
    (complete : GapText token.token.gap (token.token.lexeme ++ rest))
    (nonempty : token.token.lexeme ≠ [])
    (carries : token.token.CarriesLexeme)
    (tiles : TilesFrom source token.endOffset others) :
    TilesFrom source (byteLength before) (token :: others) := by
  have positive := byteLength_pos nonempty
  have finish :
      token.endOffset = token.offset + byteLength token.token.lexeme := rfl
  have total :
      byteLength source = token.endOffset + byteLength rest := by
    rw [shape, finish, offset]
    simp only [byteLength_append]
  refine ⟨?_, ?_, ?_, ?_, ?_, ?_⟩
  · exact List.forall_mem_cons.mpr ⟨by omega, tiles.nonempty⟩
  · refine List.forall_mem_cons.mpr ⟨?_, tiles.slices⟩
    exact ⟨before ++ token.token.gap, rest, shape,
      by rw [offset, byteLength_append], finish.symm⟩
  · refine List.forall_mem_cons.mpr ⟨⟨by omega, by omega⟩, ?_⟩
    intro other member
    have bound := tiles.bounds other member
    exact ⟨by omega, bound.2⟩
  · exact List.pairwise_cons.mpr
      ⟨fun other member => (tiles.bounds other member).1, tiles.ordered⟩
  · refine List.forall_mem_cons.mpr ⟨?_, tiles.gaps⟩
    exact ⟨before, token.token.gap, token.token.lexeme ++ rest,
      by rw [shape]; simp, rfl, offset.symm, complete⟩
  · exact List.forall_mem_cons.mpr ⟨carries, tiles.carried⟩

/-- Tokens that cover the end of a source tile it from there, once placed. -/
theorem Covers.tilesFrom
    {tokens : List Token}
    {text : List Char}
    (covers : Covers tokens text)
    (before : List Char)
    (position : Position) :
    TilesFrom (before ++ text) (byteLength before)
      (placeFrom (byteLength before) position tokens) := by
  induction covers generalizing before position with
  | nil complete => exact TilesFrom.nil complete
  | @cons token tokens rest complete nonempty carries _ hypothesis =>
      have later := hypothesis (before ++ token.gap ++ token.lexeme)
        (token.lexeme.foldl Position.advance
          (token.gap.foldl Position.advance position))
      have shape :
          before ++ (token.gap ++ token.lexeme ++ rest) =
            before ++ token.gap ++ token.lexeme ++ rest := by
        simp only [List.append_assoc]
      rw [byteLength_append, byteLength_append, ← shape] at later
      exact TilesFrom.cons shape rfl complete nonempty carries later

/-- The tokens of a source tile it from its start to its end. -/
theorem tilesFrom_zero_of_tokenize
    {source : String}
    {tokens : List Token}
    (tokenized : tokenize source = .ok tokens) :
    TilesFrom source.toList 0 (placeTokens tokens) := by
  exact (covers_of_tokenize tokenized).tilesFrom [] Position.start

/-- The tokens of a text with comments and characters of several bytes. -/
def accentedTokens : List Token :=
  [
    ⟨.identifier "né", [], ['n', 'é']⟩,
    ⟨.punctuator .assign, [' '], ['=']⟩,
    ⟨.string "ü", ['/', '*', 'é', '*', '/'], ['"', 'ü', '"']⟩
  ]

/-- A source with comments and characters of several bytes is tiled. -/
theorem tiles_accentedTokens :
    tokenize "né =/*é*/\"ü\"//ö" = .ok accentedTokens ∧
      TilesFrom "né =/*é*/\"ü\"//ö".toList 0
        (placeTokens accentedTokens) := by
  have tokenized :
      tokenize "né =/*é*/\"ü\"//ö" = .ok accentedTokens :=
    tokenize_eq_ok_iff.mpr (by decide +kernel)
  exact ⟨tokenized, tilesFrom_zero_of_tokenize tokenized⟩

end InitializerJson.Lexical
