import InitializerJson.Proofs.Position.Offset
import InitializerJson.Proofs.Position.Order

namespace InitializerJson

/-!
# Positions identify offsets

The position of an offset is counted from the text before it: its line feeds, and the
characters behind the last of them.  A walk over the text goes from the start, character by
character, and moves on by one line or by one column.  At every offset between two characters
the walk is at the position that is counted there, and nowhere else is it there again.
-/

/-! ## Offsets between characters -/

/-- The characters of a text take the bytes of the text. -/
theorem byteLength_toList
    (text : String) :
    byteLength text.toList = text.utf8ByteSize := by
  have counted (characters : List Char) :
      (String.ofList characters).utf8ByteSize = byteLength characters := by
    induction characters with
    | nil => rfl
    | cons character rest hypothesis =>
        rw [String.ofList_cons, String.utf8ByteSize_append, String.utf8ByteSize_singleton,
          hypothesis, byteLength_cons]
  rw [← counted, String.ofList_toList]

/-- Offsets between characters are those at which the text can be cut in two. -/
theorem isValid_iff_exists_append
    {text : String}
    {offset : Nat} :
    String.Pos.Raw.IsValid text ⟨offset⟩ ↔
      ∃ before behind, text.toList = before ++ behind ∧ byteLength before = offset := by
  rw [String.Pos.Raw.isValid_iff_exists_append]
  constructor
  · rintro ⟨before, behind, rfl, place⟩
    refine ⟨before.toList, behind.toList, String.toList_append, ?_⟩
    rw [byteLength_toList, ← String.byteIdx_rawEndPos, ← place]
  · rintro ⟨before, behind, cut, rfl⟩
    refine ⟨String.ofList before, String.ofList behind, ?_, ?_⟩
    · rw [← String.ofList_append, ← cut, String.ofList_toList]
    · apply String.Pos.Raw.ext
      rw [String.byteIdx_rawEndPos, ← byteLength_toList, String.toList_ofList]

/-- The text up to an offset begins with the text up to an earlier one. -/
theorem exists_between
    {earlier later rest others : List Char}
    (same : earlier ++ rest = later ++ others)
    (shorter : byteLength earlier < byteLength later) :
    ∃ between, between ≠ [] ∧ later = earlier ++ between := by
  rcases List.append_eq_append_iff.mp same with ⟨between, rfl, _⟩ | ⟨surplus, rfl, _⟩
  · refine ⟨between, ?_, rfl⟩
    rintro rfl
    rw [List.append_nil] at shorter
    exact absurd shorter (Nat.lt_irrefl _)
  · rw [byteLength_append] at shorter
    omega

/-- At the end of a text and beyond, all its characters are before the offset. -/
theorem charactersBefore?_of_byteLength_le
    {characters : List Char}
    {offset : Nat}
    (atEnd : byteLength characters ≤ offset) :
    charactersBefore? characters offset = some characters := by
  induction characters generalizing offset with
  | nil => rfl
  | cons character rest hypothesis =>
      have positive := Char.utf8Size_pos character
      rw [byteLength_cons] at atEnd
      rw [charactersBefore?, if_neg (by omega), if_pos (by omega), hypothesis (by omega)]
      rfl

namespace Position

/-! ## Walking over a text -/

/-- The offsets and positions that a walk over some characters comes by. -/
def walkFrom
    (offset : Nat)
    (position : Position) :
    List Char → List (Nat × Position)
  | [] => [(offset, position)]
  | character :: rest =>
      (offset, position) ::
        walkFrom (offset + character.utf8Size) (position.advance character) rest

/-- The offsets and positions that a walk over a whole text comes by. -/
def walk
    (text : String) :
    List (Nat × Position) :=
  walkFrom 0 start text.toList

/-- A walk comes by the ways to cut the text in two. -/
theorem mem_walkFrom_iff
    {offset : Nat}
    {position : Position}
    {characters : List Char}
    {place : Nat × Position} :
    place ∈ walkFrom offset position characters ↔
      ∃ before behind,
        characters = before ++ behind ∧
          place = (offset + byteLength before, before.foldl advance position) := by
  induction characters generalizing offset position with
  | nil =>
      rw [walkFrom, List.mem_singleton]
      constructor
      · rintro rfl
        exact ⟨[], [], rfl, rfl⟩
      · rintro ⟨before, behind, cut, rfl⟩
        rw [(List.append_eq_nil_iff.mp cut.symm).1]
        rfl
  | cons character rest hypothesis =>
      rw [walkFrom, List.mem_cons, hypothesis]
      constructor
      · rintro (rfl | ⟨before, behind, rfl, rfl⟩)
        · exact ⟨[], character :: rest, rfl, rfl⟩
        · exact ⟨character :: before, behind, rfl, by
            rw [byteLength_cons, List.foldl_cons, Nat.add_assoc]⟩
      · rintro ⟨_ | ⟨first, before⟩, behind, cut, rfl⟩
        · exact .inl rfl
        · rw [List.cons_append, List.cons.injEq] at cut
          obtain ⟨rfl, cut⟩ := cut
          exact .inr ⟨before, behind, cut, by
            rw [byteLength_cons, List.foldl_cons, Nat.add_assoc]⟩

/-- A walk over a text comes by every way to cut it, at the position that is counted there. -/
theorem mem_walk_iff
    {text : String}
    {place : Nat × Position} :
    place ∈ walk text ↔
      ∃ before behind,
        text.toList = before ++ behind ∧ place = (byteLength before, after before) := by
  have counted (before : List Char) : before.foldl advance start = after before := by
    rw [← after_nil, ← after_append_eq_foldl, List.nil_append]
  simp only [walk, mem_walkFrom_iff, Nat.zero_add, counted]

/-- An offset between two characters has the position that is counted before it. -/
theorem ofOffset?_of_append
    {text : String}
    {before behind : List Char}
    (cut : text.toList = before ++ behind) :
    ofOffset? text (byteLength before) = some (after before) := by
  rw [ofOffset?, cut, charactersBefore?_byteLength, Option.map_some]

/-- An offset that is further on in a text has a later position. -/
theorem after_precedes_after
    {earlier later rest others : List Char}
    (same : earlier ++ rest = later ++ others)
    (shorter : byteLength earlier < byteLength later) :
    (after earlier).Precedes (after later) := by
  obtain ⟨between, nonempty, rfl⟩ := exists_between same shorter
  rw [after_append_eq_foldl]
  exact precedes_foldl_advance _ nonempty

/-- No position comes before itself. -/
theorem not_precedes_self
    (position : Position) :
    ¬ position.Precedes position := by
  unfold Precedes
  omega

/-- What it means for positions to identify the offsets of a text. -/
structure IdentifyOffsets
    (text : String)
    (position? : Nat → Option Position) :
    Prop where
  /-- A position further on is a later one. -/
  ordered :
    ∀ earlier later,
      String.Pos.Raw.IsValid text ⟨earlier⟩ →
      String.Pos.Raw.IsValid text ⟨later⟩ →
      earlier < later →
      ∃ first second,
        position? earlier = some first ∧ position? later = some second ∧ first.Precedes second
  /-- Lines and columns are counted from one, and a walk is there at this offset alone. -/
  walked :
    ∀ offset,
      String.Pos.Raw.IsValid text ⟨offset⟩ →
      ∃ position,
        position? offset = some position ∧
          1 ≤ position.line ∧
          1 ≤ position.column ∧
          ∀ other, (other, position) ∈ walk text ↔ other = offset
  /-- Behind the end of the text there is only the position of its end. -/
  beyond :
    ∀ offset, text.utf8ByteSize ≤ offset → position? offset = position? text.utf8ByteSize

/-- A walk comes by the position of an offset at this offset, and at no other. -/
theorem mem_walk_after_iff
    {text : String}
    {before behind : List Char}
    (cut : text.toList = before ++ behind)
    (offset : Nat) :
    (offset, after before) ∈ walk text ↔ offset = byteLength before := by
  rw [mem_walk_iff]
  constructor
  · rintro ⟨passed, rest, other, place⟩
    obtain ⟨rfl, samePosition⟩ := Prod.mk.inj place
    have same := cut.symm.trans other
    -- Of two offsets with one position neither can be further on.
    rcases Nat.lt_trichotomy (byteLength passed) (byteLength before) with less | equal | greater
    · have ahead := after_precedes_after same.symm less
      rw [samePosition] at ahead
      exact absurd ahead (not_precedes_self _)
    · exact equal
    · have ahead := after_precedes_after same greater
      rw [samePosition] at ahead
      exact absurd ahead (not_precedes_self _)
  · rintro rfl
    exact ⟨before, behind, cut, rfl⟩

/--
The positions of a text identify its offsets: those between characters grow with their offset,
they are where a walk from the start is at that offset and at no other, and an offset past the
end has the position of the end.
-/
theorem identifyOffsets_ofOffset?
    (text : String) :
    IdentifyOffsets text (ofOffset? text) where
  ordered := by
    intro earlier later earlierValid laterValid before
    obtain ⟨front, rest, cut, rfl⟩ := isValid_iff_exists_append.mp earlierValid
    obtain ⟨longer, others, longerCut, rfl⟩ := isValid_iff_exists_append.mp laterValid
    exact ⟨after front, after longer, ofOffset?_of_append cut, ofOffset?_of_append longerCut,
      after_precedes_after (cut.symm.trans longerCut) before⟩
  walked := by
    intro offset valid
    obtain ⟨before, behind, cut, rfl⟩ := isValid_iff_exists_append.mp valid
    have counted := one_le_after before
    exact ⟨after before, ofOffset?_of_append cut, counted.1, counted.2, mem_walk_after_iff cut⟩
  beyond := by
    intro offset past
    rw [← byteLength_toList] at past ⊢
    rw [ofOffset?, ofOffset?, charactersBefore?_of_byteLength_le past,
      charactersBefore?_of_byteLength_le (Nat.le_refl _)]

/-- Two bytes of one character, a carriage return and an empty line on the way to a name. -/
example :
    walk "é\r\n\nx" =
      [(0, ⟨1, 1⟩), (2, ⟨1, 2⟩), (3, ⟨1, 3⟩), (4, ⟨2, 1⟩), (5, ⟨3, 1⟩), (6, ⟨3, 2⟩)] := by
  decide

end Position

end InitializerJson
