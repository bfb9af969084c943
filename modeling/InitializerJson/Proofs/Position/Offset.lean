import InitializerJson.Position

namespace InitializerJson

/-!
# Offsets of characters

The offset of a place is the number of bytes before it, so that an offset between two
characters names one way to cut the text in two.
-/

/-- The bytes of a first character come on top. -/
@[simp] theorem byteLength_cons
    (character : Char)
    (rest : List Char) :
    byteLength (character :: rest) = character.utf8Size + byteLength rest := by
  rfl

/-- The bytes of two texts add up. -/
@[simp] theorem byteLength_append
    (first second : List Char) :
    byteLength (first ++ second) = byteLength first + byteLength second := by
  induction first with
  | nil => exact (Nat.zero_add _).symm
  | cons character rest hypothesis =>
      rw [List.cons_append, byteLength_cons, hypothesis, byteLength_cons, Nat.add_assoc]

/-- A text that is not empty takes one byte at least. -/
theorem byteLength_pos
    {characters : List Char}
    (nonempty : characters ≠ []) :
    0 < byteLength characters := by
  cases characters with
  | nil => exact absurd rfl nonempty
  | cons character rest =>
      have positive := Char.utf8Size_pos character
      rw [byteLength_cons]
      omega

/-- A text is cut in the same two parts wherever the first parts are as long in bytes. -/
theorem append_inj_of_byteLength
    {first second rest others : List Char}
    (same : first ++ rest = second ++ others)
    (sameLength : byteLength first = byteLength second) :
    first = second ∧ rest = others := by
  induction first generalizing second with
  | nil =>
      cases second with
      | nil => exact ⟨rfl, same⟩
      | cons character more =>
          have positive := byteLength_pos (List.cons_ne_nil character more)
          rw [← sameLength] at positive
          exact absurd positive (Nat.lt_irrefl 0)
  | cons character more hypothesis =>
      cases second with
      | nil =>
          have positive := byteLength_pos (List.cons_ne_nil character more)
          rw [sameLength] at positive
          exact absurd positive (Nat.lt_irrefl 0)
      | cons other others =>
          rw [List.cons_append, List.cons_append, List.cons.injEq] at same
          obtain ⟨rfl, same⟩ := same
          rw [byteLength_cons, byteLength_cons, Nat.add_left_cancel_iff] at sameLength
          obtain ⟨rfl, sameRest⟩ := hypothesis same sameLength
          exact ⟨rfl, sameRest⟩

/-- The characters before the byte where a text goes on are those in front of it. -/
theorem charactersBefore?_byteLength
    (before rest : List Char) :
    charactersBefore? (before ++ rest) (byteLength before) = some before := by
  induction before with
  | nil => cases rest <;> simp [charactersBefore?, byteLength]
  | cons character before hypothesis =>
      have positive := Char.utf8Size_pos character
      rw [List.cons_append, charactersBefore?, byteLength_cons, if_neg (by omega),
        if_pos (by omega), Nat.add_sub_cancel_left, hypothesis]
      rfl

end InitializerJson
