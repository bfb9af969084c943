namespace InitializerJson

/-!
# What a reader leaves

A reader takes some items from the front of a list and leaves the others.  What
it leaves is a suffix of the list, and a proper one when it takes anything.
-/

/-- A suffix that lacks at least one item of the whole. -/
structure ProperSuffix {α : Type} (rest whole : List α) : Prop where
  suffix : rest <:+ whole
  shorter : rest.length < whole.length

namespace ProperSuffix

variable {α : Type} {rest middle whole : List α} {first : α}

/-- What a reader leaves after it has taken the first item. -/
theorem cons_of_suffix
    (suffix : rest <:+ whole) :
    ProperSuffix rest (first :: whole) where
  suffix :=
    suffix.trans (List.suffix_cons first whole)
  shorter :=
    Nat.lt_succ_of_le suffix.length_le

/-- Dropping the first item leaves a proper suffix. -/
theorem tail :
    ProperSuffix rest (first :: rest) :=
  cons_of_suffix (List.suffix_refl rest)

/-- A suffix of a proper suffix is a proper suffix. -/
theorem of_suffix
    (inner : rest <:+ middle)
    (outer : ProperSuffix middle whole) :
    ProperSuffix rest whole where
  suffix :=
    inner.trans outer.suffix
  shorter :=
    Nat.lt_of_le_of_lt inner.length_le outer.shorter

/-- A proper suffix of a suffix is a proper suffix. -/
theorem trans_suffix
    (inner : ProperSuffix rest middle)
    (outer : middle <:+ whole) :
    ProperSuffix rest whole where
  suffix :=
    inner.suffix.trans outer
  shorter :=
    Nat.lt_of_lt_of_le inner.shorter outer.length_le

/-- Proper suffixes compose. -/
theorem trans
    (inner : ProperSuffix rest middle)
    (outer : ProperSuffix middle whole) :
    ProperSuffix rest whole :=
  of_suffix inner.suffix outer

/-- A proper suffix stays one when an item is put before the whole. -/
theorem cons
    (inner : ProperSuffix rest whole) :
    ProperSuffix rest (first :: whole) :=
  cons_of_suffix inner.suffix

end ProperSuffix

/-- The items in front of what a reader left. -/
def taken
    {α : Type}
    (whole rest : List α) :
    List α :=
  whole.take (whole.length - rest.length)

/-- What was taken and what was left make up the whole. -/
theorem taken_append
    {α : Type}
    {whole rest : List α}
    (suffix : rest <:+ whole) :
    taken whole rest ++ rest = whole := by
  obtain ⟨front, rfl⟩ := suffix
  simp [taken]

/-- The items in front of a suffix are what was taken. -/
@[simp] theorem taken_append_left
    {α : Type}
    (front rest : List α) :
    taken (front ++ rest) rest = front := by
  simp [taken]

/-- What was taken begins with what stands in front. -/
theorem taken_append_of_suffix
    {rest text : List Char}
    (suffix : rest <:+ text)
    (front : List Char) :
    taken (front ++ text) rest = front ++ taken text rest := by
  obtain ⟨before, rfl⟩ := suffix
  rw [← List.append_assoc, taken_append_left, taken_append_left]

/-- A run of items of one class ends here: nothing of the class follows. -/
def EndsRun
    {α : Type}
    (belongs : α → Bool)
    (rest : List α) :
    Prop :=
  ∀ item ∈ rest.head?, belongs item = false

/-- No run goes on behind an item outside its class. -/
theorem endsRun_cons
    {α : Type}
    {belongs : α → Bool}
    {next : α}
    {rest : List α}
    (outside : belongs next = false) :
    EndsRun belongs (next :: rest) := by
  intro item first
  cases first
  exact outside

/-- A class that is part of another ends wherever the other does. -/
theorem endsRun_of_imp
    {α : Type}
    {narrow wide : α → Bool}
    {rest : List α}
    (part : ∀ item, narrow item = true → wide item = true)
    (ends : EndsRun wide rest) :
    EndsRun narrow rest := by
  intro item first
  have outside := ends item first
  cases inside : narrow item with
  | false => rfl
  | true =>
      rw [part item inside] at outside
      cases outside

/-- A run of one class is dropped up to where it ends. -/
theorem dropWhile_append_of_endsRun
    {α : Type}
    {belongs : α → Bool}
    {run rest : List α}
    (inClass : ∀ item ∈ run, belongs item = true)
    (ends : EndsRun belongs rest) :
    (run ++ rest).dropWhile belongs = rest := by
  rw [List.dropWhile_append_of_pos inClass]
  cases rest with
  | nil => rfl
  | cons item others =>
      exact List.dropWhile_cons_of_neg (by simp [ends item (by simp)])

/-- A run of one class is taken up to where it ends. -/
theorem takeWhile_append_of_endsRun
    {α : Type}
    {belongs : α → Bool}
    {run rest : List α}
    (inClass : ∀ item ∈ run, belongs item = true)
    (ends : EndsRun belongs rest) :
    (run ++ rest).takeWhile belongs = run := by
  rw [List.takeWhile_append_of_pos inClass]
  cases rest with
  | nil => simp
  | cons item others => simp [ends item (by simp)]

/-- The items after `mark`, where the items begin with it. -/
def afterMark?
    {α : Type}
    [DecidableEq α] :
    List α → List α → Option (List α)
  | [], items => some items
  | _ :: _, [] => none
  | sign :: mark, item :: items =>
      if sign = item then
        afterMark? mark items
      else
        none

/-- A mark is passed exactly where the items begin with it. -/
theorem afterMark?_eq_some_iff
    {α : Type}
    [DecidableEq α]
    {mark items rest : List α} :
    afterMark? mark items = some rest ↔ items = mark ++ rest := by
  fun_induction afterMark? mark items <;> grind

/--
The items before the first place where `mark` stands, and those after that
`mark`.
-/
def splitAtMark?
    {α : Type}
    [DecidableEq α]
    (mark : List α) :
    List α → Option (List α × List α)
  | [] => none
  | item :: items =>
      match afterMark? mark (item :: items) with
      | some after => some ([], after)
      | none =>
          (splitAtMark? mark items).map fun parts =>
            (item :: parts.1, parts.2)

/-- The parts around a mark make up the items with it. -/
theorem eq_append_of_splitAtMark?
    {α : Type}
    [DecidableEq α]
    {mark items : List α}
    {parts : List α × List α}
    (found : splitAtMark? mark items = some parts) :
    items = parts.1 ++ mark ++ parts.2 := by
  induction items generalizing parts with
  | nil => simp [splitAtMark?] at found
  | cons item items hypothesis =>
      rw [splitAtMark?] at found
      split at found
      · next after matched =>
          cases found
          simpa using afterMark?_eq_some_iff.mp matched
      · obtain ⟨inner, innerFound, rfl⟩ := Option.map_eq_some_iff.mp found
        simpa using hypothesis innerFound

/-- No earlier place than the one that is found has the whole mark. -/
theorem first_of_splitAtMark?
    {α : Type}
    [DecidableEq α]
    {mark items : List α}
    {parts : List α × List α}
    (found : splitAtMark? mark items = some parts)
    (filled : mark ≠ []) :
    ¬ mark <:+: parts.1 ++ mark.dropLast := by
  induction items generalizing parts with
  | nil => simp [splitAtMark?] at found
  | cons item items hypothesis =>
      rw [splitAtMark?] at found
      split at found
      · cases found
        intro occurs
        have shorter := occurs.length_le
        have positive := List.length_pos_iff.mpr filled
        simp only [List.nil_append, List.length_dropLast] at shorter
        omega
      · next absent =>
          obtain ⟨inner, innerFound, rfl⟩ := Option.map_eq_some_iff.mp found
          intro occurs
          rcases List.infix_cons_iff.mp occurs with atFront | later
          · obtain ⟨behind, shape⟩ := atFront
            have begins : item :: (inner.1 ++ mark.dropLast) = mark ++ behind :=
              shape.symm
            have whole : item :: items = mark ++ (behind ++ ([mark.getLast filled] ++ inner.2)) := by
              calc
                item :: items
                    = item :: (inner.1 ++ (mark.dropLast ++ [mark.getLast filled]) ++ inner.2) := by
                  rw [List.dropLast_concat_getLast, ← eq_append_of_splitAtMark? innerFound]
                _ = (item :: (inner.1 ++ mark.dropLast)) ++ ([mark.getLast filled] ++ inner.2) := by
                  simp only [List.cons_append, List.append_assoc]
                _ = mark ++ (behind ++ ([mark.getLast filled] ++ inner.2)) := by
                  rw [begins, List.append_assoc]
            rw [afterMark?_eq_some_iff.mpr whole] at absent
            cases absent
          · exact hypothesis innerFound later

/-- A mark does not occur before its first place. -/
theorem not_infix_of_splitAtMark?
    {α : Type}
    [DecidableEq α]
    {mark items : List α}
    {parts : List α × List α}
    (found : splitAtMark? mark items = some parts)
    (nonempty : mark ≠ []) :
    ¬ mark <:+: parts.1 :=
  fun occurs =>
    first_of_splitAtMark? found nonempty (occurs.trans (List.prefix_append _ _).isInfix)

/-- A mark that is found nowhere does not occur. -/
theorem not_infix_of_splitAtMark?_eq_none
    {α : Type}
    [DecidableEq α]
    {mark items : List α}
    (filled : mark ≠ [])
    (absent : splitAtMark? mark items = none) :
    ¬ mark <:+: items := by
  induction items with
  | nil => simpa using filled
  | cons item items hypothesis =>
      rw [splitAtMark?] at absent
      split at absent
      · cases absent
      · next notHere =>
          intro occurs
          rcases List.infix_cons_iff.mp occurs with atFront | later
          · obtain ⟨behind, shape⟩ := atFront
            rw [afterMark?_eq_some_iff.mpr shape.symm] at notHere
            cases notHere
          · exact hypothesis (Option.map_eq_none_iff.mp absent) later

/-- A mark stands first where no earlier place has it whole. -/
theorem splitAtMark?_of_first
    {α : Type}
    [DecidableEq α]
    {mark front : List α}
    (rest : List α)
    (filled : mark ≠ [])
    (first : ¬ mark <:+: front ++ mark.dropLast) :
    splitAtMark? mark (front ++ (mark ++ rest)) = some (front, rest) := by
  induction front with
  | nil =>
      obtain ⟨sign, signs, rfl⟩ := List.exists_cons_of_ne_nil filled
      have atOnce : afterMark? (sign :: signs) (sign :: (signs ++ rest)) = some rest :=
        afterMark?_eq_some_iff.mpr rfl
      rw [List.nil_append, List.cons_append, splitAtMark?, atOnce]
  | cons item front hypothesis =>
      have notHere : afterMark? mark (item :: (front ++ (mark ++ rest))) = none := by
        cases found : afterMark? mark (item :: (front ++ (mark ++ rest))) with
        | none => rfl
        | some behind =>
            have shape : item :: (front ++ (mark ++ rest)) = mark ++ behind :=
              afterMark?_eq_some_iff.mp found
            -- The mark is no longer than what stands before its own last item.
            have isPrefix : mark <+: item :: front ++ mark.dropLast := by
              have whole :
                  item :: (front ++ (mark ++ rest)) =
                    (item :: front ++ mark.dropLast) ++ ([mark.getLast filled] ++ rest) := by
                calc
                  item :: (front ++ (mark ++ rest))
                      = item :: (front ++ (mark.dropLast ++ [mark.getLast filled] ++ rest)) := by
                    rw [List.dropLast_concat_getLast]
                  _ = _ := by
                    simp only [List.cons_append, List.append_assoc]
              apply List.prefix_of_prefix_length_le ⟨behind, shape.symm⟩ ⟨_, whole.symm⟩
              simp only [List.length_append, List.length_cons, List.length_dropLast]
              omega
            exact absurd isPrefix.isInfix first
      have firstBehind : ¬ mark <:+: front ++ mark.dropLast :=
        fun occurs => first (occurs.trans (List.suffix_cons item _).isInfix)
      rw [List.cons_append, splitAtMark?, notHere, hypothesis firstBehind]
      rfl

/-- What stands behind a mark is a suffix. -/
theorem splitAtMark?_suffix
    {α : Type}
    [DecidableEq α]
    {mark items : List α}
    {parts : List α × List α}
    (found : splitAtMark? mark items = some parts) :
    parts.2 <:+ items :=
  ⟨parts.1 ++ mark, (eq_append_of_splitAtMark? found).symm⟩

/--
The parts of a list between the places where a separator stands.  There is
always one part at least.
-/
def splitAtEach
    {α : Type}
    [DecidableEq α]
    (separator : α) :
    List α → List (List α)
  | [] => [[]]
  | item :: items =>
      if item = separator then
        [] :: splitAtEach separator items
      else
        match splitAtEach separator items with
        | [] => [[item]]
        | part :: parts => (item :: part) :: parts

end InitializerJson
