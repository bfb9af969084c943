import InitializerJson.Lexical.Escape

namespace InitializerJson.Lexical

/-!
# Quoted text on one level

Regular text stands between double quotes and resolves escape sequences.
Verbatim text has `@` before its first quote, reaches over lines, and writes a
quote inside it twice.  A character literal stands between apostrophes and is
kept as written.
-/

/-- The value of a text grows by a character in front. -/
def prepend
    (character : Char)
    (read : List Char × List Char) :
    List Char × List Char :=
  (character :: read.1, read.2)

/--
The value of regular text and the text after its closing quote, read from
behind its opening quote.
-/
def regularBody?
    (text : List Char) :
    Option (List Char × List Char) :=
  match text with
  | [] => none
  | '\n' :: _ => none
  | '"' :: rest => some ([], rest)
  | '\\' :: escaped =>
      match _escape : escape? ('\\' :: escaped) with
      | some (character, rest) => (regularBody? rest).map (prepend character)
      | none => none
  | character :: rest => (regularBody? rest).map (prepend character)
termination_by text.length
decreasing_by
  · exact (escape?_properSuffix _escape).shorter
  · simp

/-- The value of regular text, quotes included in what is read. -/
def regularText? : List Char → Option (List Char × List Char)
  | '"' :: rest => regularBody? rest
  | _ => none

/--
The value of verbatim text and the text after its closing quote, read from
behind its opening quote.
-/
def verbatimBody? : List Char → Option (List Char × List Char)
  | [] => none
  | '"' :: '"' :: rest => (verbatimBody? rest).map (prepend '"')
  | '"' :: rest => some ([], rest)
  | character :: rest => (verbatimBody? rest).map (prepend character)

/-- The value of verbatim text, its marks included in what is read. -/
def verbatimText? : List Char → Option (List Char × List Char)
  | '@' :: '"' :: rest => verbatimBody? rest
  | _ => none

/-- The text after the one character, or its escape, of a character literal. -/
def afterCharacterBody? : List Char → Option (List Char)
  | [] => none
  | '\\' :: escaped => (escape? ('\\' :: escaped)).map Prod.snd
  | character :: rest =>
      if character = '\'' || character = '\n' then
        none
      else
        some rest

/-- The text after a character literal. -/
def afterCharacterLiteral? : List Char → Option (List Char)
  | '\'' :: rest =>
      (afterCharacterBody? rest).bind (afterMark? ['\''])
  | _ => none

/-- Regular text takes its closing quote at least. -/
theorem regularBody?_properSuffix
    {text : List Char}
    {read : List Char × List Char}
    (found : regularBody? text = some read) :
    ProperSuffix read.2 text := by
  fun_induction regularBody? text generalizing read with
  | case1 => cases found
  | case2 => cases found
  | case3 rest =>
      cases found
      exact ProperSuffix.tail
  | case4 escaped character rest escape hypothesis =>
      obtain ⟨inner, innerFound, rfl⟩ := Option.map_eq_some_iff.mp found
      exact (hypothesis innerFound).trans (escape?_properSuffix escape)
  | case5 => cases found
  | case6 character rest _ _ _ hypothesis =>
      obtain ⟨inner, innerFound, rfl⟩ := Option.map_eq_some_iff.mp found
      exact (hypothesis innerFound).cons

/-- Regular text with its quotes leaves a proper suffix. -/
theorem regularText?_properSuffix
    {text : List Char}
    {read : List Char × List Char}
    (found : regularText? text = some read) :
    ProperSuffix read.2 text := by
  unfold regularText? at found
  split at found
  · exact (regularBody?_properSuffix found).cons
  · cases found

/-- Verbatim text takes its closing quote at least. -/
theorem verbatimBody?_properSuffix
    {text : List Char}
    {read : List Char × List Char}
    (found : verbatimBody? text = some read) :
    ProperSuffix read.2 text := by
  fun_induction verbatimBody? text generalizing read with
  | case1 => cases found
  | case2 rest hypothesis =>
      obtain ⟨inner, innerFound, rfl⟩ := Option.map_eq_some_iff.mp found
      exact (hypothesis innerFound).cons.cons
  | case3 rest =>
      cases found
      exact ProperSuffix.tail
  | case4 character rest _ _ hypothesis =>
      obtain ⟨inner, innerFound, rfl⟩ := Option.map_eq_some_iff.mp found
      exact (hypothesis innerFound).cons

/-- Verbatim text with its marks leaves a proper suffix. -/
theorem verbatimText?_properSuffix
    {text : List Char}
    {read : List Char × List Char}
    (found : verbatimText? text = some read) :
    ProperSuffix read.2 text := by
  unfold verbatimText? at found
  split at found
  · exact (verbatimBody?_properSuffix found).cons.cons
  · cases found

/-- The body of a character literal leaves a suffix. -/
theorem afterCharacterBody?_suffix
    {text rest : List Char}
    (found : afterCharacterBody? text = some rest) :
    rest <:+ text := by
  unfold afterCharacterBody? at found
  split at found
  · cases found
  · obtain ⟨read, escape, rfl⟩ := Option.map_eq_some_iff.mp found
    exact (escape?_properSuffix escape).suffix
  · split at found
    · cases found
    · cases found
      exact List.suffix_cons _ _

/-- A character literal takes its opening quote at least. -/
theorem afterCharacterLiteral?_properSuffix
    {text rest : List Char}
    (found : afterCharacterLiteral? text = some rest) :
    ProperSuffix rest text := by
  unfold afterCharacterLiteral? at found
  split at found
  · obtain ⟨middle, body, closed⟩ := Option.bind_eq_some_iff.mp found
    have shape := afterMark?_eq_some_iff.mp closed
    exact ProperSuffix.cons_of_suffix
      (List.IsSuffix.trans ⟨_, shape.symm⟩ (afterCharacterBody?_suffix body))
  · cases found

end InitializerJson.Lexical
