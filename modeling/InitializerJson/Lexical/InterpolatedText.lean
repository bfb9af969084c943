import InitializerJson.Lexical.QuotedText

namespace InitializerJson.Lexical

/-!
# Interpolated text

Interpolated text has `$` before its first quote, and `@` as well in its
verbatim form.  It is read as one piece: only its end is sought.  Braces open
and close holes, which may hold regular text with quotes of its own; outside
the holes a doubled brace stands for itself.
-/

/--
The text after the closing quote, read from behind the opening one; `depth`
counts the holes that are open.
-/
def afterInterpolatedBody?
    (verbatim : Bool)
    (depth : Nat)
    (text : List Char) :
    Option (List Char) :=
  match text with
  | [] => none
  | '"' :: rest =>
      if 0 < depth then
        match _inner : regularBody? rest with
        | some (_, after) => afterInterpolatedBody? verbatim depth after
        | none => none
      else if verbatim && rest.head? == some '"' then
        afterInterpolatedBody? verbatim depth rest.tail
      else
        some rest
  | '\\' :: rest =>
      if verbatim || 0 < depth then
        afterInterpolatedBody? verbatim depth rest
      else
        match _escape : escape? ('\\' :: rest) with
        | some (_, after) => afterInterpolatedBody? verbatim depth after
        | none => none
  | '{' :: rest =>
      if depth = 0 && rest.head? == some '{' then
        afterInterpolatedBody? verbatim depth rest.tail
      else
        afterInterpolatedBody? verbatim (depth + 1) rest
  | '}' :: rest =>
      if depth = 0 && rest.head? == some '}' then
        afterInterpolatedBody? verbatim depth rest.tail
      else
        afterInterpolatedBody? verbatim (depth - 1) rest
  | _ :: rest => afterInterpolatedBody? verbatim depth rest
termination_by text.length
decreasing_by
  · exact ((regularBody?_properSuffix _inner).cons).shorter
  · grind
  · grind
  · exact (escape?_properSuffix _escape).shorter
  · grind
  · grind
  · grind
  · grind
  · grind

/-- The text after interpolated text. -/
def afterInterpolatedText? : List Char → Option (List Char)
  | '$' :: '@' :: '"' :: rest => afterInterpolatedBody? true 0 rest
  | '@' :: '$' :: '"' :: rest => afterInterpolatedBody? true 0 rest
  | '$' :: '"' :: rest => afterInterpolatedBody? false 0 rest
  | _ => none

/-- Interpolated text takes its closing quote at least. -/
theorem afterInterpolatedBody?_properSuffix
    {verbatim : Bool}
    {depth : Nat}
    {text rest : List Char}
    (found : afterInterpolatedBody? verbatim depth text = some rest) :
    ProperSuffix rest text := by
  fun_induction afterInterpolatedBody? verbatim depth text with
  | case1 => cases found
  | case2 _ _ _ _ _ inner hypothesis =>
      exact ((hypothesis found).trans (regularBody?_properSuffix inner)).cons
  | case3 => cases found
  | case4 _ quoted _ _ hypothesis =>
      exact ((hypothesis found).trans_suffix (List.tail_suffix quoted)).cons
  | case5 =>
      cases found
      exact ProperSuffix.tail
  | case6 _ _ _ hypothesis => exact (hypothesis found).cons
  | case7 _ _ _ _ _ escape hypothesis =>
      exact (hypothesis found).trans (escape?_properSuffix escape)
  | case8 => cases found
  | case9 _ braced _ hypothesis =>
      exact ((hypothesis found).trans_suffix (List.tail_suffix braced)).cons
  | case10 _ _ _ hypothesis => exact (hypothesis found).cons
  | case11 _ braced _ hypothesis =>
      exact ((hypothesis found).trans_suffix (List.tail_suffix braced)).cons
  | case12 _ _ _ hypothesis => exact (hypothesis found).cons
  | case13 _ _ _ _ _ _ _ hypothesis => exact (hypothesis found).cons

/-- Interpolated text with its marks leaves a proper suffix. -/
theorem afterInterpolatedText?_properSuffix
    {text rest : List Char}
    (found : afterInterpolatedText? text = some rest) :
    ProperSuffix rest text := by
  unfold afterInterpolatedText? at found
  split at found
  · exact (afterInterpolatedBody?_properSuffix found).cons.cons.cons
  · exact (afterInterpolatedBody?_properSuffix found).cons.cons.cons
  · exact (afterInterpolatedBody?_properSuffix found).cons.cons
  · cases found

end InitializerJson.Lexical
