import InitializerJson.Proofs.Site.Declarators

namespace InitializerJson

open Lexical

/-!
# Assignments among some tokens

The assignments of a source are those that begin among its tokens, stretch by stretch.
Whether one begins before a name depends on what stands right before the name and behind
it, and on the innermost bracket that is open there.
-/

/-- The assignments that begin among some tokens, with `front` before them and `rest` behind. -/
def assignmentsAmong
    (front tokens rest : List Token) :
    List Assignment :=
  (((Site.allFrom front.reverse tokens).map (Site.continued · rest)).filter
    Site.beginsAssignment).map Site.assignment

/-! ## Stretches -/

section Stretches

variable
  (front first second rest : List Token)

/-- The assignments of a source begin among its tokens. -/
theorem assignments_eq_among
    (tokens : List Token) :
    assignments tokens = assignmentsAmong [] tokens [] := by
  have same : (Site.continued · []) = id := by
    funext site
    simp [Site.continued]
  rw [assignments, assignmentsAmong, same, List.map_id]
  rfl

/-- Assignments begin among the tokens of two stretches, those of the first one first. -/
theorem assignmentsAmong_append :
    assignmentsAmong front (first ++ second) rest =
      assignmentsAmong front first (second ++ rest) ++
        assignmentsAmong (front ++ first) second rest := by
  simp only [assignmentsAmong, Site.allFrom_append, List.map_append, List.filter_append,
    List.reverse_append, List.map_map]
  congr 4
  funext site
  simp [Site.continued]

/-- The assignments of a source begin before a stretch, in it, or behind it. -/
theorem assignments_append_append
    (tokens : List Token) :
    assignments (front ++ (tokens ++ rest)) =
      assignmentsAmong [] front (tokens ++ rest) ++
        (assignmentsAmong front tokens rest ++ assignmentsAmong (front ++ tokens) rest []) := by
  rw [assignments_eq_among, assignmentsAmong_append, assignmentsAmong_append]
  simp only [List.nil_append, List.append_nil]

variable
  {front rest}

/-- No assignment begins among tokens that are passed over. -/
theorem assignmentsAmong_eq_nil
    {tokens : List Token}
    (passed :
      (Site.allFrom front.reverse (tokens ++ rest)).filter Site.beginsAssignment =
        (Site.allFrom (tokens.reverse ++ front.reverse) rest).filter Site.beginsAssignment) :
    assignmentsAmong front tokens rest = [] := by
  rw [Site.allFrom_append, List.filter_append] at passed
  rw [assignmentsAmong, List.append_left_eq_self.mp passed, List.map_nil]

/-- No assignment begins before a token that is no word, or a reserved one. -/
theorem assignmentsAmong_of_reserved
    {tokens : List Token}
    (reserved : ∀ token ∈ tokens, ∀ word ∈ token.word?, isReserved word = true) :
    assignmentsAmong front tokens rest = [] :=
  assignmentsAmong_eq_nil (Site.filter_allFrom_of_reserved _ reserved rest)

/-- No assignment begins before a mark. -/
theorem assignmentsAmong_of_mark
    {token : Token}
    {mark : Punctuator}
    (isMark : token.punctuator? = some mark) :
    assignmentsAmong front [token] rest = [] := by
  apply assignmentsAmong_of_reserved
  simp [Token.word?_of_mark isMark]

/-- No assignment begins before a token with no sign of one behind it. -/
theorem assignmentsAmong_of_noSign
    {tokens : List Token}
    (noSign : ∀ token ∈ tokens, token.punctuator? ≠ some .assign)
    (notNext : startsWith .assign rest = false) :
    assignmentsAmong front tokens rest = [] :=
  assignmentsAmong_eq_nil (Site.filter_allFrom_of_noSign _ noSign notNext)

end Stretches

/-! ## Names -/

namespace Site

variable
  {opening : Token}

/-- Right behind an opening bracket this bracket is the innermost one that is open. -/
theorem enclosingOpener?_of_mark
    {mark : Punctuator}
    (isMark : opening.punctuator? = some mark)
    (opens : mark.isOpener = true)
    (before : List Token) :
    enclosingOpener? 0 (opening :: before) = some (opening, before) := by
  have isOpener : opening.isOpener = true := by
    simpa [Token.isOpener, isMark] using opens
  have notCloser : opening.isCloser = false := by
    rw [← Bool.not_eq_true]
    intro closes
    rw [isOpener_of_isCloser closes] at isOpener
    cases isOpener
  rw [enclosingOpener?, notCloser, isOpener]
  rfl

/-- Tokens whose brackets come in pairs declare nothing for what stands behind them. -/
theorem declaresMember_of_isBracketed
    {tokens : List Token}
    (bracketed : IsBracketed tokens)
    (before : List Token) :
    declaresMember (tokens.reverse ++ before) = declaresMember before := by
  rw [declaresMember, enclosingOpener?_of_isBracketed bracketed, declaresMember]

/-- Inside braces a member is declared exactly if `new` stands right before them. -/
theorem declaresMember_openBrace
    (opens : opening.punctuator? = some .openBrace)
    (before : List Token) :
    declaresMember (opening :: before) = (firstWord? before == some "new") := by
  simp [declaresMember, enclosingOpener?_of_mark opens rfl, startsWith, opens]

/-- Inside parentheses an argument is named exactly if they stand in a list of attributes. -/
theorem declaresMember_openParenthesis
    (opens : opening.punctuator? = some .openParenthesis)
    (before : List Token) :
    declaresMember (opening :: before) =
      (enclosingOpener? 0 before).any fun enclosing => opensAttributes enclosing.1 enclosing.2 := by
  simp [declaresMember, enclosingOpener?_of_mark opens rfl, startsWith, opens]

/-- Behind a mark a name stands by itself unless the mark binds it. -/
theorem separatesName_of_mark
    {token : Token}
    {mark : Punctuator}
    (isMark : token.punctuator? = some mark)
    (before : List Token) :
    separatesName (token :: before) = !bindsName mark := by
  rcases token with ⟨kind, gap, lexeme⟩
  cases kind with
  | punctuator known =>
      cases isMark
      rfl
  | _ => cases isMark

/-- Whether a name is free to be assigned to, behind some tokens and by itself. -/
def isFree
    (before : List Token)
    (word : String) :
    Bool :=
  !isReserved word && separatesName before && !declaresMember before

end Site

/-- Before a name with a sign behind it an assignment begins exactly if the name is free. -/
theorem assignmentsAmong_name
    {name sign : Token}
    {word : String}
    (isName : name.word? = some word)
    (isSign : sign.punctuator? = some .assign)
    (front rest : List Token) :
    assignmentsAmong front [name] (sign :: rest) =
      if Site.isFree front.reverse word then [⟨word, (readExpression rest).1⟩] else [] := by
  have begins :
      Site.beginsAssignment ⟨front.reverse, name :: sign :: rest⟩ =
        Site.isFree front.reverse word := by
    simp [Site.beginsAssignment, Site.word?, firstWord?, isName, startsWith, isSign, Site.isFree]
  have assigned :
      Site.assignment ⟨front.reverse, name :: sign :: rest⟩ =
        ⟨word, (readExpression rest).1⟩ := by
    simp [Site.assignment, Site.word?, firstWord?, isName]
  have site :
      (Site.allFrom front.reverse [name]).map (Site.continued · (sign :: rest)) =
        [⟨front.reverse, name :: sign :: rest⟩] := by
    rfl
  rw [assignmentsAmong, site, List.filter_cons, begins]
  split
  · rw [List.filter_nil, List.map_cons, assigned, List.map_nil]
  · rfl

end InitializerJson
