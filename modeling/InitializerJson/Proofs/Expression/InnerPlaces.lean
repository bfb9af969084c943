import InitializerJson.Expression.Reader

namespace InitializerJson

open Lexical

/-!
# Where inner expressions are read

Each layer of a reading asks the reader of inner expressions at certain places:
in front of every argument and entry, and behind the sign of an assignment.  The
places of every reader are listed here, in the order in which they are read.

Two inner readers that agree at these places lead to the same reading with the
same places.  Nothing else of the inner reader matters to a layer.
-/

/-- One step along a list of arguments. -/
theorem readArgumentList_step
    (inner : Reader Expression)
    (tokens : List Token) :
    readArgumentList inner tokens =
      let first := inner.read (skipLabel tokens)
      if startsWith .comma first.2 then
        let others := readArgumentList inner first.2.tail
        (first.1 :: others.1, others.2)
      else
        ([first.1], skipOptional .closeParenthesis first.2) := by
  conv => lhs; rw [readArgumentList]
  rcases inner.read (skipLabel tokens) with ⟨first, behind⟩
  simp only [dite_eq_ite]

/-- One step along the entries of a block. -/
theorem readEntries_step
    (inner : Reader Expression)
    (tokens : List Token) :
    readEntries inner tokens =
      if tokens.isEmpty then
        ([], [])
      else if startsWith .closeBrace tokens then
        ([], tokens.tail)
      else
        let first := inner.read tokens
        if startsWith .comma first.2 then
          let others := readEntries inner first.2.tail
          (first.1 :: others.1, others.2)
        else
          ([first.1], skipOptional .closeBrace first.2) := by
  conv => lhs; rw [readEntries]
  rcases inner.read tokens with ⟨first, behind⟩
  simp only [dite_eq_ite]

/-- One step along a chain. -/
theorem readChain_step
    (inner : Reader Expression)
    (start : List Token)
    (last : ChainEnd)
    (tokens : List Token) :
    readChain inner start last tokens =
      if startsMember tokens then
        readChain inner start .member tokens.tail.tail
      else if startsWith .openParenthesis tokens then
        let arguments := readArguments inner tokens.tail
        readChain inner start (.call tokens arguments.1) arguments.2
      else if startsWith .openBracket tokens then
        readChain inner start .access (afterGroup 0 tokens)
      else
        (last.toExpression start tokens, tokens) := by
  conv => lhs; rw [readChain]
  rcases readArguments inner tokens.tail with ⟨arguments, behind⟩
  simp only [dite_eq_ite]

/-- The places at which an argument list reads its arguments, behind their labels. -/
def argumentListPlaces
    (inner : Reader Expression)
    (tokens : List Token) :
    List (List Token) :=
  let behind := (inner.read (skipLabel tokens)).2
  if _comma : startsWith .comma behind then
    skipLabel tokens :: argumentListPlaces inner behind.tail
  else
    [skipLabel tokens]
termination_by tokens.length
decreasing_by
  exact Nat.lt_of_lt_of_le (length_tail_lt_of_startsWith _comma)
    ((inner.suffix (skipLabel tokens)).trans (skipLabel_suffix tokens)).length_le

/-- The places at which the arguments behind an opening parenthesis are read. -/
def argumentPlaces
    (inner : Reader Expression)
    (tokens : List Token) :
    List (List Token) :=
  if startsWith .closeParenthesis tokens then
    []
  else
    argumentListPlaces inner tokens

/-- The places at which the entries behind an opening brace are read. -/
def entryPlaces
    (inner : Reader Expression)
    (tokens : List Token) :
    List (List Token) :=
  if tokens.isEmpty || startsWith .closeBrace tokens then
    []
  else
    let behind := (inner.read tokens).2
    if _comma : startsWith .comma behind then
      tokens :: entryPlaces inner behind.tail
    else
      [tokens]
termination_by tokens.length
decreasing_by
  exact Nat.lt_of_lt_of_le (length_tail_lt_of_startsWith _comma) (inner.suffix tokens).length_le

/-- The places at which the entries of a block that may be absent are read. -/
def blockPlaces
    (inner : Reader Expression)
    (tokens : List Token) :
    List (List Token) :=
  if startsWith .openBrace tokens then
    entryPlaces inner tokens.tail
  else
    []

/-- The places at which arguments that may be absent are read. -/
def optionalArgumentPlaces
    (inner : Reader Expression)
    (tokens : List Token) :
    List (List Token) :=
  if startsWith .openParenthesis tokens then
    argumentPlaces inner tokens.tail
  else
    []

/-- The places at which the arguments and entries of a creation are read. -/
def creationPlaces
    (inner : Reader Expression)
    (tokens : List Token) :
    List (List Token) :=
  let behind := tokens.tail
  if startsWith .openParenthesis behind then
    argumentPlaces inner behind.tail ++ blockPlaces inner (readArguments inner behind.tail).2
  else if startsWith .openBrace behind || startsWith .openBracket behind then
    []
  else
    match readDeclaredType behind with
    | (.named _, rest) =>
        optionalArgumentPlaces inner rest ++
          blockPlaces inner (readOptionalArguments inner rest).2
    | _ => []

/-- The places at which the arguments of the calls of a chain are read. -/
def chainPlaces
    (inner : Reader Expression)
    (tokens : List Token) :
    List (List Token) :=
  if _member : startsMember tokens then
    chainPlaces inner tokens.tail.tail
  else if _call : startsWith .openParenthesis tokens then
    argumentPlaces inner tokens.tail ++ chainPlaces inner (readArguments inner tokens.tail).2
  else if _access : startsWith .openBracket tokens then
    chainPlaces inner (afterGroup 0 tokens)
  else
    []
termination_by tokens.length
decreasing_by
  · exact length_lt_of_startsMember _member
  · exact Nat.lt_of_le_of_lt (readArguments_suffix inner tokens.tail).length_le
      (length_tail_lt_of_startsWith _call)
  · exact afterGroup_length_lt (ne_nil_of_startsWith _access)

/-- The places at which an expression that begins with a word reads inner ones. -/
def wordPlaces
    (inner : Reader Expression)
    (word : String)
    (tokens : List Token) :
    List (List Token) :=
  if word = "new" then
    creationPlaces inner tokens
  else if beginsChain word then
    chainPlaces inner tokens.tail
  else
    []

/-- The places at which an expression without operators reads inner ones. -/
def primaryPlaces
    (inner : Reader Expression)
    (tokens : List Token) :
    List (List Token) :=
  match tokens with
  | [] => []
  | token :: rest =>
      match token.kind with
      | .identifier word => wordPlaces inner word tokens
      | .punctuator .openBrace => entryPlaces inner rest
      | _ => []

/-- The place behind the sign of an assignment, if an expression is one. -/
def assignedPlaces
    (left : Expression)
    (behind : List Token) :
    List (List Token) :=
  if startsWith .assign behind && left.isAssignable then
    [behind.tail]
  else
    []

/-- The places at which an expression reads inner ones. -/
def operationPlaces
    (inner : Reader Expression)
    (tokens : List Token) :
    List (List Token) :=
  primaryPlaces inner tokens ++
    assignedPlaces (readPrimary inner tokens).1 (readPrimary inner tokens).2

/-! ## The places lie behind the first token -/

section Suffixes

variable
  {inner : Reader Expression}
  {tokens place : List Token}

/-- Arguments are read in front of a suffix. -/
theorem suffix_of_mem_argumentListPlaces
    (member : place ∈ argumentListPlaces inner tokens) :
    place <:+ tokens := by
  fun_induction argumentListPlaces inner tokens with
  | case1 tokens behind comma hypothesis =>
      rcases List.mem_cons.mp member with rfl | later
      · exact skipLabel_suffix tokens
      · exact ((hypothesis later).trans (List.tail_suffix behind)).trans
          ((inner.suffix (skipLabel tokens)).trans (skipLabel_suffix tokens))
  | case2 tokens behind comma =>
      cases List.mem_singleton.mp member
      exact skipLabel_suffix tokens

/-- Arguments in parentheses are read in front of a suffix. -/
theorem suffix_of_mem_argumentPlaces
    (member : place ∈ argumentPlaces inner tokens) :
    place <:+ tokens := by
  unfold argumentPlaces at member
  split at member
  · cases member
  · exact suffix_of_mem_argumentListPlaces member

/-- Entries are read in front of a suffix. -/
theorem suffix_of_mem_entryPlaces
    (member : place ∈ entryPlaces inner tokens) :
    place <:+ tokens := by
  fun_induction entryPlaces inner tokens with
  | case1 tokens ended => cases member
  | case2 tokens goesOn behind comma hypothesis =>
      rcases List.mem_cons.mp member with rfl | later
      · exact List.suffix_refl place
      · exact ((hypothesis later).trans (List.tail_suffix behind)).trans (inner.suffix tokens)
  | case3 tokens goesOn behind comma =>
      obtain rfl := List.mem_singleton.mp member
      exact List.suffix_refl place

/-- The entries of a block that may be absent are read in front of a suffix. -/
theorem suffix_of_mem_blockPlaces
    (member : place ∈ blockPlaces inner tokens) :
    place <:+ tokens := by
  unfold blockPlaces at member
  split at member
  · exact (suffix_of_mem_entryPlaces member).trans (List.tail_suffix tokens)
  · cases member

/-- Arguments that may be absent are read in front of a suffix. -/
theorem suffix_of_mem_optionalArgumentPlaces
    (member : place ∈ optionalArgumentPlaces inner tokens) :
    place <:+ tokens := by
  unfold optionalArgumentPlaces at member
  split at member
  · exact (suffix_of_mem_argumentPlaces member).trans (List.tail_suffix tokens)
  · cases member

/-- The parts of a creation are read behind its `new`. -/
theorem suffix_of_mem_creationPlaces
    (member : place ∈ creationPlaces inner tokens) :
    place <:+ tokens.tail := by
  unfold creationPlaces at member
  simp only at member
  split at member
  · have behind := List.tail_suffix tokens.tail
    rcases List.mem_append.mp member with inArguments | inBlock
    · exact (suffix_of_mem_argumentPlaces inArguments).trans behind
    · exact (suffix_of_mem_blockPlaces inBlock).trans
        ((readArguments_suffix inner _).trans behind)
  · split at member
    · cases member
    · have behind := readDeclaredType_suffix tokens.tail
      rcases declared : readDeclaredType tokens.tail with ⟨type, rest⟩
      rw [declared] at member behind
      cases type with
      | malformed | array => cases member
      | named type =>
          rcases List.mem_append.mp member with inArguments | inBlock
          · exact (suffix_of_mem_optionalArgumentPlaces inArguments).trans behind
          · exact (suffix_of_mem_blockPlaces inBlock).trans
              ((readOptionalArguments_suffix inner rest).trans behind)

/-- The arguments of the calls of a chain are read in front of a suffix. -/
theorem suffix_of_mem_chainPlaces
    (member : place ∈ chainPlaces inner tokens) :
    place <:+ tokens := by
  fun_induction chainPlaces inner tokens with
  | case1 tokens isMember hypothesis =>
      exact (hypothesis member).trans
        ((List.tail_suffix tokens.tail).trans (List.tail_suffix tokens))
  | case2 tokens noMember call hypothesis =>
      have behind := List.tail_suffix tokens
      rcases List.mem_append.mp member with inArguments | later
      · exact (suffix_of_mem_argumentPlaces inArguments).trans behind
      · exact (hypothesis later).trans ((readArguments_suffix inner _).trans behind)
  | case3 tokens noMember noCall access hypothesis =>
      exact (hypothesis member).trans (afterGroup_suffix 0 tokens)
  | case4 tokens noMember noCall noAccess => cases member

/-- Inner expressions are read in front of a suffix. -/
theorem suffix_of_mem_primaryPlaces
    (member : place ∈ primaryPlaces inner tokens) :
    place <:+ tokens := by
  unfold primaryPlaces at member
  split at member
  · cases member
  · next token rest =>
      have behind := List.suffix_cons token rest
      split at member
      · unfold wordPlaces at member
        split at member
        · exact (suffix_of_mem_creationPlaces member).trans behind
        · split at member
          · exact (suffix_of_mem_chainPlaces member).trans behind
          · cases member
      · exact (suffix_of_mem_entryPlaces member).trans behind
      · cases member

/-- Inner expressions and assigned values are read in front of a suffix. -/
theorem suffix_of_mem_operationPlaces
    (member : place ∈ operationPlaces inner tokens) :
    place <:+ tokens := by
  rcases List.mem_append.mp member with inPrimary | assigned
  · exact suffix_of_mem_primaryPlaces inPrimary
  · unfold assignedPlaces at assigned
    split at assigned
    · cases List.mem_singleton.mp assigned
      exact (List.tail_suffix _).trans (readPrimary_suffix inner tokens)
    · cases assigned

end Suffixes

/-! ## Agreement at the places -/

/-- Two readers give the same at some places. -/
def Agree
    (first second : Reader Expression)
    (places : List (List Token)) :
    Prop :=
  ∀ place ∈ places, second.read place = first.read place

/-- Readers agree at the places of two lists exactly when they agree at those of each. -/
theorem agree_append
    {first second : Reader Expression}
    {places others : List (List Token)} :
    Agree first second (places ++ others) ↔
      Agree first second places ∧ Agree first second others :=
  List.forall_mem_append

/-- Readers that agree at the first place and the others agree at all of them. -/
theorem agree_cons
    {first second : Reader Expression}
    {place : List Token}
    {places : List (List Token)} :
    Agree first second (place :: places) ↔
      second.read place = first.read place ∧ Agree first second places :=
  List.forall_mem_cons

section Agreement

variable
  {first second : Reader Expression}
  {tokens : List Token}

/-- Arguments are the same for readers that agree where these are read. -/
theorem readArgumentList_congr
    (agree : Agree first second (argumentListPlaces first tokens)) :
    readArgumentList second tokens = readArgumentList first tokens ∧
      argumentListPlaces second tokens = argumentListPlaces first tokens := by
  fun_induction argumentListPlaces first tokens with
  | case1 tokens behind comma hypothesis =>
      obtain ⟨here, later⟩ := agree_cons.mp agree
      obtain ⟨same, samePlaces⟩ := hypothesis later
      rw [readArgumentList_step second, readArgumentList_step first, argumentListPlaces, here]
      simp only [behind] at comma same samePlaces
      simp only [comma, same, samePlaces, ↓reduceIte, ↓reduceDIte, and_self, behind]
  | case2 tokens behind comma =>
      have here := List.forall_mem_singleton.mp agree
      rw [readArgumentList_step second, readArgumentList_step first, argumentListPlaces, here]
      simp only [behind] at comma
      simp only [comma, ↓reduceIte, ↓reduceDIte, and_self, Bool.false_eq_true]

/-- Arguments in parentheses are the same for readers that agree where these are read. -/
theorem readArguments_congr
    (agree : Agree first second (argumentPlaces first tokens)) :
    readArguments second tokens = readArguments first tokens ∧
      argumentPlaces second tokens = argumentPlaces first tokens := by
  unfold readArguments argumentPlaces at *
  split
  · exact ⟨rfl, rfl⟩
  · next notClosed =>
      rw [if_neg notClosed] at agree
      exact readArgumentList_congr agree

/-- Entries are the same for readers that agree where these are read. -/
theorem readEntries_congr
    (agree : Agree first second (entryPlaces first tokens)) :
    readEntries second tokens = readEntries first tokens ∧
      entryPlaces second tokens = entryPlaces first tokens := by
  fun_induction entryPlaces first tokens with
  | case1 tokens ended =>
      rw [readEntries_step second, readEntries_step first, entryPlaces]
      rcases Bool.or_eq_true_iff.mp ended with empty | closed
      · simp [empty]
      · simp [closed]
  | case2 tokens goesOn behind comma hypothesis =>
      obtain ⟨here, later⟩ := agree_cons.mp agree
      obtain ⟨same, samePlaces⟩ := hypothesis later
      rw [readEntries_step second, readEntries_step first, entryPlaces, here]
      rw [Bool.not_eq_true, Bool.or_eq_false_iff] at goesOn
      simp only [behind] at comma same samePlaces
      simp only [goesOn, comma, same, samePlaces, ↓reduceIte, ↓reduceDIte, and_self, behind,
        Bool.or_self, Bool.false_eq_true]
  | case3 tokens goesOn behind comma =>
      have here := List.forall_mem_singleton.mp agree
      rw [readEntries_step second, readEntries_step first, entryPlaces, here]
      rw [Bool.not_eq_true, Bool.or_eq_false_iff] at goesOn
      simp only [behind] at comma
      simp only [goesOn, comma, ↓reduceIte, ↓reduceDIte, and_self, Bool.or_self,
        Bool.false_eq_true]

/-- A block is the same for readers that agree where its entries are read. -/
theorem readBlock?_congr
    (agree : Agree first second (blockPlaces first tokens)) :
    readBlock? second tokens = readBlock? first tokens ∧
      blockPlaces second tokens = blockPlaces first tokens := by
  unfold readBlock? blockPlaces at *
  split
  · next opens =>
      rw [if_pos opens] at agree
      obtain ⟨same, samePlaces⟩ := readEntries_congr agree
      exact ⟨by rw [same], samePlaces⟩
  · exact ⟨rfl, rfl⟩

/-- Arguments that may be absent are the same for readers that agree where they are read. -/
theorem readOptionalArguments_congr
    (agree : Agree first second (optionalArgumentPlaces first tokens)) :
    readOptionalArguments second tokens = readOptionalArguments first tokens ∧
      optionalArgumentPlaces second tokens = optionalArgumentPlaces first tokens := by
  unfold readOptionalArguments optionalArgumentPlaces at *
  split
  · next opens =>
      rw [if_pos opens] at agree
      exact readArguments_congr agree
  · exact ⟨rfl, rfl⟩

/-- A creation is the same for readers that agree where its arguments and entries are read. -/
theorem readCreation_congr
    (agree : Agree first second (creationPlaces first tokens)) :
    readCreation second tokens = readCreation first tokens ∧
      creationPlaces second tokens = creationPlaces first tokens := by
  unfold readCreation creationPlaces at *
  simp only at agree ⊢
  split
  · next call =>
      rw [if_pos call] at agree
      obtain ⟨inArguments, inBlock⟩ := agree_append.mp agree
      obtain ⟨same, samePlaces⟩ := readArguments_congr inArguments
      obtain ⟨sameBlock, sameBlockPlaces⟩ := readBlock?_congr inBlock
      rw [same, samePlaces, sameBlock, sameBlockPlaces]
      exact ⟨rfl, rfl⟩
  · next noCall =>
      rw [if_neg noCall] at agree
      split
      · exact ⟨rfl, rfl⟩
      · next noMark =>
          rw [if_neg noMark] at agree
          rcases declared : readDeclaredType tokens.tail with ⟨type, rest⟩
          rw [declared] at agree
          cases type with
          | malformed | array => exact ⟨rfl, rfl⟩
          | named type =>
              obtain ⟨inArguments, inBlock⟩ := agree_append.mp agree
              obtain ⟨same, samePlaces⟩ := readOptionalArguments_congr inArguments
              obtain ⟨sameBlock, sameBlockPlaces⟩ := readBlock?_congr inBlock
              simp only [same, samePlaces, sameBlock, sameBlockPlaces, and_self]

/-- A chain is the same for readers that agree where the arguments of its calls are read. -/
theorem readChain_congr
    (agree : Agree first second (chainPlaces first tokens)) :
    (∀ start last, readChain second start last tokens = readChain first start last tokens) ∧
      chainPlaces second tokens = chainPlaces first tokens := by
  fun_induction chainPlaces first tokens with
  | case1 tokens member hypothesis =>
      obtain ⟨same, samePlaces⟩ := hypothesis agree
      refine ⟨fun start last => ?_, ?_⟩
      · rw [readChain_step second, readChain_step first, if_pos member, if_pos member, same]
      · rw [chainPlaces, dif_pos member, samePlaces]
  | case2 tokens noMember call hypothesis =>
      obtain ⟨inArguments, later⟩ := agree_append.mp agree
      obtain ⟨sameArguments, sameArgumentPlaces⟩ := readArguments_congr inArguments
      obtain ⟨same, samePlaces⟩ := hypothesis later
      refine ⟨fun start last => ?_, ?_⟩
      · rw [readChain_step second, readChain_step first, if_neg noMember, if_neg noMember,
          if_pos call, if_pos call, sameArguments]
        exact same start _
      · rw [chainPlaces, dif_neg noMember, dif_pos call, sameArguments, sameArgumentPlaces,
          samePlaces]
  | case3 tokens noMember noCall access hypothesis =>
      obtain ⟨same, samePlaces⟩ := hypothesis agree
      refine ⟨fun start last => ?_, ?_⟩
      · rw [readChain_step second, readChain_step first, if_neg noMember, if_neg noMember,
          if_neg noCall, if_neg noCall, if_pos access, if_pos access, same]
      · rw [chainPlaces, dif_neg noMember, dif_neg noCall, dif_pos access, samePlaces]
  | case4 tokens noMember noCall noAccess =>
      refine ⟨fun start last => ?_, ?_⟩
      · rw [readChain_step second, readChain_step first, if_neg noMember, if_neg noMember,
          if_neg noCall, if_neg noCall, if_neg noAccess, if_neg noAccess]
      · rw [chainPlaces, dif_neg noMember, dif_neg noCall, dif_neg noAccess]

/-- What begins with a word is the same for readers that agree where it asks them. -/
theorem readWord_congr
    {word : String}
    (agree : Agree first second (wordPlaces first word tokens)) :
    readWord second word tokens = readWord first word tokens ∧
      wordPlaces second word tokens = wordPlaces first word tokens := by
  unfold readWord wordPlaces at *
  by_cases creates : word = "new"
  · rw [if_pos creates] at agree
    obtain ⟨same, samePlaces⟩ := readCreation_congr agree
    simp only [creates, ↓reduceIte, same, samePlaces, and_self]
  · rw [if_neg creates] at agree
    by_cases chained : beginsChain word = true
    · rw [if_pos chained] at agree
      obtain ⟨same, samePlaces⟩ := readChain_congr agree
      simp only [creates, chained, ↓reduceIte, same, samePlaces, and_self]
    · simp only [creates, chained, ↓reduceIte, and_self, Bool.false_eq_true]

/-- An expression without operators is the same for readers that agree where it asks them. -/
theorem readPrimary_congr
    (agree : Agree first second (primaryPlaces first tokens)) :
    readPrimary second tokens = readPrimary first tokens ∧
      primaryPlaces second tokens = primaryPlaces first tokens := by
  unfold readPrimary primaryPlaces at *
  cases tokens with
  | nil => exact ⟨rfl, rfl⟩
  | cons token rest =>
      cases kind : token.kind with
      | identifier word =>
          simp only [kind] at agree ⊢
          exact readWord_congr agree
      | punctuator mark =>
          simp only [kind] at agree ⊢
          by_cases brace : mark = .openBrace
          · subst brace
            obtain ⟨same, samePlaces⟩ := readEntries_congr agree
            simp only [same, samePlaces, and_self]
          · cases mark <;> first | exact ⟨rfl, rfl⟩ | exact absurd rfl brace
      | number | string | character | interpolated | unknown =>
          simp only [kind, and_self]

/-- An expression is the same for readers that agree where it asks them. -/
theorem readOperation_congr
    (agree : Agree first second (operationPlaces first tokens)) :
    readOperation second tokens = readOperation first tokens ∧
      operationPlaces second tokens = operationPlaces first tokens := by
  obtain ⟨inPrimary, assigned⟩ := agree_append.mp agree
  obtain ⟨same, samePlaces⟩ := readPrimary_congr inPrimary
  unfold readOperation operationPlaces
  rw [same, samePlaces]
  refine ⟨?_, rfl⟩
  rcases read : readPrimary first tokens with ⟨left, behind⟩
  rw [read, assignedPlaces] at assigned
  simp only at assigned ⊢
  split
  · next assigns =>
      rw [if_pos assigns] at assigned
      rw [List.forall_mem_singleton.mp assigned]
  · rfl

end Agreement

end InitializerJson
