import InitializerJson.Proofs.Expression.InnerPlaces
import InitializerJson.Proofs.Expression.NestedBrackets

namespace InitializerJson

open Lexical

/-!
# How far an expression reaches

An expression that is read part by part ends where it ends when it is passed over as a
whole: at the next delimiter outside the groups.  For this its brackets are nested by
kind, no semicolon stands inside them, and the types behind `new` hold no delimiter
outside their brackets.
-/

/-- Tokens in which an expression that is read ends where one that is passed over does. -/
structure IsOrderly
    (tokens : List Token) :
    Prop where
  nested : ∃ due, Nests due tokens
  /-- Behind a `new` no delimiter stands in the type outside its brackets. -/
  types : ∀ place, place <:+ tokens → firstWord? place = some "new" →
    fromDelimiter 0 (readDeclaredType place.tail).2 = fromDelimiter 0 place.tail

/-- A reader ends at the next delimiter outside the groups. -/
def EndsAtDelimiter
    (reader : Reader Expression) :
    Prop :=
  ∀ tokens, IsOrderly tokens → (reader.read tokens).2 = fromDelimiter 0 tokens

/-- What stands behind orderly tokens is orderly. -/
theorem IsOrderly.suffix
    {tokens place : List Token}
    (orderly : IsOrderly tokens)
    (suffix : place <:+ tokens) :
    IsOrderly place where
  nested := by
    obtain ⟨due, nests⟩ := orderly.nested
    exact nests.exists_of_suffix suffix
  types := fun inner within => orderly.types inner (within.trans suffix)

/-- A mark and a word behind it are passed over. -/
theorem fromDelimiter_behind_word
    {mark : Punctuator}
    {tokens : List Token}
    (starts : startsWith mark tokens = true)
    (notDelimiter : mark.isDelimiter = false)
    (notOpener : mark.isOpener = false)
    (isWord : (firstWord? tokens.tail).isSome) :
    fromDelimiter 0 tokens.tail.tail = fromDelimiter 0 tokens :=
  (fromDelimiter_tail_of_word isWord).trans
    (fromDelimiter_tail_of_startsWith starts notDelimiter notOpener)

/-- A label is passed over. -/
theorem fromDelimiter_skipLabel
    (tokens : List Token) :
    fromDelimiter 0 (skipLabel tokens) = fromDelimiter 0 tokens := by
  unfold skipLabel
  split
  · next labelled =>
      obtain ⟨isWord, colon⟩ := Bool.and_eq_true_iff.mp labelled
      exact (fromDelimiter_tail_of_startsWith colon rfl rfl).trans
        (fromDelimiter_tail_of_word isWord)
  · rfl

/-- A member and the mark before it are passed over. -/
theorem fromDelimiter_of_startsMember
    {tokens : List Token}
    (member : startsMember tokens = true) :
    fromDelimiter 0 tokens.tail.tail = fromDelimiter 0 tokens := by
  obtain ⟨marked, isWord⟩ := Bool.and_eq_true_iff.mp member
  rcases Bool.or_eq_true_iff.mp marked with dots | scope
  · rcases Bool.or_eq_true_iff.mp dots with dot | conditional
    · exact fromDelimiter_behind_word dot rfl rfl isWord
    · exact fromDelimiter_behind_word conditional rfl rfl isWord
  · exact fromDelimiter_behind_word scope rfl rfl isWord

/-- A group that may be absent is passed over. -/
theorem fromDelimiter_skipOptionalGroup
    {opener : Punctuator}
    (opens : opener.isOpener = true)
    (tokens : List Token) :
    fromDelimiter 0 (skipOptionalGroup opener tokens) = fromDelimiter 0 tokens := by
  unfold skipOptionalGroup
  split
  · next starts => exact fromDelimiter_of_group starts opens
  · rfl

/-! ## Arguments and entries -/

section Lists

variable
  {inner : Reader Expression}
  (ends : EndsAtDelimiter inner)
  {due : List Punctuator}
  {tokens : List Token}

include ends

/-- An argument ends at the next delimiter, behind its label if it has one. -/
theorem read_skipLabel
    (orderly : IsOrderly tokens) :
    (inner.read (skipLabel tokens)).2 = fromDelimiter 0 tokens :=
  (ends _ (orderly.suffix (skipLabel_suffix tokens))).trans (fromDelimiter_skipLabel tokens)

/-- Arguments end behind the parenthesis that is due. -/
theorem readArgumentList_eq_afterGroup
    (nests : Nests (.closeParenthesis :: due) tokens)
    (orderly : IsOrderly tokens) :
    (readArgumentList inner tokens).2 = afterGroup 1 tokens := by
  induction tokens using readArgumentList.induct inner with
  | case1 tokens first behind reading comma hypothesis =>
      obtain ⟨token, rest, front, delimiter⟩ := nests.exists_delimiter
      have atDelimiter := read_skipLabel ends orderly
      rw [reading, front] at atDelimiter
      subst atDelimiter
      rw [readArgumentList_step]
      simp only [reading, comma, if_true]
      rcases delimiter with ⟨_, inside, group⟩ | ⟨isClosing, _⟩
      · have within : token :: rest <:+ tokens := front ▸ fromDelimiter_suffix 0 tokens
        rw [← group]
        exact hypothesis inside (orderly.suffix ((List.suffix_cons token rest).trans within))
      · simp [startsWith, isClosing] at comma
  | case2 tokens first behind reading notComma =>
      obtain ⟨token, rest, front, delimiter⟩ := nests.exists_delimiter
      have atDelimiter := read_skipLabel ends orderly
      rw [reading, front] at atDelimiter
      subst atDelimiter
      rw [readArgumentList_step]
      simp only [reading, notComma]
      rcases delimiter with ⟨isComma, _⟩ | ⟨isClosing, group⟩
      · simp [startsWith, isComma] at notComma
      · simp [skipOptional, startsWith, isClosing, group]

/-- Arguments end behind the parenthesis that is due, also when there are none. -/
theorem readArguments_eq_afterGroup
    (nests : Nests (.closeParenthesis :: due) tokens)
    (orderly : IsOrderly tokens) :
    (readArguments inner tokens).2 = afterGroup 1 tokens := by
  unfold readArguments
  split
  · next closed => exact (afterGroup_tail closed rfl).symm
  · exact readArgumentList_eq_afterGroup ends nests orderly

/-- Entries end behind the brace that is due. -/
theorem readEntries_eq_afterGroup
    (nests : Nests (.closeBrace :: due) tokens)
    (orderly : IsOrderly tokens) :
    (readEntries inner tokens).2 = afterGroup 1 tokens := by
  induction tokens using readEntries.induct inner with
  | case1 tokens empty =>
      rw [List.isEmpty_iff.mp empty] at nests
      cases nests
  | case2 tokens nonempty closed =>
      rw [readEntries_step, if_neg nonempty, if_pos closed]
      exact (afterGroup_tail closed rfl).symm
  | case3 tokens nonempty goesOn first behind reading comma hypothesis =>
      obtain ⟨token, rest, front, delimiter⟩ := nests.exists_delimiter
      have atDelimiter := ends tokens orderly
      rw [reading, front] at atDelimiter
      subst atDelimiter
      rw [readEntries_step, if_neg nonempty, if_neg goesOn]
      simp only [reading, comma, if_true]
      rcases delimiter with ⟨_, inside, group⟩ | ⟨isClosing, _⟩
      · have within : token :: rest <:+ tokens := front ▸ fromDelimiter_suffix 0 tokens
        rw [← group]
        exact hypothesis inside (orderly.suffix ((List.suffix_cons token rest).trans within))
      · simp [startsWith, isClosing] at comma
  | case4 tokens nonempty goesOn first behind reading notComma =>
      obtain ⟨token, rest, front, delimiter⟩ := nests.exists_delimiter
      have atDelimiter := ends tokens orderly
      rw [reading, front] at atDelimiter
      subst atDelimiter
      rw [readEntries_step, if_neg nonempty, if_neg goesOn]
      simp only [reading, notComma]
      rcases delimiter with ⟨isComma, _⟩ | ⟨isClosing, group⟩
      · simp [startsWith, isComma] at notComma
      · simp [skipOptional, startsWith, isClosing, group]

/-- Arguments in their parentheses are passed over. -/
theorem fromDelimiter_readArguments
    (starts : startsWith .openParenthesis tokens = true)
    (orderly : IsOrderly tokens) :
    fromDelimiter 0 (readArguments inner tokens.tail).2 = fromDelimiter 0 tokens := by
  obtain ⟨due, nests⟩ := orderly.nested
  rw [readArguments_eq_afterGroup ends (nests.tail_of_startsWith starts rfl)
    (orderly.suffix (List.tail_suffix tokens)), ← afterGroup_of_startsWith starts rfl]
  exact fromDelimiter_of_group starts rfl

/-- Entries in their braces are passed over. -/
theorem fromDelimiter_readEntries
    (starts : startsWith .openBrace tokens = true)
    (orderly : IsOrderly tokens) :
    fromDelimiter 0 (readEntries inner tokens.tail).2 = fromDelimiter 0 tokens := by
  obtain ⟨due, nests⟩ := orderly.nested
  rw [readEntries_eq_afterGroup ends (nests.tail_of_startsWith starts rfl)
    (orderly.suffix (List.tail_suffix tokens)), ← afterGroup_of_startsWith starts rfl]
  exact fromDelimiter_of_group starts rfl

/-- Arguments that may be absent are passed over. -/
theorem fromDelimiter_readOptionalArguments
    (orderly : IsOrderly tokens) :
    fromDelimiter 0 (readOptionalArguments inner tokens).2 = fromDelimiter 0 tokens := by
  unfold readOptionalArguments
  split
  · next starts => exact fromDelimiter_readArguments ends starts orderly
  · rfl

/-- A block that may be absent is passed over. -/
theorem fromDelimiter_readBlock?
    (orderly : IsOrderly tokens) :
    fromDelimiter 0 (readBlock? inner tokens).2 = fromDelimiter 0 tokens := by
  unfold readBlock?
  split
  · next starts => exact fromDelimiter_readEntries ends starts orderly
  · rfl

end Lists

/-! ## Parts of expressions -/

section Parts

variable
  {inner : Reader Expression}
  (ends : EndsAtDelimiter inner)
  {tokens : List Token}

include ends

/-- A creation is passed over. -/
theorem fromDelimiter_readCreation
    (isNew : firstWord? tokens = some "new")
    (orderly : IsOrderly tokens) :
    fromDelimiter 0 (readCreation inner tokens).2 = fromDelimiter 0 tokens := by
  have behindNew : fromDelimiter 0 tokens.tail = fromDelimiter 0 tokens :=
    fromDelimiter_tail_of_word (by simp [isNew])
  have orderlyTail := orderly.suffix (List.tail_suffix tokens)
  have typed := orderly.types tokens (List.suffix_refl tokens) isNew
  have typeSuffix := readDeclaredType_suffix tokens.tail
  rw [← behindNew]
  unfold readCreation
  simp only
  split
  · next call =>
      have arguments := fromDelimiter_readArguments ends call orderlyTail
      have within := (readArguments_suffix inner tokens.tail.tail).trans
        (List.tail_suffix tokens.tail)
      exact (fromDelimiter_readBlock? ends (orderlyTail.suffix within)).trans arguments
  split
  · next group =>
      refine (fromDelimiter_skipOptionalGroup rfl _).trans ?_
      rcases Bool.or_eq_true_iff.mp group with brace | square
      · exact fromDelimiter_of_group brace rfl
      · exact fromDelimiter_of_group square rfl
  split
  · next rest shape =>
      rw [shape] at typed
      exact typed
  · next rest shape =>
      rw [shape] at typed
      exact (fromDelimiter_skipOptionalGroup rfl rest).trans typed
  · next type rest shape =>
      rw [shape] at typed typeSuffix
      have orderlyRest := orderlyTail.suffix typeSuffix
      have arguments := fromDelimiter_readOptionalArguments ends orderlyRest
      have block := fromDelimiter_readBlock? ends
        (orderlyRest.suffix (readOptionalArguments_suffix inner rest))
      exact block.trans (arguments.trans typed)

/-- A chain is passed over. -/
theorem fromDelimiter_readChain
    (start : List Token)
    (last : ChainEnd)
    (orderly : IsOrderly tokens) :
    fromDelimiter 0 (readChain inner start last tokens).2 = fromDelimiter 0 tokens := by
  induction last, tokens using readChain.induct inner with
  | case1 last tokens member hypothesis =>
      have within := (List.tail_suffix tokens.tail).trans (List.tail_suffix tokens)
      rw [readChain_step, if_pos member]
      exact (hypothesis (orderly.suffix within)).trans (fromDelimiter_of_startsMember member)
  | case2 last tokens notMember call arguments behind reading hypothesis =>
      have passed := fromDelimiter_readArguments ends call orderly
      have within := (readArguments_suffix inner tokens.tail).trans (List.tail_suffix tokens)
      rw [reading] at passed within
      rw [readChain_step, if_neg notMember, if_pos call]
      simp only [reading]
      exact (hypothesis (orderly.suffix within)).trans passed
  | case3 last tokens notMember notCall access hypothesis =>
      rw [readChain_step, if_neg notMember, if_neg notCall, if_pos access]
      exact (hypothesis (orderly.suffix (afterGroup_suffix 0 tokens))).trans
        (fromDelimiter_of_group access rfl)
  | case4 last tokens notMember notCall notAccess =>
      rw [readChain_step, if_neg notMember, if_neg notCall, if_neg notAccess]

omit ends in
/-- One token or group is passed over. -/
theorem fromDelimiter_readUnsupported
    (tokens : List Token) :
    fromDelimiter 0 (readUnsupported tokens).2 = fromDelimiter 0 tokens := by
  unfold readUnsupported
  split
  · next opens => exact fromDelimiter_afterGroup opens
  · next notOpener =>
      split
      · rfl
      · next goesOn =>
          exact fromDelimiter_tail (Bool.eq_false_iff.mpr goesOn) (Bool.eq_false_iff.mpr notOpener)

omit ends in
/-- What begins with a minus sign is passed over. -/
theorem fromDelimiter_readNegative
    (isMinus : startsWith .minus tokens = true) :
    fromDelimiter 0 (readNegative tokens).2 = fromDelimiter 0 tokens := by
  unfold readNegative
  split
  · exact fromDelimiter_readUnsupported tokens
  · next token rest shape =>
      split
      · next text isNumber =>
          have passed : fromDelimiter 0 rest = fromDelimiter 0 (token :: rest) := by
            simp [fromDelimiter, Token.isDelimiter, Token.isOpener, Token.punctuator?, isNumber]
          rw [numberUpTo_rest, passed, ← shape]
          exact fromDelimiter_tail_of_startsWith isMinus rfl rfl
      · exact fromDelimiter_readUnsupported tokens

/-- What begins with a word is passed over. -/
theorem fromDelimiter_readWord
    {word : String}
    (isWord : firstWord? tokens = some word)
    (orderly : IsOrderly tokens) :
    fromDelimiter 0 (readWord inner word tokens).2 = fromDelimiter 0 tokens := by
  have passed : fromDelimiter 0 tokens.tail = fromDelimiter 0 tokens :=
    fromDelimiter_tail_of_word (by simp [isWord])
  unfold readWord
  split
  · exact passed
  split
  · exact passed
  split
  · exact passed
  split
  · exact passed
  split
  · next isNew =>
      subst isNew
      exact fromDelimiter_readCreation ends isWord orderly
  split
  · have orderlyTail := orderly.suffix (List.tail_suffix tokens)
    exact (fromDelimiter_readChain ends tokens .member orderlyTail).trans passed
  · exact fromDelimiter_readUnsupported tokens

/-- An expression without operators is passed over. -/
theorem fromDelimiter_readPrimary
    (orderly : IsOrderly tokens) :
    fromDelimiter 0 (readPrimary inner tokens).2 = fromDelimiter 0 tokens := by
  cases tokens with
  | nil => rfl
  | cons token rest =>
      rcases token with ⟨kind, gap, lexeme⟩
      cases kind with
      | number text =>
          change fromDelimiter 0 (numberUpTo text false _ rest).2 = _
          rw [numberUpTo_rest]
          rfl
      | string value => rfl
      | character text => rfl
      | identifier word => exact fromDelimiter_readWord ends rfl orderly
      | interpolated text => exact fromDelimiter_readUnsupported _
      | unknown character => exact fromDelimiter_readUnsupported _
      | punctuator mark =>
          cases mark with
          | minus => exact fromDelimiter_readNegative rfl
          | openBrace => exact fromDelimiter_readEntries ends rfl orderly
          | openBracket => exact fromDelimiter_afterGroup rfl
          | _ => exact fromDelimiter_readUnsupported _

end Parts

/-! ## Whole expressions -/

/-- The reader that passes over every expression ends at the next delimiter. -/
theorem endsAtDelimiter_passingReader :
    EndsAtDelimiter passingReader :=
  fun _ _ => rfl

/-- A reader ends at the next delimiter when its inner reader does. -/
theorem endsAtDelimiter_layeredReader
    {inner : Reader Expression}
    (ends : EndsAtDelimiter inner) :
    EndsAtDelimiter (layeredReader inner) := by
  intro tokens orderly
  have primary := fromDelimiter_readPrimary ends orderly
  have suffix := readPrimary_suffix inner tokens
  change (readOperation inner tokens).2 = fromDelimiter 0 tokens
  unfold readOperation
  rcases read : readPrimary inner tokens with ⟨left, behind⟩
  rw [read] at primary suffix
  simp only
  split
  · next assigned =>
      have sign := (Bool.and_eq_true_iff.mp assigned).1
      have orderlyValue := orderly.suffix ((List.tail_suffix behind).trans suffix)
      exact ((ends behind.tail orderlyValue).trans
        (fromDelimiter_tail_of_startsWith sign rfl rfl)).trans primary
  split
  · next ended => exact (fromDelimiter_of_atExpressionEnd ended).symm.trans primary
  · exact primary

/-- Among orderly tokens every expression ends at the next delimiter, whatever room there is. -/
theorem endsAtDelimiter_expressionReader
    (room : Nat) :
    EndsAtDelimiter (expressionReader room) := by
  induction room with
  | zero => exact endsAtDelimiter_passingReader
  | succ room hypothesis => exact endsAtDelimiter_layeredReader hypothesis

end InitializerJson
