import InitializerJson.Proofs.Expression.Groups
import InitializerJson.Site
import Mathlib.Data.List.Induction

namespace InitializerJson.Site

open Lexical

/-!
# Open brackets

The innermost bracket that is open at a place is found from behind, with a counter for the
groups on the way.  A reader that goes over the tokens from the left keeps the open brackets
on a stack instead.  Both agree however the brackets stand: a count of some groups leads to
the bracket that lies that deep on the stack, since a closing bracket takes one off the stack
and adds one to the count.
-/

/-! ## A stack of places -/

/--
The places of the open brackets, innermost first, behind one more token: an opening bracket is
put on top, and a closing one takes the top away, if there is one.
-/
def openBehind
    (place : Nat)
    (token : Token)
    (stack : List Nat) :
    List Nat :=
  if token.isOpener then
    place :: stack
  else if token.isCloser then
    stack.tail
  else
    stack

/-- The places of the open brackets behind tokens that are read from a place on. -/
def openFrom
    (place : Nat)
    (stack : List Nat) :
    List Token → List Nat
  | [] => stack
  | token :: rest => openFrom (place + 1) (openBehind place token stack) rest

/-- The places of the brackets that are open behind some tokens, innermost first. -/
def openPlaces
    (tokens : List Token) :
    List Nat :=
  openFrom 0 [] tokens

/-- Reading one more token changes the stack that the tokens before it have left. -/
theorem openFrom_concat
    (place : Nat)
    (stack : List Nat)
    (tokens : List Token)
    (token : Token) :
    openFrom place stack (tokens ++ [token]) =
      openBehind (place + tokens.length) token (openFrom place stack tokens) := by
  induction tokens generalizing place stack with
  | nil => rfl
  | cons first rest hypothesis =>
      rw [List.cons_append, openFrom, hypothesis, List.length_cons, openFrom,
        Nat.add_right_comm, Nat.add_assoc]

/-- The open brackets behind one more token come from those before it. -/
theorem openPlaces_concat
    (tokens : List Token)
    (token : Token) :
    openPlaces (tokens ++ [token]) = openBehind tokens.length token (openPlaces tokens) := by
  rw [openPlaces, openFrom_concat, Nat.zero_add, openPlaces]

/-- Only places that have been passed are on the stack. -/
theorem lt_length_of_mem_openPlaces
    {tokens : List Token}
    {place : Nat}
    (isOpen : place ∈ openPlaces tokens) :
    place < tokens.length := by
  induction tokens using List.reverseRecOn with
  | nil => cases isOpen
  | append_singleton tokens token hypothesis =>
      rw [openPlaces_concat, openBehind] at isOpen
      rw [List.length_append, List.length_singleton]
      split at isOpen
      · rcases List.mem_cons.mp isOpen with rfl | before
        · exact Nat.lt_succ_self _
        · exact Nat.lt_succ_of_lt (hypothesis before)
      · split at isOpen
        · exact Nat.lt_succ_of_lt (hypothesis (List.mem_of_mem_tail isOpen))
        · exact Nat.lt_succ_of_lt (hypothesis isOpen)

/--
Below a bracket on the stack lie the brackets that are open in front of it: those that
were on the stack when it was put there.
-/
theorem drop_openPlaces
    {tokens : List Token}
    {count place : Nat}
    (found : (openPlaces tokens)[count]? = some place) :
    (openPlaces tokens).drop (count + 1) = openPlaces (tokens.take place) := by
  induction tokens using List.reverseRecOn generalizing count with
  | nil => cases found
  | append_singleton tokens token hypothesis =>
      -- A bracket from before the last token stands on the stack before it as well.
      have earlier {depth : Nat} (before : (openPlaces tokens)[depth]? = some place) :
          (openPlaces tokens).drop (depth + 1) =
            openPlaces ((tokens ++ [token]).take place) := by
        have passed := lt_length_of_mem_openPlaces (List.mem_of_getElem? before)
        rw [hypothesis before, List.take_append_of_le_length (Nat.le_of_lt passed)]
      rw [openPlaces_concat, openBehind] at found ⊢
      by_cases opens : token.isOpener = true
      · rw [if_pos opens] at found ⊢
        cases count with
        | zero =>
            obtain rfl : tokens.length = place := by
              simpa using found
            rw [List.take_left, List.drop_one, List.tail_cons]
        | succ depth => exact earlier (by simpa using found)
      · rw [if_neg opens] at found ⊢
        by_cases closes : token.isCloser = true
        · rw [if_pos closes] at found ⊢
          rw [List.drop_tail]
          exact earlier (by simpa using found)
        · rw [if_neg closes] at found ⊢
          exact earlier found

/-! ## The bracket that is found from behind -/

/-- The token at a place, with the tokens before it, the nearest one first. -/
def tokenAt?
    (tokens : List Token)
    (place : Nat) :
    Option (Token × List Token) :=
  tokens[place]?.map fun token => (token, (tokens.take place).reverse)

/-- A token keeps its place and the tokens before it where others follow. -/
theorem tokenAt?_append
    {tokens : List Token}
    {place : Nat}
    (within : place < tokens.length)
    (more : List Token) :
    tokenAt? (tokens ++ more) place = tokenAt? tokens place := by
  rw [tokenAt?, tokenAt?, List.getElem?_append_left within,
    List.take_append_of_le_length (Nat.le_of_lt within)]

/-- What is found on the stack is the same token where others follow. -/
theorem bind_tokenAt?_append
    (tokens more : List Token)
    (depth : Nat) :
    (openPlaces tokens)[depth]?.bind (tokenAt? (tokens ++ more)) =
      (openPlaces tokens)[depth]?.bind (tokenAt? tokens) := by
  cases found : (openPlaces tokens)[depth]? with
  | none => rfl
  | some place =>
      have passed := lt_length_of_mem_openPlaces (List.mem_of_getElem? found)
      rw [Option.bind_some, Option.bind_some, tokenAt?_append passed]

/--
Behind the groups that are counted stands the bracket that lies under as many others on the
stack.  Each token does to the count the opposite of what it does to the stack.
-/
theorem enclosingOpener?_reverse
    (depth : Nat)
    (tokens : List Token) :
    enclosingOpener? depth tokens.reverse =
      (openPlaces tokens)[depth]?.bind (tokenAt? tokens) := by
  induction tokens using List.reverseRecOn generalizing depth with
  | nil => rfl
  | append_singleton tokens token hypothesis =>
      rw [List.reverse_concat, openPlaces_concat, openBehind]
      by_cases closes : token.isCloser = true
      · have notOpener := isOpener_of_isCloser closes
        simp only [enclosingOpener?, closes, notOpener, Bool.false_eq_true, ↓reduceIte]
        rw [hypothesis, List.getElem?_tail, bind_tokenAt?_append]
      · by_cases opens : token.isOpener = true
        · cases depth with
          | zero =>
              simp only [enclosingOpener?, closes, opens, Bool.false_eq_true, ↓reduceIte]
              rw [List.getElem?_cons_zero, Option.bind_some, tokenAt?,
                List.getElem?_concat_length, List.take_left, Option.map_some]
          | succ depth =>
              simp only [enclosingOpener?, closes, opens, Bool.false_eq_true, ↓reduceIte]
              rw [hypothesis, List.getElem?_cons_succ, bind_tokenAt?_append]
        · simp only [enclosingOpener?, closes, opens, Bool.false_eq_true, ↓reduceIte]
          rw [hypothesis, bind_tokenAt?_append]

/-! ## Going outward -/

/-- The place of the innermost bracket that is open in front of a place. -/
def enclosingPlace?
    (tokens : List Token)
    (place : Nat) :
    Option Nat :=
  (enclosingOpener? 0 (tokens.take place).reverse).map fun found => found.2.length

/-- The place that is reached by going some times to the enclosing bracket. -/
def outward?
    (tokens : List Token)
    (place : Nat) :
    Nat → Option Nat
  | 0 => some place
  | count + 1 => (outward? tokens place count).bind (enclosingPlace? tokens)

/-- The enclosing bracket is the top of the stack. -/
theorem enclosingPlace?_eq_head?
    (tokens : List Token)
    (place : Nat) :
    enclosingPlace? tokens place = (openPlaces (tokens.take place)).head? := by
  rw [enclosingPlace?, enclosingOpener?_reverse, ← List.head?_eq_getElem?]
  cases top : (openPlaces (tokens.take place)).head? with
  | none => rfl
  | some opener =>
      have passed := lt_length_of_mem_openPlaces (List.mem_of_head? top)
      rw [Option.bind_some, tokenAt?, List.getElem?_eq_getElem passed, Option.map_some,
        Option.map_some, List.length_reverse, List.length_take_of_le (Nat.le_of_lt passed)]

/--
However the brackets of a source stand, the enclosing bracket at a place is the top of the
stack of those that are open in front of it, and the scan from behind ends at the token there,
with the tokens before it.  Going on from each bracket that is found leads through the rest of
the stack, one bracket after the other.
-/
theorem outward?_eq_getElem?_openPlaces
    (tokens : List Token)
    (place : Nat) :
    enclosingPlace? tokens place = (openPlaces (tokens.take place)).head? ∧
      enclosingOpener? 0 (tokens.take place).reverse =
        (enclosingPlace? tokens place).bind (tokenAt? tokens) ∧
      ∀ count, outward? tokens place (count + 1) = (openPlaces (tokens.take place))[count]? := by
  refine ⟨enclosingPlace?_eq_head? tokens place, ?_, fun count => ?_⟩
  · have continued := bind_tokenAt?_append (tokens.take place) (tokens.drop place) 0
    rw [List.take_append_drop] at continued
    rw [enclosingPlace?_eq_head?, List.head?_eq_getElem?, continued, enclosingOpener?_reverse]
  · induction count with
    | zero => rw [outward?, outward?, Option.bind_some, enclosingPlace?_eq_head?,
        List.head?_eq_getElem?]
    | succ count hypothesis =>
        rw [outward?, hypothesis]
        cases found : (openPlaces (tokens.take place))[count]? with
        | none =>
            have exhausted := List.getElem?_eq_none_iff.mp found
            rw [Option.bind_none, List.getElem?_eq_none (Nat.le_succ_of_le exhausted)]
        | some opener =>
            have passed := lt_length_of_mem_openPlaces (List.mem_of_getElem? found)
            have within : opener ≤ place :=
              Nat.le_trans (Nat.le_of_lt passed) (List.length_take_le place tokens)
            have below := drop_openPlaces found
            rw [List.take_take, Nat.min_eq_left within] at below
            rw [Option.bind_some, enclosingPlace?_eq_head?, ← below, List.head?_drop]

/-- Brackets close each other whatever their kinds, and a surplus one closes nothing. -/
example :
    openPlaces
        ([.closeBrace, .openParenthesis, .openBracket, .closeBrace, .openBrace].map fun mark =>
          ⟨.punctuator mark, [], []⟩) =
      [4, 1] := by
  decide

end InitializerJson.Site
