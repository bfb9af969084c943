import InitializerJson.Proofs.Expression.InnerPlaces

namespace InitializerJson

open Lexical

/-!
# Counting open expressions

The room of a reader is what is left below the nesting limit.  Here the reading is
described with a counter of the expressions that are open: the counter goes up
when an expression opens, passes through the readings of all inner ones, and goes
down when it closes; at the limit an expression is passed over.  Read in this way,
every expression comes out as the reader with the room that is left gives it, and
the counter comes out where it was.
-/

/-- A number of open expressions, with the highest number that has been reached. -/
structure DepthCounter where
  depth : Nat
  peak : Nat
  deriving Repr, DecidableEq

namespace DepthCounter

/-- No expression is open yet. -/
def start : DepthCounter where
  depth := 0
  peak := 0

/-- The counter with one more expression open. -/
def enter
    (counter : DepthCounter) :
    DepthCounter where
  depth :=
    counter.depth + 1
  peak :=
    max counter.peak (counter.depth + 1)

/-- The counter with one expression less open. -/
def leave
    (counter : DepthCounter) :
    DepthCounter where
  depth :=
    counter.depth - 1
  peak :=
    counter.peak

/-- One run of the counter ends where it began, and never passes the nesting limit. -/
structure Returns
    (before after : DepthCounter) :
    Prop where
  depth : after.depth = before.depth
  peak : after.peak ≤ max before.peak nestingLimit

/-- A counter that stays as it is returns. -/
theorem Returns.refl
    (counter : DepthCounter) :
    counter.Returns counter where
  depth :=
    rfl
  peak :=
    Nat.le_max_left _ _

/-- Two runs of the counter, one after the other, return together. -/
theorem Returns.trans
    {first second third : DepthCounter}
    (earlier : first.Returns second)
    (later : second.Returns third) :
    first.Returns third where
  depth :=
    later.depth.trans earlier.depth
  peak := by
    have earlierPeak := earlier.peak
    have laterPeak := later.peak
    omega

/-- What returns inside an expression that opened below the limit returns with it closed. -/
theorem Returns.of_enter
    {counter after : DepthCounter}
    (below : counter.depth < nestingLimit)
    (inside : counter.enter.Returns after) :
    counter.Returns after.leave where
  depth := by
    simp only [leave, inside.depth, enter, Nat.add_sub_cancel]
  peak := by
    have insidePeak := inside.peak
    simp only [enter, leave] at insidePeak ⊢
    omega

end DepthCounter

mutual

/-- Some tokens read as an expression, which takes the counter from one state to another. -/
inductive ReadsCounting :
    DepthCounter → List Token → Expression × List Token → DepthCounter → Prop where
  /-- At the limit an expression is passed over. -/
  | passed
      {counter : DepthCounter}
      {tokens : List Token}
      (full : nestingLimit ≤ counter.depth) :
      ReadsCounting counter tokens (passExpression tokens) counter
  /-- Below the limit it is opened, all inner expressions are read, and it is closed. -/
  | opened
      {counter after : DepthCounter}
      {tokens : List Token}
      {inner : Reader Expression}
      (below : counter.depth < nestingLimit)
      (inside : ReadsEachCounting inner counter.enter (operationPlaces inner tokens) after) :
      ReadsCounting counter tokens (readOperation inner tokens) after.leave

/-- What a reader answers at some places is read there, with one counter passed along. -/
inductive ReadsEachCounting :
    Reader Expression → DepthCounter → List (List Token) → DepthCounter → Prop where
  | nil
      {inner : Reader Expression}
      {counter : DepthCounter} :
      ReadsEachCounting inner counter [] counter
  | cons
      {inner : Reader Expression}
      {counter between after : DepthCounter}
      {place : List Token}
      {places : List (List Token)}
      (first : ReadsCounting counter place (inner.read place) between)
      (others : ReadsEachCounting inner between places after) :
      ReadsEachCounting inner counter (place :: places) after

end

/-- The reader of expressions inside a given number of open ones. -/
def readerInside
    (depth : Nat) :
    Reader Expression :=
  expressionReader (nestingLimit - depth)

/-- At the limit every expression is passed over. -/
theorem read_readerInside_of_full
    {depth : Nat}
    (full : nestingLimit ≤ depth)
    (tokens : List Token) :
    (readerInside depth).read tokens = passExpression tokens := by
  rw [readerInside, Nat.sub_eq_zero_of_le full]
  rfl

/-- Below the limit an expression is read with one more open. -/
theorem read_readerInside_of_below
    {depth : Nat}
    (below : depth < nestingLimit)
    (tokens : List Token) :
    (readerInside depth).read tokens = readOperation (readerInside (depth + 1)) tokens := by
  have room : nestingLimit - depth = nestingLimit - (depth + 1) + 1 := by
    omega
  rw [readerInside, room]
  rfl

mutual

/-- What is read with the counter is what the reader at its depth gives, and it returns. -/
theorem ReadsCounting.eq_read :
    ∀ {counter after : DepthCounter} {tokens : List Token} {result : Expression × List Token},
      ReadsCounting counter tokens result after →
        result = (readerInside counter.depth).read tokens ∧ counter.Returns after
  | counter, _, tokens, _, .passed full =>
      ⟨(read_readerInside_of_full full tokens).symm, .refl counter⟩
  | _, _, tokens, _, .opened below inside => by
      obtain ⟨agree, returns⟩ := inside.agree
      rw [read_readerInside_of_below below]
      exact ⟨(readOperation_congr agree).1.symm, returns.of_enter below⟩

/-- Where inner expressions are read one by one, all of them are read at one depth. -/
theorem ReadsEachCounting.agree :
    ∀ {inner : Reader Expression} {counter after : DepthCounter} {places : List (List Token)},
      ReadsEachCounting inner counter places after →
        Agree inner (readerInside counter.depth) places ∧ counter.Returns after
  | _, counter, _, _, .nil => ⟨List.forall_mem_nil _, .refl counter⟩
  | _, _, _, _, .cons first others => by
      obtain ⟨here, returns⟩ := first.eq_read
      obtain ⟨later, returnsAgain⟩ := others.agree
      rw [returns.depth] at later
      exact ⟨agree_cons.mpr ⟨here.symm, later⟩, returns.trans returnsAgain⟩

end

/-- A creation whose parts are read with the counter is the one read without it. -/
theorem ReadsEachCounting.readCreation_eq
    {inner : Reader Expression}
    {counter after : DepthCounter}
    {tokens : List Token}
    (reads : ReadsEachCounting inner counter (creationPlaces inner tokens) after) :
    readCreation inner tokens = readCreation (readerInside counter.depth) tokens ∧
      counter.Returns after := by
  obtain ⟨agree, returns⟩ := reads.agree
  exact ⟨(readCreation_congr agree).1.symm, returns⟩

/-- Every expression can be read with the counter, from every depth on. -/
theorem exists_readsCounting
    (counter : DepthCounter)
    (tokens : List Token) :
    ∃ after, ReadsCounting counter tokens ((readerInside counter.depth).read tokens) after := by
  induction room : nestingLimit - counter.depth generalizing counter tokens with
  | zero =>
      have full : nestingLimit ≤ counter.depth := by
        omega
      rw [read_readerInside_of_full full]
      exact ⟨counter, .passed full⟩
  | succ room hypothesis =>
      have below : counter.depth < nestingLimit := by
        omega
      have each : ∀ (places : List (List Token)) (entered : DepthCounter),
          entered.depth = counter.depth + 1 →
            ∃ after, ReadsEachCounting (readerInside (counter.depth + 1)) entered places after := by
        intro places
        induction places with
        | nil => exact fun entered _ => ⟨entered, .nil⟩
        | cons place places othersRead =>
            intro entered isEntered
            obtain ⟨between, first⟩ := hypothesis entered place (by omega)
            rw [isEntered] at first
            obtain ⟨after, others⟩ := othersRead between (first.eq_read.2.depth.trans isEntered)
            exact ⟨after, .cons first others⟩
      obtain ⟨after, inside⟩ := each _ counter.enter rfl
      rw [read_readerInside_of_below below]
      exact ⟨after.leave, .opened below inside⟩

end InitializerJson
